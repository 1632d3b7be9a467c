import EntSchema.Settings.Decoding
import EntSchema.Proofs.SortedEntries
import Mathlib.Data.List.Forall2
import Mathlib.Data.List.Induction
import Mathlib.Data.Option.Basic

/-!
# What a table says about the settings

A settings file need not speak of every setting.  `Said` is what it says, with a hole for each
setting that it leaves out, and `Says` is the grammar: which table says what.  No relation here says
how a table is read.

The main result is `ofTable?_eq_some_iff`: a table gives settings exactly when it says something,
and then they are what it says with the standard values in the holes.  Every setting has a hole of
its own, also the two of the output, of which a table may give either without the other.
-/

namespace EntSchema.Settings

open Toml (Value Table)

/-! ## Values -/

inductive StandsForText : Value → String → Prop
  | text (value : String) : StandsForText (.string value) value

inductive StandsForPath : Value → Path → Prop
  | text (value : String) : StandsForPath (.string value) ⟨value⟩

inductive StandsForBoolean : Value → Bool → Prop
  | boolean (value : Bool) : StandsForBoolean (.boolean value) value

/-- A value has entries: those of a table, or the one that stands for a date or time. -/
inductive HasEntries : Value → Table → Prop
  | table (origin : Toml.Origin) (entries : Table) : HasEntries (.table origin entries) entries
  | datetime (moment : Toml.Moment) :
    HasEntries (.datetime moment) [(datetimeKey, .string moment.text)]

/-- A table gives something under a name, or has nothing there. -/
def Gives {α : Type} (Stands : Value → α → Prop) (table : Table) (name : String)
    (given? : Option α) : Prop :=
  Option.Rel Stands (Entries.get? name table) given?

/-! ## Parts of the settings -/

/-- What is said about where the files go. -/
structure SaidOutput where
  directory? : Option Path
  package? : Option String
  deriving DecidableEq, Repr

/-- The output that comes of what is said, with standard values where nothing is. -/
def SaidOutput.filled (said : SaidOutput) : OutputSettings :=
  ⟨said.directory?.getD OutputSettings.standard.directory,
    said.package?.getD OutputSettings.standard.package⟩

/-- A value says where the files go: a list says it in order, as far as it goes. -/
inductive SaysOutput : Value → SaidOutput → Prop
  | entries {value : Value} {entries : Table} {directory? : Option Path} {package? : Option String}
    (hentries : HasEntries value entries)
    (hothers : othersFit ["dir", "package"] entries = true)
    (hdirectory : Gives StandsForPath entries "dir" directory?)
    (hpackage : Gives StandsForText entries "package" package?) :
    SaysOutput value ⟨directory?, package?⟩
  | nothing (ofTables : Bool) : SaysOutput (.array ofTables []) ⟨none, none⟩
  | directory (ofTables : Bool) (directory : String) :
    SaysOutput (.array ofTables [.string directory]) ⟨some ⟨directory⟩, none⟩
  | both (ofTables : Bool) (directory package : String) (rest : List Value) :
    SaysOutput (.array ofTables (.string directory :: .string package :: rest))
      ⟨some ⟨directory⟩, some package⟩

/-- A value is the override of a type. -/
inductive StandsForOverride : Value → TypeOverride → Prop
  | builder (target : String) : StandsForOverride (.string target) (.builder target)
  | detailed {origin : Toml.Origin} {entries : Table} {target : String} {literal? : Option String}
    (hfits : (Value.table origin entries).fits inOverride = true)
    (htarget : Entries.get? "target" entries = some (.string target))
    (hliteral : Gives StandsForText entries "literal" literal?) :
    StandsForOverride (.table origin entries) (.detailed target literal?)

/-- Overrides in the order of their types; of several for one type the last counts. -/
def inTypeOrder (overrides : List (String × TypeOverride)) : List (String × TypeOverride) :=
  overrides.foldl (fun types (source, override) => Entries.putSorted compare source override types)
    []

/-- A value gives overrides of types, each under the name of its type. -/
inductive StandsForTypes : Value → List (String × TypeOverride) → Prop
  | entries {value : Value} {entries : Table} {overrides : List (String × TypeOverride)}
    (hentries : HasEntries value entries)
    (hoverrides : List.Forall₂ (fun entry override =>
      entry.1 = override.1 ∧ StandsForOverride entry.2 override.2) entries overrides) :
    StandsForTypes value (inTypeOrder overrides)

/-! ## The settings -/

/-- What a source of settings says; what it leaves out is left to others. -/
structure Said where
  schema? : Option Path
  logLevel? : Option String
  goGenerate? : Option Bool
  output : SaidOutput
  types? : Option (List (String × TypeOverride))
  deriving DecidableEq, Repr

/-- A table says something about the settings. -/
structure Says (table : Table) (said : Said) : Prop where
  others : othersFit names table = true
  schema : Gives StandsForPath table "schema" said.schema?
  logLevel : Gives StandsForText table "log_level" said.logLevel?
  goGenerate : Gives StandsForBoolean table "go_generate" said.goGenerate?
  output : ∃ given?, Gives SaysOutput table "output" given? ∧
    said.output = given?.getD ⟨none, none⟩
  types : Gives StandsForTypes table "types" said.types?

/-- The settings that come of what is said, with standard values where nothing is. -/
def Said.filled (said : Said) : Settings where
  schema := said.schema?.getD standard.schema
  logLevel := said.logLevel?.getD standard.logLevel
  goGenerate := said.goGenerate?.getD standard.goGenerate
  output := said.output.filled
  types := said.types?.getD standard.types

/-! ## What the decoder accepts -/

/-- A decoder accepts what stands for something, and gives that. -/
def IsExact {α : Type} (decode : Value → Option α) (Stands : Value → α → Prop) : Prop :=
  ∀ value a, decode value = some a ↔ Stands value a

lemma isExact_text? : IsExact text? StandsForText := by
  intro value a
  constructor
  · intro h
    cases value <;> cases h
    exact .text a
  · rintro ⟨⟩
    rfl

lemma isExact_path? : IsExact path? StandsForPath := by
  intro value a
  constructor
  · intro h
    obtain ⟨text, htext, rfl⟩ := Option.map_eq_some_iff.1 h
    obtain ⟨⟩ := (isExact_text? value text).1 htext
    exact .text text
  · rintro ⟨⟩
    rfl

lemma isExact_boolean? : IsExact boolean? StandsForBoolean := by
  intro value a
  constructor
  · intro h
    cases value <;> cases h
    exact .boolean a
  · rintro ⟨⟩
    rfl

lemma isExact_entries? : IsExact entries? HasEntries := by
  intro value entries
  constructor
  · intro h
    cases value <;> cases h
    · exact .datetime _
    · exact .table _ _
  · rintro (⟨origin, entries⟩ | moment) <;> rfl

/-- A setting is what the table gives, or the standard. -/
lemma setting?_eq_some_iff {α : Type} {decode : Value → Option α} {Stands : Value → α → Prop}
    (hexact : IsExact decode Stands) (standard : α) (name : String) (table : Table) (a : α) :
    setting? decode standard name table = some a ↔
      ∃ given?, Gives Stands table name given? ∧ a = given?.getD standard := by
  unfold setting? Gives
  cases Entries.get? name table with
  | none =>
    constructor
    · intro h
      cases h
      exact ⟨none, .none, rfl⟩
    · rintro ⟨given?, ⟨⟩, rfl⟩
      rfl
  | some value =>
    constructor
    · intro h
      exact ⟨some a, .some ((hexact value a).1 h), rfl⟩
    · rintro ⟨given?, hgiven, rfl⟩
      cases hgiven with
      | some hvalue => exact (hexact value _).2 hvalue

/-- A setting without a standard is there or is left out. -/
lemma setting?_optional_eq_some_iff {α : Type} {decode : Value → Option α}
    {Stands : Value → α → Prop} (hexact : IsExact decode Stands) (name : String) (table : Table)
    (given? : Option α) :
    setting? (fun value => (decode value).map some) none name table = some given? ↔
      Gives Stands table name given? := by
  unfold setting? Gives
  cases Entries.get? name table with
  | none =>
    constructor
    · intro h
      cases h
      exact .none
    · rintro ⟨⟩
      rfl
  | some value =>
    constructor
    · intro h
      obtain ⟨a, hvalue, rfl⟩ := Option.map_eq_some_iff.1 h
      exact .some ((hexact value a).1 hvalue)
    · intro h
      cases h with
      | some hvalue => exact Option.map_eq_some_iff.2 ⟨_, (hexact value _).2 hvalue, rfl⟩

/-! ## The output -/

/-- The directory and the package of named values are looked for apart. -/
lemma output?_eq_some_iff_of_entries {value : Value}
    (hvalue : ∀ ofTables items, value ≠ .array ofTables items) (output : OutputSettings) :
    output? value = some output ↔
      ∃ entries, HasEntries value entries ∧ othersFit ["dir", "package"] entries = true ∧
        ∃ directory? package?, Gives StandsForPath entries "dir" directory? ∧
          Gives StandsForText entries "package" package? ∧
          output = SaidOutput.filled ⟨directory?, package?⟩ := by
  have hopen : output? value = (do
      let table ← entries? value
      if othersFit ["dir", "package"] table then
        return ⟨← setting? path? OutputSettings.standard.directory "dir" table,
          ← setting? text? OutputSettings.standard.package "package" table⟩
      else none) := by
    cases value with
    | array ofTables items => exact absurd rfl (hvalue ofTables items)
    | _ => rfl
  rw [hopen]
  constructor
  · intro h
    obtain ⟨entries, hentries, h⟩ := Option.bind_eq_some_iff.1 h
    split at h
    · rename_i hothers
      obtain ⟨directory, hdirectory, h⟩ := Option.bind_eq_some_iff.1 h
      obtain ⟨package, hpackage, h⟩ := Option.bind_eq_some_iff.1 h
      cases h
      obtain ⟨directory?, hgivesDirectory, rfl⟩ :=
        (setting?_eq_some_iff isExact_path? _ _ _ _).1 hdirectory
      obtain ⟨package?, hgivesPackage, rfl⟩ :=
        (setting?_eq_some_iff isExact_text? _ _ _ _).1 hpackage
      exact ⟨entries, (isExact_entries? _ _).1 hentries, hothers, directory?, package?,
        hgivesDirectory, hgivesPackage, rfl⟩
    · cases h
  · rintro ⟨entries, hentries, hothers, directory?, package?, hdirectory, hpackage, rfl⟩
    refine Option.bind_eq_some_iff.2 ⟨entries, (isExact_entries? _ _).2 hentries, ?_⟩
    rw [if_pos hothers]
    exact Option.bind_eq_some_iff.2 ⟨_,
      (setting?_eq_some_iff isExact_path? _ _ _ _).2 ⟨directory?, hdirectory, rfl⟩,
      Option.bind_eq_some_iff.2 ⟨_,
        (setting?_eq_some_iff isExact_text? _ _ _ _).2 ⟨package?, hpackage, rfl⟩, rfl⟩⟩

lemma isExact_output? :
    IsExact output? fun value output => ∃ said, SaysOutput value said ∧ output = said.filled := by
  intro value output
  constructor
  · intro h
    by_cases hvalue : ∀ ofTables items, value ≠ .array ofTables items
    · obtain ⟨entries, hentries, hothers, directory?, package?, hdirectory, hpackage, rfl⟩ :=
        (output?_eq_some_iff_of_entries hvalue output).1 h
      exact ⟨_, .entries hentries hothers hdirectory hpackage, rfl⟩
    · push Not at hvalue
      obtain ⟨ofTables, items, rfl⟩ := hvalue
      match items with
      | [] =>
        cases h
        exact ⟨_, .nothing ofTables, rfl⟩
      | [directory] =>
        obtain ⟨path, hpath, h⟩ := Option.bind_eq_some_iff.1 h
        cases h
        obtain ⟨text⟩ := (isExact_path? directory path).1 hpath
        exact ⟨_, .directory ofTables text, rfl⟩
      | directory :: package :: rest =>
        obtain ⟨path, hpath, h⟩ := Option.bind_eq_some_iff.1 h
        obtain ⟨name, hname, h⟩ := Option.bind_eq_some_iff.1 h
        cases h
        obtain ⟨text⟩ := (isExact_path? directory path).1 hpath
        obtain ⟨⟩ := (isExact_text? package name).1 hname
        exact ⟨_, .both ofTables text name rest, rfl⟩
  · rintro ⟨said, hsaid, rfl⟩
    cases hsaid with
    | nothing => rfl
    | directory => rfl
    | both => rfl
    | entries hentries hothers hdirectory hpackage =>
      have hvalue : ∀ ofTables items, value ≠ .array ofTables items := by
        rintro ofTables items rfl
        cases hentries
      exact (output?_eq_some_iff_of_entries hvalue _).2
        ⟨_, hentries, hothers, _, _, hdirectory, hpackage, rfl⟩

/-! ## The types -/

lemma isExact_override? : IsExact override? StandsForOverride := by
  intro value override
  constructor
  · intro h
    unfold override? at h
    split at h
    · cases h
      exact .builder _
    · rename_i origin entries
      split at h
      · rename_i hfits
        obtain ⟨named, hnamed, h⟩ := Option.bind_eq_some_iff.1 h
        obtain ⟨target, htarget, h⟩ := Option.bind_eq_some_iff.1 h
        obtain ⟨literal?, hliteral, h⟩ := Option.bind_eq_some_iff.1 h
        cases h
        obtain ⟨⟩ := (isExact_text? named target).1 htarget
        exact .detailed hfits hnamed
          ((setting?_optional_eq_some_iff isExact_text? _ _ _).1 hliteral)
      · cases h
    · cases h
  · rintro (target | ⟨hfits, htarget, hliteral⟩)
    · rfl
    · unfold override?
      dsimp only
      rw [if_pos hfits, htarget,
        (setting?_optional_eq_some_iff isExact_text? _ _ _).2 hliteral]
      rfl

/-- Overrides are read one after another, and each is put at its place. -/
lemma foldlM_override?_eq_some_iff (entries : Table) (types types' : List (String × TypeOverride)) :
    entries.foldlM (fun types (source, value) => do
        return Entries.putSorted compare source (← override? value) types) types = some types' ↔
      ∃ overrides, List.Forall₂ (fun entry override =>
          entry.1 = override.1 ∧ StandsForOverride entry.2 override.2) entries overrides ∧
        types' = overrides.foldl (fun types (source, override) =>
          Entries.putSorted compare source override types) types := by
  induction entries generalizing types with
  | nil =>
    constructor
    · intro h
      cases h
      exact ⟨[], .nil, rfl⟩
    · rintro ⟨overrides, ⟨⟩, rfl⟩
      rfl
  | cons entry rest ih =>
    obtain ⟨source, value⟩ := entry
    rw [List.foldlM_cons]
    constructor
    · intro h
      obtain ⟨put, hput, h⟩ := Option.bind_eq_some_iff.1 h
      obtain ⟨override, hoverride, hput⟩ := Option.bind_eq_some_iff.1 hput
      cases hput
      obtain ⟨overrides, hrest, rfl⟩ := (ih _).1 h
      exact ⟨(source, override) :: overrides,
        .cons ⟨rfl, (isExact_override? value override).1 hoverride⟩ hrest, rfl⟩
    · rintro ⟨all, hall, rfl⟩
      obtain ⟨⟨_, override⟩, overrides, ⟨hsource, hoverride⟩, hrest, rfl⟩ :=
        List.forall₂_cons_left_iff.1 hall
      obtain rfl : source = _ := hsource
      have hput := (isExact_override? value override).2 hoverride
      dsimp only at hput ⊢
      rw [hput]
      exact (ih _).2 ⟨overrides, hrest, rfl⟩

lemma isExact_types? : IsExact types? StandsForTypes := by
  intro value types
  constructor
  · intro h
    obtain ⟨entries, hentries, h⟩ := Option.bind_eq_some_iff.1 h
    obtain ⟨overrides, hoverrides, rfl⟩ := (foldlM_override?_eq_some_iff _ _ _).1 h
    exact .entries ((isExact_entries? _ _).1 hentries) hoverrides
  · rintro ⟨hentries, hoverrides⟩
    exact Option.bind_eq_some_iff.2 ⟨_, (isExact_entries? _ _).2 hentries,
      (foldlM_override?_eq_some_iff _ _ _).2 ⟨_, hoverrides, rfl⟩⟩

/-! ## The table -/

/-- The output is what the table says of it, with standard values in the holes. -/
lemma setting?_output?_eq_some_iff (table : Table) (output : OutputSettings) :
    setting? output? standard.output "output" table = some output ↔
      ∃ said : SaidOutput, (∃ given?, Gives SaysOutput table "output" given? ∧
        said = given?.getD ⟨none, none⟩) ∧ output = said.filled := by
  rw [setting?_eq_some_iff isExact_output?]
  unfold Gives
  constructor
  · rintro ⟨given?, hgiven, rfl⟩
    generalize Entries.get? "output" table = value? at hgiven ⊢
    cases hgiven with
    | none => exact ⟨_, ⟨none, .none, rfl⟩, rfl⟩
    | some hvalue =>
      obtain ⟨said, hsaid, rfl⟩ := hvalue
      exact ⟨said, ⟨some said, .some hsaid, rfl⟩, rfl⟩
  · rintro ⟨_, ⟨given?, hgiven, rfl⟩, rfl⟩
    generalize Entries.get? "output" table = value? at hgiven ⊢
    cases hgiven with
    | none => exact ⟨none, .none, rfl⟩
    | some hvalue => exact ⟨some _, .some ⟨_, hvalue, rfl⟩, rfl⟩

/-- **The grammar of settings.**  A table gives settings when it says something about them, and
they are what it says with standard values in the holes. -/
lemma ofTable?_eq_some_iff (table : Table) (settings : Settings) :
    ofTable? table = some settings ↔ ∃ said, Says table said ∧ settings = said.filled := by
  unfold ofTable?
  constructor
  · intro h
    split at h
    · rename_i hothers
      obtain ⟨schema, hschema, h⟩ := Option.bind_eq_some_iff.1 h
      obtain ⟨logLevel, hlogLevel, h⟩ := Option.bind_eq_some_iff.1 h
      obtain ⟨goGenerate, hgoGenerate, h⟩ := Option.bind_eq_some_iff.1 h
      obtain ⟨output, houtput, h⟩ := Option.bind_eq_some_iff.1 h
      obtain ⟨types, htypes, h⟩ := Option.bind_eq_some_iff.1 h
      cases h
      obtain ⟨schema?, hgivesSchema, rfl⟩ :=
        (setting?_eq_some_iff isExact_path? _ _ _ _).1 hschema
      obtain ⟨logLevel?, hgivesLogLevel, rfl⟩ :=
        (setting?_eq_some_iff isExact_text? _ _ _ _).1 hlogLevel
      obtain ⟨goGenerate?, hgivesGoGenerate, rfl⟩ :=
        (setting?_eq_some_iff isExact_boolean? _ _ _ _).1 hgoGenerate
      obtain ⟨saidOutput, hsaysOutput, rfl⟩ := (setting?_output?_eq_some_iff _ _).1 houtput
      obtain ⟨types?, hgivesTypes, rfl⟩ :=
        (setting?_eq_some_iff isExact_types? _ _ _ _).1 htypes
      exact ⟨⟨schema?, logLevel?, goGenerate?, saidOutput, types?⟩,
        ⟨hothers, hgivesSchema, hgivesLogLevel, hgivesGoGenerate, hsaysOutput, hgivesTypes⟩, rfl⟩
    · cases h
  · rintro ⟨said, ⟨hothers, hschema, hlogLevel, hgoGenerate, houtput, htypes⟩, rfl⟩
    rw [if_pos hothers,
      (setting?_eq_some_iff isExact_path? _ _ _ _).2 ⟨_, hschema, rfl⟩,
      (setting?_eq_some_iff isExact_text? _ _ _ _).2 ⟨_, hlogLevel, rfl⟩,
      (setting?_eq_some_iff isExact_boolean? _ _ _ _).2 ⟨_, hgoGenerate, rfl⟩,
      (setting?_output?_eq_some_iff _ _).2 ⟨_, houtput, rfl⟩,
      (setting?_eq_some_iff isExact_types? _ _ _ _).2 ⟨_, htypes, rfl⟩]
    rfl

/-! ## The text -/

/-- A text says something about the settings. -/
def TextSays (text : String) (said : Said) : Prop :=
  ∃ table, Toml.parse text = some table ∧ Says table said

lemma parse?_eq_some_iff {text : String} {settings : Settings} :
    parse? text = some settings ↔ ∃ said, TextSays text said ∧ settings = said.filled := by
  unfold parse? TextSays
  rw [Option.bind_eq_bind, Option.bind_eq_some_iff]
  constructor
  · rintro ⟨table, htable, hsettings⟩
    obtain ⟨said, htold, rfl⟩ := (ofTable?_eq_some_iff table settings).1 hsettings
    exact ⟨said, ⟨table, htable, htold⟩, rfl⟩
  · rintro ⟨said, ⟨table, htable, htold⟩, rfl⟩
    exact ⟨table, htable, (ofTable?_eq_some_iff table _).2 ⟨said, htold, rfl⟩⟩

/-! ## The order of the types -/

lemma sorted_inTypeOrder (overrides : List (String × TypeOverride)) :
    Entries.Sorted compare (inTypeOrder overrides) := by
  unfold inTypeOrder
  induction overrides using List.reverseRecOn with
  | nil => exact List.Pairwise.nil
  | append_singleton before last ih =>
    rw [List.foldl_append]
    exact Entries.sorted_putSorted _ _ ih

/-- The overrides that a table gives are for different types. -/
lemma Says.nodup_types {table : Table} {said : Said} (h : Says table said) :
    (said.filled.types.map Prod.fst).Nodup := by
  have hsorted : Entries.Sorted compare said.filled.types := by
    have htypes := h.types
    unfold Gives at htypes
    generalize Entries.get? "types" table = value? at htypes
    unfold Said.filled
    generalize said.types? = given? at htypes ⊢
    cases htypes with
    | none => exact List.Pairwise.nil
    | some hvalue =>
      obtain ⟨hentries, hoverrides⟩ := hvalue
      exact sorted_inTypeOrder _
  have hcodes : (said.filled.types.map (id ∘ Prod.fst)).Nodup := by
    refine Entries.nodup_codes (fun a b hab => ?_) hsorted
    rw [show a = b from hab]
    exact Std.ReflCmp.compare_self
  exact hcodes

lemma nodup_types_of_parse? {text : String} {settings : Settings}
    (h : parse? text = some settings) : (settings.types.map Prod.fst).Nodup := by
  obtain ⟨said, ⟨table, -, htold⟩, rfl⟩ := parse?_eq_some_iff.1 h
  exact htold.nodup_types

end EntSchema.Settings
