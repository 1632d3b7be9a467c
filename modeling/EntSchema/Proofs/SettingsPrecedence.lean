import EntSchema.Proofs.CommandRuns
import EntSchema.Proofs.SettingsGrammar
import EntSchema.Settings.Validation

/-!
# Flags over file over standard

A run takes each of its settings from the first source that gives it: the command line, the settings
file, the standard.  `merged` says so setting by setting, with the standard values written out; only
`go generate` is asked for by either source, and only the file speaks of types.

Settings are judged after they are merged.  So what is at fault is told source by source
(`isValid_merged_iff`): what the flags give has to be good, and what the file gives has to be good
where no flag stands in its place.
-/

namespace EntSchema

namespace Settings

/-! ## Merging -/

/-- The settings of a run with some flags, where a file says something. -/
def merged (flags : Overrides) (said : Said) : Settings where
  schema := (flags.schema?.or said.schema?).getD ⟨"prisma/dmmf.json"⟩
  logLevel := (flags.logLevel?.or said.logLevel?).getD "info"
  goGenerate := said.goGenerate?.getD false || flags.goGenerate
  output :=
    ⟨(flags.output?.or said.output.directory?).getD ⟨"ent/schema"⟩,
      (flags.package?.or said.output.package?).getD "schema"⟩
  types := said.types?.getD []

lemma getD_or {α : Type} (first? second? : Option α) (standard : α) :
    (first?.or second?).getD standard = first?.getD (second?.getD standard) := by
  cases first? <;> rfl

/-- Flags are put over what the file says and what it leaves to the standard. -/
lemma apply_filled (flags : Overrides) (said : Said) :
    said.filled.apply flags = merged flags said := by
  unfold merged
  rw [getD_or, getD_or, getD_or, getD_or]
  rfl

/-! ## Judging -/

/-- A directory for the files has a name. -/
def IsDirectory (directory : Path) : Prop := directory.text ≠ ""

/-- A package of the files has a name that can stand in its clause. -/
def IsPackage (package : String) : Prop := Go.isIdentifier package = true

/-- The name of a level of the log. -/
def IsLogLevel (name : String) : Prop := ∃ level : Log.Level, level.name = name

/-- An override is for a type, and names a builder. -/
def AreTypes (types : List (String × TypeOverride)) : Prop :=
  ∀ entry ∈ types, entry.1 ≠ "" ∧ entry.2.target ≠ ""

/-- Settings that a run takes. -/
structure IsValid (settings : Settings) : Prop where
  directory : IsDirectory settings.output.directory
  package : IsPackage settings.output.package
  logLevel : IsLogLevel settings.logLevel
  types : AreTypes settings.types

lemma isLogLevel_iff (name : String) :
    IsLogLevel name ↔ (Log.Level.all.map Log.Level.name).contains name = true := by
  rw [List.contains_iff_mem, List.mem_map]
  constructor
  · rintro ⟨level, hlevel⟩
    exact ⟨level, by cases level <;> decide, hlevel⟩
  · rintro ⟨level, -, hlevel⟩
    exact ⟨level, hlevel⟩

lemma fault?_override_eq_none_iff (source : String) (override : TypeOverride) :
    override.fault? source = none ↔ source ≠ "" ∧ override.target ≠ "" := by
  unfold TypeOverride.fault?
  by_cases hsource : source = ""
  · simp [hsource]
  · by_cases htarget : override.target = ""
    · simp [hsource, htarget]
    · simp [hsource, htarget]

lemma areTypes_iff (types : List (String × TypeOverride)) :
    AreTypes types ↔
      types.findSome? (fun (source, override) => override.fault? source) = none := by
  rw [List.findSome?_eq_none_iff]
  refine forall₂_congr fun entry _ => ?_
  exact (fault?_override_eq_none_iff entry.1 entry.2).symm

lemma fault?_eq_none_iff (settings : Settings) : settings.fault? = none ↔ settings.IsValid := by
  unfold fault?
  constructor
  · intro h
    split_ifs at h with hdirectory hpackage hlevel
    refine ⟨?_, ?_, ?_, (areTypes_iff _).2 h⟩
    · intro hempty
      exact hdirectory (by rw [hempty]; rfl)
    · simpa [IsPackage] using hpackage
    · rw [isLogLevel_iff]
      simpa using hlevel
  · rintro ⟨hdirectory, hpackage, hlevel, htypes⟩
    rw [isLogLevel_iff] at hlevel
    rw [if_neg (by simpa [IsDirectory] using hdirectory),
      if_neg (by simpa [IsPackage] using hpackage), if_neg (by simpa using hlevel)]
    exact (areTypes_iff _).1 htypes

/-- Settings go through as they are, or not at all. -/
lemma validate_eq_ok_iff (settings judged : Settings) :
    settings.validate = .ok judged ↔ settings.IsValid ∧ judged = settings := by
  unfold validate
  rw [← fault?_eq_none_iff]
  cases settings.fault? with
  | some fault => simp
  | none => simp [eq_comm]

lemma exists_validate_eq_error {settings : Settings} (h : ¬ settings.IsValid) :
    ∃ fault, settings.validate = .error fault := by
  cases hvalidate : settings.validate with
  | error fault => exact ⟨fault, rfl⟩
  | ok judged => exact absurd ((validate_eq_ok_iff settings judged).1 hvalidate).1 h

/-! ## Judging source by source -/

/-- What the flags give is good. -/
structure AreValidFlags (flags : Overrides) : Prop where
  directory : ∀ directory ∈ flags.output?, IsDirectory directory
  package : ∀ package ∈ flags.package?, IsPackage package
  logLevel : ∀ name ∈ flags.logLevel?, IsLogLevel name

/-- What a file says is good where no flag stands in its place. -/
structure IsValidBeneath (flags : Overrides) (said : Said) : Prop where
  directory : flags.output? = none → ∀ directory ∈ said.output.directory?, IsDirectory directory
  package : flags.package? = none → ∀ package ∈ said.output.package?, IsPackage package
  logLevel : flags.logLevel? = none → ∀ name ∈ said.logLevel?, IsLogLevel name
  types : ∀ types ∈ said.types?, AreTypes types

/-- The value that counts is good when that of each source is, as far as it counts. -/
lemma getD_or_iff {α : Type} {P : α → Prop} (flag? said? : Option α) (standard : α)
    (hstandard : P standard) :
    P ((flag?.or said?).getD standard) ↔
      (∀ a ∈ flag?, P a) ∧ (flag? = none → ∀ a ∈ said?, P a) := by
  cases flag? with
  | some a => simp
  | none => cases said? with
    | some a => simp
    | none => simp [hstandard]

/-- **What is judged**: the flags, and of what the file says only what they leave to it. -/
lemma isValid_merged_iff (flags : Overrides) (said : Said) :
    (merged flags said).IsValid ↔ AreValidFlags flags ∧ IsValidBeneath flags said := by
  have hdirectory := getD_or_iff (P := IsDirectory) flags.output? said.output.directory?
    ⟨"ent/schema"⟩ (by simp [IsDirectory])
  have hpackage := getD_or_iff (P := IsPackage) flags.package? said.output.package? "schema"
    (by unfold IsPackage; decide)
  have hlevel := getD_or_iff (P := IsLogLevel) flags.logLevel? said.logLevel? "info"
    ⟨.info, rfl⟩
  have htypes : AreTypes (merged flags said).types ↔ ∀ types ∈ said.types?, AreTypes types := by
    unfold merged
    cases said.types? with
    | some types => simp
    | none => simp [AreTypes]
  constructor
  · intro h
    have hd := hdirectory.1 h.directory
    have hp := hpackage.1 h.package
    have hl := hlevel.1 h.logLevel
    exact ⟨⟨hd.1, hp.1, hl.1⟩, ⟨hd.2, hp.2, hl.2, htypes.1 h.types⟩⟩
  · rintro ⟨hflags, hsaid⟩
    exact ⟨hdirectory.2 ⟨hflags.directory, hsaid.directory⟩,
      hpackage.2 ⟨hflags.package, hsaid.package⟩,
      hlevel.2 ⟨hflags.logLevel, hsaid.logLevel⟩, htypes.2 hsaid.types⟩

end Settings

/-! ## Flags twice -/

/-- The flags of two command lines, of which the second wins. -/
def Overrides.merge (first second : Overrides) : Overrides where
  schema? := second.schema?.or first.schema?
  output? := second.output?.or first.output?
  package? := second.package?.or first.package?
  logLevel? := second.logLevel?.or first.logLevel?
  goGenerate := first.goGenerate || second.goGenerate

lemma Settings.apply_apply (settings : Settings) (first second : Overrides) :
    (settings.apply first).apply second = settings.apply (first.merge second) := by
  unfold Overrides.merge apply
  simp only [Settings.getD_or, Bool.or_assoc]

@[simp] lemma Overrides.merge_self (flags : Overrides) : flags.merge flags = flags := by
  simp [merge]

/-! ## The settings of a run -/

namespace Command

open Settings

/-- How the settings of a run come of the text in the settings file and of the flags. -/
structure ResolvesByPrecedence (path? : Option Path) (text : String) (session : Session) :
    Prop where
  /-- There are settings when the text says something and the merged settings are good, and then
  they are the merged ones. -/
  accepted : ∀ flags settings next,
    exec (resolveSettings path? flags) session = (.ok settings, next) ↔
      next = session ∧
        ∃ said, TextSays text said ∧ (merged flags said).IsValid ∧ settings = merged flags said
  /-- A text that says nothing is turned down whatever the flags are. -/
  malformed : (¬∃ said, TextSays text said) → ∀ flags,
    exec (resolveSettings path? flags) session = (.error .malformedSettings, session)
  /-- What a flag hides is not judged, and what it gives is. -/
  judged : ∀ flags said, TextSays text said →
    ((∃ settings next, exec (resolveSettings path? flags) session = (.ok settings, next)) ↔
      AreValidFlags flags ∧ IsValidBeneath flags said)
  rejected : ∀ flags said, TextSays text said →
    ¬ (AreValidFlags flags ∧ IsValidBeneath flags said) →
      ∃ fault, exec (resolveSettings path? flags) session =
        (.error (.invalidSettings fault), session)
  /-- Flags put over settings one after another are as their merge, and once is as twice. -/
  twice : ∀ (settings : Settings) (first second : Overrides),
    (settings.apply first).apply second = settings.apply (first.merge second) ∧
    (settings.apply first).apply first = settings.apply first

section Precedence

variable {path? : Option Path} {text : String} {session : Session} {said : Said}

/-- The text and the flags decide what comes of it. -/
lemma exec_resolveSettings_of_textSays (flags : Overrides)
    (hread : session.tree.read (path?.getD settingsFile) = .ok text) (htold : TextSays text said) :
    exec (resolveSettings path? flags) session =
      ((merged flags said).validate.mapError .invalidSettings, session) := by
  have hparse : Settings.parse? text = some said.filled := parse?_eq_some_iff.2 ⟨said, htold, rfl⟩
  rw [exec_resolveSettings_of_parse flags hread hparse, apply_filled]

lemma exec_resolveSettings_of_valid {flags : Overrides}
    (hread : session.tree.read (path?.getD settingsFile) = .ok text) (htold : TextSays text said)
    (hvalid : (merged flags said).IsValid) :
    exec (resolveSettings path? flags) session = (.ok (merged flags said), session) := by
  rw [exec_resolveSettings_of_textSays flags hread htold,
    (validate_eq_ok_iff _ _).2 ⟨hvalid, rfl⟩]
  rfl

lemma exec_resolveSettings_of_invalid {flags : Overrides}
    (hread : session.tree.read (path?.getD settingsFile) = .ok text) (htold : TextSays text said)
    (hinvalid : ¬ (merged flags said).IsValid) :
    ∃ fault, exec (resolveSettings path? flags) session =
      (.error (.invalidSettings fault), session) := by
  obtain ⟨fault, hfault⟩ := exists_validate_eq_error hinvalid
  refine ⟨fault, ?_⟩
  rw [exec_resolveSettings_of_textSays flags hread htold, hfault]
  rfl

lemma exec_resolveSettings_of_nothing (flags : Overrides)
    (hread : session.tree.read (path?.getD settingsFile) = .ok text)
    (hnothing : ¬∃ said, TextSays text said) :
    exec (resolveSettings path? flags) session = (.error .malformedSettings, session) := by
  refine exec_resolveSettings_of_malformed flags hread ?_
  rw [Option.eq_none_iff_forall_ne_some]
  intro settings hparse
  obtain ⟨said, htold, -⟩ := parse?_eq_some_iff.1 hparse
  exact hnothing ⟨said, htold⟩

/-- **Settings come from the flags, then the file, then the standard**, each on its own, and only
what comes of them is judged. -/
theorem settings_by_precedence
    (hread : session.tree.read (path?.getD settingsFile) = .ok text) :
    ResolvesByPrecedence path? text session := by
  have haccepted : ∀ flags settings next,
      exec (resolveSettings path? flags) session = (.ok settings, next) ↔
        next = session ∧
          ∃ said, TextSays text said ∧ (merged flags said).IsValid ∧
            settings = merged flags said := by
    intro flags settings next
    constructor
    · intro hexec
      by_cases hsome : ∃ said, TextSays text said
      · obtain ⟨said, htold⟩ := hsome
        by_cases hvalid : (merged flags said).IsValid
        · rw [exec_resolveSettings_of_valid hread htold hvalid] at hexec
          cases hexec
          exact ⟨rfl, said, htold, hvalid, rfl⟩
        · obtain ⟨fault, hfault⟩ := exec_resolveSettings_of_invalid hread htold hvalid
          rw [hfault] at hexec
          cases hexec
      · rw [exec_resolveSettings_of_nothing flags hread hsome] at hexec
        cases hexec
    · rintro ⟨rfl, said, htold, hvalid, rfl⟩
      exact exec_resolveSettings_of_valid hread htold hvalid
  constructor
  case accepted => exact haccepted
  case malformed =>
    intro hnothing flags
    exact exec_resolveSettings_of_nothing flags hread hnothing
  case judged =>
    intro flags said htold
    rw [← isValid_merged_iff]
    constructor
    · rintro ⟨settings, next, hexec⟩
      by_contra hinvalid
      obtain ⟨fault, hfault⟩ := exec_resolveSettings_of_invalid hread htold hinvalid
      rw [hfault] at hexec
      cases hexec
    · intro hvalid
      exact ⟨_, _, exec_resolveSettings_of_valid hread htold hvalid⟩
  case rejected =>
    intro flags said htold hbad
    rw [← isValid_merged_iff] at hbad
    exact exec_resolveSettings_of_invalid hread htold hbad
  case twice =>
    intro settings first second
    refine ⟨settings.apply_apply first second, ?_⟩
    rw [settings.apply_apply, Overrides.merge_self]

end Precedence

/-- Settings with a level that there is not, and with a directory but no package. -/
def loudText : String :=
  textOfLines ["log_level = \"loud\"", "go_generate = true", "", "[output]",
    "dir = \"src/models\"", "", "[types]", "Citext = \"String\""]

/-- A project with these settings in the usual file. -/
def loudSession : Session :=
  .ofTree ((FileTree.ofWorking ["project"]).plantBelow settingsFile (.file (.text loudText))) none

/-- A flag hides the level that there is not; another one spoils a package that was good. -/
theorem loudSession_by_precedence :
    loudSession.tree.read ((none : Option Path).getD settingsFile) = .ok loudText ∧
    exec (resolveSettings none { Overrides.none with logLevel? := some "warn" }) loudSession =
      (.ok ⟨⟨"prisma/dmmf.json"⟩, "warn", true, ⟨⟨"src/models"⟩, "schema"⟩,
        [("Citext", .builder "String")]⟩, loudSession) ∧
    ∃ fault, exec (resolveSettings none
        { Overrides.none with logLevel? := some "warn", package? := some "9lives" }) loudSession =
      (.error (.invalidSettings fault), loudSession) := by
  have hread : loudSession.tree.read ((none : Option Path).getD settingsFile) = .ok loudText := by
    decide +kernel
  have hresolves := settings_by_precedence hread
  have hparse : Settings.parse? loudText = some ⟨⟨"prisma/dmmf.json"⟩, "loud", true,
      ⟨⟨"src/models"⟩, "schema"⟩, [("Citext", .builder "String")]⟩ := by
    decide +kernel
  obtain ⟨said, htold, hfilled⟩ := parse?_eq_some_iff.1 hparse
  refine ⟨hread, ?_, ?_⟩
  · refine (hresolves.accepted _ _ _).2 ⟨rfl, said, htold, ?_, ?_⟩
    · rw [← apply_filled, ← hfilled]
      exact ⟨by simp [IsDirectory, Settings.apply, Overrides.none], by unfold IsPackage; decide,
        ⟨.warn, rfl⟩, by simp [AreTypes, Settings.apply, TypeOverride.target]⟩
    · rw [← apply_filled, ← hfilled]
      rfl
  · refine hresolves.rejected _ said htold fun hgood => ?_
    have hpackage := hgood.1.package "9lives" rfl
    revert hpackage
    unfold IsPackage
    decide

end Command

end EntSchema
