import EntSchema.Proofs.CommandRuns
import EntSchema.Proofs.NameWords
import EntSchema.Proofs.StarterFilling
import EntSchema.Proofs.TomlLines
import EntSchema.Settings.Validation

/-!
# Reading the starter text

The settings file that the init command writes is read back, line by line, as the settings that were
asked for: what stands between the quotes of its three values is their escaped text, and escapes are
undone by reading.
-/

namespace EntSchema.Starter

open Text (MarkFree)
open Toml (State Table Value ReadsLine ReadsLines IsWritten isPlain)

/-! ## The three values -/

lemma isWritten_flatMap_escapeChar {text : List Char} (h : ∀ c ∈ text, isPlain c = true) :
    IsWritten (text.flatMap escapeChar) text := by
  induction text with
  | nil => exact Toml.isWritten_nil
  | cons c rest ih =>
    obtain ⟨hc, hrest⟩ := List.forall_mem_cons.1 h
    rw [List.flatMap_cons, escapeChar]
    split_ifs with hbackslash hquote
    · rw [hbackslash]
      exact (ih hrest).cons_escaped (.inr rfl)
    · rw [hquote]
      exact (ih hrest).cons_escaped (.inl rfl)
    · exact (ih hrest).cons_plain hc hquote hbackslash

lemma head?_flatMap_escapeChar_ne (text : List Char) :
    (text.flatMap escapeChar).head? ≠ some '"' := by
  cases text with
  | nil => simp
  | cons c rest =>
    rw [List.flatMap_cons, escapeChar]
    split_ifs with hbackslash hquote <;> simp [*]

/-- A line with an escaped path gives its text. -/
lemma readsLine_escaped {state : State} {name : String} {path : Path} {root : Table}
    (hname : Toml.isBareKey name = true) (hplain : ∀ c ∈ path.text.toList, isPlain c = true)
    (hassign : Toml.enterAll (Toml.assign (.string path.text) true [name]) state.header state.root =
      some root) :
    ReadsLine state (line name (escaped path)) { state with root := root } := by
  have hwritten := isWritten_flatMap_escapeChar hplain
  have hvalue := hwritten.readValue_eq (head?_flatMap_escapeChar_ne _)
  rw [String.ofList_toList] at hvalue
  refine Toml.readsLine_value hname ?_ (by decide) hvalue hassign
  simp [line, escaped]

/-! ## The package -/

lemma packageFor_eq (directory : Path) : packageFor directory =
    (directory.fileName?.filter fun name => Go.isIdentifier name).getD "schema" := by
  unfold packageFor
  cases hname : directory.fileName? with
  | none => rfl
  | some name =>
    rw [Option.filter_some]
    by_cases haccepted : Go.isIdentifier name = true
    · simp [haccepted]
    · simp [haccepted, OutputSettings.standard]

/-- The characters of an identifier stand for themselves in a string. -/
lemma isPlain_of_continuesIdentifier {c : Char} (hc : Go.continuesIdentifier c = true) :
    isPlain c = true ∧ c ≠ '\\' ∧ c ≠ '"' := by
  by_cases hascii : c.toNat < 128
  · have hall : Go.continuesIdentifier c = true → isPlain c = true ∧ c ≠ '\\' ∧ c ≠ '"' :=
      Text.forall_ascii (p := fun c => Go.continuesIdentifier c = true →
        isPlain c = true ∧ c ≠ '\\' ∧ c ≠ '"') (by decide +kernel) hascii
    exact hall hc
  · have hplain : isPlain c = true := Toml.isPlain_of_not_control (by omega)
    have hbackslash : c ≠ '\\' := by
      rintro rfl
      exact hascii (by decide)
    have hquote : c ≠ '"' := by
      rintro rfl
      exact hascii (by decide)
    exact ⟨hplain, hbackslash, hquote⟩

/-! ## The text -/

/-- The settings in front of the first header. -/
def runTable (schema : String) : Table :=
  [("schema", .string schema), ("log_level", .string "info"), ("go_generate", .boolean false)]

/-- The document up to the second header. -/
def outputRoot (schema : String) (output : Table) : Table :=
  runTable schema ++ [("output", .table .header output)]

/-- The document that the text stands for. -/
def rootWith (schema directory package : String) : Table :=
  outputRoot schema [("dir", .string directory), ("package", .string package)] ++
    [("types", .table .header [])]

lemma readsLines_head (state : State) : ReadsLines state headLines state := by
  refine .cons (Toml.readsLine_comment state rfl (by decide +kernel)) ?_
  refine .cons (Toml.readsLine_comment state rfl (by decide +kernel)) ?_
  refine .cons (Toml.readsLine_comment state rfl (by decide +kernel)) ?_
  refine .cons (Toml.readsLine_comment state rfl (by decide +kernel)) ?_
  refine .cons (Toml.readsLine_blank state) ?_
  refine .cons (Toml.readsLine_comment state rfl (by decide +kernel)) ?_
  exact .nil state

lemma readsLines_run (schema : String) :
    ReadsLines ⟨[("schema", .string schema)], []⟩ runLines ⟨outputRoot schema [], ["output"]⟩ := by
  have hlevel : ReadsLine ⟨[("schema", .string schema)], []⟩ "log_level = \"info\""
      ⟨[("schema", .string schema), ("log_level", .string "info")], []⟩ := fun _ => rfl
  have hgenerate : ReadsLine ⟨[("schema", .string schema), ("log_level", .string "info")], []⟩
      "go_generate = false" ⟨runTable schema, []⟩ := fun _ => rfl
  have houtput : ReadsLine ⟨runTable schema, []⟩ "[output]" ⟨outputRoot schema [], ["output"]⟩ :=
    fun _ => rfl
  refine .cons (Toml.readsLine_blank _) ?_
  refine .cons (Toml.readsLine_comment _ rfl (by decide +kernel)) (.cons hlevel ?_)
  refine .cons (Toml.readsLine_blank _) ?_
  refine .cons (Toml.readsLine_comment _ rfl (by decide +kernel)) (.cons hgenerate ?_)
  refine .cons (Toml.readsLine_blank _) (.cons houtput ?_)
  refine .cons (Toml.readsLine_comment _ rfl (by decide +kernel)) ?_
  exact .nil _

lemma readsLines_package (state : State) : ReadsLines state packageLines state := by
  refine .cons (Toml.readsLine_blank state) ?_
  refine .cons (Toml.readsLine_comment state rfl (by decide +kernel)) ?_
  exact .nil state

lemma readsLines_types (schema directory package : String) :
    ReadsLines
      ⟨outputRoot schema [("dir", .string directory), ("package", .string package)], ["output"]⟩
      typesLines ⟨rootWith schema directory package, ["types"]⟩ := by
  have htypes : ReadsLine
      ⟨outputRoot schema [("dir", .string directory), ("package", .string package)], ["output"]⟩
      "[types]" ⟨rootWith schema directory package, ["types"]⟩ := fun _ => rfl
  refine .cons (Toml.readsLine_blank _) ?_
  refine .cons (Toml.readsLine_comment _ rfl (by decide +kernel)) ?_
  refine .cons (Toml.readsLine_comment _ rfl (by decide +kernel)) (.cons htypes ?_)
  refine .cons (Toml.readsLine_comment _ rfl (by decide +kernel)) ?_
  refine .cons (Toml.readsLine_comment _ rfl (by decide +kernel)) ?_
  exact .nil _

lemma parse_textWith {schema directory : Path} {package : String}
    (hschema : ∀ c ∈ schema.text.toList, isPlain c = true)
    (hdirectory : ∀ c ∈ directory.text.toList, isPlain c = true)
    (hpackage : Go.isIdentifier package = true) :
    Toml.parse (textWith (escaped schema) (escaped directory) package) =
      some (rootWith schema.text directory.text package) := by
  have hchars {c : Char} (hc : c ∈ package.toList) :=
    isPlain_of_continuesIdentifier (continuesIdentifier_of_isIdentifier hpackage c hc)
  have hschemaLine : ReadsLine ⟨[], []⟩ (line "schema" (escaped schema))
      ⟨[("schema", .string schema.text)], []⟩ :=
    readsLine_escaped (by decide) hschema rfl
  have hdirectoryLine : ReadsLine ⟨outputRoot schema.text [], ["output"]⟩
      (line "dir" (escaped directory))
      ⟨outputRoot schema.text [("dir", .string directory.text)], ["output"]⟩ :=
    readsLine_escaped (by decide) hdirectory rfl
  have hpackageLine : ReadsLine
      ⟨outputRoot schema.text [("dir", .string directory.text)], ["output"]⟩
      (line "package" package)
      ⟨outputRoot schema.text [("dir", .string directory.text), ("package", .string package)],
        ["output"]⟩ := by
    have hescaped : escaped ⟨package⟩ = package :=
      escaped_eq_self (fun hc => (hchars hc).2.1 rfl) (fun hc => (hchars hc).2.2 rfl)
    have hread : ReadsLine
        ⟨outputRoot schema.text [("dir", .string directory.text)], ["output"]⟩
        (line "package" (escaped ⟨package⟩))
        ⟨outputRoot schema.text [("dir", .string directory.text), ("package", .string package)],
          ["output"]⟩ :=
      readsLine_escaped (by decide) (fun c hc => (hchars hc).1) rfl
    rwa [hescaped] at hread
  have hlines : ReadsLines ⟨[], []⟩ (linesWith (escaped schema) (escaped directory) package)
      ⟨rootWith schema.text directory.text package, ["types"]⟩ := by
    refine (readsLines_head _).append (.cons hschemaLine ?_)
    refine (readsLines_run _).append (.cons hdirectoryLine ?_)
    exact (readsLines_package _).append (.cons hpackageLine (readsLines_types _ _ _))
  have hfirst :
      (textWith (escaped schema) (escaped directory) package).toList.head? = some '#' := by
    rw [textWith, linesWith, headLines, List.cons_append, toList_textOfLines_cons]
    rfl
  refine Toml.parse_textOfLines hlines ?_
  rw [← textWith, hfirst]
  decide

/-! ## The settings -/

/-- Whether a text may be given for a path of the starter settings. -/
structure IsSettable (text : String) : Prop where
  no_controls : ∀ c ∈ text.toList, c.toNat < 0x20 ∨ c.toNat = 0x7f → c = '\t'
  no_marks : MarkFree text.toList

lemma IsSettable.isPlain {text : String} (h : IsSettable text) :
    ∀ c ∈ text.toList, isPlain c = true := by
  intro c hc
  by_cases htab : c = '\t'
  · rw [htab]
    rfl
  · exact Toml.isPlain_of_not_control fun hcontrol => htab (h.no_controls c hc hcontrol)

/-- The settings that were asked for. -/
def settings (options : StarterOptions) : Settings :=
  { Settings.standard with
    schema := options.schema
    output := {
      directory := options.output
      package :=
        (options.output.fileName?.filter fun name => Go.isIdentifier name).getD "schema" } }

lemma ofTable?_rootWith (options : StarterOptions) :
    Settings.ofTable? (rootWith options.schema.text options.output.text
      (packageFor options.output)) = some (settings options) := by
  rw [settings, ← packageFor_eq]
  rfl

lemma parse?_text {options : StarterOptions} (hschema : IsSettable options.schema.text)
    (houtput : IsSettable options.output.text) :
    Settings.parse? (text options) = some (settings options) := by
  rw [Settings.parse?, text_eq hschema.no_marks houtput.no_marks,
    parse_textWith hschema.isPlain houtput.isPlain (isIdentifier_packageFor options.output)]
  exact ofTable?_rootWith options

lemma validate_settings {options : StarterOptions} (hempty : options.output.text ≠ "") :
    (settings options).validate = .ok (settings options) := by
  have hdirectory : (settings options).output.directory.text.isEmpty = false := by
    simpa [settings, Settings.standard] using hempty
  have hpackage : Go.isIdentifier (settings options).output.package = true := by
    have hname := isIdentifier_packageFor options.output
    rwa [packageFor_eq] at hname
  have hlevel : (Log.Level.all.map Log.Level.name).contains (settings options).logLevel = true := by
    show (Log.Level.all.map Log.Level.name).contains "info" = true
    decide
  have hfault : (settings options).fault? = none := by
    rw [Settings.fault?, hdirectory, hpackage, hlevel]
    rfl
  rw [Settings.validate, hfault]

/-- **The written settings load back as what was asked for**: the text stands for them, nothing is
wrong with them, and a command that is pointed to the written file runs with them. -/
theorem written_settings_load_back {options : StarterOptions}
    (hschema : IsSettable options.schema.text) (houtput : IsSettable options.output.text)
    (hempty : options.output.text ≠ "") :
    Settings.parse? (text options) = some (settings options) ∧
    (settings options).validate = .ok (settings options) ∧
    ∀ directory session path next,
      Command.exec (Command.init directory options) session = (.ok path, next) →
        next.tree.read path = .ok (text options) ∧
        Command.exec (Command.resolveSettings (some path) .none) next =
          (.ok (settings options), next) := by
  have hparse := parse?_text hschema houtput
  have hvalid := validate_settings hempty
  refine ⟨hparse, hvalid, ?_⟩
  intro directory session path next hrun
  have hread := Command.read_of_exec_init hrun
  exact ⟨hread, Command.exec_resolveSettings_of_read hread hparse hvalid⟩

/-- Paths with quotes, backslashes and whatever else could end a value early. -/
def trickyOptions : StarterOptions :=
  ⟨⟨"a\"b\\\" # go_generate = true\\"⟩, ⟨"out\\\"/\tnaïve # \"/naïve"⟩, false⟩

/-- A session in an empty project. -/
def emptySession : Session := .ofTree (.ofWorking ["project"]) none

theorem trickyOptions_load_back :
    IsSettable trickyOptions.schema.text ∧ IsSettable trickyOptions.output.text ∧
    ∃ next, Command.exec (Command.init ⟨"."⟩ trickyOptions) emptySession =
        (.ok ⟨"./entgen.toml"⟩, next) ∧
      Command.exec (Command.resolveSettings (some ⟨"./entgen.toml"⟩) .none) next =
        (.ok { Settings.standard with
          schema := trickyOptions.schema
          output := ⟨trickyOptions.output, "naïve"⟩ }, next) := by
  have hschema : IsSettable trickyOptions.schema.text := ⟨by simp [trickyOptions], by decide⟩
  have houtput : IsSettable trickyOptions.output.text := ⟨by simp [trickyOptions], by decide⟩
  obtain ⟨-, -, hloads⟩ := written_settings_load_back hschema houtput (by decide)
  have hsettings : settings trickyOptions = { Settings.standard with
      schema := trickyOptions.schema
      output := ⟨trickyOptions.output, "naïve"⟩ } := by decide +kernel
  have hok : (Command.exec (Command.init ⟨"."⟩ trickyOptions) emptySession).1.toOption =
      some ⟨"./entgen.toml"⟩ := by
    decide +kernel
  obtain ⟨next, hrun⟩ := Command.exists_exec_eq hok
  refine ⟨hschema, houtput, next, hrun, ?_⟩
  rw [← hsettings]
  exact (hloads _ _ _ _ hrun).2

end EntSchema.Starter
