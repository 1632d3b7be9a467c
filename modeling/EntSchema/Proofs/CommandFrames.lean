import EntSchema.Proofs.CommandRuns
import EntSchema.Proofs.LastDefinition
import EntSchema.Proofs.FirstMissingEnum

/-!
# What commands change

A command changes only the files that are its own, whatever comes of it.  Looking, as the check
command and a dry run do, changes nothing.  Generating changes nothing before all files are there to
be written (`render` comes before persisting), and after that at most the output directory, those
above it, and the places of the entities.  The init command changes its settings file, and not even
that when it is there already.

`KeepsToItsOwn` puts these together for one session; `commands_keep_to_their_own` proves it of all
sessions and all allowed orders of the writes.
-/

namespace EntSchema.Command

open Model (Document Index)

/-- Whether a file is the complete file of an entity of a document. -/
def IsFileOfEntity (settings : Settings) (document : Document) (file : GeneratedFile) : Prop :=
  ∃ entity ∈ document.entities, ∃ schema,
    EntitySchema.build entity (Index.ofDocument document) settings.typeTable = .ok schema ∧
      file = ⟨settings.generationOptions.pathFor entity.name,
        sourceText settings.output.package schema⟩

/-- Whether a command fails on a session and leaves its files as they were. -/
def FailsWithoutTrace {α : Type} (command : Command (StateM Session) α) (session : Session)
    (error : CommandError) : Prop :=
  (exec command session).1 = .error error ∧ (exec command session).2.tree = session.tree

/-- What can be relied on about the files of a session when the commands run on it. -/
structure KeepsToItsOwn (way : Persisting (StateM Session)) (settings : Settings)
    (session : Session) : Prop where
  check : ∀ path?, (exec (Command.check path? settings) session).2.tree = session.tree
  dryRun : (exec (generateBy way settings true) session).2.tree = session.tree
  unreadable : ∀ fault, session.tree.read settings.schema = .error fault →
    FailsWithoutTrace (generateBy way settings false) session
      (.unloadableDocument settings.schema (.io settings.schema fault))
  invalid : ∀ text error, session.tree.read settings.schema = .ok text →
    Document.parse text = .error error →
      FailsWithoutTrace (generateBy way settings false) session
        (.unloadableDocument settings.schema (.document error))
  unrenderable : ∀ text document fault, session.tree.read settings.schema = .ok text →
    Document.parse text = .ok document →
    settings.generationOptions.generate document = .error fault →
      FailsWithoutTrace (generateBy way settings false) session (.unrenderable fault)
  /-- Otherwise the directory and those above it may be made, and files of entities written. -/
  generated : settings.goGenerate = false → ∀ text document files,
    session.tree.read settings.schema = .ok text → Document.parse text = .ok document →
    settings.generationOptions.generate document = .ok files →
      session.tree.ChangesOnly (exec (generateBy way settings false) session).2.tree
        settings.output.directory files ∧
      ∀ file ∈ files, IsFileOfEntity settings document file
  init : ∀ directory options location,
    (exec (Command.init directory options) session).2.tree.node? location ≠
        session.tree.node? location →
      session.tree.LeadsTo (directory.join settingsFile) location ∧
        (exec (Command.init directory options) session).2.tree.node? location =
          some (.file (.text (Starter.text options)))
  initHeld : ∀ directory options, session.tree.holds (directory.join settingsFile) = true →
    options.force = false →
      FailsWithoutTrace (Command.init directory options) session
        (.settingsExist (directory.join settingsFile))

variable {way : Persisting (StateM Session)} {settings : Settings} {session : Session}

lemma isFileOfEntity_of_generate {document : Document} {files : List GeneratedFile}
    (generated : settings.generationOptions.generate document = .ok files) :
    ∀ file ∈ files, IsFileOfEntity settings document file := by
  intro file hfile
  have hfiles := GenerationOptions.generate_eq_ok_iff.1 generated
  obtain ⟨place, hbound, hplace⟩ := List.mem_iff_getElem.1 hfile
  have hbound' : place < document.entities.length := hfiles.length_eq ▸ hbound
  obtain ⟨schema, hschema, heq⟩ := hfiles.get hbound' hbound
  simp only [List.get_eq_getElem, hplace] at hschema heq
  exact ⟨document.entities[place], List.getElem_mem hbound', schema, hschema, heq⟩

/-- Every change that the init command makes is the settings file. -/
lemma eq_starter_of_init {directory : Path} {options : StarterOptions} {location : Location}
    (hchanged : (exec (Command.init directory options) session).2.tree.node? location ≠
      session.tree.node? location) :
    session.tree.LeadsTo (directory.join settingsFile) location ∧
      (exec (Command.init directory options) session).2.tree.node? location =
        some (.file (.text (Starter.text options))) := by
  obtain ⟨error, hexec⟩ | ⟨next, hwrite, hexec⟩ := exec_init_cases directory options session
  · rw [hexec] at hchanged
    exact absurd rfl hchanged
  · rw [hexec] at hchanged ⊢
    obtain ⟨-, place, hleads, -, -⟩ := FileTree.write_eq_ok_iff.1 hwrite
    have hnode := FileTree.node?_of_write hwrite hleads location
    by_cases heq : location = place
    · rw [if_pos heq] at hnode
      exact ⟨heq ▸ hleads, hnode⟩
    · rw [if_neg heq] at hnode
      exact absurd hnode hchanged

/-- **Commands change only what is their own**, and nothing before there is something to write. -/
theorem commands_keep_to_their_own (hway : way.IsAllowed) (settings : Settings)
    (session : Session) : KeepsToItsOwn way settings session := by
  constructor
  case check => exact fun path? => LeavesFiles.check path? settings session
  case dryRun => exact LeavesFiles.dryRun way settings session
  case unreadable =>
    intro fault hread
    have hexec := exec_generateBy_of_unreadable way false hread
    exact ⟨congrArg Prod.fst hexec, congrArg (·.2.tree) hexec⟩
  case invalid =>
    intro text error hread hparse
    have hexec := exec_generateBy_of_invalid way false hread hparse
    exact ⟨congrArg Prod.fst hexec, congrArg (·.2.tree) hexec⟩
  case unrenderable =>
    intro text document fault hread hparse hgenerate
    have hexec := exec_generateBy_of_unrenderable way false hread hparse hgenerate
    refine ⟨congrArg Prod.fst hexec, (congrArg (·.2.tree) hexec).trans ?_⟩
    exact tree_generatedSession settings document session
  case generated =>
    intro hgo text document files hread hparse hgenerate
    have hready : Ready session.tree settings document files := ⟨⟨text, hread, hparse⟩, hgenerate⟩
    obtain ⟨persisted, next, hpersist, hcases⟩ := exec_generateBy_allowed hway hready hgo
    have hnext : (exec (generateBy way settings false) session).2 = next := by
      obtain ⟨count, -, hexec, -⟩ | ⟨fault, -, hexec⟩ := hcases <;> rw [hexec]
    rw [hnext]
    exact ⟨hpersist.changesOnly, isFileOfEntity_of_generate hgenerate⟩
  case init => exact fun directory options location => eq_starter_of_init
  case initHeld =>
    intro directory options hheld hforce
    have hexec := exec_init_of_held hheld hforce
    exact ⟨congrArg Prod.fst hexec, congrArg (·.2.tree) hexec⟩

/-- A document whose last entity names an enum that is not there. -/
def unfinishedDocument : String :=
  r#"{"models":[{"name":"Tag","fields":[]},{"name":"Post","fields":"# ++
    r#"[{"name":"status","kind":"enum","type":"Status"}]}]}"#

/-- A session in a project with that document and a settings file. -/
def unfinishedSession : Session :=
  let project := (FileTree.ofWorking ["project"]).plantBelow settingsFile (.file (.text ""))
  .ofTree (project.plantBelow Settings.standard.schema (.file (.text unfinishedDocument))) none

set_option maxRecDepth 2000 in
theorem unfinishedSession_keeps_its_files :
    (Persisting.inTurn : Persisting (StateM Session)).IsAllowed ∧
    FailsWithoutTrace (generate .standard false) unfinishedSession
      (.unrenderable ⟨"Post", "status", "Status"⟩) ∧
    FailsWithoutTrace (Command.init ⟨"."⟩ .standard) unfinishedSession
      (.settingsExist ⟨"./entgen.toml"⟩) := by
  have hkeeps := commands_keep_to_their_own Persisting.isAllowed_inTurn .standard unfinishedSession
  have hread : unfinishedSession.tree.read Settings.standard.schema = .ok unfinishedDocument := by
    rfl
  refine ⟨Persisting.isAllowed_inTurn, ?_, ?_⟩
  · exact hkeeps.unrenderable _ _ _ hread rfl rfl
  · exact hkeeps.initHeld ⟨"."⟩ .standard (by decide) rfl

end EntSchema.Command
