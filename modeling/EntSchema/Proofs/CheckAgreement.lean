import EntSchema.Proofs.CommandRuns
import EntSchema.Proofs.FirstMissingEnum

/-!
# The check command vouches for the generate command

Checking and generating go the same way up to the files: the document is loaded, then its files are
rendered.  `Rejects` says why a tree gives no files for some settings, and a tree that does not
reject them is `Ready`; either is decided by the text of the document alone.  Each command is opened
once (`exec_check`, `exec_generateBy`), and shown to be the same way to the files with something
else behind it.

The main result is `check_agrees_with_generate`.  A check and a dry run come to the same outcome, a
check reports the files that a run persists, and whatever happens to a run after a check has
succeeded happens behind the files: when they are written, or in the `go generate` step.
-/

namespace EntSchema

namespace Concurrent

/-- In memory every file is persisted. -/
lemma MayPersistInMemory.result_eq {directory : Path} {files : List GeneratedFile}
    {persisted : Persisted} {store : MemoryStore}
    (h : MayPersistInMemory directory files persisted store) :
    persisted.result = .ok files.length := by
  obtain ⟨plan, actions, state, rfl, rfl, hsucceeds, houtcome, rfl⟩ := h
  obtain ⟨count, hresult⟩ := (houtcome.run.ok_iff houtcome.stage).2 hsucceeds
  have hstage := houtcome.stage
  rw [hresult] at hstage
  rw [hresult, (houtcome.run.of_ok hstage).1]

end Concurrent

namespace Command

open Model (Document)

/-! ## Why there are no files -/

/-- A tree gives no files for settings: their document cannot be read, its text is no document, or
an entity of it has no schema. -/
inductive Rejects (tree : FileTree) (settings : Settings) : CommandError → Prop
  | unreadable {fault : IoFault} (hread : tree.read settings.schema = .error fault) :
    Rejects tree settings (.unloadableDocument settings.schema (.io settings.schema fault))
  | invalid {text : String} {error : Model.DecodingError}
    (hread : tree.read settings.schema = .ok text) (hparse : Document.parse text = .error error) :
    Rejects tree settings (.unloadableDocument settings.schema (.document error))
  | unrenderable {text : String} {document : Document} {fault : MissingEnum}
    (hread : tree.read settings.schema = .ok text) (hparse : Document.parse text = .ok document)
    (hgenerate : settings.generationOptions.generate document = .error fault) :
    Rejects tree settings (.unrenderable fault)

section Trees

variable {tree tree' : FileTree} {settings : Settings} {document : Document}
  {files : List GeneratedFile}

lemma rejects_or_ready (tree : FileTree) (settings : Settings) :
    (∃ error, Rejects tree settings error) ∨
      ∃ document files, Ready tree settings document files := by
  cases hread : tree.read settings.schema with
  | error fault => exact .inl ⟨_, .unreadable hread⟩
  | ok text =>
    cases hparse : Document.parse text with
    | error error => exact .inl ⟨_, .invalid hread hparse⟩
    | ok document =>
      cases hgenerate : settings.generationOptions.generate document with
      | error fault => exact .inl ⟨_, .unrenderable hread hparse hgenerate⟩
      | ok files => exact .inr ⟨document, files, ⟨text, hread, hparse⟩, hgenerate⟩

/-- Only the text of the document counts. -/
lemma Ready.of_read_eq (h : Ready tree settings document files)
    (hread : tree'.read settings.schema = tree.read settings.schema) :
    Ready tree' settings document files := by
  obtain ⟨text, htext, hparse⟩ := h.loaded
  exact ⟨⟨text, hread.trans htext, hparse⟩, h.generated⟩

/-- There is one file for each entity. -/
lemma Ready.length_eq (h : Ready tree settings document files) :
    files.length = document.entities.length :=
  (GenerationOptions.generate_eq_ok_iff.1 h.generated).length_eq.symm

end Trees

/-- Without files nothing is run that needs them. -/
lemma exec_gather_of_rejects {α : Type} {session : Session} {settings : Settings}
    {error : CommandError} (rest : Document → List GeneratedFile → Command (StateM Session) α)
    (h : Rejects session.tree settings error) :
    (exec (gather settings rest) session).1 = .error error := by
  cases h with
  | unreadable hread => rw [exec_gather_of_unreadable rest hread]
  | invalid hread hparse => rw [exec_gather_of_invalid rest hread hparse]
  | unrenderable hread hparse hgenerate =>
    rw [exec_gather_of_unrenderable rest hread hparse hgenerate]

/-! ## The two commands -/

section Commands

variable {way : Persisting (StateM Session)} {settings : Settings} {session : Session}
  {document : Document} {files : List GeneratedFile} {error : CommandError}

/-- The line that a check starts with. -/
def checkingLine (path? : Option Path) : String :=
  "Checking configuration: " ++ (path?.getD settingsFile).text ++ "\n"

/-- The report of a check, word for word. -/
def reportText (settings : Settings) (document : Document) (files : List GeneratedFile) :
    String :=
  "✓ Schema: " ++ settings.schema.text ++ "\n" ++
  "✓ Output: " ++ settings.output.directory.text ++
    " (package " ++ settings.output.package ++ ")\n" ++
  "✓ Enums: " ++ toString document.enums.length ++ "\n" ++
  "✓ Models: " ++ toString document.entities.length ++ "\n" ++
  "✓ Type overrides: " ++ toString settings.types.length ++ "\n" ++
  "✓ Rendered files: " ++ toString files.length ++ "\n" ++
  "\nConfiguration is valid!\n"

lemma textOfLines_findings (settings : Settings) (document : Document)
    (files : List GeneratedFile) :
    textOfLines (findings settings document files) = reportText settings document files := by
  have hpackage : ")\n" = ")" ++ "\n" := rfl
  have hlast : "\nConfiguration is valid!\n" =
      "" ++ "\n" ++ ("Configuration is valid!" ++ "\n" ++ "") := rfl
  unfold findings reportText
  simp only [textOfLines_cons, textOfLines_nil, hpackage, hlast, String.append_assoc]

/-- The command is opened here and nowhere else. -/
lemma exec_check (path? : Option Path) (settings : Settings) (session : Session) :
    exec (check path? settings) session =
      exec (gather settings fun document files => (findings settings document files).forM say)
        (session.print (checkingLine path?)) :=
  exec_bind_of_ok (exec_say _ session) _

lemma exec_check_of_rejects (path? : Option Path) (h : Rejects session.tree settings error) :
    (exec (check path? settings) session).1 = .error error := by
  rw [exec_check]
  exact exec_gather_of_rejects _ h

lemma exec_check_of_ready (path? : Option Path) (h : Ready session.tree settings document files) :
    exec (check path? settings) session =
      (.ok (), ((session.print (checkingLine path?)).logAll
        (settings.generationOptions.generationEvents document)).print
          (reportText settings document files)) := by
  have hprinted : Ready (session.print (checkingLine path?)).tree settings document files := h
  rw [exec_check, exec_gather_of_ready _ hprinted, ← textOfLines_findings]
  exact exec_sayAll (findings settings document files) _

lemma exec_generateBy_of_rejects (way : Persisting (StateM Session)) (dryRun : Bool)
    (h : Rejects session.tree settings error) :
    (exec (generateBy way settings dryRun) session).1 = .error error := by
  rw [exec_generateBy]
  exact exec_gather_of_rejects _ h

end Commands

/-! ## The step after the writing -/

/-- What can go wrong with a run that has its files: writing them, and the `go generate` step where
the settings ask for it. -/
inductive FailsLate (settings : Settings) : CommandError → Prop
  | unwritable (fault : StoreFault) :
    FailsLate settings (.unwritable settings.output.directory fault)
  | goNotStarted (hgo : settings.goGenerate = true) (fault : IoFault) :
    FailsLate settings (.goNotStarted fault)
  | goFailed (hgo : settings.goGenerate = true) (ending : Ending) :
    FailsLate settings (.goFailed ending)

section Late

variable {settings : Settings} {session : Session}

lemma exec_goGenerate (error : IoFault → CommandError) (path : Path) (session : Session) :
    exec (orFail error (Host.goGenerate path)) session =
      ((session.goGenerate path).1.mapError error, (session.goGenerate path).2) := rfl

lemma failsLate_of_runGoGenerate (hgo : settings.goGenerate = true) {directory : Path}
    {error : CommandError} (h : (exec (runGoGenerate directory) session).1 = .error error) :
    FailsLate settings error := by
  set package := directory.packageDirectory
  set asked := session.print ("Running go generate in: " ++ package.text ++ "\n")
  have hstep := exec_goGenerate .goNotStarted package asked
  have hrest : exec (runGoGenerate directory) session = exec _ asked :=
    exec_bind_of_ok (exec_say ("Running go generate in: " ++ package.text) session) _
  rw [hrest] at h
  cases hgoes : (asked.goGenerate package).1 with
  | error fault =>
    rw [hgoes] at hstep
    rw [exec_bind_of_error hstep] at h
    cases h
    exact .goNotStarted hgo fault
  | ok ending =>
    rw [hgoes] at hstep
    rw [exec_bind_of_ok hstep] at h
    split at h
    · cases h
    · cases h
      exact .goFailed hgo _

/-- Nothing goes wrong with the line behind the step. -/
lemma failsLate_of_runGoGenerate_say (hgo : settings.goGenerate = true) {directory : Path}
    {line : String} {error : CommandError}
    (h : (exec (do runGoGenerate directory; say line) session).1 = .error error) :
    FailsLate settings error := by
  cases hstep : exec (runGoGenerate directory) session with
  | mk outcome next =>
    cases outcome with
    | ok done =>
      rw [exec_bind_of_ok hstep, exec_say] at h
      cases h
    | error stopped =>
      rw [exec_bind_of_error hstep] at h
      apply failsLate_of_runGoGenerate hgo
      rw [hstep, ← h]

end Late

/-! ## Agreement -/

/-- Whether the generate command hands some files over to be persisted: a dry run in memory, any
other run on the host.  Either has nothing left to complain about but the persisting itself and what
comes after it. -/
structure HandsOver (way : Persisting (StateM Session)) (settings : Settings) (session : Session)
    (document : Document) (files : List GeneratedFile) : Prop where
  inMemory : (way.inMemory settings.output.directory files).1.result = .ok files.length ∧
    exec (generateBy way settings true) session =
      (.ok (), (((generatedSession settings document session).logAll
        (way.inMemory settings.output.directory files).1.events).print
          (way.inMemory settings.output.directory files).2.preview).print
            (nothingWrittenLine settings.output.directory))
  onHost : ∃ persisted next,
    Id.run ((way.onHost settings.output.directory files).run
      (generatedSession settings document session)) = (persisted, next) ∧
    ((∃ fault, persisted.result = .error fault ∧
        (exec (generateBy way settings false) session).1 =
          .error (.unwritable settings.output.directory fault)) ∨
      persisted.result = .ok files.length ∧
        (settings.goGenerate = false → (exec (generateBy way settings false) session).1 = .ok ()))
  late : ∀ error, (exec (generateBy way settings false) session).1 = .error error →
    FailsLate settings error

/-- What the check command and the generate command have to do with each other on a session. -/
structure ChecksLikeGenerate (way : Persisting (StateM Session)) (settings : Settings)
    (session : Session) : Prop where
  outcome : ∀ path?, (exec (Command.check path? settings) session).1 =
    (exec (generateBy way settings true) session).1
  fails_iff : ∀ path? error, (exec (Command.check path? settings) session).1 = .error error ↔
    Rejects session.tree settings error
  /-- A check that succeeds reports as many files as models, and wherever the document has the same
  text, these are the files that generating hands over. -/
  passes : ∀ path?, (exec (Command.check path? settings) session).1 = .ok () →
    ∃ document files, Ready session.tree settings document files ∧
      files.length = document.entities.length ∧
      (exec (Command.check path? settings) session).2.output =
        session.output ++ checkingLine path? ++ reportText settings document files ∧
      ∀ later : Session,
        later.tree.read settings.schema = session.tree.read settings.schema →
          HandsOver way settings later document files

section Agreement

variable {way : Persisting (StateM Session)} {settings : Settings} {session : Session}
  {document : Document} {files : List GeneratedFile}

lemma handsOver (hway : way.IsAllowed) (hready : Ready session.tree settings document files) :
    HandsOver way settings session document files := by
  set directory := settings.output.directory
  have hmemory := (hway.inMemory directory files).result_eq
  have hdry := exec_dryRun_of_ready way hready
  obtain ⟨persisted, tree, hrun, hpersist⟩ := hway.onHost directory files
    (generatedSession settings document session)
  have hwrite := exec_writeFiles hrun
  have hrest := exec_generateBy_of_ready way false hready
  rw [persistOrShow, if_neg Bool.false_ne_true] at hrest
  cases hresult : persisted.result with
  | error fault =>
    rw [hresult] at hwrite
    have hexec := hrest.trans (exec_bind_of_error hwrite _)
    refine ⟨⟨hmemory, hdry⟩,
      ⟨persisted, _, hrun, .inl ⟨fault, hresult, congrArg Prod.fst hexec⟩⟩, ?_⟩
    intro error herror
    rw [hexec] at herror
    cases herror
    exact .unwritable fault
  | ok count =>
    rw [hresult] at hwrite
    obtain ⟨rfl, -⟩ := hpersist.of_ok hresult
    have hexec := hrest.trans (exec_bind_of_ok hwrite _)
    refine ⟨⟨hmemory, hdry⟩, ⟨persisted, _, hrun, .inr ⟨hresult, ?_⟩⟩, ?_⟩
    · intro hgo
      rw [hexec, hgo]
      rfl
    · intro error herror
      by_cases hgo : settings.goGenerate = true
      · rw [hexec, hgo] at herror
        exact failsLate_of_runGoGenerate_say hgo herror
      · rw [Bool.not_eq_true] at hgo
        rw [hexec, hgo] at herror
        cases herror

/-- **A check vouches for a run.**  For all settings, all contents of the session and all allowed
orders of the writes, the check command and a dry run come to the same outcome; and after a check
has succeeded, a run on the same text can only fail behind the files that the check has reported. -/
theorem check_agrees_with_generate (hway : way.IsAllowed) (settings : Settings)
    (session : Session) : ChecksLikeGenerate way settings session := by
  obtain ⟨error, hrejects⟩ | ⟨document, files, hready⟩ := rejects_or_ready session.tree settings
  · have hcheck path? := exec_check_of_rejects path? hrejects
    have hdry := exec_generateBy_of_rejects way true hrejects
    refine ⟨fun path? => (hcheck path?).trans hdry.symm, ?_, ?_⟩
    · intro path? error'
      refine ⟨fun herror => ?_, exec_check_of_rejects path?⟩
      rw [hcheck] at herror
      cases herror
      exact hrejects
    · intro path? hok
      rw [hcheck] at hok
      cases hok
  · have hcheck path? := exec_check_of_ready path? hready
    have hdry := exec_dryRun_of_ready way hready
    refine ⟨fun path? => ?_, ?_, ?_⟩
    · rw [hcheck, hdry]
    · intro path? error
      refine ⟨fun herror => ?_, exec_check_of_rejects path?⟩
      rw [hcheck] at herror
      cases herror
    · intro path? _
      refine ⟨document, files, hready, hready.length_eq, ?_, ?_⟩
      · rw [hcheck]
        simp
      · intro later hread
        exact handsOver hway (hready.of_read_eq hread)

/-- A document, written without keys, with one model whose field is left out. -/
def draftText : String := r#"[[],[["Tag",[["at","scalar","Point"]]]]]"#

/-- A session in a project with that document and without a `go` program. -/
def golessSession : Session :=
  let project := FileTree.ofWorking ["project"]
  .ofTree (project.plantBelow Settings.standard.schema (.file (.text draftText))) none

/-- Settings that ask for the `go generate` step. -/
def goSettings : Settings := { Settings.standard with goGenerate := true }

theorem golessSession_fails_late :
    (Persisting.inTurn : Persisting (StateM Session)).IsAllowed ∧
    (exec (Command.check none goSettings) golessSession).1 = .ok () ∧
    (exec (generate goSettings true) golessSession).1 = .ok () ∧
    (exec (generate goSettings false) golessSession).1 = .error (.goNotStarted .notFound) ∧
    FailsLate goSettings (.goNotStarted .notFound) := by
  have hagree := check_agrees_with_generate Persisting.isAllowed_inTurn goSettings golessSession
  have hcheck : (exec (Command.check none goSettings) golessSession).1 = .ok () := by
    have hok : (exec (Command.check none goSettings) golessSession).1.toOption = some () := by
      decide +kernel
    obtain ⟨next, hexec⟩ := exists_exec_eq hok
    rw [hexec]
  have hrun : (exec (generate goSettings false) golessSession).1 =
      .error (.goNotStarted .notFound) := by
    rw [← fault?_eq_some_iff]
    decide +kernel
  obtain ⟨document, files, -, -, -, hhands⟩ := hagree.passes none hcheck
  refine ⟨Persisting.isAllowed_inTurn, hcheck, ?_, hrun, (hhands golessSession rfl).late _ hrun⟩
  exact (hagree.outcome none).symm.trans hcheck

end Agreement

end Command

end EntSchema
