import EntSchema.Command.Check
import EntSchema.Command.Generate
import EntSchema.Command.Init
import EntSchema.Command.Session
import EntSchema.Proofs.DiskRuns

/-!
# Commands on a session

`exec` runs a command on a session.  What comes of it is put together from the steps of the command
(`exec_bind_of_ok`): lines are printed, events are logged, and neither changes a file
(`LeavesFiles`).

A run of the generate command gets through to the showing or the writing of its files exactly when
the settings are `Ready`: the document can be read, it is valid, and every entity has a schema.
-/

namespace EntSchema

/-! ## Logging several events -/

namespace Session

/-- The session with events logged, as far as they pass the filter. -/
def logAll (session : Session) (events : List Log.Event) : Session :=
  events.foldl log session

variable (session : Session)

@[simp] lemma tree_print (text : String) : (session.print text).tree = session.tree := rfl

@[simp] lemma output_print (text : String) :
    (session.print text).output = session.output ++ text := rfl

@[simp] lemma tree_log (event : Log.Event) : (session.log event).tree = session.tree := by
  unfold log
  split
  · split <;> rfl
  · rfl

@[simp] lemma output_log (event : Log.Event) : (session.log event).output = session.output := by
  unfold log
  split
  · split <;> rfl
  · rfl

@[simp] lemma tree_logAll (events : List Log.Event) :
    (session.logAll events).tree = session.tree := by
  induction events generalizing session with
  | nil => rfl
  | cons event rest ih => exact (ih (session.log event)).trans (tree_log session event)

@[simp] lemma output_logAll (events : List Log.Event) :
    (session.logAll events).output = session.output := by
  induction events generalizing session with
  | nil => rfl
  | cons event rest ih => exact (ih (session.log event)).trans (output_log session event)

end Session

namespace Command

open Model (Document)
open Concurrent (MayPersistOnDisk)

/-! ## Running a command -/

/-- What comes of a command on a session, and the session afterwards. -/
def exec {α : Type} (command : Command (StateM Session) α) (session : Session) :
    Except CommandError α × Session :=
  Id.run (command.run.run session)

section Exec

variable {α β ε : Type} {session next : Session} {command : Command (StateM Session) α}

lemma exec_bind_of_ok {value : α} (h : exec command session = (.ok value, next))
    (rest : α → Command (StateM Session) β) :
    exec (command >>= rest) session = exec (rest value) next := by
  show (match exec command session with
    | (outcome, after) => (ExceptT.bindCont rest outcome).run after) = _
  rw [h]
  rfl

lemma exec_bind_of_error {error : CommandError} (h : exec command session = (.error error, next))
    (rest : α → Command (StateM Session) β) :
    exec (command >>= rest) session = (.error error, next) := by
  show (match exec command session with
    | (outcome, after) => (ExceptT.bindCont rest outcome).run after) = _
  rw [h]
  rfl

lemma exists_exec_eq {value : α} (h : (exec command session).1.toOption = some value) :
    ∃ next, exec command session = (.ok value, next) := by
  cases hexec : exec command session with
  | mk outcome next =>
    rw [hexec] at h
    cases outcome with
    | error error => cases h
    | ok found =>
      cases h
      exact ⟨next, rfl⟩

lemma exec_orFail (error : ε → CommandError) (step : StateM Session (Except ε α))
    (session : Session) :
    exec (orFail error step) session =
      ((Id.run (step.run session)).1.mapError error, (Id.run (step.run session)).2) := rfl

lemma exec_lift (step : StateM Session α) (session : Session) :
    exec (ExceptT.lift step) session =
      (.ok (Id.run (step.run session)).1, (Id.run (step.run session)).2) := rfl

lemma exec_say (line : String) (session : Session) :
    exec (say line) session = (.ok (), session.print (line ++ "\n")) := rfl

lemma exec_log (event : Log.Event) (session : Session) :
    exec (log event) session = (.ok (), session.log event) := rfl

lemma exec_logAll (events : List Log.Event) (session : Session) :
    exec (logAll events) session = (.ok (), session.logAll events) := by
  induction events generalizing session with
  | nil => rfl
  | cons event rest ih =>
    exact (exec_bind_of_ok (exec_log event session) _).trans (ih (session.log event))

lemma exec_sayAll (lines : List String) (session : Session) :
    exec (lines.forM say) session = (.ok (), session.print (textOfLines lines)) := by
  induction lines generalizing session with
  | nil =>
    have hnone : session.print "" = session := by simp [Session.print]
    rw [show textOfLines [] = "" from rfl, hnone]
    rfl
  | cons line rest ih =>
    refine (exec_bind_of_ok (exec_say line session) _).trans ?_
    rw [ih (session.print (line ++ "\n"))]
    simp [Session.print, textOfLines, String.append_assoc]

lemma exec_render (settings : Settings) (document : Document) (session : Session) :
    exec (render settings document) session =
      ((settings.generationOptions.generate document).mapError .unrenderable,
        session.logAll (settings.generationOptions.generationEvents document)) :=
  exec_bind_of_ok (exec_logAll _ session) _

/-! ## Loading a document -/

variable {path : Path} {text : String}

lemma exec_readFile (error : IoFault → CommandError) (path : Path) (session : Session) :
    exec (orFail error (Host.readFile path)) session =
      ((session.tree.read path).mapError error, session) := rfl

lemma exec_loadDocument_of_unreadable {fault : IoFault}
    (h : session.tree.read path = .error fault) :
    exec (loadDocument path) session =
      (.error (.unloadableDocument path (.io path fault)), session) := by
  refine exec_bind_of_error ?_ _
  rw [exec_readFile, h]
  rfl

lemma exec_loadDocument_of_read (h : session.tree.read path = .ok text) :
    exec (loadDocument path) session =
      ((Document.parse text).mapError fun error => .unloadableDocument path (.document error),
        session) := by
  refine exec_bind_of_ok ?_ _
  rw [exec_readFile, h]
  rfl

/-! ## Loading settings -/

lemma exec_readSettings_of_read (hread : session.tree.read path = .ok text) :
    exec (readSettings path) session =
      (match Settings.parse? text with
        | some settings => .ok settings
        | none => .error .malformedSettings, session) := by
  have htext := exec_readFile (.unreadableSettings path) path session
  rw [hread] at htext
  refine (exec_bind_of_ok htext _).trans ?_
  cases Settings.parse? text <;> rfl

/-- The named file is loaded, and the usual file when none is named. -/
lemma exec_loadSettings_of_read {path? : Option Path}
    (hread : session.tree.read (path?.getD settingsFile) = .ok text) :
    exec (loadSettings path?) session = exec (readSettings (path?.getD settingsFile)) session := by
  cases path? with
  | some path => rfl
  | none =>
    have hfile : session.tree.isFile settingsFile = true := FileTree.isFile_of_read hread
    have hasked : exec (ExceptT.lift (Host.isFile settingsFile)) session = (.ok true, session) := by
      rw [← hfile]
      rfl
    exact exec_bind_of_ok hasked _

lemma exec_resolveSettings_of_malformed {path? : Option Path} (flags : Overrides)
    (hread : session.tree.read (path?.getD settingsFile) = .ok text)
    (hparse : Settings.parse? text = none) :
    exec (resolveSettings path? flags) session = (.error .malformedSettings, session) := by
  refine exec_bind_of_error ?_ _
  rw [exec_loadSettings_of_read hread, exec_readSettings_of_read hread, hparse]

/-- Settings are judged with the flags in their place. -/
lemma exec_resolveSettings_of_parse {path? : Option Path} {settings : Settings} (flags : Overrides)
    (hread : session.tree.read (path?.getD settingsFile) = .ok text)
    (hparse : Settings.parse? text = some settings) :
    exec (resolveSettings path? flags) session =
      ((settings.apply flags).validate.mapError .invalidSettings, session) := by
  refine exec_bind_of_ok ?_ _
  rw [exec_loadSettings_of_read hread, exec_readSettings_of_read hread, hparse]

lemma exec_resolveSettings_of_read {settings : Settings} (hread : session.tree.read path = .ok text)
    (hparse : Settings.parse? text = some settings) (hvalid : settings.validate = .ok settings) :
    exec (resolveSettings (some path) .none) session = (.ok settings, session) := by
  have hnamed : session.tree.read ((some path).getD settingsFile) = .ok text := hread
  rw [exec_resolveSettings_of_parse .none hnamed hparse, Settings.apply_none, hvalid]
  rfl

end Exec

/-! ## Commands that leave the files alone -/

/-- Whether a command changes no file or directory, whatever comes of it. -/
def LeavesFiles {α : Type} (command : Command (StateM Session) α) : Prop :=
  ∀ session, (exec command session).2.tree = session.tree

namespace LeavesFiles

variable {α β : Type} {command : Command (StateM Session) α}

lemma pure (value : α) : LeavesFiles (pure value) := fun _ => rfl

lemma bind (h : LeavesFiles command) {rest : α → Command (StateM Session) β}
    (hrest : ∀ value, LeavesFiles (rest value)) : LeavesFiles (command >>= rest) := by
  intro session
  have hcommand := h session
  cases hexec : exec command session with
  | mk outcome next =>
    rw [hexec] at hcommand
    cases outcome with
    | ok value => rw [exec_bind_of_ok hexec, hrest value next, hcommand]
    | error error => rw [exec_bind_of_error hexec, hcommand]

lemma say (line : String) : LeavesFiles (say line) := fun _ => rfl

lemma print (text : String) : LeavesFiles (print text) := fun _ => rfl

lemma logAll (events : List Log.Event) : LeavesFiles (logAll events) := by
  intro session
  rw [exec_logAll, Session.tree_logAll]

lemma sayAll (lines : List String) : LeavesFiles (lines.forM Command.say) := by
  induction lines with
  | nil => exact .pure ()
  | cons line rest ih => exact .bind (.say line) fun _ => ih

lemma loadDocument (path : Path) : LeavesFiles (loadDocument path) := by
  intro session
  cases hread : session.tree.read path with
  | error fault => rw [exec_loadDocument_of_unreadable hread]
  | ok text => rw [exec_loadDocument_of_read hread]

lemma render (settings : Settings) (document : Document) :
    LeavesFiles (render settings document) := by
  intro session
  rw [exec_render, Session.tree_logAll]

lemma check (path? : Option Path) (settings : Settings) : LeavesFiles (check path? settings) := by
  refine .bind (.say _) fun _ => ?_
  refine .bind (.loadDocument _) fun document => ?_
  refine .bind (.render settings document) fun files => ?_
  exact .sayAll (findings settings document files)

lemma showFiles (way : Persisting (StateM Session)) (directory : Path)
    (files : List GeneratedFile) : LeavesFiles (showFiles way directory files) := by
  refine .bind (.logAll _) fun _ => ?_
  refine .bind (.print _) fun _ => ?_
  exact .say _

lemma dryRun (way : Persisting (StateM Session)) (settings : Settings) :
    LeavesFiles (generateBy way settings true) := by
  refine .bind (.say _) fun _ => ?_
  refine .bind (.loadDocument _) fun document => ?_
  refine .bind (.render settings document) fun files => ?_
  exact .showFiles way _ files

end LeavesFiles

/-! ## The generate command -/

/-- Whether the files of a document are all that settings give on a tree: the document can be read,
it is valid, and every entity has a schema. -/
structure Ready (tree : FileTree) (settings : Settings) (document : Document)
    (files : List GeneratedFile) : Prop where
  loaded : ∃ text, tree.read settings.schema = .ok text ∧ Document.parse text = .ok document
  generated : settings.generationOptions.generate document = .ok files

/-- Loading a document and rendering its files, and then something that needs both. -/
def gather {α : Type} (settings : Settings)
    (rest : Document → List GeneratedFile → Command (StateM Session) α) :
    Command (StateM Session) α := do
  let document ← loadDocument settings.schema
  let files ← render settings document
  rest document files

section Gather

variable {α : Type} {settings : Settings} {document : Document} {files : List GeneratedFile}
  {session : Session} {text : String}
  (rest : Document → List GeneratedFile → Command (StateM Session) α)

lemma exec_gather_of_unreadable {fault : IoFault}
    (h : session.tree.read settings.schema = .error fault) :
    exec (gather settings rest) session =
      (.error (.unloadableDocument settings.schema (.io settings.schema fault)), session) :=
  exec_bind_of_error (exec_loadDocument_of_unreadable h) _

lemma exec_gather_of_invalid {error : Model.DecodingError}
    (h : session.tree.read settings.schema = .ok text)
    (hparse : Document.parse text = .error error) :
    exec (gather settings rest) session =
      (.error (.unloadableDocument settings.schema (.document error)), session) := by
  have hload := exec_loadDocument_of_read h
  rw [hparse] at hload
  exact exec_bind_of_error hload _

lemma exec_gather_of_unrenderable {fault : MissingEnum}
    (h : session.tree.read settings.schema = .ok text) (hparse : Document.parse text = .ok document)
    (hgenerate : settings.generationOptions.generate document = .error fault) :
    exec (gather settings rest) session = (.error (.unrenderable fault),
      session.logAll (settings.generationOptions.generationEvents document)) := by
  have hload := exec_loadDocument_of_read h
  rw [hparse] at hload
  have hrender := exec_render settings document session
  rw [hgenerate] at hrender
  exact (exec_bind_of_ok hload _).trans (exec_bind_of_error hrender _)

/-- With the files at hand it goes on. -/
lemma exec_gather_of_ready (h : Ready session.tree settings document files) :
    exec (gather settings rest) session = exec (rest document files)
      (session.logAll (settings.generationOptions.generationEvents document)) := by
  obtain ⟨text, htext, hparse⟩ := h.loaded
  have hload := exec_loadDocument_of_read htext
  rw [hparse] at hload
  have hrender := exec_render settings document session
  rw [h.generated] at hrender
  exact (exec_bind_of_ok hload _).trans (exec_bind_of_ok hrender _)

end Gather

section Generate

variable {way : Persisting (StateM Session)} {settings : Settings} {document : Document}
  {files : List GeneratedFile} {dryRun : Bool} {session : Session}

/-- The line that a run of the generate command starts with. -/
def readingLine (settings : Settings) : String :=
  "Reading model document: " ++ settings.schema.text ++ "\n"

/-- What the generate command does with the files. -/
def persistOrShow (way : Persisting (StateM Session)) (settings : Settings) (dryRun : Bool)
    (files : List GeneratedFile) : Command (StateM Session) Unit :=
  if dryRun then showFiles way settings.output.directory files
  else do
    writeFiles way settings.output.directory files
    if settings.goGenerate then runGoGenerate settings.output.directory
    say "\nDone!"

/-- The command is opened here and nowhere else. -/
lemma exec_generateBy (way : Persisting (StateM Session)) (settings : Settings) (dryRun : Bool)
    (session : Session) :
    exec (generateBy way settings dryRun) session =
      exec (gather settings fun _ files => persistOrShow way settings dryRun files)
        (session.print (readingLine settings)) :=
  exec_bind_of_ok (exec_say _ session) _

lemma exec_generateBy_of_unreadable (way : Persisting (StateM Session)) (dryRun : Bool)
    {fault : IoFault}
    (h : session.tree.read settings.schema = .error fault) :
    exec (generateBy way settings dryRun) session =
      (.error (.unloadableDocument settings.schema (.io settings.schema fault)),
        session.print (readingLine settings)) := by
  rw [exec_generateBy]
  exact exec_gather_of_unreadable _ h

lemma exec_generateBy_of_invalid (way : Persisting (StateM Session)) (dryRun : Bool) {text : String}
    {error : Model.DecodingError} (h : session.tree.read settings.schema = .ok text)
    (hparse : Document.parse text = .error error) :
    exec (generateBy way settings dryRun) session =
      (.error (.unloadableDocument settings.schema (.document error)),
        session.print (readingLine settings)) := by
  rw [exec_generateBy]
  exact exec_gather_of_invalid _ h hparse

/-- The session in which the files of a document have been generated. -/
def generatedSession (settings : Settings) (document : Document) (session : Session) : Session :=
  (session.print (readingLine settings)).logAll
    (settings.generationOptions.generationEvents document)

@[simp] lemma tree_generatedSession (settings : Settings) (document : Document)
    (session : Session) :
    (generatedSession settings document session).tree = session.tree := by
  simp [generatedSession]

@[simp] lemma output_generatedSession (settings : Settings) (document : Document)
    (session : Session) :
    (generatedSession settings document session).output =
      session.output ++ readingLine settings := by
  simp [generatedSession]

lemma exec_generateBy_of_unrenderable (way : Persisting (StateM Session)) (dryRun : Bool)
    {text : String} {fault : MissingEnum}
    (h : session.tree.read settings.schema = .ok text) (hparse : Document.parse text = .ok document)
    (hgenerate : settings.generationOptions.generate document = .error fault) :
    exec (generateBy way settings dryRun) session =
      (.error (.unrenderable fault), generatedSession settings document session) := by
  rw [exec_generateBy]
  exact exec_gather_of_unrenderable _ h hparse hgenerate

/-- With the files at hand the command goes on to show or to write them. -/
lemma exec_generateBy_of_ready (way : Persisting (StateM Session)) (dryRun : Bool)
    (h : Ready session.tree settings document files) :
    exec (generateBy way settings dryRun) session =
      exec (persistOrShow way settings dryRun files)
        (generatedSession settings document session) := by
  rw [exec_generateBy]
  exact exec_gather_of_ready _ h

/-! ## Showing and writing -/

/-- The line that a dry run ends with. -/
def nothingWrittenLine (directory : Path) : String :=
  "Dry run: nothing written to " ++ directory.text ++ "\n"

lemma exec_showFiles (directory : Path) :
    exec (showFiles way directory files) session =
      (.ok (), ((session.logAll (way.inMemory directory files).1.events).print
        (way.inMemory directory files).2.preview).print (nothingWrittenLine directory)) :=
  exec_bind_of_ok (exec_logAll _ session) _

lemma exec_dryRun_of_ready (way : Persisting (StateM Session))
    (h : Ready session.tree settings document files) :
    exec (generateBy way settings true) session =
      (.ok (), (((generatedSession settings document session).logAll
        (way.inMemory settings.output.directory files).1.events).print
          (way.inMemory settings.output.directory files).2.preview).print
            (nothingWrittenLine settings.output.directory)) := by
  rw [exec_generateBy_of_ready way true h]
  exact exec_showFiles settings.output.directory

/-- The line that tells how many files were written. -/
def generatedLine (count : Nat) (directory : Path) : String :=
  "✓ Generated " ++ toString count ++ " schema file(s) in " ++ directory.text ++ "\n"

variable {directory : Path} {persisted : Persisted} {next : Session}

lemma exec_writeFiles (h : Id.run ((way.onHost directory files).run session) = (persisted, next)) :
    exec (writeFiles way directory files) session =
      match persisted.result with
      | .ok count =>
        (.ok (), ((next.logAll persisted.events).log (generatedEvent count directory)).print
          (generatedLine count directory))
      | .error fault => (.error (.unwritable directory fault), next.logAll persisted.events) := by
  have hhost := exec_lift (way.onHost directory files) session
  rw [h] at hhost
  refine (exec_bind_of_ok hhost _).trans ?_
  refine (exec_bind_of_ok (exec_logAll persisted.events next) _).trans ?_
  cases persisted.result <;> rfl

/-- A run that is to write persists the files in an allowed order, and fails as that does. -/
lemma exec_generateBy_allowed (hway : way.IsAllowed)
    (hready : Ready session.tree settings document files)
    (hgo : settings.goGenerate = false) :
    ∃ persisted next,
      MayPersistOnDisk settings.output.directory files session.tree persisted next.tree ∧
      ((∃ count, persisted.result = .ok count ∧
          exec (generateBy way settings false) session = (.ok (), next) ∧
          next.output = session.output ++ readingLine settings ++
            generatedLine count settings.output.directory ++ "\nDone!\n") ∨
        ∃ fault, persisted.result = .error fault ∧
          exec (generateBy way settings false) session =
            (.error (.unwritable settings.output.directory fault), next)) := by
  obtain ⟨persisted, tree, hrun, hpersist⟩ := hway.onHost settings.output.directory files
    (generatedSession settings document session)
  rw [tree_generatedSession] at hpersist
  have hrest := exec_generateBy_of_ready way false hready
  rw [persistOrShow, hgo] at hrest
  have hwrite := exec_writeFiles hrun
  cases hresult : persisted.result with
  | ok count =>
    rw [hresult] at hwrite
    refine ⟨persisted, _, ?_, .inl ⟨count, hresult, hrest.trans (exec_bind_of_ok hwrite _), ?_⟩⟩
    · simpa using hpersist
    · simp
  | error fault =>
    rw [hresult] at hwrite
    refine ⟨persisted, _, ?_, .inr ⟨fault, hresult, hrest.trans (exec_bind_of_error hwrite _)⟩⟩
    simpa using hpersist

end Generate

/-! ## The init command -/

section Init

variable {options : StarterOptions} {directory : Path} {session : Session}

lemma exec_holds (path : Path) (session : Session) :
    exec (ExceptT.lift (Host.holds path)) session = (.ok (session.tree.holds path), session) := rfl

lemma exec_init_of_held (hheld : session.tree.holds (directory.join settingsFile) = true)
    (hforce : options.force = false) :
    exec (init directory options) session =
      (.error (.settingsExist (directory.join settingsFile)), session) := by
  have hasked := exec_holds (directory.join settingsFile) session
  rw [hheld] at hasked
  refine (exec_bind_of_ok hasked _).trans ?_
  rw [hforce]
  rfl

lemma exec_init_of_free
    (hfree : session.tree.holds (directory.join settingsFile) = false ∨ options.force = true) :
    (∃ fault, exec (init directory options) session =
      (.error (.unwritableSettings (directory.join settingsFile) fault), session)) ∨
    ∃ next,
      session.tree.write (directory.join settingsFile) (Starter.text options) = .ok next.tree ∧
      exec (init directory options) session = (.ok (directory.join settingsFile), next) := by
  set path := directory.join settingsFile
  have hasked := exec_holds path session
  have hgoes : (session.tree.holds path && !options.force) = false := by
    obtain hfree | hforce := hfree
    · rw [hfree, Bool.false_and]
    · rw [hforce, Bool.not_true, Bool.and_false]
  have hrest : exec (init directory options) session = exec (do
      orFail (.unwritableSettings path) (Host.writeFile path (Starter.text options))
      log (startedEvent path)
      (nextSteps path options.schema).forM say
      return path) session := by
    refine (exec_bind_of_ok hasked _).trans ?_
    rw [hgoes]
    rfl
  have hstep := exec_orFail (.unwritableSettings path)
    (Host.writeFile path (Starter.text options) : StateM Session _) session
  have hhost :
      Id.run ((Host.writeFile path (Starter.text options) : StateM Session _).run session) =
      session.writeFile path (Starter.text options) := rfl
  rw [hhost, Session.writeFile] at hstep
  rw [hrest]
  cases hwrite : session.tree.write path (Starter.text options) with
  | error fault =>
    rw [hwrite] at hstep
    exact .inl ⟨fault, exec_bind_of_error hstep _⟩
  | ok tree =>
    rw [hwrite] at hstep
    have hsay := exec_sayAll (nextSteps path options.schema)
      (({ session with tree := tree } : Session).log (startedEvent path))
    refine .inr ⟨(({ session with tree := tree } : Session).log (startedEvent path)).print
      (textOfLines (nextSteps path options.schema)), ?_, ?_⟩
    · rw [Session.tree_print, Session.tree_log]
    · refine (exec_bind_of_ok hstep _).trans ?_
      refine (exec_bind_of_ok (exec_log _ _) _).trans ?_
      exact exec_bind_of_ok hsay _

/-- The init command fails and leaves the session alone, or it has written the starter text. -/
lemma exec_init_cases (directory : Path) (options : StarterOptions) (session : Session) :
    (∃ error, exec (init directory options) session = (.error error, session)) ∨
    ∃ next,
      session.tree.write (directory.join settingsFile) (Starter.text options) = .ok next.tree ∧
      exec (init directory options) session = (.ok (directory.join settingsFile), next) := by
  by_cases hheld : session.tree.holds (directory.join settingsFile) = true ∧ options.force = false
  · exact .inl ⟨_, exec_init_of_held hheld.1 hheld.2⟩
  · rw [not_and_or, Bool.not_eq_true, Bool.not_eq_false] at hheld
    exact (exec_init_of_free hheld).imp_left fun ⟨fault, hexec⟩ => ⟨_, hexec⟩

/-- The init command succeeds only where the starter text can be read afterwards. -/
lemma read_of_exec_init {path : Path} {next : Session}
    (hrun : exec (init directory options) session = (.ok path, next)) :
    next.tree.read path = .ok (Starter.text options) := by
  obtain ⟨error, hexec⟩ | ⟨written, hwrite, hexec⟩ := exec_init_cases directory options session
  · rw [hexec] at hrun
    cases hrun
  · rw [hexec] at hrun
    cases hrun
    exact FileTree.read_of_write hwrite

end Init

end Command

end EntSchema
