import EntSchema.Command.Generate
import EntSchema.Command.Session
import EntSchema.Proofs.EveryInterleaving
import EntSchema.Proofs.TreeWalks
import Mathlib.Data.List.Induction

/-!
# Persisting on a disk, in every order

The steps of persisting are carried out on a file tree (`DiskStep`): the making of the directory and
the writes change it, all other steps leave it alone.  Which operations fail is again settled by a
plan.  An operation that cannot succeed on the tree has to fail in the plan, and any other may fail
as well, since a disk knows more reasons to refuse than the tree does.

A run changes only what persisting may change (`DiskRun.changesOnly`), and what was written is there
until another file is written to the same place (`DiskRun.stands`).  `persist` on a session
is one of the runs (`isAllowed_inTurn`).
-/

namespace EntSchema.Concurrent

/-- What a step of persisting does to the files of a tree.  When the directory cannot be made, some
of those above it may have been. -/
inductive DiskStep (plan : Plan) (tree : FileTree) : Action → FileTree → Prop where
  | ensure {made : FileTree} (hfault : plan.directoryFault? = none)
    (hmade : tree.makeDirectories plan.directory = ⟨made, none⟩) :
    DiskStep plan tree .ensure made
  | ensureFails {fault : StoreFault} {above : Path} (hfault : plan.directoryFault? = some fault)
    (habove : above.AtOrAbove plan.directory) :
    DiskStep plan tree .ensure (tree.makeDirectories above).tree
  | write {task : Task} {next : FileTree} (hfault : task.fault? = none)
    (hwrite : tree.write task.file.path task.file.source = .ok next) :
    DiskStep plan tree (.write task) next
  | writeFails {task : Task} {fault : StoreFault} (hfault : task.fault? = some fault) :
    DiskStep plan tree (.write task) tree
  | quiet {action : Action} (hquiet : action.IsQuiet) : DiskStep plan tree action tree

/-- The trees after some actions, one after another. -/
inductive DiskRun (plan : Plan) (first : FileTree) : List Action → FileTree → Prop where
  | nil : DiskRun plan first [] first
  | snoc {actions : List Action} {tree : FileTree} {action : Action} {next : FileTree}
    (run : DiskRun plan first actions tree) (step : DiskStep plan tree action next) :
    DiskRun plan first (actions ++ [action]) next

/-- Whether persisting files, carried out by some actions, can come to an outcome. -/
structure Outcome (plan : Plan) (actions : List Action) (state : State) (persisted : Persisted) :
    Prop where
  run : Run plan (plan.initial .empty) actions state
  stage : state.stage = .returned persisted.result
  written : persisted.written =
    (storedFiles (actions.filterMap Action.written?)).map GeneratedFile.path

variable {plan : Plan} {first tree next : FileTree} {actions more : List Action} {action : Action}

/-! ## What a run changes -/

lemma DiskStep.changesOnly (step : DiskStep plan tree action next)
    (hwritten : ∀ task ∈ action.written?, task ∈ plan.tasks) :
    tree.ChangesOnly next plan.directory plan.files := by
  cases step with
  | ensure hfault hmade =>
    have hchanges := tree.changesOnly_makeDirectories (.refl plan.directory) plan.files
    rwa [hmade] at hchanges
  | ensureFails hfault habove => exact tree.changesOnly_makeDirectories habove plan.files
  | @write task _ hfault hwrite =>
    have hfile : task.file ∈ plan.files := List.mem_map_of_mem (hwritten task rfl)
    exact FileTree.changesOnly_of_write hfile hwrite
  | writeFails | quiet => exact .refl tree _ _

lemma DiskRun.changesOnly (run : DiskRun plan first actions tree)
    (hwritten : actions.filterMap Action.written? ⊆ plan.tasks) :
    first.ChangesOnly tree plan.directory plan.files := by
  induction run with
  | nil => exact .refl first _ _
  | @snoc actions tree action next run step ih =>
    rw [filterMap_concat] at hwritten
    obtain ⟨hbefore, hlast⟩ := List.append_subset.1 hwritten
    exact (ih hbefore).trans (step.changesOnly fun task htask => hlast (Option.mem_toList.2 htask))

/-! ## What was written is there -/

/-- Whether a file, or another one that leads to the same place, stands where it leads. -/
def Stands (tree : FileTree) (files : List GeneratedFile) (file : GeneratedFile) : Prop :=
  FileTree.endsInSlash file.path = false ∧ ∃ location, tree.LeadsTo file.path location ∧
    ∃ last ∈ files, tree.LeadsTo last.path location ∧
      tree.node? location = some (.file (.text last.source))

lemma Stands.mono {files others : List GeneratedFile} {file : GeneratedFile} (hsub : files ⊆ others)
    (h : Stands tree files file) : Stands tree others file := by
  obtain ⟨hslash, location, hleads, last, hlast, hleads', hnode⟩ := h
  exact ⟨hslash, location, hleads, last, hsub hlast, hleads', hnode⟩

/-- Making directories leaves files where they are. -/
lemma Stands.of_changesOnly {files : List GeneratedFile} {file : GeneratedFile} {directory : Path}
    (hchanges : tree.ChangesOnly next directory []) (h : Stands tree files file) :
    Stands next files file := by
  obtain ⟨hslash, location, hleads, last, hlast, hleads', hnode⟩ := h
  refine ⟨hslash, location, hleads.mono hchanges.keeps, last, hlast,
    hleads'.mono hchanges.keeps, ?_⟩
  cases hchanges.places location with
  | same hsame => rw [hsame, hnode]
  | made hbefore => simp [hbefore] at hnode
  | written _ hfile => exact absurd hfile List.not_mem_nil

lemma Stands.of_write {files : List GeneratedFile} {file written : GeneratedFile}
    (hwritten : written ∈ files) (hwrite : tree.write written.path written.source = .ok next)
    (h : Stands tree files file) : Stands next files file := by
  obtain ⟨hslash, location, hleads, last, hlast, hleads', hnode⟩ := h
  have hkeeps := FileTree.keeps_of_write hwrite
  obtain ⟨-, place, hplace, -, -⟩ := FileTree.write_eq_ok_iff.1 hwrite
  have hafter := FileTree.node?_of_write hwrite hplace location
  by_cases heq : location = place
  · rw [if_pos heq] at hafter
    subst heq
    exact ⟨hslash, location, hleads.mono hkeeps, written, hwritten, hplace.mono hkeeps, hafter⟩
  · rw [if_neg heq, hnode] at hafter
    exact ⟨hslash, location, hleads.mono hkeeps, last, hlast, hleads'.mono hkeeps, hafter⟩

lemma stands_of_write {files : List GeneratedFile} {written : GeneratedFile}
    (hwritten : written ∈ files) (hwrite : tree.write written.path written.source = .ok next) :
    Stands next files written := by
  have hkeeps := FileTree.keeps_of_write hwrite
  obtain ⟨hslash, place, hplace, -, -⟩ := FileTree.write_eq_ok_iff.1 hwrite
  have hafter := FileTree.node?_of_write hwrite hplace place
  rw [if_pos rfl] at hafter
  exact ⟨hslash, place, hplace.mono hkeeps, written, hwritten, hplace.mono hkeeps, hafter⟩

/-- At the place of a file that was written stands the file that was last written there. -/
lemma DiskRun.stands (run : DiskRun plan first actions tree) :
    ∀ file ∈ storedFiles (actions.filterMap Action.written?),
      Stands tree (storedFiles (actions.filterMap Action.written?)) file := by
  induction run with
  | nil => simp [storedFiles]
  | @snoc actions tree action next run step ih =>
    rw [filterMap_concat, storedFiles_append]
    set before := storedFiles (actions.filterMap Action.written?)
    intro file hfile
    have hkept (hold : file ∈ before) :
        Stands tree (before ++ storedFiles action.written?.toList) file :=
      (ih file hold).mono (List.subset_append_left _ _)
    cases step with
    | ensure hfault hmade =>
      have hchanges := tree.changesOnly_makeDirectories (.refl plan.directory) []
      rw [hmade] at hchanges
      exact (hkept (by simpa [storedFiles] using hfile)).of_changesOnly hchanges
    | ensureFails hfault habove =>
      have hchanges := tree.changesOnly_makeDirectories habove []
      exact (hkept (by simpa [storedFiles] using hfile)).of_changesOnly hchanges
    | @write task _ hfault hwrite =>
      have hlast : storedFiles (Action.write task).written?.toList = [task.file] := by
        simp [storedFiles, hfault]
      rw [hlast] at hfile hkept ⊢
      have hmem : task.file ∈ before ++ [task.file] := by simp
      obtain hold | hnew := List.mem_append.1 hfile
      · exact (hkept hold).of_write hmem hwrite
      · rw [List.mem_singleton.1 hnew]
        exact stands_of_write hmem hwrite
    | writeFails hfault =>
      exact hkept (by simpa [storedFiles, hfault] using hfile)
    | quiet hquiet =>
      rw [hquiet.written?_eq_none] at hfile hkept ⊢
      exact hkept (by simpa [storedFiles] using hfile)

/-! ## The order in which `persist` takes the steps -/

lemma DiskRun.trans {middle last : FileTree} (run : DiskRun plan first actions middle)
    (further : DiskRun plan middle more last) : DiskRun plan first (actions ++ more) last := by
  induction further with
  | nil => simpa using run
  | snoc _ step ih =>
    rw [← List.append_assoc]
    exact ih.snoc step

lemma diskRun_quiet (plan : Plan) (tree : FileTree) (hquiet : ∀ action ∈ actions, action.IsQuiet) :
    DiskRun plan tree actions tree := by
  induction actions using List.reverseRecOn with
  | nil => exact .nil
  | append_singleton before action ih =>
    obtain ⟨hbefore, hlast⟩ := List.forall_mem_append.1 hquiet
    exact (ih hbefore).snoc (.quiet (hlast action (List.mem_singleton_self action)))

section Session

variable (session : Session)

lemma ensureDirectory_session (directory : Path) :
    (Store.ensureDirectory directory : StateM Session _).run session =
      pure (match (session.tree.makeDirectories directory).fault? with
        | some fault => .error (.io directory fault)
        | none => .ok (),
        { session with tree := (session.tree.makeDirectories directory).tree }) := by
  show (pure ((session.makeDirectories directory).1.mapError (StoreFault.io directory),
    (session.makeDirectories directory).2) : Id _) = _
  dsimp only [Session.makeDirectories]
  cases (session.tree.makeDirectories directory).fault? <;> rfl

lemma writeFile_session (path : Path) (source : String) :
    (Store.writeFile path source : StateM Session _).run session =
      pure (match session.tree.write path source with
        | .ok next => (.ok (), { session with tree := next })
        | .error fault => (.error (.io path fault), session)) := by
  show (pure ((session.writeFile path source).1.mapError (StoreFault.io path),
    (session.writeFile path source).2) : Id _) = _
  dsimp only [Session.writeFile]
  cases session.tree.write path source <;> rfl

/-- Writing files one after another to a session lets the tasks of a plan write in that order. -/
lemma writeAll_session (files : List GeneratedFile) :
    ∃ tasks tree, tasks.map Task.file = files ∧
      (∀ plan, DiskRun plan session.tree (tasks.map .write) tree) ∧
      Id.run ((writeAll files : StateM Session Persisted).run session) =
        (⟨(storedFiles tasks).map GeneratedFile.path, tasks.findSome? Task.fault?⟩,
          { session with tree := tree }) := by
  induction files generalizing session with
  | nil => exact ⟨[], session.tree, rfl, fun _ => .nil, rfl⟩
  | cons file rest ih =>
    cases hwrite : session.tree.write file.path file.source with
    | ok next =>
      obtain ⟨tasks, tree, hfiles, hrun, hrest⟩ := ih { session with tree := next }
      have hfirst plan : DiskRun plan session.tree [.write ⟨file, none⟩] next :=
        DiskRun.nil.snoc (.write rfl hwrite)
      have hstep : (writeAll (file :: rest) : StateM Session Persisted).run session = do
          let others ← (writeAll rest : StateM Session Persisted).run { session with tree := next }
          return (⟨file.path :: others.1.written, others.1.fault?⟩, others.2) := by
        rw [writeAll, StateT.run_bind, writeFile_session, hwrite]
        rfl
      refine ⟨⟨file, none⟩ :: tasks, tree, by rw [List.map_cons, hfiles],
        fun plan => (hfirst plan).trans (hrun plan), ?_⟩
      rw [hstep, Id.run_bind, hrest]
      rfl
    | error fault =>
      obtain ⟨tasks, tree, hfiles, hrun, hrest⟩ := ih session
      have hfirst plan :
          DiskRun plan session.tree [.write ⟨file, some (.io file.path fault)⟩] session.tree :=
        DiskRun.nil.snoc (.writeFails rfl)
      refine ⟨⟨file, some (.io file.path fault)⟩ :: tasks, tree, by rw [List.map_cons, hfiles],
        fun plan => (hfirst plan).trans (hrun plan), ?_⟩
      have hstep : (writeAll (file :: rest) : StateM Session Persisted).run session = do
          let others ← (writeAll rest : StateM Session Persisted).run session
          return (⟨others.1.written, some (.io file.path fault)⟩, others.2) := by
        rw [writeAll, StateT.run_bind, writeFile_session, hwrite]
        rfl
      rw [hstep, Id.run_bind, hrest]
      rfl

/-- The order of `persist`: the directory, all starts, all writes, and then waiting. -/
lemma exists_outcome_inTurn (plan : Plan) (hfault : plan.directoryFault? = none) :
    ∃ waits last, (∀ action ∈ waits, action.IsQuiet) ∧
      Outcome plan ([.ensure] ++ plan.tasks.map .start ++ plan.tasks.map .write ++ waits) last
        ⟨(storedFiles plan.tasks).map GeneratedFile.path, plan.tasks.findSome? Task.fault?⟩ ∧
      last.store = (MemoryStore.empty.addDirectory plan.directory).putFiles
        (storedFiles plan.tasks) := by
  set made := MemoryStore.empty.addDirectory plan.directory
  have step : Step plan (plan.initial .empty) .ensure ⟨.working, made, plan.tasks, [], [], 0⟩ :=
    .ensure rfl hfault
  have starts := run_starts plan made [] 0 plan.tasks []
  have writes := run_writes plan made [] 0 plan.tasks
  obtain ⟨waits, last, joins, hquiet, hstage, hstore⟩ :=
    run_joins plan (made.putFiles (storedFiles plan.tasks)) 0 plan.tasks
  have hresult := outcome_eq_result plan.tasks []
  refine ⟨waits, last, hquiet, ⟨?_, ?_, ?_⟩, hstore⟩
  · exact (((Run.single step).trans starts).trans writes).trans joins
  · exact hstage.trans (congrArg Stage.returned hresult.symm)
  · have hwaits : waits.filterMap Action.written? = [] :=
      List.filterMap_eq_nil_iff.2 fun action haction => (hquiet action haction).written?_eq_none
    have hwrites : (plan.tasks.map Action.write).filterMap Action.written? = plan.tasks := by
      simp [List.filterMap_map, Function.comp_def]
    simp [hwaits, hwrites, List.filterMap_cons, List.filterMap_map, Function.comp_def]

end Session

/-! ## Ways of persisting -/

/-- Whether persisting files in memory, where nothing fails, can come to an outcome and a store. -/
def MayPersistInMemory (directory : Path) (files : List GeneratedFile)
    (persisted : Persisted) (store : MemoryStore) : Prop :=
  ∃ plan actions state, plan.directory = directory ∧ plan.files = files ∧ plan.Succeeds ∧
    Outcome plan actions state persisted ∧ state.store = store

/-- Whether persisting files on a disk can come to an outcome and a tree. -/
def MayPersistOnDisk (directory : Path) (files : List GeneratedFile) (tree : FileTree)
    (persisted : Persisted) (next : FileTree) : Prop :=
  ∃ plan actions state, plan.directory = directory ∧ plan.files = files ∧
    Outcome plan actions state persisted ∧ DiskRun plan tree actions next

section Persisted

variable {directory : Path} {files : List GeneratedFile} {persisted : Persisted} {count : Nat}

/-- In memory all orders leave the same files behind where the paths differ. -/
lemma MayPersistInMemory.store_eq {store : MemoryStore}
    (h : MayPersistInMemory directory files persisted store)
    (hdistinct : (files.map (·.path.components)).Nodup) :
    store = (MemoryStore.empty.addDirectory directory).putFiles files := by
  obtain ⟨plan, actions, state, rfl, rfl, hsucceeds, houtcome, rfl⟩ := h
  obtain ⟨count, hresult⟩ := (houtcome.run.ok_iff houtcome.stage).2 hsucceeds
  have hstage := houtcome.stage
  rw [hresult] at hstage
  exact houtcome.run.store_eq_putFiles hdistinct hstage

lemma MayPersistOnDisk.changesOnly (h : MayPersistOnDisk directory files tree persisted next) :
    tree.ChangesOnly next directory files := by
  obtain ⟨plan, actions, state, rfl, rfl, houtcome, hdisk⟩ := h
  obtain ⟨-, -, -, hwritten⟩ := houtcome.run.store_eq
  exact hdisk.changesOnly hwritten

/-- A success has written all files, and each place holds the file that came there last. -/
lemma MayPersistOnDisk.of_ok (h : MayPersistOnDisk directory files tree persisted next)
    (hresult : persisted.result = .ok count) :
    count = files.length ∧ ∀ file ∈ files, Stands next files file := by
  obtain ⟨plan, actions, state, rfl, rfl, houtcome, hdisk⟩ := h
  have hstage := houtcome.stage
  rw [hresult] at hstage
  have hsucceeds : plan.Succeeds := (houtcome.run.ok_iff hstage).1 ⟨count, rfl⟩
  have ledger := houtcome.run.ledger hsucceeds.1 (houtcome.run.ne_nil hstage)
  have hstored : (storedFiles (actions.filterMap Action.written?)).Perm plan.files := by
    have hperm := storedFiles_perm (ledger.of_ok hstage).1
    rwa [storedFiles_eq_map hsucceeds.2] at hperm
  refine ⟨(houtcome.run.of_ok hstage).1, fun file hfile => ?_⟩
  exact (hdisk.stands file (hstored.mem_iff.2 hfile)).mono hstored.subset

end Persisted

end EntSchema.Concurrent

namespace EntSchema.Command

open Concurrent

/-- Whether a way of persisting takes the steps in one of the orders that are allowed. -/
structure Persisting.IsAllowed (way : Persisting (StateM Session)) : Prop where
  inMemory : ∀ directory files,
    MayPersistInMemory directory files (way.inMemory directory files).1
      (way.inMemory directory files).2
  onHost : ∀ directory files session, ∃ persisted tree,
    Id.run ((way.onHost directory files).run session) = (persisted, { session with tree := tree }) ∧
      MayPersistOnDisk directory files session.tree persisted tree

lemma mayPersistInMemory_inTurn (directory : Path) (files : List GeneratedFile) :
    MayPersistInMemory directory files (persistInMemory directory files).1
      (persistInMemory directory files).2 := by
  set plan : Plan := ⟨directory, none, files.map (⟨·, none⟩)⟩
  have hfiles : plan.files = files := by simp [Plan.files, plan, Function.comp_def]
  have hsucceeds : plan.Succeeds := ⟨rfl, by simp [plan]⟩
  have hstored : storedFiles plan.tasks = files :=
    (storedFiles_eq_map hsucceeds.2).trans hfiles
  have hfault : plan.tasks.findSome? Task.fault? = none :=
    List.findSome?_eq_none_iff.2 hsucceeds.2
  obtain ⟨waits, last, -, houtcome, hstore⟩ := exists_outcome_inTurn plan rfl
  rw [hstored, hfault] at houtcome
  rw [hstored] at hstore
  rw [persistInMemory_eq]
  exact ⟨plan, _, last, rfl, hfiles, hsucceeds, houtcome, hstore⟩

lemma mayPersistOnDisk_inTurn (directory : Path) (files : List GeneratedFile)
    (session : Session) : ∃ persisted tree,
      Id.run ((persist directory files : StateM Session Persisted).run session) =
        (persisted, { session with tree := tree }) ∧
      MayPersistOnDisk directory files session.tree persisted tree := by
  set made := (session.tree.makeDirectories directory).tree with hmade
  cases hfault : (session.tree.makeDirectories directory).fault? with
  | some fault =>
    set plan : Plan := ⟨directory, some (.io directory fault), files.map (⟨·, none⟩)⟩
    have hfiles : plan.files = files := by simp [Plan.files, plan, Function.comp_def]
    have hdisk : DiskRun plan session.tree [.ensure] made :=
      DiskRun.nil.snoc (.ensureFails rfl (.refl directory))
    refine ⟨⟨[], some (.io directory fault)⟩, made, ?_, plan, [.ensure], _, rfl, hfiles,
      ⟨.single (.ensureFails rfl rfl), rfl, rfl⟩, hdisk⟩
    rw [persist, StateT.run_bind, ensureDirectory_session, hfault]
    rfl
  | none =>
    obtain ⟨tasks, tree, hfiles, hwrites, hrun⟩ :=
      writeAll_session { session with tree := made } files
    set plan : Plan := ⟨directory, none, tasks⟩
    obtain ⟨waits, last, hquiet, houtcome, -⟩ := exists_outcome_inTurn plan rfl
    have hstarts : ∀ action ∈ tasks.map Action.start, action.IsQuiet := by
      simp [Action.IsQuiet]
    have hensure : DiskRun plan session.tree [.ensure] made :=
      DiskRun.nil.snoc (.ensure rfl (by rw [hmade, ← hfault]))
    have hdisk := ((hensure.trans (diskRun_quiet plan made hstarts)).trans (hwrites plan)).trans
      (diskRun_quiet plan tree hquiet)
    refine ⟨_, tree, ?_, plan, _, last, rfl, hfiles, houtcome, hdisk⟩
    rw [persist, StateT.run_bind, ensureDirectory_session, hfault]
    exact hrun

lemma Persisting.isAllowed_inTurn :
    (Persisting.inTurn : Persisting (StateM Session)).IsAllowed where
  inMemory := mayPersistInMemory_inTurn
  onHost := mayPersistOnDisk_inTurn

end EntSchema.Command
