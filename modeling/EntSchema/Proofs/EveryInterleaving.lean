import EntSchema.Proofs.PersistRun

/-!
# Persisting in every order of steps

Whatever order the steps of persisting come in, and wherever a run has got to, a path holds what it
held before or a source that the list has for it (`Run.file?_cases`).  A success leaves all files
behind (`Run.of_ok`), and where their paths differ it leaves the same store behind in every order,
the one that `persist` does (`Run.store_eq_persist`).  A failure has the fault of the first failed
task that was waited for (`Run.of_fault`).  `Account` puts these together; `persist_in_every_order`
proves it of all runs.
-/

namespace EntSchema.Concurrent

variable {plan : Plan} {start : MemoryStore} {actions : List Action} {state : State}

/-- Whether no operation of a plan fails. -/
def Plan.Succeeds (plan : Plan) : Prop :=
  plan.directoryFault? = none ∧ ∀ task ∈ plan.tasks, task.fault? = none

/-- Whether no two files have the same path, however it is spelled. -/
def Plan.HasDistinctPaths (plan : Plan) : Prop :=
  (plan.files.map (·.path.components)).Nodup

/-! ## The contents of the store -/

lemma storedFiles_eq_map {tasks : List Task} (h : ∀ task ∈ tasks, task.fault? = none) :
    storedFiles tasks = tasks.map Task.file := by
  unfold storedFiles
  rw [List.filter_eq_self.2 fun task htask => by simpa using h task htask]

lemma storedFiles_perm {tasks others : List Task} (h : tasks.Perm others) :
    (storedFiles tasks).Perm (storedFiles others) :=
  (h.filter _).map _

lemma storedFiles_subset {tasks : List Task} (h : tasks ⊆ plan.tasks) :
    storedFiles tasks ⊆ plan.files := by
  intro file hfile
  obtain ⟨task, htask, -, hsame⟩ := mem_storedFiles.1 hfile
  exact List.mem_map.2 ⟨task, h htask, hsame⟩

/-- What was there before is overridden by files of the plan. -/
lemma Run.store_eq (run : Run plan (plan.initial start) actions state) :
    ∃ made : MemoryStore, made.files = start.files ∧
      state.store = made.putFiles (storedFiles (actions.filterMap Action.written?)) ∧
      actions.filterMap Action.written? ⊆ plan.tasks := by
  cases run.reached with
  | untouched => exact ⟨start, rfl, rfl, List.nil_subset _⟩
  | refused hfault => exact ⟨start, rfl, rfl, List.nil_subset _⟩
  | underway _ _ ledger =>
    exact ⟨start.addDirectory plan.directory, rfl, ledger.store, ledger.written_subset⟩

lemma Run.file?_of_unlisted (run : Run plan (plan.initial start) actions state) {path : Path}
    (h : ∀ file ∈ plan.files, file.path.components ≠ path.components) :
    state.store.file? path = start.file? path := by
  obtain ⟨made, hfiles, hstore, hwritten⟩ := run.store_eq
  have hstored : ∀ file ∈ storedFiles (actions.filterMap Action.written?),
      file.path.components ≠ path.components :=
    fun file hfile => h file (storedFiles_subset hwritten hfile)
  rw [hstore, MemoryStore.file?_putFiles_of_forall_ne _ hstored, MemoryStore.file?_congr hfiles]

lemma Run.file?_of_written (run : Run plan (plan.initial start) actions state) {task : Task}
    {path : Path} (htask : task ∈ actions.filterMap Action.written?) (hfault : task.fault? = none)
    (hpath : task.file.path.components = path.components) :
    ∃ other ∈ actions.filterMap Action.written?, other.fault? = none ∧
      other.file.path.components = path.components ∧
      state.store.file? path = some other.file.source := by
  obtain ⟨made, -, hstore, -⟩ := run.store_eq
  have hmem := mem_storedFiles.2 ⟨task, htask, hfault, rfl⟩
  obtain ⟨last, hlast, hsame, hfound⟩ := made.file?_putFiles_of_mem hmem hpath
  obtain ⟨other, hother, hnone, rfl⟩ := mem_storedFiles.1 hlast
  exact ⟨other, hother, hnone, hsame, by rw [hstore, hfound]⟩

lemma Run.file?_cases (run : Run plan (plan.initial start) actions state) (path : Path) :
    state.store.file? path = start.file? path ∨
      ∃ task ∈ plan.tasks, task.fault? = none ∧ task.file.path.components = path.components ∧
        state.store.file? path = some task.file.source := by
  obtain ⟨made, hfiles, hstore, hwritten⟩ := run.store_eq
  by_cases h : ∃ task ∈ actions.filterMap Action.written?, task.fault? = none ∧
      task.file.path.components = path.components
  · obtain ⟨task, htask, hfault, hpath⟩ := h
    obtain ⟨other, hother, hfound⟩ := run.file?_of_written htask hfault hpath
    exact .inr ⟨other, hwritten hother, hfound⟩
  · have hstored : ∀ file ∈ storedFiles (actions.filterMap Action.written?),
        file.path.components ≠ path.components := by
      intro file hfile hpath
      obtain ⟨task, htask, hfault, rfl⟩ := mem_storedFiles.1 hfile
      exact h ⟨task, htask, hfault, hpath⟩
    rw [hstore, MemoryStore.file?_putFiles_of_forall_ne _ hstored, MemoryStore.file?_congr hfiles]
    exact .inl rfl

/-! ## The end of a run -/

/-- A success has written all files. -/
lemma Ledger.of_ok {count : Nat} (h : Ledger plan start actions state)
    (hstage : state.stage = .returned (.ok count)) :
    (actions.filterMap Action.written?).Perm plan.tasks ∧
      (∀ task ∈ plan.tasks, task.fault? = none) ∧ count = plan.tasks.length := by
  have hsettled := h.settled
  simp only [Settled, hstage] at hsettled
  obtain ⟨⟨hunstarted, hpending, hfinished⟩, haborted, hjoined, hcount⟩ := hsettled
  have htasks := h.tasks
  have hwritten := h.written
  simp only [hunstarted, hpending, haborted, List.append_nil, List.nil_append] at htasks
  rw [hfinished, List.nil_append] at hwritten
  have hall := htasks.trans hwritten
  exact ⟨htasks.symm, fun task htask => hjoined task (hall.mem_iff.1 htask),
    hcount.trans hall.length_eq.symm⟩

/-- A failure after the directory was made has the fault of the task that was waited for last. -/
lemma Ledger.of_error {fault : StoreFault} (h : Ledger plan start actions state)
    (hstage : state.stage = .returned (.error fault)) :
    ∃ before task, actions.filterMap Action.joined? = before ++ [task] ∧
      (∀ task ∈ before, task.fault? = none) ∧ task.fault? = some fault ∧ task ∈ plan.tasks := by
  have hsettled := h.settled
  simp only [Settled, hstage] at hsettled
  obtain ⟨before, task, hjoined, hbefore, hfault⟩ := hsettled
  have hwritten : task ∈ actions.filterMap Action.written? := by
    rw [h.written.mem_iff, hjoined]
    simp
  exact ⟨before, task, hjoined, hbefore, hfault, h.written_subset hwritten⟩

lemma Run.ensure_first (run : Run plan (plan.initial start) actions state) :
    (actions = [] ∧ state = plan.initial start) ∨
      ∃ later, actions = .ensure :: later ∧ .ensure ∉ later := by
  cases run.reached with
  | untouched => exact .inl ⟨rfl, rfl⟩
  | refused _ => exact .inr ⟨[], rfl, List.not_mem_nil⟩
  | underway _ honce _ => exact .inr ⟨_, rfl, honce⟩

lemma Run.ledger (run : Run plan (plan.initial start) actions state)
    (hfault : plan.directoryFault? = none) (hactions : actions ≠ []) :
    Ledger plan start actions state := by
  cases run.reached with
  | untouched => exact absurd rfl hactions
  | refused hrefused =>
    rw [hfault] at hrefused
    cases hrefused
  | underway _ _ ledger => exact ledger

lemma Ledger.directories (h : Ledger plan start actions state) :
    state.store.directories = start.directories ++ [plan.directory] := by
  rw [h.store, MemoryStore.directories_putFiles]
  rfl

lemma Run.of_directoryFault (run : Run plan (plan.initial start) actions state)
    {fault : StoreFault} (hfault : plan.directoryFault? = some fault) :
    actions.filterMap Action.written? = [] ∧ state.store = start ∧
      (actions ≠ [] → state.stage = .returned (.error fault)) := by
  cases run.reached with
  | untouched => exact ⟨rfl, rfl, fun h => absurd rfl h⟩
  | refused hrefused =>
    cases hfault.symm.trans hrefused
    exact ⟨rfl, rfl, fun _ => rfl⟩
  | underway hmade => cases hfault.symm.trans hmade

lemma Run.ne_nil (run : Run plan (plan.initial start) actions state)
    {result : Except StoreFault Nat} (hstage : state.stage = .returned result) : actions ≠ [] := by
  rintro rfl
  cases run.reached
  cases hstage

lemma Run.ok_iff (run : Run plan (plan.initial start) actions state)
    {result : Except StoreFault Nat} (hstage : state.stage = .returned result) :
    (∃ count, result = .ok count) ↔ plan.Succeeds := by
  have hactions := run.ne_nil hstage
  cases hfault : plan.directoryFault? with
  | some fault =>
    have hend := (run.of_directoryFault hfault).2.2 hactions
    cases hstage.symm.trans hend
    simp [Plan.Succeeds, hfault]
  | none =>
    have ledger := run.ledger hfault hactions
    cases result with
    | ok count => simpa [Plan.Succeeds, hfault] using (ledger.of_ok hstage).2.1
    | error fault =>
      obtain ⟨before, task, -, -, htaskFault, htask⟩ := ledger.of_error hstage
      simp only [reduceCtorEq, exists_false, Plan.Succeeds, false_iff]
      rintro ⟨-, hnone⟩
      rw [hnone task htask] at htaskFault
      cases htaskFault

/-! ## Success -/

/-- A success leaves behind what was written, and that is the files in some order. -/
lemma Run.of_ok (run : Run plan (plan.initial start) actions state) {count : Nat}
    (hstage : state.stage = .returned (.ok count)) :
    count = plan.files.length ∧ ∃ stored : List GeneratedFile, stored.Perm plan.files ∧
      state.store = (start.addDirectory plan.directory).putFiles stored := by
  have hsucceeds : plan.Succeeds := (run.ok_iff hstage).1 ⟨count, rfl⟩
  have ledger := run.ledger hsucceeds.1 (run.ne_nil hstage)
  obtain ⟨hwritten, -, hcount⟩ := ledger.of_ok hstage
  have hall : storedFiles plan.tasks = plan.files := storedFiles_eq_map hsucceeds.2
  refine ⟨hcount.trans (List.length_map _).symm, _, ?_, ledger.store⟩
  rw [← hall]
  exact storedFiles_perm hwritten

lemma Run.file?_of_ok (run : Run plan (plan.initial start) actions state) {count : Nat}
    (hstage : state.stage = .returned (.ok count)) {file : GeneratedFile}
    (hfile : file ∈ plan.files) :
    ∃ other ∈ plan.files, other.path.components = file.path.components ∧
      state.store.file? file.path = some other.source := by
  obtain ⟨-, stored, hperm, hstore⟩ := run.of_ok hstage
  obtain ⟨other, hother, hpath, hfound⟩ :=
    (start.addDirectory plan.directory).file?_putFiles_of_mem (hperm.mem_iff.2 hfile) rfl
  exact ⟨other, hperm.mem_iff.1 hother, hpath, by rw [hstore, hfound]⟩

section Distinct

variable (run : Run plan (plan.initial start) actions state) (hdistinct : plan.HasDistinctPaths)
  {count : Nat} (hstage : state.stage = .returned (.ok count))

include run hdistinct hstage

lemma Run.store_eq_putFiles :
    state.store = (start.addDirectory plan.directory).putFiles plan.files := by
  obtain ⟨-, stored, hperm, hstore⟩ := run.of_ok hstage
  rw [hstore, MemoryStore.putFiles_perm _ hdistinct hperm.symm]

lemma Run.store_eq_persist : state.store = (plan.persist start).2 := by
  have hsucceeds : plan.Succeeds := (run.ok_iff hstage).1 ⟨count, rfl⟩
  have hall : storedFiles plan.tasks = plan.files := storedFiles_eq_map hsucceeds.2
  rw [run.store_eq_putFiles hdistinct hstage, persist_eq plan start hsucceeds.1, hall]

lemma Run.file?_of_distinct {file : GeneratedFile} (hfile : file ∈ plan.files) :
    state.store.file? file.path = some file.source := by
  obtain ⟨other, hother, hpath, hfound⟩ := run.file?_of_ok hstage hfile
  have hsame : other = file := List.inj_on_of_nodup_map hdistinct hother hfile hpath
  rw [hfound, hsame]

/-- A second run finds every file it can write already there. -/
lemma Run.files_again {again : Plan} {later : List Action} {last : State}
    (hfiles : again.files = plan.files) (run' : Run again (again.initial state.store) later last) :
    last.store.files = state.store.files := by
  obtain ⟨made, hmade, hlast, hwritten⟩ := run'.store_eq
  set more := storedFiles (later.filterMap Action.written?)
  have hmore : more ⊆ plan.files := by
    rw [← hfiles]
    exact storedFiles_subset hwritten
  have hstore := run.store_eq_putFiles hdistinct hstage
  calc last.store.files = (made.putFiles more).files := by rw [hlast]
    _ = (state.store.putFiles more).files := MemoryStore.files_putFiles_congr hmade more
    _ = state.store.files := by
      rw [hstore, MemoryStore.putFiles_putFiles_of_subset _ hdistinct hmore]

end Distinct

/-! ## Failure -/

lemma Run.of_fault (run : Run plan (plan.initial start) actions state)
    (hfault : plan.directoryFault? = none) (hfails : ∃ task ∈ plan.tasks, task.fault? ≠ none)
    {result : Except StoreFault Nat} (hstage : state.stage = .returned result) :
    ∃ before task fault, actions.filterMap Action.joined? = before ++ [task] ∧
      (∀ task ∈ before, task.fault? = none) ∧ task ∈ plan.tasks ∧
      task.fault? = some fault ∧ result = .error fault := by
  have ledger := run.ledger hfault (run.ne_nil hstage)
  cases result with
  | ok count =>
    obtain ⟨task, htask, hne⟩ := hfails
    exact absurd ((ledger.of_ok hstage).2.1 task htask) hne
  | error fault =>
    obtain ⟨before, task, hjoined, hbefore, htaskFault, htask⟩ := ledger.of_error hstage
    exact ⟨before, task, fault, hjoined, hbefore, htask, htaskFault, rfl⟩

/-! ## The account of a run -/

/-- What can be relied on in every run of persisting. -/
structure Account (plan : Plan) (start : MemoryStore) (actions : List Action) (state : State) :
    Prop where
  /-- The directory is asked for once and before everything else. -/
  ensure_first : (actions = [] ∧ state = plan.initial start) ∨
    ∃ later, actions = .ensure :: later ∧ .ensure ∉ later
  /-- The directory is there from then on. -/
  directories : plan.directoryFault? = none → actions ≠ [] →
    state.store.directories = start.directories ++ [plan.directory]
  /-- Without the directory nothing is written, and its fault is the outcome. -/
  of_directoryFault : ∀ fault, plan.directoryFault? = some fault →
    actions.filterMap Action.written? = [] ∧ state.store = start ∧
      (actions ≠ [] → state.stage = .returned (.error fault))
  /-- The outcome is a success just when no operation fails. -/
  ok_iff : ∀ result, state.stage = .returned result →
    ((∃ count, result = .ok count) ↔ plan.Succeeds)
  /-- A success counts the files, and each of their paths holds a source listed for it. -/
  of_ok : ∀ count, state.stage = .returned (.ok count) → count = plan.files.length ∧
    ∀ file ∈ plan.files, ∃ other ∈ plan.files, other.path.components = file.path.components ∧
      state.store.file? file.path = some other.source
  /-- Other paths are never touched. -/
  unlisted : ∀ path : Path, (∀ file ∈ plan.files, file.path.components ≠ path.components) →
    state.store.file? path = start.file? path
  /-- Where the paths differ, the order does not show in what a success leaves behind. -/
  of_ok_distinct : plan.HasDistinctPaths → ∀ count, state.stage = .returned (.ok count) →
    state.store = (plan.persist start).2 ∧
      ∀ file ∈ plan.files, state.store.file? file.path = some file.source
  /-- Nor do the same files change anything when they are persisted again, in any order and
  whichever operations fail then. -/
  files_again : plan.HasDistinctPaths → ∀ count, state.stage = .returned (.ok count) →
    ∀ (again : Plan) (later : List Action) (last : State), again.files = plan.files →
      Run again (again.initial state.store) later last → last.store.files = state.store.files
  /-- When writes fail, the outcome is the fault of the first of them that was waited for. -/
  of_fault : plan.directoryFault? = none → (∃ task ∈ plan.tasks, task.fault? ≠ none) →
    ∀ result, state.stage = .returned result →
      ∃ before task fault, actions.filterMap Action.joined? = before ++ [task] ∧
        (∀ task ∈ before, task.fault? = none) ∧ task ∈ plan.tasks ∧
        task.fault? = some fault ∧ result = .error fault
  /-- At any time a path holds what it held before or the source of a write that succeeds. -/
  contents : ∀ path : Path, state.store.file? path = start.file? path ∨
    ∃ task ∈ plan.tasks, task.fault? = none ∧ task.file.path.components = path.components ∧
      state.store.file? path = some task.file.source
  /-- What was written is not taken back: only another write to the path replaces it. -/
  kept : ∀ task ∈ actions.filterMap Action.written?, task.fault? = none →
    ∃ other ∈ actions.filterMap Action.written?, other.fault? = none ∧
      other.file.path.components = task.file.path.components ∧
      state.store.file? task.file.path = some other.file.source
  /-- Runs come to an end. -/
  length_le : actions.length ≤ 3 * plan.tasks.length + 2
  /-- They do not get stuck before they have an outcome. -/
  returns : ∃ more last result, Run plan (plan.initial start) (actions ++ more) last ∧
    last.stage = .returned result
  /-- What still happens after that does not change the outcome. -/
  outcome_stays : ∀ result, state.stage = .returned result →
    ∀ more last, Run plan state more last → last.stage = .returned result

/-- **Persisting in every order.** Whatever the order of the steps and whichever operations fail, a
run of persisting keeps its account; and what `persist` does is one of the runs. -/
theorem persist_in_every_order (plan : Plan) (start : MemoryStore) {actions : List Action}
    {state : State} (run : Run plan (plan.initial start) actions state) :
    Account plan start actions state ∧
      ∃ inOrder last, Run plan (plan.initial start) inOrder last ∧
        last.stage = .returned (plan.persist start).1.result ∧
        last.store = (plan.persist start).2 := by
  refine ⟨?_, persist_isRun plan start⟩
  constructor
  case ensure_first => exact run.ensure_first
  case directories => exact fun hfault hactions => (run.ledger hfault hactions).directories
  case of_directoryFault => exact fun fault => run.of_directoryFault
  case ok_iff => exact fun result => run.ok_iff
  case of_ok =>
    intro count hstage
    exact ⟨(run.of_ok hstage).1, fun file => run.file?_of_ok hstage⟩
  case unlisted => exact fun path => run.file?_of_unlisted
  case of_ok_distinct =>
    intro hdistinct count hstage
    exact ⟨run.store_eq_persist hdistinct hstage,
      fun file => run.file?_of_distinct hdistinct hstage⟩
  case files_again =>
    intro hdistinct count hstage again later last
    exact run.files_again hdistinct hstage
  case of_fault => exact fun hfault hfails result => run.of_fault hfault hfails
  case contents => exact run.file?_cases
  case kept => exact fun task htask hfault => run.file?_of_written htask hfault rfl
  case length_le =>
    have hlength := run.length_add_remaining_le
    have hinitial : (plan.initial start).remaining = 3 * plan.tasks.length + 2 := by
      simp [State.remaining, Stage.remaining, Plan.initial]
    omega
  case returns => exact run.exists_returned
  case outcome_stays => exact fun result hstage more last further => further.outcome_stays hstage

/-! A run whose second write fails: persisting ends before the third task has written, which it does
all the same. -/

def userTask : Task := ⟨⟨⟨"ent/schema/user.go"⟩, "package user\n"⟩, none⟩

def postTask : Task := ⟨⟨⟨"ent/schema/post.go"⟩, "package post\n"⟩, some .brokenOff⟩

def tagTask : Task := ⟨⟨⟨"ent/schema/tag.go"⟩, "package tag\n"⟩, none⟩

def lateWritePlan : Plan := ⟨⟨"ent/schema"⟩, none, [userTask, postTask, tagTask]⟩

def lateWriteActions : List Action :=
  [.ensure, .start userTask, .start postTask, .write postTask, .start tagTask, .write userTask,
    .join postTask, .write tagTask]

def lateWriteState : State where
  stage := .returned (.error .brokenOff)
  store := tagTask.write (userTask.write (MemoryStore.empty.addDirectory ⟨"ent/schema"⟩))
  unstarted := []
  pending := []
  finished := [userTask, tagTask]
  joined := 0

theorem lateWrite_keeps_its_account :
    Run lateWritePlan (lateWritePlan.initial .empty) lateWriteActions lateWriteState ∧
      Account lateWritePlan .empty lateWriteActions lateWriteState := by
  have made : Run lateWritePlan (lateWritePlan.initial .empty) [.ensure] _ :=
    .single (.ensure rfl rfl)
  have failed := ((made.snoc (.start rfl rfl)).snoc (.start rfl rfl)).snoc
    (@Step.write lateWritePlan _ [userTask] postTask [] rfl)
  have wrote := (failed.snoc (.start rfl rfl)).snoc
    (@Step.write lateWritePlan _ [] userTask [tagTask] rfl)
  have returned := wrote.snoc
    (@Step.joinFails lateWritePlan _ [] postTask [userTask] .brokenOff rfl rfl rfl rfl)
  have late : Run lateWritePlan (lateWritePlan.initial .empty) lateWriteActions lateWriteState :=
    returned.snoc (@Step.write lateWritePlan _ [] tagTask [] rfl)
  exact ⟨late, (persist_in_every_order lateWritePlan .empty late).1⟩

end EntSchema.Concurrent
