import EntSchema.Proofs.RunLedger

/-!
# The order of steps that `persist` takes

With a store that fails as a plan tells it, `persist` makes the directory and writes the files one
after another (`persist_eq`).  That is what comes of the run that starts all tasks, lets all of them
write and waits for them, each time in the order of the files: `persist_isRun`.
-/

namespace EntSchema.Concurrent

/-! ## Runs in pieces -/

lemma Run.trans {plan : Plan} {first middle last : State} {actions more : List Action}
    (run : Run plan first actions middle) (further : Run plan middle more last) :
    Run plan first (actions ++ more) last := by
  induction further with
  | nil => simpa using run
  | snoc _ step ih =>
    rw [← List.append_assoc]
    exact ih.snoc step

lemma Run.single {plan : Plan} {state next : State} {action : Action}
    (step : Step plan state action next) : Run plan state [action] next :=
  Run.nil.snoc step

variable (plan : Plan) (store : MemoryStore) (finished : List Task) (joined : Nat)

lemma run_starts (tasks pending : List Task) :
    Run plan ⟨.working, store, tasks, pending, finished, joined⟩ (tasks.map .start)
      ⟨.working, store, [], pending ++ tasks, finished, joined⟩ := by
  induction tasks generalizing pending with
  | nil =>
    rw [List.append_nil]
    exact .nil
  | cons task rest ih =>
    have step : Step plan ⟨.working, store, task :: rest, pending, finished, joined⟩ (.start task)
        ⟨.working, store, rest, pending ++ [task], finished, joined⟩ := .start rfl rfl
    have further := ih (pending ++ [task])
    rw [List.append_assoc] at further
    exact (Run.single step).trans further

lemma run_writes (tasks : List Task) :
    Run plan ⟨.working, store, [], tasks, finished, joined⟩ (tasks.map .write)
      ⟨.working, store.putFiles (storedFiles tasks), [], [], finished ++ tasks, joined⟩ := by
  induction tasks generalizing store finished with
  | nil =>
    rw [List.append_nil]
    exact .nil
  | cons task rest ih =>
    have step : Step plan ⟨.working, store, [], task :: rest, finished, joined⟩ (.write task)
        ⟨.working, task.write store, [], rest, finished ++ [task], joined⟩ :=
      @Step.write plan _ [] task rest rfl
    have further := ih (task.write store) (finished ++ [task])
    rw [Task.write_eq, ← MemoryStore.putFiles_append, ← storedFiles_append, List.append_assoc,
      ← Task.write_eq] at further
    exact (Run.single step).trans further

/-- What comes of waiting for tasks in order, after some others. -/
def outcome (joined : Nat) : List Task → Except StoreFault Nat
  | [] => .ok joined
  | task :: rest =>
    match task.fault? with
    | none => outcome (joined + 1) rest
    | some fault => .error fault

lemma run_joins (tasks : List Task) :
    ∃ actions last, Run plan ⟨.working, store, [], [], tasks, joined⟩ actions last ∧
      (∀ action ∈ actions, action.IsQuiet) ∧
      last.stage = .returned (outcome joined tasks) ∧ last.store = store := by
  induction tasks generalizing joined with
  | nil =>
    exact ⟨_, _, .single (.finish rfl rfl rfl rfl), by simp [Action.IsQuiet], rfl, rfl⟩
  | cons task rest ih =>
    set state : State := ⟨.working, store, [], [], task :: rest, joined⟩
    have htask : state.finished = [] ++ task :: rest := rfl
    unfold outcome
    cases hfault : task.fault? with
    | some fault =>
      exact ⟨_, _, .single (.joinFails rfl rfl htask hfault), by simp [Action.IsQuiet], rfl, rfl⟩
    | none =>
      obtain ⟨actions, last, run, hquiet, hstage, hstore⟩ := ih (joined + 1)
      have step : Step plan state (.join task) ⟨.working, store, [], [], rest, joined + 1⟩ :=
        .join rfl rfl htask hfault
      have hjoin : (Action.join task).IsQuiet := trivial
      exact ⟨_, last, (Run.single step).trans run, List.forall_mem_cons.2 ⟨hjoin, hquiet⟩, hstage,
        hstore⟩

/-! ## The run of `persist` -/

/-- What comes of writing files one after another to a store that fails as it is told. -/
lemma writeAll_scripted (tasks : List Task) :
    Id.run ((writeAll (tasks.map Task.file) : StateM ScriptedStore Persisted).run
        ⟨tasks.map Task.fault?, store⟩) =
      (⟨(storedFiles tasks).map GeneratedFile.path, tasks.findSome? Task.fault?⟩,
        ⟨[], store.putFiles (storedFiles tasks)⟩) := by
  induction tasks generalizing store with
  | nil => rfl
  | cons task rest ih =>
    obtain ⟨file, fault?⟩ := task
    cases fault? with
    | none =>
      have hstep : (writeAll (file :: rest.map Task.file) : StateM ScriptedStore Persisted).run
          ⟨none :: rest.map Task.fault?, store⟩ = do
            let others ← (writeAll (rest.map Task.file) : StateM ScriptedStore Persisted).run
              ⟨rest.map Task.fault?, store.putFile file.path file.source⟩
            return (⟨file.path :: others.1.written, others.1.fault?⟩, others.2) := rfl
      simp only [List.map_cons]
      rw [hstep, Id.run_bind, ih]
      rfl
    | some fault =>
      have hstep : (writeAll (file :: rest.map Task.file) : StateM ScriptedStore Persisted).run
          ⟨some fault :: rest.map Task.fault?, store⟩ = do
            let others ← (writeAll (rest.map Task.file) : StateM ScriptedStore Persisted).run
              ⟨rest.map Task.fault?, store⟩
            return (⟨others.1.written, some fault⟩, others.2) := rfl
      simp only [List.map_cons]
      rw [hstep, Id.run_bind, ih]
      rfl

/-- Waiting for all tasks gives the result that `persist` reports. -/
lemma outcome_eq_result (tasks : List Task) (written : List Path) :
    (⟨written ++ (storedFiles tasks).map GeneratedFile.path,
      tasks.findSome? Task.fault?⟩ : Persisted).result = outcome written.length tasks := by
  induction tasks generalizing written with
  | nil => simp [Persisted.result, outcome, storedFiles]
  | cons task rest ih =>
    unfold outcome
    cases hfault : task.fault? with
    | some fault => simp [Persisted.result, hfault]
    | none =>
      have hrest := ih (written ++ [task.file.path])
      rw [List.length_append, List.length_singleton] at hrest
      rw [← hrest]
      simp [storedFiles, hfault]

lemma persist_of_directoryFault {fault : StoreFault} (h : plan.directoryFault? = some fault) :
    plan.persist store = (⟨[], some fault⟩, store) := by
  unfold Plan.persist Plan.script
  rw [h]
  rfl

lemma persist_eq (h : plan.directoryFault? = none) :
    plan.persist store =
      (⟨(storedFiles plan.tasks).map GeneratedFile.path, plan.tasks.findSome? Task.fault?⟩,
        (store.addDirectory plan.directory).putFiles (storedFiles plan.tasks)) := by
  have hstep : (EntSchema.persist plan.directory plan.files :
      StateM ScriptedStore Persisted).run ⟨none :: plan.tasks.map Task.fault?, store⟩ =
        (writeAll plan.files : StateM ScriptedStore Persisted).run
          ⟨plan.tasks.map Task.fault?, store.addDirectory plan.directory⟩ := rfl
  unfold Plan.persist Plan.script
  rw [h, hstep, Plan.files, writeAll_scripted]

/-- `persist` takes the steps in one of the orders: the directory, all starts, all writes, and then
the tasks are waited for one after another. -/
lemma persist_isRun :
    ∃ actions last, Run plan (plan.initial store) actions last ∧
      last.stage = .returned (plan.persist store).1.result ∧
      last.store = (plan.persist store).2 := by
  cases hfault : plan.directoryFault? with
  | some fault =>
    rw [persist_of_directoryFault plan store hfault]
    exact ⟨_, _, .single (.ensureFails rfl hfault), rfl, rfl⟩
  | none =>
    set made := store.addDirectory plan.directory
    have step : Step plan (plan.initial store) .ensure ⟨.working, made, plan.tasks, [], [], 0⟩ :=
      .ensure rfl hfault
    have starts := run_starts plan made [] 0 plan.tasks []
    have writes := run_writes plan made [] 0 plan.tasks
    obtain ⟨joins, last, waits, -, hstage, hstore⟩ :=
      run_joins plan (made.putFiles (storedFiles plan.tasks)) 0 plan.tasks
    have hresult := outcome_eq_result plan.tasks []
    rw [persist_eq plan store hfault]
    exact ⟨_, last, (((Run.single step).trans starts).trans writes).trans waits,
      hstage.trans (congrArg Stage.returned hresult.symm), hstore⟩

end EntSchema.Concurrent
