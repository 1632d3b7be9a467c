import EntSchema.Proofs.PersistedFiles
import EntSchema.Storage.Concurrent

/-!
# What a run of persisting has done so far

The actions of a run are its books.  `Ledger` says how they account for the state that is reached:
the store is what the successful writes left behind, every task of the plan is in exactly one place,
and the outcome is that of the tasks that were waited for.  `Step.ledger` keeps the books in one
step, `Run.reached` in all runs, whatever the order of their steps.  Runs come to an end
(`Run.length_add_remaining_le`) and never get stuck before it (`Run.exists_returned`).
-/

namespace EntSchema.Concurrent

/-! ## Actions -/

/-- The task that writes. -/
@[simp] def Action.written? : Action → Option Task
  | .write task => some task
  | _ => none

/-- The task that is waited for. -/
@[simp] def Action.joined? : Action → Option Task
  | .join task => some task
  | _ => none

/-- The task that is called off. -/
@[simp] def Action.aborted? : Action → Option Task
  | .abort task => some task
  | _ => none

/-- Whether an action leaves the store alone. -/
def Action.IsQuiet : Action → Prop
  | .ensure | .write _ => False
  | .start _ | .join _ | .finish | .abort _ => True

lemma Action.IsQuiet.written?_eq_none {action : Action} (h : action.IsQuiet) :
    action.written? = none := by
  cases action with
  | ensure | write => exact absurd h id
  | start | join | finish | abort => rfl

/-- The files of the tasks whose writes succeed. -/
def storedFiles (tasks : List Task) : List GeneratedFile :=
  (tasks.filter (·.fault? = none)).map Task.file

lemma storedFiles_append (tasks more : List Task) :
    storedFiles (tasks ++ more) = storedFiles tasks ++ storedFiles more := by
  simp [storedFiles]

lemma mem_storedFiles {tasks : List Task} {file : GeneratedFile} :
    file ∈ storedFiles tasks ↔ ∃ task ∈ tasks, task.fault? = none ∧ task.file = file := by
  simp [storedFiles, and_assoc]

lemma Task.write_eq (task : Task) (store : MemoryStore) :
    task.write store = store.putFiles (storedFiles [task]) := by
  cases h : task.fault? <;> simp [Task.write, storedFiles, MemoryStore.putFiles, h]

/-! ## What one step changes -/

variable {plan : Plan} {start : MemoryStore} {actions : List Action} {state next : State}
  {action : Action}

lemma Step.store_eq (step : Step plan state action next) (h : state.stage ≠ .starting) :
    next.store = state.store.putFiles (storedFiles action.written?.toList) := by
  cases step with
  | ensure hstage | ensureFails hstage => exact absurd hstage h
  | write htask => exact Task.write_eq _ _
  | _ => rfl

/-- A task that is started and one that has not written stays so, unless it writes or is called
off. -/
lemma Step.tasks_perm (step : Step plan state action next) :
    (state.unstarted ++ state.pending).Perm
      (next.unstarted ++ next.pending ++ (action.written?.toList ++ action.aborted?.toList)) := by
  cases step with
  | @start task rest hstage htask =>
    rw [htask]
    simpa using (List.perm_append_singleton task (rest ++ state.pending)).symm
  | @write before task after htask | @abort _ before task after _ htask =>
    rw [htask, List.append_assoc]
    refine List.Perm.append_left _ ?_
    exact List.perm_middle.trans (List.perm_append_singleton _ _).symm
  | _ => simp

lemma Step.finished_perm (step : Step plan state action next) :
    (state.finished ++ action.written?.toList).Perm
      (next.finished ++ action.joined?.toList) := by
  cases step with
  | @join before task after _ _ htask | @joinFails before task after _ _ _ htask =>
    rw [htask]
    simp only [Action.written?, Action.joined?, Option.toList_none, Option.toList_some,
      List.append_nil]
    exact List.perm_middle.trans (List.perm_append_singleton _ _).symm
  | _ => simp

/-! ## The books -/

/-- How the outcome depends on the tasks that were waited for and called off. -/
def Settled (state : State) (joined aborted : List Task) : Prop :=
  match state.stage with
  | .starting => False
  | .working =>
    aborted = [] ∧ (∀ task ∈ joined, task.fault? = none) ∧ state.joined = joined.length
  | .returned (.ok count) =>
    (state.unstarted = [] ∧ state.pending = [] ∧ state.finished = []) ∧
      aborted = [] ∧ (∀ task ∈ joined, task.fault? = none) ∧ count = joined.length
  | .returned (.error fault) =>
    ∃ before task, joined = before ++ [task] ∧ (∀ task ∈ before, task.fault? = none) ∧
      task.fault? = some fault

lemma Settled.pending_eq_nil {joined aborted : List Task} (h : Settled state joined aborted)
    {count : Nat} (hstage : state.stage = .returned (.ok count)) : state.pending = [] := by
  simp only [Settled, hstage] at h
  exact h.1.2.1

lemma Step.settled {joined aborted : List Task} (step : Step plan state action next)
    (h : Settled state joined aborted) :
    Settled next (joined ++ action.joined?.toList) (aborted ++ action.aborted?.toList) := by
  have hpending {count : Nat} (hstage : state.stage = .returned (.ok count)) : state.pending = [] :=
    h.pending_eq_nil hstage
  unfold Settled at h ⊢
  cases step with
  | ensure hstage | ensureFails hstage =>
    simp only [hstage] at h
  | start hstage =>
    simpa [hstage] using h
  | join hstage _ _ hfault =>
    simp only [hstage] at h ⊢
    obtain ⟨haborted, hjoined, hcount⟩ := h
    refine ⟨by simpa using haborted, ?_, by simp [hcount]⟩
    intro task htask
    obtain hold | hnew := List.mem_append.1 htask
    · exact hjoined task hold
    · rwa [List.mem_singleton.1 hnew]
  | joinFails hstage _ _ hfault =>
    simp only [hstage] at h
    exact ⟨joined, _, rfl, h.2.1, hfault⟩
  | finish hstage hstarted hpending hfinished =>
    simp only [hstage] at h
    exact ⟨⟨hstarted, hpending, hfinished⟩, by simpa using h⟩
  -- A success leaves no task behind that could write or be called off.
  | write htask =>
    cases hstage : state.stage with
    | starting => simp [hstage] at h
    | working => simpa [hstage] using h
    | returned result =>
      cases result with
      | ok count => simp [hpending hstage] at htask
      | error fault => simpa [hstage] using h
  | @abort result _ _ _ hstage htask =>
    cases result with
    | ok count => simp [hpending hstage] at htask
    | error fault => simpa [hstage] using h

/-- How the actions of a run account for its state, once the directory is made. -/
structure Ledger (plan : Plan) (start : MemoryStore) (actions : List Action) (state : State) :
    Prop where
  store : state.store = (start.addDirectory plan.directory).putFiles
    (storedFiles (actions.filterMap Action.written?))
  /-- Every task is in one place. -/
  tasks : plan.tasks.Perm (state.unstarted ++ state.pending ++
    (actions.filterMap Action.written? ++ actions.filterMap Action.aborted?))
  written : (actions.filterMap Action.written?).Perm
    (state.finished ++ actions.filterMap Action.joined?)
  settled : Settled state (actions.filterMap Action.joined?) (actions.filterMap Action.aborted?)

lemma Ledger.written_subset (h : Ledger plan start actions state) :
    actions.filterMap Action.written? ⊆ plan.tasks := by
  intro task htask
  refine h.tasks.mem_iff.2 ?_
  exact List.mem_append_right _ (List.mem_append_left _ htask)

lemma filterMap_concat (pick : Action → Option Task) (actions : List Action) (action : Action) :
    (actions ++ [action]).filterMap pick = actions.filterMap pick ++ (pick action).toList := by
  rw [List.filterMap_append]
  cases h : pick action <;> simp [h]

/-- A step keeps the books. -/
lemma Step.ledger (step : Step plan state action next) (h : Ledger plan start actions state) :
    Ledger plan start (actions ++ [action]) next := by
  have hstage : state.stage ≠ .starting := by
    intro hstage
    simpa only [Settled, hstage] using h.settled
  constructor <;> simp only [filterMap_concat]
  case store => rw [step.store_eq hstage, h.store, storedFiles_append, MemoryStore.putFiles_append]
  case tasks =>
    have hbefore := List.perm_iff_count.1 h.tasks
    have hstep := List.perm_iff_count.1 step.tasks_perm
    refine List.perm_iff_count.2 fun task => ?_
    specialize hbefore task
    specialize hstep task
    simp only [List.count_append] at hbefore hstep ⊢
    omega
  case written =>
    have hbefore := List.perm_iff_count.1 h.written
    have hstep := List.perm_iff_count.1 step.finished_perm
    refine List.perm_iff_count.2 fun task => ?_
    specialize hbefore task
    specialize hstep task
    simp only [List.count_append] at hbefore hstep ⊢
    omega
  case settled => exact step.settled h.settled

/-- Where a run can have got to. -/
inductive Reached (plan : Plan) (start : MemoryStore) : List Action → State → Prop where
  | untouched : Reached plan start [] (plan.initial start)
  | refused {fault} (hfault : plan.directoryFault? = some fault) :
    Reached plan start [.ensure]
      { plan.initial start with stage := .returned (.error fault) }
  /-- The directory was made, and the books are kept. -/
  | underway {later state} (hfault : plan.directoryFault? = none) (honce : .ensure ∉ later)
    (ledger : Ledger plan start (.ensure :: later) state) :
    Reached plan start (.ensure :: later) state

lemma ledger_ensure (plan : Plan) (start : MemoryStore) :
    Ledger plan start [.ensure]
      { plan.initial start with
        stage := .working
        store := start.addDirectory plan.directory } where
  store := rfl
  tasks := by simp [Plan.initial, List.filterMap_cons]
  written := by simp [Plan.initial, List.filterMap_cons]
  settled := by simp [Settled, Plan.initial, List.filterMap_cons]

lemma Step.starting_of_ensure (step : Step plan state .ensure next) : state.stage = .starting := by
  cases step <;> assumption

/-- **Every run keeps the books.** -/
lemma Run.reached (run : Run plan (plan.initial start) actions state) :
    Reached plan start actions state := by
  induction run with
  | nil => exact .untouched
  | @snoc actions state action next run step ih =>
    cases ih with
    | untouched =>
      -- No task is started yet, so the directory is all there is to do.
      cases step with
      | ensure _ hfault => exact .underway hfault List.not_mem_nil (ledger_ensure plan start)
      | ensureFails _ hfault => exact .refused hfault
      | write htask => simp [Plan.initial] at htask
      | start hstage | join hstage | joinFails hstage | finish hstage | abort hstage => cases hstage
    | refused _ =>
      cases step with
      | write htask | abort _ htask => simp [Plan.initial] at htask
      | ensure hstage | ensureFails hstage | start hstage | join hstage | joinFails hstage
      | finish hstage => cases hstage
    | underway hfault honce ledger =>
      refine .underway hfault ?_ (step.ledger ledger)
      intro hensure
      obtain hearlier | hnow := List.mem_append.1 hensure
      · exact honce hearlier
      · rw [← List.mem_singleton.1 hnow] at step
        simpa only [Settled, step.starting_of_ensure] using ledger.settled

/-! ## Coming to an end -/

/-- How many steps persisting is from its end at a stage, leaving the tasks aside. -/
def Stage.remaining : Stage → Nat
  | .starting => 2
  | .working => 1
  | .returned _ => 0

/-- A bound on the number of steps that are left: a task is started, writes and is waited for. -/
def State.remaining (state : State) : Nat :=
  3 * state.unstarted.length + 2 * state.pending.length + state.finished.length +
    state.stage.remaining

lemma Step.remaining_lt (step : Step plan state action next) :
    next.remaining < state.remaining := by
  cases step with
  | ensure hstage | ensureFails hstage | finish hstage =>
    simp [State.remaining, Stage.remaining, hstage]
  | start _ htask | write htask | abort _ htask | join _ _ htask =>
    simp only [State.remaining, htask, List.length_append, List.length_cons, List.length_nil]
    omega
  | joinFails hstage _ htask =>
    simp only [State.remaining, Stage.remaining, hstage, htask, List.length_append,
      List.length_cons]
    omega

lemma Run.length_add_remaining_le {first : State} (run : Run plan first actions state) :
    actions.length + state.remaining ≤ first.remaining := by
  induction run with
  | nil => simp
  | snoc run step ih =>
    have hlt := step.remaining_lt
    rw [List.length_append, List.length_singleton]
    omega

lemma Run.outcome_stays {first : State} (run : Run plan first actions state)
    {result : Except StoreFault Nat} (h : first.stage = .returned result) :
    state.stage = .returned result := by
  induction run with
  | nil => exact h
  | snoc run step ih =>
    cases step with
    | write | abort => exact ih
    | ensure hstage | ensureFails hstage | start hstage | join hstage | joinFails hstage
    | finish hstage => cases hstage.symm.trans ih

/-- Persisting does not get stuck before its end. -/
lemma exists_step (plan : Plan) (h : ∀ result, state.stage ≠ .returned result) :
    ∃ action next, Step plan state action next := by
  cases hstage : state.stage with
  | returned result => exact absurd hstage (h result)
  | starting =>
    cases hfault : plan.directoryFault? with
    | none => exact ⟨_, _, .ensure hstage hfault⟩
    | some fault => exact ⟨_, _, .ensureFails hstage hfault⟩
  | working =>
    cases hunstarted : state.unstarted with
    | cons task rest => exact ⟨_, _, .start hstage hunstarted⟩
    | nil =>
      cases hpending : state.pending with
      | cons task rest => exact ⟨_, _, .write (hpending.trans (List.nil_append _).symm)⟩
      | nil =>
        cases hfinished : state.finished with
        | nil => exact ⟨_, _, .finish hstage hunstarted hpending hfinished⟩
        | cons task rest =>
          have htask : state.finished = [] ++ task :: rest := hfinished
          cases hfault : task.fault? with
          | none => exact ⟨_, _, .join hstage hunstarted htask hfault⟩
          | some fault => exact ⟨_, _, .joinFails hstage hunstarted htask hfault⟩

/-- Every run can be continued to its end. -/
lemma Run.exists_returned {first : State} (run : Run plan first actions state) :
    ∃ more last result, Run plan first (actions ++ more) last ∧ last.stage = .returned result := by
  induction hremaining : state.remaining using Nat.strongRecOn generalizing state actions with
  | _ remaining ih =>
    by_cases hend : ∃ result, state.stage = .returned result
    · obtain ⟨result, hresult⟩ := hend
      exact ⟨[], state, result, by simpa using run, hresult⟩
    · obtain ⟨action, next, step⟩ := exists_step plan (not_exists.1 hend)
      obtain ⟨more, last, result, hrun, hresult⟩ :=
        ih next.remaining (hremaining ▸ step.remaining_lt) (run.snoc step) rfl
      exact ⟨action :: more, last, result, by simpa using hrun, hresult⟩

end EntSchema.Concurrent
