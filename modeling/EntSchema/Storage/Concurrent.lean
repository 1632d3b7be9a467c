import EntSchema.Storage.Memory

/-!
# Persisting with writes side by side

Persisting makes the directory and then gives every file to a task of its own.  The tasks are
started in the order of the files; a started task may write at any time, whether or not the others
are started.  When all are started, those that have written are waited for one at a time, in any
order.  The first failed write that is waited for ends persisting, and so does the last task.  What
has not written by then may still do so, or is called off.

Which operations fail is settled by a plan.  An operation that fails leaves the store as it was, one
that succeeds changes it at once.  `persist` takes the steps in one of the orders that are allowed
here: it is run with the faults of a plan by a store that fails as it is told (`ScriptedStore`).
-/

namespace EntSchema.Concurrent

/-! ## Plans -/

/-- The writing of one file, and why it fails if it does. -/
structure Task where
  file : GeneratedFile
  fault? : Option StoreFault
  deriving DecidableEq, Repr

/-- The store after a task has written: a failed write leaves it as it was. -/
def Task.write (task : Task) (store : MemoryStore) : MemoryStore :=
  match task.fault? with
  | none => store.putFile task.file.path task.file.source
  | some _ => store

/-- What is to be persisted, and which operations fail. -/
structure Plan where
  directory : Path
  directoryFault? : Option StoreFault
  tasks : List Task
  deriving DecidableEq, Repr

def Plan.files (plan : Plan) : List GeneratedFile :=
  plan.tasks.map Task.file

/-! ## States -/

/-- How far persisting has got.  It ends with the number of files, or with a fault. -/
inductive Stage where
  | starting
  | working
  | returned (result : Except StoreFault Nat)

/-- A state of persisting.  A pending task was started and has not written; a finished one has
written, successfully or not, and was not waited for; `joined` counts the successful others. -/
structure State where
  stage : Stage
  store : MemoryStore
  unstarted : List Task
  pending : List Task
  finished : List Task
  joined : Nat

def Plan.initial (plan : Plan) (store : MemoryStore) : State :=
  ⟨.starting, store, plan.tasks, [], [], 0⟩

/-! ## Steps and runs -/

/-- What happens in one step: `ensure` asks for the directory, `join` waits for a task that has
written, `finish` finds no task left, and `abort` calls one off. -/
inductive Action where
  | ensure
  | start (task : Task)
  | write (task : Task)
  | join (task : Task)
  | finish
  | abort (task : Task)
  deriving DecidableEq, Repr

/-- The steps of persisting.  A started task writes whatever the others do, also after the end; one
that has not written may be called off then. -/
inductive Step (plan : Plan) (state : State) : Action → State → Prop where
  | ensure (hstage : state.stage = .starting) (hfault : plan.directoryFault? = none) :
    Step plan state .ensure
      { state with stage := .working, store := state.store.addDirectory plan.directory }
  | ensureFails {fault} (hstage : state.stage = .starting)
    (hfault : plan.directoryFault? = some fault) :
    Step plan state .ensure { state with stage := .returned (.error fault) }
  | start {task rest} (hstage : state.stage = .working) (htask : state.unstarted = task :: rest) :
    Step plan state (.start task)
      { state with unstarted := rest, pending := state.pending ++ [task] }
  | write {before task after} (htask : state.pending = before ++ task :: after) :
    Step plan state (.write task)
      { state with
        store := task.write state.store
        pending := before ++ after
        finished := state.finished ++ [task] }
  | join {before task after} (hstage : state.stage = .working) (hstarted : state.unstarted = [])
    (htask : state.finished = before ++ task :: after) (hfault : task.fault? = none) :
    Step plan state (.join task)
      { state with finished := before ++ after, joined := state.joined + 1 }
  | joinFails {before task after fault} (hstage : state.stage = .working)
    (hstarted : state.unstarted = []) (htask : state.finished = before ++ task :: after)
    (hfault : task.fault? = some fault) :
    Step plan state (.join task)
      { state with stage := .returned (.error fault), finished := before ++ after }
  | finish (hstage : state.stage = .working) (hstarted : state.unstarted = [])
    (hpending : state.pending = []) (hfinished : state.finished = []) :
    Step plan state .finish { state with stage := .returned (.ok state.joined) }
  | abort {result before task after} (hstage : state.stage = .returned result)
    (htask : state.pending = before ++ task :: after) :
    Step plan state (.abort task) { state with pending := before ++ after }

/-- The runs that start in a state, with their actions. -/
inductive Run (plan : Plan) (first : State) : List Action → State → Prop where
  | nil : Run plan first [] first
  | snoc {actions state action next} (run : Run plan first actions state)
    (step : Step plan state action next) : Run plan first (actions ++ [action]) next

/-! ## The order in which `persist` takes the steps -/

/-- A store in memory together with what comes of the next operations: a fault, or none.  Those
after the last one succeed. -/
structure ScriptedStore where
  script : List (Option StoreFault)
  store : MemoryStore
  deriving DecidableEq, Repr

def ScriptedStore.attempt (change : MemoryStore → MemoryStore) :
    StateM ScriptedStore (Except StoreFault Unit) := fun scripted =>
  match scripted.script with
  | [] => (.ok (), ⟨[], change scripted.store⟩)
  | none :: script => (.ok (), ⟨script, change scripted.store⟩)
  | some fault :: script => (.error fault, ⟨script, scripted.store⟩)

instance : Store (StateM ScriptedStore) where
  ensureDirectory path := ScriptedStore.attempt (·.addDirectory path)
  writeFile path source := ScriptedStore.attempt (·.putFile path source)

def Plan.script (plan : Plan) : List (Option StoreFault) :=
  plan.directoryFault? :: plan.tasks.map Task.fault?

/-- What comes of persisting in the order of `persist`, and the store afterwards. -/
def Plan.persist (plan : Plan) (store : MemoryStore) : Persisted × MemoryStore :=
  let (persisted, scripted) := Id.run
    ((EntSchema.persist plan.directory plan.files : StateM ScriptedStore Persisted).run
      ⟨plan.script, store⟩)
  (persisted, scripted.store)

end EntSchema.Concurrent
