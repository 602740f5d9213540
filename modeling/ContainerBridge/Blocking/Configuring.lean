import ContainerBridge.Blocking.Pool

/-! Calls of `blocking` whose bodies also run synchronous configuration closures. Swift calls those
on the thread of the pool that the body runs on, so a call that one makes parks that thread. -/

namespace ContainerBridge

namespace Blocking

mutual

/-- The body of a `blocking` call. -/
inductive Body (V : Type) where
  | returns (result : Except SwiftError V)
  | computes (next : V → Body V)
  /-- Gives up its thread until what it waits for is there. -/
  | suspends (next : V → Body V)
  /-- `await offPool { closure() }`. -/
  | offPool (closure : Closure V) (next : V → Body V)
  /-- A synchronous closure of Rust's, such as `ContainerManager.create`'s `configuration`. -/
  | configures (closure : Closure V) (next : V → Body V)

/-- A Rust closure. -/
inductive Closure (V : Type) where
  | returns (value : V)
  | computes (next : V → Closure V)
  /-- A call that goes through `blocking`. -/
  | blocking (body : Body V) (next : Except SwiftError V → Closure V)

end

variable {n : Nat} {V : Type}

/-- The locals of `blocking`, which its detached task shares. -/
structure Shared (V : Type) where
  semaphore : Nat
  outcome : Option (Except SwiftError V)
  pending : Option (Body V)

def Shared.init (body : Body V) : Shared V where
  semaphore := 0
  outcome := none
  pending := some body

/-- `guard let outcome else { throw BridgeError.noOutcome }`, and `outcome.get()`. -/
def Shared.get (shared : Shared V) : Except SwiftError V :=
  match shared.outcome with
  | none => .error (.bridge .noOutcome)
  | some outcome => outcome

/-! ### Where the bridge runs Rust's closures -/

/-- Rust's `ProgressHandler`. -/
abbrev RustProgressHandler (V : Type) := List ProgressKind → List Int64 → Closure V

def call (handler : RustProgressHandler V) (events : List ProgressEvent) : Closure V :=
  let (kinds, values) := (events.map ProgressEvent.lent).unzip
  handler kinds values

/-- `progressHandler`. What awaits it goes on with `next`. -/
def progressHandler (handler : Option (RustProgressHandler V)) :
    Option (List ProgressEvent → (V → Body V) → Body V) :=
  handler.map fun handler events next => .offPool (call handler events) next

/-- The body of `ingest`'s `blocking`. `store` is Containerization's `ingest`, which awaits the
closure it is given, and `threw` reads what Rust's `body` returned. -/
def ingest (store : (String → (Except SwiftError Unit → Body V) → Body V) → Body V)
    (threw : V → Bool) (body : String → Closure V) : Body V :=
  store fun directory next => .offPool (body directory) fun returned =>
    next (if threw returned then .error (.bridge .bodyFailed) else .ok ())

/-- The body of `ContainerManager.create`'s `blocking`. `manager` is Containerization's `create`,
which calls the closure it is given where it runs. -/
def create (manager : ((V → Body V) → Body V) → Body V) (configuration : Closure V) : Body V :=
  manager fun next => .configures configuration next

namespace Pooled

mutual

/-- The detached task of a call. -/
inductive Task (n : Nat) (V : Type) where
  /-- Waits for a thread of the pool to start on. -/
  | detached
  /-- Waits for a thread of the pool to go on on. -/
  | ready (code : Body V)
  | running (thread : Fin n) (code : Body V)
  | suspended (next : V → Body V)
  /-- Waits in `offPool`, on no thread, for a closure that one of Dispatch's runs. -/
  | awaiting (closure : Running n V) (next : V → Body V)
  /-- Its thread runs the closure. -/
  | configuring (thread : Fin n) (closure : Running n V) (next : V → Body V)
  /-- Has let go of the body, before it signals. -/
  | finished (thread : Fin n)
  | done

/-- A closure on the thread that runs it. -/
inductive Running (n : Nat) (V : Type) where
  /-- Waits for a thread of Dispatch's. -/
  | queued (code : Closure V)
  | running (code : Closure V)
  /-- Its thread waits for the semaphore of a call of `blocking`. -/
  | parked (shared : Shared V) (task : Task n V) (next : Except SwiftError V → Closure V)

end

/-- A call of `blocking` that has not returned. -/
structure Call (n : Nat) (V : Type) where
  shared : Shared V
  task : Task n V

def Call.init (body : Body V) : Call n V := ⟨.init body, .detached⟩

mutual

/-- A step inside a call, while the pool's threads that are `free` run nothing. -/
inductive Call.Step (free : Fin n → Prop) : Call n V → Call n V → Prop
  -- `if let body = pending.take()`
  | start {shared : Shared V} {body : Body V} {thread : Fin n} (hfree : free thread)
      (hpending : shared.pending = some body) :
      Call.Step free ⟨shared, .detached⟩ ⟨{ shared with pending := none }, .running thread body⟩
  | startTaken {shared : Shared V} {thread : Fin n} (hfree : free thread)
      (hpending : shared.pending = none) :
      Call.Step free ⟨shared, .detached⟩ ⟨shared, .finished thread⟩
  | resume {shared : Shared V} {code : Body V} {thread : Fin n} (hfree : free thread) :
      Call.Step free ⟨shared, .ready code⟩ ⟨shared, .running thread code⟩
  | computes {shared : Shared V} {thread : Fin n} {next : V → Body V} (value : V) :
      Call.Step free ⟨shared, .running thread (.computes next)⟩
        ⟨shared, .running thread (next value)⟩
  | suspends {shared : Shared V} {thread : Fin n} {next : V → Body V} :
      Call.Step free ⟨shared, .running thread (.suspends next)⟩ ⟨shared, .suspended next⟩
  | wakes {shared : Shared V} {next : V → Body V} (value : V) :
      Call.Step free ⟨shared, .suspended next⟩ ⟨shared, .ready (next value)⟩
  -- `rustClosures.async`, in `withCheckedContinuation`
  | offPool {shared : Shared V} {thread : Fin n} {closure : Closure V} {next : V → Body V} :
      Call.Step free ⟨shared, .running thread (.offPool closure next)⟩
        ⟨shared, .awaiting (.queued closure) next⟩
  -- `continuation.resume(returning:)`
  | resumed {shared : Shared V} {value : V} {next : V → Body V} :
      Call.Step free ⟨shared, .awaiting (.running (.returns value)) next⟩
        ⟨shared, .ready (next value)⟩
  | awaited {shared : Shared V} {closure closure' : Running n V} {next : V → Body V}
      (h : Running.Step free closure closure') :
      Call.Step free ⟨shared, .awaiting closure next⟩ ⟨shared, .awaiting closure' next⟩
  | configures {shared : Shared V} {thread : Fin n} {closure : Closure V} {next : V → Body V} :
      Call.Step free ⟨shared, .running thread (.configures closure next)⟩
        ⟨shared, .configuring thread (.running closure) next⟩
  | configuring {shared : Shared V} {thread : Fin n} {closure closure' : Running n V}
      {next : V → Body V} (h : Running.Step free closure closure') :
      Call.Step free ⟨shared, .configuring thread closure next⟩
        ⟨shared, .configuring thread closure' next⟩
  | configured {shared : Shared V} {thread : Fin n} {value : V} {next : V → Body V} :
      Call.Step free ⟨shared, .configuring thread (.running (.returns value)) next⟩
        ⟨shared, .running thread (next value)⟩
  | finishes {shared : Shared V} {thread : Fin n} {result : Except SwiftError V} :
      Call.Step free ⟨shared, .running thread (.returns result)⟩
        ⟨{ shared with outcome := some result }, .finished thread⟩
  | signals {shared : Shared V} {thread : Fin n} :
      Call.Step free ⟨shared, .finished thread⟩
        ⟨{ shared with semaphore := shared.semaphore + 1 }, .done⟩

inductive Running.Step (free : Fin n → Prop) : Running n V → Running n V → Prop
  | dispatched {code : Closure V} : Running.Step free (.queued code) (.running code)
  | computes {next : V → Closure V} (value : V) :
      Running.Step free (.running (.computes next)) (.running (next value))
  | calls {body : Body V} {next : Except SwiftError V → Closure V} :
      Running.Step free (.running (.blocking body next)) (.parked (.init body) .detached next)
  | inner {shared shared' : Shared V} {task task' : Task n V}
      {next : Except SwiftError V → Closure V}
      (h : Call.Step free ⟨shared, task⟩ ⟨shared', task'⟩) :
      Running.Step free (.parked shared task next) (.parked shared' task' next)
  | returns {shared : Shared V} {task : Task n V} {next : Except SwiftError V → Closure V}
      (hsignalled : 0 < shared.semaphore) :
      Running.Step free (.parked shared task next) (.running (next shared.get))

end

mutual

/-- The thread of the pool is the task's, or that of a task it waits for. -/
def Task.On (thread : Fin n) : Task n V → Prop
  | .running other _ | .finished other => other = thread
  | .configuring other closure _ => other = thread ∨ closure.On thread
  | .awaiting closure _ => closure.On thread
  | _ => False

def Running.On (thread : Fin n) : Running n V → Prop
  | .parked _ task _ => task.On thread
  | _ => False

end

/-- The call that each Rust thread is in. -/
structure World (n : Nat) (V : Type) where
  calls : Nat → Option (Call n V) := fun _ => none

namespace World

def withCall (world : World n V) (i : Nat) (call : Option (Call n V)) : World n V :=
  { calls := Function.update world.calls i call }

/-- No task has the thread of the pool. -/
def Free (world : World n V) (thread : Fin n) : Prop :=
  ∀ i call, world.calls i = some call → ¬call.task.On thread

end World

/-- A step that no Rust thread's call begins. -/
inductive Moves : World n V → World n V → Prop
  | inner {world : World n V} {i : Nat} {call call' : Call n V}
      (hcall : world.calls i = some call) (h : call.Step world.Free call') :
      Moves world (world.withCall i (some call'))
  | returns {world : World n V} {i : Nat} {call : Call n V} (hcall : world.calls i = some call)
      (hsignalled : 0 < call.shared.semaphore) : Moves world (world.withCall i none)

/-- A step, where Rust's threads call `blocking` with bodies that are `allowed`. -/
inductive Step (allowed : Body V → Prop) : World n V → World n V → Prop
  | call {world : World n V} {i : Nat} (hidle : world.calls i = none) {body : Body V}
      (hallowed : allowed body) : Step allowed world (world.withCall i (some (.init body)))
  | moves {world later : World n V} (h : Moves world later) : Step allowed world later

/-- A world that any number of steps reaches. -/
def World.Reachable (allowed : Body V → Prop) (world : World n V) : Prop :=
  Relation.ReflTransGen (Step allowed) {} world

end Pooled

end Blocking

end ContainerBridge
