import ContainerBridge.Blocking.Code
import Mathlib.Logic.Function.Basic
import Mathlib.Logic.Relation

/-! Calls of `blocking` on any number of Rust threads, over a pool of `n` threads that run Swift's
tasks and threads that Dispatch starts for the closures `offPool` gives it. A call, its task, the
closure the task awaits and the call that closure is in are nested in each other; every step is of
the innermost of them, and steps of different calls come in any order. -/

namespace ContainerBridge

namespace Blocking

variable {n : Nat} {V : Type}

inductive Thread (n : Nat) where
  | rust (i : Nat)
  | pool (i : Fin n)
  | dispatch

/-- The locals of `blocking`, which its detached task shares; and, for what is said of a call, the
body it was given, how often that was started, and what its steps have computed and have been given
by what they waited for, those of the closures and calls it waits for too. -/
structure Locals (V : Type) where
  semaphore : Nat
  outcome : Option (Except SwiftError V)
  pending : Option (Async V)
  body : Async V
  runs : Nat
  given : List V

/-- The locals once `semaphore`, `outcome` and `pending` are declared. -/
def Locals.init (body : Async V) : Locals V where
  semaphore := 0
  outcome := none
  pending := some body
  body := body
  runs := 0
  given := []

/-- `guard let outcome else { throw BridgeError.noOutcome }`, and `outcome.get()`. -/
def Locals.get (locals : Locals V) : Except SwiftError V :=
  match locals.outcome with
  | none => .error (.bridge .noOutcome)
  | some outcome => outcome

mutual

/-- The detached task of a call. -/
inductive Task (n : Nat) (V : Type) where
  /-- Waits for a thread of the pool to start on. -/
  | detached
  /-- Waits for a thread of the pool to go on on. -/
  | ready (code : Async V)
  | running (thread : Fin n) (code : Async V)
  | suspended (next : V → Async V)
  /-- Waits in `offPool` for its continuation to be resumed. -/
  | awaiting (closure : Awaited n V) (next : V → Async V)
  /-- Has let go of the body, before it signals. -/
  | finished (thread : Fin n)
  | done

/-- A closure that `offPool` gave to Dispatch. -/
inductive Awaited (n : Nat) (V : Type) where
  | queued (code : RustCode V)
  | running (thread : Thread n) (code : RustCode V)
  /-- Its thread waits for the semaphore of a call of `blocking`. -/
  | parked (thread : Thread n) (locals : Locals V) (task : Task n V)
      (next : Except SwiftError V → RustCode V)

end

/-- A call of `blocking` that has not returned. -/
structure Call (n : Nat) (V : Type) where
  locals : Locals V
  task : Task n V

def Call.init (body : Async V) : Call n V := ⟨.init body, .detached⟩

/-- What a step inside a call does: a call in a closure begins or returns, code is given what it
computes or waits for, or anything else. -/
inductive Move (n : Nat) (V : Type) where
  | calls
  | returns (call : Call n V) (result : Except SwiftError V)
  | gives (value : V)
  | other

/-- What the step gives to the code. -/
def Move.given : Move n V → List V
  | .gives value => [value]
  | .calls | .returns _ _ | .other => []

/-- Notes what a step gives. -/
def Locals.noting (locals : Locals V) (move : Move n V) : Locals V :=
  { locals with given := locals.given ++ move.given }

mutual

/-- A step inside a call, while the pool's threads that are `free` run nothing. -/
inductive Call.Step (free : Fin n → Prop) : Call n V → Move n V → Call n V → Prop
  -- `if let body = pending.take()`
  | start {locals : Locals V} {body : Async V} {thread : Fin n} (hfree : free thread)
      (hpending : locals.pending = some body) :
      Call.Step free ⟨locals, .detached⟩ .other
        ⟨{ locals with pending := none, runs := locals.runs + 1 }, .running thread body⟩
  | startTaken {locals : Locals V} {thread : Fin n} (hfree : free thread)
      (hpending : locals.pending = none) :
      Call.Step free ⟨locals, .detached⟩ .other ⟨locals, .finished thread⟩
  | resume {locals : Locals V} {code : Async V} {thread : Fin n} (hfree : free thread) :
      Call.Step free ⟨locals, .ready code⟩ .other ⟨locals, .running thread code⟩
  | computes {locals : Locals V} {thread : Fin n} {next : V → Async V} (value : V) :
      Call.Step free ⟨locals, .running thread (.computes next)⟩ (.gives value)
        ⟨locals.noting (.gives value : Move n V), .running thread (next value)⟩
  | suspends {locals : Locals V} {thread : Fin n} {next : V → Async V} :
      Call.Step free ⟨locals, .running thread (.suspends next)⟩ .other ⟨locals, .suspended next⟩
  | wakes {locals : Locals V} {next : V → Async V} (value : V) :
      Call.Step free ⟨locals, .suspended next⟩ (.gives value)
        ⟨locals.noting (.gives value : Move n V), .ready (next value)⟩
  -- `rustClosures.async`, in `withCheckedContinuation`
  | offPool {locals : Locals V} {thread : Fin n} {closure : RustCode V} {next : V → Async V} :
      Call.Step free ⟨locals, .running thread (.offPool closure next)⟩ .other
        ⟨locals, .awaiting (.queued closure) next⟩
  -- `continuation.resume(returning:)`
  | resumed {locals : Locals V} {thread : Thread n} {value : V} {next : V → Async V} :
      Call.Step free ⟨locals, .awaiting (.running thread (.returns value)) next⟩ .other
        ⟨locals, .ready (next value)⟩
  | awaited {locals : Locals V} {closure closure' : Awaited n V} {next : V → Async V}
      {move : Move n V} (h : Awaited.Step free closure move closure') :
      Call.Step free ⟨locals, .awaiting closure next⟩ move
        ⟨locals.noting move, .awaiting closure' next⟩
  | finishes {locals : Locals V} {thread : Fin n} {result : Except SwiftError V} :
      Call.Step free ⟨locals, .running thread (.returns result)⟩ .other
        ⟨{ locals with outcome := some result }, .finished thread⟩
  | signals {locals : Locals V} {thread : Fin n} :
      Call.Step free ⟨locals, .finished thread⟩ .other
        ⟨{ locals with semaphore := locals.semaphore + 1 }, .done⟩

inductive Awaited.Step (free : Fin n → Prop) : Awaited n V → Move n V → Awaited n V → Prop
  | dispatched {code : RustCode V} :
      Awaited.Step free (.queued code) .other (.running .dispatch code)
  | computes {thread : Thread n} {next : V → RustCode V} (value : V) :
      Awaited.Step free (.running thread (.computes next)) (.gives value)
        (.running thread (next value))
  | calls {thread : Thread n} {body : Async V} {next : Except SwiftError V → RustCode V} :
      Awaited.Step free (.running thread (.blocking body next)) .calls
        (.parked thread (.init body) .detached next)
  | inner {thread : Thread n} {locals locals' : Locals V} {task task' : Task n V}
      {next : Except SwiftError V → RustCode V} {move : Move n V}
      (h : Call.Step free ⟨locals, task⟩ move ⟨locals', task'⟩) :
      Awaited.Step free (.parked thread locals task next) move (.parked thread locals' task' next)
  | returns {thread : Thread n} {locals : Locals V} {task : Task n V}
      {next : Except SwiftError V → RustCode V} (hsignalled : 0 < locals.semaphore) :
      Awaited.Step free (.parked thread locals task next) (.returns ⟨locals, task⟩ locals.get)
        (.running thread (next locals.get))

end

mutual

/-- A task runs on the thread of the pool: the call's, or that of a call it waits for. -/
def Task.On (thread : Fin n) : Task n V → Prop
  | .running other _ | .finished other => other = thread
  | .awaiting closure _ => closure.On thread
  | _ => False

def Awaited.On (thread : Fin n) : Awaited n V → Prop
  | .parked _ _ task _ => task.On thread
  | _ => False

end

mutual

/-- The thread is in a call of `blocking` that the task waits for. -/
def Task.Parks (thread : Thread n) : Task n V → Prop
  | .awaiting closure _ => closure.Parks thread
  | _ => False

def Awaited.Parks (thread : Thread n) : Awaited n V → Prop
  | .parked other _ task _ => other = thread ∨ task.Parks thread
  | _ => False

end

/-- The call that each Rust thread is in. -/
structure World (n : Nat) (V : Type) where
  calls : Nat → Option (Call n V) := fun _ => none

namespace World

variable (world : World n V)

def withCall (i : Nat) (call : Option (Call n V)) : World n V :=
  { calls := Function.update world.calls i call }

/-- No task runs on the thread of the pool. -/
def Free (thread : Fin n) : Prop := ∀ i call, world.calls i = some call → ¬call.task.On thread

/-- The thread waits for the semaphore of a call of `blocking`. -/
def Parks (thread : Thread n) : Prop :=
  ∃ i call, world.calls i = some call ∧ (thread = .rust i ∨ call.task.Parks thread)

end World

inductive Label (n : Nat) (V : Type) where
  /-- A Rust thread makes a call. -/
  | call
  | moves (move : Move n V)

inductive Step : World n V → Label n V → World n V → Prop
  | call {world : World n V} {i : Nat} (hidle : world.calls i = none) (body : Async V) :
      Step world .call (world.withCall i (some (.init body)))
  | moves {world : World n V} {i : Nat} {call call' : Call n V} {move : Move n V}
      (hcall : world.calls i = some call) (h : call.Step world.Free move call') :
      Step world (.moves move) (world.withCall i (some call'))
  | returns {world : World n V} {i : Nat} {call : Call n V} (hcall : world.calls i = some call)
      (hsignalled : 0 < call.locals.semaphore) :
      Step world (.moves (.returns call call.locals.get)) (world.withCall i none)

/-- A world that any number of steps reaches. -/
def World.Reachable (world : World n V) : Prop :=
  Relation.ReflTransGen (fun before after => ∃ label, Step before label after) {} world

end Blocking

end ContainerBridge
