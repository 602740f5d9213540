import ContainerBridge.Runtime.Crossing

/-! Swift code that runs in a task and awaits Rust closures, and Rust code that makes blocking
calls, to any depth of the one in the other. What code goes on with may depend on what it computes,
what it waits for and what it called. A run sees no more of its code than it has run, so what is
shown of every run covers code that never returns as well. -/

namespace ContainerBridge

namespace Blocking

mutual

/-- The body of a `blocking` call, `() async throws -> V`. -/
inductive Async (V : Type) where
  | returns (result : Except SwiftError V)
  | computes (next : V → Async V)
  /-- Gives up its thread until what it waits for is there. -/
  | suspends (next : V → Async V)
  /-- `await offPool { closure() }`. -/
  | offPool (closure : RustCode V) (next : V → Async V)

/-- A Rust closure that Swift awaits. -/
inductive RustCode (V : Type) where
  | returns (value : V)
  | computes (next : V → RustCode V)
  /-- A call that goes through `blocking`. -/
  | blocking (body : Async V) (next : Except SwiftError V → RustCode V)

end

variable {V : Type}

mutual

/-- What a body returns or throws when it is run alone, each closure and call where it stands, and
is given, one after the other, what it computes and what it waits for; with what it was given and
did not take. -/
def Async.run : Async V → List V → Option (Except SwiftError V × List V)
  | .returns result, given => some (result, given)
  | .computes next, value :: given | .suspends next, value :: given => (next value).run given
  | .computes _, [] | .suspends _, [] => none
  | .offPool closure next, given =>
    (closure.run given).bind fun (value, given) => (next value).run given

def RustCode.run : RustCode V → List V → Option (V × List V)
  | .returns value, given => some (value, given)
  | .computes next, value :: given => (next value).run given
  | .computes _, [] => none
  | .blocking body next, given =>
    (body.run given).bind fun (result, given) => (next result).run given

end

/-! ### Progress -/

inductive ProgressKind where
  | items | totalItems | size | totalSize

inductive ProgressEvent where
  | addItems (value : Int64)
  | addTotalItems (value : Int64)
  | addSize (value : Int64)
  | addTotalSize (value : Int64)

/-- The events as Rust's handler takes them, their kinds and their values. -/
def ProgressEvent.lent : ProgressEvent → ProgressKind × Int64
  | .addItems value => (.items, value)
  | .addTotalItems value => (.totalItems, value)
  | .addSize value => (.size, value)
  | .addTotalSize value => (.totalSize, value)

end Blocking

end ContainerBridge
