import ContainerBridge.Library.Replace
import ContainerBridge.Mirror.Code
import Mathlib.Data.Bool.Basic
import Mathlib.Data.String.Basic

/-! The glue that the build script has generated: the modules it is generated from, and the shims in
it that are made public. -/

namespace ContainerBridge

namespace Build

open FileTree

def bridge : String := "containerization-bridge"

def package : String := "ContainerizationBridge"

/-- What is at `path`. -/
def entry (raw : Option (Raw String)) : List String → Option (Raw String)
  | [] => raw
  | name :: path =>
    match raw with
    | some (.dir entries) => entry (entries.lookup name) path
    | _ => none

/-- `std::fs::write` at `path`, whose parent has to be there. -/
def writeAt (raw : Option (Raw String)) (path : List String) (fresh : List UInt8) :
    Option (Raw String) :=
  match path with
  | [] => write raw fresh
  | name :: path =>
    match raw with
    | some (.dir entries) =>
      (writeAt (entries.lookup name) path fresh).map fun child => .dir (set entries name child)
    | _ => none

/-- `std::fs::read_to_string`. -/
def readToString (raw : Option (Raw String)) : Option String :=
  (read raw).bind fun bytes => String.fromUTF8? ⟨bytes.toArray⟩

/-! ### `bridge_modules` -/

/-- `Path::extension`, of a file of this name. -/
def extension (name : String) : Option String :=
  let reversed := name.toList.reverse
  match reversed.dropWhile (· ≠ '.') with
  -- A name that starts with its only dot has no extension.
  | [] | [_] => none
  | _ => if name = ".." then none else some (String.ofList (reversed.takeWhile (· ≠ '.')).reverse)

/-- `sort_by_key`'s key, by which `mod.rs` comes first. -/
def moduleKey (name : String) : Bool × String := (name != "mod.rs", name)

def keyLe (key other : Bool × String) : Bool :=
  key.1 < other.1 ∨ key.1 = other.1 ∧ key.2 ≤ other.2

def moduleLe (module other : String × List UInt8) : Bool :=
  keyLe (moduleKey module.1) (moduleKey other.1)

/-- The name and contents of each file that a listing of `src/bridge` names as a module. -/
def modules (listing : Entries String) : List (String × List UInt8) :=
  listing.filterMap fun
    | (name, .file content) => if extension name = some "rs" then some (name, content) else none
    | (_, .dir _) => none

def bridgeModules (listing : Entries String) : List (String × List UInt8) :=
  (modules listing).mergeSort moduleLe

/-! ### `publish_bridge_shims` -/

/-- `str::replace`. -/
def strReplace (source pattern fresh : String) : String :=
  String.ofList (Replace.replace pattern.toList fresh.toList source.toList)

def publish (source : String) : String :=
  strReplace source "\nfunc __swift_bridge__" "\npublic func __swift_bridge__"

/-- `glue` is at `generated`. -/
def publishBridgeShims (generated : String) (glue : Option (Raw String)) :
    Except String (Raw String) :=
  let path := [bridge, bridge ++ ".swift"]
  let shown := generated ++ "/" ++ bridge ++ "/" ++ bridge ++ ".swift"
  match readToString (entry glue path) with
  | none => .error "swift-bridge should have just written the glue"
  | some source =>
    let published := publish source
    if published = source then
      .error s!"no `func __swift_bridge__` to publish in {shown}; swift-bridge's output has changed shape"
    else
      match writeAt glue path published.toUTF8.data.toList with
      | none => .error "the generated glue should be writable"
      | some written => .ok written

end Build

end ContainerBridge
