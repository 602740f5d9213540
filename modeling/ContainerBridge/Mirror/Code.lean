import ContainerBridge.Library.FileTree

/-! `mirror` of the build script, from a `source` tree to what is at its `destination`. Each call to
the filesystem fails only where the tree makes it. What it did to the destination is kept in order.
-/

namespace ContainerBridge

namespace Build

open FileTree

variable {Name : Type}

abbrev Raw (Name : Type) := FileTree.Raw Name (List UInt8)

abbrev Entries (Name : Type) := List (Name × Raw Name)

/-- What a call did to the destination. -/
inductive Effect (Name : Type) where
  | created (path : List Name)
  | wrote (path : List Name) (fresh : List UInt8)
  | removed (path : List Name) (stale : Raw Name)

/-- An effect in the entry `name` of a directory. -/
def Effect.under (name : Name) : Effect Name → Effect Name
  | .created path => .created (name :: path)
  | .wrote path fresh => .wrote (name :: path) fresh
  | .removed path stale => .removed (name :: path) stale

/-- What is at the destination, what was done to it, and the panic that stopped that, if one did. -/
structure Staged (Name : Type) where
  destination : Option (Raw Name)
  effects : List (Effect Name) := []
  panic : Option String := none

/-- A destination that is a directory. -/
structure Staging (Name : Type) where
  entries : Entries Name
  effects : List (Effect Name) := []
  panic : Option String := none

def Staging.staged (staging : Staging Name) : Staged Name where
  destination := some (.dir staging.entries)
  effects := staging.effects
  panic := staging.panic

variable [DecidableEq Name]

/-! ### The filesystem -/

/-- `std::fs::create_dir_all`, on a destination whose parent is there. -/
def createDirAll : Option (Raw Name) → Option (Staging Name)
  | none => some { entries := [], effects := [.created []] }
  | some (.dir entries) => some { entries }
  | some (.file _) => none

/-- `Path::exists`, of the entry `name`. -/
def has (source : Raw Name) (name : Name) : Bool :=
  match source with
  | .dir entries => (entries.lookup name).isSome
  | .file _ => false

/-- `std::fs::remove_file`. -/
def removeFile (entries : Entries Name) (name : Name) : Option (Entries Name) :=
  match entries.lookup name with
  | some (.file _) => some (erase entries name)
  | _ => none

/-- `std::fs::remove_dir_all`. -/
def removeDirAll (entries : Entries Name) (name : Name) : Option (Entries Name) :=
  match entries.lookup name with
  | some (.dir _) => some (erase entries name)
  | _ => none

/-- `std::fs::read`. -/
def read : Option (Raw Name) → Option (List UInt8)
  | some (.file current) => some current
  | _ => none

/-- `std::fs::write`. -/
def write (destination : Option (Raw Name)) (fresh : List UInt8) : Option (Raw Name) :=
  match destination with
  | some (.dir _) => none
  | _ => some (.file fresh)

/-! ### `mirror` -/

variable (skip : List Name)

/-- The first loop, over a listing of the destination. -/
def sweep (source : Raw Name) : Entries Name → Staging Name → Staging Name
  | [], staging => staging
  | (name, stale) :: rest, staging =>
    if name ∈ skip ∨ has source name then sweep source rest staging
    else
      let removed := match stale with
        | .dir _ => removeDirAll staging.entries name
        | .file _ => removeFile staging.entries name
      match removed with
      | some entries =>
        sweep source rest
          { staging with entries, effects := staging.effects ++ [.removed [name] stale] }
      | none => { staging with panic := some "a stale staged file should be removable" }

/-- The end of the second loop, for a source file. -/
def copyFile (fresh : List UInt8) (destination : Option (Raw Name)) : Staged Name :=
  if read destination = some fresh then { destination }
  else
    match write destination fresh with
    | some written => { destination := some written, effects := [.wrote [] fresh] }
    | none => { destination, panic := some "the staged file should be writable" }

/-- What was done at the entry `name`. -/
def Staging.put (staging : Staging Name) (name : Name) (staged : Staged Name) : Staging Name where
  entries := match staged.destination with
    | some raw => set staging.entries name raw
    | none => staging.entries
  effects := staging.effects ++ staged.effects.map (Effect.under name)
  panic := staged.panic

mutual

def mirror (source : Raw Name) (destination : Option (Raw Name)) : Staged Name :=
  match createDirAll destination with
  | none => { destination, panic := some "the destination should be creatable" }
  | some created =>
    let swept := sweep skip source created.entries created
    if swept.panic.isSome then swept.staged
    else
      match source with
      | .file _ => { swept.staged with panic := some "the source directory should be readable" }
      | .dir sources => (copy sources swept).staged

/-- The second loop, over a listing of the source. -/
def copy (sources : Entries Name) (staging : Staging Name) : Staging Name :=
  match sources with
  | [] => staging
  | (name, source) :: rest =>
    if name ∈ skip then copy rest staging
    else
      let destination := staging.entries.lookup name
      let staged := match source with
        | .dir _ => mirror source destination
        | .file fresh => copyFile fresh destination
      let next := staging.put name staged
      if next.panic.isSome then next else copy rest next

end

end Build

end ContainerBridge
