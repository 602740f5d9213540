import ContainerBridge.Wrapper

/-! `FileDescriptorOps`, but for the two calls that take a closure. Rust lends the number of each
descriptor, and Swift hands over the number of one it opens. -/

namespace ContainerBridge

variable [Runtime]

/-- `FileDescriptorOps.FileStatus`. -/
structure FileStatus where
  type : EntryType
  permissions : UInt16
  size : Int64
  userID : UInt32
  groupID : UInt32
  modificationSeconds : Int64
  modificationNanoseconds : Int64
  deriving DecidableEq

/-- `FileDescriptorOps.SymlinkPolicy`. -/
inductive SymlinkPolicy where
  | refuse | followBeneath
  deriving DecidableEq

/-- `FdOpsSymlinkPolicy`, the policy as it crosses. -/
inductive FdOpsSymlinkPolicy where
  | refuse | followBeneath

def SymlinkPolicy.into : SymlinkPolicy → FdOpsSymlinkPolicy
  | .refuse => .refuse
  | .followBeneath => .followBeneath

def FdOpsSymlinkPolicy.policy : FdOpsSymlinkPolicy → SymlinkPolicy
  | .refuse => .refuse
  | .followBeneath => .followBeneath

/-! ### Swift -/

namespace Swift

/-- Swift's `FileDescriptorOps`, and how its paths are made from text. -/
structure FileDescriptorOps (World Component FilePath : Type) where
  component : String → Option Component
  filePath : String → FilePath
  entryType : Int32 → Component → Throwing World (Option EntryType)
  openDirectory : Int32 → Component → Throwing World Int32
  makeDirectory : Int32 → Component → Option UInt16 → Throwing World Unit
  unlink : Int32 → Component → Throwing World Unit
  statusOf : Int32 → Throwing World FileStatus
  status : Int32 → Component → Throwing World (Option FileStatus)
  statusRelativePath : Int32 → FilePath → SymlinkPolicy → Throwing World (Option FileStatus)
  openFile : Int32 → Component → Throwing World Int32
  openFileRelativePath : Int32 → FilePath → SymlinkPolicy → Throwing World Int32
  createFile : Int32 → Component → Option UInt16 → Throwing World Int32
  makeSymlink : Int32 → Component → String → Throwing World Unit
  readSymlink : Int32 → Component → Throwing World String
  unlinkRecursive : Int32 → Component → Throwing World Unit
  getCanonicalPath : Int32 → Throwing World String

end Swift

/-- What an outcome of these calls can hold. -/
inductive FdOpsHeld where
  | void
  | absent
  | int32 (value : Int32)
  | text (value : String)
  | entryType (value : EntryType)
  | fileStatus (value : FileStatus)

section Calls

variable {World Component FilePath : Type}
  (ops : Swift.FileDescriptorOps World Component FilePath)

namespace Swift

/-- The one path component Rust passed as `name`. -/
def component (name : String) : Throwing World Component :=
  match ops.component name with
  | some component => pure component
  | none => throw (.bridge (.malformed "path component" name))

/-- The `FilePermissions?` Rust passed as a flag and a raw value. -/
def lentPermissions (hasPermissions : Bool) (permissions : UInt16) : Option UInt16 :=
  if hasPermissions then some permissions else none

def fdOpsEntryType (fd : Int32) (name : String) : World → Returned FdOpsHeld × World :=
  outcome do
    match ← ops.entryType fd (← component ops name) with
    | some type => return .entryType type
    | none => return .absent

def fdOpsOpenDirectory (fd : Int32) (name : String) : World → Returned FdOpsHeld × World :=
  outcome do return .int32 (← ops.openDirectory fd (← component ops name))

def fdOpsMakeDirectory (fd : Int32) (name : String) (hasPermissions : Bool)
    (permissions : UInt16) : World → Returned FdOpsHeld × World :=
  outcome do
    ops.makeDirectory fd (← component ops name) (lentPermissions hasPermissions permissions)
    return .void

def fdOpsUnlink (fd : Int32) (name : String) : World → Returned FdOpsHeld × World :=
  outcome do
    ops.unlink fd (← component ops name)
    return .void

def fdOpsStatusOf (fd : Int32) : World → Returned FdOpsHeld × World :=
  outcome do return .fileStatus (← ops.statusOf fd)

def fdOpsStatus (fd : Int32) (name : String) : World → Returned FdOpsHeld × World :=
  outcome do
    match ← ops.status fd (← component ops name) with
    | some status => return .fileStatus status
    | none => return .absent

def fdOpsStatusRelativePath (fd : Int32) (relativePath : String) (symlinks : FdOpsSymlinkPolicy) :
    World → Returned FdOpsHeld × World :=
  outcome do
    match ← ops.statusRelativePath fd (ops.filePath relativePath) symlinks.policy with
    | some status => return .fileStatus status
    | none => return .absent

def fdOpsOpenFile (fd : Int32) (name : String) : World → Returned FdOpsHeld × World :=
  outcome do return .int32 (← ops.openFile fd (← component ops name))

def fdOpsOpenFileRelativePath (fd : Int32) (relativePath : String)
    (symlinks : FdOpsSymlinkPolicy) : World → Returned FdOpsHeld × World :=
  outcome do
    return .int32 (← ops.openFileRelativePath fd (ops.filePath relativePath) symlinks.policy)

def fdOpsCreateFile (fd : Int32) (name : String) (hasPermissions : Bool) (permissions : UInt16) :
    World → Returned FdOpsHeld × World :=
  outcome do
    return .int32 (← ops.createFile fd (← component ops name)
      (lentPermissions hasPermissions permissions))

def fdOpsMakeSymlink (fd : Int32) (name target : String) : World → Returned FdOpsHeld × World :=
  outcome do
    ops.makeSymlink fd (← component ops name) target
    return .void

def fdOpsReadSymlink (fd : Int32) (name : String) : World → Returned FdOpsHeld × World :=
  outcome do return .text (← ops.readSymlink fd (← component ops name))

def fdOpsUnlinkRecursive (fd : Int32) (filename : String) : World → Returned FdOpsHeld × World :=
  outcome do
    ops.unlinkRecursive fd (← component ops filename)
    return .void

def fdOpsGetCanonicalPath (fd : Int32) : World → Returned FdOpsHeld × World :=
  outcome do return .text (← ops.getCanonicalPath fd)

end Swift

namespace Returned

variable (returned : Returned FdOpsHeld)

/-! ### Swift's getters -/

def isSome : Bool :=
  match returned.value with
  | some .absent => false
  | _ => true

/-- A cast of an outcome that holds another type. -/
def mismatched {α : Type} : Crossing α :=
  .error (.trap "Rust took one type from an outcome holding another")

def int32 : Crossing Int32 :=
  match returned.value with
  | some (.int32 value) => .ok value
  | _ => mismatched

def text : Crossing String :=
  match returned.value with
  | some (.text value) => .ok value
  | _ => mismatched

def heldEntryType : Crossing FdOpsEntryType :=
  match returned.value with
  | some (.entryType type) => .ok type.kind
  | _ => mismatched

def heldStatus : Crossing FileStatus :=
  match returned.value with
  | some (.fileStatus status) => .ok status
  | _ => mismatched

def heldStatusType : Crossing FdOpsEntryType := do return (← returned.heldStatus).type.kind

def heldStatusPermissions : Crossing UInt16 := do return (← returned.heldStatus).permissions

def heldStatusSize : Crossing Int64 := do return (← returned.heldStatus).size

def heldStatusUserId : Crossing UInt32 := do return (← returned.heldStatus).userID

def heldStatusGroupId : Crossing UInt32 := do return (← returned.heldStatus).groupID

def heldStatusModificationSeconds : Crossing Int64 := do
  return (← returned.heldStatus).modificationSeconds

def heldStatusModificationNanoseconds : Crossing Int64 := do
  return (← returned.heldStatus).modificationNanoseconds

/-! ### Rust's readers -/

/-- What an outcome holds, or `None` for `Absent`. -/
def optional {α : Type} (read : Returned FdOpsHeld → Crossing α) : Crossing (Option α) :=
  if returned.isSome then some <$> read returned else .ok none

def optionalFdOpsEntryType : Crossing (Option EntryType) :=
  returned.optional fun held => do return (← held.heldEntryType).into

def fdOpsFileStatus : Crossing FileStatus := do
  return {
    type := (← returned.heldStatusType).into
    permissions := ← returned.heldStatusPermissions
    size := ← returned.heldStatusSize
    userID := ← returned.heldStatusUserId
    groupID := ← returned.heldStatusGroupId
    modificationSeconds := ← returned.heldStatusModificationSeconds
    modificationNanoseconds := ← returned.heldStatusModificationNanoseconds }

def optionalFdOpsFileStatus : Crossing (Option FileStatus) :=
  returned.optional fdOpsFileStatus

end Returned

/-! ### Rust -/

open Platform

namespace Rust.FileDescriptorOps

/-- What Rust does with a call that returns nothing. -/
def drop : Returned FdOpsHeld → Crossing Unit := fun _ => .ok ()

/-- `name` as Swift takes it. -/
def component (name : PathBuf) : Except Rust.Error String := Platform.path name

def entryType (fd : Int32) (name : PathBuf) :
    World → Crossing (Except Rust.Error (Option EntryType) × World) :=
  checked (component name) fun component =>
    called (Swift.fdOpsEntryType ops fd component) s!"read the type of {name.lossyPath}"
      (·.optionalFdOpsEntryType)

def openDirectory (fd : Int32) (name : PathBuf) :
    World → Crossing (Except Rust.Error Int32 × World) :=
  checked (component name) fun component =>
    called (Swift.fdOpsOpenDirectory ops fd component) s!"open the directory {name.lossyPath}"
      (·.int32)

def makeDirectory (fd : Int32) (name : PathBuf) (permissions : Option UInt16) :
    World → Crossing (Except Rust.Error Unit × World) :=
  checked (component name) fun component =>
    called (Swift.fdOpsMakeDirectory ops fd component permissions.isSome (permissions.getD 0))
      s!"make the directory {name.lossyPath}" drop

def unlink (fd : Int32) (name : PathBuf) : World → Crossing (Except Rust.Error Unit × World) :=
  checked (component name) fun component =>
    called (Swift.fdOpsUnlink ops fd component) s!"unlink {name.lossyPath}" drop

def statusOf (fd : Int32) : World → Crossing (Except Rust.Error FileStatus × World) :=
  called (Swift.fdOpsStatusOf ops fd) "read the status of a descriptor" (·.fdOpsFileStatus)

def status (fd : Int32) (name : PathBuf) :
    World → Crossing (Except Rust.Error (Option FileStatus) × World) :=
  checked (component name) fun component =>
    called (Swift.fdOpsStatus ops fd component) s!"read the status of {name.lossyPath}"
      (·.optionalFdOpsFileStatus)

def statusRelativePath (fd : Int32) (relativePath : PathBuf) (symlinks : SymlinkPolicy) :
    World → Crossing (Except Rust.Error (Option FileStatus) × World) :=
  checked (path relativePath) fun path =>
    called (Swift.fdOpsStatusRelativePath ops fd path symlinks.into)
      s!"read the status of {relativePath.lossyPath}" (·.optionalFdOpsFileStatus)

def openFile (fd : Int32) (name : PathBuf) : World → Crossing (Except Rust.Error Int32 × World) :=
  checked (component name) fun component =>
    called (Swift.fdOpsOpenFile ops fd component) s!"open the file {name.lossyPath}" (·.int32)

def openFileRelativePath (fd : Int32) (relativePath : PathBuf) (symlinks : SymlinkPolicy) :
    World → Crossing (Except Rust.Error Int32 × World) :=
  checked (path relativePath) fun path =>
    called (Swift.fdOpsOpenFileRelativePath ops fd path symlinks.into)
      s!"open the file {relativePath.lossyPath}" (·.int32)

def createFile (fd : Int32) (name : PathBuf) (permissions : Option UInt16) :
    World → Crossing (Except Rust.Error Int32 × World) :=
  checked (component name) fun component =>
    called (Swift.fdOpsCreateFile ops fd component permissions.isSome (permissions.getD 0))
      s!"create the file {name.lossyPath}" (·.int32)

def makeSymlink (fd : Int32) (name : PathBuf) (target : String) :
    World → Crossing (Except Rust.Error Unit × World) :=
  checked (component name) fun component =>
    called (Swift.fdOpsMakeSymlink ops fd component target) s!"make the symlink {name.lossyPath}"
      drop

def readSymlink (fd : Int32) (name : PathBuf) :
    World → Crossing (Except Rust.Error String × World) :=
  checked (component name) fun component =>
    called (Swift.fdOpsReadSymlink ops fd component) s!"read the symlink {name.lossyPath}" (·.text)

def unlinkRecursive (fd : Int32) (filename : PathBuf) :
    World → Crossing (Except Rust.Error Unit × World) :=
  checked (component filename) fun component =>
    called (Swift.fdOpsUnlinkRecursive ops fd component) s!"remove {filename.lossyPath}" drop

def getCanonicalPath (fd : Int32) : World → Crossing (Except Rust.Error PathBuf × World) :=
  called (Swift.fdOpsGetCanonicalPath ops fd) "read the canonical path of a descriptor"
    fun outcome => do return PathBuf.from (← outcome.text)

end Rust.FileDescriptorOps

end Calls

end ContainerBridge
