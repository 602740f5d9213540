import ContainerBridge.Library.Run
import ContainerBridge.Os.FileDescriptorOps
import Mathlib.Data.Finset.Insert
import Mathlib.Data.Finset.Dedup

/-! Runs of calls to `FileDescriptorOps` by a Rust caller: what they return and do is what the same
calls of Swift's return and do, and the caller owns the descriptors they open. -/

namespace ContainerBridge

open Carry Platform

variable [Runtime]

namespace FdOps

/-- A call of a function of the module `file_descriptor_ops`. -/
inductive Call where
  | entryType (fd : Int32) (name : PathBuf)
  | openDirectory (fd : Int32) (name : PathBuf)
  | makeDirectory (fd : Int32) (name : PathBuf) (permissions : Option UInt16)
  | unlink (fd : Int32) (name : PathBuf)
  | statusOf (fd : Int32)
  | status (fd : Int32) (name : PathBuf)
  | statusRelativePath (fd : Int32) (relativePath : PathBuf) (symlinks : SymlinkPolicy)
  | openFile (fd : Int32) (name : PathBuf)
  | openFileRelativePath (fd : Int32) (relativePath : PathBuf) (symlinks : SymlinkPolicy)
  | createFile (fd : Int32) (name : PathBuf) (permissions : Option UInt16)
  | makeSymlink (fd : Int32) (name : PathBuf) (target : String)
  | readSymlink (fd : Int32) (name : PathBuf)
  | unlinkRecursive (fd : Int32) (filename : PathBuf)
  | getCanonicalPath (fd : Int32)

namespace Call

abbrev Output : Call → Type
  | entryType _ _ => Option EntryType
  | openDirectory _ _ | openFile _ _ | openFileRelativePath _ _ _ | createFile _ _ _ => Int32
  | statusOf _ => FileStatus
  | status _ _ | statusRelativePath _ _ _ => Option FileStatus
  | readSymlink _ _ => String
  | getCanonicalPath _ => PathBuf
  | makeDirectory _ _ _ | unlink _ _ | makeSymlink _ _ _ | unlinkRecursive _ _ => Unit

def action : Call → String
  | entryType _ name => s!"read the type of {name.lossyPath}"
  | openDirectory _ name => s!"open the directory {name.lossyPath}"
  | makeDirectory _ name _ => s!"make the directory {name.lossyPath}"
  | unlink _ name => s!"unlink {name.lossyPath}"
  | statusOf _ => "read the status of a descriptor"
  | status _ name => s!"read the status of {name.lossyPath}"
  | statusRelativePath _ path _ => s!"read the status of {path.lossyPath}"
  | openFile _ name => s!"open the file {name.lossyPath}"
  | openFileRelativePath _ path _ => s!"open the file {path.lossyPath}"
  | createFile _ name _ => s!"create the file {name.lossyPath}"
  | makeSymlink _ name _ => s!"make the symlink {name.lossyPath}"
  | readSymlink _ name => s!"read the symlink {name.lossyPath}"
  | unlinkRecursive _ name => s!"remove {name.lossyPath}"
  | getCanonicalPath _ => "read the canonical path of a descriptor"

/-- The descriptors a call hands over when it returns. -/
def handed : (call : Call) → call.Output → List Int32
  | openDirectory _ _, fd | openFile _ _, fd | openFileRelativePath _ _ _, fd
  | createFile _ _ _, fd => [fd]
  | entryType _ _, _ | makeDirectory _ _ _, _ | unlink _ _, _ | statusOf _, _ | status _ _, _
  | statusRelativePath _ _ _, _ | makeSymlink _ _ _, _ | readSymlink _ _, _
  | unlinkRecursive _ _, _ | getCanonicalPath _, _ => []

section Calls

variable {World Component FilePath : Type}
  (ops : Swift.FileDescriptorOps World Component FilePath)

open Rust in
/-- The call, as the wrapper makes it. -/
def perform : (call : Call) → World → Crossing (Except Rust.Error call.Output × World)
  | entryType fd name => FileDescriptorOps.entryType ops fd name
  | openDirectory fd name => FileDescriptorOps.openDirectory ops fd name
  | makeDirectory fd name permissions => FileDescriptorOps.makeDirectory ops fd name permissions
  | unlink fd name => FileDescriptorOps.unlink ops fd name
  | statusOf fd => FileDescriptorOps.statusOf ops fd
  | status fd name => FileDescriptorOps.status ops fd name
  | statusRelativePath fd path symlinks =>
    FileDescriptorOps.statusRelativePath ops fd path symlinks
  | openFile fd name => FileDescriptorOps.openFile ops fd name
  | openFileRelativePath fd path symlinks =>
    FileDescriptorOps.openFileRelativePath ops fd path symlinks
  | createFile fd name permissions => FileDescriptorOps.createFile ops fd name permissions
  | makeSymlink fd name target => FileDescriptorOps.makeSymlink ops fd name target
  | readSymlink fd name => FileDescriptorOps.readSymlink ops fd name
  | unlinkRecursive fd filename => FileDescriptorOps.unlinkRecursive ops fd filename
  | getCanonicalPath fd => FileDescriptorOps.getCanonicalPath ops fd

/-- The call of Swift's that it stands for, once its path is known to be text. -/
def meaning : (call : Call) → Except Rust.Error (Throwing World call.Output)
  | entryType fd name => do
    let name ← path name
    return do ops.entryType fd (← Swift.component ops name)
  | openDirectory fd name => do
    let name ← path name
    return do ops.openDirectory fd (← Swift.component ops name)
  | makeDirectory fd name permissions => do
    let name ← path name
    return do ops.makeDirectory fd (← Swift.component ops name) permissions
  | unlink fd name => do
    let name ← path name
    return do ops.unlink fd (← Swift.component ops name)
  | statusOf fd => return ops.statusOf fd
  | status fd name => do
    let name ← path name
    return do ops.status fd (← Swift.component ops name)
  | statusRelativePath fd relativePath symlinks => do
    let relativePath ← path relativePath
    return ops.statusRelativePath fd (ops.filePath relativePath) symlinks
  | openFile fd name => do
    let name ← path name
    return do ops.openFile fd (← Swift.component ops name)
  | openFileRelativePath fd relativePath symlinks => do
    let relativePath ← path relativePath
    return ops.openFileRelativePath fd (ops.filePath relativePath) symlinks
  | createFile fd name permissions => do
    let name ← path name
    return do ops.createFile fd (← Swift.component ops name) permissions
  | makeSymlink fd name target => do
    let name ← path name
    return do ops.makeSymlink fd (← Swift.component ops name) target
  | readSymlink fd name => do
    let name ← path name
    return do ops.readSymlink fd (← Swift.component ops name)
  | unlinkRecursive fd filename => do
    let filename ← path filename
    return do ops.unlinkRecursive fd (← Swift.component ops filename)
  | getCanonicalPath fd => return PathBuf.from <$> ops.getCanonicalPath fd

/-- What Swift's call returns and does, with the error as Rust rebuilds it. -/
def result (call : Call) (world : World) : Except Rust.Error call.Output × World :=
  match call.meaning ops with
  | .error failure => (.error failure, world)
  | .ok body =>
    let (returned, world) := body.run.run world
    (returned.mapError (rebuilt call.action), world)

/-! ### One call -/

variable {ops} {α β : Type}

/-- A call that makes its component first. -/
theorem called_named {first : Throwing World α} {body : α → Throwing World β}
    {rest : β → Throwing World FdOpsHeld} (wrap : β → FdOpsHeld)
    (hrest : ∀ value, rest value = pure (wrap value)) {read : Returned FdOpsHeld → Crossing β}
    (hread : ∀ value, read (.init (.ok (wrap value))) = .ok value) (action : String)
    (world : World) :
    called (Swift.outcome (first >>= fun name => body name >>= rest)) action read world =
      .ok (((first >>= body).run.run world).1.mapError (rebuilt action),
        ((first >>= body).run.run world).2) := by
  rw [← bind_assoc]
  exact called_plain wrap hrest hread action world

/-- A call with a path to check, which Swift is asked about only once it is text. -/
theorem checked_eq (call : Call) (argument : Except Rust.Error String)
    (act : String → World → Crossing (Except Rust.Error call.Output × World))
    (body : String → Throwing World call.Output)
    (hperform : call.perform ops = checked argument act)
    (hmeaning : call.meaning ops = (do return body (← argument))) {world : World}
    (hact : ∀ text, act text world = .ok (((body text).run.run world).1.mapError
      (rebuilt call.action), ((body text).run.run world).2)) :
    call.perform ops world = .ok (call.result ops world) := by
  rw [hperform]
  unfold result
  rw [hmeaning]
  cases argument with
  | error failure => rfl
  | ok text => exact hact text

omit [Runtime] in
@[simp] theorem lentPermissions_some (permissions : Option UInt16) :
    Swift.lentPermissions permissions.isSome (permissions.getD 0) = permissions := by
  cases permissions <;> rfl

omit [Runtime] in
@[simp] theorem policy_into (symlinks : SymlinkPolicy) : symlinks.into.policy = symlinks := by
  cases symlinks <;> rfl

def heldStatus : Option FileStatus → FdOpsHeld
  | some found => .fileStatus found
  | none => .absent

def heldEntryType : Option EntryType → FdOpsHeld
  | some type => .entryType type
  | none => .absent

/-- A status is read field by field. -/
theorem fdOpsFileStatus_init (status : FileStatus) :
    (Returned.init (.ok (.fileStatus status))).fdOpsFileStatus = .ok status := by
  obtain ⟨type, permissions, size, userID, groupID, seconds, nanoseconds⟩ := status
  cases type <;> rfl

theorem optionalFdOpsFileStatus_init (status : Option FileStatus) :
    (Returned.init (.ok (heldStatus status))).optionalFdOpsFileStatus = .ok status := by
  cases status with
  | none => rfl
  | some status =>
    have hread := fdOpsFileStatus_init status
    show some <$> (Returned.init (.ok (.fileStatus status))).fdOpsFileStatus = _
    rw [hread]
    rfl

theorem optionalFdOpsEntryType_init (type : Option EntryType) :
    (Returned.init (.ok (heldEntryType type))).optionalFdOpsEntryType = .ok type := by
  cases type with
  | none => rfl
  | some type => cases type <;> rfl

/-- Each wrapper returns what Swift's function returns, and does what it does. -/
theorem perform_eq (call : Call) (world : World) :
    call.perform ops world = .ok (call.result ops world) := by
  cases call with
  | entryType fd name =>
    refine checked_eq (.entryType fd name) (path name) _ _ rfl rfl fun text => ?_
    exact called_named heldEntryType (fun type => by cases type <;> rfl)
      optionalFdOpsEntryType_init _ _
  | openDirectory fd name =>
    refine checked_eq (.openDirectory fd name) (path name) _ _ rfl rfl fun text => ?_
    exact called_named .int32 (fun _ => rfl) (fun _ => rfl) _ _
  | makeDirectory fd name permissions =>
    refine checked_eq (.makeDirectory fd name permissions) (path name) _ _ rfl rfl fun text => ?_
    rw [Swift.fdOpsMakeDirectory, lentPermissions_some]
    exact called_named (fun _ => .void) (fun _ => rfl) (fun _ => rfl) _ _
  | unlink fd name =>
    refine checked_eq (.unlink fd name) (path name) _ _ rfl rfl fun text => ?_
    exact called_named (fun _ => .void) (fun _ => rfl) (fun _ => rfl) _ _
  | statusOf fd =>
    exact called_plain FdOpsHeld.fileStatus (fun _ => rfl) fdOpsFileStatus_init _ world
  | status fd name =>
    refine checked_eq (.status fd name) (path name) _ _ rfl rfl fun text => ?_
    exact called_named heldStatus (fun status => by cases status <;> rfl)
      optionalFdOpsFileStatus_init _ _
  | statusRelativePath fd relativePath symlinks =>
    refine checked_eq (.statusRelativePath fd relativePath symlinks) (path relativePath) _ _ rfl
      rfl fun text => ?_
    rw [Swift.fdOpsStatusRelativePath, policy_into]
    exact called_plain heldStatus (fun status => by cases status <;> rfl)
      optionalFdOpsFileStatus_init _ _
  | openFile fd name =>
    refine checked_eq (.openFile fd name) (path name) _ _ rfl rfl fun text => ?_
    exact called_named .int32 (fun _ => rfl) (fun _ => rfl) _ _
  | openFileRelativePath fd relativePath symlinks =>
    refine checked_eq (.openFileRelativePath fd relativePath symlinks) (path relativePath) _ _ rfl
      rfl fun text => ?_
    rw [Swift.fdOpsOpenFileRelativePath, policy_into]
    exact called_plain FdOpsHeld.int32 (fun _ => rfl) (fun _ => rfl) _ _
  | createFile fd name permissions =>
    refine checked_eq (.createFile fd name permissions) (path name) _ _ rfl rfl fun text => ?_
    rw [Swift.fdOpsCreateFile, lentPermissions_some]
    exact called_named .int32 (fun _ => rfl) (fun _ => rfl) _ _
  | makeSymlink fd name target =>
    refine checked_eq (.makeSymlink fd name target) (path name) _ _ rfl rfl fun text => ?_
    exact called_named (fun _ => .void) (fun _ => rfl) (fun _ => rfl) _ _
  | readSymlink fd name =>
    refine checked_eq (.readSymlink fd name) (path name) _ _ rfl rfl fun text => ?_
    exact called_named .text (fun _ => rfl) (fun _ => rfl) _ _
  | unlinkRecursive fd filename =>
    refine checked_eq (.unlinkRecursive fd filename) (path filename) _ _ rfl rfl fun text => ?_
    exact called_named (fun _ => .void) (fun _ => rfl) (fun _ => rfl) _ _
  | getCanonicalPath fd =>
    have hresult : result ops (.getCanonicalPath fd) world =
        ((((ops.getCanonicalPath fd).run.run world).1.map PathBuf.from).mapError
          (rebuilt (action (.getCanonicalPath fd))),
            ((ops.getCanonicalPath fd).run.run world).2) := by
      show (Except.mapError _ ((PathBuf.from <$> ops.getCanonicalPath fd).run.run world).1,
        ((PathBuf.from <$> ops.getCanonicalPath fd).run.run world).2) = _
      rw [run_map]
    rw [hresult]
    unfold perform Rust.FileDescriptorOps.getCanonicalPath Swift.fdOpsGetCanonicalPath
    dsimp only
    refine called_eq FdOpsHeld.text PathBuf.from (map_eq_pure_bind _ _).symm ?_ _ world
    exact fun _ => rfl

end Calls

end Call

end FdOps

end ContainerBridge
