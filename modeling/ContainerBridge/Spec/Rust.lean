import ContainerBridge.Runtime.Maps
import ContainerBridge.Spec.Cases

/-! The OCI runtime spec as Rust holds it, and the getters Swift reads it through. A getter that
lends a field as it is, is the field's projection. -/

namespace ContainerBridge

/-- Rust's `usize` and Swift's `UInt`, on the 64-bit platforms the bridge runs on. -/
abbrev Usize := UInt64

/-- Rust's `isize` and Swift's `Int`. -/
abbrev Isize := Int64

namespace Rust

/-! ### Process -/

structure User where
  uid : UInt32
  gid : UInt32
  umask : Option UInt32
  additionalGids : List UInt32
  username : String
  deriving DecidableEq

structure OciLinuxCapabilities where
  bounding : Option (List String)
  effective : Option (List String)
  inheritable : Option (List String)
  permitted : Option (List String)
  ambient : Option (List String)

structure Box where
  height : Usize
  width : Usize

structure POSIXRlimit where
  type : String
  hard : UInt64
  soft : UInt64

structure Process where
  cwd : String
  env : List String
  consoleSize : Option Box
  selinuxLabel : String
  noNewPrivileges : Bool
  commandLine : String
  oomScoreAdj : Option Isize
  capabilities : Option OciLinuxCapabilities
  apparmorProfile : String
  user : User
  rlimits : List POSIXRlimit
  args : List String
  terminal : Bool

@[simp] def User.additionalGidsLen (user : User) : Nat := user.additionalGids.length
@[simp] def User.additionalGidsAt (user : User) : Nat → Crossing UInt32 :=
  indexed user.additionalGids

def OciLinuxCapabilities.set (capabilities : OciLinuxCapabilities) :
    CapabilitySet → Option (List String)
  | .bounding => capabilities.bounding
  | .effective => capabilities.effective
  | .inheritable => capabilities.inheritable
  | .permitted => capabilities.permitted
  | .ambient => capabilities.ambient

@[simp] def OciLinuxCapabilities.hasSet (capabilities : OciLinuxCapabilities)
    (set : CapabilitySet) : Bool := (capabilities.set set).isSome
@[simp] def OciLinuxCapabilities.setLen (capabilities : OciLinuxCapabilities)
    (set : CapabilitySet) : Nat := optionalLen List.length (capabilities.set set)
@[simp] def OciLinuxCapabilities.setAt (capabilities : OciLinuxCapabilities)
    (set : CapabilitySet) (index : Nat) : Crossing String := do
  indexed (← present (capabilities.set set)) index

namespace Process

@[simp] def envLen (process : Process) : Nat := process.env.length
@[simp] def envAt (process : Process) : Nat → Crossing String := indexed process.env
@[simp] def hasConsoleSize (process : Process) : Bool := process.consoleSize.isSome
@[simp] def consoleHeight (process : Process) : Crossing Usize := do
  return (← present process.consoleSize).height
@[simp] def consoleWidth (process : Process) : Crossing Usize := do
  return (← present process.consoleSize).width
@[simp] def hasCapabilities (process : Process) : Bool := process.capabilities.isSome
@[simp] def lentCapabilities (process : Process) : Crossing OciLinuxCapabilities :=
  present process.capabilities
@[simp] def rlimitsLen (process : Process) : Nat := process.rlimits.length
@[simp] def rlimitTypeAt (process : Process) (index : Nat) : Crossing String := do
  return (← indexed process.rlimits index).type
@[simp] def rlimitHardAt (process : Process) (index : Nat) : Crossing UInt64 := do
  return (← indexed process.rlimits index).hard
@[simp] def rlimitSoftAt (process : Process) (index : Nat) : Crossing UInt64 := do
  return (← indexed process.rlimits index).soft
@[simp] def argsLen (process : Process) : Nat := process.args.length
@[simp] def argsAt (process : Process) : Nat → Crossing String := indexed process.args

end Process

/-! ### Hooks -/

structure Hook where
  path : String
  args : List String
  env : List String
  timeout : Option Isize

structure Hooks where
  prestart : List Hook
  createRuntime : List Hook
  createContainer : List Hook
  startContainer : List Hook
  poststart : List Hook
  poststop : List Hook

@[simp] def Hook.argsLen (hook : Hook) : Nat := hook.args.length
@[simp] def Hook.argsAt (hook : Hook) : Nat → Crossing String := indexed hook.args
@[simp] def Hook.envLen (hook : Hook) : Nat := hook.env.length
@[simp] def Hook.envAt (hook : Hook) : Nat → Crossing String := indexed hook.env

def Hooks.of (hooks : Hooks) : HookKind → List Hook
  | .prestart => hooks.prestart
  | .createRuntime => hooks.createRuntime
  | .createContainer => hooks.createContainer
  | .startContainer => hooks.startContainer
  | .poststart => hooks.poststart
  | .poststop => hooks.poststop

@[simp] def Hooks.hooksLen (hooks : Hooks) (kind : HookKind) : Nat := (hooks.of kind).length
@[simp] def Hooks.hooksAt (hooks : Hooks) (kind : HookKind) : Nat → Crossing Hook :=
  indexed (hooks.of kind)

/-! ### Seccomp -/

structure LinuxSeccompArg where
  index : Usize
  value : UInt64
  valueTwo : UInt64
  op : LinuxSeccompOperator

structure LinuxSyscall where
  names : List String
  action : LinuxSeccompAction
  errnoRet : Option Usize
  args : List LinuxSeccompArg

structure LinuxSeccomp where
  defaultAction : LinuxSeccompAction
  defaultErrnoRet : Option Usize
  architectures : List Arch
  flags : List LinuxSeccompFlag
  listenerPath : String
  listenerMetadata : String
  syscalls : List LinuxSyscall

namespace LinuxSyscall

@[simp] def namesLen (syscall : LinuxSyscall) : Nat := syscall.names.length
@[simp] def namesAt (syscall : LinuxSyscall) : Nat → Crossing String := indexed syscall.names
@[simp] def lentAction (syscall : LinuxSyscall) : String := rawValue syscall.action
@[simp] def argsLen (syscall : LinuxSyscall) : Nat := syscall.args.length
@[simp] def argIndexAt (syscall : LinuxSyscall) (index : Nat) : Crossing Usize := do
  return (← indexed syscall.args index).index
@[simp] def argValueAt (syscall : LinuxSyscall) (index : Nat) : Crossing UInt64 := do
  return (← indexed syscall.args index).value
@[simp] def argValueTwoAt (syscall : LinuxSyscall) (index : Nat) : Crossing UInt64 := do
  return (← indexed syscall.args index).valueTwo
@[simp] def argOpAt (syscall : LinuxSyscall) (index : Nat) : Crossing String := do
  return rawValue (← indexed syscall.args index).op

end LinuxSyscall

namespace LinuxSeccomp

@[simp] def lentDefaultAction (seccomp : LinuxSeccomp) : String := rawValue seccomp.defaultAction
@[simp] def architecturesLen (seccomp : LinuxSeccomp) : Nat := seccomp.architectures.length
@[simp] def architecturesAt (seccomp : LinuxSeccomp) (index : Nat) : Crossing String := do
  return rawValue (← indexed seccomp.architectures index)
@[simp] def flagsLen (seccomp : LinuxSeccomp) : Nat := seccomp.flags.length
@[simp] def flagsAt (seccomp : LinuxSeccomp) (index : Nat) : Crossing String := do
  return rawValue (← indexed seccomp.flags index)
@[simp] def syscallsLen (seccomp : LinuxSeccomp) : Nat := seccomp.syscalls.length
@[simp] def syscallsAt (seccomp : LinuxSeccomp) : Nat → Crossing LinuxSyscall :=
  indexed seccomp.syscalls

end LinuxSeccomp

/-! ### Resources -/

structure LinuxHugepageLimit where
  pagesize : String
  limit : UInt64

structure LinuxInterfacePriority where
  name : String
  priority : UInt32

structure LinuxWeightDevice where
  major : Int64
  minor : Int64
  weight : Option UInt16
  leafWeight : Option UInt16

structure LinuxThrottleDevice where
  major : Int64
  minor : Int64
  rate : UInt64

structure LinuxBlockIO where
  weight : Option UInt16
  leafWeight : Option UInt16
  weightDevice : List LinuxWeightDevice
  throttleReadBpsDevice : List LinuxThrottleDevice
  throttleWriteBpsDevice : List LinuxThrottleDevice
  throttleReadIopsDevice : List LinuxThrottleDevice
  throttleWriteIopsDevice : List LinuxThrottleDevice

structure LinuxMemory where
  limit : Option Int64
  reservation : Option Int64
  swap : Option Int64
  kernel : Option Int64
  kernelTcp : Option Int64
  swappiness : Option UInt64
  disableOomKiller : Option Bool
  useHierarchy : Option Bool
  checkBeforeUpdate : Option Bool

structure LinuxCPU where
  shares : Option UInt64
  quota : Option Int64
  burst : Option UInt64
  period : Option UInt64
  realtimeRuntime : Option Int64
  realtimePeriod : Option Int64
  cpus : String
  mems : String
  idle : Option Int64

structure LinuxPids where
  limit : Int64

structure LinuxNetwork where
  classId : Option UInt32
  priorities : List LinuxInterfacePriority

structure LinuxRdma where
  hcsHandles : Option UInt32
  hcaObjects : Option UInt32

structure LinuxDeviceCgroup where
  allow : Bool
  type : String
  major : Option Int64
  minor : Option Int64
  access : Option String

structure LinuxResources where
  devices : List LinuxDeviceCgroup
  memory : Option LinuxMemory
  cpu : Option LinuxCPU
  pids : Option LinuxPids
  blockIo : Option LinuxBlockIO
  hugepageLimits : List LinuxHugepageLimit
  network : Option LinuxNetwork
  rdma : Option (BTreeMap LinuxRdma)
  unified : Option (BTreeMap String)

namespace LinuxBlockIO

@[simp] def weightDeviceLen (blockIo : LinuxBlockIO) : Nat := blockIo.weightDevice.length
@[simp] def weightDeviceMajorAt (blockIo : LinuxBlockIO) (index : Nat) : Crossing Int64 := do
  return (← indexed blockIo.weightDevice index).major
@[simp] def weightDeviceMinorAt (blockIo : LinuxBlockIO) (index : Nat) : Crossing Int64 := do
  return (← indexed blockIo.weightDevice index).minor
@[simp] def weightDeviceWeightAt (blockIo : LinuxBlockIO) (index : Nat) :
    Crossing (Option UInt16) := do
  return (← indexed blockIo.weightDevice index).weight
@[simp] def weightDeviceLeafWeightAt (blockIo : LinuxBlockIO) (index : Nat) :
    Crossing (Option UInt16) := do
  return (← indexed blockIo.weightDevice index).leafWeight

def throttle (blockIo : LinuxBlockIO) : ThrottleKind → List LinuxThrottleDevice
  | .readBps => blockIo.throttleReadBpsDevice
  | .writeBps => blockIo.throttleWriteBpsDevice
  | .readIops => blockIo.throttleReadIopsDevice
  | .writeIops => blockIo.throttleWriteIopsDevice

@[simp] def throttleLen (blockIo : LinuxBlockIO) (kind : ThrottleKind) : Nat :=
  (blockIo.throttle kind).length
@[simp] def throttleMajorAt (blockIo : LinuxBlockIO) (kind : ThrottleKind) (index : Nat) :
    Crossing Int64 := do
  return (← indexed (blockIo.throttle kind) index).major
@[simp] def throttleMinorAt (blockIo : LinuxBlockIO) (kind : ThrottleKind) (index : Nat) :
    Crossing Int64 := do
  return (← indexed (blockIo.throttle kind) index).minor
@[simp] def throttleRateAt (blockIo : LinuxBlockIO) (kind : ThrottleKind) (index : Nat) :
    Crossing UInt64 := do
  return (← indexed (blockIo.throttle kind) index).rate

end LinuxBlockIO

namespace LinuxResources

@[simp] def devicesLen (resources : LinuxResources) : Nat := resources.devices.length
@[simp] def devicesAt (resources : LinuxResources) : Nat → Crossing LinuxDeviceCgroup :=
  indexed resources.devices
@[simp] def hasMemory (resources : LinuxResources) : Bool := resources.memory.isSome
@[simp] def lentMemory (resources : LinuxResources) : Crossing LinuxMemory :=
  present resources.memory
@[simp] def hasCpu (resources : LinuxResources) : Bool := resources.cpu.isSome
@[simp] def lentCpu (resources : LinuxResources) : Crossing LinuxCPU := present resources.cpu
@[simp] def pidsLimit (resources : LinuxResources) : Option Int64 :=
  resources.pids.map fun pids => pids.limit
@[simp] def hasBlockIo (resources : LinuxResources) : Bool := resources.blockIo.isSome
@[simp] def lentBlockIo (resources : LinuxResources) : Crossing LinuxBlockIO :=
  present resources.blockIo
@[simp] def hugepageLimitsLen (resources : LinuxResources) : Nat := resources.hugepageLimits.length
@[simp] def hugepageLimitPagesizeAt (resources : LinuxResources) (index : Nat) :
    Crossing String := do
  return (← indexed resources.hugepageLimits index).pagesize
@[simp] def hugepageLimitLimitAt (resources : LinuxResources) (index : Nat) :
    Crossing UInt64 := do
  return (← indexed resources.hugepageLimits index).limit
@[simp] def hasNetwork (resources : LinuxResources) : Bool := resources.network.isSome
@[simp] def networkClassId (resources : LinuxResources) : Crossing (Option UInt32) := do
  return (← present resources.network).classId
@[simp] def networkPrioritiesLen (resources : LinuxResources) : Crossing Nat := do
  return (← present resources.network).priorities.length
@[simp] def networkPriorityNameAt (resources : LinuxResources) (index : Nat) :
    Crossing String := do
  return (← indexed (← present resources.network).priorities index).name
@[simp] def networkPriorityAt (resources : LinuxResources) (index : Nat) : Crossing UInt32 := do
  return (← indexed (← present resources.network).priorities index).priority
@[simp] def hasRdma (resources : LinuxResources) : Bool := resources.rdma.isSome
@[simp] def rdmaLen (resources : LinuxResources) : Nat :=
  optionalLen Std.ExtTreeMap.size resources.rdma
@[simp] def rdmaKeyAt (resources : LinuxResources) : Nat → Crossing String :=
  optionalKeyAt resources.rdma
@[simp] def rdmaHcsHandlesAt (resources : LinuxResources) (index : Nat) :
    Crossing (Option UInt32) := do
  return (← entryAt (← present resources.rdma) index).2.hcsHandles
@[simp] def rdmaHcaObjectsAt (resources : LinuxResources) (index : Nat) :
    Crossing (Option UInt32) := do
  return (← entryAt (← present resources.rdma) index).2.hcaObjects
@[simp] def hasUnified (resources : LinuxResources) : Bool := resources.unified.isSome
@[simp] def unifiedLen (resources : LinuxResources) : Nat :=
  optionalLen Std.ExtTreeMap.size resources.unified
@[simp] def unifiedKeyAt (resources : LinuxResources) : Nat → Crossing String :=
  optionalKeyAt resources.unified
@[simp] def unifiedValueAt (resources : LinuxResources) : Nat → Crossing String :=
  optionalValueAt resources.unified

end LinuxResources

/-! ### Linux -/

structure LinuxIDMapping where
  containerId : UInt32
  hostId : UInt32
  size : UInt32

structure LinuxNamespace where
  type : LinuxNamespaceType
  path : String

structure LinuxDevice where
  path : String
  type : String
  major : Int64
  minor : Int64
  fileMode : Option UInt32
  uid : Option UInt32
  gid : Option UInt32

structure LinuxPersonality where
  domain : LinuxPersonalityDomain
  flags : List String

structure Linux where
  uidMappings : List LinuxIDMapping
  gidMappings : List LinuxIDMapping
  sysctl : Option (BTreeMap String)
  resources : Option LinuxResources
  cgroupsPath : String
  namespaces : List LinuxNamespace
  devices : List LinuxDevice
  seccomp : Option LinuxSeccomp
  rootfsPropagation : String
  maskedPaths : List String
  readonlyPaths : List String
  mountLabel : String
  personality : Option LinuxPersonality

namespace Linux

@[simp] def uidMappingsLen (linux : Linux) : Nat := linux.uidMappings.length
@[simp] def uidMappingsAt (linux : Linux) : Nat → Crossing LinuxIDMapping :=
  indexed linux.uidMappings
@[simp] def gidMappingsLen (linux : Linux) : Nat := linux.gidMappings.length
@[simp] def gidMappingsAt (linux : Linux) : Nat → Crossing LinuxIDMapping :=
  indexed linux.gidMappings
@[simp] def hasSysctl (linux : Linux) : Bool := linux.sysctl.isSome
@[simp] def sysctlLen (linux : Linux) : Nat := optionalLen Std.ExtTreeMap.size linux.sysctl
@[simp] def sysctlKeyAt (linux : Linux) : Nat → Crossing String :=
  optionalKeyAt linux.sysctl
@[simp] def sysctlValueAt (linux : Linux) : Nat → Crossing String :=
  optionalValueAt linux.sysctl
@[simp] def hasResources (linux : Linux) : Bool := linux.resources.isSome
@[simp] def lentResources (linux : Linux) : Crossing LinuxResources := present linux.resources
@[simp] def namespacesLen (linux : Linux) : Nat := linux.namespaces.length
@[simp] def namespaceTypeAt (linux : Linux) (index : Nat) : Crossing String := do
  return rawValue (← indexed linux.namespaces index).type
@[simp] def namespacePathAt (linux : Linux) (index : Nat) : Crossing String := do
  return (← indexed linux.namespaces index).path
@[simp] def devicesLen (linux : Linux) : Nat := linux.devices.length
@[simp] def devicesAt (linux : Linux) : Nat → Crossing LinuxDevice := indexed linux.devices
@[simp] def hasSeccomp (linux : Linux) : Bool := linux.seccomp.isSome
@[simp] def lentSeccomp (linux : Linux) : Crossing LinuxSeccomp := present linux.seccomp
@[simp] def maskedPathsLen (linux : Linux) : Nat := linux.maskedPaths.length
@[simp] def maskedPathsAt (linux : Linux) : Nat → Crossing String := indexed linux.maskedPaths
@[simp] def readonlyPathsLen (linux : Linux) : Nat := linux.readonlyPaths.length
@[simp] def readonlyPathsAt (linux : Linux) : Nat → Crossing String := indexed linux.readonlyPaths
@[simp] def hasPersonality (linux : Linux) : Bool := linux.personality.isSome
@[simp] def personalityDomain (linux : Linux) : Crossing String := do
  return rawValue (← present linux.personality).domain
@[simp] def personalityFlagsLen (linux : Linux) : Crossing Nat := do
  return (← present linux.personality).flags.length
@[simp] def personalityFlagsAt (linux : Linux) (index : Nat) : Crossing String := do
  indexed (← present linux.personality).flags index

end Linux

/-! ### Spec -/

structure OciMount where
  type : String
  source : String
  destination : String
  options : List String
  uidMappings : Option (List LinuxIDMapping)
  gidMappings : Option (List LinuxIDMapping)

structure Root where
  path : String
  readonly : Bool

structure Spec where
  version : String
  hooks : Option Hooks
  process : Option Process
  hostname : String
  domainname : String
  mounts : List OciMount
  annotations : Option (BTreeMap String)
  root : Option Root
  linux : Option Linux

namespace OciMount

@[simp] def optionsLen (mount : OciMount) : Nat := mount.options.length
@[simp] def optionsAt (mount : OciMount) : Nat → Crossing String := indexed mount.options
@[simp] def hasUidMappings (mount : OciMount) : Bool := mount.uidMappings.isSome
@[simp] def uidMappingsLen (mount : OciMount) : Nat := optionalLen List.length mount.uidMappings
@[simp] def uidMappingsAt (mount : OciMount) (index : Nat) : Crossing LinuxIDMapping := do
  indexed (← present mount.uidMappings) index
@[simp] def hasGidMappings (mount : OciMount) : Bool := mount.gidMappings.isSome
@[simp] def gidMappingsLen (mount : OciMount) : Nat := optionalLen List.length mount.gidMappings
@[simp] def gidMappingsAt (mount : OciMount) (index : Nat) : Crossing LinuxIDMapping := do
  indexed (← present mount.gidMappings) index

end OciMount

namespace Spec

@[simp] def hasHooks (spec : Spec) : Bool := spec.hooks.isSome
@[simp] def lentHooks (spec : Spec) : Crossing Hooks := present spec.hooks
@[simp] def hasProcess (spec : Spec) : Bool := spec.process.isSome
@[simp] def lentProcess (spec : Spec) : Crossing Process := present spec.process
@[simp] def mountsLen (spec : Spec) : Nat := spec.mounts.length
@[simp] def mountsAt (spec : Spec) : Nat → Crossing OciMount := indexed spec.mounts
@[simp] def hasAnnotations (spec : Spec) : Bool := spec.annotations.isSome
@[simp] def annotationsLen (spec : Spec) : Nat :=
  optionalLen Std.ExtTreeMap.size spec.annotations
@[simp] def annotationKeyAt (spec : Spec) : Nat → Crossing String :=
  optionalKeyAt spec.annotations
@[simp] def annotationValueAt (spec : Spec) : Nat → Crossing String :=
  optionalValueAt spec.annotations
@[simp] def hasRoot (spec : Spec) : Bool := spec.root.isSome
@[simp] def rootPath (spec : Spec) : Crossing String := do
  return (← present spec.root).path
@[simp] def rootReadonly (spec : Spec) : Crossing Bool := do
  return (← present spec.root).readonly
@[simp] def hasLinux (spec : Spec) : Bool := spec.linux.isSome
@[simp] def lentLinux (spec : Spec) : Crossing Linux := present spec.linux

end Spec

end Rust

end ContainerBridge
