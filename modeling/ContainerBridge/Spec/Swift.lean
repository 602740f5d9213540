import ContainerBridge.Spec.Rust

/-! The OCI runtime spec as Swift holds it, and the initialisers that read Rust's field by field.
The external memberwise initialisers store their arguments, so each is its structure's. -/

namespace ContainerBridge

/-- A list of strings Rust lends by index. -/
def strings (count : Nat) (element : Nat → Crossing String) : Crossing (List String) :=
  list count element

@[simp] theorem strings_indexed (values : List String) :
    strings values.length (indexed values) = .ok values := list_indexed values

variable [Runtime]

namespace Swift

/-! ### Process -/

structure User where
  uid : UInt32
  gid : UInt32
  umask : Option UInt32
  additionalGids : List UInt32
  username : String
  deriving DecidableEq

structure OciLinuxCapabilities where
  bounding : Option (List String)
  effective : Option (List String)
  inheritable : Option (List String)
  permitted : Option (List String)
  ambient : Option (List String)

structure Box where
  height : Usize
  width : Usize

structure POSIXRlimit where
  type : String
  hard : UInt64
  soft : UInt64

structure Process where
  args : List String
  cwd : String
  env : List String
  consoleSize : Option Box
  selinuxLabel : String
  noNewPrivileges : Bool
  commandLine : String
  oomScoreAdj : Option Isize
  capabilities : Option OciLinuxCapabilities
  apparmorProfile : String
  user : User
  rlimits : List POSIXRlimit
  terminal : Bool

def User.init (user : Rust.User) : Crossing User := do
  return {
    uid := user.uid
    gid := user.gid
    umask := user.umask
    additionalGids := ← list user.additionalGidsLen user.additionalGidsAt
    username := user.username }

def OciLinuxCapabilities.init (capabilities : Rust.OciLinuxCapabilities) :
    Crossing OciLinuxCapabilities := do
  let set (set : CapabilitySet) : Crossing (Option (List String)) :=
    ifPresent (capabilities.hasSet set)
      (strings (capabilities.setLen set) fun index => capabilities.setAt set index)
  return {
    bounding := ← set .bounding
    effective := ← set .effective
    inheritable := ← set .inheritable
    permitted := ← set .permitted
    ambient := ← set .ambient }

def Process.init (process : Rust.Process) : Crossing Process := do
  return {
    args := ← strings process.argsLen process.argsAt
    cwd := process.cwd
    env := ← strings process.envLen process.envAt
    consoleSize := ← ifPresent process.hasConsoleSize do
      return { height := ← process.consoleHeight, width := ← process.consoleWidth }
    selinuxLabel := process.selinuxLabel
    noNewPrivileges := process.noNewPrivileges
    commandLine := process.commandLine
    oomScoreAdj := process.oomScoreAdj
    capabilities := ← ifPresent process.hasCapabilities do
      OciLinuxCapabilities.init (← process.lentCapabilities)
    apparmorProfile := process.apparmorProfile
    user := ← User.init process.user
    rlimits := ← list process.rlimitsLen fun index => do
      return {
        type := ← process.rlimitTypeAt index
        hard := ← process.rlimitHardAt index
        soft := ← process.rlimitSoftAt index }
    terminal := process.terminal }

/-! ### Hooks -/

structure Hook where
  path : String
  args : List String
  env : List String
  timeout : Option Isize

structure Hooks where
  prestart : List Hook
  createRuntime : List Hook
  createContainer : List Hook
  startContainer : List Hook
  poststart : List Hook
  poststop : List Hook

def Hook.init (hook : Rust.Hook) : Crossing Hook := do
  return {
    path := hook.path
    args := ← strings hook.argsLen hook.argsAt
    env := ← strings hook.envLen hook.envAt
    timeout := hook.timeout }

def Hooks.init (hooks : Rust.Hooks) : Crossing Hooks := do
  let of (kind : HookKind) : Crossing (List Hook) :=
    list (hooks.hooksLen kind) fun index => do Hook.init (← hooks.hooksAt kind index)
  return {
    prestart := ← of .prestart
    createRuntime := ← of .createRuntime
    createContainer := ← of .createContainer
    startContainer := ← of .startContainer
    poststart := ← of .poststart
    poststop := ← of .poststop }

/-! ### Seccomp -/

structure LinuxSeccompArg where
  index : Usize
  value : UInt64
  valueTwo : UInt64
  op : Case LinuxSeccompOperator

structure LinuxSyscall where
  names : List String
  action : Case LinuxSeccompAction
  errnoRet : Option Usize
  args : List LinuxSeccompArg

structure LinuxSeccomp where
  defaultAction : Case LinuxSeccompAction
  defaultErrnoRet : Option Usize
  architectures : List (Case Arch)
  flags : List (Case LinuxSeccompFlag)
  listenerPath : String
  listenerMetadata : String
  syscalls : List LinuxSyscall

def LinuxSyscall.init (syscall : Rust.LinuxSyscall) : Crossing LinuxSyscall := do
  return {
    names := ← strings syscall.namesLen syscall.namesAt
    action := ← swiftCase syscall.lentAction
    errnoRet := syscall.errnoRet
    args := ← list syscall.argsLen fun index => do
      return {
        index := ← syscall.argIndexAt index
        value := ← syscall.argValueAt index
        valueTwo := ← syscall.argValueTwoAt index
        op := ← swiftCase (← syscall.argOpAt index) } }

def LinuxSeccomp.init (seccomp : Rust.LinuxSeccomp) : Crossing LinuxSeccomp := do
  return {
    defaultAction := ← swiftCase seccomp.lentDefaultAction
    defaultErrnoRet := seccomp.defaultErrnoRet
    architectures := ← list seccomp.architecturesLen fun index => do
      swiftCase (← seccomp.architecturesAt index)
    flags := ← list seccomp.flagsLen fun index => do swiftCase (← seccomp.flagsAt index)
    listenerPath := seccomp.listenerPath
    listenerMetadata := seccomp.listenerMetadata
    syscalls := ← list seccomp.syscallsLen fun index => do
      LinuxSyscall.init (← seccomp.syscallsAt index) }

/-! ### Resources -/

structure LinuxHugepageLimit where
  pagesize : String
  limit : UInt64

structure LinuxInterfacePriority where
  name : String
  priority : UInt32

structure LinuxWeightDevice where
  major : Int64
  minor : Int64
  weight : Option UInt16
  leafWeight : Option UInt16

structure LinuxThrottleDevice where
  major : Int64
  minor : Int64
  rate : UInt64

structure LinuxBlockIO where
  weight : Option UInt16
  leafWeight : Option UInt16
  weightDevice : List LinuxWeightDevice
  throttleReadBpsDevice : List LinuxThrottleDevice
  throttleWriteBpsDevice : List LinuxThrottleDevice
  throttleReadIOPSDevice : List LinuxThrottleDevice
  throttleWriteIOPSDevice : List LinuxThrottleDevice

structure LinuxMemory where
  limit : Option Int64
  reservation : Option Int64
  swap : Option Int64
  kernel : Option Int64
  kernelTCP : Option Int64
  swappiness : Option UInt64
  disableOOMKiller : Option Bool
  useHierarchy : Option Bool
  checkBeforeUpdate : Option Bool

structure LinuxCPU where
  shares : Option UInt64
  quota : Option Int64
  burst : Option UInt64
  period : Option UInt64
  realtimeRuntime : Option Int64
  realtimePeriod : Option Int64
  cpus : String
  mems : String
  idle : Option Int64

structure LinuxPids where
  limit : Int64

structure LinuxNetwork where
  classID : Option UInt32
  priorities : List LinuxInterfacePriority

structure LinuxRdma where
  hcsHandles : Option UInt32
  hcaObjects : Option UInt32

structure LinuxDeviceCgroup where
  allow : Bool
  type : String
  major : Option Int64
  minor : Option Int64
  access : Option String

structure LinuxResources where
  devices : List LinuxDeviceCgroup
  memory : Option LinuxMemory
  cpu : Option LinuxCPU
  pids : Option LinuxPids
  blockIO : Option LinuxBlockIO
  hugepageLimits : List LinuxHugepageLimit
  network : Option LinuxNetwork
  rdma : Option (Dictionary LinuxRdma)
  unified : Option (Dictionary String) := some (.uniquing [])

def LinuxMemory.init (memory : Rust.LinuxMemory) : LinuxMemory where
  limit := memory.limit
  reservation := memory.reservation
  swap := memory.swap
  kernel := memory.kernel
  kernelTCP := memory.kernelTcp
  swappiness := memory.swappiness
  disableOOMKiller := memory.disableOomKiller
  useHierarchy := memory.useHierarchy
  checkBeforeUpdate := memory.checkBeforeUpdate

def LinuxCPU.init (cpu : Rust.LinuxCPU) : LinuxCPU where
  shares := cpu.shares
  quota := cpu.quota
  burst := cpu.burst
  period := cpu.period
  realtimeRuntime := cpu.realtimeRuntime
  realtimePeriod := cpu.realtimePeriod
  cpus := cpu.cpus
  mems := cpu.mems
  idle := cpu.idle

def LinuxBlockIO.init (blockIo : Rust.LinuxBlockIO) : Crossing LinuxBlockIO := do
  let throttle (kind : ThrottleKind) : Crossing (List LinuxThrottleDevice) :=
    list (blockIo.throttleLen kind) fun index => do
      return {
        major := ← blockIo.throttleMajorAt kind index
        minor := ← blockIo.throttleMinorAt kind index
        rate := ← blockIo.throttleRateAt kind index }
  return {
    weight := blockIo.weight
    leafWeight := blockIo.leafWeight
    weightDevice := ← list blockIo.weightDeviceLen fun index => do
      return {
        major := ← blockIo.weightDeviceMajorAt index
        minor := ← blockIo.weightDeviceMinorAt index
        weight := ← blockIo.weightDeviceWeightAt index
        leafWeight := ← blockIo.weightDeviceLeafWeightAt index }
    throttleReadBpsDevice := ← throttle .readBps
    throttleWriteBpsDevice := ← throttle .writeBps
    throttleReadIOPSDevice := ← throttle .readIops
    throttleWriteIOPSDevice := ← throttle .writeIops }

def LinuxDeviceCgroup.init (device : Rust.LinuxDeviceCgroup) : LinuxDeviceCgroup where
  allow := device.allow
  type := device.type
  major := device.major
  minor := device.minor
  access := device.access

def LinuxResources.init (resources : Rust.LinuxResources) : Crossing LinuxResources := do
  let made : LinuxResources := {
    devices := ← list resources.devicesLen fun index => do
      return LinuxDeviceCgroup.init (← resources.devicesAt index)
    memory := ← ifPresent resources.hasMemory do return LinuxMemory.init (← resources.lentMemory)
    cpu := ← ifPresent resources.hasCpu do return LinuxCPU.init (← resources.lentCpu)
    pids := resources.pidsLimit.map fun limit => { limit }
    blockIO := ← ifPresent resources.hasBlockIo do LinuxBlockIO.init (← resources.lentBlockIo)
    hugepageLimits := ← list resources.hugepageLimitsLen fun index => do
      return {
        pagesize := ← resources.hugepageLimitPagesizeAt index
        limit := ← resources.hugepageLimitLimitAt index }
    network := ← ifPresent resources.hasNetwork do
      return {
        classID := ← resources.networkClassId
        priorities := ← list (← resources.networkPrioritiesLen) fun index => do
          return {
            name := ← resources.networkPriorityNameAt index
            priority := ← resources.networkPriorityAt index } }
    rdma := ← ifPresent resources.hasRdma do
      return .uniquing (← list resources.rdmaLen fun index => do
        return (← resources.rdmaKeyAt index, {
          hcsHandles := ← resources.rdmaHcsHandlesAt index
          hcaObjects := ← resources.rdmaHcaObjectsAt index })) }
  -- The initializer can't make `unified` nil.
  return { made with
    unified := ← ifPresent resources.hasUnified
      (dictionary resources.unifiedLen resources.unifiedKeyAt resources.unifiedValueAt) }

/-! ### Linux -/

structure LinuxIDMapping where
  containerID : UInt32
  hostID : UInt32
  size : UInt32

structure LinuxNamespace where
  type : Case LinuxNamespaceType
  path : String

structure LinuxDevice where
  path : String
  type : String
  major : Int64
  minor : Int64
  fileMode : Option UInt32
  uid : Option UInt32
  gid : Option UInt32

structure LinuxPersonality where
  domain : Case LinuxPersonalityDomain
  flags : List String

structure Linux where
  uidMappings : List LinuxIDMapping
  gidMappings : List LinuxIDMapping
  sysctl : Option (Dictionary String)
  resources : Option LinuxResources
  cgroupsPath : String
  namespaces : List LinuxNamespace
  devices : List LinuxDevice
  seccomp : Option LinuxSeccomp
  rootfsPropagation : String
  maskedPaths : List String
  readonlyPaths : List String
  mountLabel : String
  personality : Option LinuxPersonality

def LinuxIDMapping.init (mapping : Rust.LinuxIDMapping) : LinuxIDMapping where
  containerID := mapping.containerId
  hostID := mapping.hostId
  size := mapping.size

def LinuxDevice.init (device : Rust.LinuxDevice) : LinuxDevice where
  path := device.path
  type := device.type
  major := device.major
  minor := device.minor
  fileMode := device.fileMode
  uid := device.uid
  gid := device.gid

def Linux.init (linux : Rust.Linux) : Crossing Linux := do
  return {
    uidMappings := ← list linux.uidMappingsLen fun index => do
      return LinuxIDMapping.init (← linux.uidMappingsAt index)
    gidMappings := ← list linux.gidMappingsLen fun index => do
      return LinuxIDMapping.init (← linux.gidMappingsAt index)
    sysctl := ← ifPresent linux.hasSysctl
      (dictionary linux.sysctlLen linux.sysctlKeyAt linux.sysctlValueAt)
    resources := ← ifPresent linux.hasResources do LinuxResources.init (← linux.lentResources)
    cgroupsPath := linux.cgroupsPath
    namespaces := ← list linux.namespacesLen fun index => do
      return {
        type := ← swiftCase (← linux.namespaceTypeAt index)
        path := ← linux.namespacePathAt index }
    devices := ← list linux.devicesLen fun index => do
      return LinuxDevice.init (← linux.devicesAt index)
    seccomp := ← ifPresent linux.hasSeccomp do LinuxSeccomp.init (← linux.lentSeccomp)
    rootfsPropagation := linux.rootfsPropagation
    maskedPaths := ← strings linux.maskedPathsLen linux.maskedPathsAt
    readonlyPaths := ← strings linux.readonlyPathsLen linux.readonlyPathsAt
    mountLabel := linux.mountLabel
    personality := ← ifPresent linux.hasPersonality do
      return {
        domain := ← swiftCase (← linux.personalityDomain)
        flags := ← strings (← linux.personalityFlagsLen) linux.personalityFlagsAt } }

/-! ### Spec -/

structure OciMount where
  type : String
  source : String
  destination : String
  options : List String
  uidMappings : Option (List LinuxIDMapping)
  gidMappings : Option (List LinuxIDMapping)

structure Root where
  path : String
  readonly : Bool

structure Spec where
  version : String
  hooks : Option Hooks
  process : Option Process
  hostname : String
  domainname : String
  mounts : List OciMount
  annotations : Option (Dictionary String)
  root : Option Root
  linux : Option Linux

def OciMount.init (mount : Rust.OciMount) : Crossing OciMount := do
  return {
    type := mount.type
    source := mount.source
    destination := mount.destination
    options := ← strings mount.optionsLen mount.optionsAt
    uidMappings := ← ifPresent mount.hasUidMappings
      (list mount.uidMappingsLen fun index => do
        return LinuxIDMapping.init (← mount.uidMappingsAt index))
    gidMappings := ← ifPresent mount.hasGidMappings
      (list mount.gidMappingsLen fun index => do
        return LinuxIDMapping.init (← mount.gidMappingsAt index)) }

def Spec.init (spec : Rust.Spec) : Crossing Spec := do
  return {
    version := spec.version
    hooks := ← ifPresent spec.hasHooks do Hooks.init (← spec.lentHooks)
    process := ← ifPresent spec.hasProcess do Process.init (← spec.lentProcess)
    hostname := spec.hostname
    domainname := spec.domainname
    mounts := ← list spec.mountsLen fun index => do OciMount.init (← spec.mountsAt index)
    annotations := ← ifPresent spec.hasAnnotations
      (dictionary spec.annotationsLen spec.annotationKeyAt spec.annotationValueAt)
    root := ← ifPresent spec.hasRoot do
      return { path := ← spec.rootPath, readonly := ← spec.rootReadonly }
    linux := ← ifPresent spec.hasLinux do Linux.init (← spec.lentLinux) }

end Swift

end ContainerBridge
