import ContainerBridge.Outcome

/-! How Rust reads the OCI runtime spec back from an outcome: the getters Swift gives each field,
and the readers that make Rust's value of them. -/

namespace ContainerBridge

variable [Runtime]

namespace CzOutcome

/-! ### Process -/

@[simp] def processCwd (outcome : CzOutcome) : Crossing String := do
  return (← outcome.taken Swift.Process).cwd
@[simp] def processEnv (outcome : CzOutcome) : Crossing (List String) := do
  return (← outcome.taken Swift.Process).env
@[simp] def processConsoleSize (outcome : CzOutcome) : Crossing CzOutcome := do
  return holding (← outcome.taken Swift.Process).consoleSize
@[simp] def processSelinuxLabel (outcome : CzOutcome) : Crossing String := do
  return (← outcome.taken Swift.Process).selinuxLabel
@[simp] def processNoNewPrivileges (outcome : CzOutcome) : Crossing Bool := do
  return (← outcome.taken Swift.Process).noNewPrivileges
@[simp] def processCommandLine (outcome : CzOutcome) : Crossing String := do
  return (← outcome.taken Swift.Process).commandLine
@[simp] def processOomScoreAdj (outcome : CzOutcome) : Crossing (Option Isize) := do
  return (← outcome.taken Swift.Process).oomScoreAdj
@[simp] def processCapabilities (outcome : CzOutcome) : Crossing CzOutcome := do
  return holding (← outcome.taken Swift.Process).capabilities
@[simp] def processApparmorProfile (outcome : CzOutcome) : Crossing String := do
  return (← outcome.taken Swift.Process).apparmorProfile
@[simp] def processUser (outcome : CzOutcome) : Crossing CzOutcome := do
  return holding (some (← outcome.taken Swift.Process).user)
@[simp] def processRlimits (outcome : CzOutcome) : Crossing CzOutcome := do
  return holding (some (← outcome.taken Swift.Process).rlimits)
@[simp] def processArgs (outcome : CzOutcome) : Crossing (List String) := do
  return (← outcome.taken Swift.Process).args
@[simp] def processTerminal (outcome : CzOutcome) : Crossing Bool := do
  return (← outcome.taken Swift.Process).terminal
-- `Box`'s fields are internal, so Swift reads them by reflection.
@[simp] def boxHeight (outcome : CzOutcome) : Crossing Usize := do
  return (← outcome.taken Swift.Box).height
@[simp] def boxWidth (outcome : CzOutcome) : Crossing Usize := do
  return (← outcome.taken Swift.Box).width
@[simp] def userUid (outcome : CzOutcome) : Crossing UInt32 := do
  return (← outcome.taken Swift.User).uid
@[simp] def userGid (outcome : CzOutcome) : Crossing UInt32 := do
  return (← outcome.taken Swift.User).gid
@[simp] def userUmask (outcome : CzOutcome) : Crossing (Option UInt32) := do
  return (← outcome.taken Swift.User).umask
@[simp] def userAdditionalGids (outcome : CzOutcome) : Crossing (List UInt32) := do
  return (← outcome.taken Swift.User).additionalGids
@[simp] def userUsername (outcome : CzOutcome) : Crossing String := do
  return (← outcome.taken Swift.User).username
@[simp] def capabilitiesSet (outcome : CzOutcome) (set : CapabilitySet) : Crossing CzOutcome := do
  let capabilities ← outcome.taken Swift.OciLinuxCapabilities
  let names : Option (List String) := match set with
    | .bounding => capabilities.bounding
    | .effective => capabilities.effective
    | .inheritable => capabilities.inheritable
    | .permitted => capabilities.permitted
    | .ambient => capabilities.ambient
  return holding names
@[simp] def rlimitType (outcome : CzOutcome) : Crossing String := do
  return (← outcome.taken Swift.POSIXRlimit).type
@[simp] def rlimitHard (outcome : CzOutcome) : Crossing UInt64 := do
  return (← outcome.taken Swift.POSIXRlimit).hard
@[simp] def rlimitSoft (outcome : CzOutcome) : Crossing UInt64 := do
  return (← outcome.taken Swift.POSIXRlimit).soft

def user (outcome : CzOutcome) : Crossing Rust.User := do
  return {
    uid := ← outcome.userUid
    gid := ← outcome.userGid
    umask := ← outcome.userUmask
    additionalGids := ← outcome.userAdditionalGids
    username := ← outcome.userUsername }

def ociLinuxCapabilities (outcome : CzOutcome) : Crossing Rust.OciLinuxCapabilities := do
  let set (set : CapabilitySet) : Crossing (Option (List String)) := do
    (← outcome.capabilitiesSet set).optional strings
  return {
    bounding := ← set .bounding
    effective := ← set .effective
    inheritable := ← set .inheritable
    permitted := ← set .permitted
    ambient := ← set .ambient }

def posixRlimit (outcome : CzOutcome) : Crossing Rust.POSIXRlimit := do
  return {
    type := ← outcome.rlimitType
    hard := ← outcome.rlimitHard
    soft := ← outcome.rlimitSoft }

def process (outcome : CzOutcome) : Crossing Rust.Process := do
  return {
    cwd := ← outcome.processCwd
    env := ← outcome.processEnv
    consoleSize := ← (← outcome.processConsoleSize).optional fun size => do
      return { height := ← size.boxHeight, width := ← size.boxWidth }
    selinuxLabel := ← outcome.processSelinuxLabel
    noNewPrivileges := ← outcome.processNoNewPrivileges
    commandLine := ← outcome.processCommandLine
    oomScoreAdj := ← outcome.processOomScoreAdj
    capabilities := ← (← outcome.processCapabilities).optional ociLinuxCapabilities
    apparmorProfile := ← outcome.processApparmorProfile
    user := ← (← outcome.processUser).user
    rlimits := ← (← outcome.processRlimits).list posixRlimit
    args := ← outcome.processArgs
    terminal := ← outcome.processTerminal }

/-! ### Hooks -/

@[simp] def hookPath (outcome : CzOutcome) : Crossing String := do
  return (← outcome.taken Swift.Hook).path
@[simp] def hookArgs (outcome : CzOutcome) : Crossing (List String) := do
  return (← outcome.taken Swift.Hook).args
@[simp] def hookEnv (outcome : CzOutcome) : Crossing (List String) := do
  return (← outcome.taken Swift.Hook).env
@[simp] def hookTimeout (outcome : CzOutcome) : Crossing (Option Isize) := do
  return (← outcome.taken Swift.Hook).timeout
@[simp] def hooksOf (outcome : CzOutcome) (kind : HookKind) : Crossing CzOutcome := do
  let hooks ← outcome.taken Swift.Hooks
  let list : List Swift.Hook := match kind with
    | .prestart => hooks.prestart
    | .createRuntime => hooks.createRuntime
    | .createContainer => hooks.createContainer
    | .startContainer => hooks.startContainer
    | .poststart => hooks.poststart
    | .poststop => hooks.poststop
  return holding (some list)

def hook (outcome : CzOutcome) : Crossing Rust.Hook := do
  return {
    path := ← outcome.hookPath
    args := ← outcome.hookArgs
    env := ← outcome.hookEnv
    timeout := ← outcome.hookTimeout }

def hooks (outcome : CzOutcome) : Crossing Rust.Hooks := do
  let hooks (kind : HookKind) : Crossing (List Rust.Hook) := do
    (← outcome.hooksOf kind).list hook
  return {
    prestart := ← hooks .prestart
    createRuntime := ← hooks .createRuntime
    createContainer := ← hooks .createContainer
    startContainer := ← hooks .startContainer
    poststart := ← hooks .poststart
    poststop := ← hooks .poststop }

/-! ### Seccomp -/

@[simp] def seccompDefaultAction (outcome : CzOutcome) : Crossing String := do
  return (← outcome.taken Swift.LinuxSeccomp).defaultAction.rawValue
@[simp] def seccompDefaultErrnoRet (outcome : CzOutcome) : Crossing (Option Usize) := do
  return (← outcome.taken Swift.LinuxSeccomp).defaultErrnoRet
@[simp] def seccompArchitectures (outcome : CzOutcome) : Crossing (List String) := do
  return (← outcome.taken Swift.LinuxSeccomp).architectures.map Case.rawValue
@[simp] def seccompFlags (outcome : CzOutcome) : Crossing (List String) := do
  return (← outcome.taken Swift.LinuxSeccomp).flags.map Case.rawValue
@[simp] def seccompListenerPath (outcome : CzOutcome) : Crossing String := do
  return (← outcome.taken Swift.LinuxSeccomp).listenerPath
@[simp] def seccompListenerMetadata (outcome : CzOutcome) : Crossing String := do
  return (← outcome.taken Swift.LinuxSeccomp).listenerMetadata
@[simp] def seccompSyscalls (outcome : CzOutcome) : Crossing CzOutcome := do
  return holding (some (← outcome.taken Swift.LinuxSeccomp).syscalls)
@[simp] def syscallNames (outcome : CzOutcome) : Crossing (List String) := do
  return (← outcome.taken Swift.LinuxSyscall).names
@[simp] def syscallAction (outcome : CzOutcome) : Crossing String := do
  return (← outcome.taken Swift.LinuxSyscall).action.rawValue
@[simp] def syscallErrnoRet (outcome : CzOutcome) : Crossing (Option Usize) := do
  return (← outcome.taken Swift.LinuxSyscall).errnoRet
@[simp] def syscallArgs (outcome : CzOutcome) : Crossing CzOutcome := do
  return holding (some (← outcome.taken Swift.LinuxSyscall).args)
@[simp] def seccompArgIndex (outcome : CzOutcome) : Crossing Usize := do
  return (← outcome.taken Swift.LinuxSeccompArg).index
@[simp] def seccompArgValue (outcome : CzOutcome) : Crossing UInt64 := do
  return (← outcome.taken Swift.LinuxSeccompArg).value
@[simp] def seccompArgValueTwo (outcome : CzOutcome) : Crossing UInt64 := do
  return (← outcome.taken Swift.LinuxSeccompArg).valueTwo
@[simp] def seccompArgOp (outcome : CzOutcome) : Crossing String := do
  return (← outcome.taken Swift.LinuxSeccompArg).op.rawValue

def syscall (outcome : CzOutcome) : Crossing Rust.LinuxSyscall := do
  return {
    names := ← outcome.syscallNames
    action := ← fromSwift (← outcome.syscallAction)
    errnoRet := ← outcome.syscallErrnoRet
    args := ← (← outcome.syscallArgs).list fun arg => do
      return {
        index := ← arg.seccompArgIndex
        value := ← arg.seccompArgValue
        valueTwo := ← arg.seccompArgValueTwo
        op := ← fromSwift (← arg.seccompArgOp) } }

/-- The `LinuxSeccomp` an outcome holds, read field by field. -/
def seccomp (outcome : CzOutcome) : Crossing Rust.LinuxSeccomp := do
  return {
    defaultAction := ← fromSwift (← outcome.seccompDefaultAction)
    defaultErrnoRet := ← outcome.seccompDefaultErrnoRet
    architectures := ← (← outcome.seccompArchitectures).mapM fromSwift
    flags := ← (← outcome.seccompFlags).mapM fromSwift
    listenerPath := ← outcome.seccompListenerPath
    listenerMetadata := ← outcome.seccompListenerMetadata
    syscalls := ← (← outcome.seccompSyscalls).list syscall }

/-! ### Resources -/

@[simp] def resourcesDevices (outcome : CzOutcome) : Crossing CzOutcome := do
  return holding (some (← outcome.taken Swift.LinuxResources).devices)
@[simp] def resourcesMemory (outcome : CzOutcome) : Crossing CzOutcome := do
  return holding (← outcome.taken Swift.LinuxResources).memory
@[simp] def resourcesCpu (outcome : CzOutcome) : Crossing CzOutcome := do
  return holding (← outcome.taken Swift.LinuxResources).cpu
@[simp] def resourcesPids (outcome : CzOutcome) : Crossing CzOutcome := do
  return holding (← outcome.taken Swift.LinuxResources).pids
@[simp] def resourcesBlockIO (outcome : CzOutcome) : Crossing CzOutcome := do
  return holding (Swift.LinuxResources.blockIO (← outcome.taken Swift.LinuxResources))
@[simp] def resourcesHugepageLimits (outcome : CzOutcome) : Crossing CzOutcome := do
  return holding (some (← outcome.taken Swift.LinuxResources).hugepageLimits)
@[simp] def resourcesNetwork (outcome : CzOutcome) : Crossing CzOutcome := do
  return holding (← outcome.taken Swift.LinuxResources).network
@[simp] def resourcesRdma (outcome : CzOutcome) : Crossing CzOutcome := do
  return holding (← outcome.taken Swift.LinuxResources).rdma
@[simp] def resourcesUnified (outcome : CzOutcome) : Crossing CzOutcome := do
  return holding (← outcome.taken Swift.LinuxResources).unified
@[simp] def memoryLimit (outcome : CzOutcome) : Crossing (Option Int64) := do
  return (← outcome.taken Swift.LinuxMemory).limit
@[simp] def memoryReservation (outcome : CzOutcome) : Crossing (Option Int64) := do
  return (← outcome.taken Swift.LinuxMemory).reservation
@[simp] def memorySwap (outcome : CzOutcome) : Crossing (Option Int64) := do
  return (← outcome.taken Swift.LinuxMemory).swap
@[simp] def memoryKernel (outcome : CzOutcome) : Crossing (Option Int64) := do
  return (← outcome.taken Swift.LinuxMemory).kernel
@[simp] def memoryKernelTCP (outcome : CzOutcome) : Crossing (Option Int64) := do
  return (← outcome.taken Swift.LinuxMemory).kernelTCP
@[simp] def memorySwappiness (outcome : CzOutcome) : Crossing (Option UInt64) := do
  return (← outcome.taken Swift.LinuxMemory).swappiness
@[simp] def memoryDisableOOMKiller (outcome : CzOutcome) : Crossing (Option Bool) := do
  return (← outcome.taken Swift.LinuxMemory).disableOOMKiller
@[simp] def memoryUseHierarchy (outcome : CzOutcome) : Crossing (Option Bool) := do
  return (← outcome.taken Swift.LinuxMemory).useHierarchy
@[simp] def memoryCheckBeforeUpdate (outcome : CzOutcome) : Crossing (Option Bool) := do
  return (← outcome.taken Swift.LinuxMemory).checkBeforeUpdate
@[simp] def cpuShares (outcome : CzOutcome) : Crossing (Option UInt64) := do
  return (← outcome.taken Swift.LinuxCPU).shares
@[simp] def cpuQuota (outcome : CzOutcome) : Crossing (Option Int64) := do
  return (← outcome.taken Swift.LinuxCPU).quota
@[simp] def cpuBurst (outcome : CzOutcome) : Crossing (Option UInt64) := do
  return (← outcome.taken Swift.LinuxCPU).burst
@[simp] def cpuPeriod (outcome : CzOutcome) : Crossing (Option UInt64) := do
  return (← outcome.taken Swift.LinuxCPU).period
@[simp] def cpuRealtimeRuntime (outcome : CzOutcome) : Crossing (Option Int64) := do
  return (← outcome.taken Swift.LinuxCPU).realtimeRuntime
@[simp] def cpuRealtimePeriod (outcome : CzOutcome) : Crossing (Option Int64) := do
  return (← outcome.taken Swift.LinuxCPU).realtimePeriod
@[simp] def cpuCpus (outcome : CzOutcome) : Crossing String := do
  return (← outcome.taken Swift.LinuxCPU).cpus
@[simp] def cpuMems (outcome : CzOutcome) : Crossing String := do
  return (← outcome.taken Swift.LinuxCPU).mems
@[simp] def cpuIdle (outcome : CzOutcome) : Crossing (Option Int64) := do
  return (← outcome.taken Swift.LinuxCPU).idle
@[simp] def pidsLimit (outcome : CzOutcome) : Crossing Int64 := do
  return (← outcome.taken Swift.LinuxPids).limit
@[simp] def blockIOWeight (outcome : CzOutcome) : Crossing (Option UInt16) := do
  return (← outcome.taken Swift.LinuxBlockIO).weight
@[simp] def blockIOLeafWeight (outcome : CzOutcome) : Crossing (Option UInt16) := do
  return (← outcome.taken Swift.LinuxBlockIO).leafWeight
@[simp] def blockIOWeightDevice (outcome : CzOutcome) : Crossing CzOutcome := do
  return holding (some (← outcome.taken Swift.LinuxBlockIO).weightDevice)
@[simp] def blockIOThrottle (outcome : CzOutcome) (kind : ThrottleKind) : Crossing CzOutcome := do
  let blockIo ← outcome.taken Swift.LinuxBlockIO
  let devices : List Swift.LinuxThrottleDevice := match kind with
    | .readBps => blockIo.throttleReadBpsDevice
    | .writeBps => blockIo.throttleWriteBpsDevice
    | .readIops => blockIo.throttleReadIOPSDevice
    | .writeIops => blockIo.throttleWriteIOPSDevice
  return holding (some devices)
@[simp] def weightDeviceMajor (outcome : CzOutcome) : Crossing Int64 := do
  return (← outcome.taken Swift.LinuxWeightDevice).major
@[simp] def weightDeviceMinor (outcome : CzOutcome) : Crossing Int64 := do
  return (← outcome.taken Swift.LinuxWeightDevice).minor
@[simp] def weightDeviceWeight (outcome : CzOutcome) : Crossing (Option UInt16) := do
  return (← outcome.taken Swift.LinuxWeightDevice).weight
@[simp] def weightDeviceLeafWeight (outcome : CzOutcome) : Crossing (Option UInt16) := do
  return (← outcome.taken Swift.LinuxWeightDevice).leafWeight
@[simp] def throttleDeviceMajor (outcome : CzOutcome) : Crossing Int64 := do
  return (← outcome.taken Swift.LinuxThrottleDevice).major
@[simp] def throttleDeviceMinor (outcome : CzOutcome) : Crossing Int64 := do
  return (← outcome.taken Swift.LinuxThrottleDevice).minor
@[simp] def throttleDeviceRate (outcome : CzOutcome) : Crossing UInt64 := do
  return (← outcome.taken Swift.LinuxThrottleDevice).rate
@[simp] def hugepageLimitPagesize (outcome : CzOutcome) : Crossing String := do
  return (← outcome.taken Swift.LinuxHugepageLimit).pagesize
@[simp] def hugepageLimitLimit (outcome : CzOutcome) : Crossing UInt64 := do
  return (← outcome.taken Swift.LinuxHugepageLimit).limit
@[simp] def networkClassID (outcome : CzOutcome) : Crossing (Option UInt32) := do
  return (← outcome.taken Swift.LinuxNetwork).classID
@[simp] def networkPriorities (outcome : CzOutcome) : Crossing CzOutcome := do
  return holding (some (← outcome.taken Swift.LinuxNetwork).priorities)
@[simp] def interfacePriorityName (outcome : CzOutcome) : Crossing String := do
  return (← outcome.taken Swift.LinuxInterfacePriority).name
@[simp] def interfacePriorityPriority (outcome : CzOutcome) : Crossing UInt32 := do
  return (← outcome.taken Swift.LinuxInterfacePriority).priority
@[simp] def rdmaHcsHandles (outcome : CzOutcome) : Crossing (Option UInt32) := do
  return (← outcome.taken Swift.LinuxRdma).hcsHandles
@[simp] def rdmaHcaObjects (outcome : CzOutcome) : Crossing (Option UInt32) := do
  return (← outcome.taken Swift.LinuxRdma).hcaObjects
@[simp] def deviceCgroupAllow (outcome : CzOutcome) : Crossing Bool := do
  return (← outcome.taken Swift.LinuxDeviceCgroup).allow
@[simp] def deviceCgroupType (outcome : CzOutcome) : Crossing String := do
  return (← outcome.taken Swift.LinuxDeviceCgroup).type
@[simp] def deviceCgroupMajor (outcome : CzOutcome) : Crossing (Option Int64) := do
  return (← outcome.taken Swift.LinuxDeviceCgroup).major
@[simp] def deviceCgroupMinor (outcome : CzOutcome) : Crossing (Option Int64) := do
  return (← outcome.taken Swift.LinuxDeviceCgroup).minor
@[simp] def deviceCgroupAccess (outcome : CzOutcome) : Crossing (Option String) := do
  return (← outcome.taken Swift.LinuxDeviceCgroup).access

def memory (outcome : CzOutcome) : Crossing Rust.LinuxMemory := do
  return {
    limit := ← outcome.memoryLimit
    reservation := ← outcome.memoryReservation
    swap := ← outcome.memorySwap
    kernel := ← outcome.memoryKernel
    kernelTcp := ← outcome.memoryKernelTCP
    swappiness := ← outcome.memorySwappiness
    disableOomKiller := ← outcome.memoryDisableOOMKiller
    useHierarchy := ← outcome.memoryUseHierarchy
    checkBeforeUpdate := ← outcome.memoryCheckBeforeUpdate }

def cpu (outcome : CzOutcome) : Crossing Rust.LinuxCPU := do
  return {
    shares := ← outcome.cpuShares
    quota := ← outcome.cpuQuota
    burst := ← outcome.cpuBurst
    period := ← outcome.cpuPeriod
    realtimeRuntime := ← outcome.cpuRealtimeRuntime
    realtimePeriod := ← outcome.cpuRealtimePeriod
    cpus := ← outcome.cpuCpus
    mems := ← outcome.cpuMems
    idle := ← outcome.cpuIdle }

def blockIO (outcome : CzOutcome) : Crossing Rust.LinuxBlockIO := do
  let throttle (kind : ThrottleKind) : Crossing (List Rust.LinuxThrottleDevice) := do
    (← outcome.blockIOThrottle kind).list fun device => do
      return {
        major := ← device.throttleDeviceMajor
        minor := ← device.throttleDeviceMinor
        rate := ← device.throttleDeviceRate }
  return {
    weight := ← outcome.blockIOWeight
    leafWeight := ← outcome.blockIOLeafWeight
    weightDevice := ← (← outcome.blockIOWeightDevice).list fun device => do
      return {
        major := ← device.weightDeviceMajor
        minor := ← device.weightDeviceMinor
        weight := ← device.weightDeviceWeight
        leafWeight := ← device.weightDeviceLeafWeight }
    throttleReadBpsDevice := ← throttle .readBps
    throttleWriteBpsDevice := ← throttle .writeBps
    throttleReadIopsDevice := ← throttle .readIops
    throttleWriteIopsDevice := ← throttle .writeIops }

def deviceCgroup (outcome : CzOutcome) : Crossing Rust.LinuxDeviceCgroup := do
  return {
    allow := ← outcome.deviceCgroupAllow
    type := ← outcome.deviceCgroupType
    major := ← outcome.deviceCgroupMajor
    minor := ← outcome.deviceCgroupMinor
    access := ← outcome.deviceCgroupAccess }

def resources (outcome : CzOutcome) : Crossing Rust.LinuxResources := do
  return {
    devices := ← (← outcome.resourcesDevices).list deviceCgroup
    memory := ← (← outcome.resourcesMemory).optional memory
    cpu := ← (← outcome.resourcesCpu).optional cpu
    pids := ← (← outcome.resourcesPids).optional fun pids => do
      return { limit := ← pids.pidsLimit }
    blockIo := ← (← outcome.resourcesBlockIO).optional blockIO
    hugepageLimits := ← (← outcome.resourcesHugepageLimits).list fun limit => do
      return {
        pagesize := ← limit.hugepageLimitPagesize
        limit := ← limit.hugepageLimitLimit }
    network := ← (← outcome.resourcesNetwork).optional fun network => do
      return {
        classId := ← network.networkClassID
        priorities := ← (← network.networkPriorities).list fun priority => do
          return {
            name := ← priority.interfacePriorityName
            priority := ← priority.interfacePriorityPriority } }
    rdma := ← (← outcome.resourcesRdma).optional fun rdma => rdma.mapOf fun rdma => do
      return {
        hcsHandles := ← rdma.rdmaHcsHandles
        hcaObjects := ← rdma.rdmaHcaObjects }
    unified := ← (← outcome.resourcesUnified).optional map }

/-! ### Linux -/

@[simp] def linuxUidMappings (outcome : CzOutcome) : Crossing CzOutcome := do
  return holding (some (← outcome.taken Swift.Linux).uidMappings)
@[simp] def linuxGidMappings (outcome : CzOutcome) : Crossing CzOutcome := do
  return holding (some (← outcome.taken Swift.Linux).gidMappings)
@[simp] def linuxSysctl (outcome : CzOutcome) : Crossing CzOutcome := do
  return holding (← outcome.taken Swift.Linux).sysctl
@[simp] def linuxResources (outcome : CzOutcome) : Crossing CzOutcome := do
  return holding (← outcome.taken Swift.Linux).resources
@[simp] def linuxCgroupsPath (outcome : CzOutcome) : Crossing String := do
  return (← outcome.taken Swift.Linux).cgroupsPath
@[simp] def linuxNamespaces (outcome : CzOutcome) : Crossing CzOutcome := do
  return holding (some (← outcome.taken Swift.Linux).namespaces)
@[simp] def linuxDevices (outcome : CzOutcome) : Crossing CzOutcome := do
  return holding (some (← outcome.taken Swift.Linux).devices)
@[simp] def linuxSeccomp (outcome : CzOutcome) : Crossing CzOutcome := do
  return holding (← outcome.taken Swift.Linux).seccomp
@[simp] def linuxRootfsPropagation (outcome : CzOutcome) : Crossing String := do
  return (← outcome.taken Swift.Linux).rootfsPropagation
@[simp] def linuxMaskedPaths (outcome : CzOutcome) : Crossing (List String) := do
  return (← outcome.taken Swift.Linux).maskedPaths
@[simp] def linuxReadonlyPaths (outcome : CzOutcome) : Crossing (List String) := do
  return (← outcome.taken Swift.Linux).readonlyPaths
@[simp] def linuxMountLabel (outcome : CzOutcome) : Crossing String := do
  return (← outcome.taken Swift.Linux).mountLabel
@[simp] def linuxPersonality (outcome : CzOutcome) : Crossing CzOutcome := do
  return holding (← outcome.taken Swift.Linux).personality
@[simp] def namespaceType (outcome : CzOutcome) : Crossing String := do
  return (← outcome.taken Swift.LinuxNamespace).type.rawValue
@[simp] def namespacePath (outcome : CzOutcome) : Crossing String := do
  return (← outcome.taken Swift.LinuxNamespace).path
@[simp] def idMappingContainerID (outcome : CzOutcome) : Crossing UInt32 := do
  return (← outcome.taken Swift.LinuxIDMapping).containerID
@[simp] def idMappingHostID (outcome : CzOutcome) : Crossing UInt32 := do
  return (← outcome.taken Swift.LinuxIDMapping).hostID
@[simp] def idMappingSize (outcome : CzOutcome) : Crossing UInt32 := do
  return (← outcome.taken Swift.LinuxIDMapping).size
@[simp] def devicePath (outcome : CzOutcome) : Crossing String := do
  return (← outcome.taken Swift.LinuxDevice).path
@[simp] def deviceType (outcome : CzOutcome) : Crossing String := do
  return (← outcome.taken Swift.LinuxDevice).type
@[simp] def deviceMajor (outcome : CzOutcome) : Crossing Int64 := do
  return (← outcome.taken Swift.LinuxDevice).major
@[simp] def deviceMinor (outcome : CzOutcome) : Crossing Int64 := do
  return (← outcome.taken Swift.LinuxDevice).minor
@[simp] def deviceFileMode (outcome : CzOutcome) : Crossing (Option UInt32) := do
  return (← outcome.taken Swift.LinuxDevice).fileMode
@[simp] def deviceUid (outcome : CzOutcome) : Crossing (Option UInt32) := do
  return (← outcome.taken Swift.LinuxDevice).uid
@[simp] def deviceGid (outcome : CzOutcome) : Crossing (Option UInt32) := do
  return (← outcome.taken Swift.LinuxDevice).gid
@[simp] def personalityDomain (outcome : CzOutcome) : Crossing String := do
  return (← outcome.taken Swift.LinuxPersonality).domain.rawValue
@[simp] def personalityFlags (outcome : CzOutcome) : Crossing (List String) := do
  return (← outcome.taken Swift.LinuxPersonality).flags

def idMapping (outcome : CzOutcome) : Crossing Rust.LinuxIDMapping := do
  return {
    containerId := ← outcome.idMappingContainerID
    hostId := ← outcome.idMappingHostID
    size := ← outcome.idMappingSize }

def device (outcome : CzOutcome) : Crossing Rust.LinuxDevice := do
  return {
    path := ← outcome.devicePath
    type := ← outcome.deviceType
    major := ← outcome.deviceMajor
    minor := ← outcome.deviceMinor
    fileMode := ← outcome.deviceFileMode
    uid := ← outcome.deviceUid
    gid := ← outcome.deviceGid }

def linux (outcome : CzOutcome) : Crossing Rust.Linux := do
  return {
    uidMappings := ← (← outcome.linuxUidMappings).list idMapping
    gidMappings := ← (← outcome.linuxGidMappings).list idMapping
    sysctl := ← (← outcome.linuxSysctl).optional map
    resources := ← (← outcome.linuxResources).optional resources
    cgroupsPath := ← outcome.linuxCgroupsPath
    namespaces := ← (← outcome.linuxNamespaces).list fun ns => do
      return {
        type := ← fromSwift (← ns.namespaceType)
        path := ← ns.namespacePath }
    devices := ← (← outcome.linuxDevices).list device
    seccomp := ← (← outcome.linuxSeccomp).optional seccomp
    rootfsPropagation := ← outcome.linuxRootfsPropagation
    maskedPaths := ← outcome.linuxMaskedPaths
    readonlyPaths := ← outcome.linuxReadonlyPaths
    mountLabel := ← outcome.linuxMountLabel
    personality := ← (← outcome.linuxPersonality).optional fun personality => do
      return {
        domain := ← fromSwift (← personality.personalityDomain)
        flags := ← personality.personalityFlags } }

/-! ### Spec -/

@[simp] def ociMountType (outcome : CzOutcome) : Crossing String := do
  return (← outcome.taken Swift.OciMount).type
@[simp] def ociMountSource (outcome : CzOutcome) : Crossing String := do
  return (← outcome.taken Swift.OciMount).source
@[simp] def ociMountDestination (outcome : CzOutcome) : Crossing String := do
  return (← outcome.taken Swift.OciMount).destination
@[simp] def ociMountOptions (outcome : CzOutcome) : Crossing (List String) := do
  return (← outcome.taken Swift.OciMount).options
@[simp] def ociMountUidMappings (outcome : CzOutcome) : Crossing CzOutcome := do
  return holding (← outcome.taken Swift.OciMount).uidMappings
@[simp] def ociMountGidMappings (outcome : CzOutcome) : Crossing CzOutcome := do
  return holding (← outcome.taken Swift.OciMount).gidMappings
@[simp] def specVersion (outcome : CzOutcome) : Crossing String := do
  return (← outcome.taken Swift.Spec).version
@[simp] def specHooks (outcome : CzOutcome) : Crossing CzOutcome := do
  return holding (← outcome.taken Swift.Spec).hooks
@[simp] def specProcess (outcome : CzOutcome) : Crossing CzOutcome := do
  return holding (← outcome.taken Swift.Spec).process
@[simp] def specHostname (outcome : CzOutcome) : Crossing String := do
  return (← outcome.taken Swift.Spec).hostname
@[simp] def specDomainname (outcome : CzOutcome) : Crossing String := do
  return (← outcome.taken Swift.Spec).domainname
@[simp] def specMounts (outcome : CzOutcome) : Crossing CzOutcome := do
  return holding (some (← outcome.taken Swift.Spec).mounts)
@[simp] def specAnnotations (outcome : CzOutcome) : Crossing CzOutcome := do
  return holding (← outcome.taken Swift.Spec).annotations
@[simp] def specRoot (outcome : CzOutcome) : Crossing CzOutcome := do
  return holding (← outcome.taken Swift.Spec).root
@[simp] def specLinux (outcome : CzOutcome) : Crossing CzOutcome := do
  return holding (← outcome.taken Swift.Spec).linux
@[simp] def rootPath (outcome : CzOutcome) : Crossing String := do
  return (← outcome.taken Swift.Root).path
@[simp] def rootReadonly (outcome : CzOutcome) : Crossing Bool := do
  return (← outcome.taken Swift.Root).readonly

def ociMount (outcome : CzOutcome) : Crossing Rust.OciMount := do
  return {
    type := ← outcome.ociMountType
    source := ← outcome.ociMountSource
    destination := ← outcome.ociMountDestination
    options := ← outcome.ociMountOptions
    uidMappings := ← (← outcome.ociMountUidMappings).optional fun mappings =>
      mappings.list idMapping
    gidMappings := ← (← outcome.ociMountGidMappings).optional fun mappings =>
      mappings.list idMapping }

def root (outcome : CzOutcome) : Crossing Rust.Root := do
  return {
    path := ← outcome.rootPath
    readonly := ← outcome.rootReadonly }

/-- The `Spec` an outcome holds, read field by field. -/
def spec (outcome : CzOutcome) : Crossing Rust.Spec := do
  return {
    version := ← outcome.specVersion
    hooks := ← (← outcome.specHooks).optional hooks
    process := ← (← outcome.specProcess).optional process
    hostname := ← outcome.specHostname
    domainname := ← outcome.specDomainname
    mounts := ← (← outcome.specMounts).list ociMount
    annotations := ← (← outcome.specAnnotations).optional map
    root := ← (← outcome.specRoot).optional root
    linux := ← (← outcome.specLinux).optional linux }

end CzOutcome

end ContainerBridge
