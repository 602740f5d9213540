import ContainerBridge.Runtime.Crossing

/-! The enums a container's and a pod's configuration hold, and the kinds the bridge declares for
them. A capability crosses by its description, and a resource limit's kind by the bridge's. -/

namespace ContainerBridge

inductive CapabilityName where
  | chown | dacOverride | dacReadSearch | fowner | fsetid | kill | setgid | setuid | setpcap |
  linuxImmutable | netBindService | netBroadcast | netAdmin | netRaw | ipcLock | ipcOwner |
  sysModule | sysRawio | sysChroot | sysPtrace | sysPacct | sysAdmin | sysBoot | sysNice |
  sysResource | sysTime | sysTtyConfig | mknod | lease | auditWrite | auditControl | setfcap |
  macOverride | macAdmin | syslog | wakeAlarm | blockSuspend | auditRead | perfmon | bpf |
  checkpointRestore
  deriving DecidableEq

/-- `description`, such as `CAP_CHOWN`. -/
def CapabilityName.description : CapabilityName → String
  | .chown => "CAP_CHOWN"
  | .dacOverride => "CAP_DAC_OVERRIDE"
  | .dacReadSearch => "CAP_DAC_READ_SEARCH"
  | .fowner => "CAP_FOWNER"
  | .fsetid => "CAP_FSETID"
  | .kill => "CAP_KILL"
  | .setgid => "CAP_SETGID"
  | .setuid => "CAP_SETUID"
  | .setpcap => "CAP_SETPCAP"
  | .linuxImmutable => "CAP_LINUX_IMMUTABLE"
  | .netBindService => "CAP_NET_BIND_SERVICE"
  | .netBroadcast => "CAP_NET_BROADCAST"
  | .netAdmin => "CAP_NET_ADMIN"
  | .netRaw => "CAP_NET_RAW"
  | .ipcLock => "CAP_IPC_LOCK"
  | .ipcOwner => "CAP_IPC_OWNER"
  | .sysModule => "CAP_SYS_MODULE"
  | .sysRawio => "CAP_SYS_RAWIO"
  | .sysChroot => "CAP_SYS_CHROOT"
  | .sysPtrace => "CAP_SYS_PTRACE"
  | .sysPacct => "CAP_SYS_PACCT"
  | .sysAdmin => "CAP_SYS_ADMIN"
  | .sysBoot => "CAP_SYS_BOOT"
  | .sysNice => "CAP_SYS_NICE"
  | .sysResource => "CAP_SYS_RESOURCE"
  | .sysTime => "CAP_SYS_TIME"
  | .sysTtyConfig => "CAP_SYS_TTY_CONFIG"
  | .mknod => "CAP_MKNOD"
  | .lease => "CAP_LEASE"
  | .auditWrite => "CAP_AUDIT_WRITE"
  | .auditControl => "CAP_AUDIT_CONTROL"
  | .setfcap => "CAP_SETFCAP"
  | .macOverride => "CAP_MAC_OVERRIDE"
  | .macAdmin => "CAP_MAC_ADMIN"
  | .syslog => "CAP_SYSLOG"
  | .wakeAlarm => "CAP_WAKE_ALARM"
  | .blockSuspend => "CAP_BLOCK_SUSPEND"
  | .auditRead => "CAP_AUDIT_READ"
  | .perfmon => "CAP_PERFMON"
  | .bpf => "CAP_BPF"
  | .checkpointRestore => "CAP_CHECKPOINT_RESTORE"

def CapabilityName.allCases : List CapabilityName :=
  [.chown, .dacOverride, .dacReadSearch, .fowner, .fsetid, .kill, .setgid, .setuid, .setpcap,
  .linuxImmutable, .netBindService, .netBroadcast, .netAdmin, .netRaw, .ipcLock, .ipcOwner,
  .sysModule, .sysRawio, .sysChroot, .sysPtrace, .sysPacct, .sysAdmin, .sysBoot, .sysNice,
  .sysResource, .sysTime, .sysTtyConfig, .mknod, .lease, .auditWrite, .auditControl, .setfcap,
  .macOverride, .macAdmin, .syslog, .wakeAlarm, .blockSuspend, .auditRead, .perfmon, .bpf,
  .checkpointRestore]

theorem CapabilityName.find_description (name : CapabilityName) :
    allCases.find? (fun case => case.description == name.description) = some name := by
  cases name <;> rfl

/-- The case Swift described. It panics if Swift has a case Rust lacks. -/
def CapabilityName.fromDescription [Runtime] (description : String) : Crossing CapabilityName :=
  match allCases.find? fun case => case.description == description with
  | some case => .ok case
  | none => .error (.panic
      s!"Swift's CapabilityName has a case Rust lacks: {Runtime.rustDebug description}")

@[simp] theorem CapabilityName.fromDescription_description [Runtime] (name : CapabilityName) :
    fromDescription name.description = .ok name := by
  simp [fromDescription, find_description]

/-- `linux_rlimit::Kind`. -/
inductive Rust.LinuxRLimitKind where
  | addressSpace | coreFileSize | cpuTime | dataSize | fileSize | locks | lockedMemory |
  messageQueue | nice | openFiles | numberOfProcesses | residentSetSize | realtimePriority |
  realtimeTimeout | signalsPending | stackSize
  deriving DecidableEq

/-- `LinuxRLimit.Kind`. -/
inductive Swift.LinuxRLimitKind where
  | addressSpace | coreFileSize | cpuTime | dataSize | fileSize | locks | lockedMemory |
  messageQueue | nice | openFiles | numberOfProcesses | residentSetSize | realtimePriority |
  realtimeTimeout | signalsPending | stackSize
  deriving DecidableEq

/-- The bridge's kind of resource limit. -/
inductive RlimitKind where
  | addressSpace | coreFileSize | cpuTime | dataSize | fileSize | locks | lockedMemory |
  messageQueue | nice | openFiles | numberOfProcesses | residentSetSize | realtimePriority |
  realtimeTimeout | signalsPending | stackSize
  deriving DecidableEq

/-- `LinuxRLimit.Kind` and the bridge's `RlimitKind`, case for case. -/
def rlimitKinds : List (Swift.LinuxRLimitKind × RlimitKind) :=
  [(.addressSpace, .addressSpace),
   (.coreFileSize, .coreFileSize),
   (.cpuTime, .cpuTime),
   (.dataSize, .dataSize),
   (.fileSize, .fileSize),
   (.locks, .locks),
   (.lockedMemory, .lockedMemory),
   (.messageQueue, .messageQueue),
   (.nice, .nice),
   (.openFiles, .openFiles),
   (.numberOfProcesses, .numberOfProcesses),
   (.residentSetSize, .residentSetSize),
   (.realtimePriority, .realtimePriority),
   (.realtimeTimeout, .realtimeTimeout),
   (.signalsPending, .signalsPending),
   (.stackSize, .stackSize)]

def Rust.LinuxRLimitKind.toBridge : LinuxRLimitKind → RlimitKind
  | .addressSpace => .addressSpace
  | .coreFileSize => .coreFileSize
  | .cpuTime => .cpuTime
  | .dataSize => .dataSize
  | .fileSize => .fileSize
  | .locks => .locks
  | .lockedMemory => .lockedMemory
  | .messageQueue => .messageQueue
  | .nice => .nice
  | .openFiles => .openFiles
  | .numberOfProcesses => .numberOfProcesses
  | .residentSetSize => .residentSetSize
  | .realtimePriority => .realtimePriority
  | .realtimeTimeout => .realtimeTimeout
  | .signalsPending => .signalsPending
  | .stackSize => .stackSize

def Rust.LinuxRLimitKind.ofBridge : RlimitKind → LinuxRLimitKind
  | .addressSpace => .addressSpace
  | .coreFileSize => .coreFileSize
  | .cpuTime => .cpuTime
  | .dataSize => .dataSize
  | .fileSize => .fileSize
  | .locks => .locks
  | .lockedMemory => .lockedMemory
  | .messageQueue => .messageQueue
  | .nice => .nice
  | .openFiles => .openFiles
  | .numberOfProcesses => .numberOfProcesses
  | .residentSetSize => .residentSetSize
  | .realtimePriority => .realtimePriority
  | .realtimeTimeout => .realtimeTimeout
  | .signalsPending => .signalsPending
  | .stackSize => .stackSize

@[simp] theorem Rust.LinuxRLimitKind.ofBridge_toBridge (kind : LinuxRLimitKind) :
    ofBridge kind.toBridge = kind := by
  cases kind <;> rfl

/-- `rlimitKinds.first { $0.1 == kind }!.0`. -/
def Swift.LinuxRLimitKind.ofBridge (kind : RlimitKind) : Crossing LinuxRLimitKind :=
  match rlimitKinds.find? fun pair => pair.2 == kind with
  | some pair => .ok pair.1
  | none => .error (.trap "Unexpectedly found nil while unwrapping an Optional value")

/-- `rlimitKinds.first { $0.0 == kind }!.1`. -/
def Swift.LinuxRLimitKind.toBridge (kind : LinuxRLimitKind) : Crossing RlimitKind :=
  match rlimitKinds.find? fun pair => pair.1 == kind with
  | some pair => .ok pair.2
  | none => .error (.trap "Unexpectedly found nil while unwrapping an Optional value")

/-- The bridge's kind of a mount's runtime options. -/
inductive RuntimeKind where
  | virtioblk | virtiofs | shared | generic
  deriving DecidableEq

inductive InterfaceKind where
  | nat | vmnet
  deriving DecidableEq

inductive BootLogKind where
  | file | fileHandle
  deriving DecidableEq

inductive SeccompMode where
  | unconfined | default | profile
  deriving DecidableEq

inductive PodVolumeKind where
  | nbd | diskImage | tmpfs
  deriving DecidableEq

inductive SocketDirection where
  | into | outOf
  deriving DecidableEq

end ContainerBridge
