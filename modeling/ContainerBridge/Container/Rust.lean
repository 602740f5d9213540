import ContainerBridge.Container.Address
import ContainerBridge.Runtime.Duration
import ContainerBridge.Spec.Reading

/-! A container's, a pod's and a process's configuration as Rust holds them, the getters Swift reads
them through, and the setters it fills them with. -/

namespace ContainerBridge

/-! ### Swift values Rust keeps whole -/

/-- Swift's `UnixSocketConfiguration`, whose `id` is its own. -/
structure Swift.UnixSocketConfiguration [External] where
  id : String
  source : External.URL
  destination : External.URL
  permissions : Option UInt16
  direction : SocketDirection

/-- What Swift's `Interface` requires of a type that conforms to it. -/
structure Swift.InterfaceFields [External] where
  ipv4Address : Swift.CIDRv4
  ipv4Gateway : Option Swift.IPv4Address
  ipv6Address : Option Swift.CIDRv6
  ipv6Gateway : Option Swift.IPv6Address
  macAddress : Option Swift.MACAddress
  mtu : UInt32

/-- Swift's `VmnetNetwork.Interface`, which knows the network it is on. -/
structure Swift.VmnetInterface [External] extends Swift.InterfaceFields where
  reference : Nat

structure CzUnixSocketConfiguration [External] where
  configuration : Swift.UnixSocketConfiguration

structure CzVmnetInterface [External] where
  interface : Swift.VmnetInterface

/-- A copy, which keeps the `id`. -/
def CzUnixSocketConfiguration.duplicate [External] (handle : CzUnixSocketConfiguration) :
    CzUnixSocketConfiguration := ⟨handle.configuration⟩

def CzVmnetInterface.duplicate [External] (handle : CzVmnetInterface) : CzVmnetInterface :=
  ⟨handle.interface⟩

@[simp] theorem CzUnixSocketConfiguration.duplicate_eq [External]
    (handle : CzUnixSocketConfiguration) : handle.duplicate = handle := rfl

@[simp] theorem CzVmnetInterface.duplicate_eq [External] (handle : CzVmnetInterface) :
    handle.duplicate = handle := rfl

namespace Rust

/-! ### Process -/

structure LinuxCapabilities where
  bounding : List CapabilityName
  effective : List CapabilityName
  inheritable : List CapabilityName
  permitted : List CapabilityName
  ambient : List CapabilityName

structure LinuxRLimit where
  kind : LinuxRLimitKind
  hard : UInt64
  soft : UInt64

/-- `LinuxProcessConfiguration`, with a descriptor where Swift takes a stream. -/
structure LinuxProcessConfiguration where
  arguments : List String
  environmentVariables : List String
  workingDirectory : String
  user : User
  rlimits : List LinuxRLimit
  noNewPrivileges : Bool
  capabilities : LinuxCapabilities
  terminal : Bool
  stdin : Option Int32
  stdout : Option Int32
  stderr : Option Int32

def LinuxCapabilities.set (capabilities : LinuxCapabilities) :
    CapabilitySet → List CapabilityName
  | .bounding => capabilities.bounding
  | .effective => capabilities.effective
  | .inheritable => capabilities.inheritable
  | .permitted => capabilities.permitted
  | .ambient => capabilities.ambient

@[simp] def LinuxCapabilities.setLen (capabilities : LinuxCapabilities) (set : CapabilitySet) :
    Nat := (capabilities.set set).length
@[simp] def LinuxCapabilities.setAt (capabilities : LinuxCapabilities) (set : CapabilitySet)
    (index : Nat) : Crossing String := do
  return (← indexed (capabilities.set set) index).description

namespace LinuxProcessConfiguration

variable (process : LinuxProcessConfiguration)

@[simp] def setArguments (arguments : List String) := { process with arguments }
@[simp] def setEnvironmentVariables (environmentVariables : List String) :=
  { process with environmentVariables }
@[simp] def setWorkingDirectory (workingDirectory : String) := { process with workingDirectory }
@[simp] def setUser (uid gid : UInt32) (umask : Option UInt32) (additionalGids : List UInt32)
    (username : String) :=
  { process with user := { uid, gid, umask, additionalGids, username } }
@[simp] def setNoNewPrivileges (noNewPrivileges : Bool) := { process with noNewPrivileges }
/-- Panics at a description Rust has no case for. -/
def setCapabilities [Runtime] (bounding effective inheritable permitted ambient : List String) :
    Crossing LinuxProcessConfiguration := do
  let names (set : List String) : Crossing (List CapabilityName) :=
    set.mapM CapabilityName.fromDescription
  return { process with
    capabilities := {
      bounding := ← names bounding
      effective := ← names effective
      inheritable := ← names inheritable
      permitted := ← names permitted
      ambient := ← names ambient } }
@[simp] def setTerminal (terminal : Bool) := { process with terminal }
@[simp] def clearRlimits := { process with rlimits := [] }
@[simp] def pushRlimit (kind : RlimitKind) (hard soft : UInt64) :=
  { process with
    rlimits := process.rlimits ++ [({ kind := .ofBridge kind, hard, soft } : LinuxRLimit)] }

@[simp] def argumentsLen : Nat := process.arguments.length
@[simp] def argumentsAt : Nat → Crossing String := indexed process.arguments
@[simp] def environmentVariablesLen : Nat := process.environmentVariables.length
@[simp] def environmentVariablesAt : Nat → Crossing String := indexed process.environmentVariables
@[simp] def rlimitsLen : Nat := process.rlimits.length
@[simp] def rlimitKindAt (index : Nat) : Crossing RlimitKind := do
  return (← indexed process.rlimits index).kind.toBridge
@[simp] def rlimitHardAt (index : Nat) : Crossing UInt64 := do
  return (← indexed process.rlimits index).hard
@[simp] def rlimitSoftAt (index : Nat) : Crossing UInt64 := do
  return (← indexed process.rlimits index).soft

end LinuxProcessConfiguration

/-! ### Network -/

structure NATInterface where
  ipv4Address : CIDRv4
  ipv4Gateway : Option IPv4Address
  ipv6Address : Option CIDRv6
  ipv6Gateway : Option IPv6Address
  macAddress : Option MACAddress
  mtu : UInt32

/-- `any Interface`, which holds one of the types that conform to it on macOS. -/
inductive Interface [External] where
  | nat (interface : NATInterface)
  | vmnet (handle : CzVmnetInterface)

structure DNS where
  nameservers : List String
  domain : Option String
  searchDomains : List String
  options : List String

structure HostsEntry where
  ipAddress : String
  hostnames : List String
  comment : Option String

structure Hosts where
  entries : List HostsEntry
  comment : Option String

namespace NATInterface

variable (interface : NATInterface)

@[simp] def ipv4AddressValue : UInt32 := interface.ipv4Address.address.value
@[simp] def ipv4Prefix : UInt8 := interface.ipv4Address.netPrefix.length
@[simp] def lentIpv4Gateway : Option UInt32 := interface.ipv4Gateway.map (·.value)
@[simp] def hasIpv6Address : Bool := interface.ipv6Address.isSome
@[simp] def lentIpv6Address : Crossing IPv6Address := do
  return (← present interface.ipv6Address).address
@[simp] def ipv6Prefix : Crossing UInt8 := do
  return (← present interface.ipv6Address).netPrefix.length
@[simp] def hasIpv6Gateway : Bool := interface.ipv6Gateway.isSome
@[simp] def lentIpv6Gateway : Crossing IPv6Address := present interface.ipv6Gateway
@[simp] def lentMacAddress : Option UInt64 := interface.macAddress.map (·.value)

end NATInterface

namespace DNS

variable (dns : DNS)

@[simp] def nameserversLen : Nat := dns.nameservers.length
@[simp] def nameserversAt : Nat → Crossing String := indexed dns.nameservers
@[simp] def searchDomainsLen : Nat := dns.searchDomains.length
@[simp] def searchDomainsAt : Nat → Crossing String := indexed dns.searchDomains
@[simp] def optionsLen : Nat := dns.options.length
@[simp] def optionsAt : Nat → Crossing String := indexed dns.options

end DNS

@[simp] def HostsEntry.hostnamesLen (entry : HostsEntry) : Nat := entry.hostnames.length
@[simp] def HostsEntry.hostnamesAt (entry : HostsEntry) : Nat → Crossing String :=
  indexed entry.hostnames
@[simp] def Hosts.entriesLen (hosts : Hosts) : Nat := hosts.entries.length
@[simp] def Hosts.entriesAt (hosts : Hosts) : Nat → Crossing HostsEntry := indexed hosts.entries

section Interfaces

variable [External]

def interfaceKind : Interface → InterfaceKind
  | .nat _ => .nat
  | .vmnet _ => .vmnet

def natInterface : Interface → Crossing NATInterface
  | .nat interface => .ok interface
  | .vmnet _ => .error (.panic "Swift asks for a NAT interface only of its kind")

def vmnetInterface : Interface → Crossing CzVmnetInterface
  | .vmnet handle => .ok handle.duplicate
  | .nat _ => .error (.panic "Swift asks for a vmnet interface only of its kind")

/-- A `NATInterface` built from its IPv4 fields. Swift sets its IPv6 ones afterwards. -/
def nat (ipv4Address : UInt32) (ipv4Prefix : UInt8) (ipv4Gateway : Option UInt32)
    (macAddress : Option UInt64) (mtu : UInt32) : Interface :=
  .nat {
    ipv4Address := { address := ⟨ipv4Address⟩, netPrefix := ⟨ipv4Prefix⟩ }
    ipv4Gateway := ipv4Gateway.map IPv4Address.mk
    ipv6Address := none
    ipv6Gateway := none
    macAddress := macAddress.map MACAddress.mk
    mtu }

/-- Changes the last interface, which panics unless it is a NAT interface. -/
def lastNat (interfaces : List Interface) (change : NATInterface → NATInterface) :
    Crossing (List Interface) :=
  match interfaces.getLast? with
  | some (.nat interface) => .ok (interfaces.dropLast ++ [.nat (change interface)])
  | _ => .error (.panic "Swift sets an interface's IPv6 addresses only after push_interface")

def setIpv6Address (interfaces : List Interface) (high low : UInt64) (zone : Option String)
    (length : UInt8) : Crossing (List Interface) :=
  lastNat interfaces fun interface => { interface with
    ipv6Address := some { address := .fromHalves high low zone, netPrefix := ⟨length⟩ } }

def setIpv6Gateway (interfaces : List Interface) (high low : UInt64) (zone : Option String) :
    Crossing (List Interface) :=
  lastNat interfaces fun interface => { interface with
    ipv6Gateway := some (.fromHalves high low zone) }

@[simp] theorem lastNat_append (interfaces : List Interface) (interface : NATInterface)
    (change : NATInterface → NATInterface) :
    lastNat (interfaces ++ [.nat interface]) change =
      .ok (interfaces ++ [.nat (change interface)]) := by
  simp [lastNat]

end Interfaces

/-- Swift calls this only after `setHosts`. -/
def pushHostsEntry (hosts : Option Hosts) (ipAddress : String) (hostnames : List String)
    (comment : Option String) : Crossing (Option Hosts) :=
  match hosts with
  | some hosts =>
    .ok (some { hosts with entries := hosts.entries ++ [{ ipAddress, hostnames, comment }] })
  | none => .error (.panic "Swift adds a hosts entry only after set_hosts")

/-! ### Boot log and seccomp -/

/-- `BootLog`, by its path or by the descriptor the caller set. -/
inductive BootLog where
  | file (path : PathBuf) (append : Bool)
  | fileHandle (descriptor : Int32)

namespace BootLog

def kind : BootLog → BootLogKind
  | .file .. => .file
  | .fileHandle _ => .fileHandle

/-- The file's path, empty unless the kind is `File`, and `None` if it isn't UTF-8. -/
def path : BootLog → Option String
  | .file path _ => path.path
  | .fileHandle _ => some ""

def lossyPath [Runtime] : BootLog → String
  | .file path _ => path.lossyPath
  | .fileHandle _ => ""

def append : BootLog → Bool
  | .file _ append => append
  | .fileHandle _ => false

/-- The descriptor, which is `-1` unless the kind is `FileHandle`. -/
def descriptor : BootLog → Int32
  | .fileHandle descriptor => descriptor
  | .file .. => -1

end BootLog

inductive SeccompProfile where
  | unconfined
  | default
  | profile (profile : LinuxSeccomp)

/-- `profile` holds the `LinuxSeccomp` of a `Profile`, or `Absent`. -/
def seccompProfile [Runtime] (mode : SeccompMode) (profile : CzOutcome) :
    Crossing SeccompProfile :=
  match mode with
  | .unconfined => .ok .unconfined
  | .default => .ok .default
  | .profile => return .profile (← profile.seccomp)

def seccompMode : SeccompProfile → SeccompMode
  | .unconfined => .unconfined
  | .default => .default
  | .profile _ => .profile

def customSeccomp : SeccompProfile → Crossing LinuxSeccomp
  | .profile profile => .ok profile
  | _ => .error (.panic "Swift asks for the profile only when the mode is `Profile`")

/-! ### Mounts -/

inductive RuntimeOptions where
  | virtioblk (options : List String)
  | virtiofs (options : List String)
  /-- A shared pod volume, and the path within it to bind, if there is one. -/
  | shared (subpath : Option String)
  | any (options : List String)

structure Mount where
  type : String
  source : String
  destination : String
  options : List String
  runtimeOptions : RuntimeOptions

/-- The `RuntimeOptions` of a kind. A `Shared` mount's subpath, if any, is its only option. -/
def runtimeOptionsOf (kind : RuntimeKind) (options : List String) : RuntimeOptions :=
  match kind with
  | .virtioblk => .virtioblk options
  | .virtiofs => .virtiofs options
  | .shared => .shared options.head?
  | .generic => .any options

namespace Mount

variable (mount : Mount)

@[simp] def optionsLen : Nat := mount.options.length
@[simp] def optionsAt : Nat → Crossing String := indexed mount.options

def runtimeKind : RuntimeKind :=
  match mount.runtimeOptions with
  | .virtioblk _ => .virtioblk
  | .virtiofs _ => .virtiofs
  | .shared _ => .shared
  | .any _ => .generic

/-- What the runtime options carry, whatever their kind. -/
def runtimeOptionValues : List String :=
  match mount.runtimeOptions with
  | .virtioblk options | .virtiofs options | .any options => options
  | .shared subpath => subpath.toList

@[simp] def runtimeOptionsLen : Nat := mount.runtimeOptionValues.length
@[simp] def runtimeOptionsAt : Nat → Crossing String := indexed mount.runtimeOptionValues

end Mount

/-! ### What a container's and a pod's configuration share -/

variable [External]

/-- The fields that `network_setters!`, `boot_log_setters!`, `seccomp_accessors!` and
`interface_getters!` write accessors for. -/
structure Sandbox where
  interfaces : List Interface
  dns : Option DNS
  hosts : Option Hosts
  bootLog : Option BootLog
  seccompProfile : SeccompProfile

/-- A configuration with those fields, which one `fill` serves. -/
class FilledSandbox (α : Type) where
  sandbox : α → Sandbox
  setSandbox : α → Sandbox → α
  sandbox_setSandbox : ∀ built sandbox', sandbox (setSandbox built sandbox') = sandbox'
  setSandbox_setSandbox : ∀ built first second,
    setSandbox (setSandbox built first) second = setSandbox built second

export FilledSandbox (sandbox setSandbox)

attribute [simp] FilledSandbox.sandbox_setSandbox FilledSandbox.setSandbox_setSandbox

namespace FilledSandbox

variable {α : Type} [FilledSandbox α] (built : α)

@[simp] def interfacesLen : Nat := (sandbox built).interfaces.length
@[simp] def interfaceKindAt (index : Nat) : Crossing InterfaceKind := do
  return interfaceKind (← indexed (sandbox built).interfaces index)
@[simp] def natInterfaceAt (index : Nat) : Crossing NATInterface := do
  natInterface (← indexed (sandbox built).interfaces index)
@[simp] def vmnetInterfaceAt (index : Nat) : Crossing CzVmnetInterface := do
  vmnetInterface (← indexed (sandbox built).interfaces index)

@[simp] def clearInterfaces : α := setSandbox built { sandbox built with interfaces := [] }
@[simp] def pushInterface (ipv4Address : UInt32) (ipv4Prefix : UInt8)
    (ipv4Gateway : Option UInt32) (macAddress : Option UInt64) (mtu : UInt32) : α :=
  setSandbox built { sandbox built with
    interfaces := (sandbox built).interfaces ++
      [nat ipv4Address ipv4Prefix ipv4Gateway macAddress mtu] }
@[simp] def pushVmnetInterface (handle : CzVmnetInterface) : α :=
  setSandbox built { sandbox built with
    interfaces := (sandbox built).interfaces ++ [.vmnet handle] }
@[simp] def setInterfaceIpv6Address (high low : UInt64) (zone : Option String) (length : UInt8) :
    Crossing α := do
  return setSandbox built { sandbox built with
    interfaces := ← setIpv6Address (sandbox built).interfaces high low zone length }
@[simp] def setInterfaceIpv6Gateway (high low : UInt64) (zone : Option String) : Crossing α := do
  return setSandbox built { sandbox built with
    interfaces := ← setIpv6Gateway (sandbox built).interfaces high low zone }
@[simp] def clearDns : α := setSandbox built { sandbox built with dns := none }
@[simp] def setDns (nameservers : List String) (domain : Option String)
    (searchDomains options : List String) : α :=
  setSandbox built { sandbox built with
    dns := some { nameservers, domain, searchDomains, options } }
@[simp] def clearHosts : α := setSandbox built { sandbox built with hosts := none }
@[simp] def setHosts (comment : Option String) : α :=
  setSandbox built { sandbox built with hosts := some { entries := [], comment } }
@[simp] def pushHostsEntry (ipAddress : String) (hostnames : List String)
    (comment : Option String) : Crossing α := do
  return setSandbox built { sandbox built with
    hosts := ← Rust.pushHostsEntry (sandbox built).hosts ipAddress hostnames comment }
@[simp] def clearBootLog : α := setSandbox built { sandbox built with bootLog := none }
@[simp] def setBootLogFile (path : String) (append : Bool) : α :=
  setSandbox built { sandbox built with bootLog := some (.file (.from path) append) }
@[simp] def setBootLogFileHandle (descriptor : Int32) : α :=
  setSandbox built { sandbox built with bootLog := some (.fileHandle descriptor) }
@[simp] def setSeccompProfile [Runtime] (mode : SeccompMode) (profile : CzOutcome) :
    Crossing α := do
  return setSandbox built { sandbox built with
    seccompProfile := ← Rust.seccompProfile mode profile }

end FilledSandbox

/-! ### Container -/

/-- A socket relay, which Rust keeps as Swift's value. -/
structure UnixSocketConfiguration where
  handle : CzUnixSocketConfiguration

/-- `linux_container::Configuration`. -/
structure Configuration where
  process : LinuxProcessConfiguration
  cpus : UInt32
  memoryInBytes : UInt64
  hostname : Option String
  sysctl : BTreeMap String
  interfaces : List Interface
  sockets : List UnixSocketConfiguration
  mounts : List Mount
  maskedPaths : List String
  readonlyPaths : List String
  dns : Option DNS
  hosts : Option Hosts
  virtualization : Bool
  bootLog : Option BootLog
  ociRuntimePath : Option String
  seccompProfile : SeccompProfile
  useInit : Bool
  unified : BTreeMap String

instance : FilledSandbox Configuration where
  sandbox configuration := {
    interfaces := configuration.interfaces
    dns := configuration.dns
    hosts := configuration.hosts
    bootLog := configuration.bootLog
    seccompProfile := configuration.seccompProfile }
  setSandbox configuration sandbox := { configuration with
    interfaces := sandbox.interfaces
    dns := sandbox.dns
    hosts := sandbox.hosts
    bootLog := sandbox.bootLog
    seccompProfile := sandbox.seccompProfile }
  sandbox_setSandbox _ _ := rfl
  setSandbox_setSandbox _ _ _ := rfl

namespace Configuration

variable (configuration : Configuration)

@[simp] def setCpus (cpus : UInt32) := { configuration with cpus }
@[simp] def setMemoryInBytes (memoryInBytes : UInt64) := { configuration with memoryInBytes }
@[simp] def setHostname (hostname : Option String) := { configuration with hostname }
@[simp] def setMaskedPaths (maskedPaths : List String) := { configuration with maskedPaths }
@[simp] def setReadonlyPaths (readonlyPaths : List String) := { configuration with readonlyPaths }
@[simp] def setVirtualization (virtualization : Bool) := { configuration with virtualization }
@[simp] def setOciRuntimePath (ociRuntimePath : Option String) :=
  { configuration with ociRuntimePath }
@[simp] def setUseInit (useInit : Bool) := { configuration with useInit }
@[simp] def clearSysctl := { configuration with sysctl := ∅ }
@[simp] def clearUnified := { configuration with unified := ∅ }
@[simp] def clearSockets := { configuration with sockets := [] }
@[simp] def clearMounts := { configuration with mounts := [] }
@[simp] def insertSysctl (key value : String) :=
  { configuration with sysctl := configuration.sysctl.insert key value }
@[simp] def insertUnified (key value : String) :=
  { configuration with unified := configuration.unified.insert key value }
@[simp] def pushSocket (socket : CzUnixSocketConfiguration) : Configuration :=
  { configuration with sockets := configuration.sockets ++ [⟨socket⟩] }
@[simp] def pushMount (type source destination : String) (options : List String)
    (kind : RuntimeKind) (runtimeOptions : List String) : Configuration :=
  { configuration with
    mounts := configuration.mounts ++ [{
      type, source, destination, options
      runtimeOptions := runtimeOptionsOf kind runtimeOptions }] }

@[simp] def sysctlLen : Nat := configuration.sysctl.size
@[simp] def sysctlKeyAt : Nat → Crossing String := keyAt configuration.sysctl
@[simp] def sysctlValueAt : Nat → Crossing String := valueAt configuration.sysctl
@[simp] def socketsLen : Nat := configuration.sockets.length
@[simp] def socketsAt (index : Nat) : Crossing CzUnixSocketConfiguration := do
  return (← indexed configuration.sockets index).handle.duplicate
@[simp] def mountsLen : Nat := configuration.mounts.length
@[simp] def mountsAt : Nat → Crossing Mount := indexed configuration.mounts
@[simp] def maskedPathsLen : Nat := configuration.maskedPaths.length
@[simp] def maskedPathsAt : Nat → Crossing String := indexed configuration.maskedPaths
@[simp] def readonlyPathsLen : Nat := configuration.readonlyPaths.length
@[simp] def readonlyPathsAt : Nat → Crossing String := indexed configuration.readonlyPaths
@[simp] def hasDns : Bool := configuration.dns.isSome
@[simp] def lentDns : Crossing DNS := present configuration.dns
@[simp] def hasHosts : Bool := configuration.hosts.isSome
@[simp] def lentHosts : Crossing Hosts := present configuration.hosts
@[simp] def hasBootLog : Bool := configuration.bootLog.isSome
@[simp] def lentBootLog : Crossing BootLog := present configuration.bootLog
@[simp] def unifiedLen : Nat := configuration.unified.size
@[simp] def unifiedKeyAt : Nat → Crossing String := keyAt configuration.unified
@[simp] def unifiedValueAt : Nat → Crossing String := valueAt configuration.unified
@[simp] def lentSeccompMode : SeccompMode := seccompMode configuration.seccompProfile
@[simp] def lentSeccompProfile : Crossing LinuxSeccomp :=
  customSeccomp configuration.seccompProfile

end Configuration

/-! ### Pod -/

/-- `pod_volume::Source`. -/
inductive PodVolumeSource where
  | nbd (url : String) (timeout : Option Duration) (readOnly : Bool)
  | diskImage (path : PathBuf) (readOnly : Bool)
  | tmpfs (sizeBytes : Option UInt64)

structure PodVolume where
  name : String
  source : PodVolumeSource
  format : String

/-- `linux_pod::Configuration`. -/
structure PodConfiguration where
  interfaces : List Interface
  virtualization : Bool
  bootLog : Option BootLog
  shareProcessNamespace : Bool
  hostname : Option String
  dns : Option DNS
  hosts : Option Hosts
  volumes : List PodVolume
  ociRuntimePath : Option String
  seccompProfile : SeccompProfile

instance : FilledSandbox PodConfiguration where
  sandbox configuration := {
    interfaces := configuration.interfaces
    dns := configuration.dns
    hosts := configuration.hosts
    bootLog := configuration.bootLog
    seccompProfile := configuration.seccompProfile }
  setSandbox configuration sandbox := { configuration with
    interfaces := sandbox.interfaces
    dns := sandbox.dns
    hosts := sandbox.hosts
    bootLog := sandbox.bootLog
    seccompProfile := sandbox.seccompProfile }
  sandbox_setSandbox _ _ := rfl
  setSandbox_setSandbox _ _ _ := rfl

namespace PodVolume

variable (volume : PodVolume)

def sourceKind : PodVolumeKind :=
  match volume.source with
  | .nbd .. => .nbd
  | .diskImage .. => .diskImage
  | .tmpfs .. => .tmpfs

/-- An `nbd` source's URL or a `diskImage`'s path, and empty for a `tmpfs`. It is `None` if a
`diskImage`'s path isn't UTF-8. -/
def location : Option String :=
  match volume.source with
  | .nbd url .. => some url
  | .diskImage path _ => path.path
  | .tmpfs _ => some ""

def lossyLocation [Runtime] : String :=
  match volume.source with
  | .nbd url .. => url
  | .diskImage path _ => path.lossyPath
  | .tmpfs _ => ""

/-- An `nbd` source's timeout, in seconds. -/
def timeout : Option F64 :=
  match volume.source with
  | .nbd _ timeout _ => timeout.map Duration.asSecsF64
  | _ => none

def readOnly : Bool :=
  match volume.source with
  | .nbd _ _ readOnly | .diskImage _ readOnly => readOnly
  | .tmpfs _ => false

/-- A `tmpfs` source's size. -/
def sizeBytes : Option UInt64 :=
  match volume.source with
  | .tmpfs sizeBytes => sizeBytes
  | _ => none

end PodVolume

namespace PodConfiguration

variable (configuration : PodConfiguration)

@[simp] def setVirtualization (virtualization : Bool) := { configuration with virtualization }
@[simp] def setShareProcessNamespace (shareProcessNamespace : Bool) :=
  { configuration with shareProcessNamespace }
@[simp] def setHostname (hostname : Option String) := { configuration with hostname }
@[simp] def setOciRuntimePath (ociRuntimePath : Option String) :=
  { configuration with ociRuntimePath }
@[simp] def clearVolumes := { configuration with volumes := [] }

/-- `location`, `timeout`, `readOnly` and `sizeBytes` as a volume's getters give them. -/
def pushVolume (name format : String) (kind : PodVolumeKind) (location : String)
    (timeout : Option F64) (readOnly : Bool) (sizeBytes : Option UInt64) : PodConfiguration :=
  let source : PodVolumeSource := match kind with
    | .nbd =>
      -- A `Duration` near its maximum crosses as a `Double` just above it, which is rejected.
      .nbd location (timeout.map fun seconds =>
        (Duration.tryFromSecsF64 seconds).getD Duration.max) readOnly
    | .diskImage => .diskImage (.from location) readOnly
    | .tmpfs => .tmpfs sizeBytes
  { configuration with volumes := configuration.volumes ++ [{ name, source, format }] }

@[simp] def hasBootLog : Bool := configuration.bootLog.isSome
@[simp] def lentBootLog : Crossing BootLog := present configuration.bootLog
@[simp] def hasDns : Bool := configuration.dns.isSome
@[simp] def lentDns : Crossing DNS := present configuration.dns
@[simp] def hasHosts : Bool := configuration.hosts.isSome
@[simp] def lentHosts : Crossing Hosts := present configuration.hosts
@[simp] def volumesLen : Nat := configuration.volumes.length
@[simp] def volumesAt : Nat → Crossing PodVolume := indexed configuration.volumes
@[simp] def lentSeccompMode : SeccompMode := seccompMode configuration.seccompProfile
@[simp] def lentSeccompProfile : Crossing LinuxSeccomp :=
  customSeccomp configuration.seccompProfile

end PodConfiguration

/-- `linux_pod::ContainerConfiguration`. -/
structure PodContainerConfiguration where
  process : LinuxProcessConfiguration
  cpus : UInt32
  memoryInBytes : UInt64
  hostname : Option String
  sysctl : BTreeMap String
  mounts : List Mount
  maskedPaths : List String
  readonlyPaths : List String
  sockets : List UnixSocketConfiguration
  dns : Option DNS
  hosts : Option Hosts
  /-- `None` uses the pod's profile. -/
  seccompProfile : Option SeccompProfile
  useInit : Bool
  unified : BTreeMap String

namespace PodContainerConfiguration

variable (configuration : PodContainerConfiguration)

@[simp] def sysctlLen : Nat := configuration.sysctl.size
@[simp] def sysctlKeyAt : Nat → Crossing String := keyAt configuration.sysctl
@[simp] def sysctlValueAt : Nat → Crossing String := valueAt configuration.sysctl
@[simp] def mountsLen : Nat := configuration.mounts.length
@[simp] def mountsAt : Nat → Crossing Mount := indexed configuration.mounts
@[simp] def maskedPathsLen : Nat := configuration.maskedPaths.length
@[simp] def maskedPathsAt : Nat → Crossing String := indexed configuration.maskedPaths
@[simp] def readonlyPathsLen : Nat := configuration.readonlyPaths.length
@[simp] def readonlyPathsAt : Nat → Crossing String := indexed configuration.readonlyPaths
@[simp] def socketsLen : Nat := configuration.sockets.length
@[simp] def socketsAt (index : Nat) : Crossing CzUnixSocketConfiguration := do
  return (← indexed configuration.sockets index).handle.duplicate
@[simp] def hasDns : Bool := configuration.dns.isSome
@[simp] def lentDns : Crossing DNS := present configuration.dns
@[simp] def hasHosts : Bool := configuration.hosts.isSome
@[simp] def lentHosts : Crossing Hosts := present configuration.hosts
@[simp] def hasSeccompProfile : Bool := configuration.seccompProfile.isSome
@[simp] def lentSeccompMode : Crossing SeccompMode := do
  return seccompMode (← present configuration.seccompProfile)
@[simp] def lentSeccompProfile : Crossing LinuxSeccomp := do
  customSeccomp (← present configuration.seccompProfile)
@[simp] def unifiedLen : Nat := configuration.unified.size
@[simp] def unifiedKeyAt : Nat → Crossing String := keyAt configuration.unified
@[simp] def unifiedValueAt : Nat → Crossing String := valueAt configuration.unified

end PodContainerConfiguration

end Rust

end ContainerBridge
