import ContainerBridge.Container.Rust

/-! The configurations as Swift holds them, and the initialisers that read Rust's. Each stream of a
process is made over a duplicate of Rust's descriptor. -/

namespace ContainerBridge

variable [Runtime] [External]

namespace Swift

/-! ### Process -/

/-- A descriptor the guest reads. -/
structure FileReader where
  handle : FileHandle

/-- A descriptor the guest writes. It is known by its handle's object. -/
structure FileWriter where
  handle : FileHandle
  deriving DecidableEq

/-- `any ReaderStream`: the bridge's, or one of another type. -/
inductive ReaderStream where
  | file (reader : FileReader)
  | other (object : Nat)

/-- `any Writer`: the bridge's, or one of another type. -/
inductive Writer where
  | file (writer : FileWriter)
  | other (object : Nat)

structure LinuxCapabilities where
  bounding : List CapabilityName
  effective : List CapabilityName
  inheritable : List CapabilityName
  permitted : List CapabilityName
  ambient : List CapabilityName

structure LinuxRLimit where
  kind : LinuxRLimitKind
  hard : UInt64
  soft : UInt64

structure LinuxProcessConfiguration where
  arguments : List String
  environmentVariables : List String
  workingDirectory : String
  user : User
  rlimits : List LinuxRLimit
  noNewPrivileges : Bool
  capabilities : LinuxCapabilities
  terminal : Bool
  stdin : Option ReaderStream
  stdout : Option Writer
  stderr : Option Writer

/-- `CapabilityName(rawValue:)`. -/
def capabilityName (rawValue : String) : Crossing CapabilityName :=
  (External.capabilityName rawValue).mapError .thrown

omit [Runtime] in
@[simp] theorem capabilityName_description (name : CapabilityName) :
    capabilityName name.description = .ok name := by
  rw [capabilityName, External.capabilityName_description]
  rfl

def LinuxCapabilities.init (capabilities : Rust.LinuxCapabilities) :
    Crossing LinuxCapabilities := do
  let names (set : CapabilitySet) : Crossing (List CapabilityName) :=
    list (capabilities.setLen set) fun index => do
      capabilityName (← capabilities.setAt set index)
  return {
    bounding := ← names .bounding
    effective := ← names .effective
    inheritable := ← names .inheritable
    permitted := ← names .permitted
    ambient := ← names .ambient }

/-- The writer of a stream's descriptor, if it has one. -/
def writer [Host] (stream : Stream) (descriptor : Option Int32) : Crossing (Option Writer) :=
  descriptor.mapM fun descriptor => do return .file ⟨← duplicate stream descriptor⟩

def LinuxProcessConfiguration.init [Host] (process : Rust.LinuxProcessConfiguration) :
    Crossing LinuxProcessConfiguration := do
  let stdout ← writer .stdout process.stdout
  let stderr ← (if process.stderr = process.stdout then pure stdout
    else writer .stderr process.stderr)
  return {
    arguments := ← strings process.argumentsLen process.argumentsAt
    environmentVariables :=
      ← strings process.environmentVariablesLen process.environmentVariablesAt
    workingDirectory := process.workingDirectory
    user := ← User.init process.user
    rlimits := ← list process.rlimitsLen fun index => do
      let kind ← process.rlimitKindAt index
      return {
        kind := ← LinuxRLimitKind.ofBridge kind
        hard := ← process.rlimitHardAt index
        soft := ← process.rlimitSoftAt index }
    noNewPrivileges := process.noNewPrivileges
    capabilities := ← LinuxCapabilities.init process.capabilities
    terminal := process.terminal
    stdin := ← process.stdin.mapM fun descriptor => do
      return .file ⟨← duplicate .stdin descriptor⟩
    stdout
    stderr }

/-! ### Network -/

structure NATInterface extends InterfaceFields

/-- `any Interface`: a type the bridge knows, or another that conforms. -/
inductive Interface where
  | nat (interface : NATInterface)
  | vmnet (interface : VmnetInterface)
  | other (fields : InterfaceFields)

def Interface.fields : Interface → InterfaceFields
  | .nat interface => interface.toInterfaceFields
  | .vmnet interface => interface.toInterfaceFields
  | .other fields => fields

structure DNS where
  nameservers : List String
  domain : Option String
  searchDomains : List String
  options : List String

structure HostsEntry where
  ipAddress : String
  hostnames : List String
  comment : Option String

structure Hosts where
  entries : List HostsEntry
  comment : Option String

def NATInterface.init (interface : Rust.NATInterface) : Crossing NATInterface := do
  return {
    ipv4Address := ← CIDRv4.init interface.ipv4AddressValue interface.ipv4Prefix
    ipv4Gateway := interface.lentIpv4Gateway.map IPv4Address.mk
    ipv6Address := ← ifPresent interface.hasIpv6Address do
      CIDRv6.init (← interface.lentIpv6Address) (← interface.ipv6Prefix)
    ipv6Gateway := ← ifPresent interface.hasIpv6Gateway do
      return IPv6Address.init (← interface.lentIpv6Gateway)
    macAddress := interface.lentMacAddress.map MACAddress.mk
    mtu := interface.mtu }

def DNS.init (dns : Rust.DNS) : Crossing DNS := do
  return {
    nameservers := ← strings dns.nameserversLen dns.nameserversAt
    domain := dns.domain
    searchDomains := ← strings dns.searchDomainsLen dns.searchDomainsAt
    options := ← strings dns.optionsLen dns.optionsAt }

def HostsEntry.init (entry : Rust.HostsEntry) : Crossing HostsEntry := do
  return {
    ipAddress := entry.ipAddress
    hostnames := ← strings entry.hostnamesLen entry.hostnamesAt
    comment := entry.comment }

def Hosts.init (hosts : Rust.Hosts) : Crossing Hosts := do
  let entries ← list hosts.entriesLen hosts.entriesAt
  return {
    entries := ← entries.mapM HostsEntry.init
    comment := hosts.comment }

/-- The interfaces Rust lends by index, each as the conforming type it is. -/
def lentInterfaces (count : Nat) (kind : Nat → Crossing InterfaceKind)
    (nat : Nat → Crossing Rust.NATInterface) (vmnet : Nat → Crossing CzVmnetInterface) :
    Crossing (List Interface) :=
  list count fun index => do
    match ← kind index with
    | .nat => return .nat (← NATInterface.init (← nat index))
    | .vmnet => return .vmnet (← vmnet index).interface

/-! ### Boot log, seccomp and mounts -/

inductive BootLog where
  | file (path : External.URL) (append : Bool)
  | fileHandle (handle : FileHandle)

def BootLog.from [Host] (bootLog : Rust.BootLog) : Crossing BootLog :=
  match bootLog.kind with
  | .file => return .file (← lentPath bootLog.path "boot log" bootLog.lossyPath) bootLog.append
  | .fileHandle => return .fileHandle (← duplicateBootLog bootLog.descriptor)

inductive SeccompProfile where
  | unconfined
  | default
  | profile (profile : LinuxSeccomp)

/-- A seccomp profile Rust lends as its mode, and the custom profile when the mode is `Profile`. -/
def lentSeccompProfile (mode : SeccompMode) (profile : Crossing Rust.LinuxSeccomp) :
    Crossing SeccompProfile :=
  match mode with
  | .unconfined => .ok .unconfined
  | .default => .ok .default
  | .profile => return .profile (← LinuxSeccomp.init (← profile))

inductive RuntimeOptions where
  | virtioblk (options : List String)
  | virtiofs (options : List String)
  | shared (subpath : Option String)
  | any (options : List String)

structure Mount where
  type : String
  source : String
  destination : String
  options : List String
  runtimeOptions : RuntimeOptions

def Mount.init (mount : Rust.Mount) : Crossing Mount := do
  let options ← strings mount.runtimeOptionsLen mount.runtimeOptionsAt
  let runtimeOptions : RuntimeOptions := match mount.runtimeKind with
    | .virtioblk => .virtioblk options
    | .virtiofs => .virtiofs options
    | .shared => .shared options.head?
    | .generic => .any options
  return {
    type := mount.type
    source := mount.source
    destination := mount.destination
    options := ← strings mount.optionsLen mount.optionsAt
    runtimeOptions }

/-! ### Container -/

/-- `LinuxContainer.Configuration`, and in `unbridged` its fields that the bridge does not carry. -/
structure Configuration where
  process : LinuxProcessConfiguration
  cpus : Isize
  memoryInBytes : UInt64
  hostname : Option String
  sysctl : Dictionary String
  interfaces : List Interface
  sockets : List UnixSocketConfiguration
  mounts : List Mount
  maskedPaths : List String
  readonlyPaths : List String
  dns : Option DNS
  hosts : Option Hosts
  virtualization : Bool
  bootLog : Option BootLog
  ociRuntimePath : Option String
  seccompProfile : SeccompProfile
  useInit : Bool
  unified : Dictionary String
  unbridged : External.ContainerFields

/-- `Int(_:)` of a `UInt32`. -/
def int (value : UInt32) : Isize := .ofInt value.toNat

def Configuration.init [Host] (configuration : Rust.Configuration) : Crossing Configuration := do
  return {
    unbridged := External.containerFields
    process := ← LinuxProcessConfiguration.init configuration.process
    cpus := int configuration.cpus
    memoryInBytes := configuration.memoryInBytes
    hostname := configuration.hostname
    sysctl := ← dictionary configuration.sysctlLen configuration.sysctlKeyAt
      configuration.sysctlValueAt
    interfaces := ← lentInterfaces (Rust.FilledSandbox.interfacesLen configuration)
      (Rust.FilledSandbox.interfaceKindAt configuration)
      (Rust.FilledSandbox.natInterfaceAt configuration)
      (Rust.FilledSandbox.vmnetInterfaceAt configuration)
    sockets := ← list configuration.socketsLen fun index => do
      return (← configuration.socketsAt index).configuration
    mounts := ← list configuration.mountsLen fun index => do
      Mount.init (← configuration.mountsAt index)
    maskedPaths := ← strings configuration.maskedPathsLen configuration.maskedPathsAt
    readonlyPaths := ← strings configuration.readonlyPathsLen configuration.readonlyPathsAt
    dns := ← ifPresent configuration.hasDns do DNS.init (← configuration.lentDns)
    hosts := ← ifPresent configuration.hasHosts do Hosts.init (← configuration.lentHosts)
    virtualization := configuration.virtualization
    bootLog := ← ifPresent configuration.hasBootLog do
      BootLog.from (← configuration.lentBootLog)
    ociRuntimePath := configuration.ociRuntimePath
    seccompProfile :=
      ← lentSeccompProfile configuration.lentSeccompMode configuration.lentSeccompProfile
    useInit := configuration.useInit
    unified := ← dictionary configuration.unifiedLen configuration.unifiedKeyAt
      configuration.unifiedValueAt }

/-! ### Pod -/

/-- `LinuxPod.PodVolume.Source`. -/
inductive PodVolumeSource where
  | nbd (url : External.URL) (timeout : Option F64) (readOnly : Bool)
  | diskImage (path : External.URL) (readOnly : Bool)
  | tmpfs (sizeBytes : Option UInt64)

structure PodVolume where
  name : String
  source : PodVolumeSource
  format : String

/-- The source of the kind Rust names. -/
def PodVolumeSource.init (volume : Rust.PodVolume) : Crossing PodVolumeSource :=
  let location := volume.location
  match volume.sourceKind with
  | .nbd =>
    match location.bind External.urlOfString with
    | some url => .ok (.nbd url volume.timeout volume.readOnly)
    | none => .throw (.malformed "volume URL" volume.lossyLocation)
  | .diskImage => do
    let path ← lentPath location "volume" volume.lossyLocation
    return .diskImage path volume.readOnly
  | .tmpfs => .ok (.tmpfs volume.sizeBytes)

def PodVolume.init (volume : Rust.PodVolume) : Crossing PodVolume := do
  let source ← PodVolumeSource.init volume
  return { name := volume.name, source, format := volume.format }

/-- `LinuxPod.Configuration`, and in `unbridged` its fields that the bridge does not carry. -/
structure PodConfiguration where
  interfaces : List Interface
  virtualization : Bool
  bootLog : Option BootLog
  shareProcessNamespace : Bool
  hostname : Option String
  dns : Option DNS
  hosts : Option Hosts
  volumes : List PodVolume
  ociRuntimePath : Option String
  seccompProfile : SeccompProfile
  unbridged : External.PodFields

def PodConfiguration.init [Host] (configuration : Rust.PodConfiguration) :
    Crossing PodConfiguration := do
  return {
    unbridged := External.podFields
    interfaces := ← lentInterfaces (Rust.FilledSandbox.interfacesLen configuration)
      (Rust.FilledSandbox.interfaceKindAt configuration)
      (Rust.FilledSandbox.natInterfaceAt configuration)
      (Rust.FilledSandbox.vmnetInterfaceAt configuration)
    virtualization := configuration.virtualization
    bootLog := ← ifPresent configuration.hasBootLog do
      BootLog.from (← configuration.lentBootLog)
    shareProcessNamespace := configuration.shareProcessNamespace
    hostname := configuration.hostname
    dns := ← ifPresent configuration.hasDns do DNS.init (← configuration.lentDns)
    hosts := ← ifPresent configuration.hasHosts do Hosts.init (← configuration.lentHosts)
    volumes := ← list configuration.volumesLen fun index => do
      PodVolume.init (← configuration.volumesAt index)
    ociRuntimePath := configuration.ociRuntimePath
    seccompProfile :=
      ← lentSeccompProfile configuration.lentSeccompMode configuration.lentSeccompProfile }

/-- `LinuxPod.ContainerConfiguration`, and in `unbridged` its fields that the bridge does not
carry. -/
structure PodContainerConfiguration where
  process : LinuxProcessConfiguration
  cpus : Isize
  memoryInBytes : UInt64
  hostname : Option String
  sysctl : Dictionary String
  mounts : List Mount
  maskedPaths : List String
  readonlyPaths : List String
  sockets : List UnixSocketConfiguration
  dns : Option DNS
  hosts : Option Hosts
  seccompProfile : Option SeccompProfile
  useInit : Bool
  unified : Dictionary String
  unbridged : External.PodContainerFields

def PodContainerConfiguration.init [Host] (configuration : Rust.PodContainerConfiguration) :
    Crossing PodContainerConfiguration := do
  return {
    unbridged := External.podContainerFields
    process := ← LinuxProcessConfiguration.init configuration.process
    cpus := int configuration.cpus
    memoryInBytes := configuration.memoryInBytes
    hostname := configuration.hostname
    sysctl := ← dictionary configuration.sysctlLen configuration.sysctlKeyAt
      configuration.sysctlValueAt
    mounts := ← list configuration.mountsLen fun index => do
      Mount.init (← configuration.mountsAt index)
    maskedPaths := ← strings configuration.maskedPathsLen configuration.maskedPathsAt
    readonlyPaths := ← strings configuration.readonlyPathsLen configuration.readonlyPathsAt
    sockets := ← list configuration.socketsLen fun index => do
      return (← configuration.socketsAt index).configuration
    dns := ← ifPresent configuration.hasDns do DNS.init (← configuration.lentDns)
    hosts := ← ifPresent configuration.hasHosts do Hosts.init (← configuration.lentHosts)
    seccompProfile := ← ifPresent configuration.hasSeccompProfile do
      lentSeccompProfile (← configuration.lentSeccompMode) configuration.lentSeccompProfile
    useInit := configuration.useInit
    unified := ← dictionary configuration.unifiedLen configuration.unifiedKeyAt
      configuration.unifiedValueAt }

end Swift

end ContainerBridge
