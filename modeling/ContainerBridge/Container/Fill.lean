import ContainerBridge.Container.Swift

/-! How Swift fills a value Rust lends with a configuration of its own: setter by setter, and an
element at a time where Rust holds a list. -/

namespace ContainerBridge

variable [Runtime] [External]

namespace Swift

def pushRlimit (built : Rust.LinuxProcessConfiguration) (rlimit : LinuxRLimit) :
    Crossing Rust.LinuxProcessConfiguration := do
  return built.pushRlimit (← rlimit.kind.toBridge) rlimit.hard rlimit.soft

/-- `process` into Rust's, all but stdio: Swift's streams don't cross back. -/
def LinuxProcessConfiguration.fill (built : Rust.LinuxProcessConfiguration)
    (process : LinuxProcessConfiguration) : Crossing Rust.LinuxProcessConfiguration := do
  let user := process.user
  let capabilities := process.capabilities
  let built := built.setArguments process.arguments
  let built := built.setEnvironmentVariables process.environmentVariables
  let built := built.setWorkingDirectory process.workingDirectory
  let built := built.setUser user.uid user.gid user.umask user.additionalGids user.username
  let built := built.setNoNewPrivileges process.noNewPrivileges
  let built ← built.setCapabilities
    (capabilities.bounding.map (·.description))
    (capabilities.effective.map (·.description))
    (capabilities.inheritable.map (·.description))
    (capabilities.permitted.map (·.description))
    (capabilities.ambient.map (·.description))
  let built := built.setTerminal process.terminal
  let built := built.clearRlimits
  process.rlimits.foldlM pushRlimit built

open Rust (FilledSandbox)
open Rust.FilledSandbox hiding pushInterface pushHostsEntry

variable {α : Type} [FilledSandbox α]

/-- Any type but `VmnetNetwork.Interface` crosses as a `NATInterface` of its fields. -/
def pushInterface (built : α) : Interface → Crossing α
  | .vmnet interface => return pushVmnetInterface built ⟨interface⟩
  | .nat { toInterfaceFields := fields } | .other fields => do
    let built := Rust.FilledSandbox.pushInterface built
      fields.ipv4Address.address.value
      fields.ipv4Address.netPrefix.length
      (fields.ipv4Gateway.map (·.value))
      (fields.macAddress.map (·.value))
      fields.mtu
    let built ← match fields.ipv6Address with
      | some cidr =>
        setInterfaceIpv6Address built cidr.address.high cidr.address.low cidr.address.zone
          cidr.netPrefix.length
      | none => pure built
    match fields.ipv6Gateway with
      | some gateway => setInterfaceIpv6Gateway built gateway.high gateway.low gateway.zone
      | none => pure built

def pushHostsEntry (built : α) (entry : HostsEntry) : Crossing α :=
  Rust.FilledSandbox.pushHostsEntry built entry.ipAddress entry.hostnames entry.comment

/-- The parts a container's and a pod's configuration share, into Rust's, replacing whatever it
held. -/
def fillSandbox (built : α) (interfaces : List Interface) (dns : Option DNS) (hosts : Option Hosts)
    (bootLog : Option BootLog) (seccompProfile : SeccompProfile) : Crossing α := do
  let built := clearInterfaces built
  let built := clearDns built
  let built := clearHosts built
  let built := clearBootLog built
  let built ← interfaces.foldlM pushInterface built
  let built := match dns with
    | some dns => setDns built dns.nameservers dns.domain dns.searchDomains dns.options
    | none => built
  let built ← match hosts with
    | some hosts => hosts.entries.foldlM pushHostsEntry (setHosts built hosts.comment)
    | none => pure built
  let built := match bootLog with
    | some (.file path append) => setBootLogFile built (External.path path) append
    | some (.fileHandle handle) => setBootLogFileHandle built (lentDescriptor handle)
    | none => built
  match seccompProfile with
    | .unconfined => setSeccompProfile built .unconfined (.holding (none : Option LinuxSeccomp))
    | .default => setSeccompProfile built .default (.holding (none : Option LinuxSeccomp))
    | .profile profile => setSeccompProfile built .profile (.holding (some profile))

/-- `sorted(by: { $0.key < $1.key })`. -/
def sortedByKey (entries : List (String × String)) : List (String × String) :=
  entries.mergeSort fun a b => canonical a.1 ≤ canonical b.1

/-- The kind of a mount's runtime options, and the options. -/
def runtimeKind : RuntimeOptions → RuntimeKind × List String
  | .virtioblk options => (.virtioblk, options)
  | .virtiofs options => (.virtiofs, options)
  | .shared subpath => (.shared, subpath.toList)
  | .any options => (.generic, options)

def pushSocket (built : Rust.Configuration) (socket : UnixSocketConfiguration) :
    Rust.Configuration :=
  built.pushSocket ⟨socket⟩

def pushMount (built : Rust.Configuration) (mount : Mount) : Rust.Configuration :=
  let (kind, options) := runtimeKind mount.runtimeOptions
  built.pushMount mount.type mount.source mount.destination mount.options kind options

/-- `UInt32(_:)` of an `Int`, which traps out of range. -/
def uint32 (value : Isize) : Crossing UInt32 :=
  if 0 ≤ value.toInt ∧ value.toInt < 2 ^ 32 then .ok (.ofNat value.toInt.toNat)
  else .error (.trap "Not enough bits to represent the passed value")

/-- `configuration` into Rust's, replacing whatever it held. -/
def Configuration.fill (built : Rust.Configuration) (configuration : Configuration) :
    Crossing Rust.Configuration := do
  let built := { built with process := ← configuration.process.fill built.process }
  let built := built.setCpus (← uint32 configuration.cpus)
  let built := built.setMemoryInBytes configuration.memoryInBytes
  let built := built.setHostname configuration.hostname
  let built := built.setMaskedPaths configuration.maskedPaths
  let built := built.setReadonlyPaths configuration.readonlyPaths
  let built := built.setVirtualization configuration.virtualization
  let built := built.setOciRuntimePath configuration.ociRuntimePath
  let built := built.setUseInit configuration.useInit
  let built := built.clearSysctl
  let built := built.clearUnified
  let built := built.clearSockets
  let built := built.clearMounts
  let built := (sortedByKey configuration.sysctl.entries).foldl
    (fun built entry => built.insertSysctl entry.1 entry.2) built
  let built := (sortedByKey configuration.unified.entries).foldl
    (fun built entry => built.insertUnified entry.1 entry.2) built
  let built ← fillSandbox built configuration.interfaces configuration.dns configuration.hosts
    configuration.bootLog configuration.seccompProfile
  let built := configuration.sockets.foldl pushSocket built
  return configuration.mounts.foldl pushMount built

/-- A volume's name and format, and what its source crosses as. -/
def pushVolume (built : Rust.PodConfiguration) (volume : PodVolume) : Rust.PodConfiguration :=
  match volume.source with
  | .nbd url timeout readOnly =>
    built.pushVolume volume.name volume.format .nbd (External.absoluteString url) timeout readOnly
      none
  | .diskImage path readOnly =>
    built.pushVolume volume.name volume.format .diskImage (External.path path) none readOnly none
  | .tmpfs sizeBytes =>
    built.pushVolume volume.name volume.format .tmpfs "" none false sizeBytes

/-- `configuration` into Rust's, replacing whatever it held. -/
def PodConfiguration.fill (built : Rust.PodConfiguration) (configuration : PodConfiguration) :
    Crossing Rust.PodConfiguration := do
  let built := built.setVirtualization configuration.virtualization
  let built := built.setShareProcessNamespace configuration.shareProcessNamespace
  let built := built.setHostname configuration.hostname
  let built := built.setOciRuntimePath configuration.ociRuntimePath
  let built := built.clearVolumes
  let built ← fillSandbox built configuration.interfaces configuration.dns configuration.hosts
    configuration.bootLog configuration.seccompProfile
  return configuration.volumes.foldl pushVolume built

end Swift

end ContainerBridge
