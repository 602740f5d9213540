import ContainerBridge.Container.Fill

/-! What each `fill` leaves in Rust's value, whatever it held: the Rust value of the Swift one,
with the stdio that Rust's value had. -/

namespace ContainerBridge

open Carry

variable [Runtime] [External]

namespace Rust

def LinuxRLimitKind.ofSwift : Swift.LinuxRLimitKind → LinuxRLimitKind
  | .addressSpace => .addressSpace
  | .coreFileSize => .coreFileSize
  | .cpuTime => .cpuTime
  | .dataSize => .dataSize
  | .fileSize => .fileSize
  | .locks => .locks
  | .lockedMemory => .lockedMemory
  | .messageQueue => .messageQueue
  | .nice => .nice
  | .openFiles => .openFiles
  | .numberOfProcesses => .numberOfProcesses
  | .residentSetSize => .residentSetSize
  | .realtimePriority => .realtimePriority
  | .realtimeTimeout => .realtimeTimeout
  | .signalsPending => .signalsPending
  | .stackSize => .stackSize

def LinuxRLimit.ofSwift (rlimit : Swift.LinuxRLimit) : LinuxRLimit :=
  { kind := .ofSwift rlimit.kind, hard := rlimit.hard, soft := rlimit.soft }

def LinuxCapabilities.ofSwift (capabilities : Swift.LinuxCapabilities) : LinuxCapabilities where
  bounding := capabilities.bounding
  effective := capabilities.effective
  inheritable := capabilities.inheritable
  permitted := capabilities.permitted
  ambient := capabilities.ambient

def User.ofSwift (user : Swift.User) : User where
  uid := user.uid
  gid := user.gid
  umask := user.umask
  additionalGids := user.additionalGids
  username := user.username

/-- `process` as Rust holds it, with the stdio of `seed`. -/
def LinuxProcessConfiguration.ofSwift (seed : LinuxProcessConfiguration)
    (process : Swift.LinuxProcessConfiguration) : LinuxProcessConfiguration where
  arguments := process.arguments
  environmentVariables := process.environmentVariables
  workingDirectory := process.workingDirectory
  user := .ofSwift process.user
  rlimits := process.rlimits.map .ofSwift
  noNewPrivileges := process.noNewPrivileges
  capabilities := .ofSwift process.capabilities
  terminal := process.terminal
  stdin := seed.stdin
  stdout := seed.stdout
  stderr := seed.stderr

def NATInterface.ofSwift (fields : Swift.InterfaceFields) : NATInterface where
  ipv4Address := .ofSwift fields.ipv4Address
  ipv4Gateway := fields.ipv4Gateway.map fun gateway => ⟨gateway.value⟩
  ipv6Address := fields.ipv6Address.map .ofSwift
  ipv6Gateway := fields.ipv6Gateway.map .ofSwift
  macAddress := fields.macAddress.map fun address => ⟨address.value⟩
  mtu := fields.mtu

/-- An interface of a type the bridge does not know is a NAT interface of its fields. -/
def Interface.ofSwift : Swift.Interface → Interface
  | .vmnet interface => .vmnet ⟨interface⟩
  | .nat interface => .nat (.ofSwift interface.toInterfaceFields)
  | .other fields => .nat (.ofSwift fields)

def DNS.ofSwift (dns : Swift.DNS) : DNS where
  nameservers := dns.nameservers
  domain := dns.domain
  searchDomains := dns.searchDomains
  options := dns.options

def HostsEntry.ofSwift (entry : Swift.HostsEntry) : HostsEntry where
  ipAddress := entry.ipAddress
  hostnames := entry.hostnames
  comment := entry.comment

def Hosts.ofSwift (hosts : Swift.Hosts) : Hosts where
  entries := hosts.entries.map .ofSwift
  comment := hosts.comment

def BootLog.ofSwift : Swift.BootLog → BootLog
  | .file path append => .file (.from (External.path path)) append
  | .fileHandle handle => .fileHandle (lentDescriptor handle)

def LinuxSeccompArg.ofSwift [RawValuesCopied] (arg : Swift.LinuxSeccompArg) : LinuxSeccompArg where
  index := arg.index
  value := arg.value
  valueTwo := arg.valueTwo
  op := arg.op.toRust

def LinuxSyscall.ofSwift [RawValuesCopied] (syscall : Swift.LinuxSyscall) : LinuxSyscall where
  names := syscall.names
  action := syscall.action.toRust
  errnoRet := syscall.errnoRet
  args := syscall.args.map .ofSwift

def LinuxSeccomp.ofSwift [RawValuesCopied] (seccomp : Swift.LinuxSeccomp) : LinuxSeccomp where
  defaultAction := seccomp.defaultAction.toRust
  defaultErrnoRet := seccomp.defaultErrnoRet
  architectures := seccomp.architectures.map Case.toRust
  flags := seccomp.flags.map Case.toRust
  listenerPath := seccomp.listenerPath
  listenerMetadata := seccomp.listenerMetadata
  syscalls := seccomp.syscalls.map .ofSwift

def SeccompProfile.ofSwift [RawValuesCopied] : Swift.SeccompProfile → SeccompProfile
  | .unconfined => .unconfined
  | .default => .default
  | .profile custom => .profile (.ofSwift custom)

def RuntimeOptions.ofSwift : Swift.RuntimeOptions → RuntimeOptions
  | .virtioblk options => .virtioblk options
  | .virtiofs options => .virtiofs options
  | .shared subpath => .shared subpath
  | .any options => .any options

def Mount.ofSwift (mount : Swift.Mount) : Mount where
  type := mount.type
  source := mount.source
  destination := mount.destination
  options := mount.options
  runtimeOptions := .ofSwift mount.runtimeOptions

/-- The parts a container's and a pod's configuration share, as Rust holds them. -/
def Sandbox.ofSwift [RawValuesCopied] (interfaces : List Swift.Interface) (dns : Option Swift.DNS)
    (hosts : Option Swift.Hosts) (bootLog : Option Swift.BootLog)
    (seccompProfile : Swift.SeccompProfile) : Sandbox where
  interfaces := interfaces.map .ofSwift
  dns := dns.map .ofSwift
  hosts := hosts.map .ofSwift
  bootLog := bootLog.map .ofSwift
  seccompProfile := .ofSwift seccompProfile

/-- `configuration` as Rust holds it, with the stdio of `seed`. -/
def Configuration.ofSwift [RawValuesCopied] (seed : LinuxProcessConfiguration)
    (configuration : Swift.Configuration) : Configuration where
  process := .ofSwift seed configuration.process
  cpus := .ofNat configuration.cpus.toInt.toNat
  memoryInBytes := configuration.memoryInBytes
  hostname := configuration.hostname
  sysctl := .collect configuration.sysctl.entries
  interfaces := configuration.interfaces.map .ofSwift
  sockets := configuration.sockets.map fun socket => ⟨⟨socket⟩⟩
  mounts := configuration.mounts.map .ofSwift
  maskedPaths := configuration.maskedPaths
  readonlyPaths := configuration.readonlyPaths
  dns := configuration.dns.map .ofSwift
  hosts := configuration.hosts.map .ofSwift
  virtualization := configuration.virtualization
  bootLog := configuration.bootLog.map .ofSwift
  ociRuntimePath := configuration.ociRuntimePath
  seccompProfile := .ofSwift configuration.seccompProfile
  useInit := configuration.useInit
  unified := .collect configuration.unified.entries

/-- A timeout that has become too long for a `Duration` is the longest one. -/
def PodVolumeSource.ofSwift : Swift.PodVolumeSource → PodVolumeSource
  | .nbd url timeout readOnly =>
    .nbd (External.absoluteString url)
      (timeout.map fun seconds => (Duration.tryFromSecsF64 seconds).getD Duration.max) readOnly
  | .diskImage path readOnly => .diskImage (.from (External.path path)) readOnly
  | .tmpfs sizeBytes => .tmpfs sizeBytes

def PodVolume.ofSwift (volume : Swift.PodVolume) : PodVolume where
  name := volume.name
  source := .ofSwift volume.source
  format := volume.format

def PodConfiguration.ofSwift [RawValuesCopied] (configuration : Swift.PodConfiguration) :
    PodConfiguration where
  interfaces := configuration.interfaces.map .ofSwift
  virtualization := configuration.virtualization
  bootLog := configuration.bootLog.map .ofSwift
  shareProcessNamespace := configuration.shareProcessNamespace
  hostname := configuration.hostname
  dns := configuration.dns.map .ofSwift
  hosts := configuration.hosts.map .ofSwift
  volumes := configuration.volumes.map .ofSwift
  ociRuntimePath := configuration.ociRuntimePath
  seccompProfile := .ofSwift configuration.seccompProfile

end Rust

/-! ### Each part -/

omit [Runtime] [External] in
/-- The bridge's kind of a Swift limit is Rust's of the same name. -/
theorem Swift.LinuxRLimitKind.toBridge_eq (kind : LinuxRLimitKind) :
    toBridge kind = .ok (Rust.LinuxRLimitKind.ofSwift kind).toBridge := by
  cases kind <;> rfl

omit [External] in
/-- Whatever Swift's process is, Rust's is left with its fields and its own stdio. -/
theorem Swift.LinuxProcessConfiguration.fill_eq (built : Rust.LinuxProcessConfiguration)
    (process : LinuxProcessConfiguration) : fill built process = .ok (.ofSwift built process) := by
  have hset (set : List CapabilityName) :
      (set.map (·.description)).mapM CapabilityName.fromDescription = .ok set := by
    rw [List.mapM_map]
    exact mapM_eq_self (fun name => name.fromDescription_description) set
  have hrlimits (cleared : Rust.LinuxProcessConfiguration) (hcleared : cleared.rlimits = []) :
      process.rlimits.foldlM pushRlimit cleared =
        .ok { cleared with rlimits := process.rlimits.map .ofSwift } := by
    have := foldlM_states pushRlimit
      (fun done => { cleared with rlimits := done.map .ofSwift })
      (fun done rlimit => by
        simp [pushRlimit, LinuxRLimitKind.toBridge_eq, Rust.LinuxRLimit.ofSwift]) process.rlimits
    simpa [← hcleared] using this
  simp only [fill, Rust.LinuxProcessConfiguration.setCapabilities, hset, ok_bind, pure_eq_ok]
  rw [hrlimits _ rfl]
  rfl

omit [External] in
/-- Rust reads a held seccomp profile field by field. -/
theorem CzOutcome.seccomp_holding [RawValuesCopied] (profile : Swift.LinuxSeccomp) :
    (holding (some profile)).seccomp = .ok (.ofSwift profile) := by
  have hsyscall (syscall : Swift.LinuxSyscall) :
      (holding (some syscall)).syscall = .ok (.ofSwift syscall) := by
    simp [CzOutcome.syscall, Rust.LinuxSyscall.ofSwift, Rust.LinuxSeccompArg.ofSwift]
  simp [CzOutcome.seccomp, hsyscall, Rust.LinuxSeccomp.ofSwift, Function.comp_def]

section Sandbox

open Rust Rust.FilledSandbox

variable {α : Type} [FilledSandbox α] (built : α)

omit [Runtime] in
/-- An interface is pushed after those there, whatever type it has. -/
theorem Swift.pushInterface_eq (interface : Swift.Interface) :
    Swift.pushInterface built interface = .ok (setSandbox built { sandbox built with
      interfaces := (sandbox built).interfaces ++ [.ofSwift interface] }) := by
  have hnat (fields : Swift.InterfaceFields) :
      Swift.pushInterface built (.other fields) = .ok (setSandbox built { sandbox built with
        interfaces := (sandbox built).interfaces ++ [.nat (.ofSwift fields)] }) := by
    cases h6 : fields.ipv6Address <;> cases hgateway : fields.ipv6Gateway <;>
      simp [Swift.pushInterface, nat, h6, hgateway, setIpv6Address, setIpv6Gateway,
        NATInterface.ofSwift, CIDRv4.ofSwift, CIDRv6.ofSwift, IPv6Address.fromHalves_high_low,
        Function.comp_def]
  cases interface with
  | vmnet interface => rfl
  | nat interface => exact hnat interface.toInterfaceFields
  | other fields => exact hnat fields

omit [Runtime] in
theorem Swift.foldlM_pushInterface (interfaces : List Swift.Interface) {cleared : Sandbox}
    (h : cleared.interfaces = []) :
    interfaces.foldlM Swift.pushInterface (setSandbox built cleared) =
      .ok (setSandbox built { cleared with interfaces := interfaces.map .ofSwift }) := by
  have := foldlM_states Swift.pushInterface
    (fun done => setSandbox built { cleared with interfaces := done.map .ofSwift })
    (fun done interface => by simp [Swift.pushInterface_eq]) interfaces
  simpa [← h] using this

omit [Runtime] in
theorem Swift.foldlM_pushHostsEntry (hosts : Swift.Hosts) {held : Sandbox}
    (h : held.hosts = some { entries := [], comment := hosts.comment }) :
    hosts.entries.foldlM Swift.pushHostsEntry (setSandbox built held) =
      .ok (setSandbox built { held with hosts := some (.ofSwift hosts) }) := by
  have := foldlM_states Swift.pushHostsEntry
    (fun done => setSandbox built { held with
      hosts := some { entries := done.map .ofSwift, comment := hosts.comment } })
    (fun done entry => by simp [Swift.pushHostsEntry, Rust.pushHostsEntry, HostsEntry.ofSwift])
    hosts.entries
  simpa [← h, Hosts.ofSwift] using this

/-- Whatever the shared parts held, they are left as the Swift ones. -/
theorem Swift.fillSandbox_eq [RawValuesCopied] (interfaces : List Swift.Interface)
    (dns : Option Swift.DNS) (hosts : Option Swift.Hosts) (bootLog : Option Swift.BootLog)
    (seccompProfile : Swift.SeccompProfile) :
    Swift.fillSandbox built interfaces dns hosts bootLog seccompProfile =
      .ok (setSandbox built (.ofSwift interfaces dns hosts bootLog seccompProfile)) := by
  simp only [Swift.fillSandbox, clearInterfaces, clearDns, clearHosts, clearBootLog,
    FilledSandbox.sandbox_setSandbox, FilledSandbox.setSandbox_setSandbox]
  rw [Swift.foldlM_pushInterface _ _ rfl]
  cases dns <;> cases hosts <;> rcases bootLog with - | - | - <;> cases seccompProfile <;>
    simp [Swift.foldlM_pushHostsEntry, Rust.seccompProfile, CzOutcome.seccomp_holding,
      Sandbox.ofSwift, DNS.ofSwift, BootLog.ofSwift, SeccompProfile.ofSwift]

end Sandbox

/-! ### Container and pod -/

omit [External] in
/-- Entries inserted in the order of their keys make the map of the dictionary they are from. -/
theorem Swift.collect_sortedByKey (dictionary : Dictionary String) :
    BTreeMap.collect (sortedByKey dictionary.entries) = .collect dictionary.entries :=
  collect_perm ((List.mergeSort_perm _ _).trans
    (collect_toList_perm dictionary.distinct.keys_nodup).symm)

omit [Runtime] in
theorem Swift.foldl_insertSysctl (entries : List (String × String)) {cleared : Rust.Configuration}
    (h : cleared.sysctl = ∅) :
    entries.foldl (fun built entry => built.insertSysctl entry.1 entry.2) cleared =
      { cleared with sysctl := .collect entries } := by
  have := foldl_states
    (fun (built : Rust.Configuration) entry => built.insertSysctl entry.1 entry.2)
    (fun done => { cleared with sysctl := .collect done }) (fun done entry => by simp) entries
  simpa [← h] using this

omit [Runtime] in
theorem Swift.foldl_insertUnified (entries : List (String × String)) {cleared : Rust.Configuration}
    (h : cleared.unified = ∅) :
    entries.foldl (fun built entry => built.insertUnified entry.1 entry.2) cleared =
      { cleared with unified := .collect entries } := by
  have := foldl_states
    (fun (built : Rust.Configuration) entry => built.insertUnified entry.1 entry.2)
    (fun done => { cleared with unified := .collect done }) (fun done entry => by simp) entries
  simpa [← h] using this

omit [Runtime] in
theorem Swift.foldl_pushSocket (sockets : List UnixSocketConfiguration)
    {cleared : Rust.Configuration} (h : cleared.sockets = []) :
    sockets.foldl pushSocket cleared =
      { cleared with sockets := sockets.map fun socket => ⟨⟨socket⟩⟩ } := by
  have := foldl_states pushSocket
    (fun done => { cleared with sockets := done.map fun socket => ⟨⟨socket⟩⟩ })
    (fun done socket => by simp [pushSocket]) sockets
  simpa [← h] using this

omit [Runtime] in
theorem Swift.foldl_pushMount (mounts : List Mount) {cleared : Rust.Configuration}
    (h : cleared.mounts = []) :
    mounts.foldl pushMount cleared = { cleared with mounts := mounts.map .ofSwift } := by
  have hoptions (options : RuntimeOptions) :
      Rust.runtimeOptionsOf (runtimeKind options).1 (runtimeKind options).2 = .ofSwift options := by
    rcases options with - | - | subpath | - <;> try rfl
    cases subpath <;> rfl
  have := foldl_states pushMount
    (fun done => { cleared with mounts := done.map .ofSwift })
    (fun done mount => by simp [pushMount, hoptions, Rust.Mount.ofSwift]) mounts
  simpa [← h] using this

/-- Whatever Rust's container configuration held, it is left as the Swift one, with its own
stdio. -/
theorem Swift.Configuration.fill_eq [RawValuesCopied] (built : Rust.Configuration)
    (configuration : Configuration)
    (h : 0 ≤ configuration.cpus.toInt ∧ configuration.cpus.toInt < 2 ^ 32) :
    fill built configuration = .ok (.ofSwift built.process configuration) := by
  simp only [fill, LinuxProcessConfiguration.fill_eq, uint32, if_pos h, ok_bind, pure_eq_ok]
  rw [foldl_insertSysctl _ rfl, foldl_insertUnified _ rfl, fillSandbox_eq, ok_bind,
    foldl_pushSocket _ rfl, foldl_pushMount _ rfl]
  simp only [collect_sortedByKey]
  rfl

/-- A number of CPUs that a `UInt32` cannot hold stops Swift. -/
theorem Swift.Configuration.fill_trap (built : Rust.Configuration) (configuration : Configuration)
    (h : ¬(0 ≤ configuration.cpus.toInt ∧ configuration.cpus.toInt < 2 ^ 32)) :
    fill built configuration = .error (.trap "Not enough bits to represent the passed value") := by
  simp only [fill, LinuxProcessConfiguration.fill_eq, uint32, if_neg h, ok_bind, error_bind]

omit [Runtime] in
theorem Swift.foldl_pushVolume (volumes : List PodVolume) {cleared : Rust.PodConfiguration}
    (h : cleared.volumes = []) :
    volumes.foldl pushVolume cleared = { cleared with volumes := volumes.map .ofSwift } := by
  have hpush (built : Rust.PodConfiguration) (volume : PodVolume) :
      pushVolume built volume = { built with volumes := built.volumes ++ [.ofSwift volume] } := by
    obtain ⟨name, source, format⟩ := volume
    cases source <;> rfl
  have := foldl_states pushVolume
    (fun done => { cleared with volumes := done.map .ofSwift })
    (fun done volume => by simp [hpush]) volumes
  simpa [← h] using this

/-- Whatever Rust's pod configuration held, it is left as the Swift one. -/
theorem Swift.PodConfiguration.fill_eq [RawValuesCopied] (built : Rust.PodConfiguration)
    (configuration : PodConfiguration) :
    fill built configuration = .ok (.ofSwift configuration) := by
  simp only [fill, fillSandbox_eq, ok_bind, pure_eq_ok]
  rw [foldl_pushVolume _ rfl]
  rfl

end ContainerBridge
