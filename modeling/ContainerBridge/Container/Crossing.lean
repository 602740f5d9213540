import ContainerBridge.Container.Filled

/-! What Swift's initialisers make of Rust's configurations: the values that `fill` takes back to
what Rust held. None of them panics or traps. -/

namespace ContainerBridge

open Carry

variable [Runtime] [External]

/-! ### Process -/

namespace Swift

def User.ofRust (user : Rust.User) : User where
  uid := user.uid
  gid := user.gid
  umask := user.umask
  additionalGids := user.additionalGids
  username := user.username

omit [Runtime] [External] in
theorem User.init_eq (user : Rust.User) : User.init user = .ok (.ofRust user) := by
  simp [User.init, ofRust]

omit [Runtime] [External] in
@[simp] theorem User.ofSwift_ofRust (user : Rust.User) : Rust.User.ofSwift (ofRust user) = user :=
  rfl

omit [Runtime] [External] in
@[simp] theorem User.ofRust_ofSwift (user : User) : ofRust (Rust.User.ofSwift user) = user := rfl

def LinuxCapabilities.ofRust (capabilities : Rust.LinuxCapabilities) : LinuxCapabilities where
  bounding := capabilities.bounding
  effective := capabilities.effective
  inheritable := capabilities.inheritable
  permitted := capabilities.permitted
  ambient := capabilities.ambient

omit [Runtime] in
theorem LinuxCapabilities.init_eq (capabilities : Rust.LinuxCapabilities) :
    LinuxCapabilities.init capabilities = .ok (.ofRust capabilities) := by
  simp [LinuxCapabilities.init, Rust.LinuxCapabilities.set, ofRust]

omit [Runtime] [External] in
@[simp] theorem LinuxCapabilities.ofSwift_ofRust (capabilities : Rust.LinuxCapabilities) :
    Rust.LinuxCapabilities.ofSwift (ofRust capabilities) = capabilities := rfl

omit [Runtime] [External] in
@[simp] theorem LinuxCapabilities.ofRust_ofSwift (capabilities : LinuxCapabilities) :
    ofRust (Rust.LinuxCapabilities.ofSwift capabilities) = capabilities := rfl

/-- Swift's kind of the limit Rust names. -/
def LinuxRLimitKind.ofRust : Rust.LinuxRLimitKind → LinuxRLimitKind
  | .addressSpace => .addressSpace
  | .coreFileSize => .coreFileSize
  | .cpuTime => .cpuTime
  | .dataSize => .dataSize
  | .fileSize => .fileSize
  | .locks => .locks
  | .lockedMemory => .lockedMemory
  | .messageQueue => .messageQueue
  | .nice => .nice
  | .openFiles => .openFiles
  | .numberOfProcesses => .numberOfProcesses
  | .residentSetSize => .residentSetSize
  | .realtimePriority => .realtimePriority
  | .realtimeTimeout => .realtimeTimeout
  | .signalsPending => .signalsPending
  | .stackSize => .stackSize

omit [Runtime] [External] in
theorem LinuxRLimitKind.ofBridge_eq (kind : Rust.LinuxRLimitKind) :
    ofBridge kind.toBridge = .ok (ofRust kind) := by
  cases kind <;> rfl

def LinuxRLimit.ofRust (rlimit : Rust.LinuxRLimit) : LinuxRLimit :=
  { kind := .ofRust rlimit.kind, hard := rlimit.hard, soft := rlimit.soft }

omit [Runtime] [External] in
@[simp] theorem LinuxRLimit.ofSwift_ofRust (rlimit : Rust.LinuxRLimit) :
    Rust.LinuxRLimit.ofSwift (ofRust rlimit) = rlimit := by
  obtain ⟨kind, hard, soft⟩ := rlimit
  cases kind <;> rfl

omit [Runtime] [External] in
@[simp] theorem LinuxRLimit.ofRust_ofSwift (rlimit : LinuxRLimit) :
    ofRust (Rust.LinuxRLimit.ofSwift rlimit) = rlimit := by
  obtain ⟨kind, hard, soft⟩ := rlimit
  cases kind <;> rfl

omit [Runtime] [External] in
theorem LinuxProcessConfiguration.lent_rlimits (process : Rust.LinuxProcessConfiguration) :
    (list process.rlimitsLen fun index => do
      let kind ← process.rlimitKindAt index
      return ({
        kind := ← LinuxRLimitKind.ofBridge kind
        hard := ← process.rlimitHardAt index
        soft := ← process.rlimitSoftAt index } : LinuxRLimit)) =
    .ok (process.rlimits.map .ofRust) := by
  simp [LinuxRLimitKind.ofBridge_eq, LinuxRLimit.ofRust]

/-- The streams of a process. -/
structure Stdio where
  stdin : Option ReaderStream
  stdout : Option Writer
  stderr : Option Writer

/-- The streams made over duplicates of a process's descriptors. Those of stdout and stderr share a
writer when they share a descriptor. -/
def Stdio.of [Host] (process : Rust.LinuxProcessConfiguration) : Crossing Stdio := do
  let stdout ← writer .stdout process.stdout
  let stderr ← (if process.stderr = process.stdout then pure stdout
    else writer .stderr process.stderr)
  let stdin ← process.stdin.mapM fun descriptor => do return .file ⟨← duplicate .stdin descriptor⟩
  return { stdin, stdout, stderr }

/-- `process` as Swift holds it, with streams of its own. -/
def LinuxProcessConfiguration.ofRust (process : Rust.LinuxProcessConfiguration) (stdio : Stdio) :
    LinuxProcessConfiguration where
  arguments := process.arguments
  environmentVariables := process.environmentVariables
  workingDirectory := process.workingDirectory
  user := .ofRust process.user
  rlimits := process.rlimits.map .ofRust
  noNewPrivileges := process.noNewPrivileges
  capabilities := .ofRust process.capabilities
  terminal := process.terminal
  stdin := stdio.stdin
  stdout := stdio.stdout
  stderr := stdio.stderr

omit [Runtime] in
/-- Only a failed duplicate stops the initialiser. -/
theorem LinuxProcessConfiguration.init_eq [Host] (process : Rust.LinuxProcessConfiguration) :
    LinuxProcessConfiguration.init process = ofRust process <$> Stdio.of process := by
  simp only [LinuxProcessConfiguration.init, Stdio.of, lent_rlimits, User.init_eq,
    LinuxCapabilities.init_eq]
  simp [ofRust]

omit [Runtime] [External] in
theorem onlyThrows_duplicate [Host] (stream : Stream) (descriptor : Int32) :
    OnlyThrows (duplicate stream descriptor) := by
  rw [duplicate]
  split <;> simp

omit [Runtime] [External] in
theorem Stdio.onlyThrows_of [Host] (process : Rust.LinuxProcessConfiguration) :
    OnlyThrows (Stdio.of process) := by
  have hwriter (stream : Stream) (descriptor : Option Int32) :
      OnlyThrows (writer stream descriptor) :=
    .option fun descriptor _ => (onlyThrows_duplicate _ _).bind fun _ _ => .ok _
  refine (hwriter _ _).bind fun stdout _ => .bind ?_ fun stderr _ => .bind ?_ fun stdin _ => .ok _
  · split
    · exact .ok _
    · exact hwriter _ _
  · exact .option fun descriptor _ => (onlyThrows_duplicate _ _).bind fun _ _ => .ok _

omit [Runtime] in
theorem LinuxProcessConfiguration.onlyThrows_init [Host]
    (process : Rust.LinuxProcessConfiguration) :
    OnlyThrows (LinuxProcessConfiguration.init process) := by
  rw [init_eq]
  exact (Stdio.onlyThrows_of process).map _

/-! ### Network -/

omit [Runtime] in
theorem NATInterface.init_eq (interface : Rust.NATInterface) : NATInterface.init interface = (do
    let ipv4Address ← CIDRv4.init interface.ipv4Address.address.value
      interface.ipv4Address.netPrefix.length
    let ipv6Address ← interface.ipv6Address.mapM fun cidr =>
      CIDRv6.init cidr.address cidr.netPrefix.length
    return { toInterfaceFields := {
      ipv4Address
      ipv4Gateway := interface.ipv4Gateway.map fun gateway => ⟨gateway.value⟩
      ipv6Address
      ipv6Gateway := interface.ipv6Gateway.map .init
      macAddress := interface.macAddress.map fun address => ⟨address.value⟩
      mtu := interface.mtu } }) := by
  simp [NATInterface.init, Function.comp_def]

omit [Runtime] in
theorem NATInterface.init_inverts :
    Inverts NATInterface.init fun made => Rust.NATInterface.ofSwift made.toInterfaceFields := by
  intro interface made
  have h6 : Inverts (fun cidr => CIDRv6.init cidr.address cidr.netPrefix.length)
      Rust.CIDRv6.ofSwift := fun _ _ => CIDRv6.init_eq_ok
  simp only [init_eq, bind_eq_ok, CIDRv4.init_eq_ok, h6.option _ _, pure_eq_ok, Except.ok.injEq]
  constructor
  · rintro ⟨ipv4, h4, ipv6, h6, rfl⟩
    simp [Rust.NATInterface.ofSwift, h4, h6, Function.comp_def]
  · rintro rfl
    refine ⟨_, rfl, _, rfl, ?_⟩
    simp [Rust.NATInterface.ofSwift, Function.comp_def]

omit [Runtime] in
theorem NATInterface.onlyThrows_init (interface : Rust.NATInterface) :
    OnlyThrows (NATInterface.init interface) := by
  have honly (length : UInt8) : OnlyThrows (Prefix.init length) := by
    rw [Prefix.init]
    split <;> simp
  have h4 (address : UInt32) (length : UInt8) : OnlyThrows (CIDRv4.init address length) := by
    refine (honly length).bind fun netPrefix _ => ?_
    split
    · exact .ok _
    · exact .error ⟨_, rfl⟩
  have h6 (address : Rust.IPv6Address) (length : UInt8) :
      OnlyThrows (CIDRv6.init address length) := by
    refine (honly length).bind fun netPrefix _ => ?_
    split
    · exact .ok _
    · exact .error ⟨_, rfl⟩
  rw [init_eq]
  exact (h4 _ _).bind fun _ _ => .bind (.option fun _ _ => h6 _ _) fun _ _ => .ok _

/-- An interface Rust holds, as the conforming type it is. -/
def Interface.init : Rust.Interface → Crossing Interface
  | .nat interface => return .nat (← NATInterface.init interface)
  | .vmnet handle => return .vmnet handle.interface

omit [Runtime] in
/-- The interfaces of any configuration, lent by index. -/
theorem lentInterfaces_indexed (interfaces : List Rust.Interface) :
    lentInterfaces interfaces.length
      (fun index => do return Rust.interfaceKind (← indexed interfaces index))
      (fun index => do Rust.natInterface (← indexed interfaces index))
      (fun index => do Rust.vmnetInterface (← indexed interfaces index)) =
    interfaces.mapM Interface.init := by
  refine list_eq_mapM fun i hi => ?_
  cases h : interfaces[i] <;>
    simp [hi, h, Rust.interfaceKind, Rust.natInterface, Rust.vmnetInterface, Interface.init]

omit [Runtime] in
theorem lentInterfaces_eq {α : Type} [Rust.FilledSandbox α] (built : α) :
    lentInterfaces (Rust.FilledSandbox.interfacesLen built)
      (Rust.FilledSandbox.interfaceKindAt built) (Rust.FilledSandbox.natInterfaceAt built)
      (Rust.FilledSandbox.vmnetInterfaceAt built) =
    (Rust.sandbox built).interfaces.mapM Interface.init :=
  lentInterfaces_indexed (Rust.sandbox built).interfaces

omit [Runtime] in
/-- What the bridge makes of an interface is the one Rust holds. -/
theorem Interface.ofSwift_init {interface : Rust.Interface} {made : Interface}
    (h : Interface.init interface = .ok made) : Rust.Interface.ofSwift made = interface := by
  cases interface with
  | vmnet handle =>
    cases h
    rfl
  | nat interface =>
    obtain ⟨nat, hnat, hmade⟩ := bind_eq_ok.mp h
    cases hmade
    exact congrArg Rust.Interface.nat ((NATInterface.init_inverts _ _).mp hnat)

omit [Runtime] in
/-- An interface that crosses to Rust and back keeps its fields, whatever type it had. -/
theorem Interface.init_ofSwift (interface : Interface) :
    ∃ made, Interface.init (.ofSwift interface) = .ok made ∧ made.fields = interface.fields := by
  have hnat (fields : InterfaceFields) :
      NATInterface.init (.ofSwift fields) = .ok { toInterfaceFields := fields } :=
    (NATInterface.init_inverts _ _).mpr rfl
  cases interface with
  | vmnet interface => exact ⟨.vmnet interface, rfl, rfl⟩
  | nat interface =>
    exact ⟨.nat interface, by simp [Interface.init, Rust.Interface.ofSwift, hnat], rfl⟩
  | other fields =>
    exact ⟨.nat { toInterfaceFields := fields },
      by simp [Interface.init, Rust.Interface.ofSwift, hnat], rfl⟩

omit [Runtime] in
theorem Interface.onlyThrows_init (interface : Rust.Interface) :
    OnlyThrows (Interface.init interface) := by
  cases interface with
  | vmnet handle => exact .ok _
  | nat interface => exact (NATInterface.onlyThrows_init interface).bind fun _ _ => .ok _

def DNS.ofRust (dns : Rust.DNS) : DNS where
  nameservers := dns.nameservers
  domain := dns.domain
  searchDomains := dns.searchDomains
  options := dns.options

omit [Runtime] [External] in
theorem DNS.init_eq (dns : Rust.DNS) : DNS.init dns = .ok (.ofRust dns) := by
  simp [DNS.init, ofRust]

omit [Runtime] [External] in
@[simp] theorem DNS.ofSwift_ofRust (dns : Rust.DNS) : Rust.DNS.ofSwift (ofRust dns) = dns := rfl

omit [Runtime] [External] in
@[simp] theorem DNS.ofRust_ofSwift (dns : DNS) : ofRust (Rust.DNS.ofSwift dns) = dns := rfl

def HostsEntry.ofRust (entry : Rust.HostsEntry) : HostsEntry where
  ipAddress := entry.ipAddress
  hostnames := entry.hostnames
  comment := entry.comment

omit [Runtime] [External] in
theorem HostsEntry.init_eq (entry : Rust.HostsEntry) :
    HostsEntry.init entry = .ok (.ofRust entry) := by
  simp [HostsEntry.init, ofRust]

def Hosts.ofRust (hosts : Rust.Hosts) : Hosts where
  entries := hosts.entries.map .ofRust
  comment := hosts.comment

omit [Runtime] [External] in
theorem Hosts.init_eq (hosts : Rust.Hosts) : Hosts.init hosts = .ok (.ofRust hosts) := by
  simp [Hosts.init, funext HostsEntry.init_eq, ofRust]

omit [Runtime] [External] in
@[simp] theorem Hosts.ofSwift_ofRust (hosts : Rust.Hosts) :
    Rust.Hosts.ofSwift (ofRust hosts) = hosts := by
  simp [Rust.Hosts.ofSwift, Rust.HostsEntry.ofSwift, ofRust, HostsEntry.ofRust, Function.comp_def]

omit [Runtime] [External] in
@[simp] theorem Hosts.ofRust_ofSwift (hosts : Hosts) :
    ofRust (Rust.Hosts.ofSwift hosts) = hosts := by
  simp [Rust.Hosts.ofSwift, Rust.HostsEntry.ofSwift, ofRust, HostsEntry.ofRust, Function.comp_def]

/-! ### Boot log, seccomp and mounts -/

end Swift

/-- The path of a boot log's file is one that crosses as a file URL and back unchanged. -/
def Rust.BootLog.PathKept : BootLog → Prop
  | .file path _ => ∀ text ∈ path.path, External.path (External.fileURL text) = text
  | .fileHandle _ => True

namespace Swift

omit [Runtime] in
theorem lentPath_eq_ok {path : Option String} {what lossy : String} {url : External.URL} :
    lentPath path what lossy = .ok url ↔ ∃ text ∈ path, External.fileURL text = url := by
  cases path <;> simp [lentPath, Crossing.throw]

omit [Runtime] in
theorem onlyThrows_lentPath (path : Option String) (what lossy : String) :
    OnlyThrows (lentPath path what lossy) := by
  cases path <;> simp [lentPath]

theorem BootLog.ofSwift_from [Host] {bootLog : Rust.BootLog} {made : BootLog}
    (hkept : bootLog.PathKept) (h : BootLog.from bootLog = .ok made) :
    Rust.BootLog.ofSwift made = bootLog := by
  cases bootLog with
  | file path append =>
    obtain ⟨url, hurl, hmade⟩ := bind_eq_ok.mp h
    cases hmade
    obtain ⟨text, htext, rfl⟩ := lentPath_eq_ok.mp hurl
    rw [Rust.BootLog.ofSwift, hkept text htext, PathBuf.from_path htext]
    rfl
  | fileHandle descriptor =>
    obtain ⟨handle, hhandle, hmade⟩ := bind_eq_ok.mp h
    cases hmade
    exact congrArg Rust.BootLog.fileHandle (lentDescriptor_duplicateBootLog hhandle)

theorem BootLog.onlyThrows_from [Host] (bootLog : Rust.BootLog) :
    OnlyThrows (BootLog.from bootLog) := by
  cases bootLog with
  | file path append => exact (onlyThrows_lentPath _ _ _).bind fun _ _ => .ok _
  | fileHandle descriptor =>
    exact .bind (.bind (onlyThrows_duplicate _ _) fun _ _ => .ok _) fun _ _ => .ok _

def LinuxSeccompArg.ofRust [RawValuesCopied] (arg : Rust.LinuxSeccompArg) : LinuxSeccompArg where
  index := arg.index
  value := arg.value
  valueTwo := arg.valueTwo
  op := .ofRust arg.op

def LinuxSyscall.ofRust [RawValuesCopied] (syscall : Rust.LinuxSyscall) : LinuxSyscall where
  names := syscall.names
  action := .ofRust syscall.action
  errnoRet := syscall.errnoRet
  args := syscall.args.map .ofRust

omit [External] in
theorem LinuxSyscall.init_eq [RawValuesCopied] (syscall : Rust.LinuxSyscall) :
    LinuxSyscall.init syscall = .ok (.ofRust syscall) := by
  simp [LinuxSyscall.init, ofRust, LinuxSeccompArg.ofRust]

def LinuxSeccomp.ofRust [RawValuesCopied] (seccomp : Rust.LinuxSeccomp) : LinuxSeccomp where
  defaultAction := .ofRust seccomp.defaultAction
  defaultErrnoRet := seccomp.defaultErrnoRet
  architectures := seccomp.architectures.map Case.ofRust
  flags := seccomp.flags.map Case.ofRust
  listenerPath := seccomp.listenerPath
  listenerMetadata := seccomp.listenerMetadata
  syscalls := seccomp.syscalls.map .ofRust

omit [External] in
theorem LinuxSeccomp.init_eq [RawValuesCopied] (seccomp : Rust.LinuxSeccomp) :
    LinuxSeccomp.init seccomp = .ok (.ofRust seccomp) := by
  simp [LinuxSeccomp.init, funext LinuxSyscall.init_eq, ofRust]

omit [External] in
@[simp] theorem LinuxSeccomp.ofSwift_ofRust [RawValuesCopied] (seccomp : Rust.LinuxSeccomp) :
    Rust.LinuxSeccomp.ofSwift (ofRust seccomp) = seccomp := by
  simp [ofRust, LinuxSyscall.ofRust, LinuxSeccompArg.ofRust, Rust.LinuxSeccomp.ofSwift,
    Rust.LinuxSyscall.ofSwift, Rust.LinuxSeccompArg.ofSwift, Function.comp_def]

omit [External] in
@[simp] theorem LinuxSeccomp.ofRust_ofSwift [RawValuesCopied] (seccomp : LinuxSeccomp) :
    ofRust (Rust.LinuxSeccomp.ofSwift seccomp) = seccomp := by
  simp [ofRust, LinuxSyscall.ofRust, LinuxSeccompArg.ofRust, Rust.LinuxSeccomp.ofSwift,
    Rust.LinuxSyscall.ofSwift, Rust.LinuxSeccompArg.ofSwift, Function.comp_def]

def SeccompProfile.ofRust [RawValuesCopied] : Rust.SeccompProfile → SeccompProfile
  | .unconfined => .unconfined
  | .default => .default
  | .profile custom => .profile (.ofRust custom)

omit [External] in
theorem lentSeccompProfile_eq [RawValuesCopied] (profile : Rust.SeccompProfile) :
    lentSeccompProfile (Rust.seccompMode profile) (Rust.customSeccomp profile) =
      .ok (.ofRust profile) := by
  cases profile <;>
    simp [lentSeccompProfile, Rust.seccompMode, Rust.customSeccomp, LinuxSeccomp.init_eq,
      SeccompProfile.ofRust]

omit [External] in
@[simp] theorem SeccompProfile.ofSwift_ofRust [RawValuesCopied] (profile : Rust.SeccompProfile) :
    Rust.SeccompProfile.ofSwift (ofRust profile) = profile := by
  cases profile <;> simp [ofRust, Rust.SeccompProfile.ofSwift]

omit [External] in
@[simp] theorem SeccompProfile.ofRust_ofSwift [RawValuesCopied] (profile : SeccompProfile) :
    ofRust (Rust.SeccompProfile.ofSwift profile) = profile := by
  cases profile <;> simp [ofRust, Rust.SeccompProfile.ofSwift]

def RuntimeOptions.ofRust : Rust.RuntimeOptions → RuntimeOptions
  | .virtioblk options => .virtioblk options
  | .virtiofs options => .virtiofs options
  | .shared subpath => .shared subpath
  | .any options => .any options

def Mount.ofRust (mount : Rust.Mount) : Mount where
  type := mount.type
  source := mount.source
  destination := mount.destination
  options := mount.options
  runtimeOptions := .ofRust mount.runtimeOptions

omit [Runtime] [External] in
theorem Mount.init_eq (mount : Rust.Mount) : Mount.init mount = .ok (.ofRust mount) := by
  obtain ⟨type, source, destination, options, runtimeOptions⟩ := mount
  rcases runtimeOptions with - | - | subpath | - <;>
    simp [Mount.init, Rust.Mount.runtimeKind, Rust.Mount.runtimeOptionValues, ofRust,
      RuntimeOptions.ofRust]

omit [Runtime] [External] in
@[simp] theorem Mount.ofSwift_ofRust (mount : Rust.Mount) :
    Rust.Mount.ofSwift (ofRust mount) = mount := by
  obtain ⟨type, source, destination, options, runtimeOptions⟩ := mount
  cases runtimeOptions <;> rfl

omit [Runtime] [External] in
@[simp] theorem Mount.ofRust_ofSwift (mount : Mount) :
    ofRust (Rust.Mount.ofSwift mount) = mount := by
  obtain ⟨type, source, destination, options, runtimeOptions⟩ := mount
  cases runtimeOptions <;> rfl

end Swift

/-- The process with the stdio of another. -/
def Rust.LinuxProcessConfiguration.withStdio (process other : LinuxProcessConfiguration) :
    LinuxProcessConfiguration :=
  { process with stdin := other.stdin, stdout := other.stdout, stderr := other.stderr }

namespace Swift

omit [Runtime] [External] in
theorem LinuxProcessConfiguration.ofSwift_ofRust (seed process : Rust.LinuxProcessConfiguration)
    (stdio : Stdio) :
    Rust.LinuxProcessConfiguration.ofSwift seed (ofRust process stdio) =
      process.withStdio seed := by
  simp [Rust.LinuxProcessConfiguration.ofSwift, ofRust, Rust.LinuxProcessConfiguration.withStdio,
    Function.comp_def]

omit [Runtime] [External] in
theorem LinuxProcessConfiguration.ofRust_ofSwift (seed : Rust.LinuxProcessConfiguration)
    (process : LinuxProcessConfiguration) (stdio : Stdio) :
    ofRust (Rust.LinuxProcessConfiguration.ofSwift seed process) stdio = { process with
      stdin := stdio.stdin, stdout := stdio.stdout, stderr := stdio.stderr } := by
  simp [Rust.LinuxProcessConfiguration.ofSwift, ofRust, Function.comp_def]

/-! ### Container -/

omit [Runtime] [External] in
theorem toInt_int (value : UInt32) : (int value).toInt = value.toNat := by
  have := value.toNat_lt
  rw [int, Int64.toInt_ofInt_of_le] <;> omega

omit [Runtime] [External] in
theorem int_ofNat_toInt {value : Isize} (h : 0 ≤ value.toInt ∧ value.toInt < 2 ^ 32) :
    int (.ofNat value.toInt.toNat) = value := by
  have hsize : value.toInt.toNat < UInt32.size := by
    rw [UInt32.size]
    omega
  rw [int, UInt32.toNat_ofNat_of_lt' hsize, Int.toNat_of_nonneg h.1, Int64.ofInt_toInt]

/-- `configuration` as Swift holds it, of the parts that Swift makes anew. -/
def Configuration.ofRust [RawValuesCopied] (configuration : Rust.Configuration)
    (process : LinuxProcessConfiguration) (interfaces : List Interface)
    (bootLog : Option BootLog) : Configuration where
  process
  cpus := int configuration.cpus
  memoryInBytes := configuration.memoryInBytes
  hostname := configuration.hostname
  sysctl := .uniquing configuration.sysctl.toList
  interfaces
  sockets := configuration.sockets.map fun socket => socket.handle.configuration
  mounts := configuration.mounts.map .ofRust
  maskedPaths := configuration.maskedPaths
  readonlyPaths := configuration.readonlyPaths
  dns := configuration.dns.map .ofRust
  hosts := configuration.hosts.map .ofRust
  virtualization := configuration.virtualization
  bootLog
  ociRuntimePath := configuration.ociRuntimePath
  seccompProfile := .ofRust configuration.seccompProfile
  useInit := configuration.useInit
  unified := .uniquing configuration.unified.toList
  unbridged := External.containerFields

theorem Configuration.init_eq [Host] [RawValuesCopied] (configuration : Rust.Configuration) :
    Configuration.init configuration = (do
      let process ← LinuxProcessConfiguration.init configuration.process
      let interfaces ← configuration.interfaces.mapM Interface.init
      let bootLog ← configuration.bootLog.mapM BootLog.from
      return .ofRust configuration process interfaces bootLog) := by
  simp only [Configuration.init, lentInterfaces_eq]
  simp [lentSeccompProfile_eq, DNS.init_eq, Hosts.init_eq, Mount.init_eq, ofRust]
  rfl

theorem Configuration.onlyThrows_init [Host] [RawValuesCopied]
    (configuration : Rust.Configuration) : OnlyThrows (Configuration.init configuration) := by
  rw [init_eq]
  refine (LinuxProcessConfiguration.onlyThrows_init _).bind fun _ _ => ?_
  refine .bind (.list fun interface _ => Interface.onlyThrows_init interface) fun _ _ => ?_
  exact .bind (.option fun bootLog _ => BootLog.onlyThrows_from bootLog) fun _ _ => .ok _

omit [Runtime] in
theorem ofSwift_interfaces {interfaces : List Rust.Interface} {made : List Interface}
    (h : interfaces.mapM Interface.init = .ok made) : made.map .ofSwift = interfaces := by
  induction mapM_eq_ok.mp h with
  | nil => rfl
  | cons hfirst hrest ih =>
    rw [List.map_cons, Interface.ofSwift_init hfirst, ih (mapM_eq_ok.mpr hrest)]

theorem ofSwift_bootLog [Host] {bootLog : Option Rust.BootLog} {made : Option BootLog}
    (hkept : ∀ held ∈ bootLog, held.PathKept) (h : bootLog.mapM BootLog.from = .ok made) :
    made.map .ofSwift = bootLog := by
  cases optionMapM_eq_ok.mp h with
  | none => rfl
  | some hheld => rw [Option.map_some, BootLog.ofSwift_from (hkept _ rfl) hheld]

/-- What the initialiser makes is, as Rust holds it, the configuration it is made of. -/
theorem Configuration.ofSwift_init [Host] [RawValuesCopied] {configuration : Rust.Configuration}
    {made : Configuration} (hsysctl : KeysDistinct configuration.sysctl.toList)
    (hunified : KeysDistinct configuration.unified.toList)
    (hkept : ∀ bootLog ∈ configuration.bootLog, bootLog.PathKept)
    (h : init configuration = .ok made) (seed : Rust.LinuxProcessConfiguration) :
    Rust.Configuration.ofSwift seed made =
      { configuration with process := configuration.process.withStdio seed } := by
  rw [init_eq, LinuxProcessConfiguration.init_eq] at h
  obtain ⟨process, hprocess, h⟩ := bind_eq_ok.mp h
  obtain ⟨interfaces, hinterfaces, h⟩ := bind_eq_ok.mp h
  obtain ⟨bootLog, hbootLog, h⟩ := bind_eq_ok.mp h
  obtain ⟨stdio, -, rfl⟩ := map_eq_ok.mp hprocess
  cases h
  simp [Rust.Configuration.ofSwift, ofRust, LinuxProcessConfiguration.ofSwift_ofRust,
    ofSwift_interfaces hinterfaces, ofSwift_bootLog hkept hbootLog, collect_uniquing hsysctl,
    collect_uniquing hunified, toInt_int, Function.comp_def]

theorem Configuration.cpus_init [Host] [RawValuesCopied] {configuration : Rust.Configuration}
    {made : Configuration} (h : init configuration = .ok made) :
    0 ≤ made.cpus.toInt ∧ made.cpus.toInt < 2 ^ 32 := by
  rw [init_eq] at h
  obtain ⟨process, -, h⟩ := bind_eq_ok.mp h
  obtain ⟨interfaces, -, h⟩ := bind_eq_ok.mp h
  obtain ⟨bootLog, -, h⟩ := bind_eq_ok.mp h
  cases h
  have := configuration.cpus.toNat_lt
  rw [ofRust, toInt_int]
  omega

end Swift

/-- Unless Swift throws while it makes a container configuration of Rust's, it makes one, and
filling any Rust configuration from it leaves Rust's, with the stdio of the one filled. -/
theorem Rust.configuration_crosses [Host] [RawValuesCopied] (configuration seed : Configuration)
    (hthrows : ∀ error, Swift.Configuration.init configuration ≠ .error (.thrown error))
    (hsysctl : KeysDistinct configuration.sysctl.toList)
    (hunified : KeysDistinct configuration.unified.toList)
    (hkept : ∀ bootLog ∈ configuration.bootLog, bootLog.PathKept) :
    ∃ made, Swift.Configuration.init configuration = .ok made ∧
      Swift.Configuration.fill seed made =
        .ok { configuration with process := configuration.process.withStdio seed.process } := by
  cases h : Swift.Configuration.init configuration with
  | error stop =>
    obtain ⟨error, rfl⟩ := Swift.Configuration.onlyThrows_init configuration stop h
    exact absurd h (hthrows error)
  | ok made =>
    refine ⟨made, rfl, ?_⟩
    rw [Swift.Configuration.fill_eq _ _ (Swift.Configuration.cpus_init h),
      Swift.Configuration.ofSwift_init hsysctl hunified hkept h]

/-- A container with every kind of part. -/
def Rust.Configuration.sample : @Configuration .plain :=
  let _ := External.plain
  { process := {
      arguments := ["/bin/sh", "-c", "true"]
      environmentVariables := ["PATH=/bin"]
      workingDirectory := "/"
      user := ⟨1000, 1000, some 18, [10], ""⟩
      rlimits := [⟨.openFiles, 1024, 512⟩]
      noNewPrivileges := true
      capabilities := ⟨[.chown], [.chown, .kill], [], [], []⟩
      terminal := false
      stdin := some 0
      stdout := some 1
      stderr := some 1 }
    cpus := 4
    memoryInBytes := 1073741824
    hostname := some "host"
    sysctl := .collect [("net.b", "2"), ("net.a", "1")]
    interfaces := [
      .nat ⟨⟨⟨3232235520⟩, ⟨24⟩⟩, some ⟨3232235521⟩, some ⟨⟨1, some "eth0"⟩, ⟨64⟩⟩, none, some ⟨2⟩,
        1500⟩]
    sockets := []
    mounts := [⟨"bind", "/a", "/b", ["ro"], .shared none⟩, ⟨"ext4", "/c", "/d", [], .virtioblk []⟩]
    maskedPaths := []
    readonlyPaths := ["/proc"]
    dns := some ⟨["1.1.1.1"], none, [], []⟩
    hosts := some ⟨[⟨"127.0.0.1", ["localhost"], none⟩], some ""⟩
    virtualization := false
    bootLog := some (.file (.from "/var/log/boot") true)
    ociRuntimePath := none
    seccompProfile := .profile ⟨.actErrno, some 38, [], [], "", "", []⟩
    useInit := true
    unified := ∅ }

/-- A container that sets one parameter in the two spellings of its key. -/
def Rust.Configuration.spelledTwice : @Configuration .plain :=
  let _ := External.plain
  { sample with sysctl := .collect [("e\u0301", "1"), ("\u00e9", "2")] }

omit [Runtime] [External] in
theorem Rust.sample_configuration_crosses :
    let _ := Runtime.ascii
    let _ := External.plain
    let _ := Host.next
    ∃ made, Swift.Configuration.init .sample = .ok made ∧
      Swift.Configuration.fill .spelledTwice made = .ok .sample := by
  let _ := Runtime.ascii
  let _ := External.plain
  let _ := Host.next
  have _ := RawValuesCopied.ascii
  refine configuration_crosses .sample .spelledTwice ?_ ?_ ?_ ?_
  · rintro error ⟨⟩
  · decide
  · decide
  · rintro _ ⟨⟩ _ _
    rfl

omit [Runtime] [External] in
/-- Swift takes the two keys for one, and Rust is left with one of them. -/
theorem Rust.spelledTwice_merged :
    let _ := Runtime.accented
    let _ := External.plain
    let _ := Host.next
    ∃ made filled, Swift.Configuration.init .spelledTwice = .ok made ∧
      Swift.Configuration.fill .sample made = .ok filled ∧
      filled.sysctl ≠ Configuration.spelledTwice.sysctl := by
  let _ := Runtime.accented
  let _ := External.plain
  let _ := Host.next
  have _ := RawValuesCopied.accented
  refine ⟨_, _, rfl, Swift.Configuration.fill_eq _ _ (by decide), fun h => ?_⟩
  have hsize : (BTreeMap.collect
      (Dictionary.uniquing Configuration.spelledTwice.sysctl.toList).entries).size =
    Configuration.spelledTwice.sysctl.size := congrArg Std.ExtTreeMap.size h
  revert hsize
  decide +kernel

end ContainerBridge
