import ContainerBridge.Spec.Reading

/-! The OCI runtime spec crosses to Swift and back unchanged. Each type crosses when what it holds
does, and a map when no two of its keys are canonically equivalent. -/

namespace ContainerBridge

open Carry CzOutcome

variable [Runtime]

namespace Rust

theorem User.crosses (user : User) : Crosses Swift.User.init CzOutcome.user user user := by
  refine ⟨_, by simp [Swift.User.init]; rfl, ?_⟩
  simp [CzOutcome.user]

theorem OciLinuxCapabilities.crosses (capabilities : OciLinuxCapabilities) :
    Crosses Swift.OciLinuxCapabilities.init ociLinuxCapabilities capabilities capabilities := by
  refine ⟨_, by simp [Swift.OciLinuxCapabilities.init, strings]; rfl, ?_⟩
  simp [ociLinuxCapabilities, OciLinuxCapabilities.set]

theorem Process.crosses (process : Process) :
    Crosses Swift.Process.init CzOutcome.process process process := by
  obtain ⟨user, huser, huser'⟩ := process.user.crosses
  obtain ⟨capabilities, hcaps, hcaps'⟩ := Carries.option_self
    fun capabilities (_ : capabilities ∈ process.capabilities) => capabilities.crosses
  refine ⟨_, by simp [Swift.Process.init, huser, hcaps]; rfl, ?_⟩
  simp [CzOutcome.process, huser', hcaps', posixRlimit, Function.comp_def]

theorem Hook.crosses (hook : Hook) : Crosses Swift.Hook.init CzOutcome.hook hook hook := by
  refine ⟨_, by simp [Swift.Hook.init]; rfl, ?_⟩
  simp [CzOutcome.hook]

theorem Hooks.crosses (hooks : Hooks) : Crosses Swift.Hooks.init CzOutcome.hooks hooks hooks := by
  have h (kind : HookKind) := Carries.list_self fun hook (_ : hook ∈ hooks.of kind) => hook.crosses
  obtain ⟨prestart, h1, h1'⟩ := h .prestart
  obtain ⟨createRuntime, h2, h2'⟩ := h .createRuntime
  obtain ⟨createContainer, h3, h3'⟩ := h .createContainer
  obtain ⟨startContainer, h4, h4'⟩ := h .startContainer
  obtain ⟨poststart, h5, h5'⟩ := h .poststart
  obtain ⟨poststop, h6, h6'⟩ := h .poststop
  refine ⟨_, by simp [Swift.Hooks.init, h1, h2, h3, h4, h5, h6]; rfl, ?_⟩
  simp [CzOutcome.hooks, h1', h2', h3', h4', h5', h6', Hooks.of]

theorem LinuxSyscall.crosses [RawValuesCopied] (syscall : LinuxSyscall) :
    Crosses Swift.LinuxSyscall.init CzOutcome.syscall syscall syscall := by
  refine ⟨_, by simp [Swift.LinuxSyscall.init]; rfl, ?_⟩
  simp [CzOutcome.syscall, Function.comp_def]

theorem LinuxSeccomp.crosses [RawValuesCopied] (seccomp : LinuxSeccomp) :
    Crosses Swift.LinuxSeccomp.init CzOutcome.seccomp seccomp seccomp := by
  obtain ⟨syscalls, hsyscalls, hsyscalls'⟩ := Carries.list_self
    fun syscall (_ : syscall ∈ seccomp.syscalls) => syscall.crosses
  refine ⟨_, by simp [Swift.LinuxSeccomp.init, hsyscalls]; rfl, ?_⟩
  simp [CzOutcome.seccomp, hsyscalls', Function.comp_def]

theorem LinuxBlockIO.crosses (blockIo : LinuxBlockIO) :
    Crosses Swift.LinuxBlockIO.init CzOutcome.blockIO blockIo blockIo := by
  refine ⟨_, by simp [Swift.LinuxBlockIO.init]; rfl, ?_⟩
  simp [CzOutcome.blockIO, LinuxBlockIO.throttle, Function.comp_def]

/-- No two keys of one of the section's maps are canonically equivalent. -/
structure LinuxResources.KeysDistinct (resources : LinuxResources) : Prop where
  rdma : ∀ map ∈ resources.rdma, ContainerBridge.KeysDistinct map.toList
  unified : ∀ map ∈ resources.unified, ContainerBridge.KeysDistinct map.toList

structure Linux.KeysDistinct (linux : Linux) : Prop where
  sysctl : ∀ map ∈ linux.sysctl, ContainerBridge.KeysDistinct map.toList
  resources : ∀ resources ∈ linux.resources, resources.KeysDistinct

structure Spec.KeysDistinct (spec : Spec) : Prop where
  annotations : ∀ map ∈ spec.annotations, ContainerBridge.KeysDistinct map.toList
  linux : ∀ linux ∈ spec.linux, linux.KeysDistinct

/-- The RDMA limits as Swift's initialiser makes them of Rust's map. -/
def LinuxRdma.toSwift (rdma : LinuxRdma) : Swift.LinuxRdma :=
  { hcsHandles := rdma.hcsHandles, hcaObjects := rdma.hcaObjects }

theorem LinuxResources.lent_rdma (resources : LinuxResources) :
    (ifPresent resources.hasRdma do
      return Dictionary.uniquing (← list resources.rdmaLen fun index => do
        return (← resources.rdmaKeyAt index, ({
          hcsHandles := ← resources.rdmaHcsHandlesAt index
          hcaObjects := ← resources.rdmaHcaObjectsAt index } : Swift.LinuxRdma)))) =
    .ok (resources.rdma.map fun map =>
      Dictionary.uniquing (map.toList.map fun entry => (entry.1, entry.2.toSwift))) := by
  cases h : resources.rdma with
  | none => simp [h, ifPresent]
  | some map =>
    simp only [hasRdma, rdmaLen, rdmaKeyAt, rdmaHcsHandlesAt, rdmaHcaObjectsAt, h, optionalLen,
      Option.isSome_some, ifPresent, if_true, present_some, ok_bind, Option.elim_some,
      optionalKeyAt_some]
    rw [list_entryAt (f := fun entry => .ok (entry.1, entry.2.toSwift)) fun i hi => by
      simp [keyAt, entryAt_of_lt hi, LinuxRdma.toSwift]]
    simp

omit [Runtime] in
theorem LinuxResources.lent_network (resources : LinuxResources) :
    (ifPresent resources.hasNetwork do
      return ({
        classID := ← resources.networkClassId
        priorities := ← list (← resources.networkPrioritiesLen) fun index => do
          return {
            name := ← resources.networkPriorityNameAt index
            priority := ← resources.networkPriorityAt index } } : Swift.LinuxNetwork)) =
    .ok (resources.network.map fun network =>
      ⟨network.classId, network.priorities.map fun priority =>
        ⟨priority.name, priority.priority⟩⟩) := by
  cases h : resources.network <;> simp [h, ifPresent]

theorem LinuxResources.read_rdma {rdma : Option (BTreeMap LinuxRdma)}
    (h : ∀ map ∈ rdma, ContainerBridge.KeysDistinct map.toList) :
    (rdma.map fun map => Dictionary.uniquing
      (map.toList.map fun entry => (entry.1, entry.2.toSwift))).mapM (fun value =>
        (holding (some value)).mapOf fun held => held.taken Swift.LinuxRdma >>= fun limits =>
          .ok ⟨limits.hcsHandles, limits.hcaObjects⟩) = .ok rdma := by
  cases rdma with
  | none => rfl
  | some map =>
    simp only [Option.map_some, Option.mapM_some]
    rw [mapOf_uniquing (h map rfl) LinuxRdma.toSwift
      (fun limits => ⟨limits.hcsHandles, limits.hcaObjects⟩) (fun value => by simp) fun _ => rfl,
      ok_map]

theorem LinuxResources.crosses (resources : LinuxResources) (h : resources.KeysDistinct) :
    Crosses Swift.LinuxResources.init CzOutcome.resources resources resources := by
  obtain ⟨blockIo, hblockIo, hblockIo'⟩ := Carries.option_self
    fun blockIo (_ : blockIo ∈ resources.blockIo) => blockIo.crosses
  refine ⟨_, by
    simp only [Swift.LinuxResources.init, lent_rdma, lent_network]
    simp [hblockIo]
    rfl, ?_⟩
  simp [CzOutcome.resources, hblockIo', Function.comp_def, read_rdma h.rdma,
    collect_uniquing_option h.unified, deviceCgroup, CzOutcome.memory, CzOutcome.cpu,
    Swift.LinuxDeviceCgroup.init, Swift.LinuxMemory.init, Swift.LinuxCPU.init]

theorem Linux.lent_personality [RawValuesCopied] (linux : Linux) :
    (ifPresent linux.hasPersonality do
      return ({
        domain := ← swiftCase (← linux.personalityDomain)
        flags := ← strings (← linux.personalityFlagsLen) linux.personalityFlagsAt } :
          Swift.LinuxPersonality)) =
    .ok (linux.personality.map fun personality =>
      ⟨Case.ofRust personality.domain, personality.flags⟩) := by
  cases h : linux.personality with
  | none => simp [h, ifPresent]
  | some personality =>
    have hflags : linux.personalityFlagsAt = indexed personality.flags :=
      funext fun index => by simp [h]
    simp [h, hflags, ifPresent]

theorem Linux.crosses [RawValuesCopied] (linux : Linux) (h : linux.KeysDistinct) :
    Crosses Swift.Linux.init CzOutcome.linux linux linux := by
  obtain ⟨resources, hresources, hresources'⟩ := Carries.option_self
    fun resources hmem => LinuxResources.crosses resources (h.resources resources hmem)
  obtain ⟨seccomp, hseccomp, hseccomp'⟩ := Carries.option_self
    fun seccomp (_ : seccomp ∈ linux.seccomp) => seccomp.crosses
  refine ⟨_, by
    simp only [Swift.Linux.init, lent_personality]
    simp [hresources, hseccomp]
    rfl, ?_⟩
  simp [CzOutcome.linux, hresources', hseccomp', Function.comp_def,
    collect_uniquing_option h.sysctl, idMapping, device, Swift.LinuxIDMapping.init,
    Swift.LinuxDevice.init]

theorem OciMount.crosses (mount : OciMount) :
    Crosses Swift.OciMount.init CzOutcome.ociMount mount mount := by
  refine ⟨_, by simp [Swift.OciMount.init]; rfl, ?_⟩
  simp [CzOutcome.ociMount, Function.comp_def, idMapping, Swift.LinuxIDMapping.init]

omit [Runtime] in
theorem Spec.lent_root (spec : Spec) :
    (ifPresent spec.hasRoot do
      return ({ path := ← spec.rootPath, readonly := ← spec.rootReadonly } : Swift.Root)) =
    .ok (spec.root.map fun root => ⟨root.path, root.readonly⟩) := by
  cases h : spec.root <;> simp [h, ifPresent]

/-- A spec none of whose maps has two canonically equivalent keys is accepted by Swift, whose
enumerations have Rust's raw values, and Rust reads back the same spec. -/
theorem spec_crosses [RawValuesCopied] (spec : Spec) (h : spec.KeysDistinct) :
    ∃ value, Swift.Spec.init spec = .ok value ∧ (holding (some value)).spec = .ok spec := by
  obtain ⟨hooks, hhooks, hhooks'⟩ := Carries.option_self
    fun hooks (_ : hooks ∈ spec.hooks) => hooks.crosses
  obtain ⟨process, hprocess, hprocess'⟩ := Carries.option_self
    fun process (_ : process ∈ spec.process) => process.crosses
  obtain ⟨mounts, hmounts, hmounts'⟩ := Carries.list_self
    fun mount (_ : mount ∈ spec.mounts) => mount.crosses
  obtain ⟨linux, hlinux, hlinux'⟩ := Carries.option_self
    fun linux hmem => Linux.crosses linux (h.linux linux hmem)
  refine ⟨_, by
    simp only [Swift.Spec.init, Spec.lent_root]
    simp [hhooks, hprocess, hmounts, hlinux]
    rfl, ?_⟩
  simp [CzOutcome.spec, hhooks', hprocess', hmounts', hlinux', Function.comp_def,
    collect_uniquing_option h.annotations, CzOutcome.root]

/-- A spec with two annotations and every section the bridge reads through `has_`. -/
def Spec.sample : Spec where
  version := "1.2.0"
  hooks := some ⟨[⟨"/bin/a", ["a"], [], some 5⟩], [], [⟨"/bin/b", [], ["B=1"], none⟩], [], [], []⟩
  process := some {
    args := ["sh", "-c", "true"]
    cwd := "/"
    env := ["A=1", ""]
    consoleSize := some ⟨24, 80⟩
    selinuxLabel := ""
    noNewPrivileges := true
    commandLine := ""
    oomScoreAdj := some (-5)
    capabilities := some ⟨some ["CAP_KILL"], none, some [], none, none⟩
    apparmorProfile := ""
    user := ⟨0, 0, some 18, [4, 20], "root"⟩
    rlimits := [⟨"RLIMIT_NOFILE", 8, 4⟩]
    terminal := false }
  hostname := "host"
  domainname := ""
  mounts := [⟨"bind", "/s", "/d", ["ro"], some [], none⟩]
  annotations := some (.collect [("b", "2"), ("a", "1")])
  root := some ⟨"/", true⟩
  linux := some {
    uidMappings := [⟨0, 1000, 1⟩]
    gidMappings := []
    sysctl := some ∅
    resources := some ⟨[⟨true, "c", some 1, none, some ""⟩], none, none, some ⟨-1⟩, none,
      [⟨"2MB", 0⟩], some ⟨none, [⟨"eth0", 3⟩]⟩,
      some (.collect [("mlx5_1", ⟨some 1, none⟩), ("mlx5_0", ⟨none, some 2⟩)]), none⟩
    cgroupsPath := "/c"
    namespaces := [⟨.pid, ""⟩, ⟨.mount, "/proc/1/ns/mnt"⟩]
    devices := []
    seccomp := some ⟨.actErrno, some 38, [.archAARCH64], [.flagLog], "", "",
      [⟨["read", "write"], .actAllow, none, [⟨0, 1, 2, .opMaskedEqual⟩]⟩]⟩
    rootfsPropagation := ""
    maskedPaths := ["/proc/kcore"]
    readonlyPaths := []
    mountLabel := ""
    personality := some ⟨.perLinux32, []⟩ }

omit [Runtime] in
theorem sample_spec_crosses :
    ∃ value, @Swift.Spec.init .ascii .sample = .ok value ∧
      @CzOutcome.spec .ascii (@holding .ascii _ _ (some value)) = .ok .sample := by
  let _ := Runtime.ascii
  have _ := RawValuesCopied.ascii
  refine spec_crosses .sample (.mk ?_ ?_)
  · rintro _ ⟨⟩
    decide
  · rintro _ ⟨⟩
    refine .mk ?_ ?_
    · rintro _ ⟨⟩
      decide
    · rintro _ ⟨⟩
      refine .mk ?_ ?_
      · rintro _ ⟨⟩
        decide
      · rintro _ ⟨⟩

end Rust

end ContainerBridge
