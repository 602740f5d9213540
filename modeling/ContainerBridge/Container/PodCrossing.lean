import ContainerBridge.Container.Crossing
import ContainerBridge.Runtime.Seconds

/-! A pod's configuration crosses to Swift and back as a container's does. Its volumes cross as nine
values each, and an `nbd` volume's timeout as a number of seconds, which can come back rounded. -/

namespace ContainerBridge

open Carry

variable [Runtime] [External]

/-- A timeout that has crossed: as many nanoseconds as are nearest its seconds, or the longest
`Duration` when those are too many for one. -/
def Duration.crossed (timeout : Duration) : Duration :=
  (tryFromSecsF64 timeout.asSecsF64).getD max

namespace Rust

/-- A source that has crossed, which only a timeout can tell from the original. -/
def PodVolumeSource.crossed : PodVolumeSource → PodVolumeSource
  | .nbd url timeout readOnly => .nbd url (timeout.map Duration.crossed) readOnly
  | source => source

def PodVolume.crossed (volume : PodVolume) : PodVolume :=
  { volume with source := volume.source.crossed }

/-- The URL keeps its text as a Swift URL, and a path crosses as a file URL and back unchanged. -/
def PodVolumeSource.LocationKept : PodVolumeSource → Prop
  | .nbd text _ _ => ∀ url ∈ External.urlOfString text, External.absoluteString url = text
  | .diskImage path _ => ∀ text ∈ path.path, External.path (External.fileURL text) = text
  | .tmpfs _ => True

end Rust

namespace Swift

theorem PodVolume.ofSwift_init {volume : Rust.PodVolume} {made : PodVolume}
    (hkept : volume.source.LocationKept) (h : init volume = .ok made) :
    Rust.PodVolume.ofSwift made = volume.crossed := by
  obtain ⟨name, source, format⟩ := volume
  obtain ⟨source', hsource, hmade⟩ := bind_eq_ok.mp h
  cases hmade
  cases source with
  | nbd text timeout readOnly =>
    simp only [PodVolumeSource.init, Rust.PodVolume.sourceKind, Rust.PodVolume.location,
      Option.bind_some] at hsource
    split at hsource
    · next url hurl =>
      cases hsource
      simp [Rust.PodVolume.ofSwift, Rust.PodVolumeSource.ofSwift, hkept url hurl,
        Rust.PodVolume.timeout, Rust.PodVolume.readOnly, Rust.PodVolume.crossed,
        Rust.PodVolumeSource.crossed, Function.comp_def]
      rfl
    · cases hsource
  | diskImage path readOnly =>
    obtain ⟨url, hurl, hmade⟩ := bind_eq_ok.mp hsource
    cases hmade
    obtain ⟨text, htext, rfl⟩ := lentPath_eq_ok.mp hurl
    simp [Rust.PodVolume.ofSwift, Rust.PodVolumeSource.ofSwift, hkept text htext,
      PathBuf.from_path htext, Rust.PodVolume.readOnly, Rust.PodVolume.crossed,
      Rust.PodVolumeSource.crossed]
  | tmpfs sizeBytes =>
    cases hsource
    rfl

theorem PodVolume.onlyThrows_init (volume : Rust.PodVolume) : OnlyThrows (init volume) := by
  obtain ⟨name, source, format⟩ := volume
  refine .bind ?_ fun _ _ => .ok _
  cases source with
  | nbd text timeout readOnly =>
    simp only [PodVolumeSource.init, Rust.PodVolume.sourceKind]
    split
    · exact .ok _
    · exact Crossing.onlyThrows_throw _
  | diskImage path readOnly => exact (onlyThrows_lentPath _ _ _).bind fun _ _ => .ok _
  | tmpfs sizeBytes => exact .ok _

/-- `configuration` as Swift holds it, of the parts that Swift makes anew. -/
def PodConfiguration.ofRust [RawValuesCopied] (configuration : Rust.PodConfiguration)
    (interfaces : List Interface) (bootLog : Option BootLog) (volumes : List PodVolume) :
    PodConfiguration where
  interfaces
  virtualization := configuration.virtualization
  bootLog
  shareProcessNamespace := configuration.shareProcessNamespace
  hostname := configuration.hostname
  dns := configuration.dns.map .ofRust
  hosts := configuration.hosts.map .ofRust
  volumes
  ociRuntimePath := configuration.ociRuntimePath
  seccompProfile := .ofRust configuration.seccompProfile
  unbridged := External.podFields

theorem PodConfiguration.init_eq [Host] [RawValuesCopied] (configuration : Rust.PodConfiguration) :
    PodConfiguration.init configuration = (do
      let interfaces ← configuration.interfaces.mapM Interface.init
      let bootLog ← configuration.bootLog.mapM BootLog.from
      let volumes ← configuration.volumes.mapM PodVolume.init
      return .ofRust configuration interfaces bootLog volumes) := by
  simp only [PodConfiguration.init, lentInterfaces_eq]
  simp [lentSeccompProfile_eq, DNS.init_eq, Hosts.init_eq, ofRust]
  rfl

theorem PodConfiguration.onlyThrows_init [Host] [RawValuesCopied]
    (configuration : Rust.PodConfiguration) : OnlyThrows (PodConfiguration.init configuration) := by
  rw [init_eq]
  refine .bind (.list fun interface _ => Interface.onlyThrows_init interface) fun _ _ => ?_
  refine .bind (.option fun bootLog _ => BootLog.onlyThrows_from bootLog) fun _ _ => ?_
  exact .bind (.list fun volume _ => PodVolume.onlyThrows_init volume) fun _ _ => .ok _

theorem ofSwift_volumes {volumes : List Rust.PodVolume} {made : List PodVolume}
    (hkept : ∀ volume ∈ volumes, volume.source.LocationKept)
    (h : volumes.mapM PodVolume.init = .ok made) :
    made.map .ofSwift = volumes.map Rust.PodVolume.crossed := by
  induction mapM_eq_ok.mp h with
  | nil => rfl
  | cons hfirst hrest ih =>
    rw [List.map_cons, List.map_cons, PodVolume.ofSwift_init (hkept _ (by simp)) hfirst,
      ih (fun volume hmem => hkept volume (List.mem_cons_of_mem _ hmem)) (mapM_eq_ok.mpr hrest)]

/-- What the initialiser makes is, as Rust holds it, the configuration it is made of, its volumes
crossed. -/
theorem PodConfiguration.ofSwift_init [Host] [RawValuesCopied]
    {configuration : Rust.PodConfiguration} {made : PodConfiguration}
    (hbootLog : ∀ bootLog ∈ configuration.bootLog, bootLog.PathKept)
    (hvolumes : ∀ volume ∈ configuration.volumes, volume.source.LocationKept)
    (h : init configuration = .ok made) : Rust.PodConfiguration.ofSwift made =
      { configuration with volumes := configuration.volumes.map Rust.PodVolume.crossed } := by
  rw [init_eq] at h
  obtain ⟨interfaces, hinterfaces, h⟩ := bind_eq_ok.mp h
  obtain ⟨bootLog, hlog, h⟩ := bind_eq_ok.mp h
  obtain ⟨volumes, hmade, h⟩ := bind_eq_ok.mp h
  cases h
  simp [Rust.PodConfiguration.ofSwift, ofRust, ofSwift_interfaces hinterfaces,
    ofSwift_bootLog hbootLog hlog, ofSwift_volumes hvolumes hmade, Function.comp_def]

/-- A pod's container is made as one of its own is, without interfaces or a boot log. -/
theorem PodContainerConfiguration.init_eq [Host] [RawValuesCopied]
    (configuration : Rust.PodContainerConfiguration) :
    PodContainerConfiguration.init configuration = (do
      let process ← LinuxProcessConfiguration.init configuration.process
      return {
        process
        cpus := int configuration.cpus
        memoryInBytes := configuration.memoryInBytes
        hostname := configuration.hostname
        sysctl := .uniquing configuration.sysctl.toList
        mounts := configuration.mounts.map .ofRust
        maskedPaths := configuration.maskedPaths
        readonlyPaths := configuration.readonlyPaths
        sockets := configuration.sockets.map fun socket => socket.handle.configuration
        dns := configuration.dns.map .ofRust
        hosts := configuration.hosts.map .ofRust
        seccompProfile := configuration.seccompProfile.map .ofRust
        useInit := configuration.useInit
        unified := .uniquing configuration.unified.toList
        unbridged := External.podContainerFields }) := by
  have hseccomp : (ifPresent configuration.hasSeccompProfile do
      lentSeccompProfile (← configuration.lentSeccompMode) configuration.lentSeccompProfile) =
      .ok (configuration.seccompProfile.map .ofRust) := by
    cases h : configuration.seccompProfile with
    | none => simp [h, ifPresent]
    | some profile => simp [h, ifPresent, lentSeccompProfile_eq]
  simp only [PodContainerConfiguration.init, hseccomp]
  simp [DNS.init_eq, Hosts.init_eq, Mount.init_eq]

theorem PodContainerConfiguration.onlyThrows_init [Host] [RawValuesCopied]
    (configuration : Rust.PodContainerConfiguration) :
    OnlyThrows (PodContainerConfiguration.init configuration) := by
  rw [init_eq]
  exact (LinuxProcessConfiguration.onlyThrows_init _).bind fun _ _ => .ok _

end Swift

/-- Unless Swift throws while it makes a pod configuration of Rust's, it makes one, and filling any
Rust configuration from it leaves Rust's, with its volumes crossed. -/
theorem Rust.podConfiguration_crosses [Host] [RawValuesCopied]
    (configuration seed : PodConfiguration)
    (hthrows : ∀ error, Swift.PodConfiguration.init configuration ≠ .error (.thrown error))
    (hbootLog : ∀ bootLog ∈ configuration.bootLog, bootLog.PathKept)
    (hvolumes : ∀ volume ∈ configuration.volumes, volume.source.LocationKept) :
    ∃ made, Swift.PodConfiguration.init configuration = .ok made ∧
      Swift.PodConfiguration.fill seed made =
        .ok { configuration with volumes := configuration.volumes.map PodVolume.crossed } := by
  cases h : Swift.PodConfiguration.init configuration with
  | error stop =>
    obtain ⟨error, rfl⟩ := Swift.PodConfiguration.onlyThrows_init configuration stop h
    exact absurd h (hthrows error)
  | ok made =>
    refine ⟨made, rfl, ?_⟩
    rw [Swift.PodConfiguration.fill_eq, Swift.PodConfiguration.ofSwift_init hbootLog hvolumes h]

/-- A pod with every kind of part, the longest timeout among them. -/
def Rust.PodConfiguration.sample : @PodConfiguration .plain :=
  let _ := External.plain
  { interfaces := [.nat ⟨⟨⟨3232235520⟩, ⟨24⟩⟩, none, none, some ⟨1, none⟩, none, 1500⟩]
    virtualization := true
    bootLog := some (.fileHandle 7)
    shareProcessNamespace := true
    hostname := none
    dns := some ⟨[], some "local", [], ["ndots:2"]⟩
    hosts := some ⟨[⟨"::1", [], some "six"⟩, ⟨"127.0.0.1", ["localhost"], none⟩], none⟩
    volumes := [
      ⟨"remote", .nbd "nbd://host:10809" (some Duration.max) true, "ext4"⟩,
      ⟨"disk", .diskImage (.from "/disk.img") false, "ext4"⟩,
      ⟨"scratch", .tmpfs (some 1024), ""⟩]
    ociRuntimePath := some "/usr/bin/crun"
    seccompProfile := .default }

omit [Runtime] [External] in
theorem Rust.sample_podConfiguration_crosses :
    let _ := Runtime.ascii
    let _ := External.plain
    let _ := Host.next
    let pod := PodConfiguration.sample
    ∃ made, Swift.PodConfiguration.init pod = .ok made ∧
      Swift.PodConfiguration.fill pod made =
        .ok { pod with volumes := pod.volumes.map PodVolume.crossed } := by
  let _ := Runtime.ascii
  let _ := External.plain
  let _ := Host.next
  have _ := RawValuesCopied.ascii
  refine podConfiguration_crosses .sample .sample ?_ ?_ ?_
  · rintro error ⟨⟩
  · rintro _ ⟨⟩
    trivial
  · intro volume hmem
    simp only [PodConfiguration.sample, List.mem_cons, List.not_mem_nil, or_false] at hmem
    obtain rfl | rfl | rfl := hmem
    · rintro _ ⟨⟩
      rfl
    · intro _ _
      rfl
    · trivial

/-! ### Crossing again -/

omit [Runtime] [External] in
theorem Duration.crossed_eq (timeout : Duration) :
    timeout.crossed = (tryFromSecsF64 (.finite timeout.seconds)).getD max := by
  unfold crossed
  rw [asSecsF64_eq]

omit [Runtime] [External] in
theorem Duration.crossed_crossed (timeout : Duration) :
    timeout.crossed.crossed = timeout.crossed := by
  rw [timeout.crossed_eq]
  cases h : tryFromSecsF64 (.finite timeout.seconds) with
  | none =>
    -- Too many seconds for a duration stand for the longest, which crosses as too many.
    have hlongest : tryFromSecsF64 max.asSecsF64 = none := by decide +kernel
    show (tryFromSecsF64 max.asSecsF64).getD max = max
    rw [hlongest]
    rfl
  | some back =>
    show back.crossed = back
    rw [back.crossed_eq, seconds_settle h, h]
    rfl

omit [Runtime] [External] in
theorem Duration.crossed_of_lt {timeout : Duration} (h : timeout.secs.toNat < 2 ^ 23) :
    timeout.crossed = timeout := by
  rw [timeout.crossed_eq, tryFromSecsF64_seconds h]
  rfl

/-- The timeout is short enough for its seconds to tell each nanosecond. -/
def Rust.PodVolumeSource.TimeoutTold : PodVolumeSource → Prop
  | .nbd _ timeout _ => ∀ duration ∈ timeout, duration.secs.toNat < 2 ^ 23
  | .diskImage .. => True
  | .tmpfs _ => True

namespace Rust.PodVolume

omit [Runtime] [External] in
theorem crossed_crossed (volume : PodVolume) : volume.crossed.crossed = volume.crossed := by
  obtain ⟨name, source, format⟩ := volume
  cases source with
  | nbd url timeout readOnly =>
    cases timeout with
    | none => rfl
    | some timeout =>
      show (⟨name, .nbd url (some timeout.crossed.crossed) readOnly, format⟩ : PodVolume) =
        ⟨name, .nbd url (some timeout.crossed) readOnly, format⟩
      rw [timeout.crossed_crossed]
  | diskImage path readOnly => rfl
  | tmpfs sizeBytes => rfl

omit [Runtime] [External] in
theorem crossed_of_told {volume : PodVolume} (h : volume.source.TimeoutTold) :
    volume.crossed = volume := by
  obtain ⟨name, source, format⟩ := volume
  cases source with
  | nbd url timeout readOnly =>
    cases timeout with
    | none => rfl
    | some timeout =>
      show (⟨name, .nbd url (some timeout.crossed) readOnly, format⟩ : PodVolume) =
        ⟨name, .nbd url (some timeout) readOnly, format⟩
      rw [Duration.crossed_of_lt (h timeout rfl)]
  | diskImage path readOnly => rfl
  | tmpfs sizeBytes => rfl

omit [Runtime] in
theorem locationKept_crossed {volume : PodVolume} (h : volume.source.LocationKept) :
    volume.crossed.source.LocationKept := by
  obtain ⟨name, source, format⟩ := volume
  cases source with
  | nbd url timeout readOnly => exact h
  | diskImage path readOnly => exact h
  | tmpfs sizeBytes => exact h

/-- Swift takes a volume that has crossed as it took the volume. -/
theorem init_crossed {volume : PodVolume} {made : Swift.PodVolume}
    (h : Swift.PodVolume.init volume = .ok made) :
    ∃ again, Swift.PodVolume.init volume.crossed = .ok again := by
  obtain ⟨name, source, format⟩ := volume
  cases source with
  | nbd url timeout readOnly =>
    obtain ⟨source, hsource, -⟩ := bind_eq_ok.mp h
    simp only [Swift.PodVolumeSource.init, sourceKind, location, Option.bind_some] at hsource
    split at hsource
    · next found hfound =>
      have hagain : Swift.PodVolumeSource.init (crossed ⟨name, .nbd url timeout readOnly, format⟩) =
          .ok (.nbd found (crossed ⟨name, .nbd url timeout readOnly, format⟩).timeout
            readOnly) := by
        simp only [Swift.PodVolumeSource.init, crossed, PodVolumeSource.crossed, sourceKind,
          location, Option.bind_some, hfound]
        rfl
      exact ⟨_, bind_eq_ok.mpr ⟨_, hagain, rfl⟩⟩
    · cases hsource
  | diskImage path readOnly => exact ⟨made, h⟩
  | tmpfs sizeBytes => exact ⟨made, h⟩

theorem mapM_init_crossed {volumes : List PodVolume} {made : List Swift.PodVolume}
    (h : volumes.mapM Swift.PodVolume.init = .ok made) :
    ∃ again, (volumes.map crossed).mapM Swift.PodVolume.init = .ok again := by
  induction mapM_eq_ok.mp h with
  | nil => exact ⟨[], rfl⟩
  | cons hfirst hrest ih =>
    obtain ⟨first, hagain⟩ := init_crossed hfirst
    obtain ⟨rest, hothers⟩ := ih (mapM_eq_ok.mpr hrest)
    refine ⟨first :: rest, ?_⟩
    rw [List.map_cons, List.mapM_cons, hagain, ok_bind, hothers]
    rfl

end Rust.PodVolume

/-- What Swift fills from a pod configuration it takes again, and fills as it is: a timeout that one
crossing rounds is not rounded by the next. The first crossing changes nothing either where the
timeouts are short. -/
theorem Rust.podConfiguration_settles [Host] [RawValuesCopied]
    (configuration seed other : PodConfiguration)
    {made : Swift.PodConfiguration} (hmade : Swift.PodConfiguration.init configuration = .ok made)
    (hbootLog : ∀ bootLog ∈ configuration.bootLog, bootLog.PathKept)
    (hvolumes : ∀ volume ∈ configuration.volumes, volume.source.LocationKept) :
    ∃ filled, Swift.PodConfiguration.fill seed made = .ok filled ∧
      (∃ again, Swift.PodConfiguration.init filled = .ok again ∧
        Swift.PodConfiguration.fill other again = .ok filled) ∧
      ((∀ volume ∈ configuration.volumes, volume.source.TimeoutTold) →
        filled = configuration) := by
  refine ⟨{ configuration with volumes := configuration.volumes.map PodVolume.crossed }, ?_, ?_, ?_⟩
  · rw [Swift.PodConfiguration.fill_eq, Swift.PodConfiguration.ofSwift_init hbootLog hvolumes hmade]
  · let crossed : PodConfiguration :=
      { configuration with volumes := configuration.volumes.map PodVolume.crossed }
    have hlog : ∀ bootLog ∈ crossed.bootLog, bootLog.PathKept := hbootLog
    have hkept : ∀ volume ∈ crossed.volumes, volume.source.LocationKept := by
      intro volume hmem
      obtain ⟨original, horiginal, rfl⟩ := List.mem_map.mp hmem
      exact PodVolume.locationKept_crossed (hvolumes original horiginal)
    obtain ⟨again, hagain⟩ : ∃ again, Swift.PodConfiguration.init crossed = .ok again := by
      rw [Swift.PodConfiguration.init_eq] at hmade ⊢
      obtain ⟨interfaces, hinterfaces, h⟩ := bind_eq_ok.mp hmade
      obtain ⟨bootLog, hbootLog, h⟩ := bind_eq_ok.mp h
      obtain ⟨volumes, hfirst, -⟩ := bind_eq_ok.mp h
      obtain ⟨rest, hrest⟩ := PodVolume.mapM_init_crossed hfirst
      exact ⟨_, bind_eq_ok.mpr ⟨interfaces, hinterfaces, bind_eq_ok.mpr ⟨bootLog, hbootLog,
        bind_eq_ok.mpr ⟨rest, hrest, rfl⟩⟩⟩⟩
    refine ⟨again, hagain, ?_⟩
    have hsettled : PodVolume.crossed ∘ PodVolume.crossed = PodVolume.crossed :=
      funext PodVolume.crossed_crossed
    rw [Swift.PodConfiguration.fill_eq, Swift.PodConfiguration.ofSwift_init hlog hkept hagain]
    simp only [crossed, List.map_map, hsettled]
  · intro htold
    have hsame : configuration.volumes.map PodVolume.crossed = configuration.volumes := by
      rw [← List.map_id configuration.volumes, List.map_map]
      exact List.map_congr_left fun volume hmem => PodVolume.crossed_of_told (htold volume hmem)
    rw [hsame]

omit [Runtime] [External] in
theorem Rust.sample_podConfiguration_settles :
    let _ := Runtime.ascii
    let _ := External.plain
    let _ := Host.next
    let pod := PodConfiguration.sample
    ∃ made filled again, Swift.PodConfiguration.init pod = .ok made ∧
      Swift.PodConfiguration.fill pod made = .ok filled ∧
      Swift.PodConfiguration.init filled = .ok again ∧
      Swift.PodConfiguration.fill pod again = .ok filled := by
  let _ := Runtime.ascii
  let _ := External.plain
  let _ := Host.next
  have _ := RawValuesCopied.ascii
  obtain ⟨made, hmade⟩ : ∃ made, Swift.PodConfiguration.init PodConfiguration.sample = .ok made :=
    ⟨_, rfl⟩
  obtain ⟨filled, hfilled, ⟨again, hagain, hrefilled⟩, -⟩ :=
    podConfiguration_settles .sample .sample .sample hmade
      (by
        rintro _ ⟨⟩
        trivial)
      (by
        intro volume hmem
        simp only [PodConfiguration.sample, List.mem_cons, List.not_mem_nil, or_false] at hmem
        obtain rfl | rfl | rfl := hmem
        · rintro _ ⟨⟩
          rfl
        · intro _ _
          rfl
        · trivial)
  exact ⟨made, filled, again, hmade, hfilled, hagain, hrefilled⟩

end ContainerBridge
