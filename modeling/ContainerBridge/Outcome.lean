import ContainerBridge.Address.Types
import ContainerBridge.Image.Types
import ContainerBridge.Runtime.Bytes
import ContainerBridge.Statistics.Types

/-! What Swift hands back to Rust: a value with its dynamic type, or the failure of a throwing call.
Rust reads it with getters that cast it, and a cast to another type is a trap. -/

namespace ContainerBridge

variable [Runtime]

/-- The Swift types an outcome can hold, other than `Absent`, arrays and dictionaries. -/
inductive ElementType where
  | bool | int32 | int64 | uint64 | string
  -- What a delete returns: the digests removed and the bytes freed.
  | deleted
  -- The errors Rust reads case by case.
  | fdOpsError | volumeSubpathError
  -- The OCI runtime spec.
  | spec | hooks | hook | process | box | user | ociLinuxCapabilities | posixRlimit | ociMount
  | root | linux | linuxIDMapping | linuxNamespace | linuxDevice | linuxPersonality
  | linuxSeccomp | linuxSyscall | linuxSeccompArg | linuxResources | linuxMemory | linuxCPU
  | linuxPids | linuxBlockIo | linuxWeightDevice | linuxThrottleDevice | linuxHugepageLimit
  | linuxNetwork | linuxInterfacePriority | linuxRdma | linuxDeviceCgroup
  -- The OCI image types.
  | platform | descriptor | index | manifest | imageConfig | rootfs | history | image
  -- A container's statistics.
  | containerStatistics | processStatistics | memoryStatistics | cpuStatistics | blockIODevice
  | networkStatistics | networkProtocolCounters | memoryEventStatistics | filesystemStatistics
  -- The addresses, and what a CIDR block stores.
  | uint128 | ipv4Address | ipv6Address | ipAddress | netPrefix | cidrV4 | cidrV6 | cidr
  | macAddress
  -- The value of an extended attribute.
  | data
  deriving DecidableEq

def ElementType.denote : ElementType → Type
  | .bool => Bool
  | .int32 => Int32
  | .int64 => Int64
  | .uint64 => UInt64
  | .string => String
  | .deleted => List String × UInt64
  | .fdOpsError => FdOpsError
  | .volumeSubpathError => VolumeSubpathError
  | .spec => Swift.Spec
  | .hooks => Swift.Hooks
  | .hook => Swift.Hook
  | .process => Swift.Process
  | .box => Swift.Box
  | .user => Swift.User
  | .ociLinuxCapabilities => Swift.OciLinuxCapabilities
  | .posixRlimit => Swift.POSIXRlimit
  | .ociMount => Swift.OciMount
  | .root => Swift.Root
  | .linux => Swift.Linux
  | .linuxIDMapping => Swift.LinuxIDMapping
  | .linuxNamespace => Swift.LinuxNamespace
  | .linuxDevice => Swift.LinuxDevice
  | .linuxPersonality => Swift.LinuxPersonality
  | .linuxSeccomp => Swift.LinuxSeccomp
  | .linuxSyscall => Swift.LinuxSyscall
  | .linuxSeccompArg => Swift.LinuxSeccompArg
  | .linuxResources => Swift.LinuxResources
  | .linuxMemory => Swift.LinuxMemory
  | .linuxCPU => Swift.LinuxCPU
  | .linuxPids => Swift.LinuxPids
  | .linuxBlockIo => Swift.LinuxBlockIO
  | .linuxWeightDevice => Swift.LinuxWeightDevice
  | .linuxThrottleDevice => Swift.LinuxThrottleDevice
  | .linuxHugepageLimit => Swift.LinuxHugepageLimit
  | .linuxNetwork => Swift.LinuxNetwork
  | .linuxInterfacePriority => Swift.LinuxInterfacePriority
  | .linuxRdma => Swift.LinuxRdma
  | .linuxDeviceCgroup => Swift.LinuxDeviceCgroup
  | .platform => Swift.Platform
  | .descriptor => Swift.Descriptor
  | .index => Swift.Index
  | .manifest => Swift.Manifest
  | .imageConfig => Swift.ImageConfig
  | .rootfs => Swift.Rootfs
  | .history => Swift.History
  | .image => Swift.Image
  | .containerStatistics => Swift.ContainerStatistics
  | .processStatistics => Swift.ProcessStatistics
  | .memoryStatistics => Swift.MemoryStatistics
  | .cpuStatistics => Swift.CPUStatistics
  | .blockIODevice => Swift.BlockIODevice
  | .networkStatistics => Swift.NetworkStatistics
  | .networkProtocolCounters => Swift.NetworkProtocolCounters
  | .memoryEventStatistics => Swift.MemoryEventStatistics
  | .filesystemStatistics => Swift.FilesystemStatistics
  | .uint128 => BitVec 128
  | .ipv4Address => Swift.IPv4Address
  | .ipv6Address => Swift.IPv6Address
  | .ipAddress => Swift.IPAddress
  | .netPrefix => Swift.Prefix
  | .cidrV4 => Swift.StoredCIDRv4
  | .cidrV6 => Swift.StoredCIDRv6
  | .cidr => Swift.CIDR
  | .macAddress => Swift.MACAddress
  | .data => Swift.IndexedData

inductive SwiftType where
  | one (type : ElementType)
  | array (element : ElementType)
  | dictionary (value : ElementType)
  deriving DecidableEq

abbrev SwiftType.denote : SwiftType → Type
  | .one type => type.denote
  | .array element => List element.denote
  | .dictionary value => Dictionary value.denote

/-- Swift's `Any`, with `absent` for what an outcome holds in place of `nil`, and `anys` for an
`[Any]`. -/
inductive Any where
  | absent
  | of (type : SwiftType) (value : type.denote)
  | anys (values : List Any)

/-- The name an outcome knows a type by, when it holds one, an array of them or a dictionary. -/
class Element (α : Type) where
  type : ElementType
  denote_type : type.denote = α

instance (type : ElementType) : Element type.denote := ⟨type, rfl⟩

/-- A type an outcome can hold. -/
class Held (α : Type) where
  type : SwiftType
  denote_type : type.denote = α

instance {α : Type} [Element α] : Held α := ⟨.one (Element.type α), Element.denote_type⟩

instance {α : Type} [Element α] : Held (List α) :=
  ⟨.array (Element.type α), congrArg List Element.denote_type⟩

instance {α : Type} [Element α] : Held (Dictionary α) :=
  ⟨.dictionary (Element.type α), congrArg Dictionary Element.denote_type⟩

instance : Element Bool := ⟨.bool, rfl⟩
instance : Element Int32 := ⟨.int32, rfl⟩
instance : Element Int64 := ⟨.int64, rfl⟩
instance : Element UInt64 := ⟨.uint64, rfl⟩
instance : Element String := ⟨.string, rfl⟩
instance : Element (List String × UInt64) := ⟨.deleted, rfl⟩
instance : Element FdOpsError := ⟨.fdOpsError, rfl⟩
instance : Element VolumeSubpathError := ⟨.volumeSubpathError, rfl⟩
instance : Element Swift.Spec := ⟨.spec, rfl⟩
instance : Element Swift.Hooks := ⟨.hooks, rfl⟩
instance : Element Swift.Hook := ⟨.hook, rfl⟩
instance : Element Swift.Process := ⟨.process, rfl⟩
instance : Element Swift.Box := ⟨.box, rfl⟩
instance : Element Swift.User := ⟨.user, rfl⟩
instance : Element Swift.OciLinuxCapabilities := ⟨.ociLinuxCapabilities, rfl⟩
instance : Element Swift.POSIXRlimit := ⟨.posixRlimit, rfl⟩
instance : Element Swift.OciMount := ⟨.ociMount, rfl⟩
instance : Element Swift.Root := ⟨.root, rfl⟩
instance : Element Swift.Linux := ⟨.linux, rfl⟩
instance : Element Swift.LinuxIDMapping := ⟨.linuxIDMapping, rfl⟩
instance : Element Swift.LinuxNamespace := ⟨.linuxNamespace, rfl⟩
instance : Element Swift.LinuxDevice := ⟨.linuxDevice, rfl⟩
instance : Element Swift.LinuxPersonality := ⟨.linuxPersonality, rfl⟩
instance : Element Swift.LinuxSeccomp := ⟨.linuxSeccomp, rfl⟩
instance : Element Swift.LinuxSyscall := ⟨.linuxSyscall, rfl⟩
instance : Element Swift.LinuxSeccompArg := ⟨.linuxSeccompArg, rfl⟩
instance : Element Swift.LinuxResources := ⟨.linuxResources, rfl⟩
instance : Element Swift.LinuxMemory := ⟨.linuxMemory, rfl⟩
instance : Element Swift.LinuxCPU := ⟨.linuxCPU, rfl⟩
instance : Element Swift.LinuxPids := ⟨.linuxPids, rfl⟩
instance : Element Swift.LinuxBlockIO := ⟨.linuxBlockIo, rfl⟩
instance : Element Swift.LinuxWeightDevice := ⟨.linuxWeightDevice, rfl⟩
instance : Element Swift.LinuxThrottleDevice := ⟨.linuxThrottleDevice, rfl⟩
instance : Element Swift.LinuxHugepageLimit := ⟨.linuxHugepageLimit, rfl⟩
instance : Element Swift.LinuxNetwork := ⟨.linuxNetwork, rfl⟩
instance : Element Swift.LinuxInterfacePriority := ⟨.linuxInterfacePriority, rfl⟩
instance : Element Swift.LinuxRdma := ⟨.linuxRdma, rfl⟩
instance : Element Swift.LinuxDeviceCgroup := ⟨.linuxDeviceCgroup, rfl⟩
instance : Element Swift.Platform := ⟨.platform, rfl⟩
instance : Element Swift.Descriptor := ⟨.descriptor, rfl⟩
instance : Element Swift.Index := ⟨.index, rfl⟩
instance : Element Swift.Manifest := ⟨.manifest, rfl⟩
instance : Element Swift.ImageConfig := ⟨.imageConfig, rfl⟩
instance : Element Swift.Rootfs := ⟨.rootfs, rfl⟩
instance : Element Swift.History := ⟨.history, rfl⟩
instance : Element Swift.Image := ⟨.image, rfl⟩
instance : Element Swift.ContainerStatistics := ⟨.containerStatistics, rfl⟩
instance : Element Swift.ProcessStatistics := ⟨.processStatistics, rfl⟩
instance : Element Swift.MemoryStatistics := ⟨.memoryStatistics, rfl⟩
instance : Element Swift.CPUStatistics := ⟨.cpuStatistics, rfl⟩
instance : Element Swift.BlockIODevice := ⟨.blockIODevice, rfl⟩
instance : Element Swift.NetworkStatistics := ⟨.networkStatistics, rfl⟩
instance : Element Swift.NetworkProtocolCounters := ⟨.networkProtocolCounters, rfl⟩
instance : Element Swift.MemoryEventStatistics := ⟨.memoryEventStatistics, rfl⟩
instance : Element Swift.FilesystemStatistics := ⟨.filesystemStatistics, rfl⟩
instance : Element (BitVec 128) := ⟨.uint128, rfl⟩
instance : Element Swift.IPv4Address := ⟨.ipv4Address, rfl⟩
instance : Element Swift.IPv6Address := ⟨.ipv6Address, rfl⟩
instance : Element Swift.IPAddress := ⟨.ipAddress, rfl⟩
instance : Element Swift.Prefix := ⟨.netPrefix, rfl⟩
instance : Element Swift.StoredCIDRv4 := ⟨.cidrV4, rfl⟩
instance : Element Swift.StoredCIDRv6 := ⟨.cidrV6, rfl⟩
instance : Element Swift.CIDR := ⟨.cidr, rfl⟩
instance : Element Swift.MACAddress := ⟨.macAddress, rfl⟩
instance : Element Swift.IndexedData := ⟨.data, rfl⟩

/-- A value as `Any`. -/
def Any.box {α : Type} [Held α] (value : α) : Any :=
  .of (Held.type α) (cast Held.denote_type.symm value)

/-- `any as? α`. -/
def Any.as? (α : Type) [Held α] : Any → Option α
  | .absent => none
  | .of type value =>
    if h : type = Held.type α then some (cast (h ▸ Held.denote_type) value) else none
  -- No type a getter casts to is an array of mixed elements.
  | .anys _ => none

/-- `absent(_:)`, with `nil` as `absent`. -/
def absent {α : Type} [Held α] (value : Option α) : Any := value.elim .absent .box

@[simp] theorem Any.as?_box {α : Type} [Held α] (value : α) : (box value).as? α = some value := by
  simp [as?, box]

/-- `CzOutcome`: a value, or the failure of what was to make it. -/
structure CzOutcome where
  value : Option Any
  failure : Option String := none
  failureCode : Option String := none
  fdOpsFailure : Option FdOpsError := none
  volumeSubpathFailure : Option VolumeSubpathError := none

namespace CzOutcome

/-- Keeps what `body` returns, or the message and what Rust asks of the error it throws. -/
def init (body : Except SwiftError Any) : CzOutcome :=
  match body with
  | .ok value => { value := some value }
  | .error error =>
    { value := none
      failure := some error.description
      failureCode := match error with
        | .containerization _ code => some code
        | _ => none
      fdOpsFailure := match error with
        | .fdOps _ error => some error
        | _ => none
      volumeSubpathFailure := match error with
        | .volumeSubpath _ error => some error
        | _ => none }

/-- An outcome holding part of another's value, or `Absent` for `nil`. -/
def holding {α : Type} [Held α] (part : Option α) : CzOutcome := init (.ok (absent part))

/-- An outcome holding an `[Any]?`. -/
def holdingAnys (part : Option (List Any)) : CzOutcome := init (.ok (part.elim .absent .anys))

/-- The value, if it is an `α`. -/
def held (outcome : CzOutcome) (α : Type) [Held α] : Option α := outcome.value.bind (Any.as? α)

/-- What a cast makes, or the trap of one that fails. -/
def cast {α : Type} (value : Option α) : Crossing α :=
  match value with
  | some value => .ok value
  | none => .error (.trap "Rust took one type from an outcome holding another")

/-- `taken() as α`. -/
def taken (outcome : CzOutcome) (α : Type) [Held α] : Crossing α := cast (outcome.held α)

/-! ### Optionals, lists and maps -/

/-- Whether an optional result is there, rather than `Absent`. -/
def isSome (outcome : CzOutcome) : Bool :=
  match outcome.value with
  | some .absent => false
  | _ => true

/-- A held array, its elements each with the type they have in it. -/
def elements (outcome : CzOutcome) : Crossing (List Any) :=
  match outcome.value with
  | some (.of (.array element) values) => .ok (values.map (.of (.one element)))
  | some (.anys values) => .ok values
  | _ => .error (.trap "Rust took an array from an outcome holding none")

def len (outcome : CzOutcome) : Crossing Nat := do
  return (← outcome.elements).length

/-- The `index`th element of a held array, as an outcome of its own. -/
def atIndex (outcome : CzOutcome) (index : Nat) : Crossing CzOutcome := do
  match (← outcome.elements)[index]? with
  | some value => return init (.ok value)
  | none => .error (.trap "Index out of range")

/-- A held `[String: String]`'s keys, and its values in the same order. -/
def mapKeys (outcome : CzOutcome) : Crossing (List String) := do
  return (← outcome.taken (Dictionary String)).entries.map Prod.fst

def mapValues (outcome : CzOutcome) : Crossing (List String) := do
  return (← outcome.taken (Dictionary String)).entries.map Prod.snd

/-- The entries of a held `[String: T]`, sorted by their keys, and what `T` is. -/
def sortedEntries (outcome : CzOutcome) :
    Crossing ((value : ElementType) × List (String × value.denote)) :=
  match outcome.value with
  | some (.of (.dictionary value) held) =>
    .ok ⟨value, held.entries.mergeSort fun a b => canonical a.1 ≤ canonical b.1⟩
  | _ => .error (.trap "Rust took a dictionary from an outcome holding none")

/-- A held `[String: T]`'s keys, sorted. -/
def entryKeys (outcome : CzOutcome) : Crossing (List String) := do
  return (← outcome.sortedEntries).2.map Prod.fst

/-- A held `[String: T]`'s values, in the order of `entryKeys`. -/
def entryValues (outcome : CzOutcome) : Crossing CzOutcome := do
  let ⟨value, entries⟩ ← outcome.sortedEntries
  return init (.ok (.of (.array value) (entries.map Prod.snd)))

/-! ### Primitives -/

/-- A `UInt64`, or the bytes freed by a delete. -/
def number (outcome : CzOutcome) : Crossing UInt64 :=
  match outcome.held (List String × UInt64) with
  | some deleted => .ok deleted.2
  | none => outcome.taken UInt64

/-- A `[String]`, or the digests removed by a delete. -/
def strings (outcome : CzOutcome) : Crossing (List String) :=
  match outcome.held (List String × UInt64) with
  | some deleted => .ok deleted.1
  | none => outcome.taken (List String)

/-! ### Rust's readers -/

variable {α : Type}

/-- What an outcome holds, or `None` for `Absent`. -/
def optional (outcome : CzOutcome) (read : CzOutcome → Crossing α) : Crossing (Option α) :=
  if outcome.isSome then some <$> read outcome else .ok none

/-- Each element of a held list. -/
def list (outcome : CzOutcome) (read : CzOutcome → Crossing α) : Crossing (List α) := do
  ContainerBridge.list (← outcome.len) fun index => do read (← outcome.atIndex index)

/-- A held `[String: String]`. -/
def map (outcome : CzOutcome) : Crossing (BTreeMap String) := do
  return .collect ((← outcome.mapKeys).zip (← outcome.mapValues))

/-- A held `[String: T]`, each value read by `read`. -/
def mapOf (outcome : CzOutcome) (read : CzOutcome → Crossing α) : Crossing (BTreeMap α) := do
  return .collect ((← outcome.entryKeys).zip (← (← outcome.entryValues).list read))

/-! ### Reading back what is held -/

@[simp] theorem taken_holding [Held α] (value : α) :
    (holding (some value)).taken α = .ok value := by
  simp [holding, absent, init, taken, held, cast]

@[simp] theorem strings_holding (values : List String) :
    (holding (some values)).strings = .ok values := rfl

@[simp] theorem number_holding (value : UInt64) : (holding (some value)).number = .ok value := rfl

variable {β : Type}

@[simp] theorem optional_holding [Held α] (part : Option α) (read : CzOutcome → Crossing β) :
    (holding part).optional read = part.mapM fun value => read (holding (some value)) := by
  cases part <;> simp [holding, absent, init, optional, isSome, Any.box]

theorem list_eq_mapM {outcome : CzOutcome} (values : List Any)
    (h : outcome.elements = .ok values) (read : CzOutcome → Crossing β) :
    outcome.list read = values.mapM fun value => read (init (.ok value)) := by
  simp only [list, len, h, Carry.ok_bind, Carry.pure_eq_ok]
  refine ContainerBridge.list_eq_mapM fun i hi => ?_
  simp [atIndex, h, hi]

theorem list_array (type : ElementType) (values : List type.denote)
    (read : CzOutcome → Crossing β) :
    (init (.ok (.of (.array type) values))).list read =
      values.mapM fun value => read (init (.ok (.of (.one type) value))) := by
  rw [list_eq_mapM (values.map (.of (.one type))) rfl, List.mapM_map]
  rfl

theorem list_holdingAnys (values : List Any) (read : CzOutcome → Crossing β) :
    (holdingAnys (some values)).list read = values.mapM fun value => read (init (.ok value)) :=
  list_eq_mapM values rfl read

/-- Values that may be missing, each read as an outcome of its own. -/
@[simp] theorem list_absent [Held α] (values : List (Option α)) (read : CzOutcome → Crossing β) :
    (holdingAnys (some (values.map absent))).list (·.optional read) =
      values.mapM (·.mapM fun value => read (holding (some value))) := by
  rw [list_holdingAnys, List.mapM_map]
  exact congrArg (List.mapM · values) (funext fun value => optional_holding value read)

@[simp] theorem list_holding [Element α] (values : List α) (read : CzOutcome → Crossing β) :
    (holding (some values)).list read = values.mapM fun value => read (holding (some value)) := by
  rename_i inst
  obtain ⟨type, rfl⟩ := inst
  exact list_array type values read

@[simp] theorem map_holding (value : Dictionary String) :
    (holding (some value)).map = .ok (.collect value.entries) := by
  simp [map, mapKeys, mapValues, List.zip_map']

/-- Each value of a held dictionary is read, in the order of the keys it goes with. -/
theorem mapOf_holding [Element α] (value : Dictionary α) {read : CzOutcome → Crossing β}
    {f : α → β} (hread : ∀ held, read (holding (some held)) = .ok (f held)) :
    ∃ entries, List.Perm entries (value.entries.map fun entry => (entry.1, f entry.2)) ∧
      (holding (some value)).mapOf read = .ok (.collect entries) := by
  rename_i inst
  obtain ⟨type, rfl⟩ := inst
  let sorted := value.entries.mergeSort fun a b => canonical a.1 ≤ canonical b.1
  have h : (holding (some value)).sortedEntries = .ok ⟨type, sorted⟩ := rfl
  have hvalues : (init (.ok (.of (.array type) (sorted.map Prod.snd)))).list read =
      .ok ((sorted.map Prod.snd).map f) := by
    rw [list_array, ← Carry.mapM_ok]
    exact congrArg (List.mapM · _) (funext hread)
  refine ⟨sorted.map fun entry => (entry.1, f entry.2), (List.mergeSort_perm _ _).map _, ?_⟩
  simp only [mapOf, entryKeys, entryValues, h, Carry.ok_bind, Carry.pure_eq_ok, hvalues,
    List.map_map, List.zip_map']
  rfl

/-- A map whose keys Swift takes apart comes back from a dictionary of its values, when each of
them does. -/
theorem mapOf_uniquing [Element α] {map : BTreeMap β} (hkeys : KeysDistinct map.toList)
    (send : β → α) {read : CzOutcome → Crossing β} (back : α → β)
    (hread : ∀ value, read (holding (some value)) = .ok (back value))
    (hback : ∀ original, back (send original) = original) :
    (holding (some (Dictionary.uniquing
      (map.toList.map fun entry => (entry.1, send entry.2))))).mapOf read = .ok map := by
  obtain ⟨entries, hperm, hmap⟩ := mapOf_holding (Dictionary.uniquing
    (map.toList.map fun entry => (entry.1, send entry.2))) hread
  have hsent : KeysDistinct (map.toList.map fun entry => (entry.1, send entry.2)) := by
    simpa [KeysDistinct, List.map_map, Function.comp_def] using hkeys
  have hentries : entries.Perm map.toList := by
    refine hperm.trans (((Dictionary.uniquing_perm hsent).map _).trans ?_)
    simp [List.map_map, Function.comp_def, hback]
  rw [hmap, collect_perm hentries]

end CzOutcome

/-- Rust's `a` is accepted by the Swift initialiser `send`, and `read` reads it back from an
outcome as `c`. -/
def Crosses {α β γ : Type} [Held β] (send : α → Crossing β) (read : CzOutcome → Crossing γ)
    (a : α) (c : γ) : Prop :=
  Carry.Carries send (fun value => read (CzOutcome.holding (some value))) a c

end ContainerBridge
