import ContainerBridge.Container.Crossing

/-! A virtual machine's configuration, which crosses from Rust to Swift. Its mounts are a map of
lists, lent by two indices: that of an entry, and that of a mount in the entry's list. -/

namespace ContainerBridge

open Carry

variable [Runtime] [External]

/-! ### Rust -/

namespace Rust

structure VMConfiguration where
  cpus : UInt32
  memoryInBytes : UInt64
  interfaces : List Interface
  mountsById : BTreeMap (List Mount)
  bootLog : Option BootLog
  nestedVirtualization : Bool

namespace VMConfiguration

variable (configuration : VMConfiguration)

@[simp] def interfacesLen : Nat := configuration.interfaces.length
@[simp] def interfaceKindAt (index : Nat) : Crossing InterfaceKind := do
  return interfaceKind (← indexed configuration.interfaces index)
@[simp] def natInterfaceAt (index : Nat) : Crossing NATInterface := do
  natInterface (← indexed configuration.interfaces index)
@[simp] def vmnetInterfaceAt (index : Nat) : Crossing CzVmnetInterface := do
  vmnetInterface (← indexed configuration.interfaces index)
@[simp] def mountsByIdEntry : Nat → Crossing (String × List Mount) :=
  entryAt configuration.mountsById
@[simp] def mountsByIdLen : Nat := configuration.mountsById.size
@[simp] def mountsByIdKeyAt (index : Nat) : Crossing String := do
  return (← configuration.mountsByIdEntry index).1
@[simp] def mountsByIdMountsLen (index : Nat) : Crossing Nat := do
  return (← configuration.mountsByIdEntry index).2.length
@[simp] def mountsByIdMountAt (index mount : Nat) : Crossing Mount := do
  indexed (← configuration.mountsByIdEntry index).2 mount
@[simp] def hasBootLog : Bool := configuration.bootLog.isSome
@[simp] def lentBootLog : Crossing BootLog := present configuration.bootLog

end VMConfiguration

end Rust

/-! ### Swift -/

namespace Swift

structure VMConfiguration where
  cpus : Isize
  memoryInBytes : UInt64
  interfaces : List Interface
  mountsById : Dictionary (List Mount)
  bootLog : Option BootLog
  nestedVirtualization : Bool

def VMConfiguration.init [Host] (configuration : Rust.VMConfiguration) :
    Crossing VMConfiguration := do
  return {
    cpus := int configuration.cpus
    memoryInBytes := configuration.memoryInBytes
    interfaces := ← lentInterfaces configuration.interfacesLen configuration.interfaceKindAt
      configuration.natInterfaceAt configuration.vmnetInterfaceAt
    mountsById := ← dictionary configuration.mountsByIdLen configuration.mountsByIdKeyAt
      fun index => do
        list (← configuration.mountsByIdMountsLen index) fun mount => do
          Mount.init (← configuration.mountsByIdMountAt index mount)
    bootLog := ← ifPresent configuration.hasBootLog do
      BootLog.from (← configuration.lentBootLog)
    nestedVirtualization := configuration.nestedVirtualization }

/-! ### Crossing -/

/-- Each entry of the map is read whole, by its place in the map and each mount's in the list. -/
theorem mountsById_eq (configuration : Rust.VMConfiguration) :
    (dictionary configuration.mountsByIdLen configuration.mountsByIdKeyAt fun index => do
      list (← configuration.mountsByIdMountsLen index) fun mount => do
        Mount.init (← configuration.mountsByIdMountAt index mount)) =
    .ok (.uniquing (configuration.mountsById.toList.map fun entry =>
      (entry.1, entry.2.map .ofRust))) := by
  refine dictionary_of_values fun i hi => ?_
  simp [entryAt_of_lt hi, Mount.init_eq]

theorem VMConfiguration.init_eq [Host] (configuration : Rust.VMConfiguration) :
    VMConfiguration.init configuration = (do
      let interfaces ← configuration.interfaces.mapM Interface.init
      let bootLog ← configuration.bootLog.mapM BootLog.from
      return {
        cpus := int configuration.cpus
        memoryInBytes := configuration.memoryInBytes
        interfaces
        mountsById := .uniquing (configuration.mountsById.toList.map fun entry =>
          (entry.1, entry.2.map .ofRust))
        bootLog
        nestedVirtualization := configuration.nestedVirtualization }) := by
  have hinterfaces : lentInterfaces configuration.interfacesLen configuration.interfaceKindAt
      configuration.natInterfaceAt configuration.vmnetInterfaceAt =
        configuration.interfaces.mapM Interface.init := lentInterfaces_indexed _
  rw [VMConfiguration.init, hinterfaces, mountsById_eq]
  simp

/-- No index is out of range, whatever the sizes of the lists and of the map. -/
theorem VMConfiguration.onlyThrows_init [Host] (configuration : Rust.VMConfiguration) :
    OnlyThrows (VMConfiguration.init configuration) := by
  rw [VMConfiguration.init_eq]
  exact .bind (.list fun _ _ => Interface.onlyThrows_init _) fun _ _ =>
    .bind (.option fun _ _ => BootLog.onlyThrows_from _) fun _ _ => .ok _

/-- Swift's interface is of the kind Rust's is, with the same addresses. -/
def Interface.Carried : Rust.Interface → Interface → Prop
  | .nat interface, .nat made => Rust.NATInterface.ofSwift made.toInterfaceFields = interface
  | .vmnet handle, .vmnet made => made = handle.interface
  | _, _ => False

/-- Swift's boot log is of the case Rust's is: the file at the path, or a duplicate of the
descriptor that remembers it. -/
def BootLog.Carried [Host] : Rust.BootLog → BootLog → Prop
  | .file path append, .file url append' =>
    (∃ text ∈ path.path, External.fileURL text = url) ∧ append' = append
  | .fileHandle descriptor, .fileHandle handle =>
    handle.fileDescriptor = Host.dup .bootLog descriptor ∧ lentDescriptor handle = descriptor
  | _, _ => False

omit [Runtime] in
theorem Interface.carried_init {interface : Rust.Interface} {made : Interface}
    (h : Interface.init interface = .ok made) : Carried interface made := by
  cases interface with
  | vmnet handle =>
    cases h
    rfl
  | nat interface =>
    obtain ⟨nat, hnat, hmade⟩ := bind_eq_ok.mp h
    cases hmade
    exact (NATInterface.init_inverts _ _).mp hnat

theorem BootLog.carried_from [Host] {bootLog : Rust.BootLog} {made : BootLog}
    (h : BootLog.from bootLog = .ok made) : Carried bootLog made := by
  cases bootLog with
  | file path append =>
    obtain ⟨url, hurl, hmade⟩ := bind_eq_ok.mp h
    cases hmade
    exact ⟨lentPath_eq_ok.mp hurl, rfl⟩
  | fileHandle descriptor =>
    obtain ⟨handle, hhandle, hmade⟩ := bind_eq_ok.mp h
    cases hmade
    exact ⟨fileDescriptor_duplicateBootLog hhandle, lentDescriptor_duplicateBootLog hhandle⟩

/-- What Swift makes of a configuration whose ids it takes apart: the same interfaces in order, the
same lists of mounts by the same ids, and the same boot log. -/
theorem vmConfiguration_carried [Host] (configuration : Rust.VMConfiguration)
    (hids : KeysDistinct configuration.mountsById.toList) :
    OnlyThrows (VMConfiguration.init configuration) ∧
    ∀ made, VMConfiguration.init configuration = .ok made →
      made.cpus = int configuration.cpus ∧
      made.memoryInBytes = configuration.memoryInBytes ∧
      List.Forall₂ Interface.Carried configuration.interfaces made.interfaces ∧
      (made.mountsById.entries.map fun entry => (entry.1, entry.2.map Rust.Mount.ofSwift)).Perm
        configuration.mountsById.toList ∧
      Option.Rel BootLog.Carried configuration.bootLog made.bootLog ∧
      made.nestedVirtualization = configuration.nestedVirtualization := by
  refine ⟨VMConfiguration.onlyThrows_init configuration, fun made h => ?_⟩
  rw [VMConfiguration.init_eq] at h
  obtain ⟨interfaces, hinterfaces, h⟩ := bind_eq_ok.mp h
  obtain ⟨bootLog, hbootLog, hmade⟩ := bind_eq_ok.mp h
  cases hmade
  refine ⟨rfl, rfl, (mapM_eq_ok.mp hinterfaces).imp fun _ _ => Interface.carried_init, ?_,
    rel_mono (fun _ _ => BootLog.carried_from) (optionMapM_eq_ok.mp hbootLog), rfl⟩
  have hsent : KeysDistinct (configuration.mountsById.toList.map fun entry =>
      (entry.1, entry.2.map Mount.ofRust)) := by
    simpa [KeysDistinct, List.map_map, Function.comp_def] using hids
  refine ((Dictionary.uniquing_perm hsent).map _).trans ?_
  simp [List.map_map, Function.comp_def]

end Swift

/-- A machine with an interface on both families, two workloads and one without mounts. -/
def Rust.VMConfiguration.sample : @VMConfiguration .plain :=
  let _ := External.plain
  { cpus := 4
    memoryInBytes := 1073741824
    interfaces := [
      .nat ⟨⟨⟨3232235520⟩, ⟨24⟩⟩, none, some ⟨⟨1, some "eth0"⟩, ⟨64⟩⟩, none, some ⟨2⟩, 1500⟩]
    mountsById := .collect [
      ("b", [⟨"bind", "/a", "/b", ["ro"], .shared none⟩, ⟨"ext4", "/c", "/d", [], .virtioblk []⟩]),
      ("a", [⟨"tmpfs", "", "/e", [], .any []⟩]), ("c", [])]
    bootLog := some (.fileHandle 7)
    nestedVirtualization := true }

omit [Runtime] [External] in
theorem Swift.sample_vmConfiguration_carried :
    let _ := Runtime.ascii
    let _ := External.plain
    let _ := Host.next
    let configuration := Rust.VMConfiguration.sample
    ∃ made, VMConfiguration.init configuration = .ok made ∧
      List.Forall₂ Interface.Carried configuration.interfaces made.interfaces ∧
      (made.mountsById.entries.map fun entry => (entry.1, entry.2.map Rust.Mount.ofSwift)).Perm
        configuration.mountsById.toList ∧
      Option.Rel BootLog.Carried configuration.bootLog made.bootLog := by
  let _ := Runtime.ascii
  let _ := External.plain
  let _ := Host.next
  obtain ⟨-, hcarried⟩ := vmConfiguration_carried Rust.VMConfiguration.sample (by decide)
  obtain ⟨-, -, hinterfaces, hmounts, hbootLog, -⟩ := hcarried _ rfl
  exact ⟨_, rfl, hinterfaces, hmounts, hbootLog⟩

end ContainerBridge
