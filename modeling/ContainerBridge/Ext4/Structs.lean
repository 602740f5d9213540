import ContainerBridge.Library.Layout
import ContainerBridge.Runtime.Bytes
import ContainerBridge.Wrapper

/-! The structs of an ext4 filesystem that cross from Swift as their bytes: the super block and the
inode. Swift's own are its library's, and known by the bytes they are laid out as. -/

namespace ContainerBridge

open Carry Layout

variable [Runtime]

/-- A type that is `Plain`, by its fields. -/
structure Plain where
  typeName : String
  fields : List Field

/-- `size_of`. -/
def Plain.sizeOf (type : Plain) : Nat := size type.fields

def Plain.Value (type : Plain) : Type := Record type.fields

/-- The memory of the value, whatever it held before, is these bytes. -/
def Plain.Occupies (type : Plain) (value : type.Value) (bytes : List UInt8) : Prop :=
  ∀ memory : List UInt8, memory.length = type.sizeOf → write type.fields 0 value memory = bytes

/-- A value from the bytes Swift sent for it. -/
def Platform.fromBytes (type : Plain) (sent : Rust.ByteVec) : Crossing type.Value :=
  let left := sent.bytes.length
  let right := type.sizeOf
  let name := type.typeName
  if left = right then .ok (read type.fields 0 sent.bytes)
  else .error (.panic ("assertion `left == right` failed: " ++
    s!"Swift's {name} is a different size from Rust's\n  left: {left}\n right: {right}"))

/-! ### Rust's structs -/

namespace Rust

section Fields

def u8 (name : String) : Field := ⟨name, .one .u8⟩
def u16 (name : String) : Field := ⟨name, .one .u16⟩
def u32 (name : String) : Field := ⟨name, .one .u32⟩
def u64 (name : String) : Field := ⟨name, .one .u64⟩

/-- `[scalar; count]`. -/
def array (scalar : Scalar) (count : Nat) (name : String) : Field := ⟨name, .array scalar count⟩

end Fields

def superBlock : Plain where
  typeName := "containerization_framework::containerization_ext4::ext4::super_block::SuperBlock"
  fields := [
    u32 "inodes_count", u32 "blocks_count_low", u32 "reserved_blocks_count_low",
    u32 "free_blocks_count_low", u32 "free_inodes_count", u32 "first_data_block",
    u32 "log_block_size", u32 "log_cluster_size", u32 "blocks_per_group", u32 "clusters_per_group",
    u32 "inodes_per_group", u32 "mtime", u32 "wtime", u16 "mount_count", u16 "max_mount_count",
    u16 "magic", u16 "state", u16 "errors", u16 "minor_revision_level", u32 "last_check",
    u32 "check_interval", u32 "creator_os", u32 "revision_level", u16 "default_reserved_uid",
    u16 "default_reserved_gid", u32 "first_inode", u16 "inode_size", u16 "block_group_nr",
    u32 "feature_compat", u32 "feature_incompat", u32 "feature_ro_compat", array .u8 16 "uuid",
    array .u8 16 "volume_name", array .u8 64 "last_mounted", u32 "algorithm_usage_bitmap",
    u8 "prealloc_blocks", u8 "prealloc_dir_blocks", u16 "reserved_gdt_blocks",
    array .u8 16 "journal_uuid", u32 "journal_inum", u32 "journal_dev", u32 "last_orphan",
    array .u32 4 "hash_seed", u8 "def_hash_version", u8 "journal_backup_type", u16 "desc_size",
    u32 "default_mount_opts", u32 "first_meta_bg", u32 "mkfs_time", array .u32 17 "journal_blocks",
    u32 "blocks_count_high", u32 "reserved_blocks_count_high", u32 "free_blocks_count_high",
    u16 "min_extra_isize", u16 "want_extra_isize", u32 "flags", u16 "raid_stride",
    u16 "mmp_interval", u64 "mmp_block", u32 "raid_stripe_width", u8 "log_groups_per_flex",
    u8 "checksum_type", u16 "reserved_pad", u64 "kbytes_written", u32 "snapshot_inum",
    u32 "snapshot_id", u64 "snapshot_r_blocks_count", u32 "snapshot_list", u32 "error_count",
    u32 "first_error_time", u32 "first_error_inode", u64 "first_error_block",
    array .u8 32 "first_error_func", u32 "first_error_line", u32 "last_error_time",
    u32 "last_error_inode", u32 "last_error_line", u64 "last_error_block",
    array .u8 32 "last_error_func", array .u8 64 "mount_opts", u32 "user_quota_inum",
    u32 "group_quota_inum", u32 "overhead_blocks", array .u32 2 "backup_bgs",
    array .u8 4 "encrypt_algos", array .u8 16 "encrypt_pw_salt", u32 "lpf_inode",
    u32 "project_quota_inum", u32 "checksum_seed", u8 "wtime_high", u8 "mtime_high",
    u8 "mkfs_time_high", u8 "lastcheck_high", u8 "first_error_time_high", u8 "last_error_time_high",
    array .u8 2 "pad", array .u32 96 "reserved", u32 "checksum"]

def inode : Plain where
  typeName := "containerization_framework::containerization_ext4::ext4::inode::Inode"
  fields := [
    u16 "mode", u16 "uid", u32 "size_low", u32 "atime", u32 "ctime", u32 "mtime", u32 "dtime",
    u16 "gid", u16 "links_count", u32 "blocks_low", u32 "flags", u32 "version",
    array .u8 60 "block", u32 "generation", u32 "xattr_block_low", u32 "size_high",
    u32 "obsolete_fragment_addr", u16 "blocks_high", u16 "xattr_block_high", u16 "uid_high",
    u16 "gid_high", u16 "checksum_low", u16 "reserved", u16 "extra_isize", u16 "checksum_high",
    u32 "ctime_extra", u32 "mtime_extra", u32 "atime_extra", u32 "crtime", u32 "crtime_extra",
    u32 "version_high", u32 "projid", array .u8 96 "inline_xattrs"]

end Rust

/-! ### Crossing -/

namespace Plain

variable {type : Plain}

omit [Runtime]

theorem occupies_iff (hpacked : Packed type.fields 0)
    (hsize : finish type.fields 0 = type.sizeOf) {bytes : List UInt8}
    (hbytes : bytes.length = type.sizeOf) (value : type.Value) :
    type.Occupies value bytes ↔ value = read type.fields 0 bytes := by
  constructor
  · intro h
    have hmemory : (List.replicate type.sizeOf 0 : List UInt8).length = type.sizeOf :=
      List.length_replicate
    exact (write_eq_iff hpacked (hbytes.trans hsize.symm) (hmemory.trans hsize.symm) value).mp
      (h _ hmemory)
  · intro h memory hmemory
    exact (write_eq_iff hpacked (hbytes.trans hsize.symm) (hmemory.trans hsize.symm) value).mpr h

/-- A value without gaps has bytes of its own, whatever its memory held. -/
theorem exists_occupies (hpacked : Packed type.fields 0)
    (hsize : finish type.fields 0 = type.sizeOf) (value : type.Value) :
    ∃ bytes, bytes.length = type.sizeOf ∧ type.Occupies value bytes := by
  have hmemory : (List.replicate type.sizeOf 0 : List UInt8).length = finish type.fields 0 := by
    rw [List.length_replicate, hsize]
  have hlength := length_write value hmemory.ge
  have hbytes := (hlength.trans hmemory).trans hsize
  refine ⟨_, hbytes, (occupies_iff hpacked hsize hbytes value).mpr ?_⟩
  exact (read_write value hmemory.ge).symm

end Plain

/-- The values of the type and the byte strings of its size stand for one another, and each field is
at its offset. -/
structure Plain.Fills (type : Plain) : Prop where
  value : ∀ bytes : List UInt8, bytes.length = type.sizeOf → ∃! value, type.Occupies value bytes
  bytes : ∀ value : type.Value, ∃! bytes, bytes.length = type.sizeOf ∧ type.Occupies value bytes
  field : ∀ (value : type.Value) (bytes : List UInt8), bytes.length = type.sizeOf →
    type.Occupies value bytes → ∀ i (h : i < type.fields.length),
      get type.fields value i h = (type.fields.get ⟨i, h⟩).type.ofBytes
        (bytes.drop ((offsets type.fields 0).get ⟨i, by simpa using h⟩).2)

omit [Runtime] in
theorem Plain.fills {type : Plain} (hpacked : Packed type.fields 0)
    (hsize : finish type.fields 0 = type.sizeOf) : type.Fills where
  value bytes hbytes :=
    ⟨read type.fields 0 bytes, (occupies_iff hpacked hsize hbytes _).mpr rfl,
      fun value hvalue => (occupies_iff hpacked hsize hbytes value).mp hvalue⟩
  bytes value := by
    obtain ⟨bytes, hbytes, hoccupies⟩ := exists_occupies hpacked hsize value
    refine ⟨bytes, ⟨hbytes, hoccupies⟩, ?_⟩
    rintro other ⟨-, hother⟩
    have hmemory : (List.replicate type.sizeOf 0 : List UInt8).length = type.sizeOf :=
      List.length_replicate
    rw [← hoccupies _ hmemory, ← hother _ hmemory]
  field value bytes hbytes hoccupies i h := by
    rw [(occupies_iff hpacked hsize hbytes value).mp hoccupies]
    exact get_read 0 bytes h

omit [Runtime] in
theorem superBlock_packed : Packed Rust.superBlock.fields 0 ∧
    finish Rust.superBlock.fields 0 = Rust.superBlock.sizeOf := by
  decide +kernel

omit [Runtime] in
theorem inode_packed : Packed Rust.inode.fields 0 ∧
    finish Rust.inode.fields 0 = Rust.inode.sizeOf := by
  decide +kernel

omit [Runtime] in
/-- A super block or an inode is all of its memory, and any memory of its size is one. -/
theorem structs_fill_memory : Rust.superBlock.Fills ∧ Rust.inode.Fills :=
  ⟨Plain.fills superBlock_packed.1 superBlock_packed.2, Plain.fills inode_packed.1 inode_packed.2⟩

example : Rust.superBlock.sizeOf = 1024 ∧ Rust.inode.sizeOf = 256 := by decide +kernel

example : (offsets Rust.superBlock.fields 0).lookup "magic" = some 56 := by decide +kernel

example : (offsets Rust.superBlock.fields 0).lookup "checksum" = some 1020 := by decide +kernel

/-- `call` returns what `wrap` makes of the value that Swift's bytes are, and panics where they are
not as many as Rust's. -/
structure Plain.Arrives {β : Type} (type : Plain) (sent : Rust.ByteVec) (call : Crossing β)
    (wrap : type.Value → β) : Prop where
  panics : sent.bytes.length ≠ type.sizeOf → ∃ message, call = .error (.panic message)
  returns : sent.bytes.length = type.sizeOf →
    ∃ value, call = .ok (wrap value) ∧ type.Occupies value sent.bytes

omit [Runtime] in
theorem Plain.Arrives.map {β γ : Type} {type : Plain} {sent : Rust.ByteVec} {call : Crossing β}
    {wrap : type.Value → β} (h : type.Arrives sent call wrap) (f : β → γ) :
    type.Arrives sent (f <$> call) (f ∘ wrap) where
  panics hsize := by
    obtain ⟨message, hpanics⟩ := h.panics hsize
    exact ⟨message, by rw [hpanics]; rfl⟩
  returns hsize := by
    obtain ⟨value, hreturns, hoccupies⟩ := h.returns hsize
    exact ⟨value, by rw [hreturns]; rfl, hoccupies⟩

omit [Runtime] in
theorem Plain.arrives {type : Plain} (hpacked : Packed type.fields 0)
    (hsize : finish type.fields 0 = type.sizeOf) (sent : Rust.ByteVec) :
    type.Arrives sent (Platform.fromBytes type sent) id where
  panics hdiffers := by
    unfold Platform.fromBytes
    dsimp only
    rw [if_neg hdiffers]
    exact ⟨_, rfl⟩
  returns hsame := by
    unfold Platform.fromBytes
    dsimp only
    rw [if_pos hsame]
    exact ⟨_, rfl, (occupies_iff hpacked hsize hsame _).mpr rfl⟩

/-! ### The reader -/

/-- Swift's `EXT4Reader`, as far as its structs go. -/
structure Swift.EXT4Reader (SuperBlock Inode : Type) where
  superBlock : SuperBlock
  stat : String → Bool → Except SwiftError (UInt32 × Inode)

/-- An inode, alone or with its number. -/
inductive HeldInode (Inode : Type) where
  | alone (inode : Inode)
  | numbered (number : UInt32) (inode : Inode)

section Reader

variable {SuperBlock Inode : Type}

namespace Returned

def inodeNumber (returned : Returned (HeldInode Inode)) : Crossing UInt32 := do
  match ← returned.taken with
  | .numbered number _ => return number
  | .alone _ => .error (.trap "Rust took one type from an outcome holding another")

def inodeBytes (memoryBytes : Inode → Rust.ByteVec) (returned : Returned (HeldInode Inode)) :
    Crossing Rust.ByteVec := do
  match ← returned.taken with
  | .numbered _ inode => return memoryBytes inode
  | .alone inode => return memoryBytes inode

/-- The `Inode` an outcome holds. -/
def inode (memoryBytes : Inode → Rust.ByteVec) (returned : Returned (HeldInode Inode)) :
    Crossing Rust.inode.Value := do
  Platform.fromBytes Rust.inode (← returned.inodeBytes memoryBytes)

end Returned

def Rust.EXT4Reader.superBlock (memoryBytes : SuperBlock → Rust.ByteVec)
    (reader : Swift.EXT4Reader SuperBlock Inode) : Crossing Rust.superBlock.Value :=
  Platform.fromBytes Rust.superBlock (memoryBytes reader.superBlock)

def Rust.EXT4Reader.stat (memoryBytes : Inode → Rust.ByteVec)
    (reader : Swift.EXT4Reader SuperBlock Inode) (path : PathBuf) (followSymlinks : Bool) :
    Crossing (Except Rust.Error (UInt32 × Rust.inode.Value)) :=
  match Platform.path path with
  | .error failure => .ok (.error failure)
  | .ok text =>
    Platform.wrapped
      ((fun found => HeldInode.numbered found.1 found.2) <$> reader.stat text followSymlinks)
      s!"stat {path.lossyPath}"
      fun outcome => do return (← outcome.inodeNumber, ← outcome.inode memoryBytes)

/-- `made` is what `EXT4.Inode.Root()` makes. -/
def Rust.Inode.root (memoryBytes : Inode → Rust.ByteVec) (made : Inode) :
    Crossing (Except Rust.Error Rust.inode.Value) :=
  Platform.wrapped (.ok (HeldInode.alone made)) "make a root inode" (·.inode memoryBytes)

/-- Whatever Swift's reader holds and returns, its super block and each inode arrive as the value
that Swift's bytes are, `stat`'s with its number, or else as a panic where the sizes differ. A path
that isn't UTF-8 fails as it is, and what Swift throws is rebuilt. -/
theorem ext4_structs_cross (superBytes : SuperBlock → Rust.ByteVec)
    (inodeBytes : Inode → Rust.ByteVec) (reader : Swift.EXT4Reader SuperBlock Inode) (made : Inode)
    (path : PathBuf) (followSymlinks : Bool) :
    Rust.superBlock.Arrives (superBytes reader.superBlock)
      (Rust.EXT4Reader.superBlock superBytes reader) id ∧
    Rust.inode.Arrives (inodeBytes made) (Rust.Inode.root inodeBytes made) .ok ∧
    match Platform.path path with
    | .error failure =>
      Rust.EXT4Reader.stat inodeBytes reader path followSymlinks = .ok (.error failure)
    | .ok text => match reader.stat text followSymlinks with
      | .error thrown => Rust.EXT4Reader.stat inodeBytes reader path followSymlinks =
        .ok (.error (Platform.rebuilt s!"stat {path.lossyPath}" thrown))
      | .ok (number, found) => Rust.inode.Arrives (inodeBytes found)
        (Rust.EXT4Reader.stat inodeBytes reader path followSymlinks) fun value =>
          .ok (number, value) := by
  have hinode := Plain.arrives inode_packed.1 inode_packed.2
  refine ⟨Plain.arrives superBlock_packed.1 superBlock_packed.2 _, ?_, ?_⟩
  · unfold Rust.Inode.root
    rw [Platform.wrapped_ok]
    exact (hinode (inodeBytes made)).map Except.ok
  · unfold Rust.EXT4Reader.stat
    cases Platform.path path with
    | error failure => rfl
    | ok text =>
      dsimp only
      cases reader.stat text followSymlinks with
      | error thrown => exact Platform.wrapped_error thrown _ _
      | ok found =>
        obtain ⟨number, found⟩ := found
        have hread : (do
            let outcome := Returned.init (.ok (HeldInode.numbered number found))
            return (← outcome.inodeNumber, ← outcome.inode inodeBytes)) =
            (fun value => (number, value)) <$>
              Platform.fromBytes Rust.inode (inodeBytes found) := rfl
        dsimp only
        show Rust.inode.Arrives _ (Platform.wrapped (.ok (HeldInode.numbered number found)) _ _) _
        rw [Platform.wrapped_ok, hread]
        exact ((hinode (inodeBytes found)).map _).map _

end Reader

end ContainerBridge
