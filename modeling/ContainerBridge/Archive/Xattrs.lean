import ContainerBridge.Library.Tiles
import ContainerBridge.Outcome

/-! Extended attributes, a map from names to bytes. They cross to Swift as three lists that stay in
step: the names, the length of each value, and the values joined into one. They are read back by
name. -/

namespace ContainerBridge

open Carry Tiles

variable [Runtime]

/-! ### Rust -/

/-- What `platform::xattrs` sends: the names, each value's length, and the values joined. -/
structure Platform.SentXattrs where
  names : List String
  lengths : List UInt64
  values : Rust.ByteVec

/-- A `[String: Data]` of extended attributes as it crosses to Swift. -/
def Platform.xattrs (xattrs : BTreeMap Rust.ByteVec) : Crossing SentXattrs := do
  let keys := xattrs.toList.map Prod.fst
  let values := xattrs.toList.map Prod.snd
  return {
    names := keys
    lengths := values.map fun value => .ofNat value.bytes.length
    values := ← Rust.ByteVec.collect (values.flatMap (·.bytes)) }

/-! ### Swift -/

namespace Swift

/-- `dictionary[key] = value`. -/
def set {α : Type} (map : Dictionary α) (key : String) (value : α) : Dictionary α where
  entries := updateValue map.entries key value
  distinct := map.distinct.updateValue key value

/-- `dictionary[key]`. -/
def lookup {α : Type} (map : Dictionary α) (key : String) : Option α :=
  (map.entries.find? fun entry => canonical entry.1 == canonical key).map Prod.snd

/-- `dataMap`'s map and offset between two values, with the ranges it has sliced so far. -/
structure Slicing where
  map : Dictionary IndexedData
  offset : Int
  slices : List (Int × Int)

/-- One round of the loop: the value from the offset on, of the length that goes with the name. -/
def Slicing.next (values : IndexedData) (slicing : Slicing) (entry : String × UInt64) :
    Crossing Slicing := do
  let upper ← addIndex slicing.offset (← intOf entry.2)
  let slice ← range slicing.offset upper
  let value ← values.subdata slice.1 slice.2
  return {
    map := set slicing.map entry.1 value
    offset := upper
    slices := slicing.slices ++ [slice] }

/-- The loop over the joined values, wherever their indices start. -/
def sliced (names : List String) (lengths : List UInt64) (values : IndexedData) :
    Crossing Slicing :=
  (names.zip lengths).foldlM (Slicing.next values) {
    map := { entries := [], distinct := List.nodup_nil }
    offset := values.startIndex
    slices := [] }

/-- A `[String: Data]`, crossing as its keys and its values joined into one, with each one's
length. -/
def dataMap (names : List String) (lengths : List UInt64) (values : Rust.ByteVec) :
    Crossing (Dictionary IndexedData) := do
  let slicing ← sliced names lengths (.init values)
  return {
    entries := Runtime.hashed slicing.map.entries
    distinct := slicing.map.distinct.perm (Runtime.hashed_perm _).symm }

omit [Runtime] in
theorem intOf_ofNat {n : Nat} (h : n < 2 ^ 63) : intOf (.ofNat n) = .ok n := by
  have hsize : n < UInt64.size := by
    rw [UInt64.size]
    omega
  rw [intOf, UInt64.toNat_ofNat_of_lt' hsize, if_pos h]

omit [Runtime] in
theorem addIndex_of_lt {a b : Int} (ha : 0 ≤ a) (hb : 0 ≤ b) (h : a + b < 2 ^ 63) :
    addIndex a b = .ok (a + b) := by
  rw [addIndex, if_pos ⟨by omega, h⟩]

omit [Runtime] in
/-- The bytes between two others are sliced by where they stand, whatever the first index is. -/
theorem IndexedData.subdata_middle {values : IndexedData} {before after : List UInt8}
    {value : Rust.ByteVec} (h : values.bytes = before ++ value.bytes ++ after) :
    values.subdata (values.startIndex + before.length)
      (values.startIndex + before.length + value.bytes.length) = .ok (.init value) := by
  have hlength := congrArg List.length h
  simp only [List.length_append] at hlength
  rw [subdata, if_pos ⟨by omega, by rw [endIndex]; omega⟩]
  have hlower : (values.startIndex + before.length - values.startIndex).toNat =
      before.length := by omega
  have hsize : (values.startIndex + before.length + value.bytes.length -
      (values.startIndex + before.length)).toNat = value.bytes.length := by omega
  simp only [hlower, hsize, h, List.append_assoc, List.drop_left, List.take_left, init]

/-- One round slices the value that is next, and leaves the offset at its end. -/
theorem Slicing.next_eq {values : IndexedData} {slicing : Slicing} {before after : List UInt8}
    (name : String) {value : Rust.ByteVec} (h : values.bytes = before ++ value.bytes ++ after)
    (hoffset : slicing.offset = values.startIndex + before.length) :
    next values slicing (name, .ofNat value.bytes.length) = .ok {
      map := set slicing.map name (.init value)
      offset := slicing.offset + value.bytes.length
      slices := slicing.slices ++ [(slicing.offset, slicing.offset + value.bytes.length)] } := by
  have hlength := congrArg List.length h
  simp only [List.length_append] at hlength
  have hnonneg := values.startIndex_nonneg
  have hlt := values.endIndex_lt
  have hadd : addIndex slicing.offset value.bytes.length =
      .ok (slicing.offset + value.bytes.length) :=
    addIndex_of_lt (by omega) (by omega) (by omega)
  have hrange : range slicing.offset (slicing.offset + value.bytes.length) =
      .ok (slicing.offset, slicing.offset + value.bytes.length) := by
    rw [range, if_pos (by omega)]
  have hvalue := IndexedData.subdata_middle h
  rw [← hoffset] at hvalue
  simp only [next, intOf_ofNat value.length_lt, hadd, hrange, hvalue, ok_bind, pure_eq_ok]

/-- The rounds left to do slice the values left, one after the other up to the end. -/
theorem Slicing.foldlM_next {values : IndexedData} (before : List UInt8)
    (rest : List (String × Rust.ByteVec)) (slicing : Slicing)
    (h : values.bytes = before ++ rest.flatMap (·.2.bytes))
    (hoffset : slicing.offset = values.startIndex + before.length)
    (hdistinct : KeysDistinct
      (slicing.map.entries ++ rest.map fun entry => (entry.1, IndexedData.init entry.2)))
    (htile : Tile values.startIndex slicing.offset slicing.slices) :
    ∃ final,
      (rest.map fun entry => (entry.1, UInt64.ofNat entry.2.bytes.length)).foldlM
        (next values) slicing = .ok final ∧
      final.map.entries =
        slicing.map.entries ++ rest.map (fun entry => (entry.1, IndexedData.init entry.2)) ∧
      Tile values.startIndex values.endIndex final.slices := by
  induction rest generalizing before slicing with
  | nil =>
    have hend : values.endIndex = slicing.offset := by
      rw [hoffset, IndexedData.endIndex, h]
      simp
    exact ⟨slicing, rfl, by simp, hend ▸ htile⟩
  | cons entry rest ih =>
    obtain ⟨name, value⟩ := entry
    simp only [List.flatMap_cons] at h
    rw [← List.append_assoc] at h
    have hnew : canonical name ∉ slicing.map.entries.map fun entry => canonical entry.1 := by
      intro hmem
      rw [KeysDistinct, List.map_append, List.nodup_append] at hdistinct
      exact hdistinct.2.2 _ hmem _ (by simp) rfl
    have hset : (set slicing.map name (IndexedData.init value)).entries =
        slicing.map.entries ++ [(name, IndexedData.init value)] :=
      updateValue_append_of_new _ hnew
    let after : Slicing := {
      map := set slicing.map name (.init value)
      offset := slicing.offset + value.bytes.length
      slices := slicing.slices ++ [(slicing.offset, slicing.offset + value.bytes.length)] }
    have hafter : after.offset = values.startIndex + (before ++ value.bytes).length := by
      simp only [after, hoffset, List.length_append, Int.natCast_add, Int.add_assoc]
    have hleft : KeysDistinct
        (after.map.entries ++ rest.map fun entry => (entry.1, IndexedData.init entry.2)) := by
      simpa [after, hset] using hdistinct
    have hslice : Tile values.startIndex after.offset after.slices :=
      htile.append_singleton (Int.le_add_of_nonneg_right (Int.natCast_nonneg _))
    obtain ⟨final, hfinal, hentries, hslices⟩ :=
      ih (before ++ value.bytes) after h hafter hleft hslice
    refine ⟨final, ?_, by simpa [after, hset] using hentries, hslices⟩
    simp only [List.map_cons, List.foldlM_cons, next_eq name h hoffset, ok_bind]
    exact hfinal

/-- The loop over a map's joined values, from any start index, takes each name's own bytes. The
slices tile the values. -/
theorem sliced_eq {xattrs : BTreeMap Rust.ByteVec} (hnames : KeysDistinct xattrs.toList)
    {sent : Platform.SentXattrs} (hsent : Platform.xattrs xattrs = .ok sent) {values : IndexedData}
    (hvalues : values.bytes = sent.values.bytes) :
    ∃ slicing, sliced sent.names sent.lengths values = .ok slicing ∧
      slicing.map.entries = xattrs.toList.map (fun entry => (entry.1, IndexedData.init entry.2)) ∧
      Tile values.startIndex values.endIndex slicing.slices := by
  obtain ⟨joined, hjoined, hmade⟩ := bind_eq_ok.mp hsent
  cases hmade
  have hbytes : values.bytes = [] ++ xattrs.toList.flatMap (·.2.bytes) := by
    rw [Rust.ByteVec.collect] at hjoined
    split at hjoined
    · cases hjoined
      simpa [List.flatMap_map] using hvalues
    · cases hjoined
  obtain ⟨slicing, hslicing, hentries, hslices⟩ := Slicing.foldlM_next [] xattrs.toList
    {
      map := { entries := [], distinct := List.nodup_nil }
      offset := values.startIndex
      slices := [] } hbytes (by simp)
    (by simpa [KeysDistinct, List.map_map, Function.comp_def] using hnames) (Tile.nil _)
  refine ⟨slicing, ?_, by simpa using hentries, hslices⟩
  simpa [sliced, List.map_map, List.zip_map', Function.comp_def,
    -Std.ExtTreeMap.map_fst_toList_eq_keys] using hslicing

end Swift

/-! ### Reading back -/

namespace CzOutcome

/-- A held `[String: Data]`'s keys, and the value of one. -/
def dataMapKeys (outcome : CzOutcome) : Crossing (List String) := do
  return (← outcome.taken (Dictionary Swift.IndexedData)).entries.map Prod.fst

def dataMapValue (outcome : CzOutcome) (key : String) : Crossing Rust.ByteVec := do
  let value := Swift.lookup (← outcome.taken (Dictionary Swift.IndexedData)) key
  return (value.getD (.init ⟨[], by decide⟩)).rustVec

/-- The extended attributes of the entry an outcome was asked of. -/
def xattrs (outcome : CzOutcome) : Crossing (BTreeMap Rust.ByteVec) := do
  return .collect (← (← outcome.dataMapKeys).mapM fun name => do
    return (name, ← outcome.dataMapValue name))

/-- Each key finds its own value, since no other is equal to it. -/
theorem lookup_of_mem {α : Type} {map : Dictionary α} {entry : String × α}
    (h : entry ∈ map.entries) : Swift.lookup map entry.1 = some entry.2 := by
  have hunique : ∀ other ∈ map.entries, canonical other.1 = canonical entry.1 → other = entry :=
    fun other hother heq => List.inj_on_of_nodup_map map.distinct hother h heq
  obtain ⟨found, hfound⟩ : ∃ found,
      map.entries.find? (fun other => canonical other.1 == canonical entry.1) = some found := by
    rw [← Option.isSome_iff_exists, List.find?_isSome]
    exact ⟨entry, h, by simp⟩
  have heq : found = entry :=
    hunique found (List.mem_of_find?_eq_some hfound) (by simpa using List.find?_some hfound)
  simp [Swift.lookup, hfound, heq]

/-- A held dictionary is read whole, each value by its key. -/
theorem xattrs_holding (map : Dictionary Swift.IndexedData) :
    (holding (some map)).xattrs =
      .ok (.collect (map.entries.map fun entry => (entry.1, entry.2.rustVec))) := by
  have hread : (map.entries.map Prod.fst).mapM (fun name => do
      return (name, ← (holding (some map)).dataMapValue name)) =
        .ok (map.entries.map fun entry => (entry.1, entry.2.rustVec)) := by
    rw [List.mapM_map, mapM_eq_ok, List.forall₂_map_right_iff, List.forall₂_same]
    intro entry hmem
    simp [dataMapValue, lookup_of_mem hmem]
  simp only [xattrs, dataMapKeys, taken_holding, ok_bind, pure_eq_ok]
  simp only [pure_eq_ok] at hread
  rw [hread, ok_bind]

end CzOutcome

omit [Runtime] in
/-- The encoder panics only when one vector cannot hold the values. -/
theorem Platform.xattrs_eq_ok (xattrs : BTreeMap Rust.ByteVec) :
    (∃ sent, Platform.xattrs xattrs = .ok sent) ↔
      (xattrs.toList.flatMap (·.2.bytes)).length < 2 ^ 63 := by
  have hjoined : (xattrs.toList.map Prod.snd).flatMap (·.bytes) =
      xattrs.toList.flatMap (·.2.bytes) := by
    rw [List.flatMap_map]
  rw [Platform.xattrs, Rust.ByteVec.collect, hjoined]
  split
  · rename_i hfits
    exact iff_of_true ⟨_, rfl⟩ hfits
  · rename_i hfits
    refine iff_of_false ?_ hfits
    rintro ⟨sent, hsent⟩
    cases hsent

/-- The lists that the encoder makes of a map whose names Swift takes apart reach Swift as the same
map, in slices that tile the joined values wherever their indices start, and the map is read back
as it was. -/
theorem Rust.xattrs_cross (xattrs : BTreeMap ByteVec) (hnames : KeysDistinct xattrs.toList) :
    ((∃ sent, Platform.xattrs xattrs = .ok sent) ↔
      (xattrs.toList.flatMap (·.2.bytes)).length < 2 ^ 63) ∧
    ∀ sent, Platform.xattrs xattrs = .ok sent →
      (∀ values : Swift.IndexedData, values.bytes = sent.values.bytes →
        ∃ slicing, Swift.sliced sent.names sent.lengths values = .ok slicing ∧
          Tile values.startIndex values.endIndex slicing.slices ∧
          (∀ slice ∈ slicing.slices,
            values.startIndex ≤ slice.1 ∧ slice.1 ≤ slice.2 ∧ slice.2 ≤ values.endIndex) ∧
          slicing.slices.Pairwise fun slice later => slice.2 ≤ later.1) ∧
      ∃ made, Swift.dataMap sent.names sent.lengths sent.values = .ok made ∧
        made.entries.Perm (xattrs.toList.map fun entry => (entry.1, .init entry.2)) ∧
        (CzOutcome.holding (some made)).xattrs = .ok xattrs := by
  refine ⟨Platform.xattrs_eq_ok xattrs, fun sent hsent => ⟨fun values hvalues => ?_, ?_⟩⟩
  · obtain ⟨slicing, hslicing, -, htile⟩ := Swift.sliced_eq hnames hsent hvalues
    exact ⟨slicing, hslicing, htile, htile.within, htile.pairwise⟩
  · obtain ⟨slicing, hslicing, hentries, -⟩ :=
      Swift.sliced_eq hnames hsent (rfl : (Swift.IndexedData.init sent.values).bytes = _)
    refine ⟨_, by rw [Swift.dataMap, hslicing]; rfl, ?_, ?_⟩
    · exact hentries ▸ Runtime.hashed_perm _
    · rw [CzOutcome.xattrs_holding]
      refine congrArg _ (collect_perm (((Runtime.hashed_perm _).map _).trans ?_))
      simp [hentries, Function.comp_def, Swift.IndexedData.rustVec, Swift.IndexedData.init]

/-- Three attributes, one of them empty. -/
def Rust.sampleXattrs : BTreeMap ByteVec := .collect [
  ("user.b", ⟨[1, 2], by decide⟩), ("user.a", ⟨[], by decide⟩), ("user.c", ⟨[3], by decide⟩)]

omit [Runtime] in
theorem Rust.sample_xattrs_cross :
    let _ := Runtime.ascii
    ∃ sent, Platform.xattrs sampleXattrs = .ok sent ∧
      ∃ made, Swift.dataMap sent.names sent.lengths sent.values = .ok made ∧
        (CzOutcome.holding (some made)).xattrs = .ok sampleXattrs := by
  let _ := Runtime.ascii
  obtain ⟨hsends, hsent⟩ := xattrs_cross sampleXattrs (by decide)
  obtain ⟨sent, hxattrs⟩ := hsends.mpr (by decide)
  obtain ⟨-, made, hmade, -, hback⟩ := hsent sent hxattrs
  exact ⟨sent, hxattrs, made, hmade, hback⟩

end ContainerBridge
