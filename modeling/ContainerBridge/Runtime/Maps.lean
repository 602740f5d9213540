import ContainerBridge.Runtime.Crossing
import Mathlib.Data.List.Nodup
import Mathlib.Tactic.Linarith

/-! Rust's sorted maps and Swift's dictionaries. Swift compares strings by canonical equivalence and
iterates over a dictionary in an order of its own, so a Rust map crosses whole only when no two of
its keys are canonically equivalent. -/

namespace ContainerBridge

open Carry

/-- `BTreeMap<String, α>`, whose keys are compared by their bytes. -/
abbrev BTreeMap (α : Type) := Std.ExtTreeMap String α

variable {α β : Type}

/-- The `index`th entry of a sorted map. -/
def entryAt (map : BTreeMap α) (index : Nat) : Crossing (String × α) :=
  match map.toList[index]? with
  | some entry => .ok entry
  | none => .error (.panic "Swift asks for an entry only below the length")

/-- The key and the value that `map` lends at an index. -/
def keyAt (map : BTreeMap α) (index : Nat) : Crossing String := do
  return (← entryAt map index).1

def valueAt (map : BTreeMap α) (index : Nat) : Crossing α := do
  return (← entryAt map index).2

/-- The key and the value that `optional_map` lends at an index. -/
def optionalKeyAt (map : Option (BTreeMap α)) (index : Nat) : Crossing String := do
  keyAt (← present map) index

def optionalValueAt (map : Option (BTreeMap α)) (index : Nat) : Crossing α := do
  valueAt (← present map) index

@[simp] theorem optionalKeyAt_some (map : BTreeMap α) : optionalKeyAt (some map) = keyAt map := rfl

@[simp] theorem optionalValueAt_some (map : BTreeMap α) :
    optionalValueAt (some map) = valueAt map := rfl

/-- `collect` into a `BTreeMap`, which keeps the last value of a key. -/
def BTreeMap.collect (entries : List (String × α)) : BTreeMap α := Std.ExtTreeMap.ofList entries

@[simp] theorem collect_nil : BTreeMap.collect ([] : List (String × α)) = ∅ :=
  Std.ExtTreeMap.ofList_nil

@[simp] theorem collect_append_singleton (entries : List (String × α)) (entry : String × α) :
    BTreeMap.collect (entries ++ [entry]) = (BTreeMap.collect entries).insert entry.1 entry.2 := by
  simp [BTreeMap.collect, Std.ExtTreeMap.ofList_eq_foldl]

theorem entryAt_of_lt {map : BTreeMap α} {index : Nat} (h : index < map.toList.length) :
    entryAt map index = .ok map.toList[index] := by
  simp [entryAt, List.getElem?_eq_getElem h]

/-- The entries read by index are those of the map, in its order. -/
theorem list_entryAt {map : BTreeMap α} {element : Nat → Crossing β} {f : String × α → Crossing β}
    (h : ∀ i (hi : i < map.toList.length), element i = f map.toList[i]) :
    list map.size element = map.toList.mapM f := by
  rw [← Std.ExtTreeMap.length_toList]
  exact list_eq_mapM h

theorem collect_perm {entries : List (String × α)} {map : BTreeMap α}
    (h : entries.Perm map.toList) : BTreeMap.collect entries = map := by
  have hdistinct : entries.Pairwise fun a b => ¬compare a.1 b.1 = .eq :=
    (h.pairwise_iff fun hne heq => hne (Std.OrientedCmp.eq_symm heq)).mpr
      Std.ExtTreeMap.distinct_keys_toList
  apply Std.ExtTreeMap.ext_getElem?
  intro key
  cases hkey : map[key]? with
  | some value =>
    have hmem : (key, value) ∈ entries :=
      h.mem_iff.mpr (Std.ExtTreeMap.mem_toList_iff_getElem?_eq_some.mpr hkey)
    exact Std.ExtTreeMap.getElem?_ofList_of_mem (by simp) hdistinct hmem
  | none =>
    apply Std.ExtTreeMap.getElem?_ofList_of_contains_eq_false
    rw [List.contains_eq_mem, decide_eq_false_iff_not, List.mem_map]
    rintro ⟨⟨other, value⟩, hmem, rfl⟩
    have := Std.ExtTreeMap.mem_toList_iff_getElem?_eq_some.mp (h.mem_iff.mp hmem)
    rw [hkey] at this
    cases this

/-- Entries with distinct keys are all in the map they are collected into. -/
theorem collect_toList_perm {entries : List (String × α)}
    (h : (entries.map Prod.fst).Nodup) : (BTreeMap.collect entries).toList.Perm entries := by
  have hdistinct : entries.Pairwise fun a b => ¬compare a.1 b.1 = .eq := by
    rw [List.Nodup, List.pairwise_map] at h
    exact h.imp fun hne heq => hne (Std.LawfulEqCmp.eq_of_compare heq)
  refine (List.perm_ext_iff_of_nodup ?_ (List.Nodup.of_map _ h)).mpr ?_
  · exact Std.ExtTreeMap.distinct_keys_toList.imp fun hne heq => hne (by simp [heq])
  · rintro ⟨key, value⟩
    rw [Std.ExtTreeMap.mem_toList_iff_getElem?_eq_some]
    constructor
    · intro hkey
      by_contra hmem
      have hnot : key ∉ entries.map Prod.fst := by
        rw [List.mem_map]
        rintro ⟨⟨other, held⟩, hheld, rfl⟩
        have hfound : (BTreeMap.collect entries)[other]? = some held :=
          Std.ExtTreeMap.getElem?_ofList_of_mem (by simp) hdistinct hheld
        rw [hfound] at hkey
        cases hkey
        exact hmem hheld
      rw [BTreeMap.collect, Std.ExtTreeMap.getElem?_ofList_of_contains_eq_false
        (by simpa using hnot)] at hkey
      cases hkey
    · intro hmem
      exact Std.ExtTreeMap.getElem?_ofList_of_mem (by simp) hdistinct hmem

variable [Runtime]

/-- No two keys are canonically equivalent. -/
def KeysDistinct (entries : List (String × α)) : Prop :=
  (entries.map fun entry => canonical entry.1).Nodup

instance (entries : List (String × α)) : Decidable (KeysDistinct entries) :=
  inferInstanceAs (Decidable (List.Nodup _))

theorem KeysDistinct.perm {entries entries' : List (String × α)} (h : KeysDistinct entries)
    (hperm : entries.Perm entries') : KeysDistinct entries' :=
  (hperm.map _).nodup_iff.mp h

theorem KeysDistinct.keys_nodup {entries : List (String × α)} (h : KeysDistinct entries) :
    (entries.map Prod.fst).Nodup :=
  List.Nodup.of_map canonical (by simpa [KeysDistinct, List.map_map, Function.comp_def] using h)

/-- Swift's `[String: α]`: its entries in the order it iterates over them, with no two keys it
takes for the same. -/
structure Dictionary (α : Type) where
  entries : List (String × α)
  distinct : KeysDistinct entries

/-- Two dictionaries are equal in Swift when they hold the same entries. -/
def Dictionary.Same (d e : Dictionary α) : Prop := d.entries.Perm e.entries

theorem Dictionary.Same.refl (d : Dictionary α) : d.Same d := List.Perm.refl _

/-- Swift's `updateValue`: an equal key keeps its place and spelling, and takes the new value. -/
def updateValue (entries : List (String × α)) (key : String) (value : α) : List (String × α) :=
  match entries with
  | [] => [(key, value)]
  | (other, held) :: rest =>
    if canonical other = canonical key then (other, value) :: rest
    else (other, held) :: updateValue rest key value

/-- The entries of `Dictionary(_:uniquingKeysWith: { _, last in last })`, before they are hashed. -/
def uniqued (entries : List (String × α)) : List (String × α) :=
  entries.foldl (fun held entry => updateValue held entry.1 entry.2) []

theorem canonical_updateValue (entries : List (String × α)) (key : String) (value : α) :
    (updateValue entries key value).map (fun entry => canonical entry.1) =
      if canonical key ∈ entries.map (fun entry => canonical entry.1)
      then entries.map fun entry => canonical entry.1
      else entries.map (fun entry => canonical entry.1) ++ [canonical key] := by
  induction entries with
  | nil => simp [updateValue]
  | cons entry rest ih =>
    obtain ⟨other, held⟩ := entry
    by_cases h : canonical other = canonical key
    · simp [updateValue, h]
    · simp only [updateValue, if_neg h, List.map_cons, ih, List.mem_cons, Ne.symm h, false_or]
      split <;> rfl

theorem KeysDistinct.updateValue {entries : List (String × α)} (h : KeysDistinct entries)
    (key : String) (value : α) : KeysDistinct (updateValue entries key value) := by
  rw [KeysDistinct, canonical_updateValue]
  split
  · exact h
  · next hnew => exact List.nodup_append.mpr ⟨h, by simp, by
      intro k hk k' hk' heq
      rw [List.mem_singleton] at hk'
      exact hnew (hk' ▸ heq ▸ hk)⟩

theorem updateValue_append_of_new {entries : List (String × α)} {key : String} (value : α)
    (hnew : canonical key ∉ entries.map fun entry => canonical entry.1) :
    updateValue entries key value = entries ++ [(key, value)] := by
  induction entries with
  | nil => rfl
  | cons entry rest ih =>
    obtain ⟨other, held⟩ := entry
    simp only [List.map_cons, List.mem_cons, not_or] at hnew
    simp only [updateValue, if_neg (Ne.symm hnew.1), ih hnew.2, List.cons_append]

theorem keysDistinct_foldl (entries held : List (String × α)) (h : KeysDistinct held) :
    KeysDistinct (entries.foldl (fun held entry => updateValue held entry.1 entry.2) held) := by
  induction entries generalizing held with
  | nil => exact h
  | cons entry rest ih => exact ih _ (h.updateValue entry.1 entry.2)

theorem keysDistinct_uniqued (entries : List (String × α)) : KeysDistinct (uniqued entries) :=
  keysDistinct_foldl entries [] List.nodup_nil

theorem foldl_updateValue (held : List (String × α)) {entries : List (String × α)}
    (h : KeysDistinct (held ++ entries)) :
    entries.foldl (fun held entry => updateValue held entry.1 entry.2) held = held ++ entries := by
  induction entries generalizing held with
  | nil => simp
  | cons entry rest ih =>
    obtain ⟨key, value⟩ := entry
    have hnew : canonical key ∉ held.map fun entry => canonical entry.1 := by
      intro hmem
      rw [KeysDistinct, List.map_append, List.nodup_append] at h
      exact h.2.2 _ hmem _ (by simp) rfl
    rw [List.foldl_cons, updateValue_append_of_new value hnew,
      ih _ (by simpa [List.append_assoc] using h)]
    simp

/-- Entries with no two equal keys are all kept. -/
theorem uniqued_of_distinct {entries : List (String × α)} (h : KeysDistinct entries) :
    uniqued entries = entries :=
  foldl_updateValue [] h

/-- `Dictionary(_:uniquingKeysWith: { _, last in last })`. -/
def Dictionary.uniquing (entries : List (String × α)) : Dictionary α where
  entries := Runtime.hashed (uniqued entries)
  distinct := (keysDistinct_uniqued entries).perm (Runtime.hashed_perm _).symm

theorem Dictionary.uniquing_perm {entries : List (String × α)} (h : KeysDistinct entries) :
    (Dictionary.uniquing entries).entries.Perm entries := by
  simpa [uniquing, uniqued_of_distinct h] using Runtime.hashed_perm (uniqued entries)

/-- A map Rust lends by index: `xLen`, `xKeyAt`, `xValueAt`. Keys that differ in Rust can be equal
in Swift, and then the last one wins. -/
def dictionary (count : Nat) (key : Nat → Crossing String) (value : Nat → Crossing α) :
    Crossing (Dictionary α) := do
  let entries ← list count fun index => do return (← key index, ← value index)
  return .uniquing entries

/-- A map lent by index is a dictionary of its entries, each value as its place is read. -/
theorem dictionary_of_values {map : BTreeMap α} {value : Nat → Crossing β} {f : α → β}
    (h : ∀ i (hi : i < map.toList.length), value i = .ok (f map.toList[i].2)) :
    dictionary map.size (keyAt map) value =
      .ok (.uniquing (map.toList.map fun entry => (entry.1, f entry.2))) := by
  rw [dictionary, list_entryAt (f := fun entry => .ok (entry.1, f entry.2)) fun i hi => by
    simp [keyAt, entryAt_of_lt hi, h i hi], mapM_ok]
  rfl

@[simp] theorem dictionary_keyAt (map : BTreeMap α) :
    dictionary map.size (keyAt map) (valueAt map) = .ok (.uniquing map.toList) := by
  rw [dictionary_of_values (f := id) fun i hi => by simp [valueAt, entryAt_of_lt hi]]
  simp

/-- An optional map lent by index is a dictionary of the entries it holds. -/
@[simp] theorem ifPresent_dictionary (map : Option (BTreeMap α)) :
    ifPresent map.isSome (dictionary (optionalLen Std.ExtTreeMap.size map) (optionalKeyAt map)
      (optionalValueAt map)) = .ok (map.map fun held => .uniquing held.toList) := by
  cases map <;> simp [ifPresent, optionalLen]

/-- A map whose keys Swift takes apart comes back from the dictionary made of it. -/
theorem collect_uniquing {map : BTreeMap α} (h : KeysDistinct map.toList) :
    BTreeMap.collect (Dictionary.uniquing map.toList).entries = map :=
  collect_perm (Dictionary.uniquing_perm h)

theorem collect_uniquing_option {map : Option (BTreeMap α)}
    (h : ∀ held ∈ map, KeysDistinct held.toList) :
    map.map (fun held => BTreeMap.collect (Dictionary.uniquing held.toList).entries) = map := by
  cases map with
  | none => rfl
  | some held => simp [collect_uniquing (h held rfl)]

end ContainerBridge
