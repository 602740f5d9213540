import ContainerBridge.Build.Glue
import ContainerBridge.Mirror.Steps

/-! The modules that the glue is generated from are in one order, however their directory is
listed. -/

namespace ContainerBridge

namespace Build

open FileTree

/-! ### The order -/

theorem keyLe_iff {key other : Bool × String} :
    keyLe key other = true ↔ key.1 < other.1 ∨ key.1 = other.1 ∧ key.2 ≤ other.2 := by
  unfold keyLe
  rw [decide_eq_true_iff]

theorem keyLe_trans {first second third : Bool × String} (h : keyLe first second = true)
    (h' : keyLe second third = true) : keyLe first third = true := by
  rw [keyLe_iff] at h h' ⊢
  rcases h with h | ⟨heq, hle⟩
  · rcases h' with h' | ⟨heq', -⟩
    · left
      exact lt_trans h h'
    · left
      rwa [← heq']
  · rcases h' with h' | ⟨heq', hle'⟩
    · left
      rwa [heq]
    · right
      exact ⟨heq.trans heq', String.le_trans hle hle'⟩

theorem keyLe_total (key other : Bool × String) :
    (keyLe key other || keyLe other key) = true := by
  rw [Bool.or_eq_true, keyLe_iff, keyLe_iff]
  rcases lt_trichotomy key.1 other.1 with hlt | heq | hgt
  · exact .inl (.inl hlt)
  · rcases String.le_total key.2 other.2 with hle | hle
    · exact .inl (.inr ⟨heq, hle⟩)
    · exact .inr (.inr ⟨heq.symm, hle⟩)
  · exact .inr (.inl hgt)

/-! ### The modules -/

variable {listing other : Entries String}

theorem mem_modules {name : String} {content : List UInt8} :
    (name, content) ∈ modules listing ↔
      (name, .file content) ∈ listing ∧ extension name = some "rs" := by
  unfold modules
  rw [List.mem_filterMap]
  constructor
  · rintro ⟨⟨key, raw⟩, hmem, hmodule⟩
    cases raw with
    | dir entries => cases hmodule
    | file bytes =>
      dsimp only at hmodule
      split at hmodule
      · next hextension =>
        cases hmodule
        exact ⟨hmem, hextension⟩
      · cases hmodule
  · rintro ⟨hmem, hextension⟩
    exact ⟨_, hmem, if_pos hextension⟩

theorem mem_bridgeModules {module : String × List UInt8} :
    module ∈ bridgeModules listing ↔ module ∈ modules listing :=
  (List.mergeSort_perm (modules listing) _).mem_iff

theorem mem_iff_look (h : (FileTree.Raw.dir listing).Distinct) {name : String}
    {content : List UInt8} :
    (name, .file content) ∈ listing ↔
      look (some (.dir listing)) [name] = some (.file content) := by
  rw [look_dir_cons]
  constructor
  · intro hmem
    rw [lookup_of_mem h.nodup hmem]
    rfl
  · intro hlook
    cases hlookup : listing.lookup name with
    | none =>
      rw [hlookup] at hlook
      cases hlook
    | some raw =>
      rw [hlookup] at hlook
      cases raw with
      | dir entries => cases hlook
      | file bytes =>
        cases hlook
        exact mem_of_lookup hlookup

theorem nodup_modules (h : (FileTree.Raw.dir listing).Distinct) :
    ((modules listing).map Prod.fst).Nodup := by
  have hnames : ((modules listing).map Prod.fst).Sublist (listing.map Prod.fst) := by
    have hnodup := h.nodup
    clear h hnodup
    unfold modules
    induction listing with
    | nil => exact List.Sublist.refl []
    | cons entry rest ih =>
      obtain ⟨name, raw⟩ := entry
      cases raw with
      | dir entries => exact ih.cons name
      | file content =>
        by_cases hextension : extension name = some "rs"
        · simpa [hextension] using ih.cons_cons name
        · simpa [hextension] using ih.cons name
  exact h.nodup.sublist hnames

theorem nodup_bridgeModules (h : (FileTree.Raw.dir listing).Distinct) :
    ((bridgeModules listing).map Prod.fst).Nodup :=
  ((List.mergeSort_perm (modules listing) _).map Prod.fst).nodup_iff.mpr (nodup_modules h)

/-- `mod.rs` is before every other module, and those are in order. -/
def Precedes (module other : String × List UInt8) : Prop :=
  if module.1 = "mod.rs" then other.1 ≠ "mod.rs" else other.1 ≠ "mod.rs" ∧ module.1 < other.1

theorem precedes_of_keyLe {module other : String × List UInt8} (hne : module.1 ≠ other.1)
    (h : keyLe (moduleKey module.1) (moduleKey other.1) = true) : Precedes module other := by
  unfold Precedes
  split
  · next hmodule =>
    intro hother
    exact hne (hmodule.trans hother.symm)
  · next hmodule =>
    rw [keyLe_iff] at h
    unfold moduleKey at h
    simp only [bne_iff_ne.mpr hmodule] at h
    rcases h with hlt | ⟨heq, hle⟩
    · exact absurd hlt (by cases (other.1 != "mod.rs") <;> decide)
    · refine ⟨bne_iff_ne.mp heq.symm, ?_⟩
      exact lt_of_le_of_ne hle hne

theorem pairwise_bridgeModules (h : (FileTree.Raw.dir listing).Distinct) :
    (bridgeModules listing).Pairwise Precedes := by
  have htrans : ∀ first second third, moduleLe first second = true →
      moduleLe second third = true → moduleLe first third = true :=
    fun _ _ _ => keyLe_trans
  have htotal : ∀ module other, (moduleLe module other || moduleLe other module) = true :=
    fun _ _ => keyLe_total _ _
  have hsorted : (bridgeModules listing).Pairwise fun module other =>
      moduleLe module other = true := List.pairwise_mergeSort htrans htotal (modules listing)
  have hnames : (bridgeModules listing).Pairwise fun module other => module.1 ≠ other.1 :=
    List.pairwise_map.mp (nodup_bridgeModules h)
  exact (hnames.and hsorted).imp fun hboth => precedes_of_keyLe hboth.1 hboth.2

/-- The modules depend on what is in the directory, not on how it is listed. -/
theorem bridgeModules_eq (h : (FileTree.Raw.dir listing).Distinct)
    (hother : (FileTree.Raw.dir other).Distinct)
    (hsame : ∀ name, extension name = some "rs" → ∀ content,
      look (some (.dir listing)) [name] = some (.file content) ↔
        look (some (.dir other)) [name] = some (.file content)) :
    bridgeModules listing = bridgeModules other := by
  have hmem : ∀ module, module ∈ bridgeModules listing ↔ module ∈ bridgeModules other := by
    rintro ⟨name, content⟩
    rw [mem_bridgeModules, mem_bridgeModules, mem_modules, mem_modules, mem_iff_look h,
      mem_iff_look hother]
    exact and_congr_left fun hextension => hsame name hextension content
  have hperm : (bridgeModules listing).Perm (bridgeModules other) :=
    (List.perm_ext_iff_of_nodup (List.Nodup.of_map _ (nodup_bridgeModules h))
      (List.Nodup.of_map _ (nodup_bridgeModules hother))).mpr hmem
  refine List.Perm.eq_of_pairwise ?_ (pairwise_bridgeModules h) (pairwise_bridgeModules hother)
    hperm
  intro module next _ _ hbefore hafter
  exfalso
  unfold Precedes at hbefore hafter
  split at hbefore
  · next hmodule =>
    rw [if_neg hbefore] at hafter
    exact hafter.1 hmodule
  · rw [if_neg hbefore.1] at hafter
    exact lt_asymm hbefore.2 hafter.2

end Build

end ContainerBridge
