import ContainerBridge.Mirror.Kinds

/-! Where `mirror` leaves skipped names alone: where no directory it removes has one below it. -/

namespace ContainerBridge

namespace Build

open FileTree

variable {Name : Type} [DecidableEq Name] {skip : List Name} {source : Raw Name}
  {destination : Option (Raw Name)} {created : Staging Name}

/-! ### What is touched -/

/-- The effect makes, writes or removes what is at the path. -/
def Effect.Touches : Effect Name → List Name → Prop
  | .created place, path | .wrote place _, path => path = place
  | .removed place stale, path => ∃ below, path = place ++ below ∧ look (some stale) below ≠ none

theorem Effect.touches_under {effect : Effect Name} {name : Name} {path : List Name} :
    (effect.under name).Touches path ↔ ∃ below, path = name :: below ∧ effect.Touches below := by
  cases effect <;> simp [under, Touches]

/-- None of the effects touches the path. -/
def Untouched (effects : List (Effect Name)) (path : List Name) : Prop :=
  ∀ effect ∈ effects, ¬effect.Touches path

/-- What `mirror` touches nowhere is what it was, when that is so of the source's entries. -/
theorem frame_mirror_of_children (hsource : source.Distinct)
    (hchildren : ∀ entry ∈ listing source, ∀ before : Option (Raw Name), Distinct before →
      ∀ path, Untouched (stage skip entry.2 before).effects path →
        look (stage skip entry.2 before).destination path = look before path)
    (h : Distinct destination) (path : List Name)
    (huntouched : Untouched (mirror skip source destination).effects path) :
    look (mirror skip source destination).destination path = look destination path := by
  cases hcreate : createDirAll destination with
  | none => rw [mirror, hcreate]
  | some created =>
    cases path with
    | nil =>
      rw [look_mirror_nil h hcreate]
      rcases created_effects hcreate with ⟨-, heffects⟩ | ⟨rfl, -⟩
      · refine absurd rfl (huntouched (.created []) ?_)
        exact (mem_mirror_effects h hcreate hsource).mpr (.inl (by simp [heffects]))
      · rfl
    | cons name path =>
      rw [look_mirror h hcreate hsource]
      cases hlookup : (reached skip created.entries (listing source)).lookup name with
      | some child =>
        by_cases hskip : name ∈ skip
        · simp [hskip]
        · have hreached := mem_of_lookup hlookup
          have hmem := reached_subset created.entries (listing source) hreached
          simp only [hskip, if_false]
          rw [look_of_created hcreate]
          refine hchildren _ hmem _ (distinct_lookup (distinct_created h hcreate).1 name) path ?_
          intro effect heffect htouches
          refine huntouched (effect.under name) ?_ (Effect.touches_under.mpr ⟨path, rfl, htouches⟩)
          exact (mem_mirror_effects h hcreate hsource).mpr
            (.inr (.inr ⟨(name, child), hreached, hskip, effect, heffect, rfl⟩))
      | none =>
        cases hkeeps : keeps skip source name with
        | true => simp
        | false =>
          have hnothing : look destination (name :: path) = none := by
            by_contra hthere
            rw [look_of_created hcreate] at hthere
            cases hstale : created.entries.lookup name with
            | none => exact hthere (by rw [hstale]; rfl)
            | some stale =>
              rw [hstale] at hthere
              refine huntouched (.removed [name] stale) ?_ ⟨path, rfl, hthere⟩
              exact (mem_mirror_effects h hcreate hsource).mpr (.inr (.inl
                (mem_removals.mpr ⟨name, stale, mem_of_lookup hstale, hkeeps, rfl⟩)))
          simp [hnothing]

theorem frame_stage (source : Raw Name) (hsource : source.Distinct) :
    ∀ destination : Option (Raw Name), Distinct destination →
      ∀ path, Untouched (stage skip source destination).effects path →
        look (stage skip source destination).destination path = look destination path := by
  induction source using FileTree.Raw.induction with
  | file fresh =>
    intro destination h path huntouched
    rw [stage_file] at huntouched ⊢
    rcases destination with - | current | entries
    · cases path with
      | nil => exact absurd rfl (huntouched (.wrote [] fresh) List.mem_cons_self)
      | cons name path => rfl
    · by_cases hsame : current = fresh
      · simp [hsame]
      · simp only [hsame, if_false] at huntouched ⊢
        cases path with
        | nil => exact absurd rfl (huntouched (.wrote [] fresh) List.mem_cons_self)
        | cons name path => rfl
    · rfl
  | dir sources ih =>
    intro destination h path huntouched
    refine frame_mirror_of_children hsource (fun entry hentry => ?_) h path huntouched
    exact ih entry.1 entry.2 hentry (hsource.child (lookup_of_mem hsource.nodup hentry))

theorem frame_mirror (hsource : source.Distinct) (h : Distinct destination) (path : List Name)
    (huntouched : Untouched (mirror skip source destination).effects path) :
    look (mirror skip source destination).destination path = look destination path := by
  refine frame_mirror_of_children hsource (fun entry hentry => ?_) h path huntouched
  cases source with
  | file content => cases hentry
  | dir sources =>
    exact frame_stage entry.2 (hsource.child (lookup_of_mem hsource.nodup hentry))

/-! ### What is removed -/

/-- `mirror` gets from a source and a destination to others below them: it is called for a source
directory once the entries listed before it are done. -/
inductive Reaches (skip : List Name) : Raw Name → Option (Raw Name) → Raw Name →
    Option (Raw Name) → Prop
  | here {source : Raw Name} {destination : Option (Raw Name)} :
      Reaches skip source destination source destination
  | under {earlier later inner : Entries Name} {name : Name} {source : Raw Name}
      {destination destination' : Option (Raw Name)} {created : Staging Name}
      (hcreate : createDirAll destination = some created) (hskip : name ∉ skip)
      (hearlier : ∀ entry ∈ earlier, entry.1 ∉ skip →
        SameKinds skip (some entry.2) (created.entries.lookup entry.1))
      (h : Reaches skip (.dir inner) (created.entries.lookup name) source destination') :
      Reaches skip (.dir (earlier ++ (name, .dir inner) :: later)) destination source destination'

/-- Wherever `mirror` gets, what it finds there that is neither skipped nor in the source has no
skipped name below it. -/
def Sheltered (skip : List Name) (source : Raw Name) (destination : Option (Raw Name)) : Prop :=
  ∀ source' destination', Reaches skip source destination source' destination' →
    ∀ name below, name ∉ skip → look (some source') [name] = none →
      look destination' (name :: below) ≠ none → Unskipped skip below

theorem sheltered_of_file (hcreate : createDirAll destination = none) :
    Sheltered skip source destination := by
  intro source' destination' hreaches name below hskip hnone hthere
  cases hreaches with
  | here =>
    rcases destination with - | content | entries
    · cases hcreate
    · simp at hthere
    · cases hcreate
  | under hcreate' =>
    rw [hcreate] at hcreate'
    cases hcreate'

theorem sheltered_iff (hcreate : createDirAll destination = some created) :
    Sheltered skip source destination ↔
      (∀ name below, name ∉ skip → look (some source) [name] = none →
        look destination (name :: below) ≠ none → Unskipped skip below) ∧
      ∀ earlier name inner later, listing source = earlier ++ (name, .dir inner) :: later →
        name ∉ skip →
        (∀ entry ∈ earlier, entry.1 ∉ skip →
          SameKinds skip (some entry.2) (created.entries.lookup entry.1)) →
        Sheltered skip (.dir inner) (created.entries.lookup name) := by
  constructor
  · intro h
    refine ⟨h _ _ .here, fun earlier name inner later hlisting hskip hearlier => ?_⟩
    intro source' destination' hreaches
    cases source with
    | file content => simp [listing] at hlisting
    | dir sources =>
      rw [listing_dir] at hlisting
      rw [hlisting] at h
      exact h _ _ (.under hcreate hskip hearlier hreaches)
  · rintro ⟨hhere, hbelow⟩ source' destination' hreaches
    cases hreaches with
    | here => exact hhere
    | under hcreate' hskip hearlier hreaches =>
      rw [hcreate] at hcreate'
      cases hcreate'
      exact hbelow _ _ _ _ rfl hskip hearlier _ _ hreaches

/-- No effect touches a path with a skipped name on it. -/
def Spares (skip : List Name) (effects : List (Effect Name)) : Prop :=
  ∀ effect ∈ effects, ∀ path, effect.Touches path → Unskipped skip path

theorem spares_created (hcreate : createDirAll destination = some created) :
    Spares skip created.effects := by
  intro effect heffect path htouches
  rcases created_effects hcreate with ⟨-, heffects⟩ | ⟨-, heffects⟩
  · rw [heffects] at heffect
    cases List.mem_singleton.mp heffect
    rw [show path = [] from htouches]
    exact unskipped_nil
  · simp [heffects] at heffect

theorem spares_removals (h : Distinct destination)
    (hcreate : createDirAll destination = some created) :
    Spares skip (removals skip source created.entries) ↔
      ∀ name below, name ∉ skip → look (some source) [name] = none →
        look destination (name :: below) ≠ none → Unskipped skip below := by
  constructor
  · intro hspares name below hskip hnone hthere
    rw [look_of_created hcreate] at hthere
    cases hstale : created.entries.lookup name with
    | none => exact absurd (by rw [hstale]; rfl) hthere
    | some stale =>
      rw [hstale] at hthere
      have heffect : .removed [name] stale ∈ removals skip source created.entries :=
        mem_removals.mpr
          ⟨name, stale, mem_of_lookup hstale, keeps_eq_false.mpr ⟨hskip, hnone⟩, rfl⟩
      exact (unskipped_cons.mp (hspares _ heffect (name :: below) ⟨below, rfl, hthere⟩)).2
  · intro hbelow effect heffect path htouches
    obtain ⟨name, stale, hmem, hkeeps, rfl⟩ := mem_removals.mp heffect
    obtain ⟨below, rfl, hthere⟩ := htouches
    obtain ⟨hskip, hnone⟩ := keeps_eq_false.mp hkeeps
    refine unskipped_cons.mpr ⟨hskip, hbelow name below hskip hnone ?_⟩
    rwa [look_of_created hcreate, lookup_of_mem (distinct_created h hcreate).1.nodup hmem]

theorem spares_under {effects : List (Effect Name)} {name : Name} (hskip : name ∉ skip) :
    Spares skip (effects.map (Effect.under name)) ↔ Spares skip effects := by
  constructor
  · intro h effect heffect path htouches
    have hunder := h _ (List.mem_map_of_mem heffect) (name :: path)
      (Effect.touches_under.mpr ⟨path, rfl, htouches⟩)
    exact (unskipped_cons.mp hunder).2
  · intro h effect heffect path htouches
    obtain ⟨inner, hinner, rfl⟩ := List.mem_map.mp heffect
    obtain ⟨below, rfl, hbelow⟩ := Effect.touches_under.mp htouches
    exact unskipped_cons.mpr ⟨hskip, h inner hinner below hbelow⟩

theorem spares_stage_file (fresh : List UInt8) (destination : Option (Raw Name)) :
    Spares skip (stage skip (.file fresh) destination).effects := by
  intro effect heffect path htouches
  have hwrote : effect = .wrote [] fresh := by
    rw [stage_file] at heffect
    rcases destination with - | current | entries
    · exact List.mem_singleton.mp heffect
    · by_cases hsame : current = fresh
      · simp [hsame] at heffect
      · simpa [hsame] using heffect
    · cases heffect
  rw [hwrote] at htouches
  rw [show path = [] from htouches]
  exact unskipped_nil

/-- The second loop gets to the entries listed before which none panics. -/
theorem mem_reached {before sources : Entries Name} {entry : Name × Raw Name} :
    entry ∈ reached skip before sources ↔
      ∃ earlier later, sources = earlier ++ entry :: later ∧
        ∀ other ∈ earlier, other.1 ∉ skip → (stageAt skip before other).panic = none := by
  induction sources with
  | nil => simp [reached]
  | cons first rest ih =>
    rw [reached]
    by_cases hstop : first.1 ∉ skip ∧ (stageAt skip before first).panic.isSome
    · rw [if_pos hstop, List.mem_singleton]
      constructor
      · rintro rfl
        exact ⟨[], rest, rfl, by simp⟩
      · rintro ⟨earlier, later, hsplit, hearlier⟩
        cases earlier with
        | nil => exact (List.cons.inj hsplit).1.symm
        | cons other earlier =>
          obtain ⟨rfl, -⟩ := List.cons.inj hsplit
          have hnone := hearlier first List.mem_cons_self hstop.1
          rw [hnone] at hstop
          cases hstop.2
    · rw [if_neg hstop, List.mem_cons, ih]
      have hfirst : first.1 ∉ skip → (stageAt skip before first).panic = none := by
        intro hskip
        by_contra hpanic
        exact hstop ⟨hskip, Option.isSome_iff_ne_none.mpr hpanic⟩
      constructor
      · rintro (rfl | ⟨earlier, later, rfl, hearlier⟩)
        · exact ⟨[], rest, rfl, by simp⟩
        · refine ⟨first :: earlier, later, rfl, fun other hother => ?_⟩
          rcases List.mem_cons.mp hother with rfl | hmem
          · exact hfirst
          · exact hearlier other hmem
      · rintro ⟨earlier, later, hsplit, hearlier⟩
        cases earlier with
        | nil => exact .inl (List.cons.inj hsplit).1.symm
        | cons other earlier =>
          obtain ⟨-, rfl⟩ := List.cons.inj hsplit
          exact .inr ⟨earlier, later, rfl, fun other hother =>
            hearlier other (List.mem_cons_of_mem _ hother)⟩

/-- Nothing skipped is touched where what is removed has nothing skipped in it, when that is so of
the source's directories. -/
theorem spares_mirror_of_children (hsource : source.Distinct)
    (hchildren : ∀ name inner, (name, .dir inner) ∈ listing source →
      ∀ before : Option (Raw Name), Distinct before →
        (Spares skip (mirror skip (.dir inner) before).effects ↔
          Sheltered skip (.dir inner) before))
    (h : Distinct destination) :
    Spares skip (mirror skip source destination).effects ↔
      Sheltered skip source destination := by
  cases hcreate : createDirAll destination with
  | none =>
    rw [mirror, hcreate]
    exact iff_of_true (by simp [Spares]) (sheltered_of_file hcreate)
  | some created =>
    have hdistinct := (distinct_created h hcreate).1
    have hpanics : ∀ entry ∈ listing source, (stageAt skip created.entries entry).panic = none ↔
        SameKinds skip (some entry.2) (created.entries.lookup entry.1) := by
      intro entry hentry
      cases source with
      | file content => cases hentry
      | dir sources =>
        exact stage_panic entry.2 (hsource.child (lookup_of_mem hsource.nodup hentry)) _
          (distinct_lookup hdistinct entry.1)
    rw [sheltered_iff hcreate, ← spares_removals h hcreate]
    constructor
    · intro hspares
      refine ⟨fun effect heffect => hspares effect
        ((mem_mirror_effects h hcreate hsource).mpr (.inr (.inl heffect))), ?_⟩
      intro earlier name inner later hlisting hskip hearlier
      have hmem : ∀ other ∈ earlier, other ∈ listing source := by
        intro other hother
        rw [hlisting]
        exact List.mem_append_left _ hother
      have hreached : (name, .dir inner) ∈ reached skip created.entries (listing source) :=
        mem_reached.mpr ⟨earlier, later, hlisting, fun other hother hskipped =>
          (hpanics other (hmem other hother)).mpr (hearlier other hother hskipped)⟩
      have hchild := reached_subset created.entries (listing source) hreached
      refine (hchildren name inner hchild _ (distinct_lookup hdistinct name)).mp ?_
      refine (spares_under hskip).mp fun effect heffect => hspares effect ?_
      obtain ⟨inner', hinner, rfl⟩ := List.mem_map.mp heffect
      exact (mem_mirror_effects h hcreate hsource).mpr
        (.inr (.inr ⟨_, hreached, hskip, inner', hinner, rfl⟩))
    · rintro ⟨hremovals, hbelow⟩ effect heffect
      rcases (mem_mirror_effects h hcreate hsource).mp heffect with hmade | hremoved |
        ⟨entry, hentry, hskip, inner, hinner, rfl⟩
      · exact spares_created hcreate effect hmade
      · exact hremovals effect hremoved
      · refine (spares_under hskip).mpr ?_ _ (List.mem_map_of_mem hinner)
        obtain ⟨name, child⟩ := entry
        cases child with
        | file fresh => exact spares_stage_file fresh _
        | dir entries =>
          obtain ⟨earlier, later, hlisting, hearlier⟩ := mem_reached.mp hentry
          have hchild := reached_subset created.entries (listing source) hentry
          refine (hchildren name entries hchild _ (distinct_lookup hdistinct name)).mpr ?_
          refine hbelow earlier name entries later hlisting hskip fun other hother hskipped => ?_
          refine (hpanics other ?_).mp (hearlier other hother hskipped)
          rw [hlisting]
          exact List.mem_append_left _ hother

theorem spares_mirror_dir (source : Raw Name) (hsource : source.Distinct) :
    ∀ inner, source = .dir inner → ∀ destination : Option (Raw Name), Distinct destination →
      (Spares skip (mirror skip (.dir inner) destination).effects ↔
        Sheltered skip (.dir inner) destination) := by
  induction source using FileTree.Raw.induction with
  | file fresh => nofun
  | dir sources ih =>
    rintro _ ⟨⟩ destination h
    refine spares_mirror_of_children hsource (fun name inner hinner => ?_) h
    exact ih name (.dir inner) hinner (hsource.child (lookup_of_mem hsource.nodup hinner)) inner rfl

theorem spares_mirror (hsource : source.Distinct) (h : Distinct destination) :
    Spares skip (mirror skip source destination).effects ↔ Sheltered skip source destination := by
  refine spares_mirror_of_children hsource (fun name inner hinner => ?_) h
  cases source with
  | file content => cases hinner
  | dir sources =>
    exact spares_mirror_dir _ (hsource.child (lookup_of_mem hsource.nodup hinner)) inner rfl

/-- `mirror` neither makes, writes nor removes what is under a skipped name, and leaves it as it
was. -/
structure LeavesSkipped (skip : List Name) (source : Raw Name) (destination : Option (Raw Name)) :
    Prop where
  spares : Spares skip (mirror skip source destination).effects
  unchanged : ∀ path, ¬Unskipped skip path →
    look (mirror skip source destination).destination path = look destination path

/-- `mirror` leaves skipped names alone where, wherever it gets, nothing it finds that is neither
skipped nor in the source has one below it. -/
theorem leavesSkipped_iff (skip : List Name) (source : Tree Name (List UInt8))
    (destination : Option (Tree Name (List UInt8))) :
    LeavesSkipped skip source.raw (destination.map Tree.raw) ↔
      Sheltered skip source.raw (destination.map Tree.raw) := by
  have h := distinct_raw destination
  rw [← spares_mirror source.distinct h]
  constructor
  · exact fun hleaves => hleaves.spares
  · refine fun hspares => ⟨hspares, fun path hskipped => ?_⟩
    exact frame_mirror source.distinct h path fun effect heffect htouches =>
      hskipped (hspares effect heffect path htouches)

/-- A directory that is not in the source is removed with the skipped name in it. -/
theorem removes_skipped : ¬∀ (skip : List String) (source : Tree String (List UInt8))
    (destination : Option (Tree String (List UInt8))),
    LeavesSkipped skip source.raw (destination.map Tree.raw) := by
  intro h
  have hleaves := h [".build"]
    { raw := .dir [], distinct := .dir .nil nofun }
    (some
      { raw := .dir [("Plugin", .dir [(".build", .dir [])])]
        distinct := .dir (by simp)
          (by simpa using .dir (by simp) (by simpa using .dir .nil nofun)) })
  have hunder := hleaves.unchanged ["Plugin", ".build"] (by simp)
  cases hunder

end Build

end ContainerBridge
