import ContainerBridge.Mirror.Steps

/-! Where `mirror` reproduces its source: where no name is a file on one side and a directory on the
other. -/

namespace ContainerBridge

namespace Build

open FileTree

variable {Name : Type} [DecidableEq Name] {skip : List Name}

/-- No name on the path is skipped. -/
def Unskipped (skip path : List Name) : Prop := ∀ name ∈ path, name ∉ skip

omit [DecidableEq Name] in
@[simp] theorem unskipped_nil : Unskipped skip [] := nofun

omit [DecidableEq Name] in
@[simp] theorem unskipped_cons {name : Name} {path : List Name} :
    Unskipped skip (name :: path) ↔ name ∉ skip ∧ Unskipped skip path := by
  simp [Unskipped]

/-- Whatever is on both sides, under no skipped name, is a file on both or a directory on both. -/
def SameKinds (skip : List Name) (source destination : Option (Raw Name)) : Prop :=
  ∀ path, Unskipped skip path → ∀ kind other, look source path = some kind →
    look destination path = some other → kind.Same other

variable {destination : Option (Raw Name)} {created : Staging Name} {sources : Entries Name}

theorem sameKinds_dir (hcreate : createDirAll destination = some created)
    (hsources : (FileTree.Raw.dir sources).Distinct) :
    SameKinds skip (some (.dir sources)) destination ↔
      ∀ entry ∈ sources, entry.1 ∉ skip →
        SameKinds skip (some entry.2) (created.entries.lookup entry.1) := by
  constructor
  · intro h entry hentry hskip path hpath kind other hkind hother
    refine h (entry.1 :: path) (unskipped_cons.mpr ⟨hskip, hpath⟩) kind other ?_ ?_
    · rw [look_dir_cons, lookup_of_mem hsources.nodup hentry, hkind]
    · rw [look_of_created hcreate, hother]
  · intro h path hpath kind other hkind hother
    cases path with
    | nil =>
      rw [look_dir_nil] at hkind
      cases hkind
      rcases destination with - | content | entries
      · cases hother
      · cases hcreate
      · cases hother
        trivial
    | cons name path =>
      obtain ⟨hskip, hpath⟩ := unskipped_cons.mp hpath
      rw [look_of_created hcreate] at hother
      rw [look_dir_cons] at hkind
      cases hlookup : sources.lookup name with
      | none =>
        rw [hlookup] at hkind
        cases hkind
      | some child =>
        rw [hlookup] at hkind
        exact h (name, child) (mem_of_lookup hlookup) hskip path hpath kind other hkind hother

theorem sameKinds_file (fresh : List UInt8) (destination : Option (Raw Name)) :
    SameKinds skip (some (.file fresh)) destination ↔ look destination [] ≠ some .dir := by
  constructor
  · intro h hdir
    exact h [] unskipped_nil _ _ rfl hdir
  · intro h path hpath kind other hkind hother
    cases path with
    | cons name path =>
      rw [look_file_cons] at hkind
      cases hkind
    | nil =>
      rw [look_file_nil] at hkind
      cases hkind
      cases other with
      | file => trivial
      | dir => exact absurd hother h

theorem not_sameKinds_of_file {sources : Entries Name} (hcreate : createDirAll destination = none) :
    ¬SameKinds skip (some (.dir sources)) destination := by
  rcases destination with - | content | entries
  · cases hcreate
  · exact fun h => h [] unskipped_nil _ _ rfl rfl
  · cases hcreate

/-- An entry of the source stops the build where its kinds differ from the destination's. -/
theorem stage_panic (source : Raw Name) (hsource : source.Distinct) :
    ∀ destination : Option (Raw Name), Distinct destination →
      ((stage skip source destination).panic = none ↔
        SameKinds skip (some source) destination) := by
  induction source using FileTree.Raw.induction with
  | file fresh =>
    intro destination h
    rw [sameKinds_file, stage_file]
    rcases destination with - | current | entries
    · simp
    · by_cases hsame : current = fresh <;> simp [hsame]
    · simp
  | dir sources ih =>
    intro destination h
    simp only [stage]
    cases hcreate : createDirAll destination with
    | none =>
      rw [mirror, hcreate]
      exact iff_of_false (by simp) (not_sameKinds_of_file hcreate)
    | some created =>
      rw [mirror_panic h hcreate hsource, sameKinds_dir hcreate hsource]
      refine forall₂_congr fun entry hentry => imp_congr_right fun hskip => ?_
      exact ih entry.1 entry.2 hentry (hsource.child (lookup_of_mem hsource.nodup hentry)) _
        (distinct_lookup (distinct_created h hcreate).1 entry.1)

/-! ### What is reproduced -/

/-- Without a panic, the second loop gets to every entry. -/
theorem reached_eq_self (before : Entries Name)
    (h : ∀ entry ∈ sources, entry.1 ∉ skip → (stageAt skip before entry).panic = none) :
    reached skip before sources = sources := by
  induction sources with
  | nil => rfl
  | cons entry rest ih =>
    rw [reached, if_neg, ih fun entry hentry => h entry (List.mem_cons_of_mem _ hentry)]
    rintro ⟨hskip, hpanic⟩
    rw [h entry List.mem_cons_self hskip] at hpanic
    cases hpanic

/-- An entry that does not stop the build is at the destination what it is in the source. -/
theorem look_stage (source : Raw Name) (hsource : source.Distinct) :
    ∀ destination : Option (Raw Name), Distinct destination →
      (stage skip source destination).panic = none → ∀ path, Unskipped skip path →
        look (stage skip source destination).destination path = look (some source) path := by
  induction source using FileTree.Raw.induction with
  | file fresh =>
    intro destination h hpanic path hpath
    rw [stage_file] at hpanic ⊢
    rcases destination with - | current | entries
    · rfl
    · by_cases hsame : current = fresh <;> simp [hsame]
    · cases hpanic
  | dir sources ih =>
    intro destination h hpanic path hpath
    simp only [stage] at hpanic ⊢
    cases hcreate : createDirAll destination with
    | none =>
      rw [mirror, hcreate] at hpanic
      cases hpanic
    | some created =>
      have hstages := (mirror_panic h hcreate hsource).mp hpanic
      cases path with
      | nil =>
        exact look_mirror_nil h hcreate
      | cons name path =>
        obtain ⟨hskip, hpath⟩ := unskipped_cons.mp hpath
        rw [look_mirror h hcreate hsource, listing_dir, reached_eq_self _ hstages, look_dir_cons]
        cases hlookup : sources.lookup name with
        | some child =>
          have hmem := mem_of_lookup hlookup
          simp only [hskip, if_false]
          exact ih name child hmem (hsource.child hlookup) _
            (distinct_lookup (distinct_created h hcreate).1 name) (hstages _ hmem hskip) path hpath
        | none =>
          have hkeeps : keeps skip (.dir sources) name = false := by
            simp [keeps, has, hskip, hlookup]
          simp [hkeeps]

/-- A file is written only where the source has other contents than the destination. -/
theorem wrote_stage (source : Raw Name) (hsource : source.Distinct) :
    ∀ destination : Option (Raw Name), Distinct destination → ∀ path fresh,
      .wrote path fresh ∈ (stage skip source destination).effects →
        look (some source) path = some (.file fresh) ∧
          look destination path ≠ some (.file fresh) := by
  induction source using FileTree.Raw.induction with
  | file fresh =>
    intro destination h path written hwrote
    rw [stage_file] at hwrote
    rcases destination with - | current | entries
    · cases List.mem_singleton.mp hwrote
      exact ⟨rfl, nofun⟩
    · by_cases hsame : current = fresh
      · simp [hsame] at hwrote
      · simp only [hsame, if_false] at hwrote
        cases List.mem_singleton.mp hwrote
        simpa using hsame
    · cases hwrote
  | dir sources ih =>
    intro destination h path written hwrote
    simp only [stage] at hwrote
    cases hcreate : createDirAll destination with
    | none =>
      rw [mirror, hcreate] at hwrote
      cases hwrote
    | some created =>
      rcases (mem_mirror_effects h hcreate hsource).mp hwrote with hmade | hremoved |
        ⟨entry, hentry, hskip, inner, hinner, hunder⟩
      · rcases created_effects hcreate with ⟨-, heffects⟩ | ⟨-, heffects⟩ <;>
          simp [heffects] at hmade
      · obtain ⟨name, stale, -, -, heq⟩ := mem_removals.mp hremoved
        cases heq
      · have hmem := reached_subset created.entries sources hentry
        have hlookup := lookup_of_mem hsource.nodup hmem
        cases inner with
        | created | removed => cases hunder
        | wrote below content =>
          cases hunder
          have hchild := ih entry.1 entry.2 hmem (hsource.child hlookup) _
            (distinct_lookup (distinct_created h hcreate).1 entry.1) below written hinner
          rw [look_dir_cons, hlookup, look_of_created hcreate]
          exact hchild

/-- A destination that is what the source is, but for what is skipped. -/
def Mirrors (skip : List Name) (source destination : Option (Raw Name)) : Prop :=
  ∀ path, Unskipped skip path → look destination path = look source path

/-- Nothing is done to a destination that is what the source is already. -/
theorem effects_stage_of_mirrors (source : Raw Name) (hsource : source.Distinct) :
    ∀ destination : Option (Raw Name), Distinct destination →
      Mirrors skip (some source) destination → (stage skip source destination).effects = [] := by
  induction source using FileTree.Raw.induction with
  | file fresh =>
    intro destination h hmirrors
    have hroot := hmirrors [] unskipped_nil
    rw [stage_file]
    rcases destination with - | current | entries
    · cases hroot
    · cases hroot
      simp
    · cases hroot
  | dir sources ih =>
    intro destination h hmirrors
    have hroot := hmirrors [] unskipped_nil
    simp only [stage]
    cases hcreate : createDirAll destination with
    | none =>
      rw [mirror, hcreate]
    | some created =>
      refine List.eq_nil_iff_forall_not_mem.mpr fun effect heffect => ?_
      rcases (mem_mirror_effects h hcreate hsource).mp heffect with hmade | hremoved |
        ⟨entry, hentry, hskip, inner, hinner, -⟩
      · rcases created_effects hcreate with ⟨rfl, -⟩ | ⟨-, heffects⟩
        · cases hroot
        · simp [heffects] at hmade
      · obtain ⟨name, stale, hmem, hkeeps, -⟩ := mem_removals.mp hremoved
        obtain ⟨hskip, hnone⟩ := keeps_eq_false.mp hkeeps
        have hsame := hmirrors [name] (by simp [hskip])
        rw [hnone, look_of_created hcreate, look_nil_eq_none,
          lookup_of_mem (distinct_created h hcreate).1.nodup hmem] at hsame
        cases hsame
      · have hmem := reached_subset created.entries sources hentry
        have hlookup := lookup_of_mem hsource.nodup hmem
        have hnothing := ih entry.1 entry.2 hmem (hsource.child hlookup) _
          (distinct_lookup (distinct_created h hcreate).1 entry.1) fun path hpath => by
            have hsame := hmirrors (entry.1 :: path) (unskipped_cons.mpr ⟨hskip, hpath⟩)
            rwa [look_of_created hcreate, look_dir_cons, hlookup] at hsame
        rw [stageAt, hnothing] at hinner
        cases hinner

theorem Mirrors.sameKinds {source : Option (Raw Name)} (h : Mirrors skip source destination) :
    SameKinds skip source destination := by
  intro path hpath kind other hkind hother
  rw [h path hpath, hkind] at hother
  cases hother
  cases kind <;> trivial

/-- What `mirror` is for: the destination is then the source, but for what is skipped, files of the
same contents are not written, and a second time nothing is done. -/
structure Reproduces (skip : List Name) (source : Raw Name) (destination : Option (Raw Name)) :
    Prop where
  returns : (mirror skip source destination).panic = none
  mirrors : Mirrors skip (some source) (mirror skip source destination).destination
  unchanged : ∀ path content, look (some source) path = some (.file content) →
    look destination path = some (.file content) →
      ∀ fresh, .wrote path fresh ∉ (mirror skip source destination).effects
  again : (mirror skip source (mirror skip source destination).destination).panic = none ∧
    (mirror skip source (mirror skip source destination).destination).effects = []

theorem mirror_file_panic (content : List UInt8) (h : Distinct destination) :
    (mirror skip (.file content) destination).panic ≠ none := by
  cases hcreate : createDirAll destination with
  | none =>
    rw [mirror, hcreate]
    simp
  | some created =>
    rw [mirror_of_created h hcreate]
    simp

omit [DecidableEq Name] in
theorem distinct_raw (tree : Option (Tree Name (List UInt8))) : Distinct (tree.map Tree.raw) := by
  intro raw h
  obtain ⟨tree, rfl, rfl⟩ := Option.map_eq_some_iff.mp h
  exact tree.distinct

/-- `mirror` does what it is for where the source is a directory, and no name that it does not skip
is a file on one side and a directory on the other. -/
theorem reproduces_iff (skip : List Name) (source : Tree Name (List UInt8))
    (destination : Option (Tree Name (List UInt8))) :
    Reproduces skip source.raw (destination.map Tree.raw) ↔
      look (some source.raw) [] = some .dir ∧
        SameKinds skip (some source.raw) (destination.map Tree.raw) := by
  obtain ⟨source, hsource⟩ := source
  have h := distinct_raw destination
  generalize destination.map Tree.raw = destination at h
  cases source with
  | file content =>
    exact iff_of_false (fun hdone => mirror_file_panic content h hdone.returns) nofun
  | dir sources =>
    have hpanic : (mirror skip (.dir sources) destination).panic = none ↔ _ :=
      stage_panic (.dir sources) hsource destination h
    constructor
    · exact fun hdone => ⟨rfl, hpanic.mp hdone.returns⟩
    · rintro ⟨-, hkinds⟩
      have hreturns := hpanic.mpr hkinds
      have hmirrors : Mirrors skip (some (.dir sources))
          (mirror skip (.dir sources) destination).destination :=
        look_stage (.dir sources) hsource destination h hreturns
      have hagain : Distinct (mirror skip (.dir sources) destination).destination :=
        distinct_stage (.dir sources) destination h
      refine ⟨hreturns, hmirrors, fun path content hfile hsame fresh hwrote => ?_,
        (stage_panic (.dir sources) hsource _ hagain).mpr hmirrors.sameKinds,
        effects_stage_of_mirrors (.dir sources) hsource _ hagain hmirrors⟩
      obtain ⟨hfresh, hne⟩ := wrote_stage (.dir sources) hsource destination h path fresh hwrote
      rw [hfile] at hfresh
      cases hfresh
      exact hne hsame

/-- A source directory that has taken the place of a file stops the build. -/
theorem directory_over_file : ¬∀ (skip : List String) (source : Tree String (List UInt8))
    (destination : Option (Tree String (List UInt8))),
    Reproduces skip source.raw (destination.map Tree.raw) := by
  intro h
  have hdone := h []
    { raw := .dir [("Bridge", .dir [])]
      distinct := .dir (by simp) (by simpa using .dir .nil nofun) }
    (some
      { raw := .dir [("Bridge", .file [])]
        distinct := .dir (by simp) (by simpa using .file []) })
  cases hdone.returns

end Build

end ContainerBridge
