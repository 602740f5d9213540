import ContainerBridge.Build.Staging
import ContainerBridge.Mirror.Skipped

/-! A build touches a path of the staged package just where it changes what is there: `swift build`
goes by when a file was written. -/

namespace ContainerBridge

namespace Build

open FileTree

/-! ### `mirror` -/

section

variable {Name : Type} [DecidableEq Name] {skip : List Name}

theorem reached_sublist (before sources : Entries Name) :
    (reached skip before sources).Sublist sources := by
  induction sources with
  | nil => exact List.Sublist.refl []
  | cons entry rest ih =>
    rw [reached]
    split
    · exact (List.nil_sublist rest).cons_cons entry
    · exact ih.cons_cons entry

theorem lookup_reached {before sources : Entries Name} {entry : Name × Raw Name}
    (hsources : (FileTree.Raw.dir sources).Distinct) (h : entry ∈ reached skip before sources) :
    (reached skip before sources).lookup entry.1 = some entry.2 := by
  have hnodup : ((reached skip before sources).map Prod.fst).Nodup :=
    hsources.nodup.sublist ((reached_sublist before sources).map Prod.fst)
  exact lookup_of_mem hnodup h

/-- What is touched is not what it was. -/
theorem changed_stage (source : Raw Name) (hsource : source.Distinct) :
    ∀ destination : Option (Raw Name), Distinct destination →
      ∀ effect ∈ (stage skip source destination).effects, ∀ path, effect.Touches path →
        look (stage skip source destination).destination path ≠ look destination path := by
  induction source using FileTree.Raw.induction with
  | file fresh =>
    intro destination h effect heffect path htouches
    rw [stage_file] at heffect ⊢
    rcases destination with - | current | entries
    · cases List.mem_singleton.mp heffect
      cases (show path = [] from htouches)
      simp
    · by_cases hsame : current = fresh
      · simp [hsame] at heffect
      · simp only [hsame, if_false] at heffect ⊢
        cases List.mem_singleton.mp heffect
        cases (show path = [] from htouches)
        simpa using fun hfresh => hsame hfresh.symm
    · cases heffect
  | dir sources ih =>
    intro destination h effect heffect path htouches
    simp only [stage] at heffect ⊢
    cases hcreate : createDirAll destination with
    | none =>
      rw [mirror, hcreate] at heffect
      cases heffect
    | some created =>
      have hcreated := distinct_created h hcreate
      rcases (mem_mirror_effects h hcreate hsource).mp heffect with hmade | hremoved |
        ⟨⟨name, child⟩, hreached, hskip, inner, hinner, rfl⟩
      · rcases created_effects hcreate with ⟨rfl, heffects⟩ | ⟨-, heffects⟩
        · rw [heffects] at hmade
          cases List.mem_singleton.mp hmade
          cases (show path = [] from htouches)
          rw [look_mirror_nil h hcreate]
          simp
        · simp [heffects] at hmade
      · obtain ⟨name, stale, hmem, hkeeps, rfl⟩ := mem_removals.mp hremoved
        obtain ⟨below, rfl, hthere⟩ := htouches
        obtain ⟨hskip, hnone⟩ := keeps_eq_false.mp hkeeps
        rw [look_dir_cons, look_nil_eq_none] at hnone
        have hunreached : (reached skip created.entries (listing (.dir sources))).lookup name =
            none := by
          cases hlookup : (reached skip created.entries (listing (.dir sources))).lookup name with
          | none => rfl
          | some child =>
            have hlisted := reached_subset _ _ (mem_of_lookup hlookup)
            rw [lookup_of_mem hsource.nodup hlisted] at hnone
            cases hnone
        rw [List.singleton_append, look_mirror h hcreate hsource, hunreached]
        simp only [hkeeps, Bool.false_eq_true, if_false]
        rw [look_of_created hcreate, lookup_of_mem hcreated.1.nodup hmem]
        exact fun heq => hthere heq.symm
      · obtain ⟨below, rfl, hbelow⟩ := Effect.touches_under.mp htouches
        have hmem := reached_subset created.entries sources hreached
        have hchanged := ih name child hmem (hsource.child (lookup_of_mem hsource.nodup hmem)) _
          (distinct_lookup hcreated.1 name) inner hinner below hbelow
        rw [look_mirror h hcreate hsource]
        have hlookup := lookup_reached hsource hreached
        rw [listing_dir, hlookup, look_of_created hcreate]
        simp only [hskip, if_false]
        exact hchanged

/-- Some of the effects touches the path. -/
def Touched (effects : List (Effect Name)) (path : List Name) : Prop :=
  ∃ effect ∈ effects, effect.Touches path

theorem touched_mirror {sources : Entries Name} (hsource : (FileTree.Raw.dir sources).Distinct)
    {destination : Option (Raw Name)} (h : Distinct destination) (path : List Name) :
    Touched (mirror skip (.dir sources) destination).effects path ↔
      look (mirror skip (.dir sources) destination).destination path ≠ look destination path := by
  constructor
  · rintro ⟨effect, heffect, htouches⟩
    exact changed_stage (.dir sources) hsource destination h effect heffect path htouches
  · intro hchanged
    by_contra hnone
    refine hchanged (frame_mirror hsource h path fun effect heffect htouches => ?_)
    exact hnone ⟨effect, heffect, htouches⟩

/-- What is skipped below directories that the source has is left. -/
theorem look_stage_under (before : List Name) {name : Name} (hskip : name ∈ skip)
    (below : List Name) (source : Raw Name) (hsource : source.Distinct)
    (hdir : look (some source) before = some .dir) (hbefore : Unskipped skip before) :
    ∀ destination : Option (Raw Name), Distinct destination →
      (stage skip source destination).panic = none →
      look (stage skip source destination).destination (before ++ name :: below) =
        look destination (before ++ name :: below) := by
  induction before generalizing source with
  | nil =>
    intro destination h hpanic
    cases source with
    | file content => cases hdir
    | dir sources =>
      simp only [stage] at hpanic ⊢
      cases hcreate : createDirAll destination with
      | none => rw [mirror, hcreate]
      | some created =>
        rw [List.nil_append, look_mirror h hcreate hsource]
        have hkeeps : keeps skip (.dir sources) name = true := by simp [keeps, hskip]
        split
        · rw [if_pos hskip]
        · rw [if_pos hkeeps]
  | cons key before ih =>
    intro destination h hpanic
    cases source with
    | file content => cases hdir
    | dir sources =>
      obtain ⟨hkey, hbefore⟩ := unskipped_cons.mp hbefore
      simp only [stage] at hpanic ⊢
      cases hcreate : createDirAll destination with
      | none =>
        rw [mirror, hcreate] at hpanic
        cases hpanic
      | some created =>
        have hstages := (mirror_panic h hcreate hsource).mp hpanic
        rw [look_dir_cons] at hdir
        cases hlookup : sources.lookup key with
        | none =>
          rw [hlookup] at hdir
          cases hdir
        | some child =>
          rw [hlookup] at hdir
          have hchild := hsource.child hlookup
          have hstage := hstages (key, child) (mem_of_lookup hlookup) hkey
          rw [List.cons_append, look_mirror h hcreate hsource, listing_dir,
            reached_eq_self _ hstages, hlookup, look_of_created hcreate]
          simp only [hkey, if_false]
          exact ih child hchild hdir hbefore _
            (distinct_lookup (distinct_created h hcreate).1 key) hstage

theorem Effect.touches_foldr {effect : Effect Name} {place path : List Name} :
    (place.foldr Effect.under effect).Touches path ↔
      ∃ below, path = place ++ below ∧ effect.Touches below := by
  induction place generalizing path with
  | nil => simp
  | cons name place ih =>
    rw [List.foldr_cons, Effect.touches_under]
    constructor
    · rintro ⟨inner, rfl, hinner⟩
      obtain ⟨below, rfl, hbelow⟩ := ih.mp hinner
      exact ⟨below, rfl, hbelow⟩
    · rintro ⟨below, rfl, hbelow⟩
      exact ⟨place ++ below, rfl, ih.mpr ⟨below, rfl, hbelow⟩⟩

theorem touched_append {effects more : List (Effect Name)} {path : List Name} :
    Touched (effects ++ more) path ↔ Touched effects path ∨ Touched more path := by
  unfold Touched
  constructor
  · rintro ⟨effect, heffect, htouches⟩
    rcases List.mem_append.mp heffect with hmem | hmem
    · exact .inl ⟨effect, hmem, htouches⟩
    · exact .inr ⟨effect, hmem, htouches⟩
  · rintro (⟨effect, hmem, htouches⟩ | ⟨effect, hmem, htouches⟩)
    · exact ⟨effect, List.mem_append_left _ hmem, htouches⟩
    · exact ⟨effect, List.mem_append_right _ hmem, htouches⟩

end

/-! ### A build -/

variable {machine : Machine} {layout glueLayout : List String → Prop} {source : Raw String}
  {out : OutDir}

/-- The first call of `mirror` leaves the glue of the build before. -/
theorem Mirrored.generated (hsource : Fitting layout source) (h : Mirrored source out)
    (hout : Kept layout glueLayout out) (below : List String) :
    look (mirror notInputs source out.swift).destination (generated ++ below) =
      look out.swift (generated ++ below) := by
  obtain ⟨sources, rfl⟩ := hsource.isDir
  have hunskipped : Unskipped notInputs ["Sources", package] := by decide
  exact look_stage_under ["Sources", package] (by decide) below (.dir sources) hsource.distinct
    hsource.sources hunskipped out.swift hout.distinct h.returns

/-- The second call of `mirror` touches what it changes, and that is glue. -/
theorem touched_glue (hsource : Fitting layout source) (h : Mirrored source out)
    {glue : Raw String} (hglue : glue.Distinct) (hdir : look (some glue) [] = some .dir)
    (hpanic : (mirrorAt [] glue (mirror notInputs source out.swift).destination generated).panic =
      none) (path : List String) :
    Touched (mirrorAt [] glue (mirror notInputs source out.swift).destination generated).effects
        path ↔
      generated <+: path ∧
        look (mirrorAt [] glue (mirror notInputs source out.swift).destination
          generated).destination path ≠
          look (mirror notInputs source out.swift).destination path := by
  have hinputs := h.inputs
  have hdistinct := h.distinct
  generalize (mirror notInputs source out.swift).destination = staged at *
  have hway : ∀ before, before <+: generated → before ≠ generated →
      look staged before = some .dir := by
    intro before hprefix hne
    obtain ⟨hsourceDir, hunskipped⟩ := hsource.above hprefix hne
    rw [hinputs before hunskipped, hsourceDir]
  have hentry : Distinct (entry staged generated) := distinct_entry generated hdistinct
  have hinner : ∀ below, Touched (mirror [] glue (entry staged generated)).effects below ↔
      look (mirror [] glue (entry staged generated)).destination below ≠
        look staged (generated ++ below) := by
    intro below
    rw [← look_entry]
    cases glue with
    | file content => cases hdir
    | dir entries => exact touched_mirror hglue hentry below
  have htouched : Touched (mirrorAt [] glue staged generated).effects path ↔
      ∃ below, path = generated ++ below ∧
        Touched (mirror [] glue (entry staged generated)).effects below := by
    rw [mirrorAt_effects generated hway]
    constructor
    · rintro ⟨_, hmem, htouches⟩
      obtain ⟨effect, heffect, rfl⟩ := List.mem_map.mp hmem
      obtain ⟨below, hpath, hbelow⟩ := Effect.touches_foldr.mp htouches
      exact ⟨below, hpath, effect, heffect, hbelow⟩
    · rintro ⟨below, hpath, effect, heffect, hbelow⟩
      exact ⟨_, List.mem_map_of_mem heffect, Effect.touches_foldr.mpr ⟨below, hpath, hbelow⟩⟩
  have hlook : ∀ below, look (mirrorAt [] glue staged generated).destination (generated ++ below) =
      look (mirror [] glue (entry staged generated)).destination below := by
    intro below
    rw [look_mirrorAt generated hdistinct hpanic, if_pos (List.prefix_append generated below),
      List.drop_left]
  rw [htouched]
  constructor
  · rintro ⟨below, rfl, hbelow⟩
    refine ⟨List.prefix_append generated below, ?_⟩
    rw [hlook below]
    exact (hinner below).mp hbelow
  · rintro ⟨⟨below, rfl⟩, hchanged⟩
    rw [hlook below] at hchanged
    exact ⟨below, rfl, (hinner below).mpr hchanged⟩

/-- The second call of `mirror` changes nothing but glue. -/
theorem look_outside (hsource : Fitting layout source) (h : Mirrored source out)
    {glue : Raw String}
    (hpanic : (mirrorAt [] glue (mirror notInputs source out.swift).destination generated).panic =
      none) {path : List String} (houtside : ¬generated <+: path) :
    look (mirrorAt [] glue (mirror notInputs source out.swift).destination generated).destination
        path =
      look (mirror notInputs source out.swift).destination path := by
  rw [look_mirrorAt generated h.distinct hpanic, if_neg houtside]
  by_cases habove : path <+: generated
  · have hne : path ≠ generated := by
      rintro rfl
      exact houtside (List.prefix_refl _)
    obtain ⟨hsourceDir, hunskipped⟩ := hsource.above habove hne
    rw [if_pos habove, h.inputs path hunskipped, hsourceDir]
  · rw [if_neg habove]

/-- A build touches the paths of the staged package that it changes, whether or not it panics. -/
theorem touched_stagePackage (hmachine : Generates machine glueLayout)
    (hsource : Fitting layout source) (modules : List (String × List UInt8))
    (swiftBuild : Option String) (hout : Kept layout glueLayout out) (path : List String) :
    Touched (stagePackage machine source modules swiftBuild out).2.1 path ↔
      look (stagePackage machine source modules swiftBuild out).1.swift path ≠
        look out.swift path := by
  have hmirrored := mirrored hsource hout
  have hfirst : Touched (mirror notInputs source out.swift).effects path ↔
      look (mirror notInputs source out.swift).destination path ≠ look out.swift path := by
    obtain ⟨sources, rfl⟩ := hsource.isDir
    exact touched_mirror hsource.distinct hout.distinct path
  unfold stagePackage
  rw [hout.cleared]
  dsimp only
  rw [hmirrored.returns, if_neg (by simp)]
  cases hwrite : machine.writeAllConcatenated modules none with
  | error failure => exact hfirst
  | ok glue =>
    dsimp only
    cases hpublish : publishBridgeShims (machine.outDir ++ "/swift-bridge") (some glue.raw) with
    | error message => exact hfirst
    | ok published =>
      dsimp only
      have hglue := hmachine.fits _ _ _ hwrite
      obtain ⟨text, htext⟩ := publishBridgeShims_eq_ok hpublish
      have hdistinct := distinct_published glue.distinct hpublish
      obtain ⟨hpanic, -⟩ := glue_mirrored hsource hout hmirrored hdistinct htext.isDir
        fun path kind => htext.fits hglue
      rw [touched_append, hfirst, touched_glue hsource hmirrored hdistinct htext.isDir hpanic]
      by_cases hgenerated : generated <+: path
      · obtain ⟨below, rfl⟩ := hgenerated
        -- The first call leaves the glue, so what differs is what the second call changed.
        rw [hmirrored.generated hsource hout below]
        constructor
        · rintro (hchanged | ⟨-, hchanged⟩)
          · exact absurd rfl hchanged
          · exact hchanged
        · exact fun hchanged => .inr ⟨List.prefix_append generated below, hchanged⟩
      · rw [look_outside hsource hmirrored hpanic hgenerated]
        constructor
        · rintro (hchanged | ⟨hunder, -⟩)
          · exact hchanged
          · exact absurd hunder hgenerated
        · exact fun hchanged => .inl hchanged

end Build

end ContainerBridge
