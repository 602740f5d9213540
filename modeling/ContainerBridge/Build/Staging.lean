import ContainerBridge.Build.Main
import ContainerBridge.Build.Modules
import ContainerBridge.Build.Shims
import ContainerBridge.Mirror.Kinds

/-! What one build leaves in the staged package, where every path is a file in all that is ever
staged there, or a directory in all of it. -/

namespace ContainerBridge

namespace Build

open FileTree

variable {Name : Type} [DecidableEq Name] {skip : List Name}

instance (path : List Name) : Decidable (Unskipped skip path) :=
  inferInstanceAs (Decidable (∀ name ∈ path, name ∉ skip))

/-! ### What `mirror` skips -/

/-- Nothing is made at a skipped path. -/
theorem look_stage_skipped (source : Raw Name) (hsource : source.Distinct) :
    ∀ destination : Option (Raw Name), Distinct destination → ∀ path, ¬Unskipped skip path →
      ∀ kind, look (stage skip source destination).destination path = some kind →
        look destination path = some kind := by
  induction source using FileTree.Raw.induction with
  | file fresh =>
    intro destination h path hskipped kind hkind
    cases path with
    | nil => exact absurd unskipped_nil hskipped
    | cons name path =>
      rw [stage_file] at hkind
      rcases destination with - | current | entries
      · cases hkind
      · by_cases hsame : current = fresh
        · simp [hsame] at hkind
        · simp [hsame] at hkind
      · exact hkind
  | dir sources ih =>
    intro destination h path hskipped kind hkind
    cases path with
    | nil => exact absurd unskipped_nil hskipped
    | cons name path =>
      simp only [stage] at hkind
      cases hcreate : createDirAll destination with
      | none =>
        rw [mirror, hcreate] at hkind
        exact hkind
      | some created =>
        rw [look_mirror h hcreate hsource] at hkind
        split at hkind
        · next child hchild =>
          by_cases hskip : name ∈ skip
          · rwa [if_pos hskip] at hkind
          · rw [if_neg hskip] at hkind
            have hmem := reached_subset created.entries sources (mem_of_lookup hchild)
            have hbelow : ¬Unskipped skip path :=
              fun hpath => hskipped (unskipped_cons.mpr ⟨hskip, hpath⟩)
            have hbefore := ih name child hmem (hsource.child (lookup_of_mem hsource.nodup hmem)) _
              (distinct_lookup (distinct_created h hcreate).1 name) path hbelow kind hkind
            rwa [look_of_created hcreate]
        · split at hkind
          · exact hkind
          · cases hkind

/-! ### `mirrorAt` -/

variable {source : Raw String} {skip : List String}

theorem entry_cons {destination : Option (Raw String)} {created : Staging String}
    (hcreate : createDirAll destination = some created) (name : String) (path : List String) :
    entry destination (name :: path) = entry (created.entries.lookup name) path := by
  have hnone : ∀ path, entry none path = none := by
    intro path
    cases path <;> rfl
  rcases destination with - | content | entries
  · cases hcreate
    exact (hnone path).symm
  · cases hcreate
  · cases hcreate
    rfl

theorem distinct_entry (path : List String) {raw : Option (Raw String)} (h : Distinct raw) :
    Distinct (entry raw path) := by
  induction path generalizing raw with
  | nil => exact h
  | cons name path ih =>
    rcases raw with - | content | entries
    · exact nofun
    · exact nofun
    · exact ih (distinct_lookup (h _ rfl) name)

theorem distinct_mirrorAt (hsource : source.Distinct) (path : List String)
    {destination : Option (Raw String)} (h : Distinct destination) :
    Distinct (mirrorAt skip source destination path).destination := by
  induction path generalizing destination with
  | nil =>
    cases source with
    | dir sources => exact distinct_stage (.dir sources) destination h
    | file content =>
      show Distinct (mirror skip (.file content) destination).destination
      cases hcreate : createDirAll destination with
      | none =>
        rw [mirror, hcreate]
        exact h
      | some created =>
        rw [mirror_of_created h hcreate]
        exact distinct_staged (distinct_swept (distinct_created h hcreate).1)
  | cons name path ih =>
    rw [mirrorAt]
    cases hcreate : createDirAll destination with
    | none => exact h
    | some created =>
      have hcreated := (distinct_created h hcreate).1
      exact distinct_staged (distinct_put name hcreated (ih (distinct_lookup hcreated name)))

/-- A destination is there after a call that returns. -/
theorem look_mirrorAt_nil (path : List String) {destination : Option (Raw String)}
    (h : Distinct destination) (hpanic : (mirrorAt skip source destination path).panic = none) :
    look (mirrorAt skip source destination path).destination [] = some .dir := by
  cases path with
  | nil =>
    rw [mirrorAt] at hpanic ⊢
    cases hcreate : createDirAll destination with
    | none =>
      rw [mirror, hcreate] at hpanic
      cases hpanic
    | some created => exact look_mirror_nil h hcreate
  | cons name path =>
    rw [mirrorAt] at hpanic ⊢
    cases hcreate : createDirAll destination with
    | none =>
      rw [hcreate] at hpanic
      cases hpanic
    | some created => rfl

/-- The directories on the way are made, what is at `path` is mirrored, and the rest is left. -/
theorem look_mirrorAt (path : List String) {destination : Option (Raw String)}
    (h : Distinct destination) (hpanic : (mirrorAt skip source destination path).panic = none)
    (other : List String) :
    look (mirrorAt skip source destination path).destination other =
      if path <+: other then
        look (mirror skip source (entry destination path)).destination (other.drop path.length)
      else if other <+: path then some .dir
      else look destination other := by
  induction path generalizing destination other with
  | nil => rw [if_pos List.nil_prefix]; rfl
  | cons name path ih =>
    cases other with
    | nil =>
      rw [look_mirrorAt_nil _ h hpanic, if_neg (by simp), if_pos List.nil_prefix]
    | cons key below =>
      rw [mirrorAt] at hpanic ⊢
      cases hcreate : createDirAll destination with
      | none =>
        rw [hcreate] at hpanic
        cases hpanic
      | some created =>
        rw [hcreate] at hpanic
        have hchild := distinct_lookup (distinct_created h hcreate).1 name
        have hbelow : (mirrorAt skip source (created.entries.lookup name) path).panic = none :=
          hpanic
        have hthere : (mirrorAt skip source (created.entries.lookup name) path).destination ≠
            none := by
          intro hnone
          have hnil := look_mirrorAt_nil path hchild hbelow
          rw [hnone] at hnil
          cases hnil
        show look ((created.put name _).entries.lookup key) below = _
        by_cases hkey : key = name
        · subst hkey
          rw [lookup_put_self hthere, ih hchild hbelow below, entry_cons hcreate,
            look_of_created hcreate]
          simp
        · have hname : ¬name = key := fun hsame => hkey hsame.symm
          rw [lookup_put_ne hkey, look_of_created hcreate, if_neg, if_neg]
          · exact fun hsame => hkey (List.cons_prefix_cons.mp hsame).1
          · exact fun hsame => hname (List.cons_prefix_cons.mp hsame).1

/-- The call returns where no file is on the way and what is at `path` is mirrored. -/
theorem mirrorAt_panic (path : List String) {destination : Option (Raw String)}
    (hway : ∀ before, before <+: path → before ≠ path → ∀ content,
      look destination before ≠ some (.file content))
    (hpanic : (mirror skip source (entry destination path)).panic = none) :
    (mirrorAt skip source destination path).panic = none := by
  induction path generalizing destination with
  | nil => exact hpanic
  | cons name path ih =>
    rw [mirrorAt]
    cases hcreate : createDirAll destination with
    | none =>
      rcases destination with - | content | entries
      · cases hcreate
      · exact absurd rfl (hway [] List.nil_prefix (by simp) content)
      · cases hcreate
    | some created =>
      show (mirrorAt skip source (created.entries.lookup name) path).panic = none
      rw [entry_cons hcreate] at hpanic
      refine ih (fun before hbefore hne content => ?_) hpanic
      rw [← look_of_created hcreate]
      refine hway (name :: before) (List.cons_prefix_cons.mpr ⟨rfl, hbefore⟩) ?_ content
      exact fun hsame => hne (List.cons.inj hsame).2

/-- Nothing is done on the way to `path` where its directories are there. -/
theorem mirrorAt_effects (path : List String) {destination : Option (Raw String)}
    (hway : ∀ before, before <+: path → before ≠ path → look destination before = some .dir) :
    (mirrorAt skip source destination path).effects =
      (mirror skip source (entry destination path)).effects.map
        fun effect => path.foldr Effect.under effect := by
  induction path generalizing destination with
  | nil => simp [mirrorAt, entry]
  | cons name path ih =>
    rcases destination with - | content | entries
    · cases hway [] List.nil_prefix (by simp)
    · cases hway [] List.nil_prefix (by simp)
    · have hbelow : ∀ before, before <+: path → before ≠ path →
          look (entries.lookup name) before = some .dir := by
        intro before hbefore hne
        rw [← look_dir_cons]
        refine hway (name :: before) (List.cons_prefix_cons.mpr ⟨rfl, hbefore⟩) ?_
        exact fun hsame => hne (List.cons.inj hsame).2
      rw [mirrorAt]
      show [] ++ (mirrorAt skip source (entries.lookup name) path).effects.map _ = _
      rw [List.nil_append, ih hbelow, List.map_map]
      rfl

/-! ### Layouts -/

/-- What is at a path is a directory just where the layout has one. -/
def Fits (layout : List String → Prop) (path : List String) (kind : Kind (List UInt8)) : Prop :=
  kind = .dir ↔ layout path

theorem Fits.same {layout : List String → Prop} {path : List String}
    {kind other : Kind (List UInt8)} (h : Fits layout path kind) (hother : Fits layout path other) :
    kind.Same other := by
  have hiff : kind = .dir ↔ other = .dir := h.trans hother.symm
  cases kind with
  | file content =>
    cases other with
    | file => trivial
    | dir => exact absurd (hiff.mpr rfl) nofun
  | dir =>
    cases other with
    | file => exact absurd (hiff.mp rfl) nofun
    | dir => trivial

/-- The package's source has the directory that the glue is staged in, and the layout elsewhere. -/
structure Fitting (layout : List String → Prop) (source : Raw String) : Prop where
  distinct : source.Distinct
  sources : look (some source) ["Sources", package] = some .dir
  fits : ∀ path, Unskipped notInputs path → ∀ kind, look (some source) path = some kind →
    Fits layout path kind

/-- `swift-bridge` writes its files in one layout, below a directory, and never leaves a file in
place of that. -/
structure Generates (machine : Machine) (layout : List String → Prop) : Prop where
  dir : ∀ modules before glue, machine.writeAllConcatenated modules before = .ok glue →
    look (some glue.raw) [] = some .dir
  fits : ∀ modules before glue, machine.writeAllConcatenated modules before = .ok glue →
    ∀ path kind, look (some glue.raw) path = some kind → Fits layout path kind
  left : ∀ modules before message left,
    machine.writeAllConcatenated modules before = .error (message, left) → clear left = none

variable {machine : Machine} {layout glueLayout : List String → Prop}

theorem generated_skipped {path : List String} (h : generated <+: path) :
    ¬Unskipped notInputs path := by
  intro hpath
  have hmem : "generated" ∈ path := h.subset (by decide)
  exact hpath _ hmem (by decide)

theorem Fitting.isDir {source : Raw String} (h : Fitting layout source) :
    ∃ sources, source = .dir sources := by
  have hsources := h.sources
  cases source with
  | file content => cases hsources
  | dir sources => exact ⟨sources, rfl⟩

/-- A directory has directories above it. -/
theorem look_of_prefix {raw : Option (Raw String)} {path before : List String}
    (h : before <+: path) (hpath : look raw path ≠ none) (hne : before ≠ path) :
    look raw before = some .dir := by
  induction before generalizing raw path with
  | nil =>
    cases path with
    | nil => exact absurd rfl hne
    | cons name path =>
      rcases raw with - | content | entries
      · exact absurd rfl hpath
      · exact absurd rfl hpath
      · rfl
  | cons name before ih =>
    cases path with
    | nil => simp at h
    | cons key path =>
      obtain ⟨rfl, hbefore⟩ := List.cons_prefix_cons.mp h
      rcases raw with - | content | entries
      · exact absurd rfl hpath
      · exact absurd rfl hpath
      · refine ih hbefore hpath fun hsame => hne ?_
        rw [hsame]

/-- The directories that the glue is staged below. -/
theorem Fitting.above {source : Raw String} (h : Fitting layout source) {before : List String}
    (hbefore : before <+: generated) (hne : before ≠ generated) :
    look (some source) before = some .dir ∧ Unskipped notInputs before := by
  have hwithin : before <+: ["Sources", package] := by
    have hconcat : generated = ["Sources", package] ++ ["generated"] := rfl
    rw [hconcat] at hbefore hne
    rcases List.prefix_concat_iff.mp hbefore with hsame | hwithin
    · exact absurd hsame hne
    · exact hwithin
  constructor
  · by_cases hsame : before = ["Sources", package]
    · rw [hsame]
      exact h.sources
    · exact look_of_prefix hwithin (by rw [h.sources]; simp) hsame
  · intro name hname
    have hinputs : ∀ name ∈ ["Sources", package], name ∉ notInputs := by decide
    exact hinputs name (hwithin.subset hname)

/-! ### One build -/

/-- What builds keep of `OUT_DIR`: glue under `generated`, and what the package's source may have
elsewhere. -/
structure Kept (layout glueLayout : List String → Prop) (out : OutDir) : Prop where
  distinct : Distinct out.swift
  fits : ∀ path kind, look out.swift path = some kind →
    (generated <+: path ∧ Fits glueLayout (path.drop generated.length) kind) ∨
      Unskipped notInputs path ∧ Fits layout path kind
  cleared : clear out.swiftBridge = none

/-- The staged package is the source's inputs, with the glue under `generated`. -/
def IsStaged (source glue : Raw String) (staged : Option (Raw String)) : Prop :=
  ∀ path, look staged path =
    if generated <+: path then look (some glue) (path.drop generated.length)
    else if Unskipped notInputs path then look (some source) path
    else none

/-- After the first call of `mirror`, over what an earlier build left. -/
structure Mirrored (source : Raw String) (out : OutDir) : Prop where
  returns : (mirror notInputs source out.swift).panic = none
  distinct : Distinct (mirror notInputs source out.swift).destination
  inputs : ∀ path, Unskipped notInputs path →
    look (mirror notInputs source out.swift).destination path = look (some source) path
  skipped : ∀ path, ¬Unskipped notInputs path → ∀ kind,
    look (mirror notInputs source out.swift).destination path = some kind →
      look out.swift path = some kind

theorem mirrored {source : Raw String} (hsource : Fitting layout source) {out : OutDir}
    (hout : Kept layout glueLayout out) : Mirrored source out := by
  obtain ⟨sources, rfl⟩ := hsource.isDir
  have hkinds : SameKinds notInputs (some (.dir sources)) out.swift := by
    intro path hpath kind other hkind hother
    rcases hout.fits path other hother with ⟨hgenerated, -⟩ | ⟨-, hfits⟩
    · exact absurd hpath (generated_skipped hgenerated)
    · exact (hsource.fits path hpath kind hkind).same hfits
  have hreturns : (stage notInputs (.dir sources) out.swift).panic = none :=
    (stage_panic (.dir sources) hsource.distinct out.swift hout.distinct).mpr hkinds
  exact {
    returns := hreturns
    distinct := distinct_stage (.dir sources) out.swift hout.distinct
    inputs := look_stage (.dir sources) hsource.distinct out.swift hout.distinct hreturns
    skipped := look_stage_skipped (.dir sources) hsource.distinct out.swift hout.distinct }

theorem Mirrored.fits {source : Raw String} (hsource : Fitting layout source) {out : OutDir}
    (hout : Kept layout glueLayout out) (h : Mirrored source out) {path : List String}
    {kind : Kind (List UInt8)}
    (hkind : look (mirror notInputs source out.swift).destination path = some kind) :
    (generated <+: path ∧ Fits glueLayout (path.drop generated.length) kind) ∨
      Unskipped notInputs path ∧ Fits layout path kind := by
  by_cases hpath : Unskipped notInputs path
  · rw [h.inputs path hpath] at hkind
    exact .inr ⟨hpath, hsource.fits path hpath kind hkind⟩
  · exact hout.fits path kind (h.skipped path hpath kind hkind)

/-- The second call of `mirror` returns, and leaves the staged package as it should be. -/
theorem glue_mirrored {source : Raw String} (hsource : Fitting layout source) {out : OutDir}
    (hout : Kept layout glueLayout out) (h : Mirrored source out) {glue : Raw String}
    (hglue : glue.Distinct) (hdir : look (some glue) [] = some .dir)
    (hfits : ∀ path kind, look (some glue) path = some kind → Fits glueLayout path kind) :
    (mirrorAt [] glue (mirror notInputs source out.swift).destination generated).panic = none ∧
      IsStaged source glue
        (mirrorAt [] glue (mirror notInputs source out.swift).destination
          generated).destination := by
  have hbefore := h.distinct
  have hinputs := h.inputs
  have hskipped : ∀ path, ¬generated <+: path → ¬Unskipped notInputs path →
      look (mirror notInputs source out.swift).destination path = none := by
    intro path hgenerated hpath
    cases hkind : look (mirror notInputs source out.swift).destination path with
    | none => rfl
    | some kind =>
      rcases h.fits hsource hout hkind with ⟨hunder, -⟩ | ⟨hunskipped, -⟩
      · exact absurd hunder hgenerated
      · exact absurd hunskipped hpath
  have hbelow : ∀ path kind,
      look (entry (mirror notInputs source out.swift).destination generated) path = some kind →
        Fits glueLayout path kind := by
    intro path kind hkind
    rw [look_entry] at hkind
    rcases h.fits hsource hout hkind with ⟨-, hbelow⟩ | ⟨hunskipped, -⟩
    · rwa [List.drop_left] at hbelow
    · exact absurd hunskipped (generated_skipped (List.prefix_append generated path))
  generalize (mirror notInputs source out.swift).destination = staged at *
  cases glue with
  | file content => cases hdir
  | dir entries =>
    have hentry : Distinct (entry staged generated) := distinct_entry generated hbefore
    have hkinds : SameKinds ([] : List String) (some (FileTree.Raw.dir entries))
        (entry staged generated) := by
      intro path _ kind other hkind hother
      exact (hfits path kind hkind).same (hbelow path other hother)
    have hinner : (stage [] (.dir entries) (entry staged generated)).panic = none :=
      (stage_panic (.dir entries) hglue _ hentry).mpr hkinds
    have hpanic : (mirrorAt [] (.dir entries) staged generated).panic = none := by
      refine mirrorAt_panic generated (fun before hprefix hne content hfile => ?_) hinner
      obtain ⟨hsourceDir, hunskipped⟩ := hsource.above hprefix hne
      rw [hinputs before hunskipped, hsourceDir] at hfile
      cases hfile
    refine ⟨hpanic, fun path => ?_⟩
    rw [look_mirrorAt generated hbefore hpanic path]
    by_cases hgenerated : generated <+: path
    · rw [if_pos hgenerated, if_pos hgenerated]
      exact look_stage (.dir entries) hglue _ hentry hinner _ (by simp [Unskipped])
    · rw [if_neg hgenerated, if_neg hgenerated]
      by_cases habove : path <+: generated
      · have hne : path ≠ generated := by
          rintro rfl
          exact hgenerated (List.prefix_refl _)
        obtain ⟨hsourceDir, hunskipped⟩ := hsource.above habove hne
        rw [if_pos habove, if_pos hunskipped, hsourceDir]
      · rw [if_neg habove]
        by_cases hunskipped : Unskipped notInputs path
        · rw [if_pos hunskipped, hinputs path hunskipped]
        · rw [if_neg hunskipped, hskipped path hgenerated hunskipped]

/-- A package that is staged from a fitting source and glue is one that a build may find. -/
theorem IsStaged.fits {source glue : Raw String} {staged : Option (Raw String)}
    (h : IsStaged source glue staged) (hsource : Fitting layout source)
    (hglue : ∀ path kind, look (some glue) path = some kind → Fits glueLayout path kind)
    {path : List String} {kind : Kind (List UInt8)} (hkind : look staged path = some kind) :
    (generated <+: path ∧ Fits glueLayout (path.drop generated.length) kind) ∨
      Unskipped notInputs path ∧ Fits layout path kind := by
  rw [h path] at hkind
  split at hkind
  · next hgenerated => exact .inl ⟨hgenerated, hglue _ kind hkind⟩
  · split at hkind
    · next hpath => exact .inr ⟨hpath, hsource.fits path hpath kind hkind⟩
    · cases hkind

theorem Published.fits {glue published : Raw String} {source : String}
    (h : Published (some glue) published source)
    (hglue : ∀ path kind, look (some glue) path = some kind → Fits glueLayout path kind)
    {path : List String} {kind : Kind (List UInt8)}
    (hkind : look (some published) path = some kind) : Fits glueLayout path kind := by
  rw [h.contents path] at hkind
  split at hkind
  · next hshims =>
    cases hkind
    have hwritten := hglue shims _ h.written
    rw [hshims]
    constructor
    · intro hfile
      cases hfile
    · intro hdir
      have hdirectory := hwritten.mpr hdir
      cases hdirectory
  · exact hglue path kind hkind

theorem Published.isDir {glue published : Raw String} {source : String}
    (h : Published (some glue) published source) : look (some published) [] = some .dir := by
  have hroot : look (some glue) [] = some .dir :=
    look_of_prefix List.nil_prefix (by rw [h.written]; simp) (by decide)
  rw [h.contents [], if_neg (by decide), hroot]

theorem distinct_published {generated : String} {glue published : Raw String}
    (hglue : glue.Distinct) (h : publishBridgeShims generated (some glue) = .ok published) :
    published.Distinct := by
  unfold publishBridgeShims at h
  dsimp only at h
  split at h
  · cases h
  · split at h
    · cases h
    · split at h
      · cases h
      · next written hwritten =>
        cases h
        refine distinct_writeAt (fun raw hraw => ?_) hwritten
        cases hraw
        exact hglue

theorem clear_of_dir {raw : Raw String} (h : look (some raw) [] = some .dir) :
    clear (some raw) = none := by
  cases raw with
  | file content => cases h
  | dir entries => rfl

variable (machine) in
/-- What the end of `main` comes to. It panics only where `swift-bridge`, publishing the shims or
`swift build` do. -/
structure Stages (source : Raw String) (modules : List (String × List UInt8))
    (swiftBuild : Option String) (layout glueLayout : List String → Prop)
    (result : OutDir × List (Effect String) × Option String) : Prop where
  kept : Kept layout glueLayout result.1
  outcome :
    match machine.writeAllConcatenated modules none with
    | .error (message, _) => result.2.2 = some message
    | .ok glue =>
      match publishBridgeShims (machine.outDir ++ "/swift-bridge") (some glue.raw) with
      | .error message => result.2.2 = some message
      | .ok published => result.2.2 = swiftBuild ∧ IsStaged source published result.1.swift

theorem Stages.staged {source : Raw String} {modules : List (String × List UInt8)}
    {swiftBuild : Option String} {result : OutDir × List (Effect String) × Option String}
    (h : Stages machine source modules swiftBuild layout glueLayout result)
    (hpanic : result.2.2 = none) :
    ∃ glue published, machine.writeAllConcatenated modules none = .ok glue ∧
      publishBridgeShims (machine.outDir ++ "/swift-bridge") (some glue.raw) = .ok published ∧
      IsStaged source published result.1.swift := by
  have houtcome := h.outcome
  rw [hpanic] at houtcome
  split at houtcome
  · cases houtcome
  · next glue hwrite =>
    split at houtcome
    · cases houtcome
    · next published hpublish => exact ⟨glue, published, hwrite, hpublish, houtcome.2⟩

theorem stagePackage_stages (hmachine : Generates machine glueLayout) {source : Raw String}
    (hsource : Fitting layout source) (modules : List (String × List UInt8))
    (swiftBuild : Option String) {out : OutDir} (hout : Kept layout glueLayout out) :
    Stages machine source modules swiftBuild layout glueLayout
      (stagePackage machine source modules swiftBuild out) := by
  have hmirrored := mirrored hsource hout
  unfold stagePackage
  rw [hout.cleared]
  dsimp only
  rw [hmirrored.returns, if_neg (by simp)]
  cases hwrite : machine.writeAllConcatenated modules none with
  | error failure =>
    obtain ⟨message, left⟩ := failure
    refine ⟨⟨hmirrored.distinct, fun path kind hkind => hmirrored.fits hsource hout hkind,
      hmachine.left _ _ _ _ hwrite⟩, ?_⟩
    simp only [hwrite]
  | ok glue =>
    dsimp only
    have hglue := hmachine.fits _ _ _ hwrite
    cases hpublish : publishBridgeShims (machine.outDir ++ "/swift-bridge") (some glue.raw) with
    | error message =>
      refine ⟨⟨hmirrored.distinct, fun path kind hkind => hmirrored.fits hsource hout hkind,
        clear_of_dir (hmachine.dir _ _ _ hwrite)⟩, ?_⟩
      simp only [hwrite, hpublish]
    | ok published =>
      obtain ⟨text, htext⟩ := publishBridgeShims_eq_ok hpublish
      have hdistinct := distinct_published glue.distinct hpublish
      obtain ⟨hpanic, hstaged⟩ := glue_mirrored hsource hout hmirrored hdistinct htext.isDir
        fun path kind => htext.fits hglue
      refine ⟨⟨distinct_mirrorAt hdistinct generated hmirrored.distinct,
        fun path kind => hstaged.fits hsource fun path kind => htext.fits hglue,
        clear_of_dir htext.isDir⟩, ?_⟩
      simp only [hwrite, hpublish]
      refine ⟨?_, hstaged⟩
      rw [hpanic]
      rfl

end Build

end ContainerBridge
