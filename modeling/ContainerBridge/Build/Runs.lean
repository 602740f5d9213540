import ContainerBridge.Build.Touched
import ContainerBridge.Library.Run

/-! Builds of a crate that is edited between them. cargo runs the script again once a path that its
last run printed is touched, and whatever it does not run it for leaves the staged package current.
-/

namespace ContainerBridge

namespace Build

open FileTree Relation

/-! ### What a build prints -/

def containerizationVersion : String := "CFW_CONTAINERIZATION_VERSION"

/-- What a build that does not panic prints. -/
def printed (machine : Machine) (modules : List (String × List UInt8)) (version : String) :
    List Instruction :=
  .rerunIfChanged ["build.rs"] ::
    (modules.map fun module => .rerunIfChanged ["src", "bridge", module.1]) ++
    [.rerunIfChanged ["swift", "Package.swift"], .rustcEnv containerizationVersion version] ++
    if machine.cargoCfgTargetOs = some "macos" then
      [.rerunIfChanged ["swift", "Sources", package], .rerunIfChanged ["swift", "Package.resolved"]]
    else []

section

variable {machine : Machine} {layout glueLayout : List String → Prop}

theorem watches_module {modules : List (String × List UInt8)} {version name : String}
    {content : List UInt8} (h : (name, content) ∈ modules) :
    .rerunIfChanged ["src", "bridge", name] ∈ printed machine modules version := by
  unfold printed
  refine List.mem_append_left _ (List.mem_append_left _ (List.mem_cons_of_mem _ ?_))
  exact List.mem_map.mpr ⟨(name, content), h, rfl⟩

theorem watches_manifest {modules : List (String × List UInt8)} {version : String} :
    .rerunIfChanged ["swift", "Package.swift"] ∈ printed machine modules version := by
  unfold printed
  refine List.mem_append_left _ (List.mem_append_right _ ?_)
  exact List.mem_cons_self

theorem watches_sources {modules : List (String × List UInt8)} {version : String}
    (h : machine.cargoCfgTargetOs = some "macos") {path : List String}
    (hpath : path = ["swift", "Sources", package] ∨ path = ["swift", "Package.resolved"]) :
    .rerunIfChanged path ∈ printed machine modules version := by
  unfold printed
  refine List.mem_append_right _ ?_
  rw [if_pos h]
  rcases hpath with rfl | rfl
  · exact List.mem_cons_self
  · exact List.mem_cons_of_mem _ List.mem_cons_self

/-- A build names one version. -/
theorem mem_printed_env {modules : List (String × List UInt8)} {key version value : String} :
    .rustcEnv key value ∈ printed machine modules version ↔
      key = containerizationVersion ∧ value = version := by
  unfold printed
  constructor
  · intro h
    rcases List.mem_append.mp h with h | h
    · rcases List.mem_append.mp h with h | h
      · rcases List.mem_cons.mp h with h | h
        · cases h
        · obtain ⟨module, -, hmodule⟩ := List.mem_map.mp h
          cases hmodule
      · rcases List.mem_cons.mp h with h | h
        · cases h
        · cases List.mem_singleton.mp h
          exact ⟨rfl, rfl⟩
    · split at h
      · rcases List.mem_cons.mp h with h | h
        · cases h
        · cases List.mem_singleton.mp h
      · cases h
  · rintro ⟨rfl, rfl⟩
    refine List.mem_append_left _ (List.mem_append_right _ ?_)
    exact List.mem_cons_of_mem _ List.mem_cons_self

/-! ### A crate -/

/-- The crate's directory: the modules of the bridge, and a package whose source fits the layout. -/
structure Crate (layout : List String → Prop) (manifest : Raw String) : Prop where
  distinct : manifest.Distinct
  modRs : ∃ content, look (some manifest) ["src", "bridge", "mod.rs"] = some (.file content)
  fitting : ∃ source, entry (some manifest) ["swift"] = some source ∧ Fitting layout source

theorem Crate.bridge {manifest : Raw String} (h : Crate layout manifest) :
    ∃ listing, entry (some manifest) ["src", "bridge"] = some (.dir listing) ∧
      (FileTree.Raw.dir listing).Distinct := by
  obtain ⟨content, hmodRs⟩ := h.modRs
  have hprefix : ["src", "bridge"] <+: ["src", "bridge", "mod.rs"] := by decide
  have hdir : look (some manifest) ["src", "bridge"] = some .dir :=
    look_of_prefix hprefix (by rw [hmodRs]; simp) (by decide)
  have hentry := look_entry (some manifest) ["src", "bridge"] []
  rw [List.append_nil, hdir] at hentry
  have hdistinct : Distinct (entry (some manifest) ["src", "bridge"]) := by
    refine distinct_entry _ fun raw hraw => ?_
    cases hraw
    exact h.distinct
  cases hlisting : entry (some manifest) ["src", "bridge"] with
  | none =>
    rw [hlisting] at hentry
    cases hentry
  | some raw =>
    cases raw with
    | file content =>
      rw [hlisting] at hentry
      cases hentry
    | dir listing =>
      rw [hlisting] at hdistinct
      exact ⟨listing, rfl, hdistinct _ rfl⟩

variable (machine) in
/-- The staged package is what a build of the crate stages in an empty `OUT_DIR`. -/
def Current (manifest : Raw String) (staged : Option (Raw String)) : Prop :=
  ∃ listing source glue published,
    entry (some manifest) ["src", "bridge"] = some (.dir listing) ∧
    entry (some manifest) ["swift"] = some source ∧
    machine.writeAllConcatenated (bridgeModules listing) none = .ok glue ∧
    publishBridgeShims (machine.outDir ++ "/swift-bridge") (some glue.raw) = .ok published ∧
    IsStaged source published staged

/-- What `main` comes to, over what an earlier build left. -/
theorem main_spec (hmachine : Generates machine glueLayout) {manifest : Raw String}
    (hcrate : Crate layout manifest) (swiftBuild : Option String) {out : OutDir}
    (hout : Kept layout glueLayout out) :
    Kept layout glueLayout (main machine manifest swiftBuild out).out ∧
    ((main machine manifest swiftBuild out).panic = none →
      ∃ listing source version, entry (some manifest) ["src", "bridge"] = some (.dir listing) ∧
        entry (some manifest) ["swift"] = some source ∧
        pinnedContainerization machine source = .ok version ∧
        (main machine manifest swiftBuild out).instructions =
          printed machine (bridgeModules listing) version ∧
        (machine.cargoCfgTargetOs = some "macos" →
          Current machine manifest (main machine manifest swiftBuild out).out.swift)) := by
  obtain ⟨listing, hlisting, -⟩ := hcrate.bridge
  obtain ⟨source, hsource, hfitting⟩ := hcrate.fitting
  unfold main
  rw [hlisting]
  dsimp only
  rw [hsource]
  dsimp only
  cases hversion : pinnedContainerization machine source with
  | error message => exact ⟨hout, nofun⟩
  | ok version =>
    dsimp only
    by_cases hos : machine.cargoCfgTargetOs = some "macos"
    · rw [if_neg (by simp [hos])]
      split
      · exact ⟨hout, nofun⟩
      · have hstages := stagePackage_stages hmachine hfitting (bridgeModules listing) swiftBuild
          hout
        refine ⟨hstages.kept, fun hpanic => ?_⟩
        obtain ⟨glue, published, hwrite, hpublish, hstaged⟩ := hstages.staged hpanic
        refine ⟨listing, source, version, rfl, rfl, hversion, ?_, fun _ => ?_⟩
        · simp [printed, hos, containerizationVersion]
        · exact ⟨listing, source, glue, published, hlisting, hsource, hwrite, hpublish, hstaged⟩
    · rw [if_pos hos]
      refine ⟨hout, fun _ => ⟨listing, source, version, rfl, rfl, hversion, ?_, fun h => ?_⟩⟩
      · simp [printed, hos, containerizationVersion]
      · exact absurd h hos

/-! ### Edits -/

def IsModule (manifest : Raw String) (name : String) : Prop :=
  ∃ content, look (some manifest) ["src", "bridge", name] = some (.file content)

/-- What is done to the crate's directory between builds. The package has no other inputs than its
manifest, its pins and its sources, and a module that comes or goes needs a line of `mod.rs`. -/
structure Edit (before after : Raw String) : Prop where
  inputs : ∀ path, Unskipped notInputs path →
    look (some after) ("swift" :: path) ≠ look (some before) ("swift" :: path) →
      ["Package.swift"] <+: path ∨ ["Package.resolved"] <+: path ∨ ["Sources", package] <+: path
  modules : look (some after) ["src", "bridge", "mod.rs"] =
      look (some before) ["src", "bridge", "mod.rs"] →
    ∀ name, extension name = some "rs" → (IsModule after name ↔ IsModule before name)

/-- Nothing at or below a path that the build printed is another. -/
def Unwatched (instructions : List Instruction) (before after : Raw String) : Prop :=
  ∀ path, .rerunIfChanged path ∈ instructions → ∀ below,
    look (some after) (path ++ below) = look (some before) (path ++ below)

variable {before after : Raw String}

theorem look_module {manifest : Raw String} {listing : Entries String}
    (h : entry (some manifest) ["src", "bridge"] = some (.dir listing)) (name : String) :
    look (some (.dir listing)) [name] = look (some manifest) ["src", "bridge", name] := by
  rw [← h, look_entry]
  rfl

theorem look_source {manifest source : Raw String}
    (h : entry (some manifest) ["swift"] = some source) (path : List String) :
    look (some source) path = look (some manifest) ("swift" :: path) := by
  rw [← h, look_entry]
  rfl

/-- The modules are the same after an edit that touches none of them. -/
theorem bridgeModules_of_unwatched (hbefore : Crate layout before) (hafter : Crate layout after)
    (hedit : Edit before after) {listing other : Entries String} {version : String}
    (hlisting : entry (some before) ["src", "bridge"] = some (.dir listing))
    (hother : entry (some after) ["src", "bridge"] = some (.dir other))
    (hunwatched : Unwatched (printed machine (bridgeModules listing) version) before after) :
    bridgeModules other = bridgeModules listing := by
  obtain ⟨before', hentry, hlistingDistinct⟩ := hbefore.bridge
  rw [hlisting] at hentry
  cases hentry
  obtain ⟨after', hentry, hotherDistinct⟩ := hafter.bridge
  rw [hother] at hentry
  cases hentry
  have hwatched : ∀ name content, extension name = some "rs" →
      look (some before) ["src", "bridge", name] = some (.file content) →
        look (some after) ["src", "bridge", name] = some (.file content) := by
    intro name content hextension hcontent
    have hmem : (name, content) ∈ bridgeModules listing := by
      rw [mem_bridgeModules, mem_modules, mem_iff_look hlistingDistinct, look_module hlisting]
      exact ⟨hcontent, hextension⟩
    have hsame := hunwatched _ (watches_module hmem) []
    rw [List.append_nil] at hsame
    rw [hsame, hcontent]
  have hmodRs : look (some after) ["src", "bridge", "mod.rs"] =
      look (some before) ["src", "bridge", "mod.rs"] := by
    obtain ⟨content, hcontent⟩ := hbefore.modRs
    rw [hcontent]
    exact hwatched "mod.rs" content (by decide) hcontent
  refine bridgeModules_eq hotherDistinct hlistingDistinct fun name hextension content => ?_
  rw [look_module hother, look_module hlisting]
  constructor
  · intro hcontent
    obtain ⟨original, horiginal⟩ := (hedit.modules hmodRs name hextension).mp ⟨content, hcontent⟩
    have hsame := hwatched name original hextension horiginal
    rw [hcontent] at hsame
    rw [horiginal, hsame]
  · exact hwatched name content hextension

/-- The version is the same after an edit that leaves `Package.swift`. -/
theorem pinned_of_unwatched {source other : Raw String}
    (h : look (some other) ["Package.swift"] = look (some source) ["Package.swift"]) :
    pinnedContainerization machine other = pinnedContainerization machine source := by
  have hread : readToString (entry (some other) ["Package.swift"]) =
      readToString (entry (some source) ["Package.swift"]) := by
    have hsame : ∀ text, readToString (entry (some other) ["Package.swift"]) = some text ↔
        readToString (entry (some source) ["Package.swift"]) = some text := by
      intro text
      rw [readToString_eq_some, readToString_eq_some, look_entry, look_entry, List.append_nil, h]
    exact Option.ext fun text => hsame text
  unfold pinnedContainerization
  rw [hread]

/-- A staged package is current after an edit that touches nothing watched. -/
theorem Current.edit (hos : machine.cargoCfgTargetOs = some "macos")
    (hbefore : Crate layout before) (hafter : Crate layout after) (hedit : Edit before after)
    {listing : Entries String} {version : String}
    (hlisting : entry (some before) ["src", "bridge"] = some (.dir listing))
    (hunwatched : Unwatched (printed machine (bridgeModules listing) version) before after)
    {staged : Option (Raw String)} (h : Current machine before staged) :
    Current machine after staged := by
  obtain ⟨listing', source, glue, published, hlisting', hsource, hwrite, hpublish, hstaged⟩ := h
  rw [hlisting] at hlisting'
  cases hlisting'
  obtain ⟨other, hother, -⟩ := hafter.bridge
  obtain ⟨fresh, hfresh, -⟩ := hafter.fitting
  have hmodules := bridgeModules_of_unwatched hbefore hafter hedit hlisting hother hunwatched
  refine ⟨other, fresh, glue, published, hother, hfresh, by rw [hmodules, hwrite], hpublish, ?_⟩
  intro path
  rw [hstaged path]
  split
  · rfl
  · split
    · next hpath =>
      rw [look_source hsource, look_source hfresh]
      by_contra hchanged
      have hne : look (some after) ("swift" :: path) ≠ look (some before) ("swift" :: path) :=
        fun hsame => hchanged hsame.symm
      have hwatched : ∀ place, .rerunIfChanged ("swift" :: place) ∈
          printed machine (bridgeModules listing) version → ¬place <+: path := by
        rintro place hplace ⟨below, rfl⟩
        exact hne (hunwatched _ hplace below)
      rcases hedit.inputs path hpath hne with hunder | hunder | hunder
      · exact hwatched _ watches_manifest hunder
      · exact hwatched _ (watches_sources hos (.inr rfl)) hunder
      · exact hwatched _ (watches_sources hos (.inl rfl)) hunder
    · rfl

/-! ### Runs -/

/-- A crate between builds. `fresh` is what the last build printed, where it did not panic and cargo
does not have to run the script again. -/
structure World where
  manifest : Raw String
  out : OutDir
  fresh : Option (List Instruction)

/-- cargo runs the script. -/
def World.run (machine : Machine) (swiftBuild : Option String) (world : World) : World :=
  let built := main machine world.manifest swiftBuild world.out
  { world with
    out := built.out
    fresh := if built.panic = none then some built.instructions else none }

variable (machine layout) in
inductive Step : World → World → Prop
  /-- An edit leaves a build fresh at most where it touches nothing that the build printed. -/
  | edit {world : World} {manifest : Raw String} {fresh : Option (List Instruction)}
      (hedit : Edit world.manifest manifest) (hcrate : Crate layout manifest)
      (hfresh : ∀ instructions, fresh = some instructions →
        world.fresh = some instructions ∧ Unwatched instructions world.manifest manifest) :
      Step world { world with manifest, fresh }
  | run {world : World} (swiftBuild : Option String) : Step world (world.run machine swiftBuild)

/-- Before the first build. -/
def World.start (manifest : Raw String) : World where
  manifest
  out := { swift := none, swiftBridge := none }
  fresh := none

variable (machine layout glueLayout) in
/-- What holds of every crate between builds. -/
structure Inv (world : World) : Prop where
  crate : Crate layout world.manifest
  kept : Kept layout glueLayout world.out
  fresh : ∀ instructions, world.fresh = some instructions →
    ∃ listing source version,
      entry (some world.manifest) ["src", "bridge"] = some (.dir listing) ∧
      entry (some world.manifest) ["swift"] = some source ∧
      pinnedContainerization machine source = .ok version ∧
      instructions = printed machine (bridgeModules listing) version ∧
      (machine.cargoCfgTargetOs = some "macos" → Current machine world.manifest world.out.swift)

theorem kept_start (manifest : Raw String) :
    Kept layout glueLayout (World.start manifest).out where
  distinct := nofun
  fits := nofun
  cleared := rfl

theorem inv_start {manifest : Raw String} (h : Crate layout manifest) :
    Inv machine layout glueLayout (World.start manifest) where
  crate := h
  kept := kept_start manifest
  fresh := nofun

theorem inv_run (hmachine : Generates machine glueLayout) {world : World}
    (h : Inv machine layout glueLayout world) (swiftBuild : Option String) :
    Inv machine layout glueLayout (world.run machine swiftBuild) := by
  obtain ⟨hkept, hreturns⟩ := main_spec hmachine h.crate swiftBuild h.kept
  refine ⟨h.crate, hkept, fun instructions hfresh => ?_⟩
  unfold World.run at hfresh
  dsimp only at hfresh
  split at hfresh
  · next hpanic =>
    cases hfresh
    obtain ⟨listing, source, version, hlisting, hsource, hversion, hprinted, hcurrent⟩ :=
      hreturns hpanic
    exact ⟨listing, source, version, hlisting, hsource, hversion, hprinted, hcurrent⟩
  · cases hfresh

theorem inv_edit {world : World} (h : Inv machine layout glueLayout world)
    {manifest : Raw String} {fresh : Option (List Instruction)}
    (hedit : Edit world.manifest manifest) (hcrate : Crate layout manifest)
    (hfresh : ∀ instructions, fresh = some instructions →
      world.fresh = some instructions ∧ Unwatched instructions world.manifest manifest) :
    Inv machine layout glueLayout { world with manifest, fresh } := by
  refine ⟨hcrate, h.kept, fun instructions hsome => ?_⟩
  obtain ⟨hbefore, hunwatched⟩ := hfresh instructions hsome
  obtain ⟨listing, source, version, hlisting, hsource, hversion, rfl, hcurrent⟩ :=
    h.fresh instructions hbefore
  obtain ⟨other, hother, -⟩ := hcrate.bridge
  obtain ⟨source', hsource', -⟩ := hcrate.fitting
  have hmanifest :
      look (some source') ["Package.swift"] = look (some source) ["Package.swift"] := by
    rw [look_source hsource', look_source hsource]
    have hsame := hunwatched _ watches_manifest []
    rwa [List.append_nil] at hsame
  refine ⟨other, source', version, hother, hsource', ?_, ?_, fun hos => ?_⟩
  · rw [pinned_of_unwatched hmanifest, hversion]
  · rw [bridgeModules_of_unwatched h.crate hcrate hedit hlisting hother hunwatched]
  · exact (hcurrent hos).edit hos h.crate hcrate hedit hlisting hunwatched

theorem inv_reachable (hmachine : Generates machine glueLayout) {manifest : Raw String}
    (hcrate : Crate layout manifest) {world : World}
    (hrun : ReflTransGen (Step machine layout) (World.start manifest) world) :
    Inv machine layout glueLayout world := by
  refine Run.preserves (inv_start hcrate) (fun before after _ hstep h => ?_) hrun
  cases hstep with
  | edit hedit hcrate hfresh => exact inv_edit h hedit hcrate hfresh
  | run swiftBuild => exact inv_run hmachine h swiftBuild

variable (machine) in
/-- What a build of the crate needs from outside the script: an Apple machine, and glue with shims
in it. -/
structure Buildable (manifest : Raw String) : Prop where
  targetOs : machine.cargoCfgTargetOs = some "macos"
  targetArch : machine.cargoCfgTargetArch = some "aarch64"
  arch : machine.arch = "aarch64"
  pinned : ∃ source version, entry (some manifest) ["swift"] = some source ∧
    pinnedContainerization machine source = .ok version
  glue : ∃ listing glue published, entry (some manifest) ["src", "bridge"] = some (.dir listing) ∧
    machine.writeAllConcatenated (bridgeModules listing) none = .ok glue ∧
    publishBridgeShims (machine.outDir ++ "/swift-bridge") (some glue.raw) = .ok published

/-- Staging the package never stops a build. -/
theorem main_returns (hmachine : Generates machine glueLayout) {manifest : Raw String}
    (hcrate : Crate layout manifest) (hbuildable : Buildable machine manifest)
    (swiftBuild : Option String) {out : OutDir} (hout : Kept layout glueLayout out) :
    (main machine manifest swiftBuild out).panic = swiftBuild := by
  obtain ⟨source, version, hsource, hversion⟩ := hbuildable.pinned
  obtain ⟨listing, glue, published, hlisting, hwrite, hpublish⟩ := hbuildable.glue
  obtain ⟨source', hsource', hfitting⟩ := hcrate.fitting
  rw [hsource] at hsource'
  cases hsource'
  have hstages := stagePackage_stages hmachine hfitting (bridgeModules listing) swiftBuild hout
  have houtcome := hstages.outcome
  simp only [hwrite, hpublish] at houtcome
  unfold main
  rw [hlisting]
  dsimp only
  rw [hsource]
  dsimp only
  rw [hversion]
  dsimp only
  rw [if_neg (by simp [hbuildable.targetOs]),
    if_neg (by simp [hbuildable.targetArch, hbuildable.arch])]
  exact houtcome.1

/-- However a crate was built and edited, where the edits keep to one layout and to the package's
inputs: whenever cargo does not have to run the script again, its last run named the version that
`Package.swift` pins, and left what a first build would stage now, with nothing left that was staged
before. No build is stopped by what an earlier one staged. -/
theorem fresh_current (hmachine : Generates machine glueLayout) {manifest : Raw String}
    (hcrate : Crate layout manifest) {world : World}
    (hrun : ReflTransGen (Step machine layout) (World.start manifest) world) :
    (∀ instructions, world.fresh = some instructions →
      (∃ source version, entry (some world.manifest) ["swift"] = some source ∧
        pinnedContainerization machine source = .ok version ∧
        ∀ value, .rustcEnv containerizationVersion value ∈ instructions ↔ value = version) ∧
      (machine.cargoCfgTargetOs = some "macos" →
        Current machine world.manifest world.out.swift)) ∧
    (Buildable machine world.manifest → (world.run machine none).fresh ≠ none) := by
  have h := inv_reachable hmachine hcrate hrun
  constructor
  · intro instructions hfresh
    obtain ⟨listing, source, version, -, hsource, hversion, rfl, hcurrent⟩ :=
      h.fresh instructions hfresh
    refine ⟨⟨source, version, hsource, hversion, fun value => ?_⟩, hcurrent⟩
    rw [mem_printed_env]
    simp
  · intro hbuildable
    have hpanic := main_returns hmachine h.crate hbuildable none h.kept
    unfold World.run
    dsimp only
    rw [if_pos hpanic]
    simp

/-! ### What a build does -/

theorem touched_main (hmachine : Generates machine glueLayout) {manifest : Raw String}
    (hcrate : Crate layout manifest) (swiftBuild : Option String) {out : OutDir}
    (hout : Kept layout glueLayout out) (path : List String) :
    Touched (main machine manifest swiftBuild out).effects path ↔
      look (main machine manifest swiftBuild out).out.swift path ≠ look out.swift path := by
  have hnothing : Touched ([] : List (Effect String)) path ↔
      look out.swift path ≠ look out.swift path := by
    simp [Touched]
  obtain ⟨listing, hlisting, -⟩ := hcrate.bridge
  obtain ⟨source, hsource, hfitting⟩ := hcrate.fitting
  unfold main
  rw [hlisting]
  dsimp only
  rw [hsource]
  dsimp only
  cases hversion : pinnedContainerization machine source with
  | error message => exact hnothing
  | ok version =>
    dsimp only
    split
    · exact hnothing
    · split
      · exact hnothing
      · exact touched_stagePackage hmachine hfitting _ swiftBuild hout path

/-- Every effect touches some path. -/
theorem eq_nil_of_untouched {effects : List (Effect String)}
    (h : ∀ path, ¬Touched effects path) : effects = [] := by
  rw [List.eq_nil_iff_forall_not_mem]
  intro effect heffect
  cases effect with
  | created place => exact h place ⟨_, heffect, rfl⟩
  | wrote place fresh => exact h place ⟨_, heffect, rfl⟩
  | removed place stale =>
    refine h place ⟨_, heffect, [], (List.append_nil place).symm, ?_⟩
    rw [ne_eq, look_nil_eq_none]
    exact nofun

/-- A build whose package is current leaves it as it is. -/
theorem look_main_of_current (hmachine : Generates machine glueLayout) {manifest : Raw String}
    (hcrate : Crate layout manifest) (swiftBuild : Option String) {out : OutDir}
    (hout : Kept layout glueLayout out)
    (hcurrent : machine.cargoCfgTargetOs = some "macos" → Current machine manifest out.swift)
    (path : List String) :
    look (main machine manifest swiftBuild out).out.swift path = look out.swift path := by
  obtain ⟨listing, hlisting, -⟩ := hcrate.bridge
  obtain ⟨source, hsource, hfitting⟩ := hcrate.fitting
  unfold main
  rw [hlisting]
  dsimp only
  rw [hsource]
  dsimp only
  cases hversion : pinnedContainerization machine source with
  | error message => rfl
  | ok version =>
    dsimp only
    by_cases hos : machine.cargoCfgTargetOs = some "macos"
    · rw [if_neg (by simp [hos])]
      split
      · rfl
      · obtain ⟨listing', source', glue, published, hlisting', hsource', hwrite, hpublish,
          hstaged⟩ := hcurrent hos
        rw [hlisting] at hlisting'
        cases hlisting'
        rw [hsource] at hsource'
        cases hsource'
        have houtcome := (stagePackage_stages hmachine hfitting (bridgeModules listing) swiftBuild
          hout).outcome
        simp only [hwrite, hpublish] at houtcome
        exact (houtcome.2 path).trans (hstaged path).symm
    · rw [if_pos hos]

/-- However a crate was built and edited so, a build touches a path of the staged package if and
only if it changes what is there, and none where cargo would not have had to run the script. -/
theorem builds_touch (hmachine : Generates machine glueLayout) {manifest : Raw String}
    (hcrate : Crate layout manifest) {world : World}
    (hrun : ReflTransGen (Step machine layout) (World.start manifest) world)
    (swiftBuild : Option String) :
    (∀ path, Touched (main machine world.manifest swiftBuild world.out).effects path ↔
      look (main machine world.manifest swiftBuild world.out).out.swift path ≠
        look world.out.swift path) ∧
    (world.fresh ≠ none → (main machine world.manifest swiftBuild world.out).effects = []) := by
  have h := inv_reachable hmachine hcrate hrun
  have htouched := touched_main hmachine h.crate swiftBuild h.kept
  refine ⟨htouched, fun hfresh => eq_nil_of_untouched fun path htouches => ?_⟩
  obtain ⟨instructions, hinstructions⟩ := Option.ne_none_iff_exists'.mp hfresh
  obtain ⟨_, _, _, -, -, -, -, hcurrent⟩ := h.fresh instructions hinstructions
  exact (htouched path).mp htouches
    (look_main_of_current hmachine h.crate swiftBuild h.kept hcurrent path)

end

/-! ### A crate that is built -/

def Sample.source : Raw String :=
  .dir [
    ("Package.swift", .file "let containerization: Version = \"0.54.0\"\n".toUTF8.data.toList),
    ("Sources", .dir [(package, .dir [("Stdio.swift", .file [])])])]

def Sample.manifest : Raw String :=
  .dir [("swift", Sample.source), ("src", .dir [("bridge", .dir [("mod.rs", .file [])])])]

def Sample.text : String := "import Foundation\nfunc __swift_bridge__new()"

def Sample.glue : Tree String (List UInt8) where
  raw := .dir [("SwiftBridgeCore.swift", .file []),
    (bridge, .dir [(bridge ++ ".swift", .file Sample.text.toUTF8.data.toList)])]
  distinct := .dir (by decide) (by
    simpa using ⟨.file _, .dir (by decide) (by simpa using .file _)⟩)

def Sample.machine : Machine where
  cargoCfgTargetOs := some "macos"
  cargoCfgTargetArch := some "aarch64"
  arch := "aarch64"
  outDir := "out"
  manifestDir := "crate"
  writeAllConcatenated := fun _ _ => .ok Sample.glue

theorem Sample.generates : Generates Sample.machine fun path =>
    look (some Sample.glue.raw) path = some .dir where
  dir := by
    rintro modules before _ ⟨⟩
    rfl
  fits := by
    rintro modules before _ ⟨⟩ path kind hkind
    show kind = .dir ↔ look (some Sample.glue.raw) path = some .dir
    rw [hkind, Option.some.injEq]
  left := nofun

theorem Sample.distinct : Sample.source.Distinct :=
  .dir (by decide) (by
    simpa using ⟨.file _, .dir (by decide) (by
      simpa using .dir (by decide) (by simpa using .file _))⟩)

theorem Sample.crate :
    Crate (fun path => look (some Sample.source) path = some .dir) Sample.manifest where
  distinct := .dir (by decide) (by
    simpa using ⟨Sample.distinct, .dir (by decide) (by
      simpa using .dir (by decide) (by simpa using .file _))⟩)
  modRs := ⟨[], rfl⟩
  fitting := ⟨Sample.source, rfl,
    { distinct := Sample.distinct
      sources := rfl
      fits := by
        intro path _ kind hkind
        show kind = .dir ↔ look (some Sample.source) path = some .dir
        rw [hkind, Option.some.injEq] }⟩

theorem Sample.buildable : Buildable Sample.machine Sample.manifest where
  targetOs := rfl
  targetArch := rfl
  arch := rfl
  pinned := by
    refine ⟨Sample.source, "0.54.0", rfl, ?_⟩
    have hread : readToString (entry (some Sample.source) ["Package.swift"]) =
        some "let containerization: Version = \"0.54.0\"\n" := readToString_eq_some.mpr rfl
    unfold pinnedContainerization
    rw [hread]
    rfl
  glue := by
    have hsource : look (some Sample.glue.raw) shims =
        some (.file Sample.text.toUTF8.data.toList) := rfl
    have hinternal : ∃ line ∈ (lines Sample.text).tail, Internal line := by decide
    obtain ⟨published, hpublished⟩ :=
      publishBridgeShims_of_internal "out/swift-bridge" hsource hinternal
    exact ⟨_, Sample.glue, published, rfl, rfl, hpublished⟩

theorem Sample.fresh : ((World.start Sample.manifest).run Sample.machine none).fresh ≠ none := by
  have hpanic : (main Sample.machine (World.start Sample.manifest).manifest none
      (World.start Sample.manifest).out).panic = none :=
    main_returns Sample.generates Sample.crate Sample.buildable none (kept_start Sample.manifest)
  unfold World.run
  dsimp only
  rw [if_pos hpanic]
  exact nofun

theorem sample_fresh_current : Current Sample.machine Sample.manifest
    ((World.start Sample.manifest).run Sample.machine none).out.swift := by
  obtain ⟨instructions, hinstructions⟩ := Option.ne_none_iff_exists'.mp Sample.fresh
  have hrun := fresh_current Sample.generates Sample.crate (.single (.run none))
  exact (hrun.1 instructions hinstructions).2 rfl

theorem sample_builds_touch : (main Sample.machine Sample.manifest none
    ((World.start Sample.manifest).run Sample.machine none).out).effects = [] :=
  (builds_touch Sample.generates Sample.crate (.single (.run none)) none).2 Sample.fresh

end Build

end ContainerBridge
