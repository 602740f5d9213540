import ContainerBridge.Mirror.Code

/-! What each loop of `mirror` comes to: the first keeps what is skipped or in the source, and the
second does each entry of the source on its own, up to one that panics. -/

namespace ContainerBridge

namespace Build

open FileTree

variable {Name : Type} [DecidableEq Name] {skip : List Name}

/-! ### The first loop -/

/-- The first loop leaves the entry alone. -/
def keeps (skip : List Name) (source : Raw Name) (name : Name) : Bool :=
  name ∈ skip ∨ has source name

/-- What is at the destination after the first loop. -/
def swept (skip : List Name) (source : Raw Name) (created : Staging Name) : Staging Name where
  entries := created.entries.filter fun entry => keeps skip source entry.1
  effects := created.effects ++
    (created.entries.filter fun entry => !keeps skip source entry.1).map
      fun entry => .removed [entry.1] entry.2

/-- An entry that was listed can be removed. -/
theorem sweep_cons {source : Raw Name} {name : Name} {stale : Raw Name} {rest : Entries Name}
    {staging : Staging Name} (h : staging.entries.lookup name = some stale) :
    sweep skip source ((name, stale) :: rest) staging =
      if keeps skip source name then sweep skip source rest staging
      else sweep skip source rest
        { staging with
          entries := erase staging.entries name
          effects := staging.effects ++ [.removed [name] stale] } := by
  rw [sweep.eq_def]
  by_cases hkeeps : name ∈ skip ∨ has source name = true
  · simp [hkeeps, keeps]
  · cases stale <;> simp [hkeeps, keeps, removeFile, removeDirAll, h]

/-- Once an entry is swept, it is left if it is kept, and every other one is left as before. -/
theorem keeps_or_notMem_cons {source : Raw Name} {name key : Name} {names : List Name} :
    keeps skip source key ∨ key ∉ name :: names ↔
      (keeps skip source key ∨ key ∉ names) ∧ (keeps skip source name ∨ key ≠ name) := by
  by_cases hname : key = name
  · cases hkeeps : keeps skip source name <;> simp [hname, hkeeps]
  · simp [hname]

theorem sweep_eq_of_lookup {source : Raw Name} (listed : Entries Name)
    (hnodup : (listed.map Prod.fst).Nodup) (staging : Staging Name)
    (h : ∀ entry ∈ listed, staging.entries.lookup entry.1 = some entry.2) :
    sweep skip source listed staging =
      { staging with
        entries := staging.entries.filter fun entry =>
          keeps skip source entry.1 ∨ entry.1 ∉ listed.map Prod.fst
        effects := staging.effects ++
          (listed.filter fun entry => !keeps skip source entry.1).map
            fun entry => .removed [entry.1] entry.2 } := by
  induction listed generalizing staging with
  | nil => simp [sweep]
  | cons entry rest ih =>
    obtain ⟨name, stale⟩ := entry
    rw [List.map_cons, List.nodup_cons] at hnodup
    simp only [List.map_cons]
    rw [sweep_cons (h _ List.mem_cons_self)]
    cases hkeeps : keeps skip source name with
    | true =>
      have hrest : ∀ entry ∈ rest, staging.entries.lookup entry.1 = some entry.2 :=
        fun entry hentry => h entry (List.mem_cons_of_mem _ hentry)
      have hsame : ∀ entry ∈ staging.entries,
          decide (keeps skip source entry.1 ∨ entry.1 ∉ rest.map Prod.fst) =
            decide (keeps skip source entry.1 ∨ entry.1 ∉ name :: rest.map Prod.fst) := by
        intro entry _
        rw [decide_eq_decide, keeps_or_notMem_cons]
        simp [hkeeps]
      rw [if_pos rfl, ih hnodup.2 staging hrest, List.filter_congr hsame]
      simp [hkeeps]
    | false =>
      rw [if_neg (by simp), ih hnodup.2]
      · have hsame : ∀ entry ∈ staging.entries,
            (decide (keeps skip source entry.1 ∨ entry.1 ∉ rest.map Prod.fst) &&
              decide (entry.1 ≠ name)) =
            decide (keeps skip source entry.1 ∨ entry.1 ∉ name :: rest.map Prod.fst) := by
          intro entry _
          rw [← Bool.decide_and, decide_eq_decide, keeps_or_notMem_cons]
          simp [hkeeps]
        simp only [erase, List.filter_filter]
        rw [List.filter_congr hsame]
        simp [hkeeps]
      · intro entry hentry
        have hne : entry.1 ≠ name := by
          intro heq
          have hlisted : entry.1 ∈ rest.map Prod.fst := List.mem_map_of_mem hentry
          rw [heq] at hlisted
          exact hnodup.1 hlisted
        have herase := lookup_filter staging.entries entry.1 fun key => key ≠ name
        simp only [hne, ne_eq, not_false_eq_true, decide_true, if_true] at herase
        exact herase.trans (h entry (List.mem_cons_of_mem _ hentry))

/-- Whatever was listed is removed, unless it is skipped or in the source. -/
theorem sweep_eq (skip : List Name) (source : Raw Name) {created : Staging Name}
    (hdistinct : (FileTree.Raw.dir created.entries).Distinct) :
    sweep skip source created.entries created =
      { swept skip source created with panic := created.panic } := by
  rw [sweep_eq_of_lookup created.entries hdistinct.nodup created
    fun entry hentry => lookup_of_mem hdistinct.nodup hentry]
  have hsame : ∀ entry ∈ created.entries,
      decide (keeps skip source entry.1 ∨ entry.1 ∉ created.entries.map Prod.fst) =
        keeps skip source entry.1 := by
    intro entry hentry
    have hlisted : entry.1 ∈ created.entries.map Prod.fst := List.mem_map_of_mem hentry
    simp [hlisted]
  rw [List.filter_congr hsame]
  rfl

/-! ### The second loop -/

/-- What `mirror` does for an entry of the source. -/
def stage (skip : List Name) (source : Raw Name) (destination : Option (Raw Name)) :
    Staged Name :=
  match source with
  | .dir _ => mirror skip source destination
  | .file fresh => copyFile fresh destination

/-- A source file is copied over nothing and over a file of other contents. -/
theorem stage_file (fresh : List UInt8) (destination : Option (Raw Name)) :
    stage skip (.file fresh) destination =
      match destination with
      | none => { destination := some (.file fresh), effects := [.wrote [] fresh] }
      | some (.file current) =>
        if current = fresh then { destination }
        else { destination := some (.file fresh), effects := [.wrote [] fresh] }
      | some (.dir _) => { destination, panic := some "the staged file should be writable" } := by
  rcases destination with - | current | entries <;> simp [stage, copyFile, read, write]

theorem copy_cons {name : Name} {source : Raw Name} {rest : Entries Name}
    {staging : Staging Name} :
    copy skip ((name, source) :: rest) staging =
      if name ∈ skip then copy skip rest staging
      else if (stage skip source (staging.entries.lookup name)).panic.isSome then
        staging.put name (stage skip source (staging.entries.lookup name))
      else
        copy skip rest (staging.put name (stage skip source (staging.entries.lookup name))) := by
  rw [copy]
  cases source <;> rfl

/-- What is at the destination could be on disk. -/
def Distinct (destination : Option (Raw Name)) : Prop :=
  ∀ raw, destination = some raw → raw.Distinct

theorem distinct_lookup {entries : Entries Name} (h : (FileTree.Raw.dir entries).Distinct)
    (name : Name) : Distinct (entries.lookup name) := fun _ hname => h.child hname

omit [DecidableEq Name] in
theorem distinct_created {destination : Option (Raw Name)} {created : Staging Name}
    (h : Distinct destination) (hcreate : createDirAll destination = some created) :
    (FileTree.Raw.dir created.entries).Distinct ∧ created.panic = none := by
  rcases destination with - | content | entries
  · cases hcreate
    exact ⟨.dir .nil nofun, rfl⟩
  · cases hcreate
  · cases hcreate
    exact ⟨h _ rfl, rfl⟩

/-- What `mirror` does once the destination is a directory. -/
theorem mirror_of_created {source : Raw Name} {destination : Option (Raw Name)}
    {created : Staging Name} (h : Distinct destination)
    (hcreate : createDirAll destination = some created) :
    mirror skip source destination =
      match source with
      | .file _ => { (swept skip source created).staged with
          panic := some "the source directory should be readable" }
      | .dir sources => (copy skip sources (swept skip source created)).staged := by
  obtain ⟨hdistinct, hpanic⟩ := distinct_created h hcreate
  have hswept := sweep_eq skip source hdistinct
  rw [hpanic] at hswept
  rw [mirror, hcreate]
  simp only [hswept]
  cases source <;> rfl

omit [DecidableEq Name] in
theorem distinct_file (content : List UInt8) : Distinct (some (.file content : Raw Name)) := by
  rintro _ ⟨⟩
  exact .file content

theorem distinct_put {staging : Staging Name} (name : Name) {staged : Staged Name}
    (h : (FileTree.Raw.dir staging.entries).Distinct) (hstaged : Distinct staged.destination) :
    (FileTree.Raw.dir (staging.put name staged).entries).Distinct := by
  rw [Staging.put]
  cases hdestination : staged.destination with
  | none => exact h
  | some raw => exact h.set (hstaged raw hdestination)

theorem distinct_copy (sources : Entries Name)
    (hchildren : ∀ entry ∈ sources, ∀ destination, Distinct destination →
      Distinct (stage skip entry.2 destination).destination)
    (staging : Staging Name) (h : (FileTree.Raw.dir staging.entries).Distinct) :
    (FileTree.Raw.dir (copy skip sources staging).entries).Distinct := by
  induction sources generalizing staging with
  | nil => exact h
  | cons entry rest ih =>
    obtain ⟨name, source⟩ := entry
    have hrest := ih fun entry hentry => hchildren entry (List.mem_cons_of_mem _ hentry)
    have hput := distinct_put name h
      (hchildren _ List.mem_cons_self _ (distinct_lookup h name))
    rw [copy_cons]
    split
    · exact hrest staging h
    · split
      · exact hput
      · exact hrest _ hput

theorem distinct_swept {source : Raw Name} {created : Staging Name}
    (h : (FileTree.Raw.dir created.entries).Distinct) :
    (FileTree.Raw.dir (swept skip source created).entries).Distinct := h.filter _

omit [DecidableEq Name] in
theorem distinct_staged {staging : Staging Name}
    (h : (FileTree.Raw.dir staging.entries).Distinct) : Distinct staging.staged.destination := by
  rintro _ ⟨⟩
  exact h

theorem distinct_stage (source : Raw Name) : ∀ destination : Option (Raw Name),
    Distinct destination → Distinct (stage skip source destination).destination := by
  induction source using FileTree.Raw.induction with
  | file fresh =>
    intro destination h
    rw [stage_file]
    rcases destination with - | current | entries
    · exact distinct_file fresh
    · by_cases hsame : current = fresh
      · simpa [hsame] using distinct_file fresh
      · simpa [hsame] using distinct_file fresh
    · exact h
  | dir sources ih =>
    intro destination h
    simp only [stage]
    cases hcreate : createDirAll destination with
    | none =>
      rw [mirror, hcreate]
      exact h
    | some created =>
      rw [mirror_of_created h hcreate]
      exact distinct_staged (distinct_copy sources (fun entry hentry => ih entry.1 entry.2 hentry) _
        (distinct_swept (distinct_created h hcreate).1))

/-- The destination of an entry is there afterwards. -/
theorem stage_ne_none (source : Raw Name) {destination : Option (Raw Name)}
    (h : Distinct destination) : (stage skip source destination).destination ≠ none := by
  cases source with
  | file fresh =>
    rw [stage_file]
    rcases destination with - | current | entries
    · simp
    · by_cases hsame : current = fresh <;> simp [hsame]
    · simp
  | dir sources =>
    simp only [stage]
    cases hcreate : createDirAll destination with
    | none =>
      rcases destination with - | content | entries
      · cases hcreate
      · rw [mirror, hcreate]
        simp
      · cases hcreate
    | some created =>
      rw [mirror_of_created h hcreate]
      simp [Staging.staged]

/-- What the second loop does for an entry, over what was at the destination before it. -/
def stageAt (skip : List Name) (before : Entries Name) (entry : Name × Raw Name) : Staged Name :=
  stage skip entry.2 (before.lookup entry.1)

/-- The entries that the second loop gets to, up to one that panics. -/
def reached (skip : List Name) (before : Entries Name) : Entries Name → Entries Name
  | [] => []
  | entry :: rest =>
    if entry.1 ∉ skip ∧ (stageAt skip before entry).panic.isSome then [entry]
    else entry :: reached skip before rest

def effectsAt (skip : List Name) (before : Entries Name) (entry : Name × Raw Name) :
    List (Effect Name) :=
  if entry.1 ∈ skip then [] else (stageAt skip before entry).effects.map (Effect.under entry.1)

theorem reached_subset (before sources : Entries Name) : reached skip before sources ⊆ sources := by
  induction sources with
  | nil => exact List.Subset.refl _
  | cons entry rest ih =>
    rw [reached]
    split
    · simp
    · exact List.cons_subset_cons entry ih

theorem lookup_put_self {staging : Staging Name} {name : Name} {staged : Staged Name}
    (h : staged.destination ≠ none) :
    (staging.put name staged).entries.lookup name = staged.destination := by
  obtain ⟨raw, hraw⟩ := Option.ne_none_iff_exists'.mp h
  simp [Staging.put, hraw]

theorem lookup_put_ne {staging : Staging Name} {name other : Name} {staged : Staged Name}
    (h : other ≠ name) :
    (staging.put name staged).entries.lookup other = staging.entries.lookup other := by
  rw [Staging.put]
  cases staged.destination with
  | none => rfl
  | some raw => exact lookup_set_ne h

theorem lookup_eq_none_of_notMem {entries : Entries Name} {name : Name}
    (h : name ∉ entries.map Prod.fst) : entries.lookup name = none := by
  rw [List.lookup_eq_none_iff]
  intro entry hentry
  simp only [bne_iff_ne]
  rintro rfl
  exact h (List.mem_map_of_mem hentry)

/-- The second loop does each entry it gets to on its own, over what was there before the loop. -/
theorem copy_spec {before : Entries Name} (hbefore : (FileTree.Raw.dir before).Distinct)
    (sources : Entries Name) (hnodup : (sources.map Prod.fst).Nodup) (staging : Staging Name)
    (hsame : ∀ entry ∈ sources, staging.entries.lookup entry.1 = before.lookup entry.1)
    (hpanic : staging.panic = none) :
    (copy skip sources staging).effects =
      staging.effects ++ (reached skip before sources).flatMap (effectsAt skip before) ∧
    ((copy skip sources staging).panic = none ↔
      ∀ entry ∈ sources, entry.1 ∉ skip → (stageAt skip before entry).panic = none) ∧
    ∀ name, (copy skip sources staging).entries.lookup name =
      match (reached skip before sources).lookup name with
      | some child =>
        if name ∈ skip then staging.entries.lookup name
        else (stageAt skip before (name, child)).destination
      | none => staging.entries.lookup name := by
  induction sources generalizing staging with
  | nil => simp [copy, reached, hpanic]
  | cons entry rest ih =>
    obtain ⟨name, source⟩ := entry
    rw [List.map_cons, List.nodup_cons] at hnodup
    have hrest : ∀ entry ∈ rest, staging.entries.lookup entry.1 = before.lookup entry.1 :=
      fun entry hentry => hsame entry (List.mem_cons_of_mem _ hentry)
    have hmissing : (reached skip before rest).lookup name = none := by
      refine lookup_eq_none_of_notMem fun hmem => hnodup.1 ?_
      exact List.map_subset _ (reached_subset before rest) hmem
    have hstage : stage skip source (staging.entries.lookup name) =
        stageAt skip before (name, source) := by
      rw [stageAt, hsame _ List.mem_cons_self]
    have hpresent : (stageAt skip before (name, source)).destination ≠ none :=
      stage_ne_none source (distinct_lookup hbefore name)
    rw [copy_cons, hstage, reached]
    by_cases hskip : name ∈ skip
    · obtain ⟨heffects, hpanics, hlookup⟩ := ih hnodup.2 staging hrest hpanic
      rw [if_pos hskip, if_neg (by simp [hskip])]
      refine ⟨by simp [heffects, effectsAt, hskip], by simp [hpanics, hskip], fun other => ?_⟩
      rw [hlookup, List.lookup_cons]
      by_cases hname : other = name
      · simp [hname, hmissing, hskip]
      · have hne : (other == name) = false := by simpa using hname
        rw [hne]
    · cases hpanicked : (stageAt skip before (name, source)).panic with
      | some message =>
        rw [if_neg hskip, if_pos (by rfl), if_pos ⟨hskip, by rfl⟩]
        refine ⟨by simp [Staging.put, effectsAt, hskip], ?_, fun other => ?_⟩
        · simp [Staging.put, hpanicked, hskip]
        · by_cases hname : other = name
          · subst hname
            simp [lookup_put_self hpresent, hskip]
          · have hne : (other == name) = false := by simpa using hname
            simp [lookup_put_ne hname, List.lookup_cons, hne]
      | none =>
        let next := staging.put name (stageAt skip before (name, source))
        have hnext : ∀ entry ∈ rest, next.entries.lookup entry.1 = before.lookup entry.1 := by
          intro entry hentry
          have hne : entry.1 ≠ name := by
            intro heq
            have hlisted : entry.1 ∈ rest.map Prod.fst := List.mem_map_of_mem hentry
            rw [heq] at hlisted
            exact hnodup.1 hlisted
          exact (lookup_put_ne hne).trans (hrest entry hentry)
        obtain ⟨heffects, hpanics, hlookup⟩ := ih hnodup.2 next hnext hpanicked
        rw [if_neg hskip, if_neg (by simp), if_neg (by simp)]
        refine ⟨?_, ?_, fun other => ?_⟩
        · rw [heffects]
          simp [next, Staging.put, effectsAt, hskip]
        · rw [hpanics]
          simp [hskip, hpanicked]
        · rw [hlookup, List.lookup_cons]
          by_cases hname : other = name
          · subst hname
            simp [hmissing, hskip, next, lookup_put_self hpresent]
          · have hne : (other == name) = false := by simpa using hname
            rw [hne, show next.entries.lookup other = _ from lookup_put_ne hname]

/-! ### Both loops -/

theorem look_of_created {destination : Option (Raw Name)}
    {created : Staging Name} (hcreate : createDirAll destination = some created) (name : Name)
    (path : List Name) :
    look destination (name :: path) = look (created.entries.lookup name) path := by
  rcases destination with - | content | entries
  · cases hcreate
    rfl
  · cases hcreate
  · cases hcreate
    rfl

/-- What the first loop removed. -/
def removals (skip : List Name) (source : Raw Name) (entries : Entries Name) :
    List (Effect Name) :=
  (entries.filter fun entry => !keeps skip source entry.1).map
    fun entry => .removed [entry.1] entry.2

theorem lookup_swept {source : Raw Name} {created : Staging Name} (name : Name) :
    (swept skip source created).entries.lookup name =
      if keeps skip source name then created.entries.lookup name else none :=
  lookup_filter _ name (keeps skip source)

/-- What the source lists. -/
def listing (source : Raw Name) : Entries Name :=
  match source with
  | .file _ => []
  | .dir sources => sources

omit [DecidableEq Name] in
@[simp] theorem listing_dir (sources : Entries Name) : listing (.dir sources) = sources := rfl

omit [DecidableEq Name] in
theorem nodup_listing {source : Raw Name} (h : source.Distinct) :
    ((listing source).map Prod.fst).Nodup := by
  cases source with
  | file content => exact .nil
  | dir sources => exact h.nodup

theorem keeps_of_mem {source : Raw Name} {entry : Name × Raw Name} (h : entry ∈ listing source) :
    keeps skip source entry.1 := by
  cases source with
  | file content => cases h
  | dir sources =>
    have hhas : has (.dir sources) entry.1 = true := by
      rw [has, List.lookup_isSome_iff]
      exact ⟨entry, h, by simp⟩
    simp [keeps, hhas]

variable {source : Raw Name} {destination : Option (Raw Name)} {created : Staging Name}
  {sources : Entries Name}

/-- Both loops, of which a source that is a file makes only the first. -/
theorem mirror_eq (skip : List Name) (source : Raw Name) (h : Distinct destination)
    (hcreate : createDirAll destination = some created) :
    ∃ panic, mirror skip source destination =
      { (copy skip (listing source) (swept skip source created)).staged with panic } := by
  rw [mirror_of_created h hcreate]
  cases source with
  | file content => exact ⟨_, rfl⟩
  | dir sources => exact ⟨_, rfl⟩

theorem copy_swept_spec (h : Distinct destination)
    (hcreate : createDirAll destination = some created) (hsource : source.Distinct) :
    (copy skip (listing source) (swept skip source created)).effects =
      (swept skip source created).effects ++
        (reached skip created.entries (listing source)).flatMap (effectsAt skip created.entries) ∧
    ((copy skip (listing source) (swept skip source created)).panic = none ↔
      ∀ entry ∈ listing source, entry.1 ∉ skip →
        (stageAt skip created.entries entry).panic = none) ∧
    ∀ name, (copy skip (listing source) (swept skip source created)).entries.lookup name =
      match (reached skip created.entries (listing source)).lookup name with
      | some child =>
        if name ∈ skip then (swept skip source created).entries.lookup name
        else (stageAt skip created.entries (name, child)).destination
      | none => (swept skip source created).entries.lookup name :=
  copy_spec (distinct_created h hcreate).1 (listing source) (nodup_listing hsource) _
    (fun entry hentry => by rw [lookup_swept, if_pos (keeps_of_mem hentry)]) rfl

theorem mirror_panic (h : Distinct destination) (hcreate : createDirAll destination = some created)
    (hsources : (FileTree.Raw.dir sources).Distinct) :
    (mirror skip (.dir sources) destination).panic = none ↔
      ∀ entry ∈ sources, entry.1 ∉ skip → (stageAt skip created.entries entry).panic = none := by
  rw [mirror_of_created h hcreate]
  exact (copy_swept_spec h hcreate hsources).2.1

/-- What was done is making the directory, removing a stale entry, or what was done for an entry of
the source. -/
theorem mem_mirror_effects (h : Distinct destination)
    (hcreate : createDirAll destination = some created) (hsource : source.Distinct)
    {effect : Effect Name} :
    effect ∈ (mirror skip source destination).effects ↔
      effect ∈ created.effects ∨ effect ∈ removals skip source created.entries ∨
        ∃ entry ∈ reached skip created.entries (listing source), entry.1 ∉ skip ∧
          ∃ inner ∈ (stageAt skip created.entries entry).effects,
            inner.under entry.1 = effect := by
  have hentries : effect ∈ (reached skip created.entries (listing source)).flatMap
      (effectsAt skip created.entries) ↔
      ∃ entry ∈ reached skip created.entries (listing source), entry.1 ∉ skip ∧
        ∃ inner ∈ (stageAt skip created.entries entry).effects, inner.under entry.1 = effect := by
    rw [List.mem_flatMap]
    refine exists_congr fun entry => and_congr_right fun _ => ?_
    rw [effectsAt]
    by_cases hskip : entry.1 ∈ skip <;> simp [hskip]
  have hswept : (swept skip source created).effects =
      created.effects ++ removals skip source created.entries := rfl
  obtain ⟨panic, heq⟩ := mirror_eq skip source h hcreate
  rw [heq, Staging.staged, (copy_swept_spec h hcreate hsource).1, hswept, List.mem_append,
    List.mem_append, hentries, or_assoc]

theorem mem_removals {source : Raw Name} {entries : Entries Name} {effect : Effect Name} :
    effect ∈ removals skip source entries ↔
      ∃ name stale, (name, stale) ∈ entries ∧ keeps skip source name = false ∧
        effect = .removed [name] stale := by
  rw [removals, List.mem_map]
  constructor
  · rintro ⟨entry, hentry, rfl⟩
    obtain ⟨hmem, hkeeps⟩ := List.mem_filter.mp hentry
    exact ⟨entry.1, entry.2, hmem, by simpa using hkeeps, rfl⟩
  · rintro ⟨name, stale, hmem, hkeeps, rfl⟩
    exact ⟨(name, stale), List.mem_filter.mpr ⟨hmem, by simpa using hkeeps⟩, rfl⟩

/-- What the first loop removes is neither skipped nor in the source. -/
theorem keeps_eq_false {source : Raw Name} {name : Name} :
    keeps skip source name = false ↔ name ∉ skip ∧ look (some source) [name] = none := by
  cases source with
  | file content => simp [keeps, has]
  | dir entries =>
    rw [keeps, decide_eq_false_iff_not, not_or, has, Option.not_isSome_iff_eq_none, look_dir_cons,
      look_nil_eq_none]

omit [DecidableEq Name] in
theorem created_effects (hcreate : createDirAll destination = some created) :
    (destination = none ∧ created.effects = [.created []]) ∨
      (destination = some (.dir created.entries) ∧ created.effects = []) := by
  rcases destination with - | content | entries
  · cases hcreate
    exact .inl ⟨rfl, rfl⟩
  · cases hcreate
  · cases hcreate
    exact .inr ⟨rfl, rfl⟩

/-- An entry that the second loop does not do is as the first loop left it. -/
theorem look_mirror (h : Distinct destination) (hcreate : createDirAll destination = some created)
    (hsource : source.Distinct) (name : Name) (path : List Name) :
    look (mirror skip source destination).destination (name :: path) =
      match (reached skip created.entries (listing source)).lookup name with
      | some child =>
        if name ∈ skip then look destination (name :: path)
        else look (stageAt skip created.entries (name, child)).destination path
      | none => if keeps skip source name then look destination (name :: path) else none := by
  obtain ⟨panic, heq⟩ := mirror_eq skip source h hcreate
  rw [heq, look_of_created hcreate]
  simp only [Staging.staged, look_dir_cons]
  rw [(copy_swept_spec h hcreate hsource).2.2 name, lookup_swept]
  cases (reached skip created.entries (listing source)).lookup name with
  | none => cases keeps skip source name <;> simp
  | some child =>
    by_cases hskip : name ∈ skip
    · have hkeeps : keeps skip source name = true := by simp [keeps, hskip]
      simp [hskip, hkeeps]
    · simp [hskip]

/-- Where the build is not stopped at once, the destination is then a directory. -/
theorem look_mirror_nil (h : Distinct destination)
    (hcreate : createDirAll destination = some created) :
    look (mirror skip source destination).destination [] = some .dir := by
  obtain ⟨panic, heq⟩ := mirror_eq skip source h hcreate
  rw [heq]
  rfl

end Build

end ContainerBridge
