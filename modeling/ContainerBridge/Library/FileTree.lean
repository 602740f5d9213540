import Mathlib.Data.List.Nodup

/-! Finite trees of regular files and directories. A directory's entries are in the order that
listing it gives them, and are known by what is at each path. -/

namespace FileTree

variable {Name Content : Type}

inductive Raw (Name Content : Type) where
  | file (content : Content)
  | dir (entries : List (Name × Raw Name Content))

/-- No directory has two entries of one name. -/
inductive Raw.Distinct : Raw Name Content → Prop
  | file (content : Content) : Distinct (.file content)
  | dir {entries : List (Name × Raw Name Content)} (hnodup : (entries.map Prod.fst).Nodup)
      (hentries : ∀ entry ∈ entries, entry.2.Distinct) : Distinct (.dir entries)

/-- A tree on disk. -/
structure Tree (Name Content : Type) where
  raw : Raw Name Content
  distinct : raw.Distinct

/-- What is at a path. -/
inductive Kind (Content : Type) where
  | file (content : Content)
  | dir

/-- Whether two kinds are both a file's or both a directory's. -/
def Kind.Same : Kind Content → Kind Content → Prop
  | .file _, .file _ | .dir, .dir => True
  | _, _ => False

theorem Raw.induction {motive : Raw Name Content → Prop}
    (file : ∀ content, motive (.file content))
    (dir : ∀ entries, (∀ name child, (name, child) ∈ entries → motive child) →
      motive (.dir entries)) : ∀ raw, motive raw
  | .file content => file content
  | .dir entries => dir entries fun name child h =>
    have : sizeOf child < sizeOf entries := by
      have hmem := List.sizeOf_lt_of_mem h
      simp only [Prod.mk.sizeOf_spec] at hmem
      omega
    Raw.induction file dir child

variable [DecidableEq Name]

/-! ### Entries -/

def erase (entries : List (Name × Raw Name Content)) (name : Name) :
    List (Name × Raw Name Content) := entries.filter fun entry => entry.1 ≠ name

/-- The entry `name` is now `raw`, at the start of the listing. -/
def set (entries : List (Name × Raw Name Content)) (name : Name) (raw : Raw Name Content) :
    List (Name × Raw Name Content) := (name, raw) :: erase entries name

variable {entries : List (Name × Raw Name Content)} {name other : Name} {raw : Raw Name Content}

theorem lookup_filter (entries : List (Name × Raw Name Content)) (name : Name)
    (keep : Name → Bool) :
    (entries.filter fun entry => keep entry.1).lookup name =
      if keep name then entries.lookup name else none := by
  induction entries with
  | nil => simp
  | cons entry rest ih =>
    obtain ⟨key, value⟩ := entry
    by_cases hkey : name = key
    · subst hkey
      cases hkeep : keep name <;> simp [hkeep, ih]
    · have hne : (name == key) = false := by simpa using hkey
      cases hkeep : keep key <;> simp [hkeep, ih, List.lookup_cons, hne]

@[simp] theorem lookup_set_self : (set entries name raw).lookup name = some raw := by
  simp [set]

theorem lookup_set_ne (h : other ≠ name) :
    (set entries name raw).lookup other = entries.lookup other := by
  have hne : (other == name) = false := by simpa using h
  have herase := lookup_filter entries other fun key => key ≠ name
  simpa [set, erase, List.lookup_cons, hne, h] using herase

theorem mem_of_lookup (h : entries.lookup name = some raw) : (name, raw) ∈ entries := by
  obtain ⟨before, after, rfl, -⟩ := List.lookup_eq_some_iff.mp h
  simp

theorem lookup_of_mem (hnodup : (entries.map Prod.fst).Nodup) (h : (name, raw) ∈ entries) :
    entries.lookup name = some raw := by
  obtain ⟨before, after, rfl⟩ := List.append_of_mem h
  refine List.lookup_eq_some_iff.mpr ⟨before, after, rfl, fun entry hentry => ?_⟩
  rw [List.map_append, List.nodup_append] at hnodup
  simpa using (hnodup.2.2 entry.1 (List.mem_map_of_mem hentry) name (by simp)).symm

theorem Raw.Distinct.child (h : (Raw.dir entries).Distinct)
    (hname : entries.lookup name = some raw) : raw.Distinct := by
  cases h with
  | dir hnodup hentries => exact hentries _ (mem_of_lookup hname)

omit [DecidableEq Name] in
theorem Raw.Distinct.nodup (h : (Raw.dir entries).Distinct) : (entries.map Prod.fst).Nodup := by
  cases h with
  | dir hnodup hentries => exact hnodup

omit [DecidableEq Name] in
theorem Raw.Distinct.filter (h : (Raw.dir entries).Distinct)
    (keep : Name × Raw Name Content → Bool) : (Raw.dir (entries.filter keep)).Distinct := by
  cases h with
  | dir hnodup hentries =>
    exact .dir (hnodup.sublist (List.filter_sublist.map _))
      fun entry hentry => hentries entry (List.mem_of_mem_filter hentry)

theorem Raw.Distinct.set (h : (Raw.dir entries).Distinct) (hraw : raw.Distinct) :
    (Raw.dir (set entries name raw)).Distinct := by
  have herase := h.filter fun entry => entry.1 ≠ name
  cases herase with
  | dir hnodup hentries =>
    refine .dir ?_ fun entry hentry => ?_
    · rw [FileTree.set, List.map_cons, List.nodup_cons]
      refine ⟨fun hmem => ?_, hnodup⟩
      obtain ⟨entry, hentry, rfl⟩ := List.mem_map.mp hmem
      simpa using (List.mem_filter.mp hentry).2
    · rcases List.mem_cons.mp hentry with rfl | hold
      · exact hraw
      · exact hentries entry hold

/-! ### Paths -/

/-- What is at `path`. -/
def Raw.at? : Raw Name Content → List Name → Option (Kind Content)
  | .file content, [] => some (.file content)
  | .dir _, [] => some .dir
  | .file _, _ :: _ => none
  | .dir entries, name :: path => (entries.lookup name).bind (·.at? path)

/-- What is at `path` below something that may be missing. -/
def look (raw : Option (Raw Name Content)) (path : List Name) : Option (Kind Content) :=
  raw.bind (·.at? path)

@[simp] theorem look_none (path : List Name) :
    look (none : Option (Raw Name Content)) path = none := rfl

@[simp] theorem look_file_nil (content : Content) :
    look (some (.file content : Raw Name Content)) [] = some (.file content) := rfl

@[simp] theorem look_dir_nil : look (some (.dir entries)) [] = some .dir := rfl

@[simp] theorem look_file_cons (content : Content) (path : List Name) :
    look (some (.file content)) (name :: path) = none := rfl

@[simp] theorem look_dir_cons (path : List Name) :
    look (some (.dir entries)) (name :: path) = look (entries.lookup name) path := rfl

theorem look_nil_eq_none {raw : Option (Raw Name Content)} : look raw [] = none ↔ raw = none := by
  rcases raw with - | content | entries <;> simp

end FileTree
