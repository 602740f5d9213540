import ContainerBridge.Build.Glue
import ContainerBridge.Mirror.Steps

/-! What the glue is after its shims are made public: line by line in the file that has them, and
unchanged in every other one. -/

namespace ContainerBridge

namespace Build

open FileTree

/-! ### The file's text -/

def lines (source : String) : List (List Char) := source.toList.splitOn '\n'

/-- The line declares a shim without making it public. -/
def Internal (line : List Char) : Prop := "func __swift_bridge__".toList <+: line

instance (line : List Char) : Decidable (Internal line) := inferInstanceAs (Decidable (_ <+: _))

def publicLine (line : List Char) : List Char :=
  Replace.prepended "func __swift_bridge__".toList "public ".toList line

theorem publicLine_internal {line : List Char} (h : Internal line) :
    publicLine line = "public ".toList ++ line := by
  unfold publicLine Replace.prepended
  rw [if_pos (List.isPrefixOf_iff_prefix.mpr h)]

theorem publicLine_of_not_internal {line : List Char} (h : ¬Internal line) :
    publicLine line = line := by
  unfold publicLine Replace.prepended
  rw [if_neg]
  intro hstarts
  exact h (List.isPrefixOf_iff_prefix.mp hstarts)

/-- A public line is not internal any more. -/
theorem not_internal_publicLine (line : List Char) : ¬Internal (publicLine line) := by
  by_cases h : Internal line
  · rw [publicLine_internal h]
    intro hpublic
    have hfirst : ('f' : Char) = 'p' := (List.cons_prefix_cons.mp hpublic).1
    exact absurd hfirst (by decide)
  · rwa [publicLine_of_not_internal h]

theorem publicLine_eq_self {line : List Char} : publicLine line = line ↔ ¬Internal line := by
  constructor
  · intro h
    rw [← h]
    exact not_internal_publicLine line
  · exact publicLine_of_not_internal

/-- The first line stays as it is, and each other one is made public. -/
theorem lines_publish (source : String) :
    ∃ first rest, lines source = first :: rest ∧
      lines (publish source) = first :: rest.map publicLine := by
  have hpattern : '\n' ∉ "func __swift_bridge__".toList := by decide
  have hfresh : '\n' ∉ "public ".toList := by decide
  obtain ⟨first, rest, hlines, hpublished⟩ :=
    Replace.splitOn_replace hpattern hfresh source.toList
  refine ⟨first, rest, hlines, ?_⟩
  have htext : (publish source).toList =
      Replace.replace ('\n' :: "func __swift_bridge__".toList)
        ('\n' :: ("public ".toList ++ "func __swift_bridge__".toList)) source.toList := by
    unfold publish strReplace
    rw [String.toList_ofList]
    rfl
  unfold lines
  rw [htext, hpublished]
  rfl

theorem eq_of_lines_eq {source other : String} (h : lines source = lines other) :
    source = other := by
  have hlists : source.toList = other.toList := by
    have hsource : ['\n'].intercalate (lines source) = source.toList :=
      List.intercalate_splitOn '\n'
    have hother : ['\n'].intercalate (lines other) = other.toList :=
      List.intercalate_splitOn '\n'
    rw [← hsource, ← hother]
    exact congrArg _ h
  exact String.toList_inj.mp hlists

/-- Publishing does nothing where no line after the first is internal. -/
theorem publish_eq_self (source : String) :
    publish source = source ↔ ∀ line ∈ (lines source).tail, ¬Internal line := by
  obtain ⟨first, rest, hlines, hpublished⟩ := lines_publish source
  rw [hlines]
  constructor
  · intro h line hline
    have hsame : rest.map publicLine = rest.map id := by
      rw [h, hlines] at hpublished
      rw [List.map_id]
      exact (List.cons.inj hpublished).2.symm
    exact publicLine_eq_self.mp (List.map_inj_left.mp hsame line hline)
  · intro h
    apply eq_of_lines_eq
    rw [hpublished, hlines]
    have hsame : rest.map publicLine = rest.map id :=
      List.map_inj_left.mpr fun line hline => publicLine_of_not_internal (h line hline)
    rw [hsame, List.map_id]

theorem not_internal_of_publish (source : String) :
    ∀ line ∈ (lines (publish source)).tail, ¬Internal line := by
  obtain ⟨first, rest, -, hpublished⟩ := lines_publish source
  rw [hpublished]
  intro line hline
  obtain ⟨original, -, rfl⟩ := List.mem_map.mp hline
  exact not_internal_publicLine original

/-! ### The tree -/

theorem look_entry (raw : Option (Raw String)) (path below : List String) :
    look (entry raw path) below = look raw (path ++ below) := by
  induction path generalizing raw with
  | nil => rfl
  | cons name path ih =>
    rcases raw with - | content | entries
    · rfl
    · rfl
    · exact ih (entries.lookup name)

/-- A file that is written is the only one that is another afterwards. -/
theorem look_writeAt {path : List String} {fresh : List UInt8} {raw : Option (Raw String)}
    {written : Raw String} (h : writeAt raw path fresh = some written) (other : List String) :
    look (some written) other = if other = path then some (.file fresh) else look raw other := by
  induction path generalizing raw written other with
  | nil =>
    rcases raw with - | content | entries
    · cases h
      cases other <;> rfl
    · cases h
      cases other <;> rfl
    · cases h
  | cons name path ih =>
    rcases raw with - | content | entries
    · cases h
    · cases h
    · obtain ⟨child, hchild, rfl⟩ := Option.map_eq_some_iff.mp h
      cases other with
      | nil => rfl
      | cons key below =>
        by_cases hkey : key = name
        · subst hkey
          rw [look_dir_cons, lookup_set_self, ih hchild below, look_dir_cons]
          simp
        · rw [look_dir_cons, lookup_set_ne hkey, look_dir_cons, if_neg]
          intro hsame
          exact hkey (List.cons.inj hsame).1

theorem distinct_writeAt {path : List String} {fresh : List UInt8} {raw : Option (Raw String)}
    {written : Raw String} (hraw : Distinct raw) (h : writeAt raw path fresh = some written) :
    written.Distinct := by
  induction path generalizing raw written with
  | nil =>
    rcases raw with - | content | entries
    · cases h
      exact .file fresh
    · cases h
      exact .file fresh
    · cases h
  | cons name path ih =>
    rcases raw with - | content | entries
    · cases h
    · cases h
    · obtain ⟨child, hchild, rfl⟩ := Option.map_eq_some_iff.mp h
      have hentries := hraw _ rfl
      exact hentries.set (ih (distinct_lookup hentries name) hchild)

/-- A file can be written again. -/
theorem writeAt_isSome {path : List String} (fresh : List UInt8) {raw : Option (Raw String)}
    {content : List UInt8} (h : look raw path = some (.file content)) :
    (writeAt raw path fresh).isSome := by
  induction path generalizing raw with
  | nil =>
    rcases raw with - | current | entries
    · cases h
    · rfl
    · cases h
  | cons name path ih =>
    rcases raw with - | current | entries
    · cases h
    · cases h
    · rw [look_dir_cons] at h
      have hchild := ih h
      obtain ⟨child, hchild⟩ := Option.isSome_iff_exists.mp hchild
      rw [writeAt, hchild]
      rfl

theorem fromUTF8_eq_some {bytes : ByteArray} {source : String} :
    String.fromUTF8? bytes = some source ↔ source.toUTF8 = bytes := by
  unfold String.fromUTF8?
  constructor
  · intro h
    split at h
    · cases h
      rfl
    · cases h
  · rintro rfl
    exact dif_pos source.isValidUTF8

theorem readToString_eq_some {raw : Option (Raw String)} {source : String} :
    readToString raw = some source ↔ look raw [] = some (.file source.toUTF8.data.toList) := by
  rcases raw with - | content | entries
  · exact iff_of_false nofun nofun
  · show String.fromUTF8? ⟨content.toArray⟩ = some source ↔ _
    rw [fromUTF8_eq_some, look_file_nil, Option.some.injEq, Kind.file.injEq]
    constructor
    · intro h
      rw [h]
    · intro h
      rw [h]
  · exact iff_of_false nofun nofun

/-- Where the glue has the shims. -/
def shims : List String := [bridge, bridge ++ ".swift"]

/-- What publishing the shims of `glue` makes of it. -/
structure Published (glue : Option (Raw String)) (published : Raw String) (source : String) :
    Prop where
  written : look glue shims = some (.file source.toUTF8.data.toList)
  internal : ∃ line ∈ (lines source).tail, Internal line
  contents : ∀ path, look (some published) path =
    if path = shims then some (.file (publish source).toUTF8.data.toList) else look glue path

/-- The shims are published where a line of their file, after the first, has one. -/
theorem publishBridgeShims_eq_ok {generated : String} {glue : Option (Raw String)}
    {published : Raw String} (h : publishBridgeShims generated glue = .ok published) :
    ∃ source, Published glue published source := by
  unfold publishBridgeShims at h
  dsimp only at h
  split at h
  · cases h
  · next source hsource =>
    have hlook := readToString_eq_some.mp hsource
    rw [look_entry, List.append_nil] at hlook
    split at h
    · cases h
    · next hchanged =>
      split at h
      · cases h
      · next written hwritten =>
        cases h
        refine ⟨source, hlook, ?_, look_writeAt hwritten⟩
        by_contra hnone
        have hpublic : ∀ line ∈ (lines source).tail, ¬Internal line :=
          fun line hline hinternal => hnone ⟨line, hline, hinternal⟩
        exact hchanged ((publish_eq_self source).mpr hpublic)

theorem publishBridgeShims_of_internal (generated : String) {glue : Option (Raw String)}
    {source : String} (hsource : look glue shims = some (.file source.toUTF8.data.toList))
    (h : ∃ line ∈ (lines source).tail, Internal line) :
    ∃ published, publishBridgeShims generated glue = .ok published := by
  have hread : readToString (entry glue shims) = some source := by
    rw [readToString_eq_some, look_entry, List.append_nil, hsource]
  have hchanged : publish source ≠ source := by
    intro hsame
    obtain ⟨line, hline, hinternal⟩ := h
    exact (publish_eq_self source).mp hsame line hline hinternal
  obtain ⟨written, hwritten⟩ := Option.isSome_iff_exists.mp
    (writeAt_isSome (publish source).toUTF8.data.toList hsource)
  refine ⟨written, ?_⟩
  unfold publishBridgeShims
  dsimp only
  split
  · next hnone => rw [show readToString (entry glue shims) = none from hnone] at hread; cases hread
  · next read hsome =>
    have hsame : some read = some source := hsome.symm.trans hread
    cases hsame
    rw [if_neg hchanged]
    split
    · next hnone =>
      rw [show writeAt glue shims _ = none from hnone] at hwritten
      cases hwritten
    · next fresh hfresh =>
      have hsame : some fresh = some written := hfresh.symm.trans hwritten
      cases hsame
      rfl

theorem text_inj {source other : String}
    (h : (some (.file source.toUTF8.data.toList) : Option (Kind (List UInt8))) =
      some (.file other.toUTF8.data.toList)) : source = other := by
  rw [Option.some.injEq, Kind.file.injEq] at h
  have hbytes : source.toByteArray = other.toByteArray := ByteArray.ext (Array.toList_inj.mp h)
  exact String.toByteArray_inj.mp hbytes

/-- Publishing returns where the glue has an internal shim below its first line. Each line below it
is then made public on its own, no other file is another, and publishing again panics. -/
theorem publishBridgeShims_publishes (generated : String) (glue : Option (Raw String)) :
    ((∃ published, publishBridgeShims generated glue = .ok published) ↔
      ∃ source, look glue shims = some (.file source.toUTF8.data.toList) ∧
        ∃ line ∈ (lines source).tail, Internal line) ∧
    ∀ published, publishBridgeShims generated glue = .ok published →
      (∀ path, path ≠ shims → look (some published) path = look glue path) ∧
      (∃ source fresh first rest, look glue shims = some (.file source.toUTF8.data.toList) ∧
        look (some published) shims = some (.file fresh.toUTF8.data.toList) ∧
        lines source = first :: rest ∧ lines fresh = first :: rest.map publicLine) ∧
      ∃ message, publishBridgeShims generated (some published) = .error message := by
  constructor
  · constructor
    · rintro ⟨published, h⟩
      obtain ⟨source, hpublished⟩ := publishBridgeShims_eq_ok h
      exact ⟨source, hpublished.written, hpublished.internal⟩
    · rintro ⟨source, hsource, hinternal⟩
      exact publishBridgeShims_of_internal generated hsource hinternal
  · intro published h
    obtain ⟨source, hpublished⟩ := publishBridgeShims_eq_ok h
    have hshims := hpublished.contents shims
    rw [if_pos rfl] at hshims
    refine ⟨fun path hpath => ?_, ?_, ?_⟩
    · rw [hpublished.contents path, if_neg hpath]
    · obtain ⟨first, rest, hlines, hfresh⟩ := lines_publish source
      exact ⟨source, publish source, first, rest, hpublished.written, hshims, hlines, hfresh⟩
    · cases hagain : publishBridgeShims generated (some published) with
      | error message => exact ⟨message, rfl⟩
      | ok again =>
        obtain ⟨fresh, hwritten, ⟨line, hline, hinternal⟩, -⟩ := publishBridgeShims_eq_ok hagain
        rw [hshims] at hwritten
        rw [← text_inj hwritten] at hline
        exact absurd hinternal (not_internal_of_publish source line hline)

end Build

end ContainerBridge
