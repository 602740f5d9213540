import Mathlib.Data.List.Infix

/-! Replacing every occurrence of a pattern in a text, and what a replacement that starts with a
separator does to the lines between separators. -/

namespace Replace

variable {α : Type} [DecidableEq α]

/-- The text with every occurrence of `pattern` replaced, from the left and without overlap.
`inside` elements are left of the occurrence that was replaced last. -/
def go (pattern fresh : List α) : Nat → List α → List α
  | _, [] => []
  | inside + 1, _ :: rest => go pattern fresh inside rest
  | 0, x :: rest =>
    if pattern.isPrefixOf (x :: rest) then fresh ++ go pattern fresh (pattern.length - 1) rest
    else x :: go pattern fresh 0 rest

def replace (pattern fresh text : List α) : List α := go pattern fresh 0 text

variable {pattern fresh : List α} {x sep : α}

@[simp] theorem replace_nil : replace pattern fresh [] = [] := rfl

theorem go_inside (inside rest : List α) :
    go pattern fresh inside.length (inside ++ rest) = replace pattern fresh rest := by
  induction inside with
  | nil => rfl
  | cons y inside ih => exact ih

/-- An occurrence is replaced, and what follows it on its own. -/
theorem replace_occurrence (rest : List α) :
    replace (x :: pattern) fresh (x :: pattern ++ rest) =
      fresh ++ replace (x :: pattern) fresh rest := by
  have hoccurs : (x :: pattern).isPrefixOf (x :: (pattern ++ rest)) = true :=
    List.isPrefixOf_iff_prefix.mpr (List.prefix_append (x :: pattern) rest)
  rw [replace, List.cons_append, go, if_pos hoccurs]
  have hinside : go (x :: pattern) fresh pattern.length (pattern ++ rest) =
      replace (x :: pattern) fresh rest := go_inside pattern rest
  simpa using hinside

/-- An element that starts no occurrence stays. -/
theorem replace_cons {y : α} {rest : List α} (h : ¬pattern <+: y :: rest) :
    replace pattern fresh (y :: rest) = y :: replace pattern fresh rest := by
  rw [replace, go, if_neg]
  · rfl
  · rwa [List.isPrefixOf_iff_prefix]

/-- No occurrence starts before the separator that the pattern starts with. -/
theorem replace_line (line rest : List α) (hline : sep ∉ line) :
    replace (sep :: pattern) fresh (line ++ rest) =
      line ++ replace (sep :: pattern) fresh rest := by
  induction line with
  | nil => rfl
  | cons y line ih =>
    rw [List.mem_cons, not_or] at hline
    obtain ⟨hne, hline⟩ := hline
    have hnone : ¬sep :: pattern <+: y :: (line ++ rest) := by
      intro h
      exact hne (List.cons_prefix_cons.mp h).1
    rw [List.cons_append, replace_cons hnone, ih hline, List.cons_append]

/-! ### Lines -/

/-- A line that starts with `pattern`, with `fresh` before it. -/
def prepended (pattern fresh line : List α) : List α :=
  if pattern.isPrefixOf line then fresh ++ line else line

omit [DecidableEq α] in
theorem intercalate_append (before line : List α) (lines : List (List α)) :
    [sep].intercalate ((before ++ line) :: lines) =
      before ++ [sep].intercalate (line :: lines) := by
  cases lines with
  | nil => simp
  | cons next lines => simp [List.intercalate_cons_cons]

omit [DecidableEq α] in
/-- A pattern with no separator in it starts a text where it starts the first line. -/
theorem prefix_intercalate (hpattern : sep ∉ pattern) (line : List α) (lines : List (List α)) :
    pattern <+: [sep].intercalate (line :: lines) ↔ pattern <+: line := by
  cases lines with
  | nil => simp
  | cons next lines =>
    rw [List.intercalate_cons_cons]
    constructor
    · intro h
      induction line generalizing pattern with
      | nil =>
        cases pattern with
        | nil => exact List.nil_prefix
        | cons y pattern =>
          have hsep := (List.cons_prefix_cons.mp h).1
          exact absurd (by simp [hsep]) hpattern
      | cons z line ih =>
        cases pattern with
        | nil => exact List.nil_prefix
        | cons y pattern =>
          obtain ⟨rfl, hrest⟩ := List.cons_prefix_cons.mp h
          have htail : sep ∉ pattern := fun hmem => hpattern (List.mem_cons_of_mem _ hmem)
          exact List.cons_prefix_cons.mpr ⟨rfl, ih htail hrest⟩
    · intro h
      exact (h.trans (List.prefix_append line _)).trans (List.prefix_append _ _)

/-- Where the pattern follows a separator, replacing it by itself with `fresh` before it edits each
line after the first on its own. -/
theorem replace_intercalate (hpattern : sep ∉ pattern) (first : List α) (lines : List (List α))
    (hfirst : sep ∉ first) (hlines : ∀ line ∈ lines, sep ∉ line) :
    replace (sep :: pattern) (sep :: (fresh ++ pattern)) ([sep].intercalate (first :: lines)) =
      [sep].intercalate (first :: lines.map (prepended pattern fresh)) := by
  induction lines generalizing first with
  | nil =>
    have hnothing :
        replace (sep :: pattern) (sep :: (fresh ++ pattern)) (first ++ []) = first ++ [] :=
      replace_line first [] hfirst
    simpa using hnothing
  | cons line lines ih =>
    have hline : sep ∉ line := hlines line List.mem_cons_self
    have hrest : ∀ line ∈ lines, sep ∉ line :=
      fun other h => hlines other (List.mem_cons_of_mem _ h)
    rw [List.intercalate_cons_cons, List.append_assoc, replace_line first _ hfirst]
    rw [List.map_cons, List.intercalate_cons_cons, List.append_assoc]
    congr 1
    by_cases hstarts : pattern <+: line
    · obtain ⟨after, rfl⟩ := hstarts
      have hafter : sep ∉ after := fun hmem => hline (List.mem_append_right _ hmem)
      have hprepended : prepended pattern fresh (pattern ++ after) = fresh ++ (pattern ++ after) :=
        if_pos (List.isPrefixOf_iff_prefix.mpr (List.prefix_append pattern after))
      calc replace (sep :: pattern) (sep :: (fresh ++ pattern))
            ([sep] ++ [sep].intercalate ((pattern ++ after) :: lines))
          = replace (sep :: pattern) (sep :: (fresh ++ pattern))
              (sep :: pattern ++ [sep].intercalate (after :: lines)) := by
            rw [intercalate_append]
            rfl
        _ = sep :: (fresh ++ pattern) ++
              [sep].intercalate (after :: lines.map (prepended pattern fresh)) := by
            rw [replace_occurrence, ih after hafter hrest]
        _ = [sep] ++ [sep].intercalate
              (prepended pattern fresh (pattern ++ after) ::
                lines.map (prepended pattern fresh)) := by
            rw [hprepended, ← List.append_assoc, intercalate_append]
            simp
    · have hprepended : prepended pattern fresh line = line :=
        if_neg fun h => hstarts (List.isPrefixOf_iff_prefix.mp h)
      have hnone : ¬sep :: pattern <+: sep :: [sep].intercalate (line :: lines) := by
        intro h
        exact hstarts ((prefix_intercalate hpattern line lines).mp (List.cons_prefix_cons.mp h).2)
      rw [hprepended, List.singleton_append, replace_cons hnone, ih line hline hrest]
      rfl

theorem notMem_of_mem_splitOn (text : List α) : ∀ line ∈ text.splitOn sep, sep ∉ line := by
  induction text with
  | nil => simp
  | cons x text ih =>
    rw [List.splitOn_cons_eq_if_modifyHead]
    by_cases hsep : x = sep
    · simpa [hsep] using ih
    · cases hlines : text.splitOn sep with
      | nil => exact absurd hlines (List.splitOn_ne_nil sep text)
      | cons first lines =>
        rw [hlines] at ih
        obtain ⟨hfirst, hrest⟩ := List.forall_mem_cons.mp ih
        have hne : ¬sep = x ∧ sep ∉ first := ⟨fun h => hsep h.symm, hfirst⟩
        simpa [hsep] using ⟨hne, hrest⟩

theorem notMem_prepended (hfresh : sep ∉ fresh) {line : List α} (hline : sep ∉ line) :
    sep ∉ prepended pattern fresh line := by
  unfold prepended
  split
  · rw [List.mem_append, not_or]
    exact ⟨hfresh, hline⟩
  · exact hline

/-- The lines after the replacement, of any text. -/
theorem splitOn_replace (hpattern : sep ∉ pattern) (hfresh : sep ∉ fresh) (text : List α) :
    ∃ first lines, text.splitOn sep = first :: lines ∧
      (replace (sep :: pattern) (sep :: (fresh ++ pattern)) text).splitOn sep =
        first :: lines.map (prepended pattern fresh) := by
  cases hlines : text.splitOn sep with
  | nil => exact absurd hlines (List.splitOn_ne_nil sep text)
  | cons first lines =>
    have hnone : ∀ line ∈ text.splitOn sep, sep ∉ line := notMem_of_mem_splitOn text
    rw [hlines] at hnone
    obtain ⟨hfirst, hrest⟩ := List.forall_mem_cons.mp hnone
    refine ⟨first, lines, rfl, ?_⟩
    have htext : text = [sep].intercalate (first :: lines) := by
      rw [← hlines, List.intercalate_splitOn]
    rw [htext, replace_intercalate hpattern first lines hfirst hrest]
    apply List.splitOn_intercalate
    · intro line hline
      rcases List.mem_cons.mp hline with rfl | hmem
      · exact hfirst
      · obtain ⟨original, horiginal, rfl⟩ := List.mem_map.mp hmem
        exact notMem_prepended hfresh (hrest original horiginal)
    · exact List.cons_ne_nil _ _

end Replace
