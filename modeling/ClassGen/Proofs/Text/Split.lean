/-
# Cutting a text at a separator

The pieces of a text hold no separator, and together they hold every other character.  The segments
of a text hold no dot, and joined with dots they are the text again.  So the last segment is what
stands after the last dot, and the other ones together are what stands before it.  Conversely a
text of lines, each ended by a line feed, is cut into these lines.
-/
import Mathlib.Tactic.Common
import ClassGen.Text.Split

namespace ClassGen.Text

lemma not_mem_of_mem_splitOn {sep : Char} {cs piece : List Char} (h : piece ∈ splitOn sep cs) :
    sep ∉ piece := by
  induction cs generalizing piece with
  | nil =>
    rw [splitOn, List.mem_singleton] at h
    simp [h]
  | cons c cs ih =>
    rw [splitOn] at h
    split at h
    · rcases List.mem_cons.1 h with rfl | h
      · simp
      · exact ih h
    · rename_i hc
      split at h
      · rename_i hnil
        exact absurd hnil (splitOn_ne_nil sep cs)
      · rename_i first rest hsplit
        rcases List.mem_cons.1 h with rfl | h
        · have hfirst : sep ∉ first := ih (by simp [hsplit])
          simp [hfirst, Ne.symm hc]
        · exact ih (by simp [hsplit, h])

lemma splitOn_cons_of_ne {sep c : Char} {cs piece : List Char} {pieces : List (List Char)}
    (hc : c ≠ sep) (hcs : splitOn sep cs = piece :: pieces) :
    splitOn sep (c :: cs) = (c :: piece) :: pieces := by
  rw [splitOn, if_neg hc, hcs]

lemma splitOn_eq_singleton {sep : Char} {cs : List Char} (h : sep ∉ cs) :
    splitOn sep cs = [cs] := by
  induction cs with
  | nil => rfl
  | cons c cs ih =>
    rw [List.mem_cons, not_or] at h
    obtain ⟨hc, hcs⟩ := h
    exact splitOn_cons_of_ne (Ne.symm hc) (ih hcs)

/-- A separator in the text cuts it into the pieces before and those after it. -/
lemma splitOn_append_cons (sep : Char) (as bs : List Char) :
    splitOn sep (as ++ sep :: bs) = splitOn sep as ++ splitOn sep bs := by
  induction as with
  | nil => simp [splitOn]
  | cons a as ih =>
    by_cases ha : a = sep
    · simp [splitOn, ha, ih]
    · obtain ⟨piece, pieces, has⟩ := List.exists_cons_of_ne_nil (splitOn_ne_nil sep as)
      rw [has] at ih
      rw [List.cons_append, splitOn_cons_of_ne ha ih, splitOn_cons_of_ne ha has]
      rfl

/-- Pieces without a separator are found again when they were joined with it. -/
lemma splitOn_joinWith {sep : Char} {pieces : List (List Char)} (hnil : pieces ≠ [])
    (h : ∀ piece ∈ pieces, sep ∉ piece) : splitOn sep (joinWith [sep] pieces) = pieces := by
  fun_induction joinWith [sep] pieces with
  | case1 => exact absurd rfl hnil
  | case2 piece => exact splitOn_eq_singleton (h piece List.mem_cons_self)
  | case3 piece pieces hne ih =>
    obtain ⟨hpiece, hpieces⟩ := List.forall_mem_cons.1 h
    rw [List.append_assoc, List.singleton_append, splitOn_append_cons, splitOn_eq_singleton hpiece,
      ih hne hpieces]
    rfl

/-- Characters may be replaced before a text is cut, if no other character becomes the
separator. -/
lemma splitOn_map {sep sep' : Char} {f : Char → Char} {cs : List Char}
    (h : ∀ c ∈ cs, f c = sep' ↔ c = sep) :
    splitOn sep' (cs.map f) = (splitOn sep cs).map (List.map f) := by
  induction cs with
  | nil => rfl
  | cons c cs ih =>
    obtain ⟨hc, hcs⟩ := List.forall_mem_cons.1 h
    obtain ⟨piece, pieces, hsplit⟩ := List.exists_cons_of_ne_nil (splitOn_ne_nil sep cs)
    specialize ih hcs
    rw [List.map_cons]
    by_cases hsep : c = sep
    · rw [splitOn, if_pos (hc.2 hsep), splitOn, if_pos hsep, ih, List.map_cons, List.map_nil]
    · rw [hsplit, List.map_cons] at ih
      rw [splitOn_cons_of_ne (fun h => hsep (hc.1 h)) ih, splitOn_cons_of_ne hsep hsplit,
        List.map_cons, List.map_cons]

/-- A character of the text is the separator or in one of the pieces. -/
lemma eq_or_exists_mem_splitOn (sep : Char) {c : Char} {cs : List Char} (hc : c ∈ cs) :
    c = sep ∨ ∃ piece ∈ splitOn sep cs, c ∈ piece := by
  -- the text is its pieces with the separator between them
  rw [← joinWith_splitOn sep cs] at hc
  generalize splitOn sep cs = pieces at hc ⊢
  fun_induction joinWith [sep] pieces with
  | case1 => exact absurd hc List.not_mem_nil
  | case2 piece => exact Or.inr ⟨piece, List.mem_cons_self, hc⟩
  | case3 piece pieces _ ih =>
    rw [List.mem_append, List.mem_append, List.mem_singleton] at hc
    rcases hc with (hc | hc) | hc
    · exact Or.inr ⟨piece, List.mem_cons_self, hc⟩
    · exact Or.inl hc
    · exact (ih hc).imp_right fun ⟨p, hp, hcp⟩ => ⟨p, List.mem_cons_of_mem piece hp, hcp⟩

/-! ### Lines -/

/-- The text of these lines, each ended by a line feed. -/
def unlines (ls : List String) : List Char :=
  ls.flatMap fun l => l.toList ++ ['\n']

lemma unlines_cons (l : String) (ls : List String) :
    unlines (l :: ls) = l.toList ++ '\n' :: unlines ls := by
  simp [unlines]

lemma unlines_append (ls ls' : List String) : unlines (ls ++ ls') = unlines ls ++ unlines ls' :=
  List.flatMap_append

/-- Nothing is left after the last line feed of a text of lines. -/
lemma splitOn_unlines {ls : List String} (h : ∀ l ∈ ls, '\n' ∉ l.toList) :
    splitOn '\n' (unlines ls) = ls.map String.toList ++ [[]] := by
  induction ls with
  | nil => rfl
  | cons l ls ih =>
    obtain ⟨hl, hls⟩ := List.forall_mem_cons.1 h
    rw [unlines_cons, splitOn_append_cons, splitOn_eq_singleton hl, ih hls]
    rfl

/-! ### Dots -/

lemma joinWith_eq_intercalate (sep : List Char) (pieces : List (List Char)) :
    joinWith sep pieces = sep.intercalate pieces := by
  induction pieces with
  | nil => rfl
  | cons piece pieces ih =>
    cases pieces with
    | nil => simp [joinWith]
    | cons p ps => simp [joinWith, ih]

lemma segments_ne_nil (s : String) : segments s ≠ [] := by
  simp [segments, splitOn_ne_nil]

lemma joinDots_segments (s : String) : joinDots (segments s) = s := by
  have hdot : ".".toList = ['.'] := rfl
  have hmap : (segments s).map String.toList = splitOn '.' s.toList := by
    simp [segments, Function.comp_def]
  rw [joinDots, ← String.toList_inj, String.toList_intercalate, hmap, hdot,
    ← joinWith_eq_intercalate, joinWith_splitOn]

lemma not_mem_of_mem_segments {s piece : String} (h : piece ∈ segments s) :
    '.' ∉ piece.toList := by
  rw [segments, List.mem_map] at h
  obtain ⟨cs, hcs, rfl⟩ := h
  rw [String.toList_ofList]
  exact not_mem_of_mem_splitOn hcs

/-- The last occurrence of a character cuts a text in one way only. -/
lemma append_cons_inj_of_not_mem {c : Char} {as bs as' bs' : List Char} (hbs : c ∉ bs)
    (hbs' : c ∉ bs') (h : as ++ c :: bs = as' ++ c :: bs') : as = as' ∧ bs = bs' := by
  -- where one side cuts later than the other, its first part takes in the dot of the other cut
  rcases List.append_eq_append_iff.1 h with ⟨ds, rfl, hds⟩ | ⟨ds, rfl, hds⟩
  · rcases List.cons_eq_append_iff.1 hds with ⟨rfl, hcons⟩ | ⟨es, -, rfl⟩
    · simpa using hcons.symm
    · exact absurd (by simp) hbs
  · rcases List.cons_eq_append_iff.1 hds with ⟨rfl, hcons⟩ | ⟨es, -, rfl⟩
    · simpa using hcons
    · exact absurd (by simp) hbs'

end ClassGen.Text
