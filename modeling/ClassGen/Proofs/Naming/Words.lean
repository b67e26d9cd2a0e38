/-
# The words of a name, read back

Cutting a name into words drops what is neither a letter nor a digit and nothing else: the words
one after the other are the letters and digits of the name (`flatten_words`).  No word is empty, so
the first word starts with the first letter or digit.
-/
import Mathlib.Tactic.Common
import ClassGen.Naming.Words

namespace ClassGen

open Text

/-- A piece that is not empty is cut into words that give it back. -/
lemma flatten_wordsFrom {last : LastCase} {word cs : List Char} (hcs : cs ≠ []) :
    (wordsFrom last word cs).flatten = word.reverse ++ cs := by
  -- what is read of the current word stands reversed in `word`
  induction last, word, cs using wordsFrom.induct with
  | case1 => exact absurd rfl hcs
  | case2 last word c => simp [wordsFrom]
  | case3 last word c next rest hcut ih =>
    rw [wordsFrom, if_pos hcut, List.flatten_cons, ih (by simp)]
    simp
  | case4 last word c next rest hno hcut ih =>
    rw [wordsFrom, if_neg hno, if_pos hcut, List.flatten_cons, ih (by simp)]
    simp
  | case5 last word c next rest hno hno' ih =>
    rw [wordsFrom, if_neg hno, if_neg hno', ih (by simp)]
    simp

lemma flatten_pieces (cs : List Char) : (pieces cs).flatten = cs.filter isAlphanumeric := by
  induction cs with
  | nil => rfl
  | cons c cs ih =>
    rw [pieces]
    split
    · rename_i hc
      rw [List.filter_cons_of_pos hc, ← ih]
      split
      · rename_i hpieces
        simp [hpieces]
      · rename_i first rest hpieces
        simp [hpieces]
    · rename_i hc
      rw [List.filter_cons_of_neg hc, List.flatten_cons, ih, List.nil_append]

/-- **The words of a text are its letters and digits, in order.** -/
lemma flatten_words (cs : List Char) : (words cs).flatten = cs.filter isAlphanumeric := by
  have hpiece : ∀ piece : List Char, (wordsFrom .neither [] piece).flatten = piece := by
    intro piece
    cases piece with
    | nil => rfl
    | cons c rest => exact flatten_wordsFrom (by simp)
  rw [← flatten_pieces, words]
  induction pieces cs with
  | nil => rfl
  | cons piece rest ih =>
    rw [List.flatMap_cons, List.flatten_append, hpiece, ih, List.flatten_cons]

/-- A word is cut off only after one of its characters has been read. -/
lemma ne_nil_of_mem_wordsFrom {last : LastCase} {word cs w : List Char}
    (hlast : last = .upper → word ≠ []) (hw : w ∈ wordsFrom last word cs) : w ≠ [] := by
  induction last, word, cs using wordsFrom.induct generalizing w with
  | case1 => simp [wordsFrom] at hw
  | case2 last word c =>
    rw [wordsFrom, List.mem_singleton] at hw
    simp [hw]
  | case3 last word c next rest hcut ih =>
    rw [wordsFrom, if_pos hcut] at hw
    rcases List.mem_cons.1 hw with rfl | hw
    · simp
    · exact ih (by simp) hw
  | case4 last word c next rest hno hcut ih =>
    rw [wordsFrom, if_neg hno, if_pos hcut] at hw
    rcases List.mem_cons.1 hw with rfl | hw
    · simpa using hlast hcut.1
    · exact ih (by simp) hw
  | case5 last word c next rest hno hno' ih =>
    rw [wordsFrom, if_neg hno, if_neg hno'] at hw
    exact ih (by simp) hw

lemma ne_nil_of_mem_words {cs word : List Char} (h : word ∈ words cs) : word ≠ [] := by
  obtain ⟨piece, -, hword⟩ := List.mem_flatMap.1 h
  exact ne_nil_of_mem_wordsFrom (by simp) hword

/-- Either a text has neither letters nor digits, and no words, or its first word starts with the
first of them. -/
lemma words_cases (cs : List Char) :
    (words cs = [] ∧ cs.find? isAlphanumeric = none) ∨
      ∃ c word rest, words cs = (c :: word) :: rest ∧ cs.find? isAlphanumeric = some c := by
  have hflatten := flatten_words cs
  have hfirst : (cs.filter isAlphanumeric).head? = cs.find? isAlphanumeric := List.head?_filter
  rcases hwords : words cs with _ | ⟨first, rest⟩
  · left
    rw [hwords] at hflatten
    rw [← hfirst, ← hflatten]
    exact ⟨rfl, rfl⟩
  · right
    have hmem : first ∈ words cs := by
      rw [hwords]
      exact List.mem_cons_self
    obtain ⟨c, word, rfl⟩ := List.exists_cons_of_ne_nil (ne_nil_of_mem_words hmem)
    refine ⟨c, word, rest, rfl, ?_⟩
    rw [← hfirst, ← hflatten, hwords]
    rfl

end ClassGen
