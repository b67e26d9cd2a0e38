/-
# The tokens of a spelling

Cutting a text into tokens passes over blanks, takes a longest run of characters of words as one
token, and any other character as a token of its own.  `TypeRef.scan_cases` reads these rules
backwards: it tells from the first token how the text starts.
-/
import Mathlib.Data.List.TakeWhile
import ClassGen.Proofs.Text.Blank
import ClassGen.Proofs.TypeRef.Grammar

namespace ClassGen.TypeRef

open Text TypeToken

lemma isWordChar_of_isBlank {c : Char} (h : isBlank c = true) : isWordChar c = false := by
  have hdot : c ≠ '.' := by
    rintro rfl
    exact absurd h (by decide)
  simp [isWordChar, isIdentifierPart_of_isBlank h, hdot]

lemma isBlank_of_isWordChar {c : Char} (h : isWordChar c = true) : isBlank c = false := by
  by_contra hblank
  rw [isWordChar_of_isBlank (by simpa using hblank)] at h
  exact absurd h (by simp)

@[simp] lemma blanks_nil : Blanks [] := by simp [Blanks]

lemma blanks_cons {c : Char} {ws : List Char} :
    Blanks (c :: ws) ↔ isBlank c = true ∧ Blanks ws := by
  simp [Blanks]

@[simp] lemma stops_nil : Stops [] := by simp [Stops]

@[simp] lemma stops_cons {c : Char} {cs : List Char} :
    Stops (c :: cs) ↔ isWordChar c = false := by
  simp [Stops]

/-- Blanks end a word, and so does a mark after them. -/
lemma stops_blanks_append {ws cs : List Char} (hws : Blanks ws) (hcs : Stops cs) :
    Stops (ws ++ cs) := by
  cases ws with
  | nil => exact hcs
  | cons w ws => exact stops_cons.2 (isWordChar_of_isBlank (blanks_cons.1 hws).1)

/-! ### From characters to tokens -/

@[simp] lemma scan_nil : scan [] = [] := rfl

lemma scan_mark {c : Char} {cs : List Char} (hword : isWordChar c = false)
    (hblank : isBlank c = false) : scan (c :: cs) = mark c :: scan cs := by
  simp [scan, scanFrom, ofReversed, hword, hblank]

lemma scan_blanks_append {ws cs : List Char} (hws : Blanks ws) : scan (ws ++ cs) = scan cs := by
  induction ws with
  | nil => rfl
  | cons w ws ih =>
    obtain ⟨hw, hws⟩ := blanks_cons.1 hws
    have hskip : scan (w :: (ws ++ cs)) = scan (ws ++ cs) := by
      simp [scan, scanFrom, ofReversed, isWordChar_of_isBlank hw, hw]
    rw [List.cons_append, hskip, ih hws]

lemma scan_eq_nil_of_blanks {ws : List Char} (hws : Blanks ws) : scan ws = [] := by
  have hscan : scan (ws ++ []) = scan [] := scan_blanks_append hws
  rwa [List.append_nil] at hscan

lemma scanFrom_word_append {read word rest : List Char} (hword : ∀ c ∈ word, isWordChar c = true) :
    scanFrom read (word ++ rest) = scanFrom (word.reverse ++ read) rest := by
  induction word generalizing read with
  | nil => rfl
  | cons c cs ih =>
    obtain ⟨hc, hcs⟩ := List.forall_mem_cons.1 hword
    rw [List.cons_append, scanFrom, if_pos hc, ih hcs, List.reverse_cons, List.append_assoc]
    rfl

lemma scanFrom_of_stops {read rest : List Char} (hrest : Stops rest) :
    scanFrom read rest = ofReversed read ++ scan rest := by
  cases rest with
  | nil => simp [scanFrom]
  | cons c cs =>
    have hc : isWordChar c = false := stops_cons.1 hrest
    by_cases hblank : isBlank c = true <;> simp [scan, scanFrom, ofReversed, hc, hblank]

lemma scan_word_append {word rest : List Char} (hne : word ≠ [])
    (hword : ∀ c ∈ word, isWordChar c = true) (hrest : Stops rest) :
    scan (word ++ rest) = .word word :: scan rest := by
  have hempty : word.reverse.isEmpty = false := by simpa using hne
  rw [scan, scanFrom_word_append hword, List.append_nil, scanFrom_of_stops hrest, ofReversed,
    hempty]
  simp

/-! ### From the first token to the characters -/

/-- A text is all blanks and has no tokens, or starts, after blanks, with its first token: a
longest run of characters of words, or a mark. -/
lemma scan_cases (cs : List Char) :
    (Blanks cs ∧ scan cs = []) ∨
      (∃ ws word rest, cs = ws ++ (word ++ rest) ∧ Blanks ws ∧
        (∀ c ∈ word, isWordChar c = true) ∧ Stops rest ∧ scan cs = .word word :: scan rest) ∨
      ∃ ws c rest, cs = ws ++ c :: rest ∧ Blanks ws ∧ scan cs = mark c :: scan rest := by
  induction cs with
  | nil => exact Or.inl ⟨blanks_nil, rfl⟩
  | cons c cs ih =>
    by_cases hword : isWordChar c = true
    · -- the longest run that starts here is the first token
      right
      left
      have hrun : ∀ d ∈ c :: cs.takeWhile isWordChar, isWordChar d = true := by
        intro d hd
        rcases List.mem_cons.1 hd with rfl | hd
        · exact hword
        · exact List.mem_takeWhile_imp hd
      have hstops : Stops (cs.dropWhile isWordChar) := by
        have hhead := List.head?_dropWhile_not isWordChar cs
        intro d hd
        rw [Option.mem_def] at hd
        simpa [hd] using hhead
      have hcs : c :: cs = (c :: cs.takeWhile isWordChar) ++ cs.dropWhile isWordChar := by
        rw [List.cons_append, List.takeWhile_append_dropWhile]
      refine ⟨[], c :: cs.takeWhile isWordChar, cs.dropWhile isWordChar, hcs, blanks_nil, hrun,
        hstops, ?_⟩
      rw [← scan_word_append (by simp) hrun hstops, ← hcs]
    · by_cases hblank : isBlank c = true
      · have hone : Blanks [c] := blanks_cons.2 ⟨hblank, blanks_nil⟩
        have hskip : scan (c :: cs) = scan cs := scan_blanks_append hone
        rw [hskip]
        rcases ih with ⟨hcs, hscan⟩ | ⟨ws, word, rest, rfl, hws, h⟩ | ⟨ws, d, rest, rfl, hws, h⟩
        · exact Or.inl ⟨blanks_cons.2 ⟨hblank, hcs⟩, hscan⟩
        · exact Or.inr (Or.inl ⟨c :: ws, word, rest, rfl, blanks_cons.2 ⟨hblank, hws⟩, h⟩)
        · exact Or.inr (Or.inr ⟨c :: ws, d, rest, rfl, blanks_cons.2 ⟨hblank, hws⟩, h⟩)
      · exact Or.inr (Or.inr ⟨[], c, cs, rfl, blanks_nil,
          scan_mark (by simpa using hword) (by simpa using hblank)⟩)

end ClassGen.TypeRef
