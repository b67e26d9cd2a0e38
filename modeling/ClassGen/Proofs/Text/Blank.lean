/-
# Blanks around a text

No blank character can stand in an identifier, so trimming leaves a text of such characters as it
is.  A text that was trimmed stays as it is, too.
-/
import Mathlib.Data.List.DropRight
import Mathlib.Tactic.Common
import ClassGen.Model.Identifier
import ClassGen.Text.Blank

namespace ClassGen.Text

/-- The code points of all blank characters. -/
def blankPoints : List Nat := [
  0x09, 0x0A, 0x0B, 0x0C, 0x0D, 0x20, 0x85, 0xA0, 0x1680, 0x2000, 0x2001, 0x2002, 0x2003, 0x2004,
  0x2005, 0x2006, 0x2007, 0x2008, 0x2009, 0x200A, 0x2028, 0x2029, 0x202F, 0x205F, 0x3000]

lemma toNat_mem_blankPoints {c : Char} (h : isBlank c = true) : c.toNat ∈ blankPoints := by
  unfold isBlank at h
  split at h
  · simp only [Bool.or_eq_true, beq_iff_eq, Bool.and_eq_true, decide_eq_true_eq] at h
    rcases h with rfl | h
    · decide
    · simp only [blankPoints, List.mem_cons, List.not_mem_nil]
      omega
  · simp only [Run.covers, blankRuns, Run.contains, Nat.mod_one, List.any_cons, List.any_nil,
      Bool.or_eq_true, Bool.and_eq_true, decide_eq_true_eq, beq_self_eq_true, and_true,
      Bool.false_eq_true, or_false] at h
    simp only [blankPoints, List.mem_cons, List.not_mem_nil]
    omega

/-- What holds of the characters with a blank code point holds of every blank character. -/
lemma forall_isBlank {p : Char → Bool} (hp : blankPoints.all (fun n => p (Char.ofNat n)) = true)
    {c : Char} (h : isBlank c = true) : p c = true := by
  have hc : p (Char.ofNat c.toNat) = true :=
    List.all_eq_true.1 hp c.toNat (toNat_mem_blankPoints h)
  rwa [Char.ofNat_toNat] at hc

lemma isIdentifierPart_of_isBlank {c : Char} (h : isBlank c = true) :
    isIdentifierPart c = false := by
  have hpart : (!isIdentifierPart c) = true :=
    forall_isBlank (p := fun c => !isIdentifierPart c) (by decide +kernel) h
  simpa using hpart

/-- Trimming leaves a text without blanks as it is. -/
lemma trimChars_of_forall_not_isBlank {cs : List Char} (h : ∀ c ∈ cs, isBlank c = false) :
    trimChars cs = cs := by
  have hdrop : ∀ ds : List Char, (∀ c ∈ ds, isBlank c = false) → ds.dropWhile isBlank = ds := by
    intro ds hds
    cases ds with
    | nil => rfl
    | cons d ds => simp [hds d List.mem_cons_self]
  rw [trimChars, hdrop cs h, hdrop cs.reverse (by simpa using h), List.reverse_reverse]

lemma dropWhile_eq_self_of_prefix {p : Char → Bool} {cs ds : List Char} (h : ds <+: cs)
    (hcs : cs.dropWhile p = cs) : ds.dropWhile p = ds := by
  rw [List.dropWhile_eq_self_iff] at hcs ⊢
  intro hpos
  rw [h.getElem hpos]
  exact hcs (hpos.trans_le h.length_le)

/-- A trimmed text is trimmed already. -/
lemma trimChars_trimChars (cs : List Char) : trimChars (trimChars cs) = trimChars cs := by
  have hprefix : trimChars cs <+: cs.dropWhile isBlank := List.rdropWhile_prefix isBlank _
  have hstart : (trimChars cs).dropWhile isBlank = trimChars cs :=
    dropWhile_eq_self_of_prefix hprefix (List.dropWhile_idempotent _ _)
  have hend : (trimChars cs).rdropWhile isBlank = trimChars cs := List.rdropWhile_idempotent _ _
  calc trimChars (trimChars cs) = ((trimChars cs).dropWhile isBlank).rdropWhile isBlank := rfl
    _ = trimChars cs := by rw [hstart, hend]

@[simp] lemma trim_trim (s : String) : trim (trim s) = trim s := by
  rw [trim, trim, String.toList_ofList, trimChars_trimChars]

end ClassGen.Text
