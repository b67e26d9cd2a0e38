/-
# The members of an ascending list

An ascending list has the members of the list that it was made from, as long as its order tells
any two values apart.  The order of class names and the order of texts both do.  Such a list is
determined by its members (`Ascending.IsOrder.eq_of_mem_iff`), so neither their order in the
original list nor how often they stand there matters.
-/
import Mathlib.Data.List.Sort
import Mathlib.Tactic.Common
import ClassGen.Ascending
import ClassGen.Model.ClassName

namespace ClassGen

namespace Ascending

variable {α : Type} {lt : α → α → Bool}

lemma mem_insert (hlt : ∀ a b, lt a b = false → lt b a = false → a = b) {a b : α}
    {bs : List α} : b ∈ insert lt a bs ↔ b = a ∨ b ∈ bs := by
  induction bs with
  | nil => simp [insert]
  | cons c cs ih =>
    simp only [insert]
    split
    · simp
    · rename_i hac
      split
      · rw [List.mem_cons, ih, List.mem_cons]
        tauto
      · rename_i hca
        have hac' : a = c := hlt a c (by simpa using hac) (by simpa using hca)
        subst hac'
        simp

lemma mem_ofList (hlt : ∀ a b, lt a b = false → lt b a = false → a = b) {b : α}
    {as : List α} : b ∈ ofList lt as ↔ b ∈ as := by
  induction as with
  | nil => simp [ofList]
  | cons a as ih =>
    have hcons : ofList lt (a :: as) = insert lt a (ofList lt as) := rfl
    rw [hcons, mem_insert hlt, ih, List.mem_cons]

/-- The order is irreflexive and transitive, and tells any two values apart. -/
structure IsOrder (lt : α → α → Bool) : Prop where
  irrefl : ∀ a, lt a a ≠ true
  trans : ∀ a b c, lt a b = true → lt b c = true → lt a c = true
  eq_of_not_lt : ∀ a b, lt a b = false → lt b a = false → a = b

namespace IsOrder

lemma lt_or_eq_or_gt (h : IsOrder lt) (a b : α) : lt a b = true ∨ a = b ∨ lt b a = true := by
  cases hab : lt a b with
  | true => exact Or.inl rfl
  | false =>
    cases hba : lt b a with
    | true => exact Or.inr (Or.inr rfl)
    | false => exact Or.inr (Or.inl (h.eq_of_not_lt a b hab hba))

lemma pairwise_insert (h : IsOrder lt) (a : α) {bs : List α}
    (hbs : bs.Pairwise fun x y => lt x y = true) :
    (insert lt a bs).Pairwise fun x y => lt x y = true := by
  induction bs with
  | nil => simp [insert]
  | cons b bs ih =>
    obtain ⟨hfirst, hrest⟩ := List.pairwise_cons.1 hbs
    simp only [insert]
    split
    · rename_i hab
      refine List.pairwise_cons.2 ⟨List.forall_mem_cons.2 ⟨hab, fun c hc => ?_⟩, hbs⟩
      exact h.trans a b c hab (hfirst c hc)
    · split
      · rename_i hba
        refine List.pairwise_cons.2 ⟨fun c hc => ?_, ih hrest⟩
        rcases (mem_insert h.eq_of_not_lt).1 hc with rfl | hc
        · exact hba
        · exact hfirst c hc
      · exact hbs

lemma pairwise_ofList (h : IsOrder lt) (as : List α) :
    (ofList lt as).Pairwise fun x y => lt x y = true := by
  induction as with
  | nil => exact List.Pairwise.nil
  | cons a as ih => exact h.pairwise_insert a ih

/-- An ascending list is determined by its members. -/
lemma eq_of_mem_iff (h : IsOrder lt) {as bs : List α}
    (has : as.Pairwise fun x y => lt x y = true) (hbs : bs.Pairwise fun x y => lt x y = true)
    (hmem : ∀ a, a ∈ as ↔ a ∈ bs) : as = bs := by
  have hirrefl : Std.Irrefl fun x y => lt x y = true := ⟨h.irrefl⟩
  have hantisymm : Std.Antisymm fun x y => lt x y = true :=
    ⟨fun a b hab hba => absurd (h.trans a b a hab hba) (h.irrefl a)⟩
  exact has.eq_of_mem_iff hbs hmem

end IsOrder

end Ascending

lemma eq_of_not_string_lt (s t : String) (hst : decide (s < t) = false)
    (hts : decide (t < s) = false) : s = t := by
  have hts' : s ≤ t := String.not_lt.1 (by simpa using hts)
  have hst' : t ≤ s := String.not_lt.1 (by simpa using hst)
  exact String.le_antisymm hts' hst'

lemma ClassName.eq_of_not_lt (a b : ClassName) (hab : lt a b = false) (hba : lt b a = false) :
    a = b := by
  simp only [lt, Bool.or_eq_false_iff, Bool.and_eq_false_iff] at hab hba
  have hpackage : a.package = b.package := eq_of_not_string_lt _ _ hab.1 hba.1
  refine ClassName.ext hpackage (eq_of_not_string_lt _ _ ?_ ?_)
  · simpa [hpackage] using hab.2
  · simpa [hpackage] using hba.2

lemma ClassName.lt_iff {a b : ClassName} :
    lt a b = true ↔ a.package < b.package ∨ a.package = b.package ∧ a.simple < b.simple := by
  simp [lt]

lemma isOrder_string_lt : Ascending.IsOrder fun s t : String => decide (s < t) where
  irrefl s := by simp
  trans s t u hst htu := by
    simp only [decide_eq_true_eq] at hst htu ⊢
    exact String.lt_trans hst htu
  eq_of_not_lt := eq_of_not_string_lt

lemma ClassName.isOrder_lt : Ascending.IsOrder lt where
  irrefl a := by simp [lt_iff]
  trans a b c hab hbc := by
    rw [lt_iff] at hab hbc ⊢
    rcases hab with hab | ⟨hab, hab'⟩ <;> rcases hbc with hbc | ⟨hbc, hbc'⟩
    · exact Or.inl (String.lt_trans hab hbc)
    · exact Or.inl (hbc ▸ hab)
    · exact Or.inl (hab ▸ hbc)
    · exact Or.inr ⟨hab.trans hbc, String.lt_trans hab' hbc'⟩
  eq_of_not_lt := eq_of_not_lt

end ClassGen
