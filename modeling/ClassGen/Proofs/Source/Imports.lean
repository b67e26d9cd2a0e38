/-
# What a class imports

The classes that a class imports are the mentioned ones that need an import.  A class that is
rendered has no two of them with one simple name, and none with its own simple name.
-/
import Mathlib.Data.List.Pairwise
import Mathlib.Tactic.Common
import ClassGen.Proofs.Ascending
import ClassGen.Source.File

namespace ClassGen

namespace ClassName

lemma needsImport_iff {package : String} {a : ClassName} :
    a.needsImport package = true ↔
      a.package ≠ "" ∧ a.package ≠ langPackage ∧ a.package ≠ package := by
  simp [needsImport, and_assoc]

/-- No clash: the names that are still to come differ in their simple names from one another and
from those that came first. -/
lemma clash?_eq_none_iff {seen as : List ClassName} :
    clash? seen as = none ↔
      (∀ s ∈ seen, ∀ a ∈ as, s.simple ≠ a.simple) ∧ as.Pairwise (·.simple ≠ ·.simple) := by
  induction as generalizing seen with
  | nil => simp [clash?]
  | cons a as ih =>
    simp only [clash?]
    split
    · rename_i first hfirst
      have hmem : first ∈ seen := List.mem_of_find?_eq_some hfirst
      have hsimple : first.simple = a.simple := by simpa using List.find?_some hfirst
      simp only [reduceCtorEq, false_iff, not_and]
      intro hseen
      exact absurd hsimple (hseen first hmem a List.mem_cons_self)
    · rename_i hnone
      have hhead : ∀ s ∈ seen, s.simple ≠ a.simple := by simpa using hnone
      rw [ih, List.pairwise_cons]
      simp only [List.forall_mem_cons]
      constructor
      · rintro ⟨⟨hfirst, hrest⟩, hpair⟩
        exact ⟨fun s hs => ⟨hhead s hs, hrest s hs⟩, hfirst, hpair⟩
      · rintro ⟨hseen, hfirst, hpair⟩
        exact ⟨⟨hfirst, fun s hs => (hseen s hs).2⟩, hpair⟩

end ClassName

namespace ClassDef

variable {c : ClassDef} {a b : ClassName}

lemma mem_imported :
    a ∈ c.imported ↔ a ∈ c.classNames ∧ a.needsImport c.name.package = true := by
  rw [imported, Ascending.mem_ofList ClassName.eq_of_not_lt, List.mem_filter]

lemma clash?_eq_none_of_render {comments : Bool} {text : String}
    (h : c.render comments = .ok text) : ClassName.clash? [c.name] c.imported = none := by
  simp only [render, imports] at h
  split at h
  · exact absurd h (by simp)
  · cases hclash : ClassName.clash? [c.name] c.imported with
    | none => rfl
    | some pair => simp [hclash] at h

/-- The class and its imports have simple names of their own. -/
lemma eq_of_simple_eq (h : ClassName.clash? [c.name] c.imported = none)
    (ha : a = c.name ∨ a ∈ c.imported) (hb : b = c.name ∨ b ∈ c.imported)
    (hab : a.simple = b.simple) : a = b := by
  obtain ⟨hown, hpair⟩ := ClassName.clash?_eq_none_iff.1 h
  have hown : ∀ i ∈ c.imported, c.name.simple ≠ i.simple := by simpa using hown
  rcases ha with rfl | ha <;> rcases hb with rfl | hb
  · rfl
  · exact absurd hab (hown b hb)
  · exact absurd hab.symm (hown a ha)
  · have hsymm : Std.Symm fun x y : ClassName => x.simple ≠ y.simple := ⟨fun _ _ h => h.symm⟩
    by_contra hne
    exact hpair.forall ha hb hne hab

end ClassDef

end ClassGen
