/-
# Primitive types and the names in a type

Replacing the names of a type keeps all of its shape: `TypeRef.Aligned` compares two types name by
name, and what it relates are the names at the same positions.
-/
import Mathlib.Data.List.Forall2
import Mathlib.Tactic.Common
import ClassGen.Model.TypeRef

namespace ClassGen.TypeRef

lemma isVoid_iff {t : TypeRef} : t.isVoid = true ↔ t = primitive .void := by
  cases t with
  | primitive p => cases p <;> simp [isVoid]
  | named name args => simp [isVoid]
  | array element => simp [isVoid]

lemma isVoid_eq_false_iff {t : TypeRef} : t.isVoid = false ↔ t ≠ primitive .void := by
  rw [← Bool.not_eq_true, not_congr isVoid_iff]

lemma isPrimitive_eq_false_iff {t : TypeRef} : t.isPrimitive = false ↔ ∀ p, t ≠ primitive p := by
  cases t <;> simp [isPrimitive]

/-- The two types have the same shape and the same primitive types, and their class names are
related one by one. -/
inductive Aligned (R : ClassName → ClassName → Prop) : TypeRef → TypeRef → Prop
  | primitive (p : Primitive) : Aligned R (.primitive p) (.primitive p)
  | named {a b : ClassName} {as bs : List TypeRef} : R a b → List.Forall₂ (Aligned R) as bs →
      Aligned R (.named a as) (.named b bs)
  | array {t u : TypeRef} : Aligned R t u → Aligned R (.array t) (.array u)

variable {R : ClassName → ClassName → Prop}

mutual

lemma aligned_mapNames {f : ClassName → ClassName} (hf : ∀ a, R a (f a)) :
    ∀ t, Aligned R t (mapNames f t)
  | primitive p => .primitive p
  | named a args => .named (hf a) (aligned_mapNamesAll hf args)
  | array element => .array (aligned_mapNames hf element)

lemma aligned_mapNamesAll {f : ClassName → ClassName} (hf : ∀ a, R a (f a)) :
    ∀ ts, List.Forall₂ (Aligned R) ts (mapNamesAll f ts)
  | [] => .nil
  | t :: ts => .cons (aligned_mapNames hf t) (aligned_mapNamesAll hf ts)

end

mutual

/-- Aligned types have related names at the same positions. -/
lemma Aligned.classNames : ∀ {t u : TypeRef}, Aligned R t u →
    List.Forall₂ R t.classNames u.classNames
  | _, _, .primitive _ => .nil
  | _, _, .named hname hargs => .cons hname (Aligned.classNamesAll hargs)
  | _, _, .array helement => helement.classNames

lemma Aligned.classNamesAll : ∀ {ts us : List TypeRef}, List.Forall₂ (Aligned R) ts us →
    List.Forall₂ R (classNamesAll ts) (classNamesAll us)
  | _, _, .nil => .nil
  | _, _, .cons hfirst hrest =>
    List.rel_append hfirst.classNames (Aligned.classNamesAll hrest)

end

end ClassGen.TypeRef
