/-
# Where a class name is mentioned

A class mentions the class names that stand in its fields and methods, at any depth of a type or
an expression.  Mentioning is a relation of its own here; `ClassDef.mem_classNames` says that the
list of names that is collected from a class holds every mentioned name and no other.
-/
import Mathlib.Tactic.Common
import ClassGen.Model.Class

namespace ClassGen

/-- The class name stands in the type: it is its name, or it stands in a type argument or in the
elements of an array. -/
inductive TypeRef.Mentions (a : ClassName) : TypeRef → Prop
  | name {args : List TypeRef} : Mentions a (.named a args)
  | arg {b : ClassName} {args : List TypeRef} {t : TypeRef} :
      t ∈ args → Mentions a t → Mentions a (.named b args)
  | element {t : TypeRef} : Mentions a t → Mentions a (.array t)

/-- The class name stands in the expression: it owns the field or the method, it is constructed, or
it stands in an argument. -/
inductive Expr.Mentions (a : ClassName) : Expr → Prop
  | field {name : String} : Mentions a (.staticField a name)
  | construct {args : List Expr} : Mentions a (.construct a args)
  | constructArg {b : ClassName} {args : List Expr} {e : Expr} :
      e ∈ args → Mentions a e → Mentions a (.construct b args)
  | invoke {method : String} {args : List Expr} : Mentions a (.invoke a method args)
  | invokeArg {b : ClassName} {method : String} {args : List Expr} {e : Expr} :
      e ∈ args → Mentions a e → Mentions a (.invoke b method args)

/-- The class name stands in the result, the annotations, the parameters or the body of the
method. -/
inductive Method.Mentions (m : Method) (a : ClassName) : Prop
  | result : m.returnType.Mentions a → Mentions m a
  | marker : a ∈ m.annotations → Mentions m a
  | param {p : Param} : p ∈ m.params → p.type.Mentions a → Mentions m a
  | body {s : Statement} : s ∈ m.body → s.expr.Mentions a → Mentions m a

/-- The class name stands in a field or a method of the class. -/
inductive ClassDef.Mentions (c : ClassDef) (a : ClassName) : Prop
  | field {f : Field} : f ∈ c.fields → f.type.Mentions a → Mentions c a
  | method {m : Method} : m ∈ c.methods → m.Mentions a → Mentions c a

variable {a : ClassName}

namespace TypeRef

lemma mentions_named {b : ClassName} {args : List TypeRef} :
    Mentions a (.named b args) ↔ a = b ∨ ∃ t ∈ args, t.Mentions a := by
  constructor
  · intro h
    cases h with
    | name => exact Or.inl rfl
    | arg ht h => exact Or.inr ⟨_, ht, h⟩
  · rintro (rfl | ⟨t, ht, h⟩)
    · exact .name
    · exact .arg ht h

lemma mentions_array {t : TypeRef} : Mentions a (.array t) ↔ t.Mentions a := by
  constructor
  · intro h
    cases h with
    | element h => exact h
  · exact .element

mutual

lemma mem_classNames : ∀ t : TypeRef, a ∈ t.classNames ↔ t.Mentions a
  | primitive p => by
    refine iff_of_false List.not_mem_nil ?_
    intro h
    cases h
  | named b args => by
    rw [classNames, List.mem_cons, mem_classNamesAll args, mentions_named]
  | array t => by rw [classNames, mem_classNames t, mentions_array]

lemma mem_classNamesAll : ∀ ts : List TypeRef, a ∈ classNamesAll ts ↔ ∃ t ∈ ts, t.Mentions a
  | [] => by simp [classNamesAll]
  | t :: ts => by
    rw [classNamesAll, List.mem_append, mem_classNames t, mem_classNamesAll ts]
    simp

end

end TypeRef

namespace Expr

lemma mentions_staticField {b : ClassName} {name : String} :
    Mentions a (.staticField b name) ↔ a = b := by
  constructor
  · intro h
    cases h with
    | field => rfl
  · rintro rfl
    exact .field

lemma mentions_construct {b : ClassName} {args : List Expr} :
    Mentions a (.construct b args) ↔ a = b ∨ ∃ e ∈ args, e.Mentions a := by
  constructor
  · intro h
    cases h with
    | construct => exact Or.inl rfl
    | constructArg he h => exact Or.inr ⟨_, he, h⟩
  · rintro (rfl | ⟨e, he, h⟩)
    · exact .construct
    · exact .constructArg he h

lemma mentions_invoke {b : ClassName} {method : String} {args : List Expr} :
    Mentions a (.invoke b method args) ↔ a = b ∨ ∃ e ∈ args, e.Mentions a := by
  constructor
  · intro h
    cases h with
    | invoke => exact Or.inl rfl
    | invokeArg he h => exact Or.inr ⟨_, he, h⟩
  · rintro (rfl | ⟨e, he, h⟩)
    · exact .invoke
    · exact .invokeArg he h

mutual

lemma mem_classNames : ∀ e : Expr, a ∈ e.classNames ↔ e.Mentions a
  | this => by
    refine iff_of_false List.not_mem_nil ?_
    intro h
    cases h
  | var name => by
    refine iff_of_false List.not_mem_nil ?_
    intro h
    cases h
  | staticField b name => by rw [classNames, List.mem_singleton, mentions_staticField]
  | construct b args => by
    rw [classNames, List.mem_cons, mem_classNamesAll args, mentions_construct]
  | invoke b method args => by
    rw [classNames, List.mem_cons, mem_classNamesAll args, mentions_invoke]

lemma mem_classNamesAll : ∀ es : List Expr, a ∈ classNamesAll es ↔ ∃ e ∈ es, e.Mentions a
  | [] => by simp [classNamesAll]
  | e :: es => by
    rw [classNamesAll, List.mem_append, mem_classNames e, mem_classNamesAll es]
    simp

end

end Expr

lemma Method.mem_classNames {m : Method} : a ∈ m.classNames ↔ m.Mentions a := by
  simp only [classNames, List.mem_append, List.mem_flatMap, TypeRef.mem_classNames,
    Expr.mem_classNames]
  constructor
  · rintro (((h | h) | ⟨p, hp, h⟩) | ⟨s, hs, h⟩)
    · exact .result h
    · exact .marker h
    · exact .param hp h
    · exact .body hs h
  · intro h
    cases h with
    | result h => exact Or.inl (Or.inl (Or.inl h))
    | marker h => exact Or.inl (Or.inl (Or.inr h))
    | param hp h => exact Or.inl (Or.inr ⟨_, hp, h⟩)
    | body hs h => exact Or.inr ⟨_, hs, h⟩

/-- The names that are collected from a class are those that it mentions. -/
lemma ClassDef.mem_classNames {c : ClassDef} : a ∈ c.classNames ↔ c.Mentions a := by
  simp only [classNames, List.mem_append, List.mem_flatMap, TypeRef.mem_classNames,
    Method.mem_classNames]
  constructor
  · rintro (⟨f, hf, h⟩ | ⟨m, hm, h⟩)
    · exact .field hf h
    · exact .method hm h
  · intro h
    cases h with
    | field hf h => exact Or.inl ⟨_, hf, h⟩
    | method hm h => exact Or.inr ⟨_, hm, h⟩

end ClassGen
