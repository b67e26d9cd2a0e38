/-
# Which types are written alike

A written type shows simple names only, so it leaves open of which packages its classes are, and
whether a word is the keyword of a primitive type or the name of a class.  It shows everything
else: as long as simple names are made of characters of names, two types have one text exactly when
they have the same shape and the same words (`TypeRef.render_eq_iff_alike`).

What is read back from a text is a type with whatever follows it.  Brackets stand after a type, so
those of an array are counted together with those that follow.
-/
import Mathlib.Logic.Function.Iterate
import ClassGen.Proofs.Naming.Characters
import ClassGen.Proofs.TypeRef.Parse

namespace ClassGen

namespace ClassName

/-- The classes have one simple name. -/
def Namesakes (a b : ClassName) : Prop := a.simple = b.simple

/-- The simple name is made of characters of names. -/
def IsWordy (a : ClassName) : Prop := ∀ c ∈ a.simple.toList, isNameChar c = true

instance (a : ClassName) : Decidable a.IsWordy :=
  decidable_of_iff (a.simple.toList.all isNameChar = true) List.all_eq_true

end ClassName

namespace TypeRef

/-- The types have the same shape and are made of the same words, where a class without arguments
may be called by the keyword of a primitive type.  The class names at the same positions are
related by `R`. -/
inductive Alike (R : ClassName → ClassName → Prop) : TypeRef → TypeRef → Prop
  | primitive (p : Primitive) : Alike R (.primitive p) (.primitive p)
  | primitiveName {p : Primitive} {a : ClassName} : a.simple = p.keyword →
      Alike R (.primitive p) (.named a [])
  | namePrimitive {p : Primitive} {a : ClassName} : a.simple = p.keyword →
      Alike R (.named a []) (.primitive p)
  | named {a b : ClassName} {as bs : List TypeRef} : R a b → List.Forall₂ (Alike R) as bs →
      Alike R (.named a as) (.named b bs)
  | array {t u : TypeRef} : Alike R t u → Alike R (.array t) (.array u)

/-- So many pairs of brackets. -/
def brackets (k : Nat) : List Char := (List.replicate k ['[', ']']).flatten

/-- The characters do not go on with a word, with type arguments or with brackets. -/
def Ends (rest : List Char) : Prop :=
  ∀ c ∈ rest.head?, isNameChar c = false ∧ c ≠ '<' ∧ c ≠ '['

/-- The type is written as that word alone. -/
inductive IsWord : TypeRef → List Char → Prop
  | primitive (p : Primitive) : IsWord (.primitive p) p.keyword.toList
  | named (a : ClassName) : IsWord (.named a []) a.simple.toList

variable {R S : ClassName → ClassName → Prop} {t u arg : TypeRef} {args ts us : List TypeRef}
  {a b : ClassName} {k l : Nat} {word word' rest rest' : List Char}

/-! ### Alike types have one text -/

mutual

lemma Alike.render_eq (hR : ∀ a b, R a b → a.simple = b.simple) :
    ∀ {t u : TypeRef}, Alike R t u → t.render = u.render
  | _, _, .primitive _ => rfl
  | _, _, .primitiveName hword => by rw [render, render, hword]
  | _, _, .namePrimitive hword => by rw [render, render, hword]
  | _, _, .named hname .nil => by rw [render, render, hR _ _ hname]
  | _, _, .named hname (.cons harg hargs) => by
    rw [render, render, hR _ _ hname, harg.render_eq hR, Alike.renderRest_eq hR hargs]
  | _, _, .array h => by rw [render, render, h.render_eq hR]

lemma Alike.renderRest_eq (hR : ∀ a b, R a b → a.simple = b.simple) :
    ∀ {ts us : List TypeRef}, List.Forall₂ (Alike R) ts us → renderRest ts = renderRest us
  | _, _, .nil => rfl
  | _, _, .cons h hs => by
    rw [renderRest, renderRest, h.render_eq hR, Alike.renderRest_eq hR hs]

end

mutual

/-- Only the relation between names that stand in the types counts. -/
lemma Alike.imp : ∀ {t u : TypeRef}, (∀ a ∈ t.classNames, ∀ b ∈ u.classNames, R a b → S a b) →
    Alike R t u → Alike S t u
  | _, _, _, .primitive p => .primitive p
  | _, _, _, .primitiveName hword => .primitiveName hword
  | _, _, _, .namePrimitive hword => .namePrimitive hword
  | _, _, himp, .named hname hargs => by
    simp only [classNames, List.forall_mem_cons] at himp
    obtain ⟨⟨hfirst, -⟩, hrest⟩ := himp
    exact .named (hfirst hname) (Alike.impAll (fun a ha => (hrest a ha).2) hargs)
  | _, _, himp, .array h => .array (h.imp himp)

lemma Alike.impAll : ∀ {ts us : List TypeRef},
    (∀ a ∈ classNamesAll ts, ∀ b ∈ classNamesAll us, R a b → S a b) →
    List.Forall₂ (Alike R) ts us → List.Forall₂ (Alike S) ts us
  | _, _, _, .nil => .nil
  | _, _, himp, .cons h hs => by
    simp only [classNamesAll, List.forall_mem_append] at himp
    obtain ⟨hfirst, hrest⟩ := himp
    exact .cons (h.imp fun a ha => (hfirst a ha).1) (Alike.impAll (fun a ha => (hrest a ha).2) hs)

end

/-! ### Words and brackets -/

lemma brackets_succ (k : Nat) : brackets (k + 1) = '[' :: ']' :: brackets k := rfl

/-- After a word come brackets, or what ends the type. -/
lemma head?_brackets_append (hrest : Ends rest) (k : Nat) :
    ∀ c ∈ (brackets k ++ rest).head?, isNameChar c = false ∧ c ≠ '<' := by
  cases k with
  | zero =>
    intro c hc
    exact ⟨(hrest c hc).1, (hrest c hc).2.1⟩
  | succ k =>
    intro c hc
    obtain rfl : '[' = c := by simpa [brackets_succ] using hc
    decide

lemma not_ends_bracket (cs : List Char) : ¬ Ends ('[' :: cs) := by
  intro h
  obtain ⟨-, -, hne⟩ := h '[' rfl
  exact hne rfl

lemma brackets_append_inj (hrest : Ends rest) (hrest' : Ends rest')
    (h : brackets k ++ rest = brackets l ++ rest') : k = l ∧ rest = rest' := by
  induction k generalizing l with
  | zero =>
    cases l with
    | zero => exact ⟨rfl, h⟩
    | succ l =>
      have hbracket : rest = '[' :: ']' :: (brackets l ++ rest') := h
      rw [hbracket] at hrest
      exact absurd hrest (not_ends_bracket _)
  | succ k ih =>
    cases l with
    | zero =>
      have hbracket : rest' = '[' :: ']' :: (brackets k ++ rest) := h.symm
      rw [hbracket] at hrest'
      exact absurd hrest' (not_ends_bracket _)
    | succ l =>
      simp only [brackets_succ, List.cons_append, List.cons.injEq, true_and] at h
      obtain ⟨rfl, hrest_eq⟩ := ih h
      exact ⟨rfl, hrest_eq⟩

/-! ### The characters of a type -/

lemma toList_render_cons_append : (named a (arg :: args)).render.toList ++ rest =
    a.simple.toList ++ '<' :: (arg.render.toList ++ ((renderRest args).toList ++ '>' :: rest)) := by
  simp [render, String.toList_append]

lemma toList_renderRest_cons_append : (renderRest (t :: ts)).toList ++ rest =
    ',' :: ' ' :: (t.render.toList ++ ((renderRest ts).toList ++ rest)) := by
  simp [renderRest, String.toList_append]

/-- A type argument is followed by a comma or by the closing angle bracket. -/
lemma ends_renderRest_append (ts : List TypeRef) (rest : List Char) :
    Ends ((renderRest ts).toList ++ '>' :: rest) := by
  cases ts with
  | nil =>
    intro c hc
    obtain rfl : '>' = c := by simpa [renderRest] using hc
    decide
  | cons t ts =>
    intro c hc
    rw [toList_renderRest_cons_append] at hc
    obtain rfl : ',' = c := by simpa using hc
    decide

/-- The brackets of an array go together with those after it. -/
lemma toList_render_iterate_append (k l : Nat) (t : TypeRef) (rest : List Char) :
    (array^[k] t).render.toList ++ (brackets l ++ rest) =
      t.render.toList ++ (brackets (l + k) ++ rest) := by
  induction k generalizing t with
  | zero => rfl
  | succ k ih =>
    rw [Function.iterate_succ_apply, ih, render, String.toList_append, List.append_assoc,
      ← Nat.add_assoc, brackets_succ]
    rfl

lemma classNames_iterate (k : Nat) (t : TypeRef) : (array^[k] t).classNames = t.classNames := by
  induction k with
  | zero => rfl
  | succ k ih => rw [Function.iterate_succ_apply', classNames, ih]

/-- Every type is one that is no array with some brackets after it: a word, or a class with type
arguments. -/
lemma exists_iterate (t : TypeRef) : ∃ k base, t = array^[k] base ∧
    ((∃ word, IsWord base word) ∨ ∃ a arg args, base = named a (arg :: args)) := by
  induction t using TypeRef.rec (motive_2 := fun _ => True) with
  | primitive p => exact ⟨0, .primitive p, rfl, Or.inl ⟨_, .primitive p⟩⟩
  | named a args =>
    cases args with
    | nil => exact ⟨0, .named a [], rfl, Or.inl ⟨_, .named a⟩⟩
    | cons arg args => exact ⟨0, .named a (arg :: args), rfl, Or.inr ⟨a, arg, args, rfl⟩⟩
  | array element ih =>
    obtain ⟨k, base, rfl, hbase⟩ := ih
    exact ⟨k + 1, base, (Function.iterate_succ_apply' array k base).symm, hbase⟩
  | nil => trivial
  | cons => trivial

/-! ### Reading types back -/

lemma isNameChar_of_isWord (hword : IsWord t word) (ht : ∀ a ∈ t.classNames, a.IsWordy) :
    ∀ c ∈ word, isNameChar c = true := by
  cases hword with
  | primitive p =>
    rw [← List.all_eq_true]
    cases p <;> decide
  | named a => exact ht a List.mem_cons_self

lemma IsWord.toList_render (h : IsWord t word) : t.render.toList = word := by
  cases h <;> rw [render]

lemma IsWord.alike (ht : IsWord t word) (hu : IsWord u word) : Alike ClassName.Namesakes t u := by
  generalize hword : word = word' at hu
  cases ht with
  | primitive p =>
    cases hu with
    | primitive q =>
      have hpq : p.keyword = q.keyword := String.toList_inj.1 hword
      have hp := Primitive.ofKeyword?_eq_some_iff.2 hpq
      have hq := Primitive.ofKeyword?_eq_some_iff.2 (rfl : q.keyword = q.keyword)
      obtain rfl : p = q := Option.some.inj (hp.symm.trans hq)
      exact .primitive p
    | named b => exact .primitiveName (String.toList_inj.1 hword.symm)
  | named a =>
    cases hu with
    | primitive q => exact .namePrimitive (String.toList_inj.1 hword)
    | named b => exact .named (String.toList_inj.1 hword) .nil

lemma alike_iterate (h : Alike R t u) (k : Nat) : Alike R (array^[k] t) (array^[k] u) := by
  induction k with
  | zero => exact h
  | succ k ih =>
    rw [Function.iterate_succ_apply', Function.iterate_succ_apply']
    exact .array ih

/-- Brackets and what ends a type are no type arguments. -/
lemma word_append_ne (hword : ∀ c ∈ word, isNameChar c = true) (ha : a.IsWordy)
    (hrest : Ends rest) : word ++ (brackets k ++ rest) ≠ a.simple.toList ++ '<' :: rest' := by
  intro h
  have hstop := fun c hc => (head?_brackets_append hrest k c hc).1
  obtain ⟨-, hafter⟩ := word_append_inj hword ha hstop (by simp [isNameChar]) h
  have hangle : '<' ∈ (brackets k ++ rest).head? := by
    rw [hafter]
    rfl
  exact (head?_brackets_append hrest k '<' hangle).2 rfl

/-- A word and the brackets after it are read back, whatever type the other one is. -/
lemma alike_of_word_append (hword : IsWord t word) (ht : ∀ a ∈ t.classNames, a.IsWordy)
    (hu : ∀ a ∈ u.classNames, a.IsWordy) (hrest : Ends rest) (hrest' : Ends rest')
    (h : t.render.toList ++ (brackets k ++ rest) = u.render.toList ++ (brackets l ++ rest')) :
    Alike ClassName.Namesakes (array^[k] t) (array^[l] u) ∧ rest = rest' := by
  obtain ⟨n, base, rfl, hbase⟩ := exists_iterate u
  rw [classNames_iterate] at hu
  rw [toList_render_iterate_append, hword.toList_render] at h
  have hchars := isNameChar_of_isWord hword ht
  rcases hbase with ⟨word', hword'⟩ | ⟨b, arg, args, rfl⟩
  · have hchars' := isNameChar_of_isWord hword' hu
    have hstop := fun c hc => (head?_brackets_append hrest k c hc).1
    have hstop' := fun c hc => (head?_brackets_append hrest' (l + n) c hc).1
    rw [hword'.toList_render] at h
    obtain ⟨rfl, hafter⟩ := word_append_inj hchars hchars' hstop hstop' h
    obtain ⟨rfl, rfl⟩ := brackets_append_inj hrest hrest' hafter
    rw [← Function.iterate_add_apply]
    exact ⟨alike_iterate (hword.alike hword') (l + n), rfl⟩
  · rw [toList_render_cons_append] at h
    exact absurd h (word_append_ne hchars (hu b List.mem_cons_self) hrest)

mutual

/-- A type and what follows it are read back from the text, up to the packages of the classes. -/
lemma alike_of_append : ∀ {t u : TypeRef} {k l : Nat} {rest rest' : List Char},
    (∀ a ∈ t.classNames, a.IsWordy) → (∀ a ∈ u.classNames, a.IsWordy) → Ends rest → Ends rest' →
    t.render.toList ++ (brackets k ++ rest) = u.render.toList ++ (brackets l ++ rest') →
    Alike ClassName.Namesakes (array^[k] t) (array^[l] u) ∧ rest = rest'
  | primitive p, _, _, _, _, _, ht, hu, hrest, hrest', h =>
    alike_of_word_append (.primitive p) ht hu hrest hrest' h
  | named a [], _, _, _, _, _, ht, hu, hrest, hrest', h =>
    alike_of_word_append (.named a) ht hu hrest hrest' h
  | named a (arg :: args), u, k, l, rest, rest', ht, hu, hrest, hrest', h => by
    obtain ⟨n, base, rfl, hbase⟩ := exists_iterate u
    rw [classNames_iterate] at hu
    rw [toList_render_iterate_append, toList_render_cons_append] at h
    rcases hbase with ⟨word, hword⟩ | ⟨b, arg', args', rfl⟩
    · rw [hword.toList_render] at h
      have hchars := isNameChar_of_isWord hword hu
      exact absurd h.symm (word_append_ne hchars (ht a List.mem_cons_self) hrest')
    · rw [toList_render_cons_append] at h
      simp only [classNames, classNamesAll, List.forall_mem_cons, List.forall_mem_append] at ht hu
      obtain ⟨ha, harg, hargs⟩ := ht
      obtain ⟨hb, harg', hargs'⟩ := hu
      obtain ⟨hname, hafter⟩ :=
        word_append_inj ha hb (by simp [isNameChar]) (by simp [isNameChar]) h
      rw [List.cons.injEq] at hafter
      obtain ⟨hfirst, hmore⟩ := alike_of_append (k := 0) (l := 0) harg harg'
        (ends_renderRest_append args _) (ends_renderRest_append args' _) hafter.2
      obtain ⟨hothers, hbrackets⟩ := alikeAll_of_append hargs hargs' hmore
      obtain ⟨rfl, rfl⟩ := brackets_append_inj hrest hrest' hbrackets
      rw [← Function.iterate_add_apply]
      exact ⟨alike_iterate (.named (String.toList_inj.1 hname) (.cons hfirst hothers)) _, rfl⟩
  | array t, u, k, l, rest, rest', ht, hu, hrest, hrest', h => by
    rw [render, String.toList_append, List.append_assoc] at h
    exact alike_of_append (t := t) (k := k + 1) ht hu hrest hrest' h

lemma alikeAll_of_append : ∀ {ts us : List TypeRef} {rest rest' : List Char},
    (∀ a ∈ classNamesAll ts, a.IsWordy) → (∀ a ∈ classNamesAll us, a.IsWordy) →
    (renderRest ts).toList ++ '>' :: rest = (renderRest us).toList ++ '>' :: rest' →
    List.Forall₂ (Alike ClassName.Namesakes) ts us ∧ rest = rest'
  | [], [], _, _, _, _, h => ⟨.nil, (List.cons.inj h).2⟩
  | [], u :: us, _, _, _, _, h => by
    rw [toList_renderRest_cons_append] at h
    exact absurd (List.cons.inj h).1 (by decide)
  | t :: ts, [], _, _, _, _, h => by
    rw [toList_renderRest_cons_append] at h
    exact absurd (List.cons.inj h).1 (by decide)
  | t :: ts, u :: us, rest, rest', hts, hus, h => by
    simp only [classNamesAll, List.forall_mem_append] at hts hus
    rw [toList_renderRest_cons_append, toList_renderRest_cons_append, List.cons.injEq,
      List.cons.injEq] at h
    obtain ⟨hfirst, hmore⟩ := alike_of_append (k := 0) (l := 0) hts.1 hus.1
      (ends_renderRest_append ts rest) (ends_renderRest_append us rest') h.2.2
    obtain ⟨hothers, hrest⟩ := alikeAll_of_append hts.2 hus.2 hmore
    exact ⟨.cons hfirst hothers, hrest⟩

end

/-- **Two types have one text exactly when they have the same shape and the same words.** -/
lemma render_eq_iff_alike (ht : ∀ a ∈ t.classNames, a.IsWordy)
    (hu : ∀ a ∈ u.classNames, a.IsWordy) :
    t.render = u.render ↔ Alike ClassName.Namesakes t u := by
  constructor
  · intro h
    have hnil : Ends [] := by simp [Ends]
    exact (alike_of_append (k := 0) (l := 0) ht hu hnil hnil (by rw [h])).1
  · exact Alike.render_eq fun a b hab => hab

lemma map_render_eq_iff_alike (hts : ∀ a ∈ classNamesAll ts, a.IsWordy)
    (hus : ∀ a ∈ classNamesAll us, a.IsWordy) :
    ts.map render = us.map render ↔ List.Forall₂ (Alike ClassName.Namesakes) ts us := by
  induction ts generalizing us with
  | nil => simp [eq_comm]
  | cons t ts ih =>
    cases us with
    | nil => simp
    | cons u us =>
      simp only [classNamesAll, List.forall_mem_append] at hts hus
      rw [List.map_cons, List.map_cons, List.cons.injEq, render_eq_iff_alike hts.1 hus.1,
        ih hts.2 hus.2, List.forall₂_cons]

end TypeRef

end ClassGen
