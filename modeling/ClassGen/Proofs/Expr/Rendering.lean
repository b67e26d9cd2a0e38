/-
# Which expressions are written alike

An expression is written with simple class names, so its text leaves open of which packages its
classes are.  It shows everything else.  When all names in it are identifiers and no reserved words,
two expressions have one text exactly when they differ in packages only
(`Expr.render_eq_iff_aligned`).

The text starts with a word.  What stands after that word tells apart a receiver or variable, an
access to a class, and a construction.  An argument is read back together with what follows it: a
comma or a parenthesis, which cannot go on with an expression.
-/
import ClassGen.Model.Expr
import ClassGen.Proofs.TypeRef.Rendering

namespace ClassGen

/-- The text can stand for a class, a variable or a member in the generated language. -/
structure ProperName (s : String) : Prop where
  identifier : isIdentifier s = true
  not_reserved : isReserved s = false

instance (s : String) : Decidable (ProperName s) :=
  decidable_of_iff (isIdentifier s = true ∧ isReserved s = false)
    ⟨fun h => ⟨h.1, h.2⟩, fun h => ⟨h.identifier, h.not_reserved⟩⟩

lemma ProperName.isNameChar {s : String} (h : ProperName s) :
    ∀ c ∈ s.toList, isNameChar c = true :=
  (isNameChar_of_isIdentifier h.identifier).2

namespace Expr

mutual

/-- The names that the expression is written with: simple names of classes, variables, fields and
methods. -/
def names : Expr → List String
  | this => []
  | var name => [name]
  | staticField owner field => [owner.simple, field]
  | construct cls args => cls.simple :: namesAll args
  | invoke owner method args => owner.simple :: method :: namesAll args

/-- The names that the expressions are written with. -/
def namesAll : List Expr → List String
  | [] => []
  | e :: es => names e ++ namesAll es

end

/-- The expressions have the same shape, the same variables and the same members, and their classes
at the same positions are related by `R`. -/
inductive Aligned (R : ClassName → ClassName → Prop) : Expr → Expr → Prop
  | this : Aligned R .this .this
  | var (name : String) : Aligned R (.var name) (.var name)
  | staticField {a b : ClassName} (field : String) : R a b →
      Aligned R (.staticField a field) (.staticField b field)
  | construct {a b : ClassName} {args args' : List Expr} : R a b →
      List.Forall₂ (Aligned R) args args' → Aligned R (.construct a args) (.construct b args')
  | invoke {a b : ClassName} (method : String) {args args' : List Expr} : R a b →
      List.Forall₂ (Aligned R) args args' →
      Aligned R (.invoke a method args) (.invoke b method args')

/-- The characters do not go on with an expression: it is at its end, or an argument or a
statement is. -/
def Ends (rest : List Char) : Prop := ∀ c ∈ rest.head?, c ∈ [',', ')', ';']

/-- The word that the expression starts with. -/
def first : Expr → String
  | this => "this"
  | var name => name
  | staticField owner _ => owner.simple
  | construct _ _ => "new"
  | invoke owner _ _ => owner.simple

/-- What stands after that word. -/
def others : Expr → List Char
  | this => []
  | var _ => []
  | staticField _ field => '.' :: field.toList
  | construct cls args => ' ' :: (cls.simple.toList ++ '(' :: ((renderAll args).toList ++ [')']))
  | invoke _ method args => '.' :: (method.toList ++ '(' :: ((renderAll args).toList ++ [')']))

variable {R : ClassName → ClassName → Prop} {e e' : Expr} {es es' args : List Expr}
  {a : ClassName} {name field method : String} {rest rest' : List Char}

/-! ### Aligned expressions have one text -/

mutual

lemma Aligned.render_eq (hR : ∀ a b, R a b → a.simple = b.simple) :
    ∀ {e e' : Expr}, Aligned R e e' → e.render = e'.render
  | _, _, .this => rfl
  | _, _, .var _ => rfl
  | _, _, .staticField _ hname => by rw [render, render, hR _ _ hname]
  | _, _, .construct hname hargs => by
    rw [render, render, hR _ _ hname, Aligned.renderAll_eq hR hargs]
  | _, _, .invoke _ hname hargs => by
    rw [render, render, hR _ _ hname, Aligned.renderAll_eq hR hargs]

lemma Aligned.renderAll_eq (hR : ∀ a b, R a b → a.simple = b.simple) :
    ∀ {es es' : List Expr}, List.Forall₂ (Aligned R) es es' → renderAll es = renderAll es'
  | _, _, .nil => rfl
  | _, _, .cons h hs => by
    rw [renderAll, renderAll, h.render_eq hR, Aligned.renderRest_eq hR hs]

lemma Aligned.renderRest_eq (hR : ∀ a b, R a b → a.simple = b.simple) :
    ∀ {es es' : List Expr}, List.Forall₂ (Aligned R) es es' → renderRest es = renderRest es'
  | _, _, .nil => rfl
  | _, _, .cons h hs => by
    rw [renderRest, renderRest, h.render_eq hR, Aligned.renderRest_eq hR hs]

end

/-! ### The first word and the mark after it -/

lemma toList_render (e : Expr) : e.render.toList = e.first.toList ++ e.others := by
  cases e <;> simp [render, first, others, String.toList_append]

/-- The first word is a keyword or a name. -/
lemma first_word (he : ∀ x ∈ e.names, ProperName x) :
    e.first.toList ≠ [] ∧ ∀ c ∈ e.first.toList, isNameChar c = true := by
  cases e with
  | this =>
    rw [first, ← List.all_eq_true]
    decide
  | var name => exact isNameChar_of_isIdentifier (he name (by simp [names])).identifier
  | staticField a field =>
    exact isNameChar_of_isIdentifier (he a.simple (by simp [names])).identifier
  | construct a args =>
    rw [first, ← List.all_eq_true]
    decide
  | invoke a method args =>
    exact isNameChar_of_isIdentifier (he a.simple (by simp [names])).identifier

/-- After the first word the expression ends, or a dot or a space stands there. -/
lemma others_cases (e : Expr) : e.others = [] ∨ ∃ c cs, e.others = c :: cs ∧ c ∈ ['.', ' '] := by
  cases e with
  | this => exact Or.inl rfl
  | var name => exact Or.inl rfl
  | staticField a field => exact Or.inr ⟨_, _, rfl, by simp⟩
  | construct a args => exact Or.inr ⟨_, _, rfl, by simp⟩
  | invoke a method args => exact Or.inr ⟨_, _, rfl, by simp⟩

lemma not_ends_cons {c : Char} {cs : List Char} (hc : c ∉ [',', ')', ';']) : ¬ Ends (c :: cs) :=
  fun h => hc (h c rfl)

lemma Ends.isNameChar_eq_false (h : Ends rest) : ∀ c ∈ rest.head?, isNameChar c = false := by
  intro c hc
  have hmark := h c hc
  simp only [List.mem_cons, List.not_mem_nil, or_false] at hmark
  rcases hmark with rfl | rfl | rfl <;> decide

lemma mark_of_mem {c : Char} (hc : c ∈ ['.', ' ']) :
    isNameChar c = false ∧ c ∉ [',', ')', ';'] := by
  simp only [List.mem_cons, List.not_mem_nil, or_false] at hc
  rcases hc with rfl | rfl <;> decide

lemma head?_others_append (e : Expr) (hrest : Ends rest) :
    ∀ c ∈ (e.others ++ rest).head?, isNameChar c = false := by
  rcases others_cases e with hnil | ⟨c, cs, hcons, hc⟩
  · rw [hnil]
    exact hrest.isNameChar_eq_false
  · rw [hcons]
    rintro d hd
    obtain rfl : c = d := by simpa using hd
    exact (mark_of_mem hc).1

/-- What follows an expression is no mark that an expression goes on with. -/
lemma head?_others_eq (hrest : Ends rest) (hrest' : Ends rest')
    (h : e.others ++ rest = e'.others ++ rest') : e.others.head? = e'.others.head? := by
  rcases others_cases e with hnil | ⟨c, cs, hcons, hc⟩
  · rcases others_cases e' with hnil' | ⟨c', cs', hcons', hc'⟩
    · rw [hnil, hnil']
    · rw [hnil, hcons', List.nil_append] at h
      rw [h] at hrest
      exact absurd hrest (not_ends_cons (mark_of_mem hc').2)
  · rcases others_cases e' with hnil' | ⟨c', cs', hcons', hc'⟩
    · rw [hcons, hnil', List.nil_append] at h
      rw [← h] at hrest'
      exact absurd hrest' (not_ends_cons (mark_of_mem hc).2)
    · rw [hcons, hcons', List.cons_append, List.cons_append, List.cons.injEq] at h
      rw [hcons, hcons', h.1]
      rfl

/-- Expressions with one text start with the same word and go on with the same mark. -/
lemma first_eq_of_append (he : ∀ x ∈ e.names, ProperName x) (he' : ∀ x ∈ e'.names, ProperName x)
    (hrest : Ends rest) (hrest' : Ends rest')
    (h : e.render.toList ++ rest = e'.render.toList ++ rest') :
    e.first = e'.first ∧ e.others.head? = e'.others.head? ∧
      e.others ++ rest = e'.others ++ rest' := by
  rw [toList_render, toList_render, List.append_assoc, List.append_assoc] at h
  obtain ⟨hword, hothers⟩ := word_append_inj (first_word he).2 (first_word he').2
    (head?_others_append e hrest) (head?_others_append e' hrest') h
  exact ⟨String.toList_inj.1 hword, head?_others_eq hrest hrest' hothers, hothers⟩

/-! ### Which expression it is -/

/-- A member without arguments is none with arguments. -/
lemma member_append_ne (hfield : ProperName field) (hmethod : ProperName method)
    (hrest : Ends rest) : field.toList ++ rest ≠ method.toList ++ '(' :: rest' := by
  intro h
  obtain ⟨-, hafter⟩ := word_append_inj hfield.isNameChar hmethod.isNameChar
    hrest.isNameChar_eq_false (by simp [isNameChar]) h
  rw [hafter] at hrest
  exact not_ends_cons (by decide) hrest

lemma eq_of_this_append (he' : ∀ x ∈ e'.names, ProperName x) (hrest : Ends rest)
    (hrest' : Ends rest') (h : this.render.toList ++ rest = e'.render.toList ++ rest') :
    e' = this ∧ rest = rest' := by
  obtain ⟨hfirst, hmark, hothers⟩ := first_eq_of_append (by simp [names]) he' hrest hrest' h
  cases e' with
  | this => exact ⟨rfl, hothers⟩
  | var name =>
    obtain rfl : "this" = name := hfirst
    have hthis : ProperName "this" := he' _ (by simp [names])
    exact absurd hthis.not_reserved (by decide)
  | staticField b field => simp [others] at hmark
  | construct b args' => simp [others] at hmark
  | invoke b method args' => simp [others] at hmark

lemma eq_of_var_append (he : ProperName name) (he' : ∀ x ∈ e'.names, ProperName x)
    (hrest : Ends rest) (hrest' : Ends rest')
    (h : (var name).render.toList ++ rest = e'.render.toList ++ rest') :
    e' = var name ∧ rest = rest' := by
  obtain ⟨hfirst, hmark, hothers⟩ :=
    first_eq_of_append (by simpa [names] using he) he' hrest hrest' h
  cases e' with
  | this =>
    obtain rfl : name = "this" := hfirst
    exact absurd he.not_reserved (by decide)
  | var name' =>
    obtain rfl : name = name' := hfirst
    exact ⟨rfl, hothers⟩
  | staticField b field => simp [others] at hmark
  | construct b args' => simp [others] at hmark
  | invoke b method args' => simp [others] at hmark

lemma exists_of_staticField_append (he : ∀ x ∈ (staticField a field).names, ProperName x)
    (he' : ∀ x ∈ e'.names, ProperName x) (hrest : Ends rest) (hrest' : Ends rest')
    (h : (staticField a field).render.toList ++ rest = e'.render.toList ++ rest') :
    ∃ b, e' = staticField b field ∧ a.simple = b.simple ∧ rest = rest' := by
  obtain ⟨hfirst, hmark, hothers⟩ := first_eq_of_append he he' hrest hrest' h
  have hfield : ProperName field := he field (by simp [names])
  cases e' with
  | this => simp [others] at hmark
  | var name => simp [others] at hmark
  | staticField b field' =>
    have hfield' : ProperName field' := he' field' (by simp [names])
    simp only [others, List.cons_append, List.cons.injEq, true_and] at hothers
    obtain ⟨hname, hafter⟩ := word_append_inj hfield.isNameChar hfield'.isNameChar
      hrest.isNameChar_eq_false hrest'.isNameChar_eq_false hothers
    rw [String.toList_inj.1 hname]
    exact ⟨b, rfl, hfirst, hafter⟩
  | construct b args' => simp [others] at hmark
  | invoke b method args' =>
    have hmethod : ProperName method := he' method (by simp [names])
    simp only [others, List.cons_append, List.append_assoc, List.cons.injEq, true_and] at hothers
    exact absurd hothers (member_append_ne hfield hmethod hrest)

lemma exists_of_construct_append (he : ∀ x ∈ (construct a args).names, ProperName x)
    (he' : ∀ x ∈ e'.names, ProperName x) (hrest : Ends rest) (hrest' : Ends rest')
    (h : (construct a args).render.toList ++ rest = e'.render.toList ++ rest') :
    ∃ b args', e' = construct b args' ∧ a.simple = b.simple ∧
      (renderAll args).toList ++ ')' :: rest = (renderAll args').toList ++ ')' :: rest' := by
  obtain ⟨-, hmark, hothers⟩ := first_eq_of_append he he' hrest hrest' h
  cases e' with
  | this => simp [others] at hmark
  | var name => simp [others] at hmark
  | staticField b field => simp [others] at hmark
  | construct b args' =>
    have ha : ProperName a.simple := he a.simple (by simp [names])
    have hb : ProperName b.simple := he' b.simple (by simp [names])
    simp only [others, List.cons_append, List.append_assoc, List.cons.injEq, true_and] at hothers
    obtain ⟨hname, hafter⟩ := word_append_inj ha.isNameChar hb.isNameChar
      (by simp [isNameChar]) (by simp [isNameChar]) hothers
    exact ⟨b, args', rfl, String.toList_inj.1 hname, by simpa using hafter⟩
  | invoke b method args' => simp [others] at hmark

lemma exists_of_invoke_append (he : ∀ x ∈ (invoke a method args).names, ProperName x)
    (he' : ∀ x ∈ e'.names, ProperName x) (hrest : Ends rest) (hrest' : Ends rest')
    (h : (invoke a method args).render.toList ++ rest = e'.render.toList ++ rest') :
    ∃ b args', e' = invoke b method args' ∧ a.simple = b.simple ∧
      (renderAll args).toList ++ ')' :: rest = (renderAll args').toList ++ ')' :: rest' := by
  obtain ⟨hfirst, hmark, hothers⟩ := first_eq_of_append he he' hrest hrest' h
  have hmethod : ProperName method := he method (by simp [names])
  cases e' with
  | this => simp [others] at hmark
  | var name => simp [others] at hmark
  | staticField b field =>
    have hfield : ProperName field := he' field (by simp [names])
    simp only [others, List.cons_append, List.append_assoc, List.cons.injEq, true_and] at hothers
    exact absurd hothers.symm (member_append_ne hfield hmethod hrest')
  | construct b args' => simp [others] at hmark
  | invoke b method' args' =>
    have hmethod' : ProperName method' := he' method' (by simp [names])
    simp only [others, List.cons_append, List.append_assoc, List.cons.injEq, true_and] at hothers
    obtain ⟨hname, hafter⟩ := word_append_inj hmethod.isNameChar hmethod'.isNameChar
      (by simp [isNameChar]) (by simp [isNameChar]) hothers
    rw [String.toList_inj.1 hname]
    exact ⟨b, args', rfl, hfirst, by simpa using hafter⟩

/-! ### Reading expressions back -/

lemma ends_renderRest_append (es : List Expr) (rest : List Char) :
    Ends ((renderRest es).toList ++ ')' :: rest) := by
  cases es with
  | nil =>
    intro c hc
    obtain rfl : ')' = c := by simpa [renderRest] using hc
    decide
  | cons e es =>
    intro c hc
    obtain rfl : ',' = c := by simpa [renderRest, String.toList_append] using hc
    decide

/-- No expression starts with a closing parenthesis. -/
lemma render_append_ne (he : ∀ x ∈ e.names, ProperName x) :
    e.render.toList ++ rest ≠ ')' :: rest' := by
  obtain ⟨hne, hchars⟩ := first_word he
  obtain ⟨c, cs, hcons⟩ := List.exists_cons_of_ne_nil hne
  rw [toList_render, hcons]
  intro h
  have hc : isNameChar c = true := hchars c (by simp [hcons])
  rw [(List.cons.inj h).1] at hc
  exact absurd hc (by decide)

lemma toList_renderAll_cons_append : (renderAll (e :: es)).toList ++ rest =
    e.render.toList ++ ((renderRest es).toList ++ rest) := by
  simp [renderAll, String.toList_append]

lemma toList_renderRest_cons_append : (renderRest (e :: es)).toList ++ rest =
    ',' :: ' ' :: (e.render.toList ++ ((renderRest es).toList ++ rest)) := by
  simp [renderRest, String.toList_append]

mutual

/-- An expression and what follows it are read back from the text, up to the packages of the
classes. -/
lemma aligned_of_append : ∀ {e e' : Expr} {rest rest' : List Char},
    (∀ x ∈ e.names, ProperName x) → (∀ x ∈ e'.names, ProperName x) → Ends rest → Ends rest' →
    e.render.toList ++ rest = e'.render.toList ++ rest' →
    Aligned ClassName.Namesakes e e' ∧ rest = rest'
  | this, _, _, _, _, he', hrest, hrest', h => by
    obtain ⟨rfl, hafter⟩ := eq_of_this_append he' hrest hrest' h
    exact ⟨.this, hafter⟩
  | var name, _, _, _, he, he', hrest, hrest', h => by
    obtain ⟨rfl, hafter⟩ := eq_of_var_append (he name (by simp [names])) he' hrest hrest' h
    exact ⟨.var name, hafter⟩
  | staticField a field, _, _, _, he, he', hrest, hrest', h => by
    obtain ⟨b, rfl, hname, hafter⟩ := exists_of_staticField_append he he' hrest hrest' h
    exact ⟨.staticField field hname, hafter⟩
  | construct a args, _, _, _, he, he', hrest, hrest', h => by
    obtain ⟨b, args', rfl, hname, hafter⟩ := exists_of_construct_append he he' hrest hrest' h
    rw [names, List.forall_mem_cons] at he he'
    obtain ⟨hargs, hafter⟩ := alignedAll_of_append he.2 he'.2 hafter
    exact ⟨.construct hname hargs, hafter⟩
  | invoke a method args, _, _, _, he, he', hrest, hrest', h => by
    obtain ⟨b, args', rfl, hname, hafter⟩ := exists_of_invoke_append he he' hrest hrest' h
    rw [names, List.forall_mem_cons, List.forall_mem_cons] at he he'
    obtain ⟨hargs, hafter⟩ := alignedAll_of_append he.2.2 he'.2.2 hafter
    exact ⟨.invoke method hname hargs, hafter⟩

lemma alignedAll_of_append : ∀ {es es' : List Expr} {rest rest' : List Char},
    (∀ x ∈ namesAll es, ProperName x) → (∀ x ∈ namesAll es', ProperName x) →
    (renderAll es).toList ++ ')' :: rest = (renderAll es').toList ++ ')' :: rest' →
    List.Forall₂ (Aligned ClassName.Namesakes) es es' ∧ rest = rest'
  | [], [], _, _, _, _, h => ⟨.nil, (List.cons.inj h).2⟩
  | [], e' :: es', _, _, _, hes', h => by
    rw [namesAll, List.forall_mem_append] at hes'
    rw [toList_renderAll_cons_append] at h
    exact absurd h.symm (render_append_ne hes'.1)
  | e :: es, [], _, _, hes, _, h => by
    rw [namesAll, List.forall_mem_append] at hes
    rw [toList_renderAll_cons_append] at h
    exact absurd h (render_append_ne hes.1)
  | e :: es, e' :: es', rest, rest', hes, hes', h => by
    rw [namesAll, List.forall_mem_append] at hes hes'
    rw [toList_renderAll_cons_append, toList_renderAll_cons_append] at h
    obtain ⟨hfirst, hmore⟩ := aligned_of_append hes.1 hes'.1 (ends_renderRest_append es rest)
      (ends_renderRest_append es' rest') h
    obtain ⟨hothers, hafter⟩ := alignedRest_of_append hes.2 hes'.2 hmore
    exact ⟨.cons hfirst hothers, hafter⟩

lemma alignedRest_of_append : ∀ {es es' : List Expr} {rest rest' : List Char},
    (∀ x ∈ namesAll es, ProperName x) → (∀ x ∈ namesAll es', ProperName x) →
    (renderRest es).toList ++ ')' :: rest = (renderRest es').toList ++ ')' :: rest' →
    List.Forall₂ (Aligned ClassName.Namesakes) es es' ∧ rest = rest'
  | [], [], _, _, _, _, h => ⟨.nil, (List.cons.inj h).2⟩
  | [], e' :: es', _, _, _, _, h => by
    rw [toList_renderRest_cons_append] at h
    exact absurd (List.cons.inj h).1 (by decide)
  | e :: es, [], _, _, _, _, h => by
    rw [toList_renderRest_cons_append] at h
    exact absurd (List.cons.inj h).1 (by decide)
  | e :: es, e' :: es', rest, rest', hes, hes', h => by
    rw [namesAll, List.forall_mem_append] at hes hes'
    rw [toList_renderRest_cons_append, toList_renderRest_cons_append, List.cons.injEq,
      List.cons.injEq] at h
    obtain ⟨hfirst, hmore⟩ := aligned_of_append hes.1 hes'.1 (ends_renderRest_append es rest)
      (ends_renderRest_append es' rest') h.2.2
    obtain ⟨hothers, hafter⟩ := alignedRest_of_append hes.2 hes'.2 hmore
    exact ⟨.cons hfirst hothers, hafter⟩

end

/-- **Two expressions have one text exactly when they differ in the packages of their classes only**,
as long as all names in them are identifiers and no reserved words: the same constructors, the same
names, and the same arguments in the same order. -/
theorem render_eq_iff_aligned (he : ∀ x ∈ e.names, ProperName x)
    (he' : ∀ x ∈ e'.names, ProperName x) :
    e.render = e'.render ↔ Aligned ClassName.Namesakes e e' := by
  constructor
  · intro h
    have hnil : Ends [] := by simp [Ends]
    exact (aligned_of_append he he' hnil hnil (by rw [h])).1
  · exact Aligned.render_eq fun a b hab => hab

/-- A call with nested arguments, of classes of that package. -/
def nestedCall (package : String) : Expr :=
  .invoke ⟨package, "ToStringBuilder"⟩ "reflectionToString"
    [.this, .construct ⟨package, "MyStyle"⟩ [.construct ⟨package, "Name"⟩ [], .var "that"],
      .staticField ⟨package, "ToStringStyle"⟩ "SIMPLE_STYLE"]

theorem aligned_nestedCall :
    (∀ x ∈ (nestedCall "com.example").names, ProperName x) ∧
      (∀ x ∈ (nestedCall "").names, ProperName x) ∧
      (nestedCall "com.example").render = (nestedCall "").render ∧
      Aligned ClassName.Namesakes (nestedCall "com.example") (nestedCall "") := by
  have he : ∀ x ∈ (nestedCall "com.example").names, ProperName x := by decide
  have he' : ∀ x ∈ (nestedCall "").names, ProperName x := by decide
  have htext : (nestedCall "com.example").render = (nestedCall "").render := by decide
  exact ⟨he, he', htext, (render_eq_iff_aligned he he').1 htext⟩

end Expr

end ClassGen
