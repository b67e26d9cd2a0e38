/-
# Overloads in a source text

A source text tells two methods apart by their names and by the types of their parameters as they
are written there, with simple names.  Rendering compares the types themselves, packages included,
and compares the simple names of imports.  Between the two checks something is left open: parameters
of different types are written alike when the types differ in classes of one simple name that are
not both imported, or when a class is called by the keyword of a primitive type.

That is all that is left open: `ClassDef.nodup_writtenSignature_of_render`.
-/
import ClassGen.Proofs.Source.Outcome
import ClassGen.Proofs.TypeRef.Rendering

namespace ClassGen

/-- The name of the method and the types of its parameters, as they are written. -/
def Method.writtenSignature (m : Method) : String × List String :=
  (m.name, m.params.map (·.type.render))

namespace ClassDef

/-- In the text of `c` one simple name stands for both classes.  Two different ones are not both
imported. -/
structure Blurs (c : ClassDef) (a b : ClassName) : Prop where
  simple : a.simple = b.simple
  unchecked : a = b ∨ a.needsImport c.name.package = false ∨
    b.needsImport c.name.package = false

/-- The methods have different signatures, but their parameters differ only in what the text of `c`
does not show. -/
structure Lookalikes (c : ClassDef) (m m' : Method) : Prop where
  different : m.signature ≠ m'.signature
  name : m.name = m'.name
  params : List.Forall₂ (TypeRef.Alike c.Blurs) (m.params.map (·.type)) (m'.params.map (·.type))

variable {c : ClassDef} {m m' : Method} {a b : ClassName} {comments : Bool} {text : String}

/-! ### Two methods -/

lemma writtenSignature_eq_iff : m.writtenSignature = m'.writtenSignature ↔
    m.name = m'.name ∧
      (m.params.map (·.type)).map TypeRef.render = (m'.params.map (·.type)).map TypeRef.render := by
  simp only [Method.writtenSignature, Prod.mk.injEq, List.map_map]
  rfl

/-- Whether the check of the imports has seen two classes or not, only unequal ones of which one
needs no import have one simple name. -/
lemma blurs_of_render (h : c.render comments = .ok text) (ha : a ∈ c.classNames)
    (hb : b ∈ c.classNames) (hab : a.simple = b.simple) : c.Blurs a b := by
  refine ⟨hab, ?_⟩
  cases hneeds : a.needsImport c.name.package with
  | false => exact Or.inr (Or.inl rfl)
  | true =>
    cases hneeds' : b.needsImport c.name.package with
    | false => exact Or.inr (Or.inr rfl)
    | true =>
      have ha' : a ∈ c.imported := mem_imported.2 ⟨ha, hneeds⟩
      have hb' : b ∈ c.imported := mem_imported.2 ⟨hb, hneeds'⟩
      exact Or.inl (eq_of_simple_eq (clash?_eq_none_of_render h) (Or.inr ha') (Or.inr hb') hab)

lemma Lookalikes.writtenSignature_eq (h : c.Lookalikes m m') :
    m.writtenSignature = m'.writtenSignature := by
  refine writtenSignature_eq_iff.2 ⟨h.name, ?_⟩
  have hparams := h.params
  generalize m.params.map (·.type) = ts at hparams ⊢
  generalize m'.params.map (·.type) = us at hparams ⊢
  induction hparams with
  | nil => rfl
  | cons ht _ ih =>
    rw [List.map_cons, List.map_cons, ht.render_eq fun a b hab => hab.simple, ih]

lemma mem_classNames_of_params (hm : m ∈ c.methods) :
    ∀ a ∈ TypeRef.classNamesAll (m.params.map (·.type)), a ∈ c.classNames := by
  intro a ha
  obtain ⟨t, ht, ha⟩ := (TypeRef.mem_classNamesAll _).1 ha
  obtain ⟨p, hp, rfl⟩ := List.mem_map.1 ht
  exact mem_classNames.2 (.method hm (.param hp ha))

/-- In a rendered class there is no other way for two methods to be written alike. -/
lemma lookalikes_of_writtenSignature_eq (h : c.render comments = .ok text)
    (hwordy : ∀ m ∈ c.methods, ∀ a ∈ TypeRef.classNamesAll (m.params.map (·.type)), a.IsWordy)
    (hm : m ∈ c.methods) (hm' : m' ∈ c.methods) (hne : m.signature ≠ m'.signature)
    (heq : m.writtenSignature = m'.writtenSignature) : c.Lookalikes m m' := by
  obtain ⟨hname, hparams⟩ := writtenSignature_eq_iff.1 heq
  refine ⟨hne, hname, ?_⟩
  have halike := (TypeRef.map_render_eq_iff_alike (hwordy m hm) (hwordy m' hm')).1 hparams
  refine TypeRef.Alike.impAll (fun a ha b hb hab => ?_) halike
  exact blurs_of_render h (mem_classNames_of_params hm a ha) (mem_classNames_of_params hm' b hb) hab

/-! ### All methods -/

/-- **The methods of a rendered class are written with different signatures unless two of them are
lookalikes.**  Lookalikes are always written with one signature.  In the other direction, when the
simple names in the types of parameters are made of characters of names, methods that are no
lookalikes are written with different signatures: this is what comparing signatures and comparing
imports add up to. -/
theorem nodup_writtenSignature_of_render (h : c.render comments = .ok text) :
    ((c.methods.map (·.writtenSignature)).Nodup →
      c.methods.Pairwise fun m m' => ¬ c.Lookalikes m m') ∧
    ((∀ m ∈ c.methods, ∀ a ∈ TypeRef.classNamesAll (m.params.map (·.type)), a.IsWordy) →
      (c.methods.Pairwise fun m m' => ¬ c.Lookalikes m m') →
      (c.methods.map (·.writtenSignature)).Nodup) := by
  have hdistinct := (exists_render_iff.1 ⟨text, h⟩).distinct
  rw [List.Nodup, List.pairwise_map] at hdistinct ⊢
  constructor
  · intro hwritten
    exact hwritten.imp fun hne hlookalikes => hne hlookalikes.writtenSignature_eq
  · intro hwordy hnone
    refine (hdistinct.and hnone).imp_of_mem fun hm hm' ⟨hne, hnot⟩ heq => ?_
    exact hnot (lookalikes_of_writtenSignature_eq h hwordy hm hm' hne heq)

/-- A method without a result and a body. -/
def listener (name : String) (params : List TypeRef) : Method :=
  ⟨.public, .primitive .void, name, params.map fun t => ⟨t, "event"⟩, [], []⟩

/-- A class with overloads that differ in type arguments and in brackets. -/
def busClass : ClassDef :=
  ⟨⟨"com.example", "Bus"⟩, none, [],
    [listener "post" [.named ⟨"java.util", "List"⟩ [.ofClass ⟨"java.util", "Date"⟩]],
      listener "post" [.named ⟨"java.util", "List"⟩ [.ofClass ⟨"java.lang", "String"⟩]],
      listener "post" [.array (.ofClass ⟨"java.lang", "String"⟩)]]⟩

theorem nodup_writtenSignature_busClass :
    ∃ text, busClass.render true = .ok text ∧
      (∀ m ∈ busClass.methods, ∀ a ∈ TypeRef.classNamesAll (m.params.map (·.type)), a.IsWordy) ∧
      (busClass.methods.Pairwise fun m m' => ¬ busClass.Lookalikes m m') ∧
      (busClass.methods.map (·.writtenSignature)).Nodup := by
  obtain ⟨text, htext⟩ : ∃ text, busClass.render true = .ok text := ⟨_, rfl⟩
  obtain ⟨hlookalikes, hwritten⟩ := nodup_writtenSignature_of_render htext
  have hwordy : ∀ m ∈ busClass.methods,
      ∀ a ∈ TypeRef.classNamesAll (m.params.map (·.type)), a.IsWordy := by decide
  have hnone := hlookalikes (by decide)
  exact ⟨text, htext, hwordy, hnone, hwritten hwordy hnone⟩

/-- A class with overloads for the class `Date` of its own package and for the one it imports. -/
def diaryClass : ClassDef :=
  ⟨⟨"com.example", "Diary"⟩, none, [],
    [listener "put" [.ofClass ⟨"", "Date"⟩], listener "put" [.ofClass ⟨"java.util", "Date"⟩]]⟩

/-- A class with overloads for the class `String` with and without its package. -/
def notesClass : ClassDef :=
  ⟨⟨"com.example", "Notes"⟩, none, [],
    [listener "put" [.ofClass ⟨"", "String"⟩], listener "put" [.ofClass ⟨"java.lang", "String"⟩]]⟩

/-- Methods that are written with one signature are not refused. -/
theorem not_nodup_writtenSignature_diaryClass_notesClass :
    (∃ text, diaryClass.render true = .ok text ∧
      ¬ (diaryClass.methods.map (·.writtenSignature)).Nodup) ∧
    ∃ text, notesClass.render true = .ok text ∧
      ¬ (notesClass.methods.map (·.writtenSignature)).Nodup :=
  ⟨⟨_, rfl, by decide⟩, ⟨_, rfl, by decide⟩⟩

end ClassDef

end ClassGen
