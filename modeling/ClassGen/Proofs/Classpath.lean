/-
# Subtypes on a classpath

A type is a subtype of another one when the declared links lead from its name to the name of the
other.  The search for such links is bounded by the number of declarations.  That is enough, since a
chain of links that meets no name twice has a declaration of its own for every link
(`Classpath.isSubtype_iff`).
-/
import Mathlib.Data.List.Nodup
import Mathlib.Data.List.Perm.Subperm
import Mathlib.Logic.Relation
import Mathlib.Tactic.Common
import ClassGen.Classpath
import ClassGen.Proofs.ClassName
import ClassGen.Proofs.Text.Blank

namespace ClassGen.Classpath

open Text

variable {cp : Classpath} {a b name text : String} {d : TypeDecl} {names : List String}

/-- The type of the first name is declared to extend the one of the second. -/
def Extends (cp : Classpath) (a b : String) : Prop :=
  ∃ d ∈ cp.decls, d.name = a ∧ d.parent = some b

/-- Looking up a name finds the one declaration that has it. -/
lemma find?_eq_some_iff : cp.find? name = some d ↔ d ∈ cp.decls ∧ d.name = name := by
  constructor
  · intro h
    exact ⟨List.mem_of_find?_eq_some h, by simpa using List.find?_some h⟩
  · rintro ⟨hd, rfl⟩
    have hfound : (cp.find? d.name).isSome := List.find?_isSome.2 ⟨d, hd, by simp⟩
    obtain ⟨e, he⟩ := Option.isSome_iff_exists.1 hfound
    have hmem : e ∈ cp.decls := List.mem_of_find?_eq_some he
    have hname : e.name = d.name := by simpa using List.find?_some he
    rw [he, List.inj_on_of_nodup_map cp.nodup hmem hd hname]

lemma find?_eq_none_iff : cp.find? name = none ↔ ∀ d ∈ cp.decls, d.name ≠ name := by
  simp [find?]

lemma parent?_eq_some_iff : cp.parent? a = some b ↔ cp.Extends a b := by
  simp only [parent?, Option.bind_eq_some_iff, find?_eq_some_iff, Extends, and_assoc]

/-! ### Registering -/

/-- The declaration that is put in has its name from then on; other names keep theirs. -/
lemma find?_put (d : TypeDecl) (es : List TypeDecl) (name : String) :
    (d.put es).find? (fun e => e.name == name) =
      if d.name = name then some d else es.find? fun e => e.name == name := by
  induction es with
  | nil =>
    by_cases hd : d.name = name
    · simp [TypeDecl.put, hd]
    · simp [TypeDecl.put, hd]
  | cons e es ih =>
    by_cases he : e.name = d.name
    · by_cases hd : d.name = name
      · simp [TypeDecl.put, he, hd]
      · simp [TypeDecl.put, he, hd]
    · rw [TypeDecl.put, if_neg he]
      by_cases hname : e.name = name
      · have hd : ¬ d.name = name := fun hd => he (hname.trans hd.symm)
        simp [hname, hd]
      · simp [hname, ih]

/-- The last registration of a name counts. -/
lemma find?_register (cp : Classpath) (d : TypeDecl) (name : String) :
    (cp.register d).find? name = if trim d.name = name then some d.trimmed else cp.find? name :=
  find?_put d.trimmed cp.decls name

/-- What is listed afterwards are the new declaration and those of other names. -/
lemma mem_decls_register {e : TypeDecl} :
    e ∈ (cp.register d).decls ↔ e = d.trimmed ∨ e ∈ cp.decls ∧ e.name ≠ trim d.name := by
  have hfind : ∀ cp : Classpath, e ∈ cp.decls ↔ cp.find? e.name = some e := by
    intro cp
    rw [find?_eq_some_iff, and_iff_left rfl]
  rw [hfind, find?_register, hfind]
  split
  · rename_i hname
    rw [Option.some.injEq, eq_comm (a := e), ← hname]
    simp
  · rename_i hname
    have hne : e ≠ d.trimmed := by
      rintro rfl
      exact hname rfl
    simp [hne, Ne.symm hname]

/-- A name that is registered anew is listed at the end; one that is listed keeps its place. -/
lemma names_register (cp : Classpath) (d : TypeDecl) :
    (cp.register d).decls.map (·.name) =
      if trim d.name ∈ cp.decls.map (·.name) then cp.decls.map (·.name)
      else cp.decls.map (·.name) ++ [trim d.name] :=
  TypeDecl.names_put d.trimmed cp.decls

lemma mem_names_register : name ∈ (cp.register d).decls.map (·.name) ↔
    name ∈ cp.decls.map (·.name) ∨ trim d.name = name := by
  rw [names_register]
  split
  · rename_i hmem
    constructor
    · exact Or.inl
    · rintro (h | rfl)
      · exact h
      · exact hmem
  · rw [List.mem_append, List.mem_singleton, eq_comm (a := name)]

lemma registerAll_cons (cp : Classpath) (d : TypeDecl) (ds : List TypeDecl) :
    cp.registerAll (d :: ds) = (cp.register d).registerAll ds := rfl

lemma registerAll_concat (cp : Classpath) (ds : List TypeDecl) (d : TypeDecl) :
    cp.registerAll (ds ++ [d]) = (cp.registerAll ds).register d :=
  List.foldl_concat ..

/-- Names that are not registered again are looked up as before. -/
lemma find?_registerAll_of_ne {ds : List TypeDecl} (h : ∀ d ∈ ds, trim d.name ≠ name) :
    (cp.registerAll ds).find? name = cp.find? name := by
  induction ds generalizing cp with
  | nil => rfl
  | cons d ds ih =>
    obtain ⟨hd, hds⟩ := List.forall_mem_cons.1 h
    rw [registerAll_cons, ih hds, find?_register, if_neg hd]

/-- The names that are listed are those from before and those that are registered. -/
lemma mem_names_registerAll {ds : List TypeDecl} :
    name ∈ (cp.registerAll ds).decls.map (·.name) ↔
      name ∈ cp.decls.map (·.name) ∨ ∃ d ∈ ds, trim d.name = name := by
  induction ds generalizing cp with
  | nil =>
    have hnil : cp.registerAll [] = cp := rfl
    simp [hnil]
  | cons d ds ih =>
    rw [registerAll_cons, ih, mem_names_register, List.exists_mem_cons_iff, or_assoc]

/-! ### Chains of links -/

/-- A chain of links from a name to `b`; the list holds the names that the links start from. -/
inductive Chain (cp : Classpath) (b : String) : String → List String → Prop
  | here : Chain cp b b []
  | link {a next : String} {names : List String} :
      cp.Extends a next → Chain cp b next names → Chain cp b a (a :: names)

lemma Chain.exists_of_mem (h : cp.Chain b a names) {x : String} (hx : x ∈ names) :
    ∃ rest, rest <:+ names ∧ cp.Chain b x rest := by
  induction h with
  | here => exact absurd hx List.not_mem_nil
  | @link a next names hlink hchain ih =>
    rcases List.mem_cons.1 hx with rfl | hx
    · exact ⟨_, List.suffix_refl _, .link hlink hchain⟩
    · obtain ⟨rest, hrest, hchain⟩ := ih hx
      exact ⟨rest, hrest.trans (List.suffix_cons a names), hchain⟩

/-- A chain need not meet a name twice: it can go on from there the first time. -/
lemma exists_nodup_chain (h : Relation.ReflTransGen cp.Extends a b) :
    ∃ names : List String, names.Nodup ∧ cp.Chain b a names := by
  induction h using Relation.ReflTransGen.head_induction_on with
  | refl => exact ⟨[], List.nodup_nil, .here⟩
  | @head a next hlink _ ih =>
    obtain ⟨names, hnodup, hchain⟩ := ih
    by_cases ha : a ∈ names
    · obtain ⟨rest, hrest, hchain⟩ := hchain.exists_of_mem ha
      exact ⟨rest, hrest.sublist.nodup hnodup, hchain⟩
    · exact ⟨a :: names, List.nodup_cons.2 ⟨ha, hnodup⟩, .link hlink hchain⟩

lemma Chain.subset_names (h : cp.Chain b a names) : names ⊆ cp.decls.map (·.name) := by
  induction h with
  | here => simp
  | link hlink _ ih =>
    obtain ⟨d, hd, rfl, -⟩ := hlink
    exact List.cons_subset.2 ⟨List.mem_map_of_mem hd, ih⟩

/-- A chain that meets no name twice is no longer than the classpath. -/
lemma Chain.length_le_size (h : cp.Chain b a names) (hnodup : names.Nodup) :
    names.length ≤ cp.size := by
  have hle := (hnodup.subperm h.subset_names).length_le
  rwa [List.length_map] at hle

/-! ### The bounded search -/

lemma reaches_of_chain (h : cp.Chain b a names) {steps : Nat} (hsteps : names.length ≤ steps) :
    cp.reaches b steps a = true := by
  induction h generalizing steps with
  | here => cases steps <;> simp [reaches]
  | @link a next names hlink _ ih =>
    cases steps with
    | zero => simp at hsteps
    | succ steps =>
      have hnext : cp.reaches b steps next = true := ih (by simpa using hsteps)
      rw [reaches, parent?_eq_some_iff.2 hlink, Bool.or_eq_true]
      exact Or.inr hnext

lemma reflTransGen_of_reaches {steps : Nat} (h : cp.reaches b steps a = true) :
    Relation.ReflTransGen cp.Extends a b := by
  induction steps generalizing a with
  | zero =>
    rw [reaches, beq_iff_eq] at h
    rw [h]
  | succ steps ih =>
    rw [reaches, Bool.or_eq_true, beq_iff_eq] at h
    rcases h with rfl | h
    · exact .refl
    · rcases hparent : cp.parent? a with _ | next
      · simp [hparent] at h
      · rw [hparent] at h
        exact .head (parent?_eq_some_iff.1 hparent) (ih h)

/-- The bounded search finds everything that links lead to. -/
lemma isSubtype_iff : cp.isSubtype a b = true ↔ Relation.ReflTransGen cp.Extends a b := by
  constructor
  · exact reflTransGen_of_reaches
  · intro h
    obtain ⟨names, hnodup, hchain⟩ := exists_nodup_chain h
    exact reaches_of_chain hchain (hchain.length_le_size hnodup)

/-! ### Loading -/

lemma load_eq_ok_iff : cp.load text = .ok d ↔
    isDottedName (trim text) = true ∧ d ∈ cp.decls ∧ d.name = trim text := by
  rw [load, ClassName.parse_trim, ← find?_eq_some_iff]
  rcases hparse : ClassName.parse text with e | name
  · simp [(ClassName.parse_eq_error_iff.1 hparse).1]
  · have hdotted := (ClassName.parse_eq_ok_iff.1 hparse).1
    rcases hfind : cp.find? (trim text) with _ | e
    · simp
    · simp [hdotted]

lemma load_eq_error_iff {e : LoadError} : cp.load text = .error e ↔
    isDottedName (trim text) = false ∧ e = .invalidName (trim text) ∨
      isDottedName (trim text) = true ∧ (∀ d ∈ cp.decls, d.name ≠ trim text) ∧
        e = .classNotFound (trim text) := by
  rw [load, ClassName.parse_trim, ← find?_eq_none_iff]
  rcases hparse : ClassName.parse text with e' | name
  · simp [(ClassName.parse_eq_error_iff.1 hparse).1, eq_comm]
  · have hdotted := (ClassName.parse_eq_ok_iff.1 hparse).1
    rcases hfind : cp.find? (trim text) with _ | d
    · simp [hdotted, eq_comm]
    · simp [hdotted]

/-- A type that was loaded has a class name: the text that it was loaded by was read as one before,
and the type is declared by that name. -/
lemma exists_className_of_load (h : cp.load text = .ok d) : ∃ cls, d.className = .ok cls ∧
    ClassName.CutAtLastDot (trim text).toList cls ∧ cls.full = trim text := by
  obtain ⟨hdotted, -, hname⟩ := load_eq_ok_iff.1 h
  have hparse : ClassName.parse text = .ok (.ofSegments (segments (trim text))) := by
    rw [ClassName.parse, if_pos hdotted]
  refine ⟨_, ?_, (ClassName.parse_eq_ok_iff.1 hparse).2, ClassName.full_of_parse hparse⟩
  rw [TypeDecl.className, hname, ClassName.parse_trim, hparse]

end ClassGen.Classpath
