/-
# Subtypes after any registrations

What a classpath knows comes from the registrations that it got.  Of several registrations of one
name the last one counts, and names are compared without the blanks around them.  So whether a type
extends another one can be read off the list of registrations (`Classpath.Links`), and the bounded
search for a supertype finds exactly what these links lead to: it stops on a circle of types, and it
does not stop too early on a chain that takes in every registered type and ends with a name that
nobody registered (`Classpath.isSubtype_registerAll_iff`).
-/
import ClassGen.Proofs.Classpath

namespace ClassGen.Classpath

open Text

variable {cp : Classpath} {ds : List TypeDecl} {d e : TypeDecl} {a b : String}

/-- After these registrations the type of the first name extends the one of the second: the last
registration of the first name says so. -/
def Links (ds : List TypeDecl) (a b : String) : Prop :=
  ∃ before d after parent, ds = before ++ d :: after ∧ trim d.name = a ∧
    (∀ e ∈ after, trim e.name ≠ a) ∧ d.parent = some parent ∧ trim parent = b

/-- The declaration is the last one of its name that was registered. -/
def IsLatest (ds : List TypeDecl) (d : TypeDecl) : Prop :=
  ∃ before after, ds = before ++ d :: after ∧ ∀ e ∈ after, trim e.name ≠ trim d.name

/-- A registration in a list is the last one of the list, or the last one stands behind it. -/
lemma last_or_before_last {before after : List TypeDecl}
    (hsplit : ds ++ [d] = before ++ e :: after) :
    (after = [] ∧ e = d) ∨ ∃ after', after = after' ++ [d] ∧ ds = before ++ e :: after' := by
  rcases List.eq_nil_or_concat after with rfl | ⟨after', f, rfl⟩
  · have hlast : [d] = [e] := (List.append_inj' hsplit rfl).2
    exact Or.inl ⟨rfl, (List.singleton_inj.1 hlast).symm⟩
  · rw [List.concat_eq_append, ← List.cons_append, ← List.append_assoc] at hsplit
    obtain ⟨hinit, hlast⟩ := List.append_inj' hsplit rfl
    rw [List.concat_eq_append, ← List.singleton_inj.1 hlast]
    exact Or.inr ⟨after', rfl, hinit⟩

/-- One more registration is the last one of its name, and takes that place from an earlier one. -/
lemma isLatest_concat_iff :
    IsLatest (ds ++ [d]) e ↔ e = d ∨ IsLatest ds e ∧ trim e.name ≠ trim d.name := by
  constructor
  · rintro ⟨before, after, hsplit, hafter⟩
    rcases last_or_before_last hsplit with ⟨-, rfl⟩ | ⟨after', rfl, hinit⟩
    · exact Or.inl rfl
    · obtain ⟨hafter', hd⟩ := List.forall_mem_append.1 hafter
      exact Or.inr ⟨⟨before, after', hinit, hafter'⟩, (hd d List.mem_cons_self).symm⟩
  · rintro (rfl | ⟨⟨before, after, rfl, hafter⟩, hne⟩)
    · exact ⟨ds, [], rfl, by simp⟩
    · refine ⟨before, after ++ [d], by simp, List.forall_mem_append.2 ⟨hafter, ?_⟩⟩
      simpa using hne.symm

/-- What is listed are the last declarations, trimmed. -/
lemma mem_decls_registerAll_iff :
    d ∈ (empty.registerAll ds).decls ↔ ∃ e, IsLatest ds e ∧ e.trimmed = d := by
  induction ds using List.reverseRecOn generalizing d with
  | nil =>
    refine iff_of_false List.not_mem_nil ?_
    rintro ⟨e, ⟨before, after, hsplit, -⟩, -⟩
    simp at hsplit
  | append_singleton ds last ih =>
    rw [registerAll_concat, mem_decls_register, ih]
    simp only [isLatest_concat_iff]
    constructor
    · rintro (rfl | ⟨⟨e, he, rfl⟩, hne⟩)
      · exact ⟨last, Or.inl rfl, rfl⟩
      · exact ⟨e, Or.inr ⟨he, hne⟩, rfl⟩
    · rintro ⟨e, rfl | ⟨he, hne⟩, rfl⟩
      · exact Or.inl rfl
      · exact Or.inr ⟨⟨e, he, rfl⟩, hne⟩

lemma links_iff : Links ds a b ↔
    ∃ d, IsLatest ds d ∧ trim d.name = a ∧ d.parent.map trim = some b := by
  constructor
  · rintro ⟨before, d, after, parent, hsplit, rfl, hafter, hparent, rfl⟩
    exact ⟨d, ⟨before, after, hsplit, hafter⟩, rfl, Option.map_eq_some_iff.2 ⟨parent, hparent, rfl⟩⟩
  · rintro ⟨d, ⟨before, after, hsplit, hafter⟩, rfl, hmap⟩
    obtain ⟨parent, hparent, rfl⟩ := Option.map_eq_some_iff.1 hmap
    exact ⟨before, d, after, parent, hsplit, rfl, hafter, hparent, rfl⟩

/-- The links of the classpath are those that the last registrations say. -/
lemma extends_registerAll_iff (ds : List TypeDecl) (a b : String) :
    (empty.registerAll ds).Extends a b ↔ Links ds a b := by
  rw [links_iff]
  constructor
  · rintro ⟨d, hd, rfl, hparent⟩
    obtain ⟨e, he, rfl⟩ := mem_decls_registerAll_iff.1 hd
    exact ⟨e, he, rfl, hparent⟩
  · rintro ⟨e, he, rfl, hparent⟩
    exact ⟨e.trimmed, mem_decls_registerAll_iff.2 ⟨e, he, rfl⟩, rfl, hparent⟩

/-- More steps than there are declarations find nothing more. -/
lemma reaches_eq_isSubtype {steps : Nat} (hsteps : cp.size ≤ steps) :
    cp.reaches b steps a = cp.isSubtype a b := by
  rw [Bool.eq_iff_iff]
  constructor
  · intro h
    exact isSubtype_iff.2 (reflTransGen_of_reaches h)
  · intro h
    obtain ⟨names, hnodup, hchain⟩ := exists_nodup_chain (isSubtype_iff.1 h)
    have hlength : names.length ≤ steps := (hchain.length_le_size hnodup).trans hsteps
    exact reaches_of_chain hchain hlength

/-- **After any registrations a type is a subtype of exactly those that links lead to**, through any
number of registered declarations and whether or not the last name is registered.  The bound on the
search plays no part in that: any larger one gives the same answers.  So every name is a subtype of
itself, and a subtype of a subtype is one. -/
theorem isSubtype_registerAll_iff (ds : List TypeDecl) :
    (∀ a b, (empty.registerAll ds).isSubtype a b = true ↔
      Relation.ReflTransGen (Links ds) a b) ∧
    (∀ a b steps, (empty.registerAll ds).size ≤ steps →
      (empty.registerAll ds).reaches b steps a = (empty.registerAll ds).isSubtype a b) ∧
    (∀ a, (empty.registerAll ds).isSubtype a a = true) ∧
    ∀ a b c, (empty.registerAll ds).isSubtype a b = true →
      (empty.registerAll ds).isSubtype b c = true →
      (empty.registerAll ds).isSubtype a c = true := by
  have hlinks : (empty.registerAll ds).Extends = Links ds := by
    funext a b
    exact propext (extends_registerAll_iff ds a b)
  have hiff : ∀ a b, (empty.registerAll ds).isSubtype a b = true ↔
      Relation.ReflTransGen (Links ds) a b := by
    intro a b
    rw [isSubtype_iff, hlinks]
  refine ⟨hiff, fun a b steps hsteps => reaches_eq_isSubtype hsteps, ?_, ?_⟩
  · intro a
    exact (hiff a a).2 .refl
  · intro a b c hab hbc
    exact (hiff a c).2 (((hiff a b).1 hab).trans ((hiff b c).1 hbc))

/-- The classpath of a configuration has got registrations like any other. -/
example (ds : List TypeDecl) : ofDecls ds = empty.registerAll (.ofName objectName :: ds) := rfl

/-- A chain that takes in all registered types and ends with a name that is not registered. -/
example : (empty.registerAll
    [⟨"com.example.B", none, true⟩, ⟨" com.example.A", some "com.example.B ", true⟩,
      ⟨"com.example.B", some "com.example.C", false⟩]).isSubtype "com.example.A" "com.example.C" =
    true := by
  decide +kernel

end ClassGen.Classpath
