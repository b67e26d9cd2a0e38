/-
# What a classpath records

Registering writes a record that is kept by name: names are compared without the blanks around
them, a name stands where it was registered first, and what stands there is the declaration that
was registered last.  The record holds names that are no class names, too, but no type can be loaded
by one.

`Classpath.Records` says this of a classpath and the registrations that it got, and says nothing of
how they are carried out.  There is exactly one such classpath, and it is the one that registering
yields (`Classpath.records_iff_eq_registerAll`).
-/
import Mathlib.Data.Finset.Card
import Mathlib.Data.List.Sort
import ClassGen.Proofs.Classpath.Registrations

namespace ClassGen.Classpath

open Text

variable {cp cp' : Classpath} {ds : List TypeDecl} {a b text : String}
  {answer : Except LoadError TypeDecl}

/-- The first name had been registered before the second one was for the first time. -/
def Earlier (ds : List TypeDecl) (a b : String) : Prop :=
  ∃ before, before <+: ds ∧ (∃ d ∈ before, trim d.name = a) ∧ ∀ d ∈ before, trim d.name ≠ b

/-- What is answered when a type is to be loaded after these registrations. -/
inductive Answer (ds : List TypeDecl) (text : String) : Except LoadError TypeDecl → Prop
  | invalidName : ¬ (∀ piece ∈ segments (trim text), isIdentifier piece = true) →
      Answer ds text (.error (.invalidName (trim text)))
  | classNotFound : (∀ piece ∈ segments (trim text), isIdentifier piece = true) →
      (∀ d ∈ ds, trim d.name ≠ trim text) → Answer ds text (.error (.classNotFound (trim text)))
  | found {d : TypeDecl} : (∀ piece ∈ segments (trim text), isIdentifier piece = true) →
      IsLatest ds d → trim d.name = trim text → Answer ds text (.ok d.trimmed)

/-- The classpath records the registrations: one declaration for each name, in the order in which
the names were registered first, and the last declaration of each. -/
structure Records (cp : Classpath) (ds : List TypeDecl) : Prop where
  nodup : (cp.decls.map (·.name)).Nodup
  mem_iff : ∀ d, d ∈ cp.decls ↔ ∃ e, IsLatest ds e ∧ e.trimmed = d
  order : (cp.decls.map (·.name)).Pairwise (Earlier ds)
  size : cp.size = (ds.map fun d => trim d.name).toFinset.card
  load_iff : ∀ text answer, cp.load text = answer ↔ Answer ds text answer

/-! ### The names and their order -/

lemma mem_names_iff :
    a ∈ (empty.registerAll ds).decls.map (·.name) ↔ ∃ d ∈ ds, trim d.name = a := by
  rw [mem_names_registerAll]
  exact or_iff_right List.not_mem_nil

lemma Earlier.concat (h : Earlier ds a b) (d : TypeDecl) : Earlier (ds ++ [d]) a b := by
  obtain ⟨before, hprefix, ha, hb⟩ := h
  exact ⟨before, hprefix.trans (List.prefix_append ds [d]), ha, hb⟩

lemma earlier_irrefl : ¬ Earlier ds a a := by
  rintro ⟨before, -, ⟨d, hd, rfl⟩, hnone⟩
  exact hnone d hd rfl

/-- Of two initial parts of the registrations the longer one holds what the shorter one holds. -/
lemma Earlier.asymm (hab : Earlier ds a b) : ¬ Earlier ds b a := by
  rintro ⟨before', hprefix', ⟨e, he, heb⟩, ha'⟩
  obtain ⟨before, hprefix, ⟨d, hd, hda⟩, hb⟩ := hab
  rcases List.prefix_or_prefix_of_prefix hprefix hprefix' with h | h
  · exact ha' d (h.subset hd) hda
  · exact hb e (h.subset he) heb

lemma pairwise_earlier (ds : List TypeDecl) :
    ((empty.registerAll ds).decls.map (·.name)).Pairwise (Earlier ds) := by
  induction ds using List.reverseRecOn with
  | nil => exact List.Pairwise.nil
  | append_singleton ds d ih =>
    have hold : ((empty.registerAll ds).decls.map (·.name)).Pairwise (Earlier (ds ++ [d])) :=
      ih.imp fun h => h.concat d
    rw [registerAll_concat, names_register]
    split
    · exact hold
    · rename_i hnew
      refine List.pairwise_append.2 ⟨hold, List.pairwise_singleton _ _, ?_⟩
      intro a ha b hb
      rw [List.mem_singleton.1 hb]
      refine ⟨ds, List.prefix_append ds [d], mem_names_iff.1 ha, ?_⟩
      intro e he heq
      exact hnew (mem_names_iff.2 ⟨e, he, heq⟩)

/-- Names keep their places: later ones come after them. -/
lemma names_prefix_registerAll (cp : Classpath) (ds : List TypeDecl) :
    cp.decls.map (·.name) <+: (cp.registerAll ds).decls.map (·.name) := by
  induction ds using List.reverseRecOn with
  | nil => exact List.prefix_refl _
  | append_singleton ds d ih =>
    rw [registerAll_concat, names_register]
    split
    · exact ih
    · exact ih.trans (List.prefix_append _ _)

/-! ### Counting and loading -/

lemma size_registerAll (ds : List TypeDecl) :
    (empty.registerAll ds).size = (ds.map fun d => trim d.name).toFinset.card := by
  have hnames : (ds.map fun d => trim d.name).toFinset =
      ((empty.registerAll ds).decls.map (·.name)).toFinset := by
    ext name
    rw [List.mem_toFinset, List.mem_toFinset, mem_names_iff, List.mem_map]
  rw [hnames, List.toFinset_card_of_nodup (empty.registerAll ds).nodup, List.length_map, size]

lemma load_registerAll_of_answer (h : Answer ds text answer) :
    (empty.registerAll ds).load text = answer := by
  cases h with
  | invalidName hdotted =>
    rw [← ClassName.isDottedName_iff, Bool.not_eq_true] at hdotted
    exact load_eq_error_iff.2 (Or.inl ⟨hdotted, rfl⟩)
  | classNotFound hdotted hnone =>
    refine load_eq_error_iff.2 (Or.inr ⟨ClassName.isDottedName_iff.2 hdotted, ?_, rfl⟩)
    intro d hd hname
    obtain ⟨e, he, hename⟩ := mem_names_iff.1 (List.mem_map_of_mem hd)
    exact hnone e he (hename.trans hname)
  | found hdotted hlatest hname =>
    have hmem := mem_decls_registerAll_iff.2 ⟨_, hlatest, rfl⟩
    exact load_eq_ok_iff.2 ⟨ClassName.isDottedName_iff.2 hdotted, hmem, hname⟩

lemma exists_answer (ds : List TypeDecl) (text : String) : ∃ answer, Answer ds text answer := by
  by_cases hdotted : ∀ piece ∈ segments (trim text), isIdentifier piece = true
  · by_cases hname : trim text ∈ (empty.registerAll ds).decls.map (·.name)
    · obtain ⟨d, hd, hdname⟩ := List.mem_map.1 hname
      obtain ⟨e, hlatest, rfl⟩ := mem_decls_registerAll_iff.1 hd
      exact ⟨_, .found hdotted hlatest hdname⟩
    · refine ⟨_, .classNotFound hdotted ?_⟩
      intro d hd heq
      exact hname (mem_names_iff.2 ⟨d, hd, heq⟩)
  · exact ⟨_, .invalidName hdotted⟩

lemma load_registerAll_iff :
    (empty.registerAll ds).load text = answer ↔ Answer ds text answer := by
  constructor
  · rintro rfl
    obtain ⟨answer, h⟩ := exists_answer ds text
    rwa [load_registerAll_of_answer h]
  · exact load_registerAll_of_answer

/-! ### The record -/

lemma records_registerAll (ds : List TypeDecl) : (empty.registerAll ds).Records ds where
  nodup := (empty.registerAll ds).nodup
  mem_iff _ := mem_decls_registerAll_iff
  order := pairwise_earlier ds
  size := size_registerAll ds
  load_iff _ _ := load_registerAll_iff

/-- The declarations and the order of their names determine a record. -/
lemma Records.unique (h : cp.Records ds) (h' : cp'.Records ds) : cp = cp' := by
  have hirrefl : Std.Irrefl fun d e : TypeDecl => Earlier ds d.name e.name :=
    ⟨fun _ => earlier_irrefl⟩
  have hantisymm : Std.Antisymm fun d e : TypeDecl => Earlier ds d.name e.name :=
    ⟨fun _ _ hde hed => absurd hed hde.asymm⟩
  have hdecls : cp.decls = cp'.decls := by
    refine (List.pairwise_map.1 h.order).eq_of_mem_iff (List.pairwise_map.1 h'.order) ?_
    intro d
    rw [h.mem_iff, h'.mem_iff]
  cases cp
  cases cp'
  congr

/-- **Registering keeps a record by name, whatever is registered and in whatever order**: the
classpath that results is the one that records the registrations.  A classpath that starts with the
root of all classes has got the declaration of that root first, and lists it first ever after. -/
theorem records_iff_eq_registerAll (ds : List TypeDecl) :
    (∀ cp : Classpath, cp.Records ds ↔ cp = empty.registerAll ds) ∧
    (∀ cp : Classpath, cp.Records (.ofName "java.lang.Object" :: ds) ↔ cp = base.registerAll ds) ∧
    (base.registerAll ds).decls.head?.map (·.name) = some "java.lang.Object" := by
  have hiff : ∀ (ds : List TypeDecl) (cp : Classpath),
      cp.Records ds ↔ cp = empty.registerAll ds := by
    intro ds cp
    constructor
    · intro h
      exact h.unique (records_registerAll ds)
    · rintro rfl
      exact records_registerAll ds
  have hbase : base.registerAll ds = empty.registerAll (.ofName "java.lang.Object" :: ds) := rfl
  refine ⟨hiff ds, fun cp => ?_, ?_⟩
  · rw [hbase]
    exact hiff _ cp
  · obtain ⟨rest, hrest⟩ := names_prefix_registerAll base ds
    have hhead : base.decls.map (·.name) = ["java.lang.Object"] := by decide
    rw [← List.head?_map, ← hrest, hhead]
    rfl

/-- A name that is registered again keeps its place, and a text that names no class has one. -/
example : (base.registerAll [⟨"com.example.A", none, true⟩, ⟨"no class", none, true⟩,
    ⟨" com.example.A ", some " com.example.B", false⟩]).decls =
      [.ofName "java.lang.Object", ⟨"com.example.A", some "com.example.B", false⟩,
        ⟨"no class", none, true⟩] := by
  decide +kernel

end ClassGen.Classpath
