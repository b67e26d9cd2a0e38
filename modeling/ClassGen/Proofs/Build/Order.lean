/-
# The order of a model file

Names of a file are compared, and references to its classes are led, by the names alone: it does not
count where a class or a field stands.  So a file whose classes and fields are put in another order
makes a code model exactly when the first one does, and the second model is the first with its
classes and fields in that other order (`ModelFile.build_of_permuted`).  Only which offence is the
first one depends on the order.

What happens to a position is kept as a permutation of all positions, which moves the members of a
list and leaves open what it does behind its end.
-/
import Mathlib.Data.List.Forall2
import Mathlib.Logic.Equiv.Basic
import ClassGen.Proofs.Build.Consistency

namespace ClassGen

open Text

/-! ### Files in another order -/

/-- Where the classes of a file go, and where the fields of each class go. -/
structure Reordering where
  /-- The new position of the class at a position. -/
  classes : Equiv.Perm ℕ
  /-- The new position of the field at a position, for the class at the given old position. -/
  fields : ℕ → Equiv.Perm ℕ

/-- The second class is the first one with its fields in the order that the permutation gives. -/
structure ClassSpec.ReorderedBy (τ : Equiv.Perm ℕ) (spec spec' : ClassSpec) : Prop where
  name : spec'.name = spec.name
  description : spec'.description = spec.description
  fields : ∀ j, spec'.fields[τ j]? = spec.fields[j]?

/-- The second file is the first one with its classes and their fields in the other order. -/
structure ModelFile.ReorderedBy (r : Reordering) (file file' : ModelFile) : Prop where
  package : file'.package = file.package
  classes : ∀ i, Option.Rel (ClassSpec.ReorderedBy (r.fields i))
    file.classes[i]? file'.classes[r.classes i]?

/-- The second class is the first one with its fields in the order that the permutation gives. -/
structure ClassDef.ReorderedBy (τ : Equiv.Perm ℕ) (cls cls' : ClassDef) : Prop where
  name : cls'.name = cls.name
  description : cls'.description = cls.description
  fields : ∀ j, cls'.fields[τ j]? = cls.fields[j]?
  methods : cls'.methods = cls.methods

/-- The second model is the first one with its classes and their fields in the other order. -/
structure CodeModel.ReorderedBy (r : Reordering) (m m' : CodeModel) : Prop where
  package : m'.package = m.package
  classes : ∀ i, Option.Rel (ClassDef.ReorderedBy (r.fields i))
    m.classes[i]? m'.classes[r.classes i]?

/-- The descriptions differ in the order of their fields at most. -/
structure ClassSpec.Permuted (spec spec' : ClassSpec) : Prop where
  name : spec'.name = spec.name
  description : spec'.description = spec.description
  fields : spec.fields.Perm spec'.fields

/-- The files differ in the order of their classes, and these in the order of their fields, at
most. -/
structure ModelFile.Permuted (file file' : ModelFile) : Prop where
  package : file'.package = file.package
  classes : ∃ specs, file.classes.Perm specs ∧
    List.Forall₂ ClassSpec.Permuted specs file'.classes

/-! ### Positions -/

section Positions

variable {α β : Type} {as bs : List α}

/-- The permutation of all positions behind the first one, which stays. -/
def behindFirst (σ : Equiv.Perm ℕ) : Equiv.Perm ℕ where
  toFun
    | 0 => 0
    | i + 1 => σ i + 1
  invFun
    | 0 => 0
    | i + 1 => σ.symm i + 1
  left_inv i := by cases i <;> simp
  right_inv i := by cases i <;> simp

/-- Lists with the same members in any order differ by a permutation of the positions. -/
lemma exists_positions_of_perm (h : as.Perm bs) :
    ∃ σ : Equiv.Perm ℕ, ∀ i, bs[σ i]? = as[i]? := by
  induction h with
  | nil => exact ⟨Equiv.refl ℕ, fun i => rfl⟩
  | cons a _ ih =>
    obtain ⟨σ, hσ⟩ := ih
    refine ⟨behindFirst σ, fun i => ?_⟩
    cases i with
    | zero => rfl
    | succ i => exact hσ i
  | swap a b l =>
    refine ⟨Equiv.swap 0 1, fun i => ?_⟩
    rcases i with _ | _ | i
    · rfl
    · rfl
    · rw [Equiv.swap_apply_of_ne_of_ne (by omega) (by omega)]
      rfl
  | trans _ _ ih ih' =>
    obtain ⟨σ, hσ⟩ := ih
    obtain ⟨σ', hσ'⟩ := ih'
    refine ⟨σ.trans σ', fun i => ?_⟩
    rw [Equiv.trans_apply, hσ', hσ]

lemma rel_getElem?_of_forall₂ {R : α → β → Prop} {bs : List β} (h : List.Forall₂ R as bs) (i : ℕ) :
    Option.Rel R as[i]? bs[i]? := by
  induction h generalizing i with
  | nil => exact .none
  | cons hfirst _ ih =>
    cases i with
    | zero => exact .some hfirst
    | succ i => exact ih i

lemma forall_mem_iff_of_forall₂ {R : α → β → Prop} {P : α → Prop} {Q : β → Prop} {bs : List β}
    (h : List.Forall₂ R as bs) (hR : ∀ a b, R a b → (P a ↔ Q b)) :
    (∀ a ∈ as, P a) ↔ ∀ b ∈ bs, Q b := by
  induction h with
  | nil => simp
  | cons hfirst _ ih => rw [List.forall_mem_cons, List.forall_mem_cons, ih, hR _ _ hfirst]

end Positions

/-! ### The order does not decide whether a model is made -/

variable {file file' : ModelFile} {m m' : CodeModel} {r : Reordering}

lemma FieldSpec.fit_iff_of_perm {specs specs' : List FieldSpec} (h : specs.Perm specs') :
    Fit specs ↔ Fit specs' := by
  have hnames := (h.map fun f => fieldName f.name).nodup_iff
  have htypes : (∀ f ∈ specs, f.HasType) ↔ ∀ f ∈ specs', f.HasType := by
    simp only [h.mem_iff]
  constructor
  · intro hfit
    exact ⟨hnames.1 hfit.distinct, htypes.1 hfit.typed⟩
  · intro hfit
    exact ⟨hnames.2 hfit.distinct, htypes.2 hfit.typed⟩

namespace ModelFile

/-- The written names are the same, in another order. -/
lemma Permuted.names (h : file.Permuted file') :
    (file.classes.map (·.name)).Perm (file'.classes.map (·.name)) := by
  obtain ⟨specs, hperm, hall⟩ := h.classes
  have hnames : file'.classes.map (·.name) = specs.map (·.name) :=
    Traversal.map_eq_of_forall₂ hall fun _ _ hspec => hspec.name
  rw [hnames]
  exact hperm.map _

lemma Permuted.fit_iff (h : file.Permuted file') :
    ClassSpec.Fit file.classes ↔ ClassSpec.Fit file'.classes := by
  have hnames : (file.classes.map fun c => className c.name).Nodup ↔
      (file'.classes.map fun c => className c.name).Nodup := by
    have hperm := (h.names.map className).nodup_iff
    simpa [List.map_map, Function.comp_def] using hperm
  have hfields : (∀ c ∈ file.classes, FieldSpec.Fit c.fields) ↔
      ∀ c ∈ file'.classes, FieldSpec.Fit c.fields := by
    obtain ⟨specs, hperm, hall⟩ := h.classes
    rw [← forall_mem_iff_of_forall₂ hall fun _ _ hspec => FieldSpec.fit_iff_of_perm hspec.fields]
    simp only [hperm.mem_iff]
  constructor
  · intro hfit
    exact ⟨hnames.1 hfit.distinct, hfields.1 hfit.fields⟩
  · intro hfit
    exact ⟨hnames.2 hfit.distinct, hfields.2 hfit.fields⟩

lemma Permuted.exists_build_iff (h : file.Permuted file') :
    (∃ m, file.build = .ok m) ↔ ∃ m', file'.build = .ok m' := by
  have hpackage : file.HasPackage ↔ file'.HasPackage := by rw [HasPackage, HasPackage, h.package]
  rw [ModelFile.exists_build_iff, ModelFile.exists_build_iff, consistent_iff, consistent_iff,
    hpackage, h.fit_iff]

end ModelFile

/-! ### The model in the other order -/

/-- From one description only one field is made. -/
lemma FieldSpec.Makes.eq_of_resolve_eq (hresolve : file'.resolve = file.resolve) {spec : FieldSpec}
    {field field' : Field} (h : spec.Makes file field) (h' : spec.Makes file' field') :
    field' = field := by
  obtain ⟨t, hparse, -, rfl⟩ := h
  obtain ⟨t', hparse', -, rfl⟩ := h'
  obtain rfl : t = t' := Except.ok.inj (hparse.symm.trans hparse')
  rw [hresolve]

/-- Classes that are made of two such descriptions are in the same other order. -/
lemma ClassSpec.reorderedBy_of_build (hresolve : file'.resolve = file.resolve) {package : String}
    {τ : Equiv.Perm ℕ} {spec spec' : ClassSpec} {cls cls' : ClassDef}
    (hspec : spec.ReorderedBy τ spec') (h : ClassSpec.build file package spec = .ok cls)
    (h' : ClassSpec.build file' package spec' = .ok cls') : cls.ReorderedBy τ cls' := by
  obtain ⟨fields, hfields, rfl⟩ := ClassSpec.build_eq_ok_iff.1 h
  obtain ⟨fields', hfields', rfl⟩ := ClassSpec.build_eq_ok_iff.1 h'
  refine ⟨?_, hspec.description, fun j => ?_, rfl⟩
  · simp only [hspec.name]
  · -- both fields are made from the description that stands at the two positions
    have hmakes := rel_getElem?_of_forall₂ (FieldSpec.buildAll_eq_ok_iff.1 hfields).2 j
    have hmakes' := rel_getElem?_of_forall₂ (FieldSpec.buildAll_eq_ok_iff.1 hfields').2 (τ j)
    rw [hspec.fields j] at hmakes'
    change fields'[τ j]? = fields[j]?
    generalize spec.fields[j]? = written at hmakes hmakes'
    generalize fields[j]? = field at hmakes ⊢
    generalize fields'[τ j]? = field' at hmakes' ⊢
    cases hmakes with
    | none =>
      cases hmakes' with
      | none => rfl
    | some hfield =>
      cases hmakes' with
      | some hfield' => rw [hfield.eq_of_resolve_eq hresolve hfield']

namespace ModelFile

/-- References are led by the written names, wherever the classes stand. -/
lemma Permuted.resolve_eq (h : file.Permuted file') : file'.resolve = file.resolve := by
  have hdeclares : ∀ name, file'.declares name = file.declares name := by
    intro name
    have hmem : name ∈ file'.classes.map (·.name) ↔ name ∈ file.classes.map (·.name) :=
      h.names.symm.mem_iff
    rw [Bool.eq_iff_iff]
    simpa [declares] using hmem
  funext a
  rw [resolve, resolve, hdeclares]

lemma Permuted.reorderedBy_of_build (h : file.Permuted file') (hr : file.ReorderedBy r file')
    (hm : file.build = .ok m) (hm' : file'.build = .ok m') : m.ReorderedBy r m' := by
  have hpackage : trim file'.package = trim file.package := by rw [h.package]
  refine ⟨?_, fun i => ?_⟩
  · rw [(mirrored_of_build hm).package, (mirrored_of_build hm').package, hpackage]
  · have hspec := hr.classes i
    have hcls := rel_getElem?_of_forall₂ (forall₂_build hm) i
    have hcls' := rel_getElem?_of_forall₂ (forall₂_build hm') (r.classes i)
    rw [hpackage] at hcls'
    generalize file.classes[i]? = spec at hspec hcls
    generalize file'.classes[r.classes i]? = spec' at hspec hcls'
    generalize m.classes[i]? = cls at hcls ⊢
    generalize m'.classes[r.classes i]? = cls' at hcls' ⊢
    cases hspec with
    | none =>
      cases hcls with
      | none =>
        cases hcls' with
        | none => exact .none
    | some hspec =>
      cases hcls with
      | some hbuild =>
        cases hcls' with
        | some hbuild' =>
          exact .some (ClassSpec.reorderedBy_of_build h.resolve_eq hspec hbuild hbuild')

/-- A file with its classes and fields in another order is one with its positions permuted. -/
lemma Permuted.exists_reorderedBy (h : file.Permuted file') :
    ∃ r : Reordering, file.ReorderedBy r file' := by
  obtain ⟨specs, hperm, hall⟩ := h.classes
  obtain ⟨σ, hσ⟩ := exists_positions_of_perm hperm
  have hfields : ∀ i, ∃ τ : Equiv.Perm ℕ,
      Option.Rel (ClassSpec.ReorderedBy τ) file.classes[i]? file'.classes[σ i]? := by
    intro i
    have hspec := rel_getElem?_of_forall₂ hall (σ i)
    rw [hσ i] at hspec
    generalize file.classes[i]? = spec at hspec ⊢
    generalize file'.classes[σ i]? = spec' at hspec ⊢
    cases hspec with
    | none => exact ⟨Equiv.refl ℕ, .none⟩
    | some hspec =>
      obtain ⟨τ, hτ⟩ := exists_positions_of_perm hspec.fields
      exact ⟨τ, .some ⟨hspec.name, hspec.description, hτ⟩⟩
  choose τ hτ using hfields
  exact ⟨⟨σ, τ⟩, h.package, hτ⟩

/-- **The order of a model file does not matter.**  A file with its classes and the fields of its
classes in another order makes a code model exactly when the file does.  It differs from the file by
a permutation of positions, and by whichever permutation it does, the two models differ by that
permutation only: the class and the field at the new positions have the same name, type and
description, whatever classes the type refers to. -/
theorem build_of_permuted (h : file.Permuted file') :
    ((∃ m, file.build = .ok m) ↔ ∃ m', file'.build = .ok m') ∧
    (∃ r : Reordering, file.ReorderedBy r file') ∧
    ∀ r : Reordering, file.ReorderedBy r file' → ∀ m m', file.build = .ok m →
      file'.build = .ok m' → m.ReorderedBy r m' := by
  refine ⟨h.exists_build_iff, h.exists_reorderedBy, ?_⟩
  intro r hr m m' hm hm'
  exact h.reorderedBy_of_build hr hm hm'

/-- A file whose first class refers to one that comes later, by the name that the file gives it. -/
def parcelFile : ModelFile :=
  ⟨"com.example",
    [⟨"parcel", none, [⟨"weight", "int", none⟩, ⟨"ship_to", "USAddress[]", some "Where to."⟩]⟩,
     ⟨"USAddress", none, [⟨"street", "String", none⟩]⟩]⟩

/-- The file with its classes, and the fields of one of them, the other way round. -/
def turnedParcelFile : ModelFile :=
  ⟨"com.example",
    [⟨"USAddress", none, [⟨"street", "String", none⟩]⟩,
     ⟨"parcel", none, [⟨"ship_to", "USAddress[]", some "Where to."⟩, ⟨"weight", "int", none⟩]⟩]⟩

theorem build_turnedParcelFile :
    parcelFile.Permuted turnedParcelFile ∧ ∃ r m m', parcelFile.ReorderedBy r turnedParcelFile ∧
      parcelFile.build = .ok m ∧ turnedParcelFile.build = .ok m' ∧ m.ReorderedBy r m' := by
  have h : parcelFile.Permuted turnedParcelFile := by
    refine ⟨rfl, parcelFile.classes.reverse, (List.reverse_perm _).symm, ?_⟩
    exact .cons ⟨rfl, rfl, by decide⟩ (.cons ⟨rfl, rfl, by decide⟩ .nil)
  obtain ⟨hiff, ⟨r, hr⟩, hmodels⟩ := build_of_permuted h
  have hok : parcelFile.build.isOk = true := by decide +kernel
  obtain ⟨m, hm⟩ : ∃ m, parcelFile.build = .ok m := by
    rcases hbuild : parcelFile.build with e | m
    · rw [hbuild] at hok
      cases hok
    · exact ⟨m, rfl⟩
  obtain ⟨m', hm'⟩ := hiff.1 ⟨m, hm⟩
  exact ⟨h, r, m, m', hr, hm, hm', hmodels r hr m m' hm hm'⟩

end ModelFile

end ClassGen
