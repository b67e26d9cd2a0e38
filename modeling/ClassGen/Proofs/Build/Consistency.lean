/-
# Consistent model files

A model file is consistent when its package can hold classes, its classes get distinct names, the
fields of each class get distinct names and every field has the written type of a field.  Exactly
the consistent files make a code model, and the model mirrors the file class by class and field by
field.  Any other file is refused at its first offence (`ModelFile.build_iff_consistent`).

In the order of offences a class stands after its fields, and the repeated name of a field before
its type.
-/
import Mathlib.Data.List.Nodup
import ClassGen.Model.Build
import ClassGen.Proofs.Traversal
import ClassGen.Proofs.TypeRef.Basic

namespace ClassGen

open Text

namespace FieldSpec

/-- The written type is one that a field can have. -/
def HasType (spec : FieldSpec) : Prop :=
  ∃ t, TypeRef.parse spec.type = .ok t ∧ t ≠ .primitive .void

/-- Why the written type is not one that a field can have. -/
inductive TypeFault (spec : FieldSpec) : NameError → Prop
  | unreadable {cause : NameError} : TypeRef.parse spec.type = .error cause → TypeFault spec cause
  | void : TypeRef.parse spec.type = .ok (.primitive .void) →
      TypeFault spec (.invalidType spec.type)

/-- Fields that can be the fields of one class. -/
structure Fit (specs : List FieldSpec) : Prop where
  distinct : (specs.map fun f => fieldName f.name).Nodup
  typed : ∀ f ∈ specs, f.HasType

/-- The offence of a field of the class `cls` that comes after the fields `before`. -/
inductive Offence (cls : String) (before : List FieldSpec) (spec : FieldSpec) : BuildError → Prop
  | repeated : fieldName spec.name ∈ before.map (fun f => fieldName f.name) →
      Offence cls before spec (.duplicateField cls (fieldName spec.name))
  | type {cause : NameError} : fieldName spec.name ∉ before.map (fun f => fieldName f.name) →
      spec.TypeFault cause →
      Offence cls before spec (.invalidFieldType cls (fieldName spec.name) cause)

/-- The offence of the first of the fields that has one. -/
def FirstOffence (cls : String) (specs : List FieldSpec) (e : BuildError) : Prop :=
  ∃ before spec after, specs = before ++ spec :: after ∧ Fit before ∧ spec.Offence cls before e

/-- The field has the name and the description that the file gives it. -/
structure Mirrored (spec : FieldSpec) (field : Field) : Prop where
  name : field.name = fieldName spec.name
  description : field.description = spec.description

end FieldSpec

namespace ClassSpec

/-- Classes that can be the classes of one file. -/
structure Fit (specs : List ClassSpec) : Prop where
  distinct : (specs.map fun c => className c.name).Nodup
  fields : ∀ c ∈ specs, FieldSpec.Fit c.fields

/-- The offence of a class that comes after the classes `before`. -/
inductive Offence (before : List ClassSpec) (spec : ClassSpec) : BuildError → Prop
  | field {e : BuildError} : FieldSpec.FirstOffence (className spec.name) spec.fields e →
      Offence before spec e
  | repeated : FieldSpec.Fit spec.fields →
      className spec.name ∈ before.map (fun c => className c.name) →
      Offence before spec (.duplicateClass (className spec.name))

/-- The class of the package has the name, the description and the fields that the file gives it,
and no methods. -/
structure Mirrored (package : String) (spec : ClassSpec) (cls : ClassDef) : Prop where
  name : cls.name = ⟨package, className spec.name⟩
  description : cls.description = spec.description
  fields : List.Forall₂ FieldSpec.Mirrored spec.fields cls.fields
  methods : cls.methods = []

end ClassSpec

namespace ModelFile

/-- The package that the file asks for can hold classes: it is the empty one, or its segments are
identifiers. -/
def HasPackage (file : ModelFile) : Prop :=
  trim file.package = "" ∨ ∀ s ∈ segments (trim file.package), isIdentifier s = true

/-- The file describes a code model. -/
structure Consistent (file : ModelFile) : Prop where
  package : file.HasPackage
  fields_distinct : ∀ c ∈ file.classes, (c.fields.map fun f => fieldName f.name).Nodup
  fields_typed : ∀ c ∈ file.classes, ∀ f ∈ c.fields, f.HasType
  classes_distinct : (file.classes.map fun c => className c.name).Nodup

/-- The first offence of the file: its package, or else that of the first class that has one. -/
inductive FirstOffence (file : ModelFile) : BuildError → Prop
  | package : ¬ file.HasPackage → FirstOffence file (.invalidPackage (trim file.package))
  | cls {before after : List ClassSpec} {spec : ClassSpec} {e : BuildError} :
      file.HasPackage → file.classes = before ++ spec :: after →
      ClassSpec.Fit before → spec.Offence before e → FirstOffence file e

/-- The code model has the package and the classes that the file describes, in order. -/
structure Mirrored (file : ModelFile) (m : CodeModel) : Prop where
  package : m.package = trim file.package
  classes : List.Forall₂ (ClassSpec.Mirrored (trim file.package)) file.classes m.classes

end ModelFile

/-! ### The fields of a class -/

namespace FieldSpec

variable {file : ModelFile} {cls : String} {seen : List String} {spec : FieldSpec}
  {specs : List FieldSpec}

/-- The field that is made from the description: its type is the written one, with the names of
the file's classes followed. -/
def Makes (file : ModelFile) (spec : FieldSpec) (field : Field) : Prop :=
  ∃ t, TypeRef.parse spec.type = .ok t ∧ t ≠ .primitive .void ∧
    field = ⟨fieldName spec.name, t.mapNames file.resolve, spec.description⟩

lemma readType_eq_ok_iff {t : TypeRef} :
    spec.readType = .ok t ↔ TypeRef.parse spec.type = .ok t ∧ t ≠ .primitive .void := by
  rw [readType]
  rcases hparse : TypeRef.parse spec.type with e | u
  · simp
  · rcases hvoid : u.isVoid with _ | _
    · simp only [hvoid, Bool.false_eq_true, if_false, Except.ok.injEq]
      constructor
      · rintro rfl
        exact ⟨rfl, TypeRef.isVoid_eq_false_iff.1 hvoid⟩
      · exact fun h => h.1
    · simp only [hvoid, if_true, reduceCtorEq, Except.ok.injEq, false_iff, not_and, not_not]
      rintro rfl
      exact TypeRef.isVoid_iff.1 hvoid

lemma readType_eq_error_iff {cause : NameError} :
    spec.readType = .error cause ↔ spec.TypeFault cause := by
  rw [readType]
  constructor
  · intro h
    rcases hparse : TypeRef.parse spec.type with e | u
    · simp only [hparse, Except.error.injEq] at h
      exact h ▸ .unreadable hparse
    · simp only [hparse] at h
      split at h
      · rename_i hvoid
        simp only [Except.error.injEq] at h
        rw [TypeRef.isVoid_iff] at hvoid
        exact h ▸ .void (hvoid ▸ hparse)
      · exact absurd h (by simp)
  · intro h
    cases h with
    | unreadable hparse => simp [hparse]
    | void hparse => simp [hparse, TypeRef.isVoid]

lemma build_eq_ok_iff {field : Field} :
    build file cls seen spec = .ok field ↔ fieldName spec.name ∉ seen ∧ spec.Makes file field := by
  simp only [build, Makes, ← and_assoc, ← readType_eq_ok_iff]
  by_cases hseen : fieldName spec.name ∈ seen
  · simp [hseen]
  · rcases hread : spec.readType with e | t
    · simp [hseen]
    · simp [hseen, eq_comm]

lemma build_eq_error_iff (before : List FieldSpec) {e : BuildError}
    (hseen : ∀ n, n ∈ seen ↔ n ∈ before.map fun f => fieldName f.name) :
    build file cls seen spec = .error e ↔ spec.Offence cls before e := by
  have hname := hseen (fieldName spec.name)
  rw [build]
  constructor
  · intro h
    by_cases hmem : fieldName spec.name ∈ seen
    · simp only [List.contains_iff_mem, hmem, if_true, Except.error.injEq] at h
      exact h ▸ .repeated (hname.1 hmem)
    · rcases hread : spec.readType with cause | t
      · simp only [List.contains_iff_mem, hmem, if_false, hread, Except.error.injEq] at h
        exact h ▸ .type (fun hbefore => hmem (hname.2 hbefore)) (readType_eq_error_iff.1 hread)
      · simp [hmem, hread] at h
  · intro h
    cases h with
    | repeated hbefore => simp [hname.2 hbefore]
    | type hbefore hfault =>
      have hmem : fieldName spec.name ∉ seen := fun hmem => hbefore (hname.1 hmem)
      simp [hmem, readType_eq_error_iff.2 hfault]

lemma buildAll_eq_run : buildAll file cls seen specs =
    Traversal.run (build file cls) Field.name seen specs := by
  induction specs generalizing seen with
  | nil => rfl
  | cons spec specs ih =>
    rw [buildAll, Traversal.run]
    rcases build file cls seen spec with e | field
    · rfl
    · simp only [ih]
      rcases Traversal.run (build file cls) Field.name (field.name :: seen) specs with e | fields
      · rfl
      · rfl

lemma name_of_makes {field : Field} (h : spec.Makes file field) :
    field.name = fieldName spec.name := by
  obtain ⟨t, -, -, rfl⟩ := h
  rfl

lemma mirrored_of_makes {field : Field} (h : spec.Makes file field) : spec.Mirrored field := by
  obtain ⟨t, -, -, rfl⟩ := h
  exact ⟨rfl, rfl⟩

lemma exists_makes_iff : (∃ field, spec.Makes file field) ↔ spec.HasType := by
  constructor
  · rintro ⟨field, t, hparse, hvoid, -⟩
    exact ⟨t, hparse, hvoid⟩
  · rintro ⟨t, hparse, hvoid⟩
    exact ⟨_, t, hparse, hvoid, rfl⟩

lemma buildAll_eq_ok_iff {fields : List Field} :
    buildAll file cls [] specs = .ok fields ↔
      (specs.map fun f => fieldName f.name).Nodup ∧ List.Forall₂ (Makes file) specs fields := by
  rw [buildAll_eq_run, Traversal.run_eq_ok_iff (fun f : FieldSpec => fieldName f.name) (Makes file)
    (fun _ _ _ => build_eq_ok_iff) (fun _ _ => name_of_makes)]
  simp

/-- The fields are made exactly when they can be the fields of one class. -/
lemma exists_buildAll_iff (file : ModelFile) (cls : String) :
    (∃ fields, buildAll file cls [] specs = .ok fields) ↔ Fit specs := by
  simp only [buildAll_eq_ok_iff, exists_and_left, Traversal.exists_forall₂_iff, exists_makes_iff]
  exact ⟨fun h => ⟨h.1, h.2⟩, fun h => ⟨h.distinct, h.typed⟩⟩

lemma buildAll_eq_error_iff (file : ModelFile) (cls : String) {e : BuildError} :
    buildAll file cls [] specs = .error e ↔ FirstOffence cls specs e := by
  rw [buildAll_eq_run, Traversal.run_eq_error_iff_of_offence (fun f : FieldSpec => fieldName f.name)
    (Makes file) (fun _ _ _ => build_eq_ok_iff) (fun _ _ => name_of_makes)
    (fun before _ _ _ => build_eq_error_iff before)]
  simp only [← buildAll_eq_run, exists_buildAll_iff, FirstOffence]

end FieldSpec

/-! ### The classes of a file -/

namespace ClassSpec

variable {file : ModelFile} {package : String} {seen : List String} {spec : ClassSpec}
  {specs : List ClassSpec} {cls : ClassDef}

/-- One class, refused also when its name is among those of the classes before it. -/
def step (file : ModelFile) (package : String) (seen : List String) (spec : ClassSpec) :
    Except BuildError ClassDef :=
  match build file package spec with
  | .error e => .error e
  | .ok cls =>
    if seen.contains cls.name.simple then .error (.duplicateClass cls.name.simple) else .ok cls

lemma build_eq_ok_iff : build file package spec = .ok cls ↔
    ∃ fields, FieldSpec.buildAll file (className spec.name) [] spec.fields = .ok fields ∧
      cls = ⟨⟨package, className spec.name⟩, spec.description, fields, []⟩ := by
  rw [build]
  rcases FieldSpec.buildAll file (className spec.name) [] spec.fields with e | fields
  · simp
  · simp [eq_comm]

lemma build_eq_error_iff {e : BuildError} : build file package spec = .error e ↔
    FieldSpec.FirstOffence (className spec.name) spec.fields e := by
  rw [← FieldSpec.buildAll_eq_error_iff file, build]
  rcases FieldSpec.buildAll file (className spec.name) [] spec.fields with e' | fields
  · simp
  · simp

lemma simple_of_build (h : build file package spec = .ok cls) :
    cls.name.simple = className spec.name := by
  obtain ⟨fields, -, rfl⟩ := build_eq_ok_iff.1 h
  rfl

lemma exists_build_iff (file : ModelFile) (package : String) :
    (∃ cls, build file package spec = .ok cls) ↔ FieldSpec.Fit spec.fields := by
  rw [← FieldSpec.exists_buildAll_iff file (className spec.name)]
  simp only [build_eq_ok_iff]
  constructor
  · rintro ⟨cls, fields, hfields, -⟩
    exact ⟨fields, hfields⟩
  · rintro ⟨fields, hfields⟩
    exact ⟨_, fields, hfields, rfl⟩

lemma mirrored_of_build (h : build file package spec = .ok cls) : spec.Mirrored package cls := by
  obtain ⟨fields, hfields, rfl⟩ := build_eq_ok_iff.1 h
  have hmakes := (FieldSpec.buildAll_eq_ok_iff.1 hfields).2
  exact ⟨rfl, rfl, hmakes.imp fun _ _ => FieldSpec.mirrored_of_makes, rfl⟩

lemma step_eq_ok_iff : step file package seen spec = .ok cls ↔
    className spec.name ∉ seen ∧ build file package spec = .ok cls := by
  rw [step]
  rcases hbuild : build file package spec with e | cls'
  · simp
  · by_cases hmem : className spec.name ∈ seen
    · simp [simple_of_build hbuild, hmem]
    · simp [simple_of_build hbuild, hmem]

lemma step_eq_error_iff (before : List ClassSpec) {e : BuildError}
    (hseen : ∀ n, n ∈ seen ↔ n ∈ before.map fun c => className c.name) :
    step file package seen spec = .error e ↔ spec.Offence before e := by
  have hname := hseen (className spec.name)
  rw [step]
  constructor
  · intro h
    rcases hbuild : build file package spec with e' | cls
    · simp only [hbuild, Except.error.injEq] at h
      exact h ▸ .field (build_eq_error_iff.1 hbuild)
    · by_cases hmem : className spec.name ∈ seen
      · simp only [hbuild, simple_of_build hbuild, List.contains_iff_mem, hmem, if_true,
          Except.error.injEq] at h
        exact h ▸ .repeated ((exists_build_iff file package).1 ⟨cls, hbuild⟩) (hname.1 hmem)
      · simp [hbuild, simple_of_build hbuild, hmem] at h
  · intro h
    cases h with
    | field hfields => simp [build_eq_error_iff.2 hfields]
    | repeated hfit hbefore =>
      obtain ⟨cls, hbuild⟩ := (exists_build_iff file package).2 hfit
      simp [hbuild, simple_of_build hbuild, hname.2 hbefore]

lemma buildAll_eq_run : buildAll file package seen specs =
    Traversal.run (step file package) (·.name.simple) seen specs := by
  induction specs generalizing seen with
  | nil => rfl
  | cons spec specs ih =>
    rw [buildAll, Traversal.run, step]
    rcases build file package spec with e | cls
    · rfl
    · by_cases hmem : cls.name.simple ∈ seen
      · simp [hmem]
      · simp only [List.contains_iff_mem, hmem, if_false, ih]
        rcases Traversal.run (step file package) (·.name.simple) (cls.name.simple :: seen) specs
          with e | classes
        · rfl
        · rfl

lemma buildAll_eq_ok_iff {classes : List ClassDef} :
    buildAll file package [] specs = .ok classes ↔
      (specs.map fun c => className c.name).Nodup ∧
        List.Forall₂ (fun spec cls => build file package spec = .ok cls) specs classes := by
  rw [buildAll_eq_run, Traversal.run_eq_ok_iff (fun c : ClassSpec => className c.name)
    (fun spec cls => build file package spec = .ok cls) (fun _ _ _ => step_eq_ok_iff)
    (fun _ _ => simple_of_build)]
  simp

lemma exists_buildAll_iff (file : ModelFile) (package : String) :
    (∃ classes, buildAll file package [] specs = .ok classes) ↔ Fit specs := by
  simp only [buildAll_eq_ok_iff, exists_and_left, Traversal.exists_forall₂_iff, exists_build_iff]
  exact ⟨fun h => ⟨h.1, h.2⟩, fun h => ⟨h.distinct, h.fields⟩⟩

lemma buildAll_eq_error_iff {e : BuildError} :
    buildAll file package [] specs = .error e ↔
      ∃ before spec after, specs = before ++ spec :: after ∧ Fit before ∧ spec.Offence before e := by
  rw [buildAll_eq_run, Traversal.run_eq_error_iff_of_offence
    (fun c : ClassSpec => className c.name) (fun spec cls => build file package spec = .ok cls)
    (fun _ _ _ => step_eq_ok_iff) (fun _ _ => simple_of_build)
    (fun before _ _ _ => step_eq_error_iff before)]
  simp only [← buildAll_eq_run, exists_buildAll_iff]

end ClassSpec

/-! ### The file as a whole -/

/-- Where the simple names are distinct, looking one up finds the class that has it. -/
lemma CodeModel.class?_eq_some {m : CodeModel} {cls : ClassDef}
    (hnodup : (m.classes.map (·.name.simple)).Nodup) (hcls : cls ∈ m.classes) :
    m.class? cls.name.simple = some cls := by
  have hfound : (m.class? cls.name.simple).isSome := List.find?_isSome.2 ⟨cls, hcls, by simp⟩
  obtain ⟨c, hc⟩ := Option.isSome_iff_exists.1 hfound
  have hmem : c ∈ m.classes := List.mem_of_find?_eq_some hc
  have hsimple : c.name.simple = cls.name.simple := by simpa using List.find?_some hc
  rw [hc, List.inj_on_of_nodup_map hnodup hmem hcls hsimple]

namespace ModelFile

variable {file : ModelFile} {m : CodeModel}

lemma isPackage_iff : isPackage (trim file.package) = true ↔ file.HasPackage := by
  simp [isPackage, HasPackage, isDottedName]

lemma consistent_iff : file.Consistent ↔ file.HasPackage ∧ ClassSpec.Fit file.classes := by
  constructor
  · intro h
    exact ⟨h.package, h.classes_distinct, fun c hc => ⟨h.fields_distinct c hc, h.fields_typed c hc⟩⟩
  · rintro ⟨hpackage, hfit⟩
    exact ⟨hpackage, fun c hc => (hfit.fields c hc).distinct, fun c hc => (hfit.fields c hc).typed,
      hfit.distinct⟩

lemma build_eq_ok_iff : file.build = .ok m ↔ file.HasPackage ∧ m.package = trim file.package ∧
    ClassSpec.buildAll file (trim file.package) [] file.classes = .ok m.classes := by
  obtain ⟨package, classes⟩ := m
  rw [build, ← isPackage_iff]
  by_cases hpackage : isPackage (trim file.package) = true
  · rcases hclasses : ClassSpec.buildAll file (trim file.package) [] file.classes with e | classes'
    · simp [hpackage]
    · simp [hpackage, eq_comm]
  · simp [hpackage]

lemma build_eq_error_iff {e : BuildError} : file.build = .error e ↔ file.FirstOffence e := by
  rw [build]
  by_cases hpackage : isPackage (trim file.package) = true
  · simp only [hpackage, if_true]
    trans ClassSpec.buildAll file (trim file.package) [] file.classes = .error e
    · -- the package adds nothing to what the classes refuse
      rcases ClassSpec.buildAll file (trim file.package) [] file.classes with e' | classes
      · simp
      · simp
    · rw [ClassSpec.buildAll_eq_error_iff]
      rw [isPackage_iff] at hpackage
      constructor
      · rintro ⟨before, spec, after, hsplit, hfit, hoffence⟩
        exact .cls hpackage hsplit hfit hoffence
      · intro h
        cases h with
        | package hnot => exact absurd hpackage hnot
        | cls _ hsplit hfit hoffence => exact ⟨_, _, _, hsplit, hfit, hoffence⟩
  · simp only [hpackage, Bool.false_eq_true, if_false, Except.error.injEq]
    rw [isPackage_iff] at hpackage
    constructor
    · rintro rfl
      exact .package hpackage
    · intro h
      cases h with
      | package => rfl
      | cls hpackage' => exact absurd hpackage' hpackage

lemma exists_build_iff : (∃ m, file.build = .ok m) ↔ file.Consistent := by
  rw [consistent_iff, ← ClassSpec.exists_buildAll_iff file (trim file.package)]
  simp only [build_eq_ok_iff]
  constructor
  · rintro ⟨m, hpackage, -, hclasses⟩
    exact ⟨hpackage, m.classes, hclasses⟩
  · rintro ⟨hpackage, classes, hclasses⟩
    exact ⟨⟨trim file.package, classes⟩, hpackage, rfl, hclasses⟩

lemma forall₂_build (h : file.build = .ok m) :
    List.Forall₂ (fun spec cls => ClassSpec.build file (trim file.package) spec = .ok cls)
      file.classes m.classes :=
  (ClassSpec.buildAll_eq_ok_iff.1 (build_eq_ok_iff.1 h).2.2).2

lemma mirrored_of_build (h : file.build = .ok m) : file.Mirrored m :=
  ⟨(build_eq_ok_iff.1 h).2.1, (forall₂_build h).imp fun _ _ => ClassSpec.mirrored_of_build⟩

lemma nodup_simple_of_build (h : file.build = .ok m) : (m.classes.map (·.name.simple)).Nodup := by
  obtain ⟨hnodup, hall⟩ := ClassSpec.buildAll_eq_ok_iff.1 (build_eq_ok_iff.1 h).2.2
  have hnames : m.classes.map (·.name.simple) = file.classes.map fun c => className c.name :=
    Traversal.map_eq_of_forall₂ hall fun _ _ => ClassSpec.simple_of_build
  rw [hnames]
  exact hnodup

lemma nodup_fields_of_build (h : file.build = .ok m) {cls : ClassDef} (hcls : cls ∈ m.classes) :
    (cls.fields.map (·.name)).Nodup := by
  obtain ⟨spec, -, hbuild⟩ := Traversal.exists_mem_of_forall₂ (forall₂_build h) hcls
  obtain ⟨fields, hfields, rfl⟩ := ClassSpec.build_eq_ok_iff.1 hbuild
  obtain ⟨hnodup, hall⟩ := FieldSpec.buildAll_eq_ok_iff.1 hfields
  have hnames : fields.map (·.name) = spec.fields.map fun f => fieldName f.name :=
    Traversal.map_eq_of_forall₂ hall fun _ _ => FieldSpec.name_of_makes
  rw [hnames]
  exact hnodup

lemma class?_of_build (h : file.build = .ok m) :
    List.Forall₂ (fun spec cls => m.class? (className spec.name) = some cls)
      file.classes m.classes := by
  have hall := forall₂_build h
  rw [List.forall₂_iff_zip]
  refine ⟨hall.length_eq, fun {spec cls} hzip => ?_⟩
  have hbuild := List.forall₂_zip hall hzip
  have hcls : cls ∈ m.classes := (List.of_mem_zip hzip).2
  rw [← ClassSpec.simple_of_build hbuild]
  exact CodeModel.class?_eq_some (nodup_simple_of_build h) hcls

/-- **Exactly the consistent files make a code model**, and any other is refused at its first
offence.  The model mirrors the file, its class and field names are distinct, and looking up the
name of the class of a description finds the class that was made from that description. -/
theorem build_iff_consistent (file : ModelFile) :
    ((∃ m, file.build = .ok m) ↔ file.Consistent) ∧
    (∀ e, file.build = .error e ↔ file.FirstOffence e) ∧
    ∀ m, file.build = .ok m →
      file.Mirrored m ∧ (m.classes.map (·.name.simple)).Nodup ∧
      (∀ cls ∈ m.classes, (cls.fields.map (·.name)).Nodup) ∧
      List.Forall₂ (fun spec cls => m.class? (className spec.name) = some cls)
        file.classes m.classes := by
  refine ⟨exists_build_iff, fun e => build_eq_error_iff, fun m h => ⟨?_, ?_, ?_, ?_⟩⟩
  · exact mirrored_of_build h
  · exact nodup_simple_of_build h
  · intro cls hcls
    exact nodup_fields_of_build h hcls
  · exact class?_of_build h

/-- The second class repeats a name, so does its second field, which is also of no type: the name
of the field comes first. -/
example :
    ModelFile.build ⟨"", [⟨"a", none, []⟩,
      ⟨"A", none, [⟨"x", "int", none⟩, ⟨"X", "void", none⟩]⟩]⟩ =
    .error (.duplicateField "A" "x") := by
  decide +kernel

end ModelFile

end ClassGen
