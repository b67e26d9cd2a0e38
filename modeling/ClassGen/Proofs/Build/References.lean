/-
# References to the classes of a file

A written type may name a class of the file by the name the file gives it, while the class made
from that description has another name.  Such references follow the class: they are replaced by
the name of the class, wherever they stand, and everything else in the type stays as it is
(`ModelFile.typesFollow_of_build`).

The name of a made class may also be the written name of another class of the file.  The
replacement is made once for every name, so such a reference still leads to the class that was
meant.
-/
import ClassGen.Proofs.Build.Consistency

namespace ClassGen

open Text

namespace ModelFile

/-- Where the file leads a class name of a written type. -/
inductive Leads (file : ModelFile) : ClassName → ClassName → Prop
  /-- The written name of a class of the file leads to the name that the class is given. -/
  | declared {spec : ClassSpec} : spec ∈ file.classes →
      Leads file ⟨"", spec.name⟩ ⟨"", className spec.name⟩
  /-- Any other name stays. -/
  | other {a : ClassName} : (∀ spec ∈ file.classes, a ≠ ⟨"", spec.name⟩) → Leads file a a

/-- The type is the written one of the description, but for the names that the file leads
elsewhere. -/
def Follows (file : ModelFile) (written type : TypeRef) : Prop :=
  TypeRef.Aligned file.Leads written type

end ModelFile

/-- The name has no package and means the class: the model has no other class of that simple
name. -/
structure CodeModel.Means (m : CodeModel) (a : ClassName) (cls : ClassDef) : Prop where
  unqualified : a.package = ""
  name : cls.name = ⟨m.package, a.simple⟩
  unique : ∀ c ∈ m.classes, c.name.simple = a.simple → c = cls

namespace ModelFile

/-- Where the written type names a class of the file, at any position, the type means the class
that is made from that very description. -/
def KeepsReferences (file : ModelFile) (m : CodeModel) (written type : TypeRef) : Prop :=
  ∀ (i : Nat) (spec : ClassSpec), file.classes[i]? = some spec → ∃ made, m.classes[i]? = some made ∧
    ∀ p : Nat, written.classNames[p]? = some ⟨"", spec.name⟩ →
      ∃ a, type.classNames[p]? = some a ∧ m.Means a made

/-- The fields of the model have the types that the file writes for them, led to the classes of the
model. -/
def TypesFollow (file : ModelFile) (m : CodeModel) : Prop :=
  List.Forall₂ (fun spec cls => List.Forall₂ (fun (f : FieldSpec) (field : Field) =>
      ∃ written, TypeRef.parse f.type = .ok written ∧ file.Follows written field.type ∧
        file.KeepsReferences m written field.type)
    spec.fields cls.fields) file.classes m.classes

variable {file : ModelFile} {m : CodeModel} {a b : ClassName} {spec : ClassSpec}

lemma declares_iff {name : String} :
    file.declares name = true ↔ ∃ spec ∈ file.classes, spec.name = name := by
  simp [declares]

lemma leads_resolve (file : ModelFile) (a : ClassName) : file.Leads a (file.resolve a) := by
  obtain ⟨package, simple⟩ := a
  unfold resolve
  split
  · rename_i h
    obtain ⟨rfl, hdeclares⟩ := h
    obtain ⟨spec, hspec, rfl⟩ := declares_iff.1 hdeclares
    exact .declared hspec
  · rename_i h
    refine .other fun spec hspec heq => h ?_
    rw [ClassName.mk.injEq] at heq
    exact ⟨heq.1, declares_iff.2 ⟨spec, hspec, heq.2.symm⟩⟩

/-- The written name of a class leads to the name of that class only, even if it is the name that
another class is given. -/
lemma eq_of_leads (hspec : spec ∈ file.classes) (h : file.Leads ⟨"", spec.name⟩ b) :
    b = ⟨"", className spec.name⟩ := by
  -- what a name leads to depends on the written names alone, never on the names that are given
  generalize ha : (⟨"", spec.name⟩ : ClassName) = a at h
  cases h with
  | declared =>
    rw [ClassName.mk.injEq] at ha
    rw [ha.2]
  | other hother => exact absurd ha.symm (hother spec hspec)

lemma getElem?_classNames_of_follows {written type : TypeRef} (h : file.Follows written type)
    (hspec : spec ∈ file.classes) {p : Nat} (hp : written.classNames[p]? = some ⟨"", spec.name⟩) :
    type.classNames[p]? = some ⟨"", className spec.name⟩ := by
  obtain ⟨b, hb, hleads⟩ := Traversal.exists_getElem?_of_forall₂ h.classNames hp
  rw [hb, eq_of_leads hspec hleads]

/-- The class that is made from a description is meant by the name that its written name leads
to. -/
lemma exists_means_of_build (h : file.build = .ok m) {i : Nat} (hi : file.classes[i]? = some spec) :
    ∃ cls, m.classes[i]? = some cls ∧ m.Means ⟨"", className spec.name⟩ cls := by
  obtain ⟨cls, hcls, hmirrored⟩ :=
    Traversal.exists_getElem?_of_forall₂ (mirrored_of_build h).classes hi
  refine ⟨cls, hcls, rfl, ?_, ?_⟩
  · rw [hmirrored.name, (mirrored_of_build h).package]
  · intro c hc hsimple
    have hmem : cls ∈ m.classes := List.mem_of_getElem? hcls
    have hname : c.name.simple = cls.name.simple := by rw [hsimple, hmirrored.name]
    exact List.inj_on_of_nodup_map (nodup_simple_of_build h) hc hmem hname

lemma keepsReferences_of_follows (h : file.build = .ok m) {written type : TypeRef}
    (hfollows : file.Follows written type) : file.KeepsReferences m written type := by
  intro i spec hi
  obtain ⟨made, hmade, hmeans⟩ := exists_means_of_build h hi
  refine ⟨made, hmade, fun p hp => ⟨_, ?_, hmeans⟩⟩
  exact getElem?_classNames_of_follows hfollows (List.mem_of_getElem? hi) hp

/-- **References follow the classes of the file to their new names.**  In the model that a file
describes, every field has its written type, in which exactly the written names of the classes of
the file are replaced; and each of these references, wherever the class stands, means the class
made from that description. -/
theorem typesFollow_of_build (h : file.build = .ok m) : file.TypesFollow m := by
  refine (forall₂_build h).imp fun spec cls hcls => ?_
  obtain ⟨fields, hfields, rfl⟩ := ClassSpec.build_eq_ok_iff.1 hcls
  refine (FieldSpec.buildAll_eq_ok_iff.1 hfields).2.imp fun f field hfield => ?_
  obtain ⟨written, hparse, -, rfl⟩ := hfield
  have hfollows : file.Follows written (written.mapNames file.resolve) :=
    TypeRef.aligned_mapNames (leads_resolve file) written
  exact ⟨written, hparse, hfollows, keepsReferences_of_follows h hfollows⟩

/-- A file in which the class of `u_s` gets the name `US` that another class is written with. -/
def regionFile : ModelFile :=
  ⟨" com.example ",
    [⟨"Region", none, [⟨"code", "US", none⟩, ⟨"all", "java.util.List<u_s[]>", none⟩]⟩,
     ⟨"u_s", some "A state.", [⟨"next", "u_s", none⟩, ⟨"rest", "Map<US, Region>", none⟩]⟩,
     ⟨"US", none, []⟩]⟩

/-- The model of the file. -/
def regionModel : CodeModel :=
  ⟨"com.example",
    [⟨⟨"com.example", "Region"⟩, none,
      [⟨"code", .named ⟨"", "Us"⟩ [], none⟩,
       ⟨"all", .named ⟨"java.util", "List"⟩ [.array (.named ⟨"", "US"⟩ [])], none⟩], []⟩,
     ⟨⟨"com.example", "US"⟩, some "A state.",
      [⟨"next", .named ⟨"", "US"⟩ [], none⟩,
       ⟨"rest", .named ⟨"", "Map"⟩ [.named ⟨"", "Us"⟩ [], .named ⟨"", "Region"⟩ []], none⟩], []⟩,
     ⟨⟨"com.example", "Us"⟩, none, [], []⟩]⟩

theorem typesFollow_regionModel :
    regionFile.build = .ok regionModel ∧ regionFile.TypesFollow regionModel := by
  have h : regionFile.build = .ok regionModel := by decide +kernel
  exact ⟨h, typesFollow_of_build h⟩

end ModelFile

end ClassGen
