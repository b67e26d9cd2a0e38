/-
# Repeated names

A model file is refused where two of its classes, or two fields of one class, get one name.  From
two names in ASCII one name is made only if they are the same letters and digits, in other capitals
or with something else between their words.  So no file is refused because of two names that differ
in a letter or a digit (`withoutUnderscores_className_fieldName`).
-/
import ClassGen.Proofs.Build.Consistency
import ClassGen.Proofs.Naming.Lettering

namespace ClassGen

/-- Of the names, `earlier` and `later` stand at two places in this order, both are made into the
name `made`, and they are not told apart by a letter or a digit. -/
structure Repeats (make : String → String) (made : String) (names : List String)
    (earlier later : String) : Prop where
  order : [earlier, later].Sublist names
  made_earlier : make earlier = made
  made_later : make later = made
  not_toldApart : ¬ ToldApart earlier later

/-- Where the name made for a member has been made before it, two names are repeated. -/
lemma exists_repeats_of_mem {α : Type} {make : String → String}
    (hmake : ∀ {a b : String}, ToldApart a b → make a ≠ make b) {name : α → String}
    {before after : List α} {member : α}
    (hmem : make (name member) ∈ before.map fun a => make (name a)) :
    ∃ earlier later,
      Repeats make (make (name member)) ((before ++ member :: after).map name) earlier later := by
  obtain ⟨first, hfirst, hmade⟩ := List.mem_map.1 hmem
  refine ⟨name first, name member, ?_, hmade, rfl, fun htold => hmake htold hmade⟩
  -- the first of them stands before the member, so they are two although their names may be equal
  have hbefore : [first].Sublist before := List.singleton_sublist.2 hfirst
  have hbehind : [member].Sublist (member :: after) := List.singleton_sublist.2 List.mem_cons_self
  exact (hbefore.append hbehind).map name

/-- The first offence of the fields is a repeated name only if two of them have it. -/
lemma FieldSpec.FirstOffence.exists_repeats {cls cls' field : String} {specs : List FieldSpec}
    (h : FieldSpec.FirstOffence cls specs (.duplicateField cls' field)) :
    cls' = cls ∧ ∃ earlier later, Repeats fieldName field (specs.map (·.name)) earlier later := by
  obtain ⟨before, spec, after, rfl, -, hoffence⟩ := h
  cases hoffence with
  | repeated hmem => exact ⟨rfl, exists_repeats_of_mem ToldApart.fieldName_ne hmem⟩

/-- No field is refused for the name of a class. -/
lemma FieldSpec.not_firstOffence_duplicateClass {cls cls' : String} {specs : List FieldSpec} :
    ¬ FieldSpec.FirstOffence cls specs (.duplicateClass cls') := by
  rintro ⟨before, spec, after, -, -, hoffence⟩
  cases hoffence

namespace ModelFile

variable {file : ModelFile} {cls field : String}

lemma exists_repeats_of_duplicateClass (h : file.build = .error (.duplicateClass cls)) :
    ∃ earlier later, Repeats className cls (file.classes.map (·.name)) earlier later := by
  rw [build_eq_error_iff] at h
  cases h with
  | cls _ hsplit _ hoffence =>
    rw [hsplit]
    cases hoffence with
    | field hfirst => exact absurd hfirst FieldSpec.not_firstOffence_duplicateClass
    | repeated _ hmem => exact exists_repeats_of_mem ToldApart.className_ne hmem

lemma exists_repeats_of_duplicateField (h : file.build = .error (.duplicateField cls field)) :
    ∃ spec ∈ file.classes, className spec.name = cls ∧
      ∃ earlier later, Repeats fieldName field (spec.fields.map (·.name)) earlier later := by
  rw [build_eq_error_iff] at h
  cases h with
  | @cls before after spec _ _ hsplit _ hoffence =>
    cases hoffence with
    | field hfirst =>
      obtain ⟨rfl, hrepeats⟩ := hfirst.exists_repeats
      exact ⟨spec, by simp [hsplit], rfl, hrepeats⟩

end ModelFile

/-- **Generated names keep letters and digits.**  The names of a class and of a field that are made
from a name in ASCII with a letter or a digit hold all its letters and digits in their order, in
whichever case, and besides them underscores only.  So names that differ in a letter or a digit are
never made into one, and where a file is refused for a repeated name, it has two names at different
places that do not differ so. -/
theorem withoutUnderscores_className_fieldName :
    (∀ name, IsAsciiName name →
      withoutUnderscores (className name) = lettering name ∧
      withoutUnderscores (fieldName name) = lettering name) ∧
    (∀ a b, ToldApart a b → className a ≠ className b ∧ fieldName a ≠ fieldName b) ∧
    (∀ (file : ModelFile) cls, file.build = .error (.duplicateClass cls) →
      ∃ earlier later, Repeats className cls (file.classes.map (·.name)) earlier later) ∧
    ∀ (file : ModelFile) cls field, file.build = .error (.duplicateField cls field) →
      ∃ spec ∈ file.classes, className spec.name = cls ∧
        ∃ earlier later, Repeats fieldName field (spec.fields.map (·.name)) earlier later := by
  refine ⟨?_, ?_, ?_, ?_⟩
  · intro name h
    exact ⟨withoutUnderscores_className h, withoutUnderscores_fieldName h⟩
  · intro a b h
    exact ⟨h.className_ne, h.fieldName_ne⟩
  · intro file cls h
    exact ModelFile.exists_repeats_of_duplicateClass h
  · intro file cls field h
    exact ModelFile.exists_repeats_of_duplicateField h

/-- Two classes whose names differ in capitals and in what stands between the words only. -/
def quayFile : ModelFile :=
  ⟨"com.example", [⟨"HTTP_quay-2nd", none, [⟨"class", "int", none⟩, ⟨"class 1", "int", none⟩]⟩,
    ⟨"http quay2nd", none, []⟩]⟩

theorem withoutUnderscores_quayFile :
    IsAsciiName "3D_class" ∧ withoutUnderscores (fieldName "3D_class") = "3dclass".toList ∧
    ToldApart "class" "class 1" ∧ fieldName "class" ≠ fieldName "class 1" ∧
    quayFile.build = .error (.duplicateClass "HttpQuay2nd") ∧
    ∃ earlier later,
      Repeats className "HttpQuay2nd" (quayFile.classes.map (·.name)) earlier later := by
  obtain ⟨hkeep, hapart, hclass, -⟩ := withoutUnderscores_className_fieldName
  have hname : IsAsciiName "3D_class" := by decide
  have hlettering : lettering "3D_class" = "3dclass".toList := by decide
  have htold : ToldApart "class" "class 1" := by decide
  have hbuild : quayFile.build = .error (.duplicateClass "HttpQuay2nd") := by decide +kernel
  exact ⟨hname, (hkeep _ hname).2.trans hlettering, htold, (hapart _ _ htold).2, hbuild,
    hclass quayFile _ hbuild⟩

end ClassGen
