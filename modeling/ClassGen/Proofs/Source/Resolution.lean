/-
# Which class a simple name means

A source text writes every class by its simple name.  The name of the class itself and those of
its imports are claimed by the text: wherever such a simple name stands, it means the class that
claims it.  A mentioned class that needs no import may be covered by such a claim; then its simple
name means another class than the one that was mentioned.

The imports of a rendered class are checked against one another and against the class.  The
classes that need no import are left out of the check, so they are the ones that can be covered:
`ClassDef.namesResolve_iff_of_render`.
-/
import ClassGen.Proofs.Source.Imports

namespace ClassGen

/-- The name with an empty package read as the given one. -/
def ClassName.within (package : String) (a : ClassName) : ClassName :=
  if a.package = "" then ⟨package, a.simple⟩ else a

namespace ClassDef

/-- The classes that the source text of `c` writes by their simple names: `c` and those that it
mentions, where a name without a package belongs to the package of `c`. -/
def written (c : ClassDef) : List ClassName :=
  (c.name :: c.classNames).map (·.within c.name.package)

/-- Every simple name that `c` or one of its imports claims means one class throughout. -/
def NamesResolve (c : ClassDef) : Prop :=
  ∀ a ∈ c.written, ∀ b ∈ c.written, a.simple = b.simple →
    a = c.name ∨ a ∈ c.imported → a = b

/-- The mentioned class needs no import, and its simple name is claimed by another one. -/
inductive Covered (c : ClassDef) : ClassName → Prop
  /-- An import has the simple name. -/
  | byImport {a b : ClassName} : a ∈ c.imported → b ∈ c.classNames →
      b.needsImport c.name.package = false → b.simple = a.simple → Covered c b
  /-- The class itself has the simple name of a class that is known everywhere. -/
  | byOwnName {b : ClassName} : b ∈ c.classNames → b.package = ClassName.langPackage →
      c.name.package ≠ ClassName.langPackage → b.simple = c.name.simple → Covered c b

variable {c : ClassDef} {a b : ClassName}

@[simp] lemma simple_within (package : String) : (b.within package).simple = b.simple := by
  unfold ClassName.within
  split <;> rfl

@[simp] lemma name_within : c.name.within c.name.package = c.name := by
  unfold ClassName.within
  split <;> rfl

lemma within_of_package_ne {package : String} (h : b.package ≠ "") : b.within package = b :=
  if_neg h

lemma within_of_package_eq_lang {package : String} (h : b.package = ClassName.langPackage) :
    b.within package = b :=
  within_of_package_ne (by rw [h]; decide)

/-- A class that needs no import is of `java.lang` or, read in full, of the package it is written
in. -/
lemma package_eq_lang_or_within {package : String} (h : b.needsImport package = false) :
    b.package = ClassName.langPackage ∨ (b.within package).package = package := by
  by_cases hempty : b.package = ""
  · right
    simp [ClassName.within, hempty]
  · rw [within_of_package_ne hempty]
    simpa [ClassName.needsImport, hempty, or_iff_not_imp_left] using h

lemma within_of_mem_imported (h : b ∈ c.imported) : b.within c.name.package = b :=
  within_of_package_ne (ClassName.needsImport_iff.1 (mem_imported.1 h).2).1

lemma mem_written : a ∈ c.written ↔
    a = c.name ∨ a ∈ c.imported ∨
      ∃ b ∈ c.classNames, b.needsImport c.name.package = false ∧
        b.within c.name.package = a := by
  simp only [written, List.map_cons, name_within, List.mem_cons, List.mem_map]
  refine or_congr_right ?_
  constructor
  · rintro ⟨b, hb, rfl⟩
    cases hneeds : b.needsImport c.name.package with
    | false => exact Or.inr ⟨b, hb, hneeds, rfl⟩
    | true =>
      have himported : b ∈ c.imported := mem_imported.2 ⟨hb, hneeds⟩
      rw [within_of_mem_imported himported]
      exact Or.inl himported
  · rintro (himported | ⟨b, hb, -, rfl⟩)
    · exact ⟨a, (mem_imported.1 himported).1, within_of_mem_imported himported⟩
    · exact ⟨b, hb, rfl⟩

/-- A class that needs no import and has the simple name of `c` is `c`, or one of `java.lang`. -/
lemma within_eq_name_or_lang (hneeds : b.needsImport c.name.package = false)
    (hsimple : b.simple = c.name.simple) :
    b.within c.name.package = c.name ∨
      b.package = ClassName.langPackage ∧ c.name.package ≠ ClassName.langPackage := by
  by_cases hown : (b.within c.name.package).package = c.name.package
  · left
    exact ClassName.ext hown (by rw [simple_within, hsimple])
  · right
    have hlang := (package_eq_lang_or_within hneeds).resolve_right hown
    rw [within_of_package_eq_lang hlang, hlang] at hown
    exact ⟨hlang, fun h => hown h.symm⟩

/-- A covered class is another one than the class that claims its simple name. -/
lemma not_namesResolve_of_covered (h : c.Covered b) : ¬ c.NamesResolve := by
  intro hresolve
  cases h with
  | @byImport a _ ha hb hneeds hsimple =>
    have hwritten : b.within c.name.package ∈ c.written :=
      mem_written.2 (Or.inr (Or.inr ⟨b, hb, hneeds, rfl⟩))
    have hab : a = b.within c.name.package :=
      hresolve a (mem_written.2 (Or.inr (Or.inl ha))) _ hwritten (by simp [hsimple]) (Or.inr ha)
    obtain ⟨-, hlang, hown⟩ := ClassName.needsImport_iff.1 (mem_imported.1 ha).2
    rcases package_eq_lang_or_within hneeds with hpackage | hpackage
    · rw [hab, within_of_package_eq_lang hpackage] at hlang
      exact hlang hpackage
    · rw [hab] at hown
      exact hown hpackage
  | byOwnName hb hlang hown hsimple =>
    have hneeds : b.needsImport c.name.package = false := by
      simp [ClassName.needsImport, hlang]
    have hwritten : b ∈ c.written :=
      mem_written.2 (Or.inr (Or.inr ⟨b, hb, hneeds, within_of_package_eq_lang hlang⟩))
    have hab : c.name = b :=
      hresolve c.name (mem_written.2 (Or.inl rfl)) b hwritten hsimple.symm (Or.inl rfl)
    exact hown (by rw [hab, hlang])

/-- Where no mentioned class is covered, the check of the imports is enough. -/
lemma namesResolve_of_not_covered (hclash : ClassName.clash? [c.name] c.imported = none)
    (hcovered : ∀ b, ¬ c.Covered b) : c.NamesResolve := by
  intro a ha b hb hsimple hclaim
  rcases mem_written.1 hb with rfl | hb | ⟨b₀, hb₀, hneeds, rfl⟩
  · exact eq_of_simple_eq hclash hclaim (Or.inl rfl) hsimple
  · exact eq_of_simple_eq hclash hclaim (Or.inr hb) hsimple
  · rw [simple_within] at hsimple
    rcases hclaim with rfl | ha
    · rcases within_eq_name_or_lang hneeds hsimple.symm with hname | ⟨hlang, hown⟩
      · exact hname.symm
      · exact absurd (Covered.byOwnName hb₀ hlang hown hsimple.symm) (hcovered b₀)
    · exact absurd (Covered.byImport ha hb₀ hneeds hsimple.symm) (hcovered b₀)

/-- **The simple names of a rendered class resolve exactly when no mentioned class is covered.**
The class and its imports always have simple names of their own; what the check of the imports
leaves open is a class that needs no import and has the simple name of an import, or a class of
`java.lang` with the simple name of the rendered class. -/
theorem namesResolve_iff_of_render {comments : Bool} {text : String}
    (h : c.render comments = .ok text) :
    (∀ a ∈ c.name :: c.imported, ∀ b ∈ c.name :: c.imported, a.simple = b.simple → a = b) ∧
      (c.NamesResolve ↔ ∀ b, ¬ c.Covered b) := by
  have hclash := clash?_eq_none_of_render h
  refine ⟨?_, ?_, namesResolve_of_not_covered hclash⟩
  · intro a ha b hb hab
    exact eq_of_simple_eq hclash (List.mem_cons.1 ha) (List.mem_cons.1 hb) hab
  · intro hresolve b hb
    exact not_namesResolve_of_covered hb hresolve

/-- A class that refers to its own package, to `java.lang` and to two imports, all by names of
their own. -/
def shelfClass : ClassDef :=
  ⟨⟨"com.example", "Shelf"⟩, none,
    [⟨"label", .ofClass ⟨"java.lang", "String"⟩, none⟩,
      ⟨"books", .named ⟨"java.util", "List"⟩ [.ofClass ⟨"", "Book"⟩], none⟩,
      ⟨"since", .array (.ofClass ⟨"java.util", "Date"⟩), none⟩], []⟩

/-- A class that refers to the class `Date` of its own package and imports another one. -/
def logClass : ClassDef :=
  ⟨⟨"com.example", "Log"⟩, none,
    [⟨"day", .ofClass ⟨"", "Date"⟩, none⟩, ⟨"time", .ofClass ⟨"java.util", "Date"⟩, none⟩], []⟩

/-- A class that has the simple name of a class of `java.lang` and refers to that one. -/
def stringClass : ClassDef :=
  ⟨⟨"com.example", "String"⟩, none, [⟨"label", .ofClass ⟨"java.lang", "String"⟩, none⟩], []⟩

theorem namesResolve_shelfClass :
    ∃ text, shelfClass.render true = .ok text ∧ shelfClass.NamesResolve := by
  have himports : ∀ a ∈ shelfClass.imported, ∀ b ∈ shelfClass.classNames,
      b.needsImport shelfClass.name.package = false → b.simple ≠ a.simple := by decide
  have hname : ∀ b ∈ shelfClass.classNames, b.simple ≠ shelfClass.name.simple := by decide
  obtain ⟨text, htext⟩ : ∃ text, shelfClass.render true = .ok text := ⟨_, rfl⟩
  refine ⟨text, htext, (namesResolve_iff_of_render htext).2.2 ?_⟩
  intro b hb
  cases hb with
  | byImport ha hb hneeds hsimple => exact himports _ ha _ hb hneeds hsimple
  | byOwnName hb _ _ hsimple => exact hname _ hb hsimple

/-- Neither a covering import nor a covering own name is refused. -/
theorem not_namesResolve_logClass_stringClass :
    (∃ text, logClass.render true = .ok text ∧ ¬ logClass.NamesResolve) ∧
      ∃ text, stringClass.render true = .ok text ∧ ¬ stringClass.NamesResolve := by
  have hlog : logClass.Covered ⟨"", "Date"⟩ :=
    Covered.byImport (a := ⟨"java.util", "Date"⟩) (by decide) (by decide) (by decide) rfl
  have hstring : stringClass.Covered ⟨"java.lang", "String"⟩ :=
    Covered.byOwnName (by decide) rfl (by decide) rfl
  exact ⟨⟨_, rfl, not_namesResolve_of_covered hlog⟩, ⟨_, rfl, not_namesResolve_of_covered hstring⟩⟩

end ClassDef

end ClassGen
