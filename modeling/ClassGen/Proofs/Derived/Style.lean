/-
# Which style a text selects

A text selects the constant of that name, and a catalog that denies access to it has the last word.
Only where there is no such constant the text may name a class of the user.  The class has to meet
four conditions, and the first one that it fails decides what is reported
(`Style.resolve_iff_decision`).
-/
import ClassGen.Derived.Style
import ClassGen.Proofs.Classpath

namespace ClassGen.Style

open Text

variable (catalog : StyleCatalog) (cp : Classpath) (text : String)

/-- The trimmed text is a dotted list of identifiers. -/
def IsDotted : Prop := ∀ piece ∈ segments (trim text), isIdentifier piece = true

/-- The trimmed text is the name of the declared type. -/
structure Declares (d : TypeDecl) : Prop where
  dotted : IsDotted text
  mem : d ∈ cp.decls
  name : d.name = trim text

/-- The type that the trimmed text names extends the base class of all styles, through any number
of declarations. -/
def ReachesBase : Prop :=
  Relation.ReflTransGen cp.Extends (trim text) "org.apache.commons.lang3.builder.ToStringStyle"

/-- What is decided on a text that is to name a class, condition by condition. -/
inductive ClassDecision : Except ConfigurationError Style → Prop
  | invalidName : ¬ IsDotted text → ClassDecision (.error ⟨"invalid class name: " ++ trim text⟩)
  | notFound : IsDotted text → (∀ d ∈ cp.decls, d.name ≠ trim text) →
      ClassDecision (.error ⟨"class not found: " ++ trim text⟩)
  | notSubtype {d : TypeDecl} : Declares cp text d → ¬ ReachesBase cp text →
      ClassDecision (.error ⟨trim text ++ " is not a subtype of " ++
        "org.apache.commons.lang3.builder.ToStringStyle"⟩)
  | notConstructible {d : TypeDecl} : Declares cp text d → ReachesBase cp text →
      d.noArgConstructor = false →
      ClassDecision (.error ⟨trim text ++ " has no public no-arg constructor"⟩)
  | usable {d : TypeDecl} {cls : ClassName} : Declares cp text d → ReachesBase cp text →
      d.noArgConstructor = true → ClassName.CutAtLastDot (trim text).toList cls →
      cls.full = trim text → ClassDecision (.ok (.custom cls))

/-- What is decided on a text that is to select a style. -/
inductive Decision : Except ConfigurationError Style → Prop
  | named {constant : BuiltinStyle} : catalog text = .ok constant → Decision (.ok (.named constant))
  | denied {reason : String} : catalog text = .error (.accessDenied reason) →
      Decision (.error ⟨reason⟩)
  | cls {name : String} {decided : Except ConfigurationError Style} :
      catalog text = .error (.noSuchField name) → ClassDecision cp text decided → Decision decided

variable {catalog cp text} {d : TypeDecl} {decided : Except ConfigurationError Style}

lemma isDotted_iff : isDottedName (trim text) = true ↔ IsDotted text :=
  ClassName.isDottedName_iff

lemma load_eq_ok_iff_declares : cp.load text = .ok d ↔ Declares cp text d := by
  rw [Classpath.load_eq_ok_iff, isDotted_iff]
  constructor
  · rintro ⟨hdotted, hmem, hname⟩
    exact ⟨hdotted, hmem, hname⟩
  · intro h
    exact ⟨h.dotted, h.mem, h.name⟩

lemma full_baseClass : baseClass.full = "org.apache.commons.lang3.builder.ToStringStyle" := by
  decide

lemma toError_notSubtype (name : String) : (Refusal.notSubtype name).toError =
    ⟨name ++ " is not a subtype of " ++ "org.apache.commons.lang3.builder.ToStringStyle"⟩ := by
  rw [Refusal.toError, full_baseClass]

lemma Declares.isSubtype_iff (h : Declares cp text d) :
    cp.isSubtype d.name baseClass.full = true ↔ ReachesBase cp text := by
  rw [Classpath.isSubtype_iff, h.name, full_baseClass, ReachesBase]

lemma resolveClass_of_classDecision (h : ClassDecision cp text decided) :
    (resolveClass cp text).mapError Refusal.toError = decided := by
  cases h with
  | invalidName hdotted =>
    rw [← isDotted_iff, Bool.not_eq_true] at hdotted
    have hload : cp.load text = .error (.invalidName (trim text)) :=
      Classpath.load_eq_error_iff.2 (Or.inl ⟨hdotted, rfl⟩)
    rw [resolveClass, hload]
    rfl
  | notFound hdotted hnone =>
    have hload : cp.load text = .error (.classNotFound (trim text)) :=
      Classpath.load_eq_error_iff.2 (Or.inr ⟨isDotted_iff.2 hdotted, hnone, rfl⟩)
    rw [resolveClass, hload]
    rfl
  | notSubtype hd hbase =>
    rw [← hd.isSubtype_iff] at hbase
    rw [resolveClass, load_eq_ok_iff_declares.2 hd]
    -- the base is searched from the declared name, so that name is replaced last
    simp only [hbase]
    rw [hd.name]
    exact congrArg Except.error (toError_notSubtype (trim text))
  | notConstructible hd hbase hnone =>
    rw [resolveClass, load_eq_ok_iff_declares.2 hd]
    simp only [hd.isSubtype_iff.2 hbase, hnone]
    rw [hd.name]
    rfl
  | usable hd hbase hconstructor hcut hfull =>
    have hload := load_eq_ok_iff_declares.2 hd
    obtain ⟨cls, hcls, hcut', -⟩ := Classpath.exists_className_of_load hload
    rw [hcut.unique hcut', resolveClass, hload]
    simp only [hd.isSubtype_iff.2 hbase, hconstructor, hcls, if_true]
    rfl

lemma exists_classDecision (cp : Classpath) (text : String) :
    ∃ decided, ClassDecision cp text decided := by
  rcases hload : cp.load text with e | d
  · rcases Classpath.load_eq_error_iff.1 hload with ⟨hdotted, -⟩ | ⟨hdotted, hnone, -⟩
    · refine ⟨_, .invalidName ?_⟩
      rw [← isDotted_iff, hdotted]
      exact Bool.false_ne_true
    · exact ⟨_, .notFound (isDotted_iff.1 hdotted) hnone⟩
  · have hd := load_eq_ok_iff_declares.1 hload
    by_cases hbase : ReachesBase cp text
    · cases hconstructor : d.noArgConstructor with
      | false => exact ⟨_, .notConstructible hd hbase hconstructor⟩
      | true =>
        obtain ⟨cls, -, hcut, hfull⟩ := Classpath.exists_className_of_load hload
        exact ⟨_, .usable hd hbase hconstructor hcut hfull⟩
    · exact ⟨_, .notSubtype hd hbase⟩

lemma resolve_of_decision (h : Decision catalog cp text decided) :
    (resolve catalog cp text).mapError Refusal.toError = decided := by
  cases h with
  | named hcatalog =>
    rw [resolve, hcatalog]
    rfl
  | denied hcatalog =>
    rw [resolve, hcatalog]
    rfl
  | cls hcatalog hclass =>
    rw [resolve, hcatalog]
    exact resolveClass_of_classDecision hclass

lemma exists_decision (catalog : StyleCatalog) (cp : Classpath) (text : String) :
    ∃ decided, Decision catalog cp text decided := by
  rcases hcatalog : catalog text with (name | reason) | constant
  · obtain ⟨decided, h⟩ := exists_classDecision cp text
    exact ⟨decided, .cls hcatalog h⟩
  · exact ⟨_, .denied hcatalog⟩
  · exact ⟨_, .named hcatalog⟩

/-- **What a text selects is what the rules decide**: a constant, the refusal of the catalog, or a
class that meets all conditions, else the refusal for the first one that fails.  A type that was
loaded always has a class name, so there is no further reason to refuse it. -/
theorem resolve_iff_decision (catalog : StyleCatalog) (cp : Classpath) (text : String) :
    (∀ decided, (resolve catalog cp text).mapError Refusal.toError = decided ↔
      Decision catalog cp text decided) ∧
    ∀ d, cp.load text = .ok d → ∃ cls, d.className = .ok cls ∧ cls.full = trim text := by
  refine ⟨fun decided => ⟨?_, resolve_of_decision⟩, fun d hload => ?_⟩
  · rintro rfl
    obtain ⟨decided, h⟩ := exists_decision catalog cp text
    rw [resolve_of_decision h]
    exact h
  · obtain ⟨cls, hcls, -, hfull⟩ := Classpath.exists_className_of_load hload
    exact ⟨cls, hcls, hfull⟩

end ClassGen.Style
