/-
# Styles on a larger classpath

Types that are declared later, under names that are not declared yet, leave every style as it is
that a text selects already.  They can lengthen a chain of supertypes that ended with an undeclared
name, and close it to a circle.  But a link that was declared stays, so whatever a type did extend
it still extends, and the search for it still finds it, since its bound follows from the size of the
classpath (`Style.resolve_registerAll_of_new`).
-/
import ClassGen.Proofs.Derived.Style

namespace ClassGen

open Text

namespace Classpath

variable {cp : Classpath} {ds ds' : List TypeDecl} {d : TypeDecl} {a b : String}

/-- None of the names is declared yet. -/
def AllNew (cp : Classpath) (ds : List TypeDecl) : Prop :=
  ∀ d ∈ ds, ∀ e ∈ cp.decls, e.name ≠ trim d.name

instance (cp : Classpath) (ds : List TypeDecl) : Decidable (cp.AllNew ds) :=
  inferInstanceAs (Decidable (∀ d ∈ ds, ∀ e ∈ cp.decls, e.name ≠ trim d.name))

lemma AllNew.perm (h : cp.AllNew ds) (hds : ds'.Perm ds) : cp.AllNew ds' :=
  fun d hd => h d (hds.subset hd)

/-- What is declared stays declared. -/
lemma AllNew.mem_registerAll (h : cp.AllNew ds) (hd : d ∈ cp.decls) :
    d ∈ (cp.registerAll ds).decls := by
  have hother : ∀ e ∈ ds, trim e.name ≠ d.name := fun e he => (h e he d hd).symm
  have hfind : (cp.registerAll ds).find? d.name = some d := by
    rw [find?_registerAll_of_ne hother]
    exact find?_eq_some_iff.2 ⟨hd, rfl⟩
  exact (find?_eq_some_iff.1 hfind).1

lemma AllNew.extends_registerAll (h : cp.AllNew ds) (hab : cp.Extends a b) :
    (cp.registerAll ds).Extends a b := by
  obtain ⟨d, hd, hname, hparent⟩ := hab
  exact ⟨d, h.mem_registerAll hd, hname, hparent⟩

/-- What a type extends through any number of declarations, it still does. -/
lemma AllNew.reflTransGen_registerAll (h : cp.AllNew ds)
    (hab : Relation.ReflTransGen cp.Extends a b) :
    Relation.ReflTransGen (cp.registerAll ds).Extends a b :=
  Relation.ReflTransGen.mono (fun _ _ => h.extends_registerAll) a b hab

end Classpath

namespace Style

variable {catalog : StyleCatalog} {cp : Classpath} {ds ds' : List TypeDecl} {text : String}
  {style : Style} {decided : Except ConfigurationError Style}

lemma mapError_eq_ok_iff {ε ε' α : Type} {f : ε → ε'} {result : Except ε α} {a : α} :
    result.mapError f = .ok a ↔ result = .ok a := by
  cases result <;> simp [Except.mapError]

lemma decision_iff : Decision catalog cp text decided ↔
    (resolve catalog cp text).mapError Refusal.toError = decided := by
  constructor
  · exact resolve_of_decision
  · rintro rfl
    obtain ⟨decided, h⟩ := exists_decision catalog cp text
    rwa [resolve_of_decision h]

/-- Each of the conditions on a class that was usable still holds. -/
lemma ClassDecision.registerAll (hnew : cp.AllNew ds) (h : ClassDecision cp text (.ok style)) :
    ClassDecision (cp.registerAll ds) text (.ok style) := by
  cases h with
  | usable hd hbase hconstructor hcut hfull =>
    have hd' : Declares (cp.registerAll ds) text _ :=
      ⟨hd.dotted, hnew.mem_registerAll hd.mem, hd.name⟩
    exact .usable hd' (hnew.reflTransGen_registerAll hbase) hconstructor hcut hfull

lemma Decision.registerAll (hnew : cp.AllNew ds) (h : Decision catalog cp text (.ok style)) :
    Decision catalog (cp.registerAll ds) text (.ok style) := by
  cases h with
  | named hcatalog => exact .named hcatalog
  | cls hcatalog hclass => exact .cls hcatalog (hclass.registerAll hnew)

/-- **A text goes on selecting its style when types with new names are declared**, whatever these
types extend, in whatever order they are registered, and although each of their names is known
from then on. -/
theorem resolve_registerAll_of_new (h : resolve catalog cp text = .ok style)
    (hnew : cp.AllNew ds) (hds : ds'.Perm ds) :
    resolve catalog (cp.registerAll ds') text = .ok style ∧
      ∀ d ∈ ds, ∃ e ∈ (cp.registerAll ds').decls, e.name = trim d.name := by
  have hdecision : Decision catalog cp text (.ok style) := decision_iff.2 (mapError_eq_ok_iff.2 h)
  constructor
  · exact mapError_eq_ok_iff.1 (decision_iff.1 (hdecision.registerAll (hnew.perm hds)))
  · intro d hd
    have hname : trim d.name ∈ (cp.registerAll ds').decls.map (·.name) :=
      Classpath.mem_names_registerAll.2 (Or.inr ⟨d, hds.symm.subset hd, rfl⟩)
    exact List.mem_map.1 hname

/-- A style whose supertype is the base class, which is not declared itself. -/
def neatClasspath : Classpath :=
  .ofDecls [⟨"com.example.NeatStyle", some "com.example.PlainStyle", true⟩,
    ⟨"com.example.PlainStyle", some "org.apache.commons.lang3.builder.ToStringStyle", false⟩]

/-- Declarations that close the chain of supertypes to a circle, one of them made twice. -/
def circleDecls : List TypeDecl :=
  [⟨" org.apache.commons.lang3.builder.ToStringStyle", some "com.example.Root", false⟩,
    ⟨"com.example.Root", none, true⟩, ⟨"com.example.Root ", some "com.example.NeatStyle", true⟩]

theorem resolve_neatClasspath_registerAll_circleDecls :
    resolve .builtin neatClasspath " com.example.NeatStyle" =
        .ok (.custom ⟨"com.example", "NeatStyle"⟩) ∧
      neatClasspath.AllNew circleDecls ∧ circleDecls.reverse.Perm circleDecls ∧
      resolve .builtin (neatClasspath.registerAll circleDecls.reverse) " com.example.NeatStyle" =
        .ok (.custom ⟨"com.example", "NeatStyle"⟩) := by
  have h : resolve .builtin neatClasspath " com.example.NeatStyle" =
      .ok (.custom ⟨"com.example", "NeatStyle"⟩) := by decide +kernel
  have hnew : neatClasspath.AllNew circleDecls := by decide +kernel
  have hperm : circleDecls.reverse.Perm circleDecls := circleDecls.reverse_perm
  exact ⟨h, hnew, hperm, (resolve_registerAll_of_new h hnew hperm).1⟩

end Style

end ClassGen
