/-
# Styles that can be used

The style of a generated `toString` is a constant of `ToStringStyle` or a new instance of a class.
An instance can be made only of a class that is declared, that has a constructor without arguments
and that extends `ToStringStyle`; `ToStringStyle` itself is abstract.

A configuration may declare any types, `ToStringStyle` among them.  But the plugin registers its own
declaration of `ToStringStyle` after those, and the last registration of a name counts.  So however
the configuration is written, the styles that its tokens select can be used
(`Pipeline.usable_of_run`).
-/
import ClassGen.Proofs.Derived.Run
import ClassGen.Proofs.Derived.Style

namespace ClassGen

open Text

namespace Style

/-- The expression gives a style: it is a constant of `ToStringStyle`, or it makes an instance of
another class, which is declared, has a constructor without arguments and extends `ToStringStyle`
through any number of declarations. -/
inductive Usable (cp : Classpath) : Expr → Prop
  | constant (s : BuiltinStyle) :
      Usable cp (.staticField ⟨"org.apache.commons.lang3.builder", "ToStringStyle"⟩ s.name)
  | newInstance {cls : ClassName} {d : TypeDecl} : d ∈ cp.decls → d.name = cls.full →
      d.noArgConstructor = true →
      Relation.ReflTransGen cp.Extends cls.full
        "org.apache.commons.lang3.builder.ToStringStyle" →
      cls ≠ ⟨"org.apache.commons.lang3.builder", "ToStringStyle"⟩ → Usable cp (.construct cls [])

variable {catalog : StyleCatalog} {cp : Classpath} {text : String} {style selected : Style}
  {tokens : List String}

lemma trimmed_baseDecl : baseDecl.trimmed = baseDecl := by
  decide +kernel

/-- After its registration the class that every style extends is declared as the plugin declares
it, whatever was declared before. -/
lemma baseDecl_mem_register (cp : Classpath) : baseDecl ∈ (cp.register baseDecl).decls := by
  have hname : trim baseDecl.name = baseDecl.name := congrArg TypeDecl.name trimmed_baseDecl
  have hfind : (cp.register baseDecl).find? baseDecl.name = some baseDecl := by
    rw [Classpath.find?_register, if_pos hname, trimmed_baseDecl]
  exact (Classpath.find?_eq_some_iff.1 hfind).1

/-- Where the class that every style extends cannot be constructed, no other declaration of its
name says that it can. -/
lemma cls_ne_baseClass (hbase : baseDecl ∈ cp.decls) {d : TypeDecl} {cls : ClassName}
    (hd : d ∈ cp.decls) (hname : d.name = cls.full) (hconstructor : d.noArgConstructor = true) :
    cls ≠ baseClass := by
  rintro rfl
  have heq : d = baseDecl := List.inj_on_of_nodup_map cp.nodup hd hbase hname
  rw [heq] at hconstructor
  cases hconstructor

lemma usable_of_resolve (hbase : baseDecl ∈ cp.decls) (h : resolve catalog cp text = .ok style) :
    Usable cp style.expr := by
  obtain ⟨decided, hdecision⟩ := exists_decision catalog cp text
  have hdecided := resolve_of_decision hdecision
  rw [h] at hdecided
  subst hdecided
  cases hdecision with
  | named => exact .constant _
  | cls _ hclass =>
    cases hclass with
    | usable hd hreaches hconstructor _ hfull =>
      have hname := hd.name.trans hfull.symm
      rw [ReachesBase, ← hfull] at hreaches
      exact .newInstance hd.mem hname hconstructor hreaches
        (cls_ne_baseClass hbase hd.mem hname hconstructor)

lemma usable_of_chosen (hbase : baseDecl ∈ cp.decls) (hstyle : Usable cp style.expr)
    (h : Chosen catalog cp style tokens selected) : Usable cp selected.expr := by
  cases h with
  | last _ hresolve _ => exact usable_of_resolve hbase hresolve
  | none => exact hstyle

end Style

/-- The second class is the first one with further methods behind its own.  The first of these is
`toString`, which hands the object and a style to the builder, and it is the only one of that
name. -/
structure ClassDef.GainsToString (style : Expr) (c d : ClassDef) : Prop where
  name : d.name = c.name
  fields : d.fields = c.fields
  methods : ∃ others, d.methods = c.methods ++
      .delegating (.ofClass ⟨"java.lang", "String"⟩) "toString" [] "ToStringBuilder"
        "reflectionToString" [.this, style] :: others ∧
    ∀ m ∈ others, m.name ≠ "toString"

lemma ClassDef.gainsToString_attachDerived (style : Style) (c : ClassDef) :
    c.GainsToString style.expr (c.attachDerived style) where
  name := rfl
  fields := rfl
  methods := by
    refine ⟨[.equals, .hashCode], rfl, ?_⟩
    simp [Method.equals, Method.hashCode, Method.overriding]

namespace Pipeline

variable {config : Config} {args : List String} {p : Pipeline}

/-- **No generated `toString` makes an instance of a class that cannot be one of a style.**
Whatever types the configuration declares and whatever tokens select the style, a run of the plugin
gives every class one further `toString`, and the style that it hands to the builder is a constant
of `ToStringStyle` or a new instance of a class other than `ToStringStyle` that is declared on the
classpath of the pipeline, has a constructor without arguments and extends `ToStringStyle`. -/
theorem usable_of_run (hp : prepare config args = (.ok (), p))
    (hactive : "Xcommons-lang" ∈ p.activeNames) (m : CodeModel) :
    ∃ style m', p.run m = (.ok (), m') ∧ Style.Usable p.classpath style ∧
      List.Forall₂ (ClassDef.GainsToString style) m.classes m'.classes := by
  obtain ⟨style, hchosen, rfl⟩ := exists_chosen_of_prepare hp
  -- without tokens the plugin is off
  have hon : (!(config.pluginArgs ++ args).isEmpty) = true := by
    by_contra hoff
    rw [Bool.not_eq_true] at hoff
    rw [hoff] at hactive
    exact absurd hactive List.not_mem_nil
  have hbase : Style.baseDecl ∈ config.runClasspath.decls := Style.baseDecl_mem_register _
  have hinitial : Style.Usable config.runClasspath (Style.named .multiLine).expr := .constant _
  refine ⟨style.expr, _, run_pipeline m, Style.usable_of_chosen hbase hinitial hchosen, ?_⟩
  rw [hon, if_pos rfl, CodeModel.mapClasses, List.forall₂_map_right_iff, List.forall₂_same]
  exact fun c _ => c.gainsToString_attachDerived style

/-- A configuration that declares `ToStringStyle` anew, with a constructor, next to types that
extend one another in a circle and a text that is no name. -/
def hostileConfig : Config where
  input := "model.yaml"
  output := "generated"
  comments := true
  pluginArgs := ["-Xcommons-lang"]
  types :=
    [⟨" org.apache.commons.lang3.builder.ToStringStyle", none, true⟩,
      ⟨"com.example.Loop", some "com.example.Loop", true⟩,
      ⟨"no name", some "org.apache.commons.lang3.builder.ToStringStyle", true⟩,
      ⟨"com.example.RoundStyle ", some "com.example.BaseStyle", true⟩,
      ⟨"com.example.BaseStyle", some " org.apache.commons.lang3.builder.ToStringStyle", false⟩]

/-- A model whose class has a `toString` of its own already. -/
def hostileModel : CodeModel :=
  ⟨"com.example", [⟨⟨"com.example", "Point"⟩, none, [], [.toStringIn (.named .json)]⟩]⟩

theorem usable_hostileModel :
    ∃ p style m', prepare hostileConfig ["-Xcommons-lang:ToStringStyle=com.example.RoundStyle"] =
        (.ok (), p) ∧
      "Xcommons-lang" ∈ p.activeNames ∧ p.run hostileModel = (.ok (), m') ∧
      Style.Usable p.classpath style ∧
      List.Forall₂ (ClassDef.GainsToString style) hostileModel.classes m'.classes := by
  have hread : Style.readTokens .builtin hostileConfig.runClasspath .initial false
      (hostileConfig.pluginArgs ++ ["-Xcommons-lang:ToStringStyle=com.example.RoundStyle"]) =
        (.ok (), .custom ⟨"com.example", "RoundStyle"⟩, true) := by
    decide +kernel
  have hp := prepare_of_readTokens hread
  have hactive : "Xcommons-lang" ∈ (Style.pipeline .builtin hostileConfig.runClasspath
      (.custom ⟨"com.example", "RoundStyle"⟩) true).activeNames := List.mem_singleton.2 rfl
  obtain ⟨style, m', hrun, husable, hclasses⟩ := usable_of_run hp hactive hostileModel
  exact ⟨_, style, m', hp, hactive, hrun, husable, hclasses⟩

end Pipeline

end ClassGen
