/-
# A whole run

From the tokens of a configuration and of the command line to source files.  Tokens that are
accepted turn the plugin on once, however many there are, so a run gives every class each of the
derived methods once.  They have signatures of their own, and a model that was made from a file has
no other methods; so the methods never keep a class from being rendered (`Pipeline.run_of_prepare`).
-/
import ClassGen.Command.Run
import ClassGen.Proofs.Build.Consistency
import ClassGen.Proofs.Derived.Tokens
import ClassGen.Proofs.Source.File

namespace ClassGen

/-- The classpath of a run: the types of the configuration and the class that every style
extends. -/
def Config.runClasspath (config : Config) : Classpath :=
  config.classpath.register Style.baseDecl

/-- The public method that overrides an inherited one and returns what an operation of a builder
gives. -/
def Method.delegating (returnType : TypeRef) (name : String) (params : List Param)
    (builder operation : String) (arguments : List Expr) : Method where
  visibility := .public
  returnType := returnType
  name := name
  params := params
  annotations := [⟨"java.lang", "Override"⟩]
  body := [.returns (.invoke ⟨"org.apache.commons.lang3.builder", builder⟩ operation arguments)]

@[simp] lemma Method.signature_delegating (returnType : TypeRef) (name : String)
    (params : List Param) (builder operation : String) (arguments : List Expr) :
    (delegating returnType name params builder operation arguments).signature =
      ⟨name, params.map (·.type)⟩ := rfl

/-- The second class is the first one with the three derived methods for its methods.  Only
`toString` knows the style. -/
structure ClassDef.Completes (style : Style) (c d : ClassDef) : Prop where
  name : d.name = c.name
  description : d.description = c.description
  fields : d.fields = c.fields
  methods : d.methods =
    [.delegating (.ofClass ⟨"java.lang", "String"⟩) "toString" []
        "ToStringBuilder" "reflectionToString" [.this, style.expr],
      .delegating (.primitive .boolean) "equals" [⟨.ofClass ⟨"java.lang", "Object"⟩, "that"⟩]
        "EqualsBuilder" "reflectionEquals" [.this, .var "that"],
      .delegating (.primitive .int) "hashCode" []
        "HashCodeBuilder" "reflectionHashCode" [.this]]

/-- The second model is the first one with every class completed. -/
structure CodeModel.Completes (style : Style) (m m' : CodeModel) : Prop where
  package : m'.package = m.package
  classes : List.Forall₂ (ClassDef.Completes style) m.classes m'.classes

variable {style : Style} {m : CodeModel}

/-! ### The derived methods -/

lemma ClassDef.completes_attachDerived {c : ClassDef} (h : c.methods = []) :
    c.Completes style (c.attachDerived style) where
  name := rfl
  description := rfl
  fields := rfl
  methods := by
    rw [attachDerived, h]
    rfl

lemma CodeModel.completes_mapClasses (style : Style) (h : ∀ c ∈ m.classes, c.methods = []) :
    m.Completes style (m.mapClasses (·.attachDerived style)) where
  package := rfl
  classes := by
    rw [mapClasses, List.forall₂_map_right_iff, List.forall₂_same]
    exact fun c hc => ClassDef.completes_attachDerived (h c hc)

lemma ClassDef.Completes.nodup_signatures {c d : ClassDef} (h : c.Completes style d) :
    (d.methods.map (·.signature)).Nodup := by
  rw [h.methods]
  simp only [List.map_cons, List.map_nil, Method.signature_delegating]
  decide

lemma ModelFile.methods_of_build {file : ModelFile} (h : file.build = .ok m) {c : ClassDef}
    (hc : c ∈ m.classes) : c.methods = [] := by
  obtain ⟨spec, -, hmirrored⟩ :=
    Traversal.exists_mem_of_forall₂ (mirrored_of_build h).classes hc
  exact hmirrored.methods

namespace Pipeline

variable {catalog : StyleCatalog} {cp : Classpath} {on : Bool} {config : Config}
  {args : List String} {p : Pipeline} {file : ModelFile}

/-! ### The pipeline of a configuration -/

/-- The tokens of the configuration and of the command line are read one by one. -/
lemma prepare_of_readTokens {result : Except ArgumentError Unit}
    (h : Style.readTokens .builtin config.runClasspath .initial false (config.pluginArgs ++ args) =
      (result, style, on)) :
    prepare config args = (result, Style.pipeline .builtin config.runClasspath style on) :=
  Style.parseArguments_pipeline h

/-- A configuration that is accepted leads to the style that its last selecting token names; the
plugin is on unless there is no token. -/
lemma exists_chosen_of_prepare (hp : prepare config args = (.ok (), p)) :
    ∃ style, Style.Chosen .builtin config.runClasspath (.named .multiLine)
        (config.pluginArgs ++ args) style ∧
      p = Style.pipeline .builtin config.runClasspath style
        (!(config.pluginArgs ++ args).isEmpty) := by
  rcases hread : Style.readTokens .builtin config.runClasspath .initial false
    (config.pluginArgs ++ args) with ⟨result, style, on⟩
  rw [prepare_of_readTokens hread, Prod.mk.injEq] at hp
  obtain ⟨rfl, rfl⟩ := hp
  refine ⟨style, Style.chosen_of_readTokens hread, ?_⟩
  rw [Style.on_of_readTokens hread, Bool.false_or]

/-- A run of this plugin alone succeeds. -/
lemma run_pipeline (m : CodeModel) : (Style.pipeline catalog cp style on).run m =
    (.ok (), if on then m.mapClasses (·.attachDerived style) else m) := by
  cases on <;> rfl

/-- **A run gives every class each derived method once.**  Without tokens the model stays as it is.
Otherwise, however many tokens there are, every class is completed in the style that the last
selecting token names, and the rest of the model is kept.  No two methods of a class have one
signature after that. -/
theorem run_of_prepare (hp : prepare config args = (.ok (), p)) (hm : file.build = .ok m) :
    ∃ m', p.run m = (.ok (), m') ∧
      (config.pluginArgs ++ args = [] → m' = m) ∧
      (config.pluginArgs ++ args ≠ [] → ∃ style,
        Style.Chosen .builtin config.runClasspath (.named .multiLine) (config.pluginArgs ++ args)
          style ∧ m.Completes style m') ∧
      ∀ comments cls signature,
        m'.sourceFiles comments ≠ .error (.duplicateMethod cls signature) := by
  obtain ⟨style, hchosen, rfl⟩ := exists_chosen_of_prepare hp
  have hmethods : ∀ c ∈ m.classes, c.methods = [] := fun c => ModelFile.methods_of_build hm
  refine ⟨_, run_pipeline m, fun htokens => ?_, fun htokens => ?_, fun comments => ?_⟩
  · rw [htokens]
    rfl
  · have hon : (!(config.pluginArgs ++ args).isEmpty) = true := by simpa using htokens
    rw [hon, if_pos rfl]
    exact ⟨style, hchosen, CodeModel.completes_mapClasses style hmethods⟩
  · refine CodeModel.sourceFiles_ne_duplicateMethod ?_ comments
    intro d hd
    -- a class has the derived methods or, when the plugin is off, none
    split at hd
    · have hcompletes := (CodeModel.completes_mapClasses style hmethods).classes
      obtain ⟨c, -, hc⟩ := Traversal.exists_mem_of_forall₂ hcompletes hd
      exact hc.nodup_signatures
    · rw [hmethods d hd]
      exact List.nodup_nil

/-- A configuration with two styles of the user, the second of which cannot be constructed. -/
def gardenConfig : Config where
  input := "garden.yaml"
  output := "generated"
  comments := true
  pluginArgs := ["-Xcommons-lang:ToStringStyle=SIMPLE_STYLE", "-Xcommons-lang"]
  types :=
    [⟨"com.example.PlainStyle", some "com.example.BaseStyle", true⟩,
      ⟨" com.example.BaseStyle", some "org.apache.commons.lang3.builder.ToStringStyle", false⟩]

/-- Tokens of a command line that select a style of the user, and the flag again. -/
def gardenArgs : List String :=
  [" -Xcommons-lang:ToStringStyle=com.example.PlainStyle", "-Xcommons-lang"]

/-- A file of two classes. -/
def gardenFile : ModelFile :=
  ⟨"com.example",
    [⟨"garden bed", none, [⟨"plants", "java.util.List<plant>", none⟩]⟩,
     ⟨"plant", some "A plant.", []⟩]⟩

/-- The model of the file. -/
def gardenModel : CodeModel :=
  ⟨"com.example",
    [⟨⟨"com.example", "GardenBed"⟩, none,
      [⟨"plants", .named ⟨"java.util", "List"⟩ [.named ⟨"", "Plant"⟩ []], none⟩], []⟩,
     ⟨⟨"com.example", "Plant"⟩, some "A plant.", [], []⟩]⟩

theorem run_gardenModel :
    ∃ p m' style, prepare gardenConfig gardenArgs = (.ok (), p) ∧
      gardenFile.build = .ok gardenModel ∧ p.run gardenModel = (.ok (), m') ∧
      Style.Chosen .builtin gardenConfig.runClasspath (.named .multiLine)
        (gardenConfig.pluginArgs ++ gardenArgs) style ∧
      gardenModel.Completes style m' := by
  have hread : Style.readTokens .builtin gardenConfig.runClasspath .initial false
      (gardenConfig.pluginArgs ++ gardenArgs) =
        (.ok (), .custom ⟨"com.example", "PlainStyle"⟩, true) := by
    decide +kernel
  have hp := prepare_of_readTokens hread
  have hm : gardenFile.build = .ok gardenModel := by decide +kernel
  obtain ⟨m', hrun, -, hstyle, -⟩ := run_of_prepare hp hm
  obtain ⟨style, hchosen, hcompletes⟩ := hstyle (by decide)
  exact ⟨_, m', style, hp, hm, hrun, hchosen, hcompletes⟩

end Pipeline

end ClassGen
