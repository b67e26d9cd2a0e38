/-
# Deriving methods twice

The plugin for derived methods does not ask what methods a class has: each of its turns gives every
class the same three signatures once more, whatever the style is.  Plugins that only add to classes
take none of them away again.  So after two turns, in one run or in different ones, every class has
each of the three signatures twice, and the model is refused for its first class
(`Pipeline.sourceFiles_of_derived_twice`).

The signatures of a class are looked at before its imports, so a clash of imports has no say in
this.
-/
import ClassGen.Proofs.Derived.Run
import ClassGen.Proofs.Source.Outcome

namespace ClassGen

/-- The class `d` has the name of `c`, and it has the signatures of `c` and then those of `ss`,
among others. -/
structure ClassDef.Gains (ss : List Signature) (c d : ClassDef) : Prop where
  name : d.name = c.name
  signatures : (c.methods.map (·.signature) ++ ss).Sublist (d.methods.map (·.signature))

/-- Each class of the first model gains the signatures in the second one, and it keeps its place
there. -/
def CodeModel.Gains (ss : List Signature) (m m' : CodeModel) : Prop :=
  ∀ (k : Nat) (c : ClassDef), m.classes[k]? = some c → ∃ d, m'.classes[k]? = some d ∧ c.Gains ss d

namespace Plugin

/-- The plugin succeeds on every model and takes no method of a class away. -/
structure OnlyAdds (p : Plugin) : Prop where
  succeeds : ∀ cp m, (p.apply cp m).1 = true
  gains : ∀ cp m, CodeModel.Gains [] m (p.apply cp m).2.1

/-- The plugin is the one for derived methods, with some catalog and in some style. -/
def Derives (p : Plugin) : Prop := ∃ catalog style, p = Style.plugin catalog style

end Plugin

/-- The signatures of the derived methods. -/
def Signature.derived : List Signature :=
  [⟨"toString", []⟩, ⟨"equals", [.ofClass ClassName.object]⟩, ⟨"hashCode", []⟩]

/-- Run pipelines one after the other on one model until one fails, and what becomes of the
model. -/
def Pipeline.runAll : List Pipeline → CodeModel → Except PipelineError Unit × CodeModel
  | [], m => (.ok (), m)
  | p :: ps, m =>
    match p.run m with
    | (.ok (), m) => runAll ps m
    | (.error e, m) => (.error e, m)

variable {ss ts : List Signature} {m m' m'' : CodeModel}

/-! ### Gaining signatures -/

lemma ClassDef.Gains.trans {c d e : ClassDef} (h : c.Gains ss d) (h' : d.Gains ts e) :
    c.Gains (ss ++ ts) e where
  name := h'.name.trans h.name
  signatures := by
    rw [← List.append_assoc]
    exact (h.signatures.append_right ts).trans h'.signatures

lemma CodeModel.Gains.refl (m : CodeModel) : m.Gains [] m := by
  intro k c hc
  refine ⟨c, hc, rfl, ?_⟩
  rw [List.append_nil]

lemma CodeModel.Gains.trans (h : m.Gains ss m') (h' : m'.Gains ts m'') :
    m.Gains (ss ++ ts) m'' := by
  intro k c hc
  obtain ⟨d, hd, hgains⟩ := h k c hc
  obtain ⟨e, he, hgains'⟩ := h' k d hd
  exact ⟨e, he, hgains.trans hgains'⟩

lemma CodeModel.Gains.mono (h : m.Gains ss m') (hts : ts.Sublist ss) : m.Gains ts m' := by
  intro k c hc
  obtain ⟨d, hd, hgains⟩ := h k c hc
  exact ⟨d, hd, hgains.name, (hts.append_left _).trans hgains.signatures⟩

/-- A class that gains a list with a repeated signature has a repeated signature. -/
lemma ClassDef.Gains.not_nodup {c d : ClassDef} (h : c.Gains ss d) (hss : ¬ ss.Nodup) :
    ¬ (d.methods.map (·.signature)).Nodup := by
  intro hnodup
  exact hss ((List.nodup_append.1 (hnodup.sublist h.signatures)).2.1)

/-! ### What a turn of the plugin adds -/

/-- The style has no part in the signatures. -/
lemma Method.signatures_derived (style : Style) :
    (derived style).map (·.signature) = Signature.derived := rfl

lemma ClassDef.gains_attachDerived (style : Style) (c : ClassDef) :
    c.Gains Signature.derived (c.attachDerived style) where
  name := rfl
  signatures := by
    rw [attachDerived, List.map_append, Method.signatures_derived]

lemma Plugin.Derives.apply {p : Plugin} (h : p.Derives) (cp : Classpath) (m : CodeModel) :
    (p.apply cp m).1 = true ∧ m.Gains Signature.derived (p.apply cp m).2.1 := by
  obtain ⟨catalog, style, rfl⟩ := h
  refine ⟨rfl, ?_⟩
  have hmodel : ((Style.plugin catalog style).apply cp m).2.1 =
      m.mapClasses (·.attachDerived style) := rfl
  intro k c hc
  have hmapped : (m.mapClasses (·.attachDerived style)).classes[k]? =
      some (c.attachDerived style) := by
    rw [CodeModel.mapClasses, List.getElem?_map, hc, Option.map_some]
  rw [hmodel]
  exact ⟨c.attachDerived style, hmapped, c.gains_attachDerived style⟩

lemma Plugin.Derives.onlyAdds {p : Plugin} (h : p.Derives) : p.OnlyAdds where
  succeeds cp m := (h.apply cp m).1
  gains cp m := (h.apply cp m).2.mono (List.nil_sublist _)

namespace Pipeline

variable {cp : Classpath} {p : Plugin} {plugins turns : List Plugin} {ps : List Pipeline}

/-! ### What runs add -/

lemma runPlugins_cons_of_succeeds (h : (p.apply cp m).1 = true) :
    runPlugins cp m (p :: plugins) = runPlugins cp (p.apply cp m).2.1 plugins := by
  have happly : p.apply cp m = (true, (p.apply cp m).2) := Prod.ext h rfl
  rw [runPlugins, happly]

/-- In a run of plugins that only add, each turn of the plugin for derived methods counts. -/
lemma exists_runPlugins_of_sublist (cp : Classpath) (hadds : ∀ p ∈ plugins, p.OnlyAdds)
    (hturns : turns.Sublist plugins) (hderives : ∀ p ∈ turns, p.Derives) (m : CodeModel) :
    ∃ m', runPlugins cp m plugins = (.ok (), m') ∧
      m.Gains (turns.flatMap fun _ => Signature.derived) m' := by
  induction hturns generalizing m with
  | slnil => exact ⟨m, rfl, .refl m⟩
  | @cons turns plugins p _ ih =>
    obtain ⟨hp, hadds⟩ := List.forall_mem_cons.1 hadds
    obtain ⟨m', hrun, hgains⟩ := ih hadds hderives (p.apply cp m).2.1
    refine ⟨m', ?_, (hp.gains cp m).trans hgains⟩
    rw [runPlugins_cons_of_succeeds (hp.succeeds cp m), hrun]
  | @cons_cons turns plugins p _ ih =>
    obtain ⟨-, hadds⟩ := List.forall_mem_cons.1 hadds
    obtain ⟨hp, hderives⟩ := List.forall_mem_cons.1 hderives
    obtain ⟨hsucceeds, hfirst⟩ := hp.apply cp m
    obtain ⟨m', hrun, hgains⟩ := ih hadds hderives (p.apply cp m).2.1
    refine ⟨m', ?_, hfirst.trans hgains⟩
    rw [runPlugins_cons_of_succeeds hsucceeds, hrun]

lemma exists_runAll_of_sublist (hadds : ∀ p ∈ ps, ∀ plugin ∈ p.activePlugins, plugin.OnlyAdds)
    (hturns : turns.Sublist (ps.flatMap (·.activePlugins))) (hderives : ∀ p ∈ turns, p.Derives)
    (m : CodeModel) :
    ∃ m', runAll ps m = (.ok (), m') ∧
      m.Gains (turns.flatMap fun _ => Signature.derived) m' := by
  induction ps generalizing turns m with
  | nil =>
    obtain rfl : turns = [] := List.sublist_nil.1 hturns
    exact ⟨m, rfl, .refl m⟩
  | cons p ps ih =>
    -- the turns are those of the first pipeline and then those of the others
    rw [List.flatMap_cons, List.sublist_append_iff] at hturns
    obtain ⟨first, others, rfl, hfirst, hothers⟩ := hturns
    obtain ⟨hp, hadds⟩ := List.forall_mem_cons.1 hadds
    obtain ⟨hderives, hderives'⟩ := List.forall_mem_append.1 hderives
    obtain ⟨m', hrun, hgains⟩ :=
      exists_runPlugins_of_sublist p.classpath hp hfirst hderives m
    obtain ⟨m'', hrunAll, hgains'⟩ := ih hadds hothers hderives' m'
    refine ⟨m'', ?_, ?_⟩
    · rw [runAll, run, hrun]
      exact hrunAll
    · rw [List.flatMap_append]
      exact hgains.trans hgains'

/-- **Methods that are derived twice are always found.**  When pipelines are run one after the other
and the plugin for derived methods has two turns among those of plugins that only add, whatever
styles it is in, all runs succeed.  But then the model has no source files: it is refused for a
repeated signature of its first class, with whatever methods, fields and imports this class has. -/
theorem sourceFiles_of_derived_twice {c : ClassDef} {cs : List ClassDef} {p q : Plugin}
    (hadds : ∀ r ∈ ps, ∀ plugin ∈ r.activePlugins, plugin.OnlyAdds)
    (hp : p.Derives) (hq : q.Derives) (htwice : [p, q].Sublist (ps.flatMap (·.activePlugins)))
    (hclasses : m.classes = c :: cs) (comments : Bool) :
    ∃ m' s, runAll ps m = (.ok (), m') ∧
      m'.sourceFiles comments = .error (.duplicateMethod c.name s) := by
  obtain ⟨m', hrun, hgains⟩ := exists_runAll_of_sublist hadds htwice (by simp [hp, hq]) m
  obtain ⟨d, hd, hc⟩ := hgains 0 c (by rw [hclasses, List.getElem?_cons_zero])
  obtain ⟨ds, hclasses'⟩ : ∃ ds, m'.classes = d :: ds := by
    rw [← List.head?_eq_getElem?, List.head?_eq_some_iff] at hd
    exact hd
  have hrepeats : ¬ (Signature.derived ++ (Signature.derived ++ [])).Nodup := by decide
  have hnodup : ¬ (d.methods.map (·.signature)).Nodup := hc.not_nodup hrepeats
  obtain ⟨s, hs⟩ : ∃ s, d.render comments = .error (.duplicateMethod d.name s) :=
    ClassDef.exists_render_eq_duplicateMethod_iff.2 hnodup
  rw [hc.name] at hs
  refine ⟨m', s, hrun, ClassDef.sourceFiles_eq_error_iff.2 ⟨[], d, ds, hclasses', ?_, hs⟩⟩
  exact fun b hb => absurd hb List.not_mem_nil

/-- A class with a method of its own that needs two imports of one simple name. -/
def ledgerClass : ClassDef :=
  ⟨⟨"com.example", "Ledger"⟩, none,
    [⟨"opened", .ofClass ⟨"java.util", "Date"⟩, none⟩,
      ⟨"booked", .ofClass ⟨"java.sql", "Date"⟩, none⟩],
    [⟨.public, .primitive .int, "close", [], [], []⟩]⟩

/-- Two pipelines of the plugin for derived methods, in different styles. -/
def ledgerPipelines : List Pipeline :=
  [Style.pipeline .builtin Classpath.base (.named .simple) true,
    Style.pipeline .builtin Classpath.base (.custom ⟨"com.example", "PlainStyle"⟩) true]

theorem sourceFiles_ledgerClass_of_derived_twice :
    (∃ e, ledgerClass.imports = .error e) ∧
    ∃ m' s, runAll ledgerPipelines ⟨"com.example", [ledgerClass]⟩ = (.ok (), m') ∧
      m'.sourceFiles true = .error (.duplicateMethod ⟨"com.example", "Ledger"⟩ s) := by
  have hclash : ledgerClass.imports = .error (.nameClash ⟨"com.example", "Ledger"⟩
      ⟨"java.sql", "Date"⟩ ⟨"java.util", "Date"⟩) := by
    decide +kernel
  have hfirst : (Style.plugin .builtin (.named .simple)).Derives := ⟨_, _, rfl⟩
  have hsecond : (Style.plugin .builtin (.custom ⟨"com.example", "PlainStyle"⟩)).Derives :=
    ⟨_, _, rfl⟩
  have hadds : ∀ p ∈ ledgerPipelines, ∀ plugin ∈ p.activePlugins, plugin.OnlyAdds :=
    List.forall_mem_cons.2 ⟨List.forall_mem_singleton.2 hfirst.onlyAdds,
      List.forall_mem_singleton.2 (List.forall_mem_singleton.2 hsecond.onlyAdds)⟩
  exact ⟨⟨_, hclash⟩,
    sourceFiles_of_derived_twice hadds hfirst hsecond (List.Sublist.refl _)
      (c := ledgerClass) rfl true⟩

end Pipeline

end ClassGen
