/-
# The outcome of rendering a model

A class can be rendered when its methods have different signatures and its imports can be given.
A class that cannot is refused for its earliest repeated signature, and for a clash of its imports
only when no signature is repeated.  A model is rendered when each of its classes can be, and is
refused for the first class that cannot, with that class's refusal
(`CodeModel.sourceFiles_iff_renderable`).
-/
import ClassGen.Proofs.Source.File

namespace ClassGen

namespace ClassDef

/-- The class can be rendered. -/
structure Renderable (c : ClassDef) : Prop where
  distinct : (c.methods.map (·.signature)).Nodup
  imports : ∃ names, c.imports = .ok names

/-- The class `c` is refused, and in these words. -/
inductive Refuses (c : ClassDef) : RenderError → String → Prop
  /-- The method `m` is the earliest whose signature is that of a method before it. -/
  | duplicateMethod {before after : List Method} {m : Method}
      (split : c.methods = before ++ m :: after)
      (distinct : (before.map (·.signature)).Nodup)
      (repeated : ∃ m' ∈ before, m'.signature = m.signature) :
      Refuses c (.duplicateMethod c.name m.signature)
        ("duplicate method " ++ m.signature.render ++ " in class " ++ c.name.full)
  /-- No signature is repeated, and `b` is the first import whose simple name is taken. -/
  | nameClash {a b : ClassName}
      (distinct : (c.methods.map (·.signature)).Nodup)
      (clash : c.FirstClash a b) :
      Refuses c (.nameClash c.name a b)
        ("class " ++ c.name.simple ++ " references both " ++ a.full ++ " and " ++ b.full)

variable {comments : Bool} {c : ClassDef} {e : RenderError}

/-! ### One class -/

lemma firstRepeated?_methods_eq_none_iff :
    Signature.firstRepeated? [] (c.methods.map (·.signature)) = none ↔
      (c.methods.map (·.signature)).Nodup := by
  rw [Signature.firstRepeated?_eq_none_iff]
  exact and_iff_left fun s _ => List.not_mem_nil

lemma firstRepeated?_methods_eq_some_iff {s : Signature} :
    Signature.firstRepeated? [] (c.methods.map (·.signature)) = some s ↔
      ∃ before m after, c.methods = before ++ m :: after ∧
        (before.map (·.signature)).Nodup ∧ (∃ m' ∈ before, m'.signature = m.signature) ∧
        m.signature = s := by
  rw [Signature.firstRepeated?_eq_some_iff]
  constructor
  · rintro ⟨before, after, hsplit, hbefore, hs⟩
    obtain ⟨ms, ms', hmethods, rfl, hms'⟩ := List.map_eq_append_iff.1 hsplit
    obtain ⟨m, rest, rfl, rfl, rfl⟩ := List.map_eq_cons_iff.1 hms'
    have hnodup := (Signature.firstRepeated?_eq_none_iff.1 hbefore).1
    have hrepeated : m.signature ∈ ms.map (·.signature) := by simpa using hs
    exact ⟨ms, m, rest, hmethods, hnodup, List.mem_map.1 hrepeated, rfl⟩
  · rintro ⟨before, m, after, hsplit, hnodup, hrepeated, rfl⟩
    refine ⟨before.map (·.signature), after.map (·.signature), by simp [hsplit], ?_, ?_⟩
    · exact Signature.firstRepeated?_eq_none_iff.2 ⟨hnodup, fun s _ => List.not_mem_nil⟩
    · exact Or.inl (List.mem_map.2 hrepeated)

/-- A repeated signature is enough for a refusal that names the class, whatever its imports are. -/
lemma exists_render_eq_duplicateMethod_iff :
    (∃ s, c.render comments = .error (.duplicateMethod c.name s)) ↔
      ¬ (c.methods.map (·.signature)).Nodup := by
  simp only [render_eq_error_duplicateMethod_iff, true_and]
  rw [← Option.ne_none_iff_exists', ne_eq, firstRepeated?_methods_eq_none_iff]

/-- Rendering looks at the imports only when no signature is repeated. -/
lemma render_eq_error_nameClash_iff {cls a b : ClassName} :
    c.render comments = .error (.nameClash cls a b) ↔
      (c.methods.map (·.signature)).Nodup ∧ cls = c.name ∧ c.FirstClash a b := by
  rw [← firstRepeated?_methods_eq_none_iff, render]
  rcases hrepeated : Signature.firstRepeated? [] (c.methods.map (·.signature)) with _ | s
  · rcases himports : c.imports with e | imports
    · obtain ⟨a', b', hclash, rfl⟩ := imports_eq_error_iff.1 himports
      simp only [hrepeated, Except.error.injEq, RenderError.nameClash.injEq, true_and]
      constructor
      · rintro ⟨rfl, rfl, rfl⟩
        exact ⟨rfl, hclash⟩
      · rintro ⟨rfl, hclash'⟩
        exact ⟨rfl, hclash.unique hclash'⟩
    · have hfree : ¬ c.FirstClash a b := fun hclash =>
        hclash.not_unambiguous (imports_eq_ok_iff.1 himports).1
      simp [hrepeated, hfree]
  · simp [hrepeated]

lemma render_eq_error_iff : c.render comments = .error e ↔ c.Refuses e e.message := by
  constructor
  · intro h
    cases e with
    | duplicateMethod cls s =>
      obtain ⟨rfl, hrepeated⟩ := render_eq_error_duplicateMethod_iff.1 h
      obtain ⟨before, m, after, hsplit, hnodup, hm, rfl⟩ :=
        firstRepeated?_methods_eq_some_iff.1 hrepeated
      exact .duplicateMethod hsplit hnodup hm
    | nameClash cls a b =>
      obtain ⟨hnodup, rfl, hclash⟩ := render_eq_error_nameClash_iff.1 h
      exact .nameClash hnodup hclash
  · intro h
    generalize e.message = text at h
    cases h with
    | duplicateMethod hsplit hnodup hm =>
      exact render_eq_error_duplicateMethod_iff.2
        ⟨rfl, firstRepeated?_methods_eq_some_iff.2 ⟨_, _, _, hsplit, hnodup, hm, rfl⟩⟩
    | nameClash hnodup hclash =>
      exact render_eq_error_nameClash_iff.2 ⟨hnodup, rfl, hclash⟩

/-- A class that is refused lacks one of the two things that rendering asks for. -/
lemma Refuses.not_renderable {text : String} (h : c.Refuses e text) : ¬ c.Renderable := by
  rintro ⟨hdistinct, names, hnames⟩
  cases h with
  | @duplicateMethod before after m hsplit _ hrepeated =>
    obtain ⟨m', hm', hsignature⟩ := hrepeated
    rw [hsplit, List.map_append, List.map_cons, List.nodup_append] at hdistinct
    obtain ⟨-, -, hne⟩ := hdistinct
    exact hne m'.signature (List.mem_map_of_mem hm') m.signature List.mem_cons_self hsignature
  | nameClash _ hclash => exact hclash.not_unambiguous (imports_eq_ok_iff.1 hnames).1

lemma exists_render_iff : (∃ text, c.render comments = .ok text) ↔ c.Renderable := by
  constructor
  · rintro ⟨text, htext⟩
    obtain ⟨names, hnames, -⟩ := exists_imports_of_render htext
    refine ⟨?_, names, hnames⟩
    by_contra hrepeated
    obtain ⟨s, hs⟩ := exists_render_eq_duplicateMethod_iff.2 hrepeated
    rw [htext] at hs
    cases hs
  · intro hrenderable
    rcases hrender : c.render comments with e | text
    · exact absurd hrenderable (render_eq_error_iff.1 hrender).not_renderable
    · exact ⟨text, rfl⟩

end ClassDef

/-! ### All classes -/

/-- **When a model is rendered, and why it is not.**  There are files exactly when the methods of
every class have different signatures and every class's imports can be given.  Otherwise the error
is that of the first class of which this fails: its earliest repeated signature, or, if none is
repeated, its first clash of imports. -/
theorem CodeModel.sourceFiles_iff_renderable (m : CodeModel) (comments : Bool) :
    ((∃ files, m.sourceFiles comments = .ok files) ↔ ∀ c ∈ m.classes, c.Renderable) ∧
    ∀ e, m.sourceFiles comments = .error e ↔ ∃ before c after,
      m.classes = before ++ c :: after ∧ (∀ b ∈ before, b.Renderable) ∧
        c.Refuses e e.message := by
  refine ⟨?_, fun e => ?_⟩
  · simp only [CodeModel.exists_sourceFiles_iff, ClassDef.exists_render_iff]
  · simp only [CodeModel.sourceFiles, ClassDef.sourceFiles_eq_error_iff,
      ClassDef.exists_render_iff, ClassDef.render_eq_error_iff]

/-- A class of one simple name with an import that repeats a signature is refused for the
signature. -/
example :
    let close (returns : TypeRef) : Method := ⟨.public, returns, "close", [], [], []⟩
    CodeModel.sourceFiles true ⟨"com.example", [⟨⟨"com.example", "Date"⟩, none, [],
      [close (.primitive .int), close (.ofClass ⟨"java.util", "Date"⟩)]⟩]⟩ =
    .error (.duplicateMethod ⟨"com.example", "Date"⟩ ⟨"close", []⟩) := by
  decide +kernel

end ClassGen
