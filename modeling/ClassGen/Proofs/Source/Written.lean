/-
# What is written of a class

The source text of a class shows its name, its imports, and of every member only what is written of
it: types and annotations with simple names, the heads of methods, and statements.  Without comments
the text is laid out in lines (`WrittenClass.lines`), and as long as all names are identifiers no
line holds a line feed or opens a comment (`ClassDef.IsProper.isLine_of_mem_lines`).
-/
import ClassGen.Proofs.ClassName.FullForm
import ClassGen.Proofs.Expr.Rendering
import ClassGen.Proofs.Source.Uncommented

namespace ClassGen

open Text Piece

/-! ### What is written of a class -/

/-- What the source text of a class shows of a field. -/
structure WrittenField where
  /-- The text of its type. -/
  type : String
  /-- Its name. -/
  name : String
deriving DecidableEq, Repr

/-- What the source text of a class shows of a method. -/
structure WrittenMethod where
  /-- The simple names of its annotations, in order. -/
  annotations : List String
  /-- The head of its declaration. -/
  head : String
  /-- The texts of its statements, in order. -/
  statements : List String
deriving DecidableEq, Repr

/-- What the source text of a class shows. -/
structure WrittenClass where
  /-- The name of the class. -/
  name : ClassName
  /-- The full names that it imports, in order. -/
  imports : List String
  /-- Its fields, in order. -/
  fields : List WrittenField
  /-- Its methods, in order. -/
  methods : List WrittenMethod
deriving DecidableEq, Repr

/-- The lines of the field, after a blank one. -/
def WrittenField.lines (f : WrittenField) : List String :=
  ["", "    protected " ++ f.type ++ " " ++ f.name ++ ";"]

/-- The lines of the method, after a blank one. -/
def WrittenMethod.lines (m : WrittenMethod) : List String :=
  "" :: (m.annotations.map ("    @" ++ ·) ++ ("    " ++ m.head ++ " \x7b") ::
    (m.statements.map ("        " ++ ·) ++ ["    \x7d"]))

/-- The lines of the class. -/
def WrittenClass.lines (w : WrittenClass) : List String :=
  packageLines w.name.package ++ (importLines w.imports ++
    ("public class " ++ w.name.simple ++ " \x7b") ::
      (w.fields.flatMap WrittenField.lines ++ (w.methods.flatMap WrittenMethod.lines ++ ["\x7d"])))

/-- What is written of the field. -/
def Field.asWritten (f : Field) : WrittenField := ⟨f.type.render, f.name⟩

/-- What is written of the method. -/
def Method.asWritten (m : Method) : WrittenMethod :=
  ⟨m.annotations.map (·.simple), m.renderHead, m.body.map Statement.render⟩

/-- What is written of the class when it has these imports. -/
def ClassDef.asWritten (imports : List String) (c : ClassDef) : WrittenClass :=
  ⟨c.name, imports, c.fields.map Field.asWritten, c.methods.map Method.asWritten⟩

/-! ### The lines of a source text -/

lemma toList_renderAll (ps : List Piece) :
    (renderAll ps).toList = ps.flatMap fun p => p.render.toList := by
  simp [renderAll, String.toList_join, List.flatMap_map]

lemma unlines_flatMap {α : Type*} (xs : List α) (g : α → List String) :
    unlines (xs.flatMap g) = xs.flatMap fun x => unlines (g x) :=
  List.flatMap_assoc

lemma Field.toList_renderAll_code (f : Field) :
    (renderAll (f.pieces.filter isCode)).toList = unlines f.asWritten.lines := by
  rw [f.filter_isCode_pieces]
  simp [renderAll, Piece.render, unlines, asWritten, WrittenField.lines]

lemma Method.toList_code (m : Method) : m.code.toList = unlines m.asWritten.lines := by
  simp [code, unlines, asWritten, WrittenMethod.lines, String.toList_join, List.flatMap_map]

namespace ClassDef

lemma toList_renderAll_code (imports : List String) (c : ClassDef) :
    (renderAll ((c.pieces imports).filter isCode)).toList =
      unlines (c.asWritten imports).lines := by
  have hfields : (renderAll ((c.fields.flatMap Field.pieces).filter isCode)).toList =
      unlines ((c.fields.map Field.asWritten).flatMap WrittenField.lines) := by
    rw [List.filter_flatMap, List.flatMap_map, unlines_flatMap, toList_renderAll,
      List.flatMap_assoc]
    refine List.flatMap_congr fun f _ => ?_
    rw [← f.toList_renderAll_code, toList_renderAll]
  have hmethods : (renderAll ((c.methods.map fun m => .code m.code).filter isCode)).toList =
      unlines ((c.methods.map Method.asWritten).flatMap WrittenMethod.lines) := by
    have hall : (c.methods.map fun m => Piece.code m.code).filter isCode =
        c.methods.map fun m => .code m.code := by
      rw [List.filter_eq_self, List.forall_mem_map]
      exact fun _ _ => rfl
    rw [hall, List.flatMap_map, unlines_flatMap, toList_renderAll, List.flatMap_map]
    exact List.flatMap_congr fun m _ => m.toList_code
  have hstart : (renderAll ((Piece.code (preamble c.name.package imports) ::
      ofClassDescription c.description).filter isCode)).toList =
      unlines (packageLines c.name.package ++ importLines imports) := by
    rw [List.filter_cons_of_pos rfl, filter_isCode_ofClassDescription, ← toList_preamble]
    simp [renderAll, Piece.render]
  have hline : ∀ line text : String, text = line ++ "\n" →
      (renderAll ([Piece.code text].filter isCode)).toList = unlines [line] := by
    rintro line text rfl
    rw [List.filter_cons_of_pos rfl, List.filter_nil]
    simp [renderAll, Piece.render, unlines]
  have hhead := hline ("public class " ++ c.name.simple ++ " \x7b")
    ("public class " ++ c.name.simple ++ " \x7b\n") (by simp [String.append_assoc])
  have hend := hline "\x7d" "\x7d\n" rfl
  simp only [pieces, List.filter_append, toList_renderAll_append, hstart, hhead, hfields, hmethods,
    hend]
  simp [WrittenClass.lines, asWritten, ← unlines_append]

/-- Without comments, the source text of a class is made of the lines of what is written of it. -/
lemma exists_lines_of_render {c : ClassDef} {text : String} (h : c.render false = .ok text) :
    ∃ imports, c.imports = .ok imports ∧
      text.toList = unlines (c.asWritten imports).lines := by
  obtain ⟨imports, himports, rfl⟩ := exists_imports_of_render h
  exact ⟨imports, himports, toList_renderAll_code imports c⟩

end ClassDef

/-! ### Classes with identifiers -/

/-- The names of the method itself, of its parameters and in its statements are identifiers. -/
structure Method.IsProper (m : Method) : Prop where
  name : isIdentifier m.name = true
  params : ∀ p ∈ m.params, isIdentifier p.name = true
  statements : ∀ s ∈ m.body, ∀ x ∈ s.expr.names, isIdentifier x = true

instance (m : Method) : Decidable m.IsProper :=
  decidable_of_iff (isIdentifier m.name = true ∧ (∀ p ∈ m.params, isIdentifier p.name = true) ∧
      ∀ s ∈ m.body, ∀ x ∈ s.expr.names, isIdentifier x = true)
    ⟨fun h => ⟨h.1, h.2.1, h.2.2⟩, fun h => ⟨h.name, h.params, h.statements⟩⟩

/-- All names of the class are identifiers: its own name and those of the classes that it mentions,
with their packages, and those of its members.  Whether they are reserved words plays no role. -/
structure ClassDef.IsProper (c : ClassDef) : Prop where
  name : c.name.IsProper
  mentioned : ∀ a ∈ c.classNames, a.IsProper
  fields : ∀ f ∈ c.fields, isIdentifier f.name = true
  methods : ∀ m ∈ c.methods, m.IsProper

instance (c : ClassDef) : Decidable c.IsProper :=
  decidable_of_iff (c.name.IsProper ∧ (∀ a ∈ c.classNames, a.IsProper) ∧
      (∀ f ∈ c.fields, isIdentifier f.name = true) ∧ ∀ m ∈ c.methods, m.IsProper)
    ⟨fun h => ⟨h.1, h.2.1, h.2.2.1, h.2.2.2⟩,
      fun h => ⟨h.name, h.mentioned, h.fields, h.methods⟩⟩

lemma ClassName.IsProper.plain {a : ClassName} (h : a.IsProper) : a.Plain :=
  ⟨h.package.isNameChar_or_dot, (isNameChar_of_isIdentifier h.simple).2⟩

lemma isLine_of_isIdentifier {s : String} (h : isIdentifier s = true) : IsLine s :=
  isLine_of_forall_isCodeChar fun c hc =>
    isCodeChar_of_isNameChar ((isNameChar_of_isIdentifier h).2 c hc)

instance (l : String) : Decidable (IsLine l) :=
  decidable_of_iff ('/' ∉ l.toList ∧ '\n' ∉ l.toList)
    ⟨fun h => ⟨h.1, h.2⟩, fun h => ⟨h.no_slash, h.no_feed⟩⟩

lemma Piece.IsLine.append {s t : String} (hs : IsLine s) (ht : IsLine t) : IsLine (s ++ t) :=
  ⟨by simp [hs.no_slash, ht.no_slash], by simp [hs.no_feed, ht.no_feed]⟩

lemma isLine_intercalate {sep : String} {ss : List String} (hsep : IsLine sep)
    (h : ∀ s ∈ ss, IsLine s) : IsLine (sep.intercalate ss) := by
  induction ss with
  | nil => exact isLine_empty
  | cons s ss ih =>
    obtain ⟨hs, hss⟩ := List.forall_mem_cons.1 h
    cases ss with
    | nil =>
      rw [String.intercalate_singleton]
      exact hs
    | cons t ss =>
      rw [String.intercalate_cons_cons]
      exact (hs.append hsep).append (ih hss)

namespace Expr

mutual

lemma isLine_render : ∀ {e : Expr}, (∀ x ∈ e.names, isIdentifier x = true) → IsLine e.render
  | this, _ => by
    rw [render]
    decide
  | var name, h => isLine_of_isIdentifier (h name (by simp [names]))
  | staticField a field, h => by
    rw [names, List.forall_mem_cons, List.forall_mem_singleton] at h
    have hdot : IsLine "." := by decide
    exact ((isLine_of_isIdentifier h.1).append hdot).append (isLine_of_isIdentifier h.2)
  | construct a args, h => by
    rw [names, List.forall_mem_cons] at h
    have hnew : IsLine "new " := by decide
    have hopen : IsLine "(" := by decide
    have hclose : IsLine ")" := by decide
    exact (((hnew.append (isLine_of_isIdentifier h.1)).append hopen).append
      (isLine_renderAll h.2)).append hclose
  | invoke a method args, h => by
    rw [names, List.forall_mem_cons, List.forall_mem_cons] at h
    have hdot : IsLine "." := by decide
    have hopen : IsLine "(" := by decide
    have hclose : IsLine ")" := by decide
    exact (((((isLine_of_isIdentifier h.1).append hdot).append
      (isLine_of_isIdentifier h.2.1)).append hopen).append (isLine_renderAll h.2.2)).append hclose

lemma isLine_renderAll : ∀ {es : List Expr}, (∀ x ∈ namesAll es, isIdentifier x = true) →
    IsLine (renderAll es)
  | [], _ => isLine_empty
  | e :: es, h => by
    rw [namesAll, List.forall_mem_append] at h
    rw [renderAll]
    exact (isLine_render h.1).append (isLine_renderRest h.2)

lemma isLine_renderRest : ∀ {es : List Expr}, (∀ x ∈ namesAll es, isIdentifier x = true) →
    IsLine (renderRest es)
  | [], _ => isLine_empty
  | e :: es, h => by
    rw [namesAll, List.forall_mem_append] at h
    have hcomma : IsLine ", " := by decide
    rw [renderRest]
    exact (hcomma.append (isLine_render h.1)).append (isLine_renderRest h.2)

end

end Expr

lemma TypeRef.isLine_render {t : TypeRef} (h : ∀ a ∈ t.classNames, a.IsProper) :
    IsLine t.render :=
  isLine_of_forall_isCodeChar (isCodeChar_of_mem_render fun a ha => (h a ha).plain)

lemma Statement.isLine_render {s : Statement} (h : ∀ x ∈ s.expr.names, isIdentifier x = true) :
    IsLine s.render := by
  obtain ⟨value⟩ := s
  have hreturn : IsLine "return " := by decide
  have hend : IsLine ";" := by decide
  exact (hreturn.append (Expr.isLine_render h)).append hend

namespace Method

variable {m : Method}

lemma isLine_renderHead (h : m.IsProper) (hmentioned : ∀ a ∈ m.classNames, a.IsProper) :
    IsLine m.renderHead := by
  simp only [classNames, List.forall_mem_append, List.forall_mem_flatMap] at hmentioned
  obtain ⟨⟨⟨hresult, -⟩, hparams⟩, -⟩ := hmentioned
  have hspace : IsLine " " := by decide
  have hcomma : IsLine ", " := by decide
  have hopen : IsLine "(" := by decide
  have hclose : IsLine ")" := by decide
  have hparam : ∀ p ∈ m.params, IsLine (p.type.render ++ " " ++ p.name) := by
    intro p hp
    exact ((TypeRef.isLine_render (hparams p hp)).append hspace).append
      (isLine_of_isIdentifier (h.params p hp))
  have hlist := isLine_intercalate hcomma (List.forall_mem_map.2 hparam)
  have hhead := (((((TypeRef.isLine_render hresult).append hspace).append
    (isLine_of_isIdentifier h.name)).append hopen).append hlist).append hclose
  rw [renderHead]
  cases m.visibility with
  | «public» => exact (IsLine.append (by decide) hspace).append hhead
  | «protected» => exact (IsLine.append (by decide) hspace).append hhead
  | packagePrivate => exact hhead
  | «private» => exact (IsLine.append (by decide) hspace).append hhead

lemma isLine_of_mem_lines (h : m.IsProper) (hmentioned : ∀ a ∈ m.classNames, a.IsProper) :
    ∀ l ∈ m.asWritten.lines, IsLine l := by
  have hmarkers : ∀ a ∈ m.annotations, a.IsProper := by
    simp only [classNames, List.forall_mem_append] at hmentioned
    exact hmentioned.1.1.2
  have hhead := isLine_renderHead h hmentioned
  have hindent : IsLine "    " := by decide
  simp only [WrittenMethod.lines, asWritten, List.forall_mem_cons, List.forall_mem_append,
    List.forall_mem_map]
  refine ⟨isLine_empty, fun a ha => ?_, ?_, fun s hs => ?_, by decide, by simp⟩
  · exact IsLine.append (by decide) (isLine_of_isIdentifier (hmarkers a ha).simple)
  · exact (hindent.append hhead).append (by decide)
  · exact IsLine.append (by decide) (Statement.isLine_render (h.statements s hs))

end Method

lemma Field.isLine_of_mem_lines {f : Field} (h : isIdentifier f.name = true)
    (hmentioned : ∀ a ∈ f.type.classNames, a.IsProper) : ∀ l ∈ f.asWritten.lines, IsLine l := by
  have hstart : IsLine "    protected " := by decide
  have hspace : IsLine " " := by decide
  have hend : IsLine ";" := by decide
  rw [WrittenField.lines, List.forall_mem_cons, List.forall_mem_singleton]
  exact ⟨isLine_empty, (((hstart.append (TypeRef.isLine_render hmentioned)).append hspace).append
    (isLine_of_isIdentifier h)).append hend⟩

namespace ClassDef

variable {c : ClassDef} {imports : List String}

lemma IsProper.isLine_of_mem_lines (h : c.IsProper) (himports : c.imports = .ok imports) :
    ∀ l ∈ (c.asWritten imports).lines, IsLine l := by
  have himported : ∀ l ∈ importLines imports, CodeLine "import " l := by
    refine codeLine_of_mem_importLines fun i hi ch hch => ?_
    obtain ⟨a, ha, rfl⟩ := (mem_of_imports himports).1 hi
    have hproper : a.IsProper := h.mentioned a (mem_classNames.2 ha.mentioned)
    exact isCodeChar_of_isNameChar_or_dot (hproper.plain.full ch hch)
  have hmentioned := h.mentioned
  simp only [classNames, List.forall_mem_append, List.forall_mem_flatMap] at hmentioned
  simp only [WrittenClass.lines, asWritten, List.forall_mem_append, List.forall_mem_cons,
    List.forall_mem_flatMap, List.forall_mem_map]
  refine ⟨isLine_of_mem_packageLines h.name.package, fun l hl => ?_, ?_, ?_, ?_,
    by decide, by simp⟩
  · exact isLine_of_forall_isCodeChar (himported l hl).chars
  · exact isLine_head (isNameChar_of_isIdentifier h.name.simple).2
  · exact fun f hf => Field.isLine_of_mem_lines (h.fields f hf) (hmentioned.1 f hf)
  · exact fun m hm => Method.isLine_of_mem_lines (h.methods m hm) (hmentioned.2 m hm)

end ClassDef

end ClassGen
