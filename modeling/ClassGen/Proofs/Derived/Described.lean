/-
# Descriptions decide on comments only

What a model file says about its classes and fields may hold any characters.  It gets into comments
and nowhere else: with the comments cut out of it, the text of a class is the one that is laid out
without comments, and that one is the same whatever the descriptions are
(`ModelFile.render_false_of_build`).  Neither the names of a model file nor a style of the user can
bring a slash into the code, so no comment starts but those that are laid out.
-/
import ClassGen.Proofs.Derived.Style
import ClassGen.Proofs.Source.Uncommented

namespace ClassGen

open Text

/-! ### Styles -/

namespace Style

variable (catalog : StyleCatalog)

/-- The plugin is in this style after some tokens, on some classpath. -/
inductive Selected : Style → Prop
  | initial : Selected .initial
  | next {style : Style} (cp : Classpath) (args : List String) (i : Nat) :
      Selected style → Selected (claim catalog style cp args i).2

/-- The second model is the first one, or what the plugin makes of it in a style that tokens have
selected. -/
inductive MayRun (m : CodeModel) : CodeModel → Prop
  | off : MayRun m m
  | on {style : Style} (cp : Classpath) : Selected catalog style →
      MayRun m ((plugin catalog style).apply cp m).2.1

variable {catalog} {cp : Classpath} {style : Style} {text : String}

/-- The style is a constant or a class with a plain name. -/
def IsPlain : Style → Prop
  | named _ => True
  | custom cls => cls.Plain

lemma isPlain_of_resolve (h : resolve catalog cp text = .ok style) : style.IsPlain := by
  obtain ⟨decided, hdecision⟩ := exists_decision catalog cp text
  have hdecided := resolve_of_decision hdecision
  rw [h] at hdecided
  subst hdecided
  cases hdecision with
  | named => trivial
  | cls _ hclass =>
    cases hclass with
    | usable hd _ _ hcut _ =>
      have hpackage : IsPackageName (trim text) := Or.inr hd.dotted
      exact ClassName.plain_of_cutAtLastDot hpackage.isNameChar_or_dot hcut

lemma Selected.isPlain (h : Selected catalog style) : style.IsPlain := by
  induction h with
  | initial => trivial
  | next cp args i _ ih =>
    rw [claim]
    split
    · exact ih
    · split
      · exact isPlain_of_resolve ‹_›
      · exact ih

end Style

/-! ### Code without slashes -/

lemma slash_not_mem_of_isNameChar_or_dot {s : String}
    (h : ∀ c ∈ s.toList, isNameChar c = true ∨ c = '.') : '/' ∉ s.toList :=
  not_mem_of_forall (fun c hc => isCodeChar_of_isNameChar_or_dot (h c hc)) (by decide)

lemma ClassName.Plain.slash_not_mem_full {name : ClassName} (h : name.Plain) :
    '/' ∉ name.full.toList :=
  slash_not_mem_of_isNameChar_or_dot h.full

lemma ClassName.Plain.slash_not_mem_simple {name : ClassName} (h : name.Plain) :
    '/' ∉ name.simple.toList :=
  not_mem_of_forall h.simple (by decide)

lemma BuiltinStyle.slash_not_mem_name (s : BuiltinStyle) : '/' ∉ s.name.toList := by
  cases s <;> decide

namespace ClassDef

variable {c : ClassDef} {style : Style}

lemma Plain.slashFree (h : c.Plain) : c.SlashFree where
  package := slash_not_mem_of_isNameChar_or_dot h.package.isNameChar_or_dot
  simple := not_mem_of_forall h.simple (by decide)
  mentioned := by
    intro a ha
    rw [classNames, h.methods, List.flatMap_nil, List.append_nil, List.mem_flatMap] at ha
    obtain ⟨f, hf, ha⟩ := ha
    exact ((h.fields f hf).type a ha).slash_not_mem_full
  types := fun f hf =>
    not_mem_of_forall (TypeRef.isCodeChar_of_mem_render (h.fields f hf).type) (by decide)
  fields := fun f hf => not_mem_of_forall (h.fields f hf).name (by decide)
  methods := by simp [h.methods]

lemma slash_not_mem_render_style (h : style.IsPlain) : '/' ∉ style.expr.render.toList := by
  cases style with
  | named constant =>
    simp [Style.expr, Expr.render, Style.baseClass, constant.slash_not_mem_name]
  | custom cls =>
    have hcls : cls.Plain := h
    simp [Style.expr, Expr.render, Expr.renderAll, hcls.slash_not_mem_simple]

lemma slash_not_mem_full_style (h : style.IsPlain) :
    ∀ a ∈ style.expr.classNames, '/' ∉ a.full.toList := by
  cases style with
  | named constant =>
    rw [Style.expr, Expr.classNames, List.forall_mem_singleton]
    decide
  | custom cls =>
    have hcls : cls.Plain := h
    rw [Style.expr, Expr.classNames, Expr.classNamesAll, List.forall_mem_singleton]
    exact hcls.slash_not_mem_full

lemma slash_not_mem_derived (h : style.IsPlain) :
    ∀ m ∈ Method.derived style, '/' ∉ m.code.toList := by
  have hstyle := slash_not_mem_render_style h
  rw [Method.derived, List.forall_mem_cons, List.forall_mem_cons, List.forall_mem_singleton]
  refine ⟨?_, by decide +kernel, by decide +kernel⟩
  have hcode : (Method.toStringIn style).code =
      "\n    @Override\n    public String toString() \x7b\n" ++
        "        return ToStringBuilder.reflectionToString(this, " ++ style.expr.render ++
        ");\n    \x7d\n" := by
    rw [← String.toList_inj]
    simp [Method.code, Method.toStringIn, Method.overriding, Method.renderHead, Visibility.keyword,
      Statement.render, Expr.render, Expr.renderAll, Expr.renderRest, ClassName.overrideMarker,
      TypeRef.render, TypeRef.ofClass, ClassName.string, builderClass]
  rw [hcode]
  simp [hstyle]

lemma slash_not_mem_full_derived (h : style.IsPlain) :
    ∀ a ∈ (Method.derived style).flatMap (·.classNames), '/' ∉ a.full.toList := by
  have hnames : (Method.derived style).flatMap (·.classNames) =
      [.string, .overrideMarker, builderClass "ToStringBuilder"] ++ style.expr.classNames ++
        [.overrideMarker, .object, builderClass "EqualsBuilder", .overrideMarker,
          builderClass "HashCodeBuilder"] := by
    simp [Method.derived, Method.classNames, Method.toStringIn, Method.equals, Method.hashCode,
      Method.overriding, TypeRef.ofClass, TypeRef.classNames, TypeRef.classNamesAll,
      Statement.expr, Expr.classNames, Expr.classNamesAll]
  rw [hnames, List.forall_mem_append, List.forall_mem_append]
  exact ⟨⟨by decide +kernel, slash_not_mem_full_style h⟩, by decide +kernel⟩

lemma SlashFree.attachDerived (h : c.SlashFree) (hstyle : style.IsPlain) :
    (c.attachDerived style).SlashFree where
  package := h.package
  simple := h.simple
  mentioned := by
    intro a ha
    have hmem : a ∈ c.classNames ∨ a ∈ (Method.derived style).flatMap (·.classNames) := by
      rw [classNames, ClassDef.attachDerived, List.flatMap_append, ← List.append_assoc,
        List.mem_append] at ha
      exact ha
    rcases hmem with hmem | hmem
    · exact h.mentioned a hmem
    · exact slash_not_mem_full_derived hstyle a hmem
  types := h.types
  fields := h.fields
  methods := List.forall_mem_append.2 ⟨h.methods, slash_not_mem_derived hstyle⟩

end ClassDef

namespace ModelFile

variable {catalog : StyleCatalog} {file : ModelFile} {m m' : CodeModel} {c : ClassDef}

lemma slashFree_of_mayRun (hm : file.build = .ok m) (hrun : Style.MayRun catalog m m')
    (hc : c ∈ m'.classes) : c.SlashFree := by
  have hbuilt : ∀ b ∈ m.classes, b.SlashFree := fun b hb => (plain_of_build hm hb).slashFree
  cases hrun with
  | off => exact hbuilt c hc
  | on cp hselected =>
    obtain ⟨b, hb, rfl⟩ : ∃ b ∈ m.classes, b.attachDerived _ = c := List.mem_map.1 hc
    exact (hbuilt b hb).attachDerived hselected.isPlain

/-- **Descriptions decide on comments only.**  Take any class of the model of a file, with the
derived methods in any style that tokens can select or without them.  Cutting the comments out of
its text with comments leaves its text without them, and what was cut out are the comments that its
descriptions give.  Without comments every class that differs from it in descriptions alone has the
same text. -/
theorem render_false_of_build (hm : file.build = .ok m) (hrun : Style.MayRun catalog m m')
    (hc : c ∈ m'.classes) :
    c.render false = (c.render true).map withoutComments ∧
      (∀ text, c.render true = .ok text →
        commentBodies text = c.comments.filterMap Piece.body?) ∧
      ∀ d : ClassDef, d.undescribed = c.undescribed → d.render false = c.render false := by
  have hslash : c.SlashFree := slashFree_of_mayRun hm hrun hc
  refine ⟨hslash.render_false, fun text htext => hslash.commentBodies_eq htext, fun d hd => ?_⟩
  rw [← d.render_false_undescribed, hd, c.render_false_undescribed]

/-- The second class of the intruding file, with its derived methods in a style of the user. -/
def intruderClass : ClassDef :=
  ClassDef.attachDerived (.custom ⟨"com.example", "PlainStyle"⟩)
    ⟨⟨"com.example", "_2Java"⟩, none,
      [⟨"x", .named ⟨"java.util", "List"⟩ [.named ⟨"", "class"⟩ []],
        some "*/ \x7d\npublic class Evil \x7b /"⟩], []⟩

theorem render_false_intruderClass :
    ∃ m' text, intruderFile.build = .ok intruderModel ∧
      Style.MayRun .builtin intruderModel m' ∧ intruderClass ∈ m'.classes ∧
      intruderClass.render true = .ok text ∧
      intruderClass.render false = .ok (withoutComments text) ∧
      commentBodies text = [" *\\/ \x7d\npublic class Evil \x7b / "] := by
  have hm : intruderFile.build = .ok intruderModel := by decide +kernel
  have hclaim : (Style.claim .builtin .initial Pipeline.gardenConfig.runClasspath
      Pipeline.gardenArgs 0).2 = .custom ⟨"com.example", "PlainStyle"⟩ := by
    decide +kernel
  have hselected : Style.Selected .builtin (.custom ⟨"com.example", "PlainStyle"⟩) := by
    rw [← hclaim]
    exact .next _ _ _ .initial
  have hrun := Style.MayRun.on (m := intruderModel) Pipeline.gardenConfig.runClasspath hselected
  have hc : intruderClass ∈ (intruderModel.mapClasses
      (·.attachDerived (.custom ⟨"com.example", "PlainStyle"⟩))).classes := by
    decide +kernel
  obtain ⟨hfalse, hbodies, -⟩ := render_false_of_build hm hrun hc
  have hok : (intruderClass.render true).isOk = true := by decide +kernel
  rcases htext : intruderClass.render true with e | text
  · rw [htext] at hok
    cases hok
  · have hcomments : intruderClass.comments.filterMap Piece.body? =
        [" *\\/ \x7d\npublic class Evil \x7b / "] := by
      decide +kernel
    rw [htext] at hfalse
    exact ⟨_, text, hm, hrun, hc, rfl, hfalse, (hbodies text htext).trans hcomments⟩

end ModelFile

end ClassGen
