/-
# Source texts without their comments

A source text with comments is the one without them with the comments put in.  Cutting out of the
first every comment, from its two opening asterisks to the first closing pair, together with the
blanks before it on its line and the line feed after it, gives the second
(`ClassDef.SlashFree.render_false`), as long as the code of the class holds no slash.
-/
import ClassGen.Proofs.Source.Declared

namespace ClassGen

open Text

/-! ### Cutting comments out -/

/-- What stands between the marks of the comment that the text starts with, and what stands behind
it. -/
def openComment? : List Char → Option (List Char × List Char)
  | '/' :: '*' :: '*' :: cs => readComment cs
  | _ => none

/-- The text without the line feed that it starts with, if it does. -/
def dropFeed : List Char → List Char
  | '\n' :: cs => cs
  | cs => cs

lemma length_readComment {cs body rest : List Char} (h : readComment cs = some (body, rest)) :
    rest.length < cs.length := by
  fun_induction readComment cs generalizing body with
  | case1 cs =>
    obtain ⟨-, rfl⟩ : [] = body ∧ cs = rest := by simpa using h
    simp only [List.length_cons]
    omega
  | case2 c cs _ ih =>
    obtain ⟨⟨body', rest'⟩, hread, hpair⟩ := Option.map_eq_some_iff.1 h
    obtain ⟨-, rfl⟩ : c :: body' = body ∧ rest' = rest := by simpa using hpair
    have hlt := ih hread
    simp only [List.length_cons]
    omega
  | case3 => simp at h

lemma length_openComment {cs body rest : List Char} (h : openComment? cs = some (body, rest)) :
    (dropFeed rest).length < cs.length := by
  have hdrop : (dropFeed rest).length ≤ rest.length := by
    fun_cases dropFeed rest with
    | case1 cs => simp
    | case2 => exact Nat.le_refl _
  fun_cases openComment? cs with
  | case1 cs =>
    have hlt : rest.length < cs.length := length_readComment h
    simp only [List.length_cons]
    omega
  | case2 => simp [openComment?] at h

/-- The text without its comments, and what stands between the marks of each comment, when this
many blanks stand before the text on its line.  A comment goes with the blanks before it and with
the line feed after it. -/
def cutComments (blanks : Nat) (cs : List Char) : List Char × List (List Char) :=
  match cs with
  | [] => (List.replicate blanks ' ', [])
  | c :: cs =>
    match hopen : openComment? (c :: cs) with
    | some (body, rest) =>
      have := length_openComment hopen
      let (code, bodies) := cutComments 0 (dropFeed rest)
      (code, body :: bodies)
    | none =>
      if c = ' ' then cutComments (blanks + 1) cs
      else
        let (code, bodies) := cutComments 0 cs
        (List.replicate blanks ' ' ++ c :: code, bodies)
termination_by cs.length
decreasing_by
  · assumption
  · exact Nat.lt_succ_self cs.length
  · exact Nat.lt_succ_self cs.length

/-- The text without its comments. -/
def withoutComments (text : String) : String :=
  String.ofList (cutComments 0 text.toList).1

/-- What stands between the marks of each comment of the text. -/
def commentBodies (text : String) : List String :=
  (cutComments 0 text.toList).2.map String.ofList

variable {blanks : Nat} {cs rest : List Char}

lemma cutComments_blank (blanks : Nat) (cs : List Char) :
    cutComments blanks (' ' :: cs) = cutComments (blanks + 1) cs := by
  rw [cutComments]
  rfl

lemma cutComments_blanks {indent : List Char} (h : ∀ c ∈ indent, c = ' ') (blanks : Nat)
    (rest : List Char) :
    cutComments blanks (indent ++ rest) = cutComments (blanks + indent.length) rest := by
  induction indent generalizing blanks with
  | nil => rfl
  | cons c indent ih =>
    obtain ⟨rfl, hindent⟩ := List.forall_mem_cons.1 h
    rw [List.cons_append, cutComments_blank, ih hindent, List.length_cons, Nat.add_right_comm,
      Nat.add_assoc]

/-- A character that is no blank and starts no comment stays, and so do the blanks before it. -/
lemma cutComments_cons {c : Char} (hslash : c ≠ '/') (hblank : c ≠ ' ') (blanks : Nat)
    (cs : List Char) :
    cutComments blanks (c :: cs) =
      (List.replicate blanks ' ' ++ c :: (cutComments 0 cs).1, (cutComments 0 cs).2) := by
  have hopen : openComment? (c :: cs) = none := by
    rw [openComment?]
    intro cs' hcs'
    exact hslash (List.cons.inj hcs').1
  rw [cutComments]
  split
  · rename_i hsome
    rw [hopen] at hsome
    cases hsome
  · rw [if_neg hblank]

/-- Code without a slash stays as it is up to a line feed at its end. -/
lemma cutComments_code (hslash : '/' ∉ cs) (hend : cs.getLast? = some '\n') (blanks : Nat)
    (rest : List Char) :
    cutComments blanks (cs ++ rest) =
      (List.replicate blanks ' ' ++ cs ++ (cutComments 0 rest).1, (cutComments 0 rest).2) := by
  induction cs generalizing blanks with
  | nil => simp at hend
  | cons c cs ih =>
    rw [List.mem_cons, not_or] at hslash
    obtain ⟨hc, hslash⟩ := hslash
    rcases cs with _ | ⟨d, ds⟩
    · obtain rfl : c = '\n' := by simpa using hend
      rw [List.cons_append, cutComments_cons (by decide) (by decide)]
      simp
    · have hend' : (d :: ds).getLast? = some '\n' := by simpa using hend
      have ih := ih hslash hend'
      by_cases hblank : c = ' '
      · subst hblank
        rw [List.cons_append, cutComments_blank, ih, List.replicate_succ']
        simp
      · rw [List.cons_append, cutComments_cons (Ne.symm hc) hblank, ih 0]
        simp

/-- A comment goes with the blanks before it and the line feed after it. -/
lemma cutComments_comment {body : List Char} (h : ¬ HoldsClose body) (blanks : Nat)
    (rest : List Char) :
    cutComments blanks ('/' :: '*' :: '*' :: (body ++ '*' :: '/' :: '\n' :: rest)) =
      ((cutComments 0 rest).1, body :: (cutComments 0 rest).2) := by
  have hopen : openComment? ('/' :: '*' :: '*' :: (body ++ '*' :: '/' :: '\n' :: rest)) =
      some (body, '\n' :: rest) := by
    rw [openComment?]
    exact readComment_append h ('\n' :: rest)
  rw [cutComments]
  split
  · rename_i body' rest' hsome
    rw [hopen] at hsome
    obtain ⟨rfl, rfl⟩ : body = body' ∧ '\n' :: rest = rest' := by simpa using hsome
    rfl
  · rename_i hnone
    rw [hopen] at hnone
    cases hnone

/-- The text is empty or ends with a line feed. -/
def IsWhole (cs : List Char) : Prop := cs = [] ∨ cs.getLast? = some '\n'

lemma isWhole_unlines (ls : List String) : IsWhole (unlines ls) := by
  rcases List.eq_nil_or_concat ls with rfl | ⟨init, last, rfl⟩
  · exact Or.inl rfl
  · exact Or.inr (by simp [unlines])

lemma isWhole_line (s : String) : IsWhole (s ++ "\n").toList :=
  Or.inr (by simp)

/-! ### Pieces -/

namespace Piece

/-- What stands between the marks of the piece, if it is a comment. -/
def body? : Piece → Option String
  | code _ => none
  | comment _ body => some body

/-- Code in whole lines and without a slash, or a comment on lines of its own that does not end
before its mark. -/
inductive Tidy : Piece → Prop
  | code {text : String} : '/' ∉ text.toList → IsWhole text.toList → Tidy (.code text)
  | comment {indent body : String} : (∀ c ∈ indent.toList, c = ' ') →
      ¬ HoldsClose body.toList → Tidy (.comment indent body)

lemma cutComments_render {p : Piece} (h : p.Tidy) (rest : List Char) :
    cutComments 0 (p.render.toList ++ rest) =
      ((renderAll ([p].filter isCode)).toList ++ (cutComments 0 rest).1,
        ([p].filterMap body?).map String.toList ++ (cutComments 0 rest).2) := by
  cases h with
  | @code text hslash hwhole =>
    have hfilter : [Piece.code text].filter isCode = [.code text] := rfl
    have hcode : (renderAll ([Piece.code text].filter isCode)).toList = text.toList := by
      rw [hfilter]
      simp [renderAll, render]
    have hbodies : [Piece.code text].filterMap body? = [] := rfl
    rw [hcode, hbodies, render]
    rcases hwhole with hnil | hend
    · rw [hnil]
      rfl
    · rw [cutComments_code hslash hend]
      rfl
  | @comment indent body hindent hbody =>
    have hcode : renderAll ([Piece.comment indent body].filter isCode) = "" := rfl
    have hbodies : [Piece.comment indent body].filterMap body? = [body] := rfl
    have hrender : (Piece.comment indent body).render.toList ++ rest =
        indent.toList ++
          '/' :: '*' :: '*' :: (body.toList ++ '*' :: '/' :: '\n' :: rest) := by
      simp [render]
    rw [hcode, hbodies, hrender, cutComments_blanks hindent, cutComments_comment hbody]
    rfl

lemma toList_renderAll_append (ps qs : List Piece) :
    (renderAll (ps ++ qs)).toList = (renderAll ps).toList ++ (renderAll qs).toList := by
  rw [renderAll, List.map_append, String.join_append, String.toList_append, renderAll, renderAll]

/-- Of tidy pieces the code is left, and the comments that are cut out are those among them. -/
lemma cutComments_renderAll {ps : List Piece} (h : ∀ p ∈ ps, p.Tidy) :
    cutComments 0 (renderAll ps).toList =
      ((renderAll (ps.filter isCode)).toList, (ps.filterMap body?).map String.toList) := by
  induction ps with
  | nil =>
    have hnil : (renderAll []).toList = [] := rfl
    rw [hnil, cutComments]
    rfl
  | cons p ps ih =>
    obtain ⟨hp, hps⟩ := List.forall_mem_cons.1 h
    have hsplit : p :: ps = [p] ++ ps := rfl
    have hfirst : renderAll [p] = p.render := by simp [renderAll]
    rw [hsplit, toList_renderAll_append, hfirst, cutComments_render hp, ih hps, List.filter_append,
      toList_renderAll_append, List.filterMap_append, List.map_append]

lemma tidy_ofClassDescription (description : Option String) :
    ∀ p ∈ ofClassDescription description, p.Tidy := by
  fun_cases ofClassDescription description with
  | case1 => simp
  | case2 => simp
  | case3 text =>
    rw [List.forall_mem_singleton]
    exact .comment (by simp) (not_holdsClose_classBody (lines text))

lemma tidy_ofFieldDescription (description : Option String) :
    ∀ p ∈ ofFieldDescription description, p.Tidy := by
  fun_cases ofFieldDescription description with
  | case1 => simp
  | case2 => simp
  | case3 text =>
    rw [List.forall_mem_singleton]
    exact .comment (by simp) (not_holdsClose_fieldBody text)

lemma filter_isCode_ofClassDescription (description : Option String) :
    (ofClassDescription description).filter isCode = [] := by
  fun_cases ofClassDescription description with
  | case1 => rfl
  | case2 => rfl
  | case3 text => rfl

lemma filter_isCode_ofFieldDescription (description : Option String) :
    (ofFieldDescription description).filter isCode = [] := by
  fun_cases ofFieldDescription description with
  | case1 => rfl
  | case2 => rfl
  | case3 text => rfl

end Piece

/-! ### Classes -/

open Piece

/-- The field without its description. -/
def Field.undescribed (f : Field) : Field := { f with description := none }

/-- Of the pieces of a field its description decides on comments only. -/
lemma Field.filter_isCode_pieces (f : Field) :
    f.pieces.filter isCode =
      [.code "\n", .code ("    protected " ++ f.type.render ++ " " ++ f.name ++ ";\n")] := by
  rw [pieces, List.filter_append, List.filter_cons_of_pos rfl, filter_isCode_ofFieldDescription]
  rfl

namespace ClassDef

variable {c : ClassDef} {imports : List String}

/-- The class without the descriptions of itself and of its fields. -/
def undescribed (c : ClassDef) : ClassDef :=
  { c with description := none, fields := c.fields.map Field.undescribed }

/-- The comments of the class: its own, and those of its fields. -/
def comments (c : ClassDef) : List Piece :=
  ofClassDescription c.description ++ c.fields.flatMap fun f => ofFieldDescription f.description

lemma filter_isCode_pieces (imports : List String) (c : ClassDef) :
    (c.pieces imports).filter isCode = (c.undescribed.pieces imports).filter isCode := by
  have hfields : (c.undescribed.fields.flatMap Field.pieces).filter isCode =
      (c.fields.flatMap Field.pieces).filter isCode := by
    rw [undescribed, List.flatMap_map, List.filter_flatMap, List.filter_flatMap]
    refine List.flatMap_congr fun f _ => ?_
    rw [f.filter_isCode_pieces, f.undescribed.filter_isCode_pieces]
    rfl
  have hstart : ∀ d : ClassDef,
      (Piece.code (preamble d.name.package imports) :: ofClassDescription d.description).filter
        isCode = [.code (preamble d.name.package imports)] := by
    intro d
    rw [List.filter_cons_of_pos rfl, filter_isCode_ofClassDescription]
  simp only [pieces, List.filter_append, hstart, hfields]
  rfl

/-- Without comments a class is laid out as if nothing in it were described. -/
lemma render_false_undescribed (c : ClassDef) : c.undescribed.render false = c.render false := by
  have hnames : c.undescribed.classNames = c.classNames := by
    rw [classNames, classNames, undescribed, List.flatMap_map]
    rfl
  have himports : c.undescribed.imports = c.imports := by
    rw [imports, imports, imported, imported, hnames]
    rfl
  have hpieces : ∀ imports, ((c.undescribed.pieces imports).filter fun p => false || p.isCode) =
      (c.pieces imports).filter fun p => false || p.isCode :=
    fun imports => (filter_isCode_pieces imports c).symm
  rw [render, render, himports]
  simp only [hpieces]
  rfl

/-- No code of the class holds a slash: neither its names nor its methods do. -/
structure SlashFree (c : ClassDef) : Prop where
  package : '/' ∉ c.name.package.toList
  simple : '/' ∉ c.name.simple.toList
  mentioned : ∀ a ∈ c.classNames, '/' ∉ a.full.toList
  types : ∀ f ∈ c.fields, '/' ∉ f.type.render.toList
  fields : ∀ f ∈ c.fields, '/' ∉ f.name.toList
  methods : ∀ m ∈ c.methods, '/' ∉ m.code.toList

/-- A line without a slash is tidy. -/
lemma tidy_line (line : String) {text : String} (htext : text = line ++ "\n")
    (h : '/' ∉ line.toList) :
    (Piece.code text).Tidy := by
  subst htext
  refine .code ?_ (isWhole_line line)
  rw [String.toList_append, List.mem_append, not_or]
  exact ⟨h, by decide⟩

lemma tidy_preamble (hpackage : '/' ∉ c.name.package.toList)
    (himports : ∀ i ∈ imports, '/' ∉ i.toList) :
    (Piece.code (preamble c.name.package imports)).Tidy := by
  have hslash : ∀ l ∈ packageLines c.name.package ++ importLines imports, '/' ∉ l.toList := by
    rw [List.forall_mem_append, packageLines, importLines]
    constructor
    · split
      · simp
      · simp [hpackage]
    · split
      · simp
      · rw [List.forall_mem_append, List.forall_mem_map, List.forall_mem_singleton]
        exact ⟨fun i hi => by simp [himports i hi], by simp⟩
  refine .code ?_ ?_
  · rw [toList_preamble, unlines, List.mem_flatMap]
    rintro ⟨l, hl, hmem⟩
    rcases List.mem_append.1 hmem with hmem | hmem
    · exact hslash l hl hmem
    · exact absurd hmem (by decide)
  · rw [toList_preamble]
    exact isWhole_unlines _

lemma SlashFree.tidy_field (h : c.SlashFree) {f : Field} (hf : f ∈ c.fields) :
    ∀ p ∈ f.pieces, p.Tidy := by
  have hline : '/' ∉ ("    protected " ++ f.type.render ++ " " ++ f.name ++ ";").toList := by
    simp [h.types f hf, h.fields f hf]
  rw [Field.pieces, List.forall_mem_append, List.forall_mem_cons, List.forall_mem_singleton]
  refine ⟨⟨?_, tidy_ofFieldDescription f.description⟩, ?_⟩
  · exact tidy_line "" rfl (by simp)
  · exact tidy_line _ (by simp [String.append_assoc]) hline

lemma tidy_method {m : Method} (h : '/' ∉ m.code.toList) : (Piece.code m.code).Tidy := by
  refine .code h (Or.inr ?_)
  rw [Method.code, String.toList_append, List.getLast?_append]
  rfl

lemma SlashFree.tidy_pieces (h : c.SlashFree) (himports : c.imports = .ok imports) :
    ∀ p ∈ c.pieces imports, p.Tidy := by
  have hslash : ∀ i ∈ imports, '/' ∉ i.toList := by
    intro i hi
    obtain ⟨a, ha, rfl⟩ := (mem_of_imports himports).1 hi
    exact h.mentioned a (mem_classNames.2 ha.mentioned)
  have hhead : '/' ∉ ("public class " ++ c.name.simple ++ " \x7b").toList := by
    simp [h.simple]
  simp only [pieces, List.forall_mem_append, List.forall_mem_cons, List.forall_mem_flatMap,
    List.forall_mem_map]
  refine ⟨⟨⟨⟨⟨tidy_preamble h.package hslash, tidy_ofClassDescription c.description⟩, ?_, by simp⟩,
    fun f hf => h.tidy_field hf⟩, fun m hm => tidy_method (h.methods m hm)⟩, ?_, by simp⟩
  · exact tidy_line _ (by simp [String.append_assoc]) hhead
  · exact tidy_line "\x7d" rfl (by decide)

lemma filter_true_or (ps : List Piece) : (ps.filter fun p => true || p.isCode) = ps :=
  List.filter_eq_self.2 fun _ _ => rfl

/-- Cutting the comments out of the text of the class leaves its text without comments. -/
lemma SlashFree.render_false (h : c.SlashFree) :
    c.render false = (c.render true).map withoutComments := by
  rw [render, render]
  rcases hrepeated : Signature.firstRepeated? [] (c.methods.map (·.signature)) with _ | s
  · rcases himports : c.imports with e | imports
    · simp [hrepeated, Except.map]
    · have hcut := cutComments_renderAll (h.tidy_pieces himports)
      simp [hrepeated, Except.map, withoutComments, hcut]
  · simp [hrepeated, Except.map]

lemma filterMap_body?_pieces (imports : List String) (c : ClassDef) :
    (c.pieces imports).filterMap body? = c.comments.filterMap body? := by
  have hfields : (c.fields.flatMap Field.pieces).filterMap body? =
      (c.fields.flatMap fun f => ofFieldDescription f.description).filterMap body? := by
    rw [List.filterMap_flatMap, List.filterMap_flatMap]
    refine List.flatMap_congr fun f _ => ?_
    rw [Field.pieces, List.filterMap_append, List.filterMap_cons_none rfl]
    exact List.append_nil _
  have hmethods : (c.methods.map fun m => Piece.code m.code).filterMap body? = [] := by
    rw [List.filterMap_map]
    exact List.filterMap_eq_nil_iff.2 fun _ _ => rfl
  simp only [pieces, comments, List.filterMap_append, List.filterMap_cons, body?, hfields,
    hmethods, List.filterMap_nil, List.append_nil]

/-- The comments that are cut out are those of the class. -/
lemma SlashFree.commentBodies_eq (h : c.SlashFree) {text : String}
    (htext : c.render true = .ok text) : commentBodies text = c.comments.filterMap body? := by
  obtain ⟨imports, himports, rfl⟩ := exists_imports_of_render htext
  have hcut := cutComments_renderAll (h.tidy_pieces himports)
  rw [filter_true_or, commentBodies, hcut, filterMap_body?_pieces, List.map_map]
  simp

end ClassDef

end ClassGen
