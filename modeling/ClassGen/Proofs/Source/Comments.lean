/-
# Comments and code

A source text is read with a switch: a slash and an asterisk open a comment, and the first asterisk
with a slash after it closes it.  What a description says stays inside its comment, since an escaped
text never closes one.  So every piece of a layout leaves its own lines of code whatever the
descriptions are, and a comment leaves what stands before it at most (`Piece.Shows`).
-/
import ClassGen.Proofs.Source.Closing
import ClassGen.Proofs.Text.Split

namespace ClassGen

open Text

/-- The characters outside the comments of a text that starts in one or not.  Characters count as
they are written, and what would start a line comment or quote a text is not looked for. -/
def codeFrom : Bool → List Char → List Char
  | false, '/' :: '*' :: cs => codeFrom true cs
  | true, '*' :: '/' :: cs => codeFrom false cs
  | false, c :: cs => c :: codeFrom false cs
  | true, _ :: cs => codeFrom true cs
  | _, [] => []

/-- The lines of a source text without its comments. -/
def codeLines (content : String) : List String :=
  (splitOn '\n' (codeFrom false content.toList)).map String.ofList

lemma codeFrom_false_append {cs : List Char} (h : '/' ∉ cs) (rest : List Char) :
    codeFrom false (cs ++ rest) = cs ++ codeFrom false rest := by
  induction cs with
  | nil => rfl
  | cons c cs ih =>
    rw [List.mem_cons, not_or] at h
    obtain ⟨hc, hcs⟩ := h
    rw [List.cons_append, codeFrom, ih hcs, List.cons_append]
    rintro cs' rfl
    exact absurd rfl hc

/-- A text that holds no closing pair is passed up to the pair that is put after it. -/
lemma codeFrom_true_append {body : List Char} (h : ¬ HoldsClose body) (rest : List Char) :
    codeFrom true (body ++ '*' :: '/' :: rest) = codeFrom false rest := by
  induction body with
  | nil => rfl
  | cons c body ih =>
    have hbody : ¬ HoldsClose body := fun hclose => h (holdsClose_cons.2 (Or.inr hclose))
    rw [List.cons_append, codeFrom, ih hbody]
    exact fun cs hc => not_pair_of_not_holdsClose h hc

namespace Piece

/-- The comment with this body goes up to the mark that is put after the body. -/
def IsSealed (body : String) : Prop :=
  ∀ rest, codeFrom true ('*' :: (body.toList ++ '*' :: '/' :: rest)) = codeFrom false rest

lemma isSealed_of_not_holdsClose {body : String} (h : ¬ HoldsClose body.toList)
    (hhead : body.toList.head? ≠ some '/') : IsSealed body := by
  intro rest
  have hbody : ¬ HoldsClose ('*' :: body.toList) := by
    rw [holdsClose_cons, not_or]
    exact ⟨fun hpair => hhead hpair.2, h⟩
  exact codeFrom_true_append hbody rest

lemma isSealed_classBody (ls : List String) :
    IsSealed ("\n" ++ String.join (ls.map fun l => " * " ++ escape l ++ "\n") ++ " ") :=
  isSealed_of_not_holdsClose (not_holdsClose_classBody ls) (by simp)

lemma isSealed_fieldBody (text : String) : IsSealed (" " ++ escape text ++ " ") :=
  isSealed_of_not_holdsClose (not_holdsClose_fieldBody text) (by simp)

/-! ### Pieces and their lines -/

/-- The text is a single line that opens no comment. -/
structure IsLine (l : String) : Prop where
  no_slash : '/' ∉ l.toList
  no_feed : '\n' ∉ l.toList

lemma isLine_empty : IsLine "" := ⟨by simp, by simp⟩

/-- The pieces, laid out with or without their comments, leave these lines outside of comments,
whatever follows. -/
structure Shows (comments : Bool) (pieces : List Piece) (ls : List String) : Prop where
  code : ∀ rest,
    codeFrom false ((renderAll (pieces.filter fun p => comments || p.isCode)).toList ++ rest) =
      unlines ls ++ codeFrom false rest
  isLine : ∀ l ∈ ls, IsLine l

variable {comments : Bool} {ps qs : List Piece} {ls ls' : List String}

lemma shows_nil : Shows comments [] [] := ⟨fun _ => rfl, by simp⟩

lemma Shows.append (hp : Shows comments ps ls) (hq : Shows comments qs ls') :
    Shows comments (ps ++ qs) (ls ++ ls') := by
  refine ⟨fun rest => ?_, List.forall_mem_append.2 ⟨hp.isLine, hq.isLine⟩⟩
  rw [List.filter_append, renderAll, List.map_append, String.join_append, String.toList_append,
    List.append_assoc, unlines_append, List.append_assoc, ← hq.code rest, ← hp.code]
  rfl

lemma shows_code {text : String} (htext : text.toList = unlines ls) (hls : ∀ l ∈ ls, IsLine l) :
    Shows comments [.code text] ls := by
  refine ⟨fun rest => ?_, hls⟩
  have hslash : '/' ∉ text.toList := by
    rw [htext, unlines, List.mem_flatMap]
    rintro ⟨l, hl, hmem⟩
    rcases List.mem_append.1 hmem with hmem | hmem
    · exact (hls l hl).no_slash hmem
    · exact absurd hmem (by decide)
  have hrender : (renderAll ([.code text].filter fun p => comments || p.isCode)) = text := by
    cases comments <;> simp [isCode, renderAll, render]
  rw [hrender, ← htext]
  exact codeFrom_false_append hslash rest

/-- A comment leaves what stands before it, and is itself left out if comments are. -/
lemma exists_shows_comment {indent body : String} (hindent : IsLine indent)
    (hbody : IsSealed body) :
    ∃ ls, Shows comments [.comment indent body] ls ∧ ∀ l ∈ ls, l = indent := by
  cases comments with
  | false => exact ⟨[], ⟨fun _ => rfl, by simp⟩, by simp⟩
  | true =>
    refine ⟨[indent], ⟨fun rest => ?_, by simpa using hindent⟩, by simp⟩
    have hrender : (renderAll ([.comment indent body].filter fun p => true || p.isCode)).toList ++
        rest = indent.toList ++ '/' :: '*' :: '*' :: (body.toList ++ '*' :: '/' :: '\n' :: rest) := by
      simp [renderAll, render]
    rw [hrender, codeFrom_false_append hindent.no_slash, codeFrom, hbody]
    simp [unlines, codeFrom]

lemma exists_shows_ofClassDescription (comments : Bool) (description : Option String) :
    ∃ ls, Shows comments (ofClassDescription description) ls ∧ ∀ l ∈ ls, l = "" := by
  fun_cases ofClassDescription description with
  | case1 => exact ⟨[], shows_nil, by simp⟩
  | case2 => exact ⟨[], shows_nil, by simp⟩
  | case3 text => exact exists_shows_comment isLine_empty (isSealed_classBody (lines text))

lemma exists_shows_ofFieldDescription (comments : Bool) (description : Option String) :
    ∃ ls, Shows comments (ofFieldDescription description) ls ∧ ∀ l ∈ ls, l = "    " := by
  fun_cases ofFieldDescription description with
  | case1 => exact ⟨[], shows_nil, by simp⟩
  | case2 => exact ⟨[], shows_nil, by simp⟩
  | case3 text => exact exists_shows_comment ⟨by decide, by decide⟩ (isSealed_fieldBody text)

/-- A text of such pieces has these lines of code, and nothing after the last line feed. -/
lemma Shows.codeLines_eq (h : Shows comments ps ls) :
    codeLines (renderAll (ps.filter fun p => comments || p.isCode)) = ls ++ [""] := by
  have hcode := h.code []
  rw [List.append_nil, codeFrom, List.append_nil] at hcode
  have hcut := splitOn_unlines fun l hl => (h.isLine l hl).no_feed
  rw [codeLines, hcode, hcut, List.map_append, List.map_map]
  simp

end Piece

end ClassGen
