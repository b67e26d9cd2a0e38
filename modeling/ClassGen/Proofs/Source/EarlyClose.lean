/-
# Comments as a compiler reads them

A compiler translates the Unicode escapes of a source text before it looks for comments.  The
backslash that is put between an asterisk and a slash is seen by it as well, but an asterisk or a
slash that is written by its number was not looked for when the text was laid out.  So the comment
of a description ends where it was meant to if, and only if, no asterisk of the description has a
slash after it with one of the two written by its number (`ClassDef.spans_iff_of_render`).
-/
import Mathlib.Data.List.Chain
import ClassGen.Proofs.Source.Uncommented
import ClassGen.Proofs.Text.UnicodeEscapes

namespace ClassGen

namespace Text

/-- An asterisk and a slash after it are both written as they are. -/
def Glyph.ClosesPlainly (x y : Glyph) : Prop :=
  x.char = '*' → y.char = '/' → x = .plain '*' ∧ y = .plain '/'

instance (x y : Glyph) : Decidable (x.ClosesPlainly y) :=
  inferInstanceAs (Decidable (x.char = '*' → y.char = '/' → x = .plain '*' ∧ y = .plain '/'))

/-- Wherever an asterisk of the text has a slash after it for a compiler, both are written as they
are. -/
def HasPlainCloses (text : String) : Prop :=
  (glyphsFrom false text.toList).IsChain Glyph.ClosesPlainly

instance (text : String) : Decidable (HasPlainCloses text) :=
  inferInstanceAs (Decidable (List.IsChain Glyph.ClosesPlainly _))

/-- Without a backslash in it, a text is read as it is written. -/
lemma glyphsFrom_of_not_mem {cs : List Char} (h : '\\' ∉ cs) (odd : Bool) :
    glyphsFrom odd cs = cs.map Glyph.plain := by
  induction cs generalizing odd with
  | nil => rw [glyphsFrom, List.map_nil]
  | cons c cs ih =>
    rw [List.mem_cons, not_or] at h
    obtain ⟨hc, hcs⟩ := h
    rw [glyphsFrom_cons (Ne.symm hc), ih hcs, List.map_cons]

/-- A text without a backslash hides no closing pair. -/
lemma hasPlainCloses_of_not_mem {text : String} (h : '\\' ∉ text.toList) :
    HasPlainCloses text := by
  rw [HasPlainCloses, glyphsFrom_of_not_mem h, List.isChain_map]
  refine List.isChain_iff_forall_rel_of_append_cons_cons.2 ?_
  rintro a b _ _ - rfl rfl
  exact ⟨rfl, rfl⟩

/-- The glyphs with a backslash put between every asterisk and a slash after it, if both are written
as they are. -/
def parted : List Glyph → List Glyph
  | .plain '*' :: .plain '/' :: gs => .plain '*' :: .plain '\\' :: .plain '/' :: parted gs
  | g :: gs => g :: parted gs
  | [] => []

lemma head?_parted (gs : List Glyph) : (parted gs).head? = gs.head? := by
  fun_cases parted gs with
  | case1 => rfl
  | case2 => rfl
  | case3 => rfl

/-- What is parted holds no closing pair but one that was hidden. -/
lemma not_holdsClose_parted_iff (gs : List Glyph) :
    ¬ HoldsClose ((parted gs).map Glyph.char) ↔ gs.IsChain Glyph.ClosesPlainly := by
  fun_induction parted gs with
  | case1 gs ih =>
    have hpair : (Glyph.plain '*').ClosesPlainly (.plain '/') := fun _ _ => ⟨rfl, rfl⟩
    have hslash : ∀ g : Glyph, (Glyph.plain '/').ClosesPlainly g :=
      fun _ hstar => absurd hstar (by decide)
    rw [List.isChain_cons_cons, List.isChain_cons, ← ih]
    simp [holdsClose_cons, Glyph.char, hpair, hslash]
  | case2 g gs hnot ih =>
    rw [List.map_cons, holdsClose_cons, not_or, ih, List.isChain_cons, List.head?_map,
      head?_parted]
    refine and_congr_left fun _ => ?_
    cases gs with
    | nil => simp
    | cons y gs =>
      -- the two are not both written as they are
      have hplain : ¬ (g = .plain '*' ∧ y = .plain '/') := by
        rintro ⟨hg, rfl⟩
        exact hnot gs hg rfl
      simp [Glyph.ClosesPlainly, hplain]
  | case3 => simp [not_holdsClose_nil]

/-- The glyphs of a text start with a plain character only if the text does. -/
lemma eq_of_head?_glyphsFrom {odd : Bool} {c d : Char} {cs : List Char}
    (h : (glyphsFrom odd (c :: cs)).head? = some (.plain d)) : c = d := by
  rcases hopen : openEscape? odd (c :: cs) with _ | ⟨n, rest⟩
  · rw [glyphsFrom_of_not_openEscape hopen] at h
    simpa using h
  · rw [glyphsFrom_of_openEscape hopen] at h
    simp at h

end Text

open Text Document.Json

/-! ### Descriptions in a comment -/

namespace Piece

lemma escapeChars_cons_of_ne {c : Char} (h : c ≠ '*') (cs : List Char) :
    escapeChars (c :: cs) = c :: escapeChars cs := by
  rw [escapeChars]
  rintro cs' rfl
  exact absurd rfl h

lemma exists_escapeChars_cons (c : Char) (cs : List Char) :
    ∃ tail, escapeChars (c :: cs) = c :: tail := by
  have hhead : (escapeChars (c :: cs)).head? = some c := head?_escapeChars (c :: cs)
  exact ⟨_, List.eq_cons_of_mem_head? hhead⟩

/-- An escape is neither opened nor torn by the backslashes that are put in. -/
lemma readDigits_escapeChars (value k : Nat) (cs : List Char) :
    readDigits value k (escapeChars cs) =
      (readDigits value k cs).map fun (n, rest) => (n, escapeChars rest) := by
  induction k generalizing value cs with
  | zero => rfl
  | succ k ih =>
    cases cs with
    | nil => rfl
    | cons c cs =>
      by_cases hc : c = '*'
      · subst hc
        have hdigit : hexDigit? '*' = none := by decide
        obtain ⟨tail, htail⟩ := exists_escapeChars_cons '*' cs
        rw [htail, readDigits, readDigits, hdigit]
        rfl
      · rw [escapeChars_cons_of_ne hc, readDigits, readDigits]
        rcases hexDigit? c with _ | digit
        · rfl
        · exact ih (16 * value + digit) cs

lemma readNumber_escapeChars (cs : List Char) :
    readNumber (escapeChars cs) = (readNumber cs).map fun (n, rest) => (n, escapeChars rest) := by
  fun_induction readNumber cs with
  | case1 cs ih =>
    rw [escapeChars_cons_of_ne (by decide), readNumber]
    exact ih
  | case2 cs hnot =>
    rw [readNumber]
    · exact readDigits_escapeChars 0 4 cs
    · intro tail htail
      have hhead := head?_escapeChars cs
      rw [htail, List.head?_cons] at hhead
      exact hnot _ (List.eq_cons_of_mem_head? hhead.symm)

lemma openEscape?_escapeChars (odd : Bool) (cs : List Char) :
    openEscape? odd (escapeChars cs) =
      (openEscape? odd cs).map fun (n, rest) => (n, escapeChars rest) := by
  fun_cases openEscape? odd cs with
  | case1 cs =>
    rw [escapeChars_cons_of_ne (by decide), escapeChars_cons_of_ne (by decide), openEscape?]
    exact readNumber_escapeChars cs
  | case2 odd cs hnot =>
    rw [openEscape?]
    · rfl
    · intro tail hodd htail
      cases cs with
      | nil => cases htail
      | cons c cs =>
        obtain rfl : c = '\\' := by
          have hhead := head?_escapeChars (c :: cs)
          rw [htail] at hhead
          simpa using hhead.symm
        rw [escapeChars_cons_of_ne (by decide)] at htail
        have hhead := head?_escapeChars cs
        rw [(List.cons.inj htail).2, List.head?_cons] at hhead
        exact hnot _ hodd (congrArg _ (List.eq_cons_of_mem_head? hhead.symm))

/-- In an escaped text a compiler reads what it reads in the text, with the plain closing pairs
parted. -/
lemma glyphsFrom_escapeChars (odd : Bool) (cs : List Char) :
    glyphsFrom odd (escapeChars cs) = parted (glyphsFrom odd cs) := by
  fun_induction glyphsFrom odd cs with
  | case1 odd => rw [escapeChars, glyphsFrom, parted]
  | case2 odd c cs n rest hopen _ ih =>
    obtain ⟨tail, htail⟩ := exists_escapeChars_cons c cs
    have hopen' := openEscape?_escapeChars odd (c :: cs)
    rw [hopen, htail] at hopen'
    rw [htail, glyphsFrom_of_openEscape hopen', ih, parted]
    simp
  | case3 odd c cs hopen ih =>
    by_cases hpair : c = '*' ∧ cs.head? = some '/'
    · obtain ⟨rfl, hhead⟩ := hpair
      obtain ⟨tail, rfl⟩ : ∃ tail, cs = '/' :: tail := ⟨_, List.eq_cons_of_mem_head? hhead⟩
      -- the backslash starts no escape, as the slash after it is no `u`
      have hbackslash : openEscape? false ('\\' :: '/' :: escapeChars tail) = none :=
        openEscape?_backslash_of_ne (by simp)
      have hplain : ∀ odd' rest,
          glyphsFrom odd' ('/' :: rest) = .plain '/' :: glyphsFrom false rest :=
        glyphsFrom_cons (by decide)
      have hodd : ('*' == '\\' && !odd) = false := rfl
      rw [hodd, escapeChars_cons_of_ne (by decide), hplain, hplain, parted] at ih
      · rw [escapeChars, glyphsFrom_cons (by decide), glyphsFrom_of_not_openEscape hbackslash,
          hplain, hodd, hplain, parted, (List.cons.inj ih).2]
      · simp
    · have hescape : escapeChars (c :: cs) = c :: escapeChars cs := by
        rw [escapeChars]
        rintro tail rfl rfl
        exact hpair ⟨rfl, rfl⟩
      have hopen' := openEscape?_escapeChars odd (c :: cs)
      rw [hopen, hescape] at hopen'
      rw [hescape, glyphsFrom_of_not_openEscape hopen', ih, parted]
      rintro gs hc hgs
      obtain rfl : c = '*' := by simpa using hc
      cases cs with
      | nil => simp [glyphsFrom] at hgs
      | cons d cs =>
        have hd : d = '/' := eq_of_head?_glyphsFrom (by rw [hgs, List.head?_cons])
        exact hpair ⟨rfl, by rw [hd, List.head?_cons]⟩

/-- An escaped text closes no comment for a compiler if, and only if, it hides no closing pair. -/
lemma not_holdsClose_unescape_escape (text : String) :
    ¬ HoldsClose (unescape (escape text).toList) ↔ HasPlainCloses text := by
  rw [escape, String.toList_ofList, unescape, glyphsFrom_escapeChars]
  exact not_holdsClose_parted_iff _

end Piece

/-! ### Bodies of comments -/

/-- A character that is part of no closing pair cuts a text in two parts of which neither closes a
comment with the help of the other. -/
lemma holdsClose_append_cons {c : Char} (hstar : c ≠ '*') (hslash : c ≠ '/') (as bs : List Char) :
    HoldsClose (as ++ c :: bs) ↔ HoldsClose as ∨ HoldsClose bs := by
  induction as with
  | nil => simp [holdsClose_cons, hstar, not_holdsClose_nil]
  | cons a as ih =>
    have hhead : (as ++ c :: bs).head? = some '/' ↔ as.head? = some '/' := by
      cases as with
      | nil => simp [hslash]
      | cons b as => simp
    rw [List.cons_append, holdsClose_cons, holdsClose_cons, ih, hhead, or_assoc]

namespace Piece

lemma holdsClose_unescape_blank (cs : List Char) :
    HoldsClose (unescape (' ' :: cs)) ↔ HoldsClose (unescape cs) := by
  rw [unescape_cons (by decide)]
  simp [holdsClose_cons]

/-- An asterisk with a blank or a line feed after it closes no comment. -/
lemma holdsClose_unescape_star {c : Char} (hc : c = ' ' ∨ c = '\n') (cs : List Char) :
    HoldsClose (unescape ('*' :: c :: cs)) ↔ HoldsClose (unescape cs) := by
  have hends : endsEscapes c = true := by rcases hc with rfl | rfl <;> decide
  have hslash : c ≠ '/' := by rcases hc with rfl | rfl <;> decide
  have hstar : c ≠ '*' := by rcases hc with rfl | rfl <;> decide
  rw [unescape_cons (by decide), unescape_cons hends]
  simp [holdsClose_cons, hslash, hstar]

lemma holdsClose_unescape_classLines (ls : List String) (rest : List Char) :
    HoldsClose (unescape
        ((String.join (ls.map fun l => " * " ++ escape l ++ "\n")).toList ++ rest)) ↔
      (∃ l ∈ ls, HoldsClose (unescape (escape l).toList)) ∨ HoldsClose (unescape rest) := by
  induction ls with
  | nil => simp
  | cons l ls ih =>
    have hline : (String.join ((l :: ls).map fun l => " * " ++ escape l ++ "\n")).toList ++ rest =
        ' ' :: '*' :: ' ' :: ((escape l).toList ++ '\n' ::
          ((String.join (ls.map fun l => " * " ++ escape l ++ "\n")).toList ++ rest)) := by
      simp
    rw [hline, holdsClose_unescape_blank, holdsClose_unescape_star (Or.inl rfl),
      unescape_append_cons (by decide),
      holdsClose_append_cons (by decide) (by decide), ih, List.exists_mem_cons_iff, or_assoc]

/-- The body of a comment above a class closes it early if, and only if, one of its lines does. -/
lemma not_holdsClose_unescape_classBody (ls : List String) :
    ¬ HoldsClose (unescape ("*" ++ ("\n" ++
        String.join (ls.map fun l => " * " ++ escape l ++ "\n") ++ " ")).toList) ↔
      ∀ l ∈ ls, HasPlainCloses l := by
  have hbody : ("*" ++ ("\n" ++
      String.join (ls.map fun l => " * " ++ escape l ++ "\n") ++ " ")).toList =
      '*' :: '\n' ::
        ((String.join (ls.map fun l => " * " ++ escape l ++ "\n")).toList ++ [' ']) := by
    simp
  have hblank : ¬ HoldsClose (unescape [' ']) := by
    rw [holdsClose_unescape_blank, unescape, glyphsFrom]
    exact not_holdsClose_nil
  rw [hbody, holdsClose_unescape_star (Or.inr rfl), holdsClose_unescape_classLines,
    or_iff_left hblank]
  simp only [← not_holdsClose_unescape_escape, not_exists, not_and]

/-- The body of a comment above a field closes it early if, and only if, the text does. -/
lemma not_holdsClose_unescape_fieldBody (text : String) :
    ¬ HoldsClose (unescape ("*" ++ (" " ++ escape text ++ " ")).toList) ↔
      HasPlainCloses text := by
  have hbody : ("*" ++ (" " ++ escape text ++ " ")).toList =
      '*' :: ' ' :: ((escape text).toList ++ ' ' :: []) := by
    simp
  have hnil : ¬ HoldsClose (unescape []) := by
    rw [unescape, glyphsFrom]
    exact not_holdsClose_nil
  rw [hbody, holdsClose_unescape_star (Or.inl rfl), unescape_append_cons (by decide),
    holdsClose_append_cons (by decide) (by decide), or_iff_left hnil]
  exact not_holdsClose_unescape_escape text

end Piece

/-! ### Where a compiler sees a comment end -/

/-- What is read of a comment starts as the comment does. -/
lemma exists_cons_of_readComment {c : Char} {cs body rest : List Char}
    (h : readComment cs = some (c :: body, rest)) : ∃ tail, cs = c :: tail := by
  fun_cases readComment cs with
  | case1 cs => simp [readComment] at h
  | case2 d cs hnot =>
    rw [readComment] at h
    · obtain ⟨⟨body', rest'⟩, -, hpair⟩ := Option.map_eq_some_iff.1 h
      obtain ⟨⟨rfl, -⟩, -⟩ : (d = c ∧ body' = body) ∧ rest' = rest := by simpa using hpair
      exact ⟨cs, rfl⟩
    · exact hnot
  | case3 => simp [readComment] at h

lemma not_holdsClose_of_readComment {cs body rest : List Char}
    (h : readComment cs = some (body, rest)) : ¬ HoldsClose body := by
  fun_induction readComment cs generalizing body with
  | case1 cs =>
    obtain ⟨rfl, -⟩ : [] = body ∧ cs = rest := by simpa using h
    exact not_holdsClose_nil
  | case2 c cs hnot ih =>
    obtain ⟨⟨body', rest'⟩, hread, hpair⟩ := Option.map_eq_some_iff.1 h
    obtain ⟨rfl, rfl⟩ : c :: body' = body ∧ rest' = rest := by simpa using hpair
    rw [holdsClose_cons, not_or]
    refine ⟨?_, ih hread⟩
    rintro ⟨rfl, hhead⟩
    -- the body starts as the text does, which starts with no closing pair
    obtain ⟨tail, rfl⟩ : ∃ tail, body' = '/' :: tail := ⟨_, List.eq_cons_of_mem_head? hhead⟩
    obtain ⟨tail', htail'⟩ : ∃ tail', cs = '/' :: tail' := exists_cons_of_readComment hread
    exact hnot tail' rfl htail'
  | case3 => simp at h

/-- For a compiler a comment is opened behind the first part of the text, and it goes over the
second part up to the closing marks before the third one. -/
structure Spans (text before body after : String) : Prop where
  written : text = before ++ "/*" ++ body ++ "*/" ++ after
  read : ∃ rest, unescape text.toList = unescape before.toList ++ '/' :: '*' :: rest ∧
    readComment rest = some (unescape body.toList, unescape after.toList)

lemma unescape_commented (before body after : String) :
    unescape (before ++ "/*" ++ body ++ "*/" ++ after).toList =
      unescape before.toList ++
        '/' :: '*' :: (unescape body.toList ++ '*' :: '/' :: unescape after.toList) := by
  have htext : (before ++ "/*" ++ body ++ "*/" ++ after).toList =
      before.toList ++ '/' :: '*' :: (body.toList ++ '*' :: '/' :: after.toList) := by
    simp
  have hslash : endsEscapes '/' = true := by decide
  have hstar : endsEscapes '*' = true := by decide
  rw [htext, unescape_append_cons hslash, unescape_cons hstar, unescape_append_cons hstar,
    unescape_cons hslash]

lemma spans_iff {before body after : String} :
    Spans (before ++ "/*" ++ body ++ "*/" ++ after) before body after ↔
      ¬ HoldsClose (unescape body.toList) := by
  constructor
  · rintro ⟨-, rest, hrest, hread⟩
    exact not_holdsClose_of_readComment hread
  · intro hclose
    exact ⟨rfl, _, unescape_commented before body after, readComment_append hclose _⟩

/-! ### The comments of a class -/

namespace ClassDef

open Piece

variable {c : ClassDef} {imports : List String}

/-- The piece is the comment of a description of the class, and these are the texts that it shows:
each line of the description of the class, or the whole description of a field. -/
inductive Describes (c : ClassDef) : Piece → List String → Prop
  | ofClass {description : String} {p : Piece} : c.description = some description →
      p ∈ ofClassDescription (some description) → Describes c p (lines description)
  | ofField {f : Field} {description : String} {p : Piece} : f ∈ c.fields →
      f.description = some description →
      p ∈ ofFieldDescription (some description) → Describes c p [description]

lemma Describes.mem_pieces {p : Piece} {texts : List String} (h : c.Describes p texts)
    (imports : List String) : p ∈ c.pieces imports := by
  rw [pieces]
  cases h with
  | ofClass hdescription hp => simp [hdescription, hp]
  | @ofField f description p hf hdescription hp =>
    have hpiece : p ∈ f.pieces := by simp [Field.pieces, hdescription, hp]
    have hfields : p ∈ c.fields.flatMap Field.pieces := List.mem_flatMap.2 ⟨f, hf, hpiece⟩
    simp [hfields]

lemma Describes.not_holdsClose_iff {indent body : String} {texts : List String}
    (h : c.Describes (.comment indent body) texts) :
    ¬ HoldsClose (unescape ("*" ++ body).toList) ↔ ∀ t ∈ texts, HasPlainCloses t := by
  generalize hp : Piece.comment indent body = p at h
  cases h with
  | @ofClass description p hdescription hmem =>
    subst hp
    obtain ⟨-, rfl⟩ : indent = "" ∧ body = "\n" ++
        String.join ((lines description).map fun l => " * " ++ escape l ++ "\n") ++ " " := by
      rw [ofClassDescription] at hmem
      split at hmem
      · cases hmem
      · simpa using hmem
    exact not_holdsClose_unescape_classBody (lines description)
  | @ofField f description p hf hdescription hmem =>
    subst hp
    obtain ⟨-, rfl⟩ : indent = "    " ∧ body = " " ++ escape description ++ " " := by
      rw [ofFieldDescription] at hmem
      split at hmem
      · cases hmem
      · simpa using hmem
    rw [List.forall_mem_singleton]
    exact not_holdsClose_unescape_fieldBody description

lemma renderAll_comment (ps qs : List Piece) (indent body : String) :
    renderAll (ps ++ .comment indent body :: qs) =
      renderAll ps ++ indent ++ "/*" ++ ("*" ++ body) ++ "*/" ++ ("\n" ++ renderAll qs) := by
  apply String.toList_injective
  have hcons : Piece.comment indent body :: qs = [.comment indent body] ++ qs := rfl
  rw [hcons, toList_renderAll_append, toList_renderAll_append]
  simp [renderAll, Piece.render]

lemma spans_iff_of_split {ps qs : List Piece} {indent body : String} {texts : List String}
    (h : c.Describes (.comment indent body) texts) :
    Spans (renderAll (ps ++ .comment indent body :: qs)) (renderAll ps ++ indent) ("*" ++ body)
        ("\n" ++ renderAll qs) ↔ ∀ t ∈ texts, HasPlainCloses t := by
  rw [renderAll_comment, spans_iff]
  exact h.not_holdsClose_iff

/-- **When a compiler sees the comment of a description end where it was laid out to end.**  Every
description of the class has its comment among the pieces of the source text.  A compiler, which
translates Unicode escapes first, reads this comment up to its own closing marks exactly when no
text that is shown in it hides a closing pair: wherever an asterisk of the text has a slash after
it, both are written as they are.  A text without a backslash hides none
(`hasPlainCloses_of_not_mem`). -/
theorem spans_iff_of_render {text : String} (htext : c.render true = .ok text) :
    ∃ imports, c.imports = .ok imports ∧ text = renderAll (c.pieces imports) ∧
      ∀ indent body texts, c.Describes (.comment indent body) texts →
        .comment indent body ∈ c.pieces imports ∧
        ∀ ps qs, c.pieces imports = ps ++ .comment indent body :: qs →
          (Spans text (renderAll ps ++ indent) ("*" ++ body) ("\n" ++ renderAll qs) ↔
            ∀ t ∈ texts, HasPlainCloses t) := by
  obtain ⟨imports, himports, rfl⟩ := exists_imports_of_render htext
  rw [filter_true_or]
  refine ⟨imports, himports, rfl, fun indent body texts h => ⟨h.mem_pieces imports, ?_⟩⟩
  intro ps qs hsplit
  rw [hsplit]
  exact spans_iff_of_split h

/-- A class whose first description holds escapes and a plain closing pair, and whose second one
hides a closing pair. -/
def noteClass : ClassDef :=
  ⟨⟨"com.example", "Note"⟩, some "\\u0041 note */\nends \\\\u002a/ here",
    [⟨"text", .named ⟨"java.lang", "String"⟩ [], some "some *\\uu002F text"⟩], []⟩

/-- The source text of this class. -/
def noteText : String :=
  "package com.example;\n\n/**\n * \\u0041 note *\\/\n * ends \\\\u002a/ here\n */\n" ++
    "public class Note \x7b\n\n    /** some *\\uu002F text */\n    protected String text;\n\x7d\n"

/-- The comment above the class ends where it was laid out to end, and the one above the field does
not. -/
theorem spans_noteClass :
    noteClass.render true = .ok noteText ∧
    Spans noteText "package com.example;\n\n"
      "*\n * \\u0041 note *\\/\n * ends \\\\u002a/ here\n "
      ("\npublic class Note \x7b\n\n    /** some *\\uu002F text */\n" ++
        "    protected String text;\n\x7d\n") ∧
    ¬ Spans noteText
      ("package com.example;\n\n/**\n * \\u0041 note *\\/\n * ends \\\\u002a/ here\n */\n" ++
        "public class Note \x7b\n\n    ") "* some *\\uu002F text "
      "\n    protected String text;\n\x7d\n" := by
  have htext : noteClass.render true = .ok noteText := by decide +kernel
  obtain ⟨imports, himports, -, hspans⟩ := spans_iff_of_render htext
  obtain rfl : [] = imports := by
    have hnone : noteClass.imports = .ok [] := by decide +kernel
    rw [hnone] at himports
    exact Except.ok.inj himports
  have hpieces : noteClass.pieces [] =
      [.code "package com.example;\n\n"] ++
        .comment "" "\n * \\u0041 note *\\/\n * ends \\\\u002a/ here\n " ::
          [.code "public class Note \x7b\n", .code "\n",
            .comment "    " " some *\\uu002F text ", .code "    protected String text;\n",
            .code "\x7d\n"] := by
    decide +kernel
  have hclass : noteClass.Describes
      (.comment "" "\n * \\u0041 note *\\/\n * ends \\\\u002a/ here\n ")
      (lines "\\u0041 note */\nends \\\\u002a/ here") :=
    .ofClass rfl (by decide +kernel)
  have hfield : noteClass.Describes (.comment "    " " some *\\uu002F text ")
      ["some *\\uu002F text"] :=
    .ofField (List.mem_singleton_self _) rfl (by decide +kernel)
  refine ⟨htext, ?_, ?_⟩
  · have hplain : ∀ t ∈ lines "\\u0041 note */\nends \\\\u002a/ here", HasPlainCloses t := by
      decide +kernel
    exact ((hspans _ _ _ hclass).2 _ _ hpieces).2 hplain
  · have hhidden : ¬ ∀ t ∈ ["some *\\uu002F text"], HasPlainCloses t := by decide +kernel
    have hsplit : noteClass.pieces [] =
        [.code "package com.example;\n\n",
          .comment "" "\n * \\u0041 note *\\/\n * ends \\\\u002a/ here\n ",
          .code "public class Note \x7b\n", .code "\n"] ++
        .comment "    " " some *\\uu002F text " ::
          [.code "    protected String text;\n", .code "\x7d\n"] := hpieces
    exact mt ((hspans _ _ _ hfield).2 _ _ hsplit).1 hhidden

/-- A class whose description spells the asterisk of a closing pair by its number. -/
def earlyClass : ClassDef :=
  ⟨⟨"com.example", "Point"⟩, some "ends \\u002a/ early", [], []⟩

/-- The source text of this class. -/
def earlyText : String :=
  "package com.example;\n\n/**\n * ends \\u002a/ early\n */\npublic class Point \x7b\n\x7d\n"

/-- For a compiler the comment above the class ends in the middle of the description, before the
marks that were laid out to end it. -/
theorem not_spans_earlyClass :
    earlyClass.render true = .ok earlyText ∧
    earlyText = "package com.example;\n\n" ++ "/*" ++ "*\n * ends \\u002a/ early\n " ++ "*/" ++
      "\npublic class Point \x7b\n\x7d\n" ∧
    unescape earlyText.toList = ("package com.example;\n\n" ++ "/*" ++
      "*\n * ends */ early\n */\npublic class Point \x7b\n\x7d\n").toList ∧
    readComment "*\n * ends */ early\n */\npublic class Point \x7b\n\x7d\n".toList =
      some ("*\n * ends ".toList, " early\n */\npublic class Point \x7b\n\x7d\n".toList) ∧
    ¬ Spans earlyText "package com.example;\n\n" "*\n * ends \\u002a/ early\n "
      "\npublic class Point \x7b\n\x7d\n" := by
  have hclose : HoldsClose (unescape "*\n * ends \\u002a/ early\n ".toList) := by
    rw [HoldsClose]
    decide +kernel
  have htext : earlyText = "package com.example;\n\n" ++ "/*" ++
      "*\n * ends \\u002a/ early\n " ++ "*/" ++ "\npublic class Point \x7b\n\x7d\n" := by
    decide +kernel
  refine ⟨by decide +kernel, htext, by decide +kernel, by decide +kernel, ?_⟩
  rw [htext, spans_iff, not_not]
  exact hclose

end ClassDef

end ClassGen
