/-
# Where a comment ends

A comment ends at the first asterisk with a slash after it.  A text that holds no such pair does not
end the comment that it stands in (`readComment_append`).  An escaped text holds none, whatever was
escaped, and neither do the bodies of the comments that are laid out, with the marks and blanks that
stand around the escaped texts in them.
-/
import Mathlib.Data.List.Infix
import Mathlib.Tactic.Common
import ClassGen.Source.Layout

namespace ClassGen

/-- What stands before the first asterisk with a slash after it, and what stands after these two;
nothing, if there is no such pair. -/
def readComment : List Char → Option (List Char × List Char)
  | '*' :: '/' :: cs => some ([], cs)
  | c :: cs => (readComment cs).map fun (body, rest) => (c :: body, rest)
  | [] => none

/-- An asterisk with a slash after it stands in the text. -/
def HoldsClose (cs : List Char) : Prop := ['*', '/'] <:+: cs

lemma holdsClose_cons {c : Char} {cs : List Char} :
    HoldsClose (c :: cs) ↔ (c = '*' ∧ cs.head? = some '/') ∨ HoldsClose cs := by
  rw [HoldsClose, List.infix_cons_iff, List.cons_prefix_cons]
  refine or_congr (and_congr eq_comm ?_) Iff.rfl
  cases cs with
  | nil => simp
  | cons d ds => simp [List.cons_prefix_cons, eq_comm]

lemma not_holdsClose_nil : ¬ HoldsClose [] := by
  simp [HoldsClose]

/-- Two texts hold no such pair together, if neither does and the second one starts with no
slash. -/
lemma not_holdsClose_append {as bs : List Char} (has : ¬ HoldsClose as) (hbs : ¬ HoldsClose bs)
    (hhead : bs.head? ≠ some '/') : ¬ HoldsClose (as ++ bs) := by
  induction as with
  | nil => exact hbs
  | cons a as ih =>
    rw [holdsClose_cons, not_or] at has
    obtain ⟨hpair, has⟩ := has
    rw [List.cons_append, holdsClose_cons, not_or]
    refine ⟨?_, ih has⟩
    rintro ⟨ha, hslash⟩
    cases as with
    | nil => exact hhead hslash
    | cons b as => exact hpair ⟨ha, hslash⟩

/-- Before a pair that is put behind it, the text does not start with one. -/
lemma not_pair_of_not_holdsClose {c : Char} {body rest cs : List Char}
    (h : ¬ HoldsClose (c :: body)) (hc : c = '*') : body ++ '*' :: '/' :: rest ≠ '/' :: cs := by
  rw [holdsClose_cons, not_or] at h
  intro hcs
  refine h.1 ⟨hc, ?_⟩
  cases body with
  | nil => simp at hcs
  | cons d body => simpa using (List.cons.inj hcs).1

lemma readComment_append {body : List Char} (h : ¬ HoldsClose body) (rest : List Char) :
    readComment (body ++ '*' :: '/' :: rest) = some (body, rest) := by
  induction body with
  | nil => rfl
  | cons c body ih =>
    have hbody : ¬ HoldsClose body := fun hclose => h (holdsClose_cons.2 (Or.inr hclose))
    rw [List.cons_append, readComment, ih hbody]
    · rfl
    · exact fun cs hc => not_pair_of_not_holdsClose h hc

namespace Piece

lemma head?_escapeChars (cs : List Char) : (escapeChars cs).head? = cs.head? := by
  fun_cases escapeChars cs with
  | case1 => rfl
  | case2 => rfl
  | case3 => rfl

lemma not_holdsClose_escapeChars (cs : List Char) : ¬ HoldsClose (escapeChars cs) := by
  fun_induction escapeChars cs with
  | case1 cs ih =>
    -- the backslash stands between the asterisk and the slash
    simpa [holdsClose_cons] using ih
  | case2 c cs hnot ih =>
    rw [holdsClose_cons, not_or]
    refine ⟨?_, ih⟩
    rintro ⟨hc, hhead⟩
    rw [head?_escapeChars] at hhead
    cases cs with
    | nil => simp at hhead
    | cons d cs => exact hnot cs hc (by simpa using hhead)
  | case3 => exact not_holdsClose_nil

lemma not_holdsClose_escape (s : String) : ¬ HoldsClose (escape s).toList := by
  rw [escape, String.toList_ofList]
  exact not_holdsClose_escapeChars s.toList

lemma not_holdsClose_classLines (ls : List String) :
    ¬ HoldsClose (String.join (ls.map fun l => " * " ++ escape l ++ "\n")).toList := by
  have hstart : " * ".toList = [' ', '*', ' '] := rfl
  have hend : "\n".toList = ['\n'] := rfl
  induction ls with
  | nil => exact not_holdsClose_nil
  | cons l ls ih =>
    simp only [List.map_cons, String.join_cons, String.toList_append, hstart, hend,
      List.append_assoc, List.cons_append, List.nil_append]
    have hrest : ¬ HoldsClose
        ('\n' :: (String.join (ls.map fun l => " * " ++ escape l ++ "\n")).toList) := by
      simpa [holdsClose_cons] using ih
    have hline := not_holdsClose_append (not_holdsClose_escape l) hrest (by simp)
    simpa [holdsClose_cons] using hline

/-- The body of a comment above a class does not end it. -/
lemma not_holdsClose_classBody (ls : List String) :
    ¬ HoldsClose ("\n" ++ String.join (ls.map fun l => " * " ++ escape l ++ "\n") ++ " ").toList := by
  have hstart : "\n".toList = ['\n'] := rfl
  have hend : " ".toList = [' '] := rfl
  have hblank : ¬ HoldsClose [' '] := by simp [holdsClose_cons, not_holdsClose_nil]
  have hlines := not_holdsClose_append (not_holdsClose_classLines ls) hblank (by simp)
  simp only [String.toList_append, hstart, hend, List.cons_append, List.nil_append]
  simpa [holdsClose_cons] using hlines

/-- The body of a comment above a field does not end it. -/
lemma not_holdsClose_fieldBody (text : String) :
    ¬ HoldsClose (" " ++ escape text ++ " ").toList := by
  have hend : " ".toList = [' '] := rfl
  have hblank : ¬ HoldsClose [' '] := by simp [holdsClose_cons, not_holdsClose_nil]
  have htext := not_holdsClose_append (not_holdsClose_escape text) hblank (by simp)
  simp only [String.toList_append, hend, List.cons_append, List.nil_append]
  simpa [holdsClose_cons] using htext

end Piece

end ClassGen
