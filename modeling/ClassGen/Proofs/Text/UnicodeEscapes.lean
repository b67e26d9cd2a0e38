/-
# Unicode escapes

A compiler looks at a source text after its Unicode escapes are translated: a backslash, one or more
`u` and four hexadecimal digits stand for the character of that number.  A backslash with an odd
number of backslashes right before it starts no escape.  What an escape stands for is not looked at
again: a backslash that is written by an escape starts none.

A character that can stand in no escape cuts a text in two parts that are translated one by one
(`glyphsFrom_append_cons`).
-/
import Mathlib.Tactic.Common
import ClassGen.Document.Json.Parser

namespace ClassGen.Text

open Document.Json (hexDigit?)

/-- A character of a source text as a compiler takes it. -/
inductive Glyph where
  /-- A character that is written as it is. -/
  | plain (c : Char)
  /-- A character that is written by its number. -/
  | escaped (n : Nat)
deriving DecidableEq, Repr

/-- The character itself.  Half of a surrogate pair is none and shows as the null character. -/
def Glyph.char : Glyph → Char
  | plain c => c
  | escaped n => Char.ofNat n

/-- The number that the next digits make when the digits before them make `value`, and what stands
behind them. -/
def readDigits (value : Nat) : Nat → List Char → Option (Nat × List Char)
  | 0, cs => some (value, cs)
  | _ + 1, [] => none
  | k + 1, c :: cs =>
    match hexDigit? c with
    | none => none
    | some digit => readDigits (16 * value + digit) k cs

/-- The number of an escape whose backslash and first `u` have been read, and what stands behind
it. -/
def readNumber : List Char → Option (Nat × List Char)
  | 'u' :: cs => readNumber cs
  | cs => readDigits 0 4 cs

/-- The number of the escape that the text starts with, and what stands behind it.  The number of
backslashes right before the text is odd or not. -/
def openEscape? : Bool → List Char → Option (Nat × List Char)
  | false, '\\' :: 'u' :: cs => readNumber cs
  | _, _ => none

lemma length_readDigits {value k n : Nat} {cs rest : List Char}
    (h : readDigits value k cs = some (n, rest)) : rest.length ≤ cs.length := by
  fun_induction readDigits value k cs with
  | case1 value cs =>
    obtain ⟨-, rfl⟩ : value = n ∧ cs = rest := by simpa using h
    exact Nat.le_refl _
  | case2 => cases h
  | case3 => cases h
  | case4 value k c cs digit _ ih =>
    have hle := ih h
    rw [List.length_cons]
    omega

lemma length_readNumber {n : Nat} {cs rest : List Char} (h : readNumber cs = some (n, rest)) :
    rest.length ≤ cs.length := by
  fun_induction readNumber cs with
  | case1 cs ih =>
    have hle := ih h
    rw [List.length_cons]
    omega
  | case2 cs => exact length_readDigits h

lemma length_openEscape {odd : Bool} {n : Nat} {cs rest : List Char}
    (h : openEscape? odd cs = some (n, rest)) : rest.length < cs.length := by
  fun_cases openEscape? odd cs with
  | case1 cs =>
    have hle : rest.length ≤ cs.length := length_readNumber h
    simp only [List.length_cons]
    omega
  | case2 => simp [openEscape?] at h

/-- The glyphs of the text, when the number of backslashes right before it is odd or not. -/
def glyphsFrom (odd : Bool) (cs : List Char) : List Glyph :=
  match cs with
  | [] => []
  | c :: cs =>
    match hopen : openEscape? odd (c :: cs) with
    | some (n, rest) =>
      have := length_openEscape hopen
      .escaped n :: glyphsFrom false rest
    | none => .plain c :: glyphsFrom (c == '\\' && !odd) cs
termination_by cs.length
decreasing_by
  · assumption
  · exact Nat.lt_succ_self cs.length

/-- The text as a compiler reads it. -/
def unescape (cs : List Char) : List Char := (glyphsFrom false cs).map Glyph.char

/-- Can the character stand in no escape? -/
def endsEscapes (c : Char) : Bool := c != '\\' && c != 'u' && (hexDigit? c).isNone

variable {odd : Bool} {c : Char} {cs as bs rest : List Char} {n : Nat}

/-! ### Where no escape is -/

lemma ne_backslash_of_endsEscapes (h : endsEscapes c = true) : c ≠ '\\' := by
  rintro rfl
  cases h

lemma ne_u_of_endsEscapes (h : endsEscapes c = true) : c ≠ 'u' := by
  rintro rfl
  cases h

lemma hexDigit?_of_endsEscapes (h : endsEscapes c = true) : hexDigit? c = none := by
  simp only [endsEscapes, Bool.and_eq_true, Option.isNone_iff_eq_none] at h
  exact h.2

/-- An escape starts with a backslash. -/
lemma openEscape?_of_ne (h : c ≠ '\\') : openEscape? odd (c :: cs) = none := by
  rw [openEscape?]
  rintro cs' - hcs
  exact h (List.cons.inj hcs).1

/-- After its backslash an escape goes on with a `u`. -/
lemma openEscape?_backslash_of_ne (h : ∀ cs', cs ≠ 'u' :: cs') :
    openEscape? odd ('\\' :: cs) = none := by
  rw [openEscape?]
  rintro cs' - hcs
  exact h cs' (List.cons.inj hcs).2

lemma glyphsFrom_of_openEscape (h : openEscape? odd (c :: cs) = some (n, rest)) :
    glyphsFrom odd (c :: cs) = .escaped n :: glyphsFrom false rest := by
  rw [glyphsFrom]
  split
  · rename_i n' rest' hopen
    rw [h] at hopen
    obtain ⟨rfl, rfl⟩ : n = n' ∧ rest = rest' := by simpa using hopen
    rfl
  · rename_i hopen
    rw [h] at hopen
    cases hopen

lemma glyphsFrom_of_not_openEscape (h : openEscape? odd (c :: cs) = none) :
    glyphsFrom odd (c :: cs) = .plain c :: glyphsFrom (c == '\\' && !odd) cs := by
  rw [glyphsFrom]
  split
  · rename_i hopen
    rw [h] at hopen
    cases hopen
  · rfl

/-- A character that is no backslash is read as it is. -/
lemma glyphsFrom_cons (h : c ≠ '\\') (odd : Bool) (cs : List Char) :
    glyphsFrom odd (c :: cs) = .plain c :: glyphsFrom false cs := by
  have hodd : (c == '\\' && !odd) = false := by simp [h]
  rw [glyphsFrom_of_not_openEscape (openEscape?_of_ne h), hodd]

/-! ### Cutting a text where no escape is -/

lemma readDigits_append (h : endsEscapes c = true) (value k : Nat) (as bs : List Char) :
    readDigits value k (as ++ c :: bs) =
      (readDigits value k as).map fun (n, rest) => (n, rest ++ c :: bs) := by
  induction k generalizing value as with
  | zero => rfl
  | succ k ih =>
    cases as with
    | nil => simp [readDigits, hexDigit?_of_endsEscapes h]
    | cons a as =>
      rw [List.cons_append, readDigits, readDigits]
      rcases hexDigit? a with _ | digit
      · rfl
      · exact ih (16 * value + digit) as

lemma readNumber_append (h : endsEscapes c = true) (as bs : List Char) :
    readNumber (as ++ c :: bs) = (readNumber as).map fun (n, rest) => (n, rest ++ c :: bs) := by
  fun_induction readNumber as with
  | case1 as ih =>
    rw [List.cons_append, readNumber]
    exact ih
  | case2 as hnot =>
    rw [readNumber]
    · exact readDigits_append h 0 4 as bs
    · intro cs hcs
      cases as with
      | nil => exact ne_u_of_endsEscapes h (List.cons.inj hcs).1
      | cons a as =>
        obtain ⟨rfl, -⟩ := List.cons.inj hcs
        exact hnot as rfl

/-- An escape that is opened before the character is closed before it. -/
lemma openEscape?_append (h : endsEscapes c = true) (odd : Bool) (a : Char) (as bs : List Char) :
    openEscape? odd (a :: (as ++ c :: bs)) =
      (openEscape? odd (a :: as)).map fun (n, rest) => (n, rest ++ c :: bs) := by
  by_cases hbackslash : a = '\\'
  · subst hbackslash
    cases as with
    | nil =>
      have hnot : ∀ cs', c :: bs ≠ 'u' :: cs' :=
        fun _ hcs => ne_u_of_endsEscapes h (List.cons.inj hcs).1
      have hleft : openEscape? odd ('\\' :: ([] ++ c :: bs)) = none :=
        openEscape?_backslash_of_ne hnot
      have hright : openEscape? odd ['\\'] = none := openEscape?_backslash_of_ne (by simp)
      rw [hleft, hright]
      rfl
    | cons b as =>
      by_cases hu : b = 'u'
      · subst hu
        cases odd with
        | false => exact readNumber_append h as bs
        | true => rfl
      · have hleft : openEscape? odd ('\\' :: b :: (as ++ c :: bs)) = none :=
          openEscape?_backslash_of_ne fun _ hcs => hu (List.cons.inj hcs).1
        have hright : openEscape? odd ('\\' :: b :: as) = none :=
          openEscape?_backslash_of_ne fun _ hcs => hu (List.cons.inj hcs).1
        rw [List.cons_append, hleft, hright]
        rfl
  · have hleft : openEscape? odd (a :: (as ++ c :: bs)) = none := openEscape?_of_ne hbackslash
    have hright : openEscape? odd (a :: as) = none := openEscape?_of_ne hbackslash
    rw [hleft, hright]
    rfl

/-- A character that can stand in no escape cuts a text in two that are read one by one. -/
lemma glyphsFrom_append_cons (h : endsEscapes c = true) (odd : Bool) (as bs : List Char) :
    glyphsFrom odd (as ++ c :: bs) = glyphsFrom odd as ++ .plain c :: glyphsFrom false bs := by
  fun_induction glyphsFrom odd as with
  | case1 odd => exact glyphsFrom_cons (ne_backslash_of_endsEscapes h) odd bs
  | case2 odd a as n rest hopen _ ih =>
    have hopen' := openEscape?_append h odd a as bs
    rw [hopen] at hopen'
    rw [List.cons_append, glyphsFrom_of_openEscape hopen', ih, List.cons_append]
  | case3 odd a as hopen ih =>
    have hopen' := openEscape?_append h odd a as bs
    rw [hopen] at hopen'
    rw [List.cons_append, glyphsFrom_of_not_openEscape hopen', ih, List.cons_append]

lemma unescape_append_cons (h : endsEscapes c = true) (as bs : List Char) :
    unescape (as ++ c :: bs) = unescape as ++ c :: unescape bs := by
  rw [unescape, glyphsFrom_append_cons h, List.map_append, List.map_cons]
  rfl

lemma unescape_cons (h : endsEscapes c = true) (bs : List Char) :
    unescape (c :: bs) = c :: unescape bs := by
  have hnil : unescape [] = [] := by rw [unescape, glyphsFrom]; rfl
  simpa [hnil] using unescape_append_cons h [] bs

/-- The second escape follows an odd number of backslashes and the third one has too few digits. -/
example : unescape "a\\u002a\\\\u002f\\uu5c/".toList = "a*\\\\u002f\\uu5c/".toList := by
  decide +kernel

end ClassGen.Text
