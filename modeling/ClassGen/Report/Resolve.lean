/-
# Texts that read as something else

A plain YAML scalar may read as nothing, as a flag or as a number.  A text of that form has to be
quoted to stay a text.  Numbers are integers to the bases two, eight, ten and sixteen that fit
into 128 bits, and decimal numbers of the range of double precision.
-/

namespace ClassGen.Resolve

/-- Does the text stand for nothing? -/
def isNull (s : String) : Bool :=
  ["", "null", "Null", "NULL", "~"].contains s

/-- Does the text stand for a flag? -/
def isFlag (s : String) : Bool :=
  ["true", "True", "TRUE", "false", "False", "FALSE"].contains s

/-- The characters after a sign, if there is one. -/
def unsigned : List Char → List Char
  | '+' :: cs => cs
  | '-' :: cs => cs
  | cs => cs

/-- Does a zero come before further digits, after a sign if there is one? -/
def isZeroLed (cs : List Char) : Bool :=
  match unsigned cs with
  | '0' :: c :: rest => (c :: rest).all Char.isDigit
  | _ => false

/-- The value of a digit, letters counting from ten. -/
def digitValue (c : Char) : Option Nat :=
  if c.isDigit then some (c.toNat - '0'.toNat)
  else if c.isLower then some (c.toNat - 'a'.toNat + 10)
  else if c.isUpper then some (c.toNat - 'A'.toNat + 10)
  else none

/-- The number that the digits write to a base, after those that write `value`. -/
def numberFrom (base value : Nat) : List Char → Option Nat
  | [] => some value
  | c :: cs =>
    match digitValue c with
    | some d => if d < base then numberFrom base (base * value + d) cs else none
    | none => none

/-- The number that one or more digits write to a base. -/
def number? (base : Nat) (cs : List Char) : Option Nat :=
  if cs.isEmpty then none else numberFrom base 0 cs

/-- The number that is written with the sign of its base, which is not ten. -/
def basedNumber? : List Char → Option Nat
  | '0' :: 'x' :: cs => number? 16 cs
  | '0' :: 'o' :: cs => number? 8 cs
  | '0' :: 'b' :: cs => number? 2 cs
  | _ => none

/-- Is the text an integer with the sign of its base, of at most 128 bits? -/
def isBasedInteger (cs : List Char) : Bool :=
  match cs with
  | '-' :: rest =>
    match basedNumber? rest with
    | some n => decide (n ≤ Nat.pow 2 127)
    | none => false
  | _ =>
    match basedNumber? (unsigned cs) with
    | some n => decide (n < Nat.pow 2 128)
    | none => false

/-- Is the text the name of an infinity or of no number? -/
def isNamedNumber (s : String) : Bool :=
  [".inf", ".Inf", ".INF", "+.inf", "+.Inf", "+.INF", "-.inf", "-.Inf", "-.INF",
    ".nan", ".NaN", ".NAN"].contains s

/-- A decimal number: the digits before and after its point, and its exponent. -/
structure Decimal where
  /-- The digits before the point. -/
  whole : List Char
  /-- The digits after the point. -/
  fraction : List Char
  /-- The power of ten that the number is multiplied by. -/
  exponent : Int

/-- The exponent that one or more digits write, and only they. -/
def exponentDigits? (cs : List Char) : Option Nat := number? 10 cs

/-- The exponent at the end of a number; zero, if nothing is left. -/
def exponent? : List Char → Option Int
  | [] => some 0
  | c :: cs =>
    if c = 'e' ∨ c = 'E' then
      match cs with
      | '-' :: cs => (exponentDigits? cs).map fun n => -(n : Int)
      | '+' :: cs => (exponentDigits? cs).map fun n => (n : Int)
      | cs => (exponentDigits? cs).map fun n => (n : Int)
    else none

/-- The number that the text, after a sign if there is one, writes as a decimal. -/
def decimal? (cs : List Char) : Option Decimal :=
  let cs := unsigned cs
  let whole := cs.takeWhile Char.isDigit
  let rest := cs.dropWhile Char.isDigit
  let (fraction, rest) := match rest with
    | '.' :: rest => (rest.takeWhile Char.isDigit, rest.dropWhile Char.isDigit)
    | rest => ([], rest)
  if whole.isEmpty && fraction.isEmpty then none
  else (exponent? rest).map fun e => ⟨whole, fraction, e⟩

/-- The least number that double precision rounds to infinity. -/
def overflowLimit : Nat := (Nat.pow 2 54 - 1) * Nat.pow 2 970

/-- Does double precision hold the number without rounding it to infinity?  A number below
`10 ^ 308` always fits, one from `10 ^ 309` on never does. -/
def Decimal.isFinite (d : Decimal) : Bool :=
  let digits := (d.whole ++ d.fraction).dropWhile (· == '0')
  let exponent := d.exponent - d.fraction.length
  let magnitude := exponent + digits.length
  if digits.isEmpty || decide (magnitude ≤ 308) then true
  else if 310 ≤ magnitude then false
  else
    let n := (number? 10 digits).getD 0
    decide (n * Nat.pow 10 exponent.toNat < overflowLimit * Nat.pow 10 (-exponent).toNat)

/-- Is the text a decimal number in the range of double precision? -/
def isDecimal (cs : List Char) : Bool :=
  match decimal? cs with
  | some d => d.isFinite
  | none => false

/-- Does the text read as something other than a text, or as digits that might? -/
def isAmbiguous (s : String) : Bool :=
  isNull s || isFlag s || isNamedNumber s || isZeroLed s.toList || isBasedInteger s.toList
    || isDecimal s.toList

end ClassGen.Resolve
