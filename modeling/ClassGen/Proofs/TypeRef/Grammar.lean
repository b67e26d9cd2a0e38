/-
# The grammar of written types

A written type is a word, possibly with type arguments between angle brackets, and any number of
pairs of square brackets after it.  Blanks may stand before the word, before the marks `<`, `,`
and `>`, and before both brackets of a pair.

The relations below say which characters a type can be spelled with, and what then follows: in
`Spelled cs t rest` the characters `cs` are a spelling of the type `t` with `rest` after it.
Nothing here depends on how a text is read.
-/
import ClassGen.Model.TypeRef.Parser
import ClassGen.Proofs.ClassName

namespace ClassGen.TypeRef

open Text TypeToken

/-- Any number of blanks. -/
def Blanks (ws : List Char) : Prop := ∀ c ∈ ws, isBlank c = true

/-- The characters do not go on with a character of words. -/
def Stops (rest : List Char) : Prop := ∀ c ∈ rest.head?, isWordChar c = false

/-- Before `rest`, the longest run of characters of words is `word`, and it names a class. -/
structure IsName (word rest : List Char) (name : ClassName) : Prop where
  chars : ∀ c ∈ word, isWordChar c = true
  longest : Stops rest
  not_keyword : ∀ p : Primitive, p.keyword ≠ String.ofList word
  dotted : isDottedName (String.ofList word) = true
  cut : ClassName.CutAtLastDot word name

/-- Pairs of brackets after a type: each makes an array of what stands before it, and `void` takes
none. -/
inductive Bracketed : TypeRef → List Char → TypeRef → List Char → Prop
  | done {t : TypeRef} {rest : List Char} : Bracketed t rest t rest
  | pair {t u : TypeRef} {ws ws' cs rest : List Char} : Blanks ws → Blanks ws' →
      t ≠ primitive .void → Bracketed (array t) cs u rest →
      Bracketed t (ws ++ '[' :: (ws' ++ ']' :: cs)) u rest

mutual

/-- A type with the blanks before it and the brackets after it. -/
inductive Spelled : List Char → TypeRef → List Char → Prop
  | type {ws cs cs' rest : List Char} {t u : TypeRef} : Blanks ws → SpelledBase cs t cs' →
      Bracketed t cs' u rest → Spelled (ws ++ cs) u rest

/-- A type without brackets: a keyword, or the name of a class with its type arguments. -/
inductive SpelledBase : List Char → TypeRef → List Char → Prop
  | keyword (p : Primitive) {rest : List Char} :
      SpelledBase (p.keyword.toList ++ rest) (primitive p) rest
  | plain {word rest : List Char} {name : ClassName} : IsName word rest name →
      SpelledBase (word ++ rest) (named name []) rest
  | generic {word ws cs rest : List Char} {name : ClassName} {args : List TypeRef} :
      IsName word (ws ++ '<' :: cs) name → Blanks ws → SpelledArgs cs args rest →
      SpelledBase (word ++ (ws ++ '<' :: cs)) (named name args) rest

/-- Type arguments up to the closing angle bracket: at least one, with commas between them, and
none of them a bare primitive type. -/
inductive SpelledArgs : List Char → List TypeRef → List Char → Prop
  | last {cs ws rest : List Char} {arg : TypeRef} : Spelled cs arg (ws ++ '>' :: rest) →
      Blanks ws → (∀ p, arg ≠ primitive p) → SpelledArgs cs [arg] rest
  | more {cs ws cs' rest : List Char} {arg : TypeRef} {args : List TypeRef} :
      Spelled cs arg (ws ++ ',' :: cs') → Blanks ws → (∀ p, arg ≠ primitive p) →
      SpelledArgs cs' args rest → SpelledArgs cs (arg :: args) rest

end

/-- The whole text is a spelling of the type, with any number of blanks at its end. -/
def Spells (text : String) (t : TypeRef) : Prop :=
  ∃ rest, Spelled text.toList t rest ∧ Blanks rest

end ClassGen.TypeRef
