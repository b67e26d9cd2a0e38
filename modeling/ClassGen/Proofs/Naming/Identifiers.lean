/-
# When generated names are identifiers

A generated name is never a reserved word.  It is an identifier unless one of two things happens,
which mending does not look for:

* the name starts with a digit beyond ASCII, such as `٣`, or with another number, such as `½`;
* a letter gains a mark when its case is changed, as `ǰ` does at the start of a word and `İ` does
  wherever a small letter is asked for.

`isIdentifier_className_fieldName_iff` says so exactly, in terms of the name in the model file.
-/
import ClassGen.Proofs.Naming.Letters
import ClassGen.Proofs.Naming.Words

namespace ClassGen

open Text

/-! ### Mending -/

lemma isIdentifierPart_of_isAlphabetic {c : Char} (h : isAlphabetic c = true) :
    isIdentifierPart c = true := by
  simp [isIdentifierPart, isAlphanumeric, h]

lemma isIdentifierChars_concat_underscore {cs : List Char} (hne : cs ≠ []) :
    isIdentifierChars (cs ++ ['_']) = isIdentifierChars cs := by
  obtain ⟨c, rest, rfl⟩ := List.exists_cons_of_ne_nil hne
  have hunderscore : isIdentifierPart '_' = true := by decide
  simp [isIdentifierChars, hunderscore]

lemma underscore_not_mem_of_isReserved {s : String} (h : isReserved s = true) : '_' ∉ s.toList := by
  have hall : reservedWords.all (fun word => !word.toList.contains '_') = true := by decide +kernel
  have hword := List.all_eq_true.1 hall s (by simpa [isReserved] using h)
  simpa using hword

/-- Every way of mending leads to a word that is not reserved. -/
lemma isReserved_mendName (cased : List Char) : isReserved (mendName cased) = false := by
  have hunderscore : ∀ s : String, '_' ∈ s.toList → isReserved s = false := by
    intro s hs
    by_contra hreserved
    exact underscore_not_mem_of_isReserved (by simpa using hreserved) hs
  cases cased with
  | nil => decide +kernel
  | cons c cs =>
    rw [mendName]
    split
    · exact hunderscore _ (by simp)
    · split
      · exact hunderscore _ (by simp)
      · rename_i hreserved
        simpa using hreserved

/-- The mended name is an identifier exactly when the cased one is, its first character being a
digit or not. -/
lemma isIdentifier_mendName_iff {cased : List Char} : isIdentifier (mendName cased) = true ↔
    (∀ d ∈ cased, isIdentifierPart d = true) ∧
      ∀ d ∈ cased.head?, isIdentifierStart d = true ∨ d.isDigit = true := by
  cases cased with
  | nil =>
    have hunnamed : isIdentifier (mendName []) = true := by decide +kernel
    simp [hunnamed]
  | cons c cs =>
    have hstart : isIdentifierStart '_' = true := by decide
    have hchars : isIdentifierChars (c :: cs) = true ↔
        isIdentifierStart c = true ∧ ∀ d ∈ cs, isIdentifierPart d = true := by
      simp [isIdentifierChars]
    have hpart : isIdentifierStart c = true → isIdentifierPart c = true :=
      isIdentifierPart_of_isIdentifierStart
    rw [mendName]
    split
    · rename_i hdigit
      simp [isIdentifier, isIdentifierChars, hstart, hdigit]
    · rename_i hdigit
      have hboth : isIdentifierChars (c :: cs) = true ↔
          (∀ d ∈ c :: cs, isIdentifierPart d = true) ∧
            ∀ d ∈ (c :: cs).head?, isIdentifierStart d = true ∨ d.isDigit = true := by
        rw [hchars]
        simp [hdigit]
        tauto
      split
      · rw [isIdentifier, String.toList_ofList, isIdentifierChars_concat_underscore (by simp)]
        exact hboth
      · rw [isIdentifier, String.toList_ofList]
        exact hboth

/-! ### Cased words -/

/-- The first letter or digit of the text, if there is one, is a letter or an ASCII digit. -/
def StartsUsably (cs : List Char) : Prop :=
  ∀ c, cs.find? isAlphanumeric = some c → isAlphabetic c = true ∨ c.isDigit = true

/-- With its first character in upper case and the others in lower case the word gains no mark:
the capital is written with characters of identifiers, and none of the others is `İ`. -/
structure CasesPlainly (word : List Char) : Prop where
  capital : ∀ c ∈ word.head?, ∀ d ∈ toUpper c, isIdentifierPart d = true
  small : 'İ' ∉ word.tail

/-- A changed letter or digit starts usably exactly when it did before. -/
lemma Text.IsCased.exists_cons {expansions : List (Nat × List Nat)} {c : Char} {image : List Char}
    (h : IsCased expansions c image) (hc : isAlphanumeric c = true) :
    ∃ d ds, image = d :: ds ∧ ((isIdentifierStart d = true ∨ d.isDigit = true) ↔
      (isAlphabetic c = true ∨ c.isDigit = true)) := by
  have hstart : ∀ {d : Char}, isAlphabetic d = true → isIdentifierStart d = true := by
    intro d hd
    simp [isIdentifierStart, hd]
  cases h with
  | same =>
    have hunderscore : c ≠ '_' := by
      rintro rfl
      exact absurd hc (by decide)
    have hdollar : c ≠ '$' := by
      rintro rfl
      exact absurd hc (by decide)
    exact ⟨c, [], rfl, by simp [isIdentifierStart, hunderscore, hdollar]⟩
  | letter hc hd => exact ⟨_, [], rfl, iff_of_true (Or.inl (hstart hd)) (Or.inl hc)⟩
  | expanded hc hd _ => exact ⟨_, _, rfl, iff_of_true (Or.inl (hstart hd)) (Or.inl hc)⟩

/-- In lower case only `İ` gains a mark. -/
lemma isIdentifierPart_of_mem_toLower_iff {c : Char} (hc : isAlphanumeric c = true) :
    (∀ d ∈ toLower c, isIdentifierPart d = true) ↔ c ≠ 'İ' := by
  constructor
  · rintro h rfl
    have hmark : (toLower 'İ').all isIdentifierPart = false := by decide +kernel
    rw [List.all_eq_true.2 h] at hmark
    cases hmark
  · intro hne
    have hcased := isCased_toLower c
    generalize toLower c = image at hcased
    cases hcased with
    | same =>
      have hpart : isIdentifierPart c = true := by simp [isIdentifierPart, hc]
      simpa using hpart
    | letter _ hd => simpa using isIdentifierPart_of_isAlphabetic hd
    | expanded _ _ hkey =>
      have hpoint : c.toNat = 0x130 := by simpa [lowerExpansions] using hkey
      exact absurd (Char.toNat_inj.1 (hpoint.trans (by decide : 0x130 = 'İ'.toNat))) hne

lemma isIdentifierPart_of_mem_lowerWord_iff {word : List Char}
    (hword : ∀ c ∈ word, isAlphanumeric c = true) :
    (∀ d ∈ lowerWord word, isIdentifierPart d = true) ↔ 'İ' ∉ word := by
  induction word using lowerWord.induct with
  | case1 => simp [lowerWord]
  | case2 =>
    have hsigma : isIdentifierPart 'ς' = true := by decide +kernel
    simp [lowerWord, hsigma]
  | case3 c hc =>
    rw [lowerWord, if_neg hc, isIdentifierPart_of_mem_toLower_iff (hword c List.mem_cons_self),
      List.mem_singleton]
    exact not_congr eq_comm
  | case4 c cs hcs ih =>
    obtain ⟨hc, hrest⟩ := List.forall_mem_cons.1 hword
    rw [lowerWord_cons hcs, List.forall_mem_append, isIdentifierPart_of_mem_toLower_iff hc, ih hrest,
      List.mem_cons, not_or]
    exact and_congr_left' (not_congr eq_comm)

lemma isIdentifierPart_of_mem_capitalWord_iff {word : List Char}
    (hword : ∀ c ∈ word, isAlphanumeric c = true) :
    (∀ d ∈ capitalWord word, isIdentifierPart d = true) ↔ CasesPlainly word := by
  cases word with
  | nil => exact iff_of_true (by simp [capitalWord]) ⟨by simp, by simp⟩
  | cons c cs =>
    obtain ⟨-, hrest⟩ := List.forall_mem_cons.1 hword
    rw [capitalWord, List.forall_mem_append, isIdentifierPart_of_mem_lowerWord_iff hrest]
    constructor
    · rintro ⟨hcapital, hsmall⟩
      exact ⟨by simpa using hcapital, hsmall⟩
    · intro h
      exact ⟨h.capital c rfl, h.small⟩

lemma exists_lowerWord_cons (c : Char) (cs : List Char) :
    ∃ image rest, lowerWord (c :: cs) = image ++ rest ∧ IsCased lowerExpansions c image := by
  by_cases hcs : cs = []
  · subst hcs
    by_cases hc : c = 'Σ'
    · subst hc
      have hsigma : isAlphabetic 'Σ' = true := by decide +kernel
      have hfinal : isAlphabetic 'ς' = true := by decide +kernel
      exact ⟨['ς'], [], rfl, .letter hsigma hfinal⟩
    · exact ⟨toLower c, [], by simp [lowerWord, hc], isCased_toLower c⟩
  · exact ⟨toLower c, lowerWord cs, lowerWord_cons hcs, isCased_toLower c⟩

/-! ### Cased texts -/

lemma isIdentifierPart_of_mem_upperCamel_iff {cs : List Char} :
    (∀ d ∈ upperCamel cs, isIdentifierPart d = true) ↔ ∀ word ∈ words cs, CasesPlainly word := by
  rw [upperCamel, List.forall_mem_flatMap]
  refine forall₂_congr fun word hword => ?_
  exact isIdentifierPart_of_mem_capitalWord_iff (isAlphanumeric_of_mem_words hword)

lemma isIdentifierPart_of_mem_lowerCamel_iff {cs : List Char} :
    (∀ d ∈ lowerCamel cs, isIdentifierPart d = true) ↔
      (∀ word ∈ (words cs).head?, 'İ' ∉ word) ∧ ∀ word ∈ (words cs).tail, CasesPlainly word := by
  have hall : ∀ word ∈ words cs, ∀ c ∈ word, isAlphanumeric c = true :=
    fun word => isAlphanumeric_of_mem_words
  rw [lowerCamel]
  generalize words cs = ws at hall
  cases ws with
  | nil => simp
  | cons first rest =>
    obtain ⟨hfirst, hrest⟩ := List.forall_mem_cons.1 hall
    rw [List.forall_mem_append, List.forall_mem_flatMap, isIdentifierPart_of_mem_lowerWord_iff hfirst]
    refine and_congr (by simp) (forall₂_congr fun word hword => ?_)
    exact isIdentifierPart_of_mem_capitalWord_iff (hrest word hword)

/-- A cased text that starts with the changed first letter or digit of another one starts usably
exactly when that one does. -/
lemma startsUsably_iff_of_isCased {expansions : List (Nat × List Nat)} {c : Char}
    {cs image rest : List Char} (hc : cs.find? isAlphanumeric = some c)
    (h : IsCased expansions c image) :
    (∀ d ∈ (image ++ rest).head?, isIdentifierStart d = true ∨ d.isDigit = true) ↔
      StartsUsably cs := by
  have halphanumeric : isAlphanumeric c = true := List.find?_some hc
  obtain ⟨d, ds, rfl, hd⟩ := h.exists_cons halphanumeric
  simp [StartsUsably, hc, hd]

lemma head?_upperCamel_iff {cs : List Char} :
    (∀ d ∈ (upperCamel cs).head?, isIdentifierStart d = true ∨ d.isDigit = true) ↔
      StartsUsably cs := by
  rw [upperCamel]
  rcases words_cases cs with ⟨hwords, hnone⟩ | ⟨c, word, rest, hwords, hfirst⟩
  · simp [hwords, StartsUsably, hnone]
  · rw [hwords, List.flatMap_cons, capitalWord, List.append_assoc]
    exact startsUsably_iff_of_isCased hfirst (isCased_toUpper c)

lemma head?_lowerCamel_iff {cs : List Char} :
    (∀ d ∈ (lowerCamel cs).head?, isIdentifierStart d = true ∨ d.isDigit = true) ↔
      StartsUsably cs := by
  rw [lowerCamel]
  rcases words_cases cs with ⟨hwords, hnone⟩ | ⟨c, word, rest, hwords, hfirst⟩
  · simp [hwords, StartsUsably, hnone]
  · obtain ⟨image, others, hlower, hcased⟩ := exists_lowerWord_cons c word
    rw [hwords]
    simp only [hlower, List.append_assoc]
    exact startsUsably_iff_of_isCased hfirst hcased

/-! ### Generated names -/

/-- **Generated names are never reserved, and exactly these are identifiers.**  The first letter or
digit of the name in the model file, if it has any, is a letter or an ASCII digit; and no letter
gains a mark when its case is changed: in the name of a class no word starts with a letter whose
capital has a mark or goes on with `İ`, and in the name of a field that holds of all words but the
first, which does not hold `İ` at all. -/
theorem isIdentifier_className_fieldName_iff (name : String) :
    isReserved (className name) = false ∧ isReserved (fieldName name) = false ∧
    (isIdentifier (className name) = true ↔
      StartsUsably name.toList ∧ ∀ word ∈ words name.toList, CasesPlainly word) ∧
    (isIdentifier (fieldName name) = true ↔
      StartsUsably name.toList ∧ (∀ word ∈ (words name.toList).head?, 'İ' ∉ word) ∧
        ∀ word ∈ (words name.toList).tail, CasesPlainly word) := by
  refine ⟨isReserved_mendName _, isReserved_mendName _, ?_, ?_⟩
  · rw [className, isIdentifier_mendName_iff, isIdentifierPart_of_mem_upperCamel_iff,
      head?_upperCamel_iff, and_comm]
  · rw [fieldName, isIdentifier_mendName_iff, isIdentifierPart_of_mem_lowerCamel_iff,
      head?_lowerCamel_iff, and_comm]

/-- A digit beyond ASCII is kept at the start of a name without an underscore before it, and the
small letter of `İ` is followed by a mark. -/
theorem not_isIdentifier_className_fieldName :
    isIdentifier (className "٣") = false ∧ isIdentifier (fieldName "٣") = false ∧
      isIdentifier (fieldName "İ") = false ∧ isIdentifier (className "ǰ") = false := by
  decide +kernel

end ClassGen
