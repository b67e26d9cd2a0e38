/-
# The characters of generated names

A model file may name its classes and fields with any text.  The names that are generated from it
are made of the letters and digits of that text in upper or lower case, and of underscores.  Case
mapping takes letters and digits to characters that are no marks: in ASCII it yields letters and
digits only.  So no mark of the source language and no separator of paths gets into a generated
name (`isNameChar_of_mem_className`, `isNameChar_of_mem_fieldName`).
-/
import Mathlib.Tactic.Common
import ClassGen.Naming.Normalize

namespace ClassGen

open Text

/-- Can the character stand in a name?  Beyond ASCII any one can; in ASCII a letter, a digit, an
underscore and a dollar sign can. -/
def isNameChar (c : Char) : Bool :=
  decide (0x80 ≤ c.toNat) || c.isAlphanum || c == '_' || c == '$'

/-- A character of another kind than all those of a text is not in it. -/
lemma not_mem_of_forall {p : Char → Bool} {cs : List Char} (h : ∀ c ∈ cs, p c = true) {mark : Char}
    (hmark : p mark = false) : mark ∉ cs := by
  intro hmem
  rw [h mark hmem] at hmark
  cases hmark

lemma isAlphanumeric_eq_isAlphanum {c : Char} (hascii : c.toNat < 0x80) :
    isAlphanumeric c = c.isAlphanum := by
  simp [isAlphanumeric, isAlphabetic, isNumeric, Char.isAlphanum, hascii]

lemma isAlphanum_of_isAlphanumeric {c : Char} (hascii : c.toNat < 0x80)
    (h : isAlphanumeric c = true) : c.isAlphanum = true := by
  rwa [isAlphanumeric_eq_isAlphanum hascii] at h

lemma isNameChar_of_isAlphanumeric {c : Char} (h : isAlphanumeric c = true) :
    isNameChar c = true := by
  by_cases hascii : c.toNat < 0x80
  · simp [isNameChar, isAlphanum_of_isAlphanumeric hascii h]
  · have hbeyond : 0x80 ≤ c.toNat := by omega
    simp [isNameChar, hbeyond]

lemma isNameChar_of_isIdentifierPart {c : Char} (h : isIdentifierPart c = true) :
    isNameChar c = true := by
  rw [isIdentifierPart, Bool.or_eq_true, Bool.or_eq_true] at h
  rcases h with (h | h) | h
  · exact isNameChar_of_isAlphanumeric h
  · simp [isNameChar, h]
  · simp [isNameChar, h]

lemma isIdentifierPart_of_isIdentifierStart {c : Char} (h : isIdentifierStart c = true) :
    isIdentifierPart c = true := by
  simp only [isIdentifierStart, isIdentifierPart, isAlphanumeric, Bool.or_eq_true] at h ⊢
  tauto

/-- An identifier is not empty and holds characters of identifiers only. -/
lemma isIdentifierPart_of_isIdentifier {s : String} (h : isIdentifier s = true) :
    s.toList ≠ [] ∧ ∀ c ∈ s.toList, isIdentifierPart c = true := by
  rw [isIdentifier] at h
  generalize s.toList = cs at h ⊢
  cases cs with
  | nil => simp [isIdentifierChars] at h
  | cons c cs =>
    rw [isIdentifierChars, Bool.and_eq_true, List.all_eq_true] at h
    obtain ⟨hc, hcs⟩ := h
    exact ⟨by simp, List.forall_mem_cons.2 ⟨isIdentifierPart_of_isIdentifierStart hc, hcs⟩⟩

/-- An identifier is not empty and holds characters of names only. -/
lemma isNameChar_of_isIdentifier {s : String} (h : isIdentifier s = true) :
    s.toList ≠ [] ∧ ∀ c ∈ s.toList, isNameChar c = true := by
  obtain ⟨hne, hparts⟩ := isIdentifierPart_of_isIdentifier h
  exact ⟨hne, fun c hc => isNameChar_of_isIdentifierPart (hparts c hc)⟩

/-! ### Words -/

/-- A word ends where the characters of names end. -/
lemma takeWhile_word_append {word rest : List Char} (hword : ∀ c ∈ word, isNameChar c = true)
    (hrest : ∀ c ∈ rest.head?, isNameChar c = false) :
    (word ++ rest).takeWhile isNameChar = word := by
  have hstop : rest.takeWhile isNameChar = [] := by
    cases rest with
    | nil => rfl
    | cons c cs => simp [hrest c rfl]
  rw [List.takeWhile_append_of_pos hword, hstop, List.append_nil]

/-- A word and what follows it are read back from a text. -/
lemma word_append_inj {word word' rest rest' : List Char}
    (hword : ∀ c ∈ word, isNameChar c = true)
    (hword' : ∀ c ∈ word', isNameChar c = true) (hrest : ∀ c ∈ rest.head?, isNameChar c = false)
    (hrest' : ∀ c ∈ rest'.head?, isNameChar c = false) (h : word ++ rest = word' ++ rest') :
    word = word' ∧ rest = rest' := by
  have heq : word = word' := by
    rw [← takeWhile_word_append hword hrest, h, takeWhile_word_append hword' hrest']
  subst heq
  exact ⟨rfl, List.append_cancel_left h⟩

/-! ### Case mapping -/

/-- All code points that the tables map to are those of characters of names. -/
def mapsToNameChars (expansions : List (Nat × List Nat)) (shifts : List Shift) : Bool :=
  expansions.all (fun e => e.2.all fun n => isNameChar (Char.ofNat n)) &&
    shifts.all fun s => (List.range (s.source.last - s.source.first + 1)).all fun k =>
      isNameChar (Char.ofNat (s.target + k))

lemma mapsToNameChars_upper : mapsToNameChars upperExpansions upperShifts = true := by
  decide +kernel

lemma mapsToNameChars_lower : mapsToNameChars lowerExpansions lowerShifts = true := by
  decide +kernel

lemma isNameChar_of_mem_mapCase {expansions : List (Nat × List Nat)} {shifts : List Shift}
    (htables : mapsToNameChars expansions shifts = true) {c d : Char} (hc : isNameChar c = true)
    (hd : d ∈ (mapCase expansions shifts c.toNat).map Char.ofNat) : isNameChar d = true := by
  rw [mapsToNameChars, Bool.and_eq_true] at htables
  obtain ⟨hexpansions, hshifts⟩ := htables
  obtain ⟨n, hn, rfl⟩ := List.mem_map.1 hd
  rw [mapCase] at hn
  rcases hexpansion : expansions.find? (fun e => e.1 == c.toNat) with _ | e
  · rw [hexpansion] at hn
    rcases hshift : shifts.find? (fun s => s.source.contains c.toNat) with _ | s
    · -- a code point that the tables do not mention stays as it is
      rw [hshift] at hn
      rw [List.mem_singleton.1 hn, Char.ofNat_toNat]
      exact hc
    · rw [hshift] at hn
      have hsource : s.source.contains c.toNat = true := by simpa using List.find?_some hshift
      simp only [Run.contains, Bool.and_eq_true, decide_eq_true_eq] at hsource
      have hall := List.all_eq_true.1 hshifts s (List.mem_of_find?_eq_some hshift)
      rw [List.mem_singleton.1 hn]
      exact List.all_eq_true.1 hall _ (List.mem_range.2 (by omega))
  · rw [hexpansion] at hn
    have hall := List.all_eq_true.1 hexpansions e (List.mem_of_find?_eq_some hexpansion)
    exact List.all_eq_true.1 hall n hn

/-- In either case, a letter or a digit is given in characters of names. -/
lemma isNameChar_of_mem_cased {f : Char → Char} {expansions : List (Nat × List Nat)}
    {shifts : List Shift}
    (hf : (List.range 0x80).all
      (fun n => !(Char.ofNat n).isAlphanum || isNameChar (f (Char.ofNat n))) = true)
    (htables : mapsToNameChars expansions shifts = true) {c d : Char}
    (hc : isAlphanumeric c = true)
    (hd : d ∈ if c.toNat < 0x80 then [f c]
      else (mapCase expansions shifts c.toNat).map Char.ofNat) : isNameChar d = true := by
  split at hd
  · rename_i hascii
    have hc' := List.all_eq_true.1 hf c.toNat (List.mem_range.2 hascii)
    rw [Char.ofNat_toNat, isAlphanum_of_isAlphanumeric hascii hc] at hc'
    rw [List.mem_singleton.1 hd]
    simpa using hc'
  · exact isNameChar_of_mem_mapCase htables (isNameChar_of_isAlphanumeric hc) hd

lemma isNameChar_of_mem_toUpper {c d : Char} (hc : isAlphanumeric c = true) (hd : d ∈ toUpper c) :
    isNameChar d = true :=
  isNameChar_of_mem_cased (f := Char.toUpper) (by decide +kernel) mapsToNameChars_upper hc hd

lemma isNameChar_of_mem_toLower {c d : Char} (hc : isAlphanumeric c = true) (hd : d ∈ toLower c) :
    isNameChar d = true :=
  isNameChar_of_mem_cased (f := Char.toLower) (by decide +kernel) mapsToNameChars_lower hc hd

/-! ### Words -/

lemma isAlphanumeric_of_mem_pieces {cs piece : List Char} (hpiece : piece ∈ pieces cs) :
    ∀ c ∈ piece, isAlphanumeric c = true := by
  induction cs generalizing piece with
  | nil =>
    rw [pieces, List.mem_singleton] at hpiece
    simp [hpiece]
  | cons c cs ih =>
    rw [pieces] at hpiece
    split at hpiece
    · rename_i hc
      split at hpiece
      · rw [List.mem_singleton] at hpiece
        simp [hpiece, hc]
      · rename_i first rest hpieces
        rcases List.mem_cons.1 hpiece with rfl | hpiece
        · have hfirst : ∀ d ∈ first, isAlphanumeric d = true := ih (by simp [hpieces])
          exact List.forall_mem_cons.2 ⟨hc, hfirst⟩
        · exact ih (by simp [hpieces, hpiece])
    · rcases List.mem_cons.1 hpiece with rfl | hpiece
      · simp
      · exact ih hpiece

/-- The words of a piece are made of its characters. -/
lemma mem_of_mem_wordsFrom {last : LastCase} {word cs w : List Char}
    (hw : w ∈ wordsFrom last word cs) {c : Char} (hc : c ∈ w) : c ∈ word ∨ c ∈ cs := by
  -- `word` holds the characters of the word that is being read; at a cut it starts anew
  induction last, word, cs using wordsFrom.induct generalizing w with
  | case1 => simp [wordsFrom] at hw
  | case2 last word d =>
    rw [wordsFrom, List.mem_singleton] at hw
    rw [hw, List.mem_reverse, List.mem_cons] at hc
    rcases hc with rfl | hc
    · exact Or.inr List.mem_cons_self
    · exact Or.inl hc
  | case3 last word d next rest hcut ih =>
    rw [wordsFrom, if_pos hcut] at hw
    rcases List.mem_cons.1 hw with rfl | hw
    · rw [List.mem_reverse, List.mem_cons] at hc
      rcases hc with rfl | hc
      · exact Or.inr List.mem_cons_self
      · exact Or.inl hc
    · rcases ih hw hc with h | h
      · exact absurd h List.not_mem_nil
      · exact Or.inr (List.mem_cons_of_mem _ h)
  | case4 last word d next rest hno hcut ih =>
    rw [wordsFrom, if_neg hno, if_pos hcut] at hw
    rcases List.mem_cons.1 hw with rfl | hw
    · exact Or.inl (List.mem_reverse.1 hc)
    · rcases ih hw hc with h | h
      · rw [List.mem_singleton.1 h]
        exact Or.inr List.mem_cons_self
      · exact Or.inr (List.mem_cons_of_mem _ h)
  | case5 last word d next rest hno hno' ih =>
    rw [wordsFrom, if_neg hno, if_neg hno'] at hw
    rcases ih hw hc with h | h
    · rcases List.mem_cons.1 h with rfl | h
      · exact Or.inr List.mem_cons_self
      · exact Or.inl h
    · exact Or.inr (List.mem_cons_of_mem _ h)

lemma isAlphanumeric_of_mem_words {cs word : List Char} (hword : word ∈ words cs) :
    ∀ c ∈ word, isAlphanumeric c = true := by
  intro c hc
  obtain ⟨piece, hpiece, hword⟩ := List.mem_flatMap.1 hword
  rcases mem_of_mem_wordsFrom hword hc with h | h
  · exact absurd h List.not_mem_nil
  · exact isAlphanumeric_of_mem_pieces hpiece c h

/-! ### Cased words -/

/-- Only the last character of a word has a rule of its own. -/
lemma lowerWord_cons {c : Char} {cs : List Char} (hcs : cs ≠ []) :
    lowerWord (c :: cs) = toLower c ++ lowerWord cs := by
  rw [lowerWord]
  exact hcs

lemma isNameChar_of_mem_lowerWord {word : List Char} (hword : ∀ c ∈ word, isAlphanumeric c = true) :
    ∀ d ∈ lowerWord word, isNameChar d = true := by
  induction word using lowerWord.induct with
  | case1 => simp [lowerWord]
  | case2 =>
    have hsigma : isNameChar 'ς' = true := by decide +kernel
    simpa [lowerWord] using hsigma
  | case3 c hc =>
    rw [lowerWord, if_neg hc]
    exact fun d => isNameChar_of_mem_toLower (hword c List.mem_cons_self)
  | case4 c cs hcs ih =>
    obtain ⟨hc, hrest⟩ := List.forall_mem_cons.1 hword
    rw [lowerWord_cons hcs, List.forall_mem_append]
    exact ⟨fun d => isNameChar_of_mem_toLower hc, ih hrest⟩

lemma isNameChar_of_mem_capitalWord {word : List Char}
    (hword : ∀ c ∈ word, isAlphanumeric c = true) : ∀ d ∈ capitalWord word, isNameChar d = true := by
  cases word with
  | nil => simp [capitalWord]
  | cons c cs =>
    obtain ⟨hc, hrest⟩ := List.forall_mem_cons.1 hword
    rw [capitalWord, List.forall_mem_append]
    exact ⟨fun d => isNameChar_of_mem_toUpper hc, isNameChar_of_mem_lowerWord hrest⟩

lemma isNameChar_of_mem_upperCamel {cs : List Char} {d : Char} (hd : d ∈ upperCamel cs) :
    isNameChar d = true := by
  obtain ⟨word, hword, hd⟩ := List.mem_flatMap.1 hd
  exact isNameChar_of_mem_capitalWord (isAlphanumeric_of_mem_words hword) d hd

lemma isNameChar_of_mem_lowerCamel {cs : List Char} {d : Char} (hd : d ∈ lowerCamel cs) :
    isNameChar d = true := by
  rw [lowerCamel] at hd
  rcases hwords : words cs with _ | ⟨first, rest⟩
  · simp [hwords] at hd
  · have hall : ∀ word ∈ first :: rest, ∀ c ∈ word, isAlphanumeric c = true := by
      intro word hword
      exact isAlphanumeric_of_mem_words (hwords ▸ hword)
    obtain ⟨hfirst, hrest⟩ := List.forall_mem_cons.1 hall
    rw [hwords] at hd
    rcases List.mem_append.1 hd with hd | hd
    · exact isNameChar_of_mem_lowerWord hfirst d hd
    · obtain ⟨word, hword, hd⟩ := List.mem_flatMap.1 hd
      exact isNameChar_of_mem_capitalWord (hrest word hword) d hd

/-! ### Names -/

lemma isNameChar_of_mem_mendName {cased : List Char} (h : ∀ c ∈ cased, isNameChar c = true)
    {d : Char} (hd : d ∈ (mendName cased).toList) : isNameChar d = true := by
  have hunderscore : isNameChar '_' = true := by decide
  cases cased with
  | nil =>
    have hall : "unnamed".toList.all isNameChar = true := by decide
    exact List.all_eq_true.1 hall d hd
  | cons c cs =>
    rw [mendName] at hd
    split at hd
    · rw [String.toList_ofList] at hd
      rcases List.mem_cons.1 hd with rfl | hd
      · exact hunderscore
      · exact h d hd
    · split at hd
      · rw [String.toList_ofList] at hd
        rcases List.mem_append.1 hd with hd | hd
        · exact h d hd
        · rw [List.mem_singleton.1 hd]
          exact hunderscore
      · rw [String.toList_ofList] at hd
        exact h d hd

/-- Whatever a class is called in a model file, no mark is in the name that it is given. -/
lemma isNameChar_of_mem_className {name : String} {c : Char} (hc : c ∈ (className name).toList) :
    isNameChar c = true :=
  isNameChar_of_mem_mendName (fun _ => isNameChar_of_mem_upperCamel) hc

/-- Whatever a field is called in a model file, no mark is in the name that it is given. -/
lemma isNameChar_of_mem_fieldName {name : String} {c : Char} (hc : c ∈ (fieldName name).toList) :
    isNameChar c = true :=
  isNameChar_of_mem_mendName (fun _ => isNameChar_of_mem_lowerCamel) hc

end ClassGen
