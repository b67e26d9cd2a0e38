/-
# What generated names keep

A name in ASCII is generated from another one by changing the case of letters, by dropping what
stands between words, and by an underscore where the result has to be mended.  Nothing else is
dropped, doubled or moved: the generated name has the letters and digits of the name that it is made
from, in their order (`withoutUnderscores_className`, `withoutUnderscores_fieldName`).  So names
that differ in a letter or a digit, and not only in its case, never become one.
-/
import Mathlib
import ClassGen.Proofs.Naming.Characters
import ClassGen.Proofs.Naming.Words

namespace ClassGen

open Text

/-- The name is written in ASCII and has a letter or a digit. -/
structure IsAsciiName (name : String) : Prop where
  ascii : ∀ c ∈ name.toList, c.toNat < 0x80
  letter : ∃ c ∈ name.toList, c.isAlphanum = true

/-- The letters and digits of a name in ASCII in their order, the letters small. -/
def lettering (name : String) : List Char :=
  (name.toList.filter Char.isAlphanum).map Char.toLower

/-- All characters of a name but its underscores, the letters small. -/
def withoutUnderscores (name : String) : List Char :=
  (name.toList.filter (· != '_')).map Char.toLower

/-- The names are written in ASCII and differ in a letter or a digit, the case of letters apart. -/
structure ToldApart (a b : String) : Prop where
  left : IsAsciiName a
  right : IsAsciiName b
  lettering_ne : lettering a ≠ lettering b

-- characters are finitely many, and a quantifier over them is decided by trying all of them, so the
-- text is gone through instead
instance (name : String) : Decidable (IsAsciiName name) :=
  decidable_of_iff ((name.toList.all fun c => decide (c.toNat < 0x80)) = true ∧
      name.toList.any Char.isAlphanum = true)
    ⟨fun h => ⟨by simpa using h.1, by simpa using h.2⟩,
      fun h => ⟨by simpa using h.ascii, by simpa using h.letter⟩⟩

instance (a b : String) : Decidable (ToldApart a b) :=
  decidable_of_iff (IsAsciiName a ∧ IsAsciiName b ∧ lettering a ≠ lettering b)
    ⟨fun h => ⟨h.1, h.2.1, h.2.2⟩, fun h => ⟨h.left, h.right, h.lettering_ne⟩⟩

/-! ### Cased words -/

lemma toLower_of_ascii {c : Char} (hc : c.toNat < 0x80) : toLower c = [c.toLower] := by
  rw [toLower, if_pos hc]

lemma toUpper_of_ascii {c : Char} (hc : c.toNat < 0x80) : toUpper c = [c.toUpper] := by
  rw [toUpper, if_pos hc]

lemma lowerWord_of_ascii {word : List Char} (hword : ∀ c ∈ word, c.toNat < 0x80) :
    lowerWord word = word.map Char.toLower := by
  induction word using lowerWord.induct with
  | case1 => rfl
  | case2 =>
    -- the rule for the sigma at the end of a word is not for ASCII
    exact absurd (hword 'Σ' List.mem_cons_self) (by decide)
  | case3 c hc =>
    rw [lowerWord, if_neg hc, toLower_of_ascii (hword c List.mem_cons_self), List.map_singleton]
  | case4 c cs hcs ih =>
    obtain ⟨hc, hrest⟩ := List.forall_mem_cons.1 hword
    rw [lowerWord_cons hcs, toLower_of_ascii hc, ih hrest, List.map_cons, List.singleton_append]

/-- Only the case of a word is changed when it is written in lower case. -/
lemma map_toLower_lowerWord {word : List Char} (hword : ∀ c ∈ word, c.toNat < 0x80) :
    (lowerWord word).map Char.toLower = word.map Char.toLower := by
  rw [lowerWord_of_ascii hword, List.map_map]
  exact List.map_congr_left fun c _ => Char.toLower_toLower_eq_toLower c

/-- Only the case of a word is changed when it is written with a capital. -/
lemma map_toLower_capitalWord {word : List Char} (hword : ∀ c ∈ word, c.toNat < 0x80) :
    (capitalWord word).map Char.toLower = word.map Char.toLower := by
  cases word with
  | nil => rfl
  | cons c cs =>
    obtain ⟨hc, hrest⟩ := List.forall_mem_cons.1 hword
    rw [capitalWord, toUpper_of_ascii hc, List.map_append, map_toLower_lowerWord hrest,
      List.map_singleton, Char.toLower_toUpper_eq_toLower, List.singleton_append, List.map_cons]

lemma map_toLower_flatMap_capitalWord {ws : List (List Char)}
    (hws : ∀ word ∈ ws, ∀ c ∈ word, c.toNat < 0x80) :
    (ws.flatMap capitalWord).map Char.toLower = ws.flatten.map Char.toLower := by
  rw [List.map_flatMap, List.map_flatten, ← List.flatMap_def]
  exact List.flatMap_congr fun word hword => map_toLower_capitalWord (hws word hword)

/-! ### Cased names -/

section Cased

variable {cs : List Char}

lemma ascii_of_mem_words (hcs : ∀ c ∈ cs, c.toNat < 0x80) :
    ∀ word ∈ words cs, ∀ c ∈ word, c.toNat < 0x80 := by
  intro word hword c hc
  have hflatten : c ∈ (words cs).flatten := List.mem_flatten.2 ⟨word, hword, hc⟩
  rw [flatten_words] at hflatten
  exact hcs c (List.mem_of_mem_filter hflatten)

lemma flatten_words_of_ascii (hcs : ∀ c ∈ cs, c.toNat < 0x80) :
    (words cs).flatten = cs.filter Char.isAlphanum := by
  rw [flatten_words]
  exact List.filter_congr fun c hc => isAlphanumeric_eq_isAlphanum (hcs c hc)

lemma map_toLower_upperCamel (hcs : ∀ c ∈ cs, c.toNat < 0x80) :
    (upperCamel cs).map Char.toLower = (cs.filter Char.isAlphanum).map Char.toLower := by
  rw [upperCamel, map_toLower_flatMap_capitalWord (ascii_of_mem_words hcs),
    flatten_words_of_ascii hcs]

lemma map_toLower_lowerCamel (hcs : ∀ c ∈ cs, c.toNat < 0x80) :
    (lowerCamel cs).map Char.toLower = (cs.filter Char.isAlphanum).map Char.toLower := by
  have hwords := ascii_of_mem_words hcs
  rw [← flatten_words_of_ascii hcs, lowerCamel]
  generalize words cs = ws at hwords
  cases ws with
  | nil => rfl
  | cons first rest =>
    obtain ⟨hfirst, hrest⟩ := List.forall_mem_cons.1 hwords
    rw [List.flatten_cons, List.map_append, List.map_append, map_toLower_lowerWord hfirst,
      map_toLower_flatMap_capitalWord hrest]

end Cased

/-! ### Mended names -/

lemma toLower_eq_underscore_iff {c : Char} : c.toLower = '_' ↔ c = '_' := by
  constructor
  · intro h
    have hupper : ¬ c.isUpper := by
      intro hupper
      have hletter : c.toLower.isAlpha = true := by simp [Char.isAlpha, hupper]
      rw [h] at hletter
      exact absurd hletter (by decide)
    rwa [Char.toLower_eq_of_not_isUpper hupper] at h
  · rintro rfl
    rfl

/-- Mending puts underscores only. -/
lemma filter_mendName {cased : List Char} (hne : cased ≠ []) (hcased : '_' ∉ cased) :
    (mendName cased).toList.filter (· != '_') = cased := by
  have hself : cased.filter (· != '_') = cased := by
    rw [List.filter_eq_self]
    intro c hc
    rw [bne_iff_ne]
    rintro rfl
    exact hcased hc
  obtain ⟨c, cs, rfl⟩ := List.exists_cons_of_ne_nil hne
  rw [mendName]
  split
  · rw [String.toList_ofList, List.filter_cons_of_neg (by decide), hself]
  · split
    · rw [String.toList_ofList, List.filter_append, hself, List.filter_cons_of_neg (by decide),
        List.filter_nil, List.append_nil]
    · rw [String.toList_ofList, hself]

variable {name : String}

lemma IsAsciiName.lettering_ne_nil (h : IsAsciiName name) : lettering name ≠ [] := by
  obtain ⟨c, hc, halphanum⟩ := h.letter
  exact List.ne_nil_of_mem (List.mem_map_of_mem (List.mem_filter.2 ⟨hc, halphanum⟩))

lemma underscore_not_mem_lettering : '_' ∉ lettering name := by
  simp only [lettering, List.mem_map, List.mem_filter, not_exists, not_and]
  rintro c ⟨-, halphanum⟩ hc
  rw [toLower_eq_underscore_iff.1 hc] at halphanum
  exact absurd halphanum (by decide)

/-- A cased name with the letters and digits of the name keeps them when it is mended. -/
lemma withoutUnderscores_mendName {cased : List Char} (hname : IsAsciiName name)
    (hcased : cased.map Char.toLower = lettering name) :
    withoutUnderscores (mendName cased) = lettering name := by
  have hne : cased ≠ [] := by
    rintro rfl
    exact hname.lettering_ne_nil hcased.symm
  have hunderscore : '_' ∉ cased := by
    intro hmem
    have hlower : '_'.toLower ∈ cased.map Char.toLower := List.mem_map_of_mem hmem
    rw [hcased] at hlower
    exact underscore_not_mem_lettering hlower
  rw [withoutUnderscores, filter_mendName hne hunderscore, hcased]

/-! ### Generated names -/

lemma withoutUnderscores_className (h : IsAsciiName name) :
    withoutUnderscores (className name) = lettering name :=
  withoutUnderscores_mendName h (map_toLower_upperCamel h.ascii)

lemma withoutUnderscores_fieldName (h : IsAsciiName name) :
    withoutUnderscores (fieldName name) = lettering name :=
  withoutUnderscores_mendName h (map_toLower_lowerCamel h.ascii)

namespace ToldApart

variable {a b : String}

lemma className_ne (h : ToldApart a b) : className a ≠ className b := by
  intro heq
  apply h.lettering_ne
  rw [← withoutUnderscores_className h.left, heq, withoutUnderscores_className h.right]

lemma fieldName_ne (h : ToldApart a b) : fieldName a ≠ fieldName b := by
  intro heq
  apply h.lettering_ne
  rw [← withoutUnderscores_fieldName h.left, heq, withoutUnderscores_fieldName h.right]

end ToldApart

end ClassGen
