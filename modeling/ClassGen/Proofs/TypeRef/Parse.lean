/-
# Reading a written type is deriving it

A text reads as a type exactly when the grammar spells that type with it
(`TypeRef.parse_eq_ok_iff_spells`).

Both directions follow the reader, with the depth bound of the recursion as the measure.  From a
reading to a derivation nothing has to be known of what follows.  From a derivation to a reading
the rest must close the type: the reader takes brackets and type arguments as long as it can.
-/
import ClassGen.Proofs.TypeRef.Basic
import ClassGen.Proofs.TypeRef.Tokens

namespace ClassGen

open Text TypeToken

namespace Primitive

lemma ofKeyword?_eq_some_iff {word : String} {p : Primitive} :
    ofKeyword? word = some p ↔ p.keyword = word := by
  constructor
  · intro h
    simpa using List.find?_some h
  · rintro rfl
    cases p <;> rfl

lemma ofKeyword?_eq_none_iff {word : String} :
    ofKeyword? word = none ↔ ∀ p : Primitive, p.keyword ≠ word := by
  rw [Option.eq_none_iff_forall_ne_some]
  exact forall_congr' fun p => not_congr ofKeyword?_eq_some_iff

lemma keyword_toList_ne_nil (p : Primitive) : p.keyword.toList ≠ [] := by
  cases p <;> decide

lemma isWordChar_of_mem_keyword (p : Primitive) : ∀ c ∈ p.keyword.toList, isWordChar c = true := by
  rw [← List.all_eq_true]
  cases p <;> rfl

end Primitive

namespace TypeRef

/-! ### From readings to derivations -/

lemma exists_of_scan_eq_mark_cons {cs : List Char} {c : Char} {tokens : List TypeToken}
    (h : scan cs = mark c :: tokens) :
    ∃ ws rest, cs = ws ++ c :: rest ∧ Blanks ws ∧ scan rest = tokens := by
  rcases scan_cases cs with ⟨-, hscan⟩ | ⟨ws, word, rest, -, -, -, -, hscan⟩ |
    ⟨ws, d, rest, rfl, hws, hscan⟩
  · rw [hscan] at h
    exact absurd h (by simp)
  · rw [hscan] at h
    exact absurd h (by simp)
  · rw [hscan] at h
    simp only [List.cons.injEq, mark.injEq] at h
    obtain ⟨rfl, hrest⟩ := h
    exact ⟨ws, rest, rfl, hws, hrest⟩

lemma exists_of_scan_eq_word_cons {cs word : List Char} {tokens : List TypeToken}
    (h : scan cs = .word word :: tokens) :
    ∃ ws rest, cs = ws ++ (word ++ rest) ∧ Blanks ws ∧ (∀ c ∈ word, isWordChar c = true) ∧
      Stops rest ∧ scan rest = tokens := by
  rcases scan_cases cs with ⟨-, hscan⟩ | ⟨ws, word', rest, rfl, hws, hchars, hstops, hscan⟩ |
    ⟨ws, d, rest, -, -, hscan⟩
  · rw [hscan] at h
    exact absurd h (by simp)
  · rw [hscan] at h
    simp only [List.cons.injEq, TypeToken.word.injEq] at h
    obtain ⟨rfl, hrest⟩ := h
    exact ⟨ws, rest, rfl, hws, hchars, hstops, hrest⟩
  · rw [hscan] at h
    exact absurd h (by simp)

lemma bracketed_of_readBrackets {text : String} {t u : TypeRef} {tokens left : List TypeToken}
    (h : readBrackets text t tokens = .ok (u, left)) {cs : List Char} (hcs : scan cs = tokens) :
    ∃ rest, scan rest = left ∧ Bracketed t cs u rest := by
  fun_induction readBrackets text t tokens generalizing cs with
  | case1 t rest hvoid => exact absurd h (by simp)
  | case2 t rest hvoid ih =>
    obtain ⟨ws, cs', rfl, hws, hcs'⟩ := exists_of_scan_eq_mark_cons hcs
    obtain ⟨ws', cs'', rfl, hws', hcs''⟩ := exists_of_scan_eq_mark_cons hcs'
    obtain ⟨rest', hleft, hbracketed⟩ := ih h hcs''
    have hne : t ≠ primitive .void := isVoid_eq_false_iff.1 (by simpa using hvoid)
    exact ⟨rest', hleft, .pair hws hws' hne hbracketed⟩
  | case3 => exact absurd h (by simp)
  | case4 =>
    simp only [Except.ok.injEq, Prod.mk.injEq] at h
    obtain ⟨rfl, rfl⟩ := h
    exact ⟨cs, hcs, .done⟩

/-- A longest run of characters of words is a name exactly when it is no keyword and reads as the
name of a class. -/
lemma isName_iff {word rest : List Char} {name : ClassName}
    (hword : ∀ c ∈ word, isWordChar c = true) (hrest : Stops rest) :
    IsName word rest name ↔ Primitive.ofKeyword? (String.ofList word) = none ∧
      ClassName.parse (String.ofList word) = .ok name := by
  have htrim : trim (String.ofList word) = String.ofList word := by
    have hblank : ∀ c ∈ word, isBlank c = false := fun c hc => isBlank_of_isWordChar (hword c hc)
    rw [trim, String.toList_ofList, trimChars_of_forall_not_isBlank hblank]
  rw [Primitive.ofKeyword?_eq_none_iff, ClassName.parse_eq_ok_iff, htrim, String.toList_ofList]
  constructor
  · intro h
    exact ⟨h.not_keyword, h.dotted, h.cut⟩
  · rintro ⟨hkeyword, hdotted, hcut⟩
    exact ⟨hword, hrest, hkeyword, hdotted, hcut⟩

variable {text : String} {fuel : Nat}

lemma spelled_of_readType_succ
    (ih : ∀ {cs args left}, readArgs text fuel (scan cs) = .ok (args, left) →
      ∃ rest, scan rest = left ∧ SpelledArgs cs args rest)
    {cs : List Char} {t : TypeRef} {left : List TypeToken}
    (h : readType text (fuel + 1) (scan cs) = .ok (t, left)) :
    ∃ rest, scan rest = left ∧ Spelled cs t rest := by
  rcases htokens : scan cs with _ | ⟨⟨word⟩ | ⟨c⟩, tokens⟩
  · rw [htokens] at h
    simp [readType] at h
  · obtain ⟨ws, cs', rfl, hws, hword, hstops, rfl⟩ := exists_of_scan_eq_word_cons htokens
    rw [htokens, readType] at h
    rcases hkeyword : Primitive.ofKeyword? (String.ofList word) with _ | p
    · rcases hparse : ClassName.parse (String.ofList word) with e | name
      · simp [hkeyword, hparse] at h
      · have hname := (isName_iff hword hstops).2 ⟨hkeyword, hparse⟩
        simp only [hkeyword, hparse] at h
        -- type arguments are read exactly where an opening angle bracket is next
        split at h
        · rename_i tokens' hmark
          obtain ⟨ws', cs'', rfl, hws', rfl⟩ := exists_of_scan_eq_mark_cons hmark
          rcases hargs : readArgs text fuel (scan cs'') with e | ⟨args, tokens''⟩
          · simp [hargs] at h
          · obtain ⟨after, rfl, hspelled⟩ := ih hargs
            simp only [hargs] at h
            obtain ⟨rest, hleft, hbracketed⟩ := bracketed_of_readBrackets h rfl
            exact ⟨rest, hleft, .type hws (.generic hname hws' hspelled) hbracketed⟩
        · obtain ⟨rest, hleft, hbracketed⟩ := bracketed_of_readBrackets h rfl
          exact ⟨rest, hleft, .type hws (.plain hname) hbracketed⟩
    · simp only [hkeyword] at h
      obtain ⟨rest, hleft, hbracketed⟩ := bracketed_of_readBrackets h rfl
      have hp : word = p.keyword.toList := by
        rw [Primitive.ofKeyword?_eq_some_iff.1 hkeyword, String.toList_ofList]
      exact ⟨rest, hleft, .type hws (hp ▸ .keyword p) hbracketed⟩
  · rw [htokens] at h
    simp [readType] at h

lemma spelledArgs_of_readArgs_succ
    (ihType : ∀ {cs t left}, readType text fuel (scan cs) = .ok (t, left) →
      ∃ rest, scan rest = left ∧ Spelled cs t rest)
    (ihArgs : ∀ {cs args left}, readArgs text fuel (scan cs) = .ok (args, left) →
      ∃ rest, scan rest = left ∧ SpelledArgs cs args rest)
    {cs : List Char} {args : List TypeRef} {left : List TypeToken}
    (h : readArgs text (fuel + 1) (scan cs) = .ok (args, left)) :
    ∃ rest, scan rest = left ∧ SpelledArgs cs args rest := by
  rw [readArgs] at h
  rcases htype : readType text fuel (scan cs) with e | ⟨arg, tokens⟩
  · simp [htype] at h
  · obtain ⟨cs', rfl, hspelled⟩ := ihType htype
    simp only [htype] at h
    split at h
    · exact absurd h (by simp)
    · rename_i hprimitive
      have harg : ∀ p, arg ≠ primitive p := isPrimitive_eq_false_iff.1 (by simpa using hprimitive)
      split at h
      · rename_i tokens' hmark
        obtain ⟨ws, cs'', rfl, hws, rfl⟩ := exists_of_scan_eq_mark_cons hmark
        rcases hargs : readArgs text fuel (scan cs'') with e | ⟨args', tokens''⟩
        · simp [hargs] at h
        · simp only [hargs, Except.ok.injEq, Prod.mk.injEq] at h
          obtain ⟨rfl, rfl⟩ := h
          obtain ⟨rest, hleft, hmore⟩ := ihArgs hargs
          exact ⟨rest, hleft, .more hspelled hws harg hmore⟩
      · rename_i tokens' hmark
        obtain ⟨ws, cs'', rfl, hws, rfl⟩ := exists_of_scan_eq_mark_cons hmark
        simp only [Except.ok.injEq, Prod.mk.injEq] at h
        obtain ⟨rfl, rfl⟩ := h
        exact ⟨cs'', rfl, .last hspelled hws harg⟩
      · exact absurd h (by simp)

/-- What is read is spelled, whatever follows. -/
lemma spelled_and_spelledArgs_of_read (text : String) (fuel : Nat) :
    (∀ {cs t left}, readType text fuel (scan cs) = .ok (t, left) →
      ∃ rest, scan rest = left ∧ Spelled cs t rest) ∧
    (∀ {cs args left}, readArgs text fuel (scan cs) = .ok (args, left) →
      ∃ rest, scan rest = left ∧ SpelledArgs cs args rest) := by
  induction fuel with
  | zero =>
    constructor
    · intro cs t left h
      simp [readType] at h
    · intro cs args left h
      simp [readArgs] at h
  | succ fuel ih =>
    obtain ⟨ihType, ihArgs⟩ := ih
    exact ⟨spelled_of_readType_succ ihArgs, spelledArgs_of_readArgs_succ ihType ihArgs⟩

/-! ### From derivations to readings -/

/-- What may follow a type: something that the reader does not take for a part of it. -/
structure Closes (rest : List Char) : Prop where
  stops : Stops rest
  no_brackets : (scan rest).head? ≠ some (mark '[')
  no_args : (scan rest).head? ≠ some (mark '<')

lemma closes_of_blanks {rest : List Char} (h : Blanks rest) : Closes rest := by
  have hscan := scan_eq_nil_of_blanks h
  exact ⟨by simpa using stops_blanks_append h stops_nil, by simp [hscan], by simp [hscan]⟩

lemma scan_blanks_mark {ws cs : List Char} {c : Char} (hws : Blanks ws)
    (hword : isWordChar c = false) (hblank : isBlank c = false) :
    scan (ws ++ c :: cs) = mark c :: scan cs := by
  rw [scan_blanks_append hws, scan_mark hword hblank]

lemma closes_of_mark {ws cs : List Char} {c : Char} (hws : Blanks ws)
    (hc : c = ',' ∨ c = '>') : Closes (ws ++ c :: cs) := by
  have hword : isWordChar c = false := by rcases hc with rfl | rfl <;> decide
  have hblank : isBlank c = false := by rcases hc with rfl | rfl <;> decide
  have hscan : scan (ws ++ c :: cs) = mark c :: scan cs := scan_blanks_mark hws hword hblank
  refine ⟨stops_blanks_append hws (stops_cons.2 hword), ?_, ?_⟩
  · rcases hc with rfl | rfl <;> simp [hscan]
  · rcases hc with rfl | rfl <;> simp [hscan]

lemma scan_pair {ws ws' cs : List Char} (hws : Blanks ws) (hws' : Blanks ws') :
    scan (ws ++ '[' :: (ws' ++ ']' :: cs)) = mark '[' :: mark ']' :: scan cs := by
  rw [scan_blanks_mark hws (by decide) (by decide), scan_blanks_mark hws' (by decide) (by decide)]

lemma readBrackets_of_head {text : String} {t : TypeRef} {tokens : List TypeToken}
    (h : tokens.head? ≠ some (mark '[')) : readBrackets text t tokens = .ok (t, tokens) := by
  unfold readBrackets
  split
  · exact absurd rfl h
  · exact absurd rfl h
  · rfl

lemma readBrackets_of_bracketed (text : String) {t u : TypeRef} {cs rest : List Char}
    (h : Bracketed t cs u rest) (hrest : (scan rest).head? ≠ some (mark '[')) :
    readBrackets text t (scan cs) = .ok (u, scan rest) ∧
      (scan rest).length ≤ (scan cs).length := by
  induction h with
  | done => exact ⟨readBrackets_of_head hrest, le_refl _⟩
  | pair hws hws' hvoid _ ih =>
    obtain ⟨hread, hlen⟩ := ih hrest
    rw [scan_pair hws hws', readBrackets, if_neg (by simp [isVoid_eq_false_iff.2 hvoid])]
    refine ⟨hread, ?_⟩
    simp only [List.length_cons]
    omega

/-- Brackets are no part of what stands before them. -/
lemma stops_and_no_args_of_bracketed {t u : TypeRef} {cs rest : List Char}
    (h : Bracketed t cs u rest) (hrest : Closes rest) :
    Stops cs ∧ (scan cs).head? ≠ some (mark '<') := by
  cases h with
  | done => exact ⟨hrest.stops, hrest.no_args⟩
  | pair hws hws' _ _ =>
    rw [scan_pair hws hws']
    exact ⟨stops_blanks_append hws (stops_cons.2 (by decide)), by simp⟩

lemma IsName.ne_nil {word rest : List Char} {name : ClassName} (h : IsName word rest name) :
    word ≠ [] := by
  rintro rfl
  exact absurd h.dotted (by decide)

lemma readType_succ_of_spelled
    (ih : ∀ {cs args rest}, SpelledArgs cs args rest → (scan cs).length + 1 < fuel →
      readArgs text fuel (scan cs) = .ok (args, scan rest) ∧
        (scan rest).length < (scan cs).length)
    {cs rest : List Char} {t : TypeRef} (h : Spelled cs t rest) (hrest : Closes rest)
    (hfuel : (scan cs).length < fuel + 1) :
    readType text (fuel + 1) (scan cs) = .ok (t, scan rest) ∧
      (scan rest).length < (scan cs).length := by
  cases h with
  | @type ws cs cs' _ t' _ hws hbase hbracketed =>
    obtain ⟨hstops, hargs⟩ := stops_and_no_args_of_bracketed hbracketed hrest
    obtain ⟨hread, hlen⟩ := readBrackets_of_bracketed text hbracketed hrest.no_brackets
    rw [scan_blanks_append hws] at hfuel ⊢
    -- the brackets or the rest end the word, so it is one token
    cases hbase with
    | keyword p =>
      have hkeyword : Primitive.ofKeyword? (String.ofList p.keyword.toList) = some p := by
        rw [String.ofList_toList, Primitive.ofKeyword?_eq_some_iff]
      rw [scan_word_append p.keyword_toList_ne_nil p.isWordChar_of_mem_keyword hstops, readType]
      simp only [hkeyword, List.length_cons]
      exact ⟨hread, by omega⟩
    | plain hname =>
      obtain ⟨hkeyword, hparse⟩ := (isName_iff hname.chars hname.longest).1 hname
      rw [scan_word_append hname.ne_nil hname.chars hstops, readType]
      simp only [hkeyword, hparse, List.length_cons]
      refine ⟨?_, by omega⟩
      -- a name without arguments must not be followed by any that the reader would take
      split
      · rename_i hmark
        exact absurd (by rw [hmark]; rfl) hargs
      · exact hread
    | generic hname hws' hspelled =>
      obtain ⟨hkeyword, hparse⟩ := (isName_iff hname.chars hname.longest).1 hname
      rw [scan_word_append hname.ne_nil hname.chars hname.longest,
        scan_blanks_mark hws' (by decide) (by decide)] at hfuel ⊢
      simp only [List.length_cons] at hfuel
      obtain ⟨hreadArgs, hlenArgs⟩ := ih hspelled (by omega)
      rw [readType]
      simp only [hkeyword, hparse, hreadArgs, List.length_cons]
      exact ⟨hread, by omega⟩

lemma readArgs_succ_of_spelledArgs
    (ihType : ∀ {cs t rest}, Spelled cs t rest → Closes rest → (scan cs).length < fuel →
      readType text fuel (scan cs) = .ok (t, scan rest) ∧ (scan rest).length < (scan cs).length)
    (ihArgs : ∀ {cs args rest}, SpelledArgs cs args rest → (scan cs).length + 1 < fuel →
      readArgs text fuel (scan cs) = .ok (args, scan rest) ∧
        (scan rest).length < (scan cs).length)
    {cs rest : List Char} {args : List TypeRef} (h : SpelledArgs cs args rest)
    (hfuel : (scan cs).length + 1 < fuel + 1) :
    readArgs text (fuel + 1) (scan cs) = .ok (args, scan rest) ∧
      (scan rest).length < (scan cs).length := by
  cases h with
  | last hspelled hws harg =>
    obtain ⟨hread, hlen⟩ := ihType hspelled (closes_of_mark hws (Or.inr rfl)) (by omega)
    rw [scan_blanks_mark hws (by decide) (by decide)] at hread hlen
    simp only [List.length_cons] at hlen
    rw [readArgs]
    simp only [hread, isPrimitive_eq_false_iff.2 harg]
    exact ⟨by simp, by omega⟩
  | more hspelled hws harg hmore =>
    obtain ⟨hread, hlen⟩ := ihType hspelled (closes_of_mark hws (Or.inl rfl)) (by omega)
    rw [scan_blanks_mark hws (by decide) (by decide)] at hread hlen
    simp only [List.length_cons] at hlen
    obtain ⟨hreadMore, hlenMore⟩ := ihArgs hmore (by omega)
    rw [readArgs]
    simp only [hread, isPrimitive_eq_false_iff.2 harg, hreadMore]
    exact ⟨by simp, by omega⟩

/-- What is spelled is read, when the bound is large enough and the rest closes the type. -/
lemma read_of_spelled_and_spelledArgs (text : String) (fuel : Nat) :
    (∀ {cs t rest}, Spelled cs t rest → Closes rest → (scan cs).length < fuel →
      readType text fuel (scan cs) = .ok (t, scan rest) ∧
        (scan rest).length < (scan cs).length) ∧
    (∀ {cs args rest}, SpelledArgs cs args rest → (scan cs).length + 1 < fuel →
      readArgs text fuel (scan cs) = .ok (args, scan rest) ∧
        (scan rest).length < (scan cs).length) := by
  -- a list of arguments is read before its first member, so it needs one more than its tokens
  induction fuel with
  | zero =>
    constructor
    · intro cs t rest _ _ hfuel
      exact absurd hfuel (by omega)
    · intro cs args rest _ hfuel
      exact absurd hfuel (by omega)
  | succ fuel ih =>
    obtain ⟨ihType, ihArgs⟩ := ih
    exact ⟨readType_succ_of_spelled ihArgs, readArgs_succ_of_spelledArgs ihType ihArgs⟩

/-! ### Whole texts -/

lemma spells_of_parse {t : TypeRef} (h : parse text = .ok t) : Spells text t := by
  rw [parse] at h
  rcases hread : readType text ((scan text.toList).length + 1) (scan text.toList) with
    e | ⟨u, _ | ⟨token, tokens⟩⟩
  · simp [hread] at h
  · simp only [hread, Except.ok.injEq] at h
    subst h
    obtain ⟨rest, hrest, hspelled⟩ := (spelled_and_spelledArgs_of_read text _).1 hread
    rcases scan_cases rest with ⟨hblanks, -⟩ | ⟨_, _, _, -, -, -, -, hscan⟩ |
      ⟨_, _, _, -, -, hscan⟩
    · exact ⟨rest, hspelled, hblanks⟩
    · exact absurd (hscan.symm.trans hrest) (by simp)
    · exact absurd (hscan.symm.trans hrest) (by simp)
  · simp [hread] at h

lemma parse_of_spells {t : TypeRef} (h : Spells text t) : parse text = .ok t := by
  obtain ⟨rest, hspelled, hblanks⟩ := h
  have hscan := scan_eq_nil_of_blanks hblanks
  obtain ⟨hread, -⟩ := (read_of_spelled_and_spelledArgs text _).1 hspelled
    (closes_of_blanks hblanks) (Nat.lt_succ_self _)
  rw [parse]
  simp only [Nat.succ_eq_add_one] at hread
  simp only [hread, hscan]

/-- **A text reads as a type exactly when it is a spelling of that type**, and a text that spells
no type is refused. -/
theorem parse_eq_ok_iff_spells (text : String) :
    (∀ t, parse text = .ok t ↔ Spells text t) ∧
      ((∃ e, parse text = .error e) ↔ ∀ t, ¬ Spells text t) := by
  have hiff : ∀ t, parse text = .ok t ↔ Spells text t :=
    fun t => ⟨spells_of_parse, parse_of_spells⟩
  refine ⟨hiff, ?_⟩
  constructor
  · rintro ⟨e, he⟩ t ht
    rw [← hiff, he] at ht
    exact absurd ht (by simp)
  · intro hnone
    rcases hparse : parse text with e | t
    · exact ⟨e, rfl⟩
    · exact absurd ((hiff t).1 hparse) (hnone t)

end TypeRef

end ClassGen
