/-
# The characters of written types

The words of a written type are made of characters of identifiers and of dots, so the simple name
of a class in it holds characters of names only.  Rendered, a type adds marks of its own to these:
angle and square brackets, commas and spaces (`TypeRef.isCodeChar_of_mem_render`).
-/
import ClassGen.Proofs.Naming.Characters
import ClassGen.Proofs.TypeRef.Parse

namespace ClassGen

open Text TypeToken

/-- Can the character stand on a line of code that declares something without a body?  It is a
character of names, or one of the marks between them. -/
def isCodeChar (c : Char) : Bool :=
  isNameChar c || [' ', '.', ',', ';', '<', '>', '[', ']'].contains c

lemma isCodeChar_of_isNameChar {c : Char} (h : isNameChar c = true) : isCodeChar c = true := by
  simp [isCodeChar, h]

/-- Both parts of the name are made of characters of names; in the package there are dots, too. -/
structure ClassName.Plain (name : ClassName) : Prop where
  package : ∀ c ∈ name.package.toList, isNameChar c = true ∨ c = '.'
  simple : ∀ c ∈ name.simple.toList, isNameChar c = true

namespace ClassName

lemma plain_of_cutAtLastDot {word : List Char} {name : ClassName}
    (hword : ∀ c ∈ word, isNameChar c = true ∨ c = '.') (h : CutAtLastDot word name) :
    name.Plain := by
  cases h with
  | simple hdot =>
    refine ⟨by simp, fun c hc => ?_⟩
    rw [String.toList_ofList] at hc
    rcases hword c hc with h | rfl
    · exact h
    · exact absurd hc hdot
  | @dotted package simple hdot =>
    refine ⟨fun c hc => ?_, fun c hc => ?_⟩
    · rw [String.toList_ofList] at hc
      exact hword c (List.mem_append_left _ hc)
    · rw [String.toList_ofList] at hc
      rcases hword c (List.mem_append_right _ (List.mem_cons_of_mem _ hc)) with h | rfl
      · exact h
      · exact absurd hc hdot

lemma Plain.full {name : ClassName} (h : name.Plain) :
    ∀ c ∈ name.full.toList, isNameChar c = true ∨ c = '.' := by
  intro c hc
  rw [ClassName.full] at hc
  split at hc
  · exact Or.inl (h.simple c hc)
  · simp only [String.toList_append, List.mem_append] at hc
    rcases hc with (hc | hc) | hc
    · exact h.package c hc
    · exact Or.inr (by simpa using hc)
    · exact Or.inl (h.simple c hc)

end ClassName

namespace TypeRef

/-! ### Reading -/

lemma IsName.plain {word rest : List Char} {name : ClassName} (h : IsName word rest name) :
    name.Plain := by
  refine ClassName.plain_of_cutAtLastDot (fun c hc => ?_) h.cut
  have hword := h.chars c hc
  rw [isWordChar, Bool.or_eq_true, beq_iff_eq] at hword
  exact hword.imp_left isNameChar_of_isIdentifierPart

lemma Bracketed.classNames_eq {t u : TypeRef} {cs rest : List Char} (h : Bracketed t cs u rest) :
    u.classNames = t.classNames := by
  induction h with
  | done => rfl
  | pair _ _ _ _ ih => rw [ih, classNames]

mutual

/-- Every class name of a written type was read from a word of it. -/
lemma Spelled.exists_isName : ∀ {cs : List Char} {t : TypeRef} {rest : List Char},
    Spelled cs t rest → ∀ a ∈ t.classNames, ∃ word after, IsName word after a
  | _, _, _, .type _ hbase hbracketed => by
    rw [hbracketed.classNames_eq]
    exact hbase.exists_isName

lemma SpelledBase.exists_isName : ∀ {cs : List Char} {t : TypeRef} {rest : List Char},
    SpelledBase cs t rest → ∀ a ∈ t.classNames, ∃ word after, IsName word after a
  | _, _, _, .keyword p => by simp [classNames]
  | _, _, _, .plain hname => by
    rw [classNames, List.forall_mem_cons]
    exact ⟨⟨_, _, hname⟩, by simp [classNamesAll]⟩
  | _, _, _, .generic hname _ hargs => by
    rw [classNames, List.forall_mem_cons]
    exact ⟨⟨_, _, hname⟩, hargs.exists_isName⟩

lemma SpelledArgs.exists_isName : ∀ {cs : List Char} {ts : List TypeRef} {rest : List Char},
    SpelledArgs cs ts rest → ∀ a ∈ classNamesAll ts, ∃ word after, IsName word after a
  | _, _, _, .last harg _ _ => by
    rw [classNamesAll, List.forall_mem_append]
    exact ⟨harg.exists_isName, by simp [classNamesAll]⟩
  | _, _, _, .more harg _ _ hmore => by
    rw [classNamesAll, List.forall_mem_append]
    exact ⟨harg.exists_isName, hmore.exists_isName⟩

end

lemma exists_isName_of_parse {text : String} {t : TypeRef} (h : parse text = .ok t) :
    ∀ a ∈ t.classNames, ∃ word after, IsName word after a := by
  obtain ⟨rest, hspelled, -⟩ := spells_of_parse h
  exact hspelled.exists_isName

lemma forall_plain_of_parse {text : String} {t : TypeRef} (h : parse text = .ok t) :
    ∀ a ∈ t.classNames, a.Plain := by
  intro a ha
  obtain ⟨word, after, hname⟩ := exists_isName_of_parse h a ha
  exact hname.plain

mutual

lemma classNames_mapNames (f : ClassName → ClassName) :
    ∀ t : TypeRef, (mapNames f t).classNames = t.classNames.map f
  | primitive p => rfl
  | named name args => by
    rw [mapNames, classNames, classNames, classNamesAll_mapNamesAll f args, List.map_cons]
  | array element => by rw [mapNames, classNames, classNames, classNames_mapNames f element]

lemma classNamesAll_mapNamesAll (f : ClassName → ClassName) :
    ∀ ts : List TypeRef, classNamesAll (mapNamesAll f ts) = (classNamesAll ts).map f
  | [] => rfl
  | t :: ts => by
    rw [mapNamesAll, classNamesAll, classNamesAll, classNames_mapNames f t,
      classNamesAll_mapNamesAll f ts, List.map_append]

end

/-! ### Rendering -/

lemma isCodeChar_of_mem_keyword (p : Primitive) :
    ∀ c ∈ p.keyword.toList, isCodeChar c = true := by
  rw [← List.all_eq_true]
  cases p <;> decide

mutual

lemma isCodeChar_of_mem_render : ∀ {t : TypeRef}, (∀ a ∈ t.classNames, a.Plain) →
    ∀ c ∈ t.render.toList, isCodeChar c = true
  | primitive p, _ => isCodeChar_of_mem_keyword p
  | named name [], h => by
    rw [render]
    exact fun c hc => isCodeChar_of_isNameChar ((h name List.mem_cons_self).simple c hc)
  | named name (arg :: args), h => by
    rw [classNames, classNamesAll, List.forall_mem_cons, List.forall_mem_append] at h
    obtain ⟨hname, harg, hargs⟩ := h
    simp only [render, String.toList_append, List.forall_mem_append]
    refine ⟨⟨⟨⟨fun c hc => ?_, ?_⟩, ?_⟩, ?_⟩, ?_⟩
    · exact isCodeChar_of_isNameChar (hname.simple c hc)
    · simp [isCodeChar]
    · exact isCodeChar_of_mem_render harg
    · exact isCodeChar_of_mem_renderRest hargs
    · simp [isCodeChar]
  | array element, h => by
    simp only [render, String.toList_append, List.forall_mem_append]
    exact ⟨isCodeChar_of_mem_render h, by simp [isCodeChar]⟩

lemma isCodeChar_of_mem_renderRest : ∀ {ts : List TypeRef}, (∀ a ∈ classNamesAll ts, a.Plain) →
    ∀ c ∈ (renderRest ts).toList, isCodeChar c = true
  | [], _ => by simp [renderRest]
  | t :: ts, h => by
    rw [classNamesAll, List.forall_mem_append] at h
    obtain ⟨ht, hts⟩ := h
    simp only [renderRest, String.toList_append, List.forall_mem_append]
    exact ⟨⟨by simp [isCodeChar], isCodeChar_of_mem_render ht⟩, isCodeChar_of_mem_renderRest hts⟩

end

end TypeRef

end ClassGen
