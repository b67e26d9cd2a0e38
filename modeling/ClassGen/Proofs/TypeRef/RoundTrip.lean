/-
# Reading the text of a type

The text of a type that was read shows simple names in place of full ones.  It reads back as the
type with all packages left out, as long as each simple name is read as a name again.  What stands in
the way is a class that is called by the keyword of a primitive type: a written type may mention it
by its full name, and its simple name is then taken for the primitive type.  Nothing else stands in
the way (`TypeRef.parse_render_eq_ok_iff`).

The proof is a derivation in the grammar for each rendered type.  As an array is written behind its
element, the derivation is built with the brackets that follow a type as a parameter.
-/
import ClassGen.Proofs.TypeRef.Characters
import ClassGen.Proofs.TypeRef.Rendering

namespace ClassGen

open Text TypeToken

namespace ClassName

/-- The class name without its package. -/
def bare (a : ClassName) : ClassName := ⟨"", a.simple⟩

/-- The simple name alone is read as the name of a class. -/
structure Readable (a : ClassName) : Prop where
  identifier : isIdentifier a.simple = true
  not_keyword : ∀ p : Primitive, p.keyword ≠ a.simple

/-- A name that is read without a package is the word that was read. -/
lemma CutAtLastDot.eq_simple {word : List Char} {a : ClassName} (h : CutAtLastDot word a)
    (hdotted : isDottedName (String.ofList word) = true) (hpackage : a.package = "") :
    String.ofList word = a.simple := by
  cases h with
  | simple => rfl
  | @dotted package simple hdot =>
    cases package with
    | nil =>
      have hdot : (String.ofList ([] ++ '.' :: simple)).toList = '.' :: simple := by simp
      rw [not_isDottedName_of_dot hdot] at hdotted
      exact absurd hdotted (by simp)
    | cons c package => exact absurd hpackage (by simp [← String.toList_inj])

end ClassName

namespace TypeRef

/-- The type can be written: no type argument is a bare primitive type, and there is no array of
`void`. -/
inductive Writable : TypeRef → Prop
  | primitive (p : Primitive) : Writable (.primitive p)
  | named {a : ClassName} {args : List TypeRef} : (∀ arg ∈ args, Writable arg) →
      (∀ arg ∈ args, ∀ p, arg ≠ .primitive p) → Writable (.named a args)
  | array {t : TypeRef} : Writable t → t ≠ .primitive .void → Writable (.array t)

variable {t u arg : TypeRef} {args ts : List TypeRef} {a : ClassName} {p : Primitive}
  {cs ws word rest : List Char} {text : String}

/-! ### What was read can be written -/

lemma Bracketed.writable (h : Bracketed t cs u rest) (ht : t.Writable) : u.Writable := by
  induction h with
  | done => exact ht
  | pair _ _ hvoid _ ih => exact ih (.array ht hvoid)

mutual

lemma Spelled.writable : ∀ {cs : List Char} {t : TypeRef} {rest : List Char}, Spelled cs t rest →
    t.Writable
  | _, _, _, .type _ hbase hbracketed => hbracketed.writable hbase.writable

lemma SpelledBase.writable : ∀ {cs : List Char} {t : TypeRef} {rest : List Char},
    SpelledBase cs t rest → t.Writable
  | _, _, _, .keyword p => .primitive p
  | _, _, _, .plain _ => .named (by simp) (by simp)
  | _, _, _, .generic _ _ hargs => .named (fun arg harg => (hargs.forall_writable arg harg).1)
      (fun arg harg => (hargs.forall_writable arg harg).2)

lemma SpelledArgs.forall_writable : ∀ {cs : List Char} {ts : List TypeRef} {rest : List Char},
    SpelledArgs cs ts rest → ∀ t ∈ ts, t.Writable ∧ ∀ p, t ≠ primitive p
  | _, _, _, .last harg _ hprimitive => by
    rw [List.forall_mem_singleton]
    exact ⟨harg.writable, hprimitive⟩
  | _, _, _, .more harg _ hprimitive hmore => by
    rw [List.forall_mem_cons]
    exact ⟨⟨harg.writable, hprimitive⟩, hmore.forall_writable⟩

end

/-! ### What is written reads as names -/

lemma mapNames_eq_primitive_iff {f : ClassName → ClassName} :
    t.mapNames f = primitive p ↔ t = primitive p := by
  cases t <;> simp [mapNames]

lemma isName_simple (ha : a.Readable) (hrest : Stops rest) : IsName a.simple.toList rest a.bare := by
  have hchars := (isIdentifierPart_of_isIdentifier ha.identifier).2
  have hdot : '.' ∉ a.simple.toList := not_mem_of_forall hchars (by decide)
  refine ⟨fun c hc => ?_, hrest, fun p => ?_, ?_, ?_⟩
  · rw [isWordChar, hchars c hc, Bool.true_or]
  · rw [String.ofList_toList]
    exact ha.not_keyword p
  · rw [String.ofList_toList, isDottedName, segments, splitOn_eq_singleton hdot]
    simpa using ha.identifier
  · have hcut := ClassName.CutAtLastDot.simple hdot
    rwa [String.ofList_toList] at hcut

lemma stops_renderRest_append (ts : List TypeRef) (rest : List Char) :
    Stops ((renderRest ts).toList ++ '>' :: rest) := by
  cases ts with
  | nil => exact stops_cons.2 (by decide)
  | cons t ts =>
    rw [toList_renderRest_cons_append]
    exact stops_cons.2 (by decide)

mutual

/-- The text of a type, with brackets after it, spells the type without packages. -/
lemma spelled_render : ∀ {t u : TypeRef} {ws cs rest : List Char}, t.Writable →
    (∀ a ∈ t.classNames, a.Readable) → Blanks ws → Stops cs →
    Bracketed (t.mapNames ClassName.bare) cs u rest →
    Spelled (ws ++ (t.render.toList ++ cs)) u rest
  | primitive p, _, _, _, _, _, _, hws, _, hbracketed => .type hws (.keyword p) hbracketed
  | named a [], _, _, _, _, _, ha, hws, hcs, hbracketed => by
    rw [render]
    exact .type hws (.plain (isName_simple (ha a List.mem_cons_self) hcs)) hbracketed
  | named a (arg :: args), u, ws, cs, rest, .named hargs hprimitive, ha, hws, hcs, hbracketed => by
    simp only [classNames, classNamesAll, List.forall_mem_cons, List.forall_mem_append] at ha
    obtain ⟨hname, hfirst, hrest⟩ := ha
    rw [List.forall_mem_cons] at hargs hprimitive
    have harg := spelled_render hargs.1 hfirst blanks_nil (stops_renderRest_append args cs) .done
    have hmore := spelledArgs_renderRest hargs.2 hprimitive.2 hrest harg
      (fun p h => hprimitive.1 p (mapNames_eq_primitive_iff.1 h))
    have hstops : Stops ('<' :: (arg.render.toList ++ ((renderRest args).toList ++ '>' :: cs))) :=
      stops_cons.2 (by decide)
    rw [toList_render_cons_append]
    exact .type hws (.generic (isName_simple hname hstops) blanks_nil hmore) hbracketed
  | array t, u, ws, cs, rest, .array ht hvoid, ha, hws, hcs, hbracketed => by
    have hvoid' : t.mapNames ClassName.bare ≠ primitive .void :=
      fun h => hvoid (mapNames_eq_primitive_iff.1 h)
    have hpair : Bracketed (t.mapNames ClassName.bare) ('[' :: ']' :: cs) u rest :=
      .pair blanks_nil blanks_nil hvoid' hbracketed
    rw [render, String.toList_append, List.append_assoc]
    exact spelled_render ht ha hws (stops_cons.2 (by decide)) hpair

/-- Type arguments are spelled by what follows the first one, whatever that one is. -/
lemma spelledArgs_renderRest : ∀ {ts : List TypeRef} {first : TypeRef} {cs rest : List Char},
    (∀ t ∈ ts, t.Writable) → (∀ t ∈ ts, ∀ p, t ≠ primitive p) →
    (∀ a ∈ classNamesAll ts, a.Readable) →
    Spelled cs first ((renderRest ts).toList ++ '>' :: rest) → (∀ p, first ≠ primitive p) →
    SpelledArgs cs (first :: mapNamesAll ClassName.bare ts) rest
  | [], _, _, _, _, _, _, hfirst, hprimitive => .last hfirst blanks_nil hprimitive
  | t :: ts, first, cs, rest, hts, hprimitives, ha, hfirst, hprimitive => by
    rw [List.forall_mem_cons] at hts hprimitives
    simp only [classNamesAll, List.forall_mem_append] at ha
    rw [toList_renderRest_cons_append] at hfirst
    have hspace : Blanks [' '] := blanks_cons.2 ⟨by decide, blanks_nil⟩
    have ht := spelled_render hts.1 ha.1 hspace (stops_renderRest_append ts rest) .done
    have hmore := spelledArgs_renderRest hts.2 hprimitives.2 ha.2 ht
      (fun p h => hprimitives.1 p (mapNames_eq_primitive_iff.1 h))
    exact .more hfirst blanks_nil hprimitive hmore

end

/-! ### Reading back -/

lemma parse_render_of_readable (ht : t.Writable) (ha : ∀ a ∈ t.classNames, a.Readable) :
    parse t.render = .ok (t.mapNames ClassName.bare) := by
  have hspelled : Spelled ([] ++ (t.render.toList ++ [])) (t.mapNames ClassName.bare) [] :=
    spelled_render ht ha blanks_nil stops_nil .done
  rw [List.nil_append, List.append_nil] at hspelled
  exact parse_of_spells ⟨[], hspelled, blanks_nil⟩

lemma isIdentifier_simple_of_parse (h : parse text = .ok t) :
    ∀ a ∈ t.classNames, isIdentifier a.simple = true := by
  intro a ha
  obtain ⟨word, after, hname⟩ := exists_isName_of_parse h a ha
  have hcut : ClassName.CutAtLastDot (String.ofList word).toList a := by
    rw [String.toList_ofList]
    exact hname.cut
  exact ClassName.isDottedName_iff.1 hname.dotted _ hcut.simple_mem_segments

/-- Where a text reads as a type without packages, no class in it has the name of a keyword. -/
lemma not_keyword_of_parse_bare (h : parse text = .ok (t.mapNames ClassName.bare)) :
    ∀ a ∈ t.classNames, ∀ p : Primitive, p.keyword ≠ a.simple := by
  intro a ha p hkeyword
  have hbare : a.bare ∈ (t.mapNames ClassName.bare).classNames := by
    rw [classNames_mapNames]
    exact List.mem_map_of_mem ha
  obtain ⟨word, after, hname⟩ := exists_isName_of_parse h a.bare hbare
  have hword : String.ofList word = a.simple := hname.cut.eq_simple hname.dotted rfl
  exact hname.not_keyword p (hkeyword.trans hword.symm)

/-- **The text of a type that was read reads back as that type without its packages exactly when no
class in it is called by the keyword of a primitive type.** -/
theorem parse_render_eq_ok_iff (h : parse text = .ok t) :
    parse t.render = .ok (t.mapNames ClassName.bare) ↔
      ∀ a ∈ t.classNames, ∀ p : Primitive, p.keyword ≠ a.simple := by
  constructor
  · exact not_keyword_of_parse_bare
  · intro hkeyword
    obtain ⟨rest, hspelled, -⟩ := spells_of_parse h
    refine parse_render_of_readable hspelled.writable fun a ha => ?_
    exact ⟨isIdentifier_simple_of_parse h a ha, hkeyword a ha⟩

/-- A table by keys of a class called `Int`, with lists of arrays. -/
def tableType : TypeRef :=
  .array (.named ⟨"java.util", "Map"⟩
    [.ofClass ⟨"com.example", "Int"⟩,
      .named ⟨"java.util", "List"⟩ [.array (.array (.primitive .int))]])

theorem parse_render_tableType :
    parse " java.util.Map<com.example.Int,java.util.List < int[ ] []>> [] " = .ok tableType ∧
      tableType.render = "Map<Int, List<int[][]>>[]" ∧
      parse tableType.render = .ok (tableType.mapNames ClassName.bare) := by
  have h : parse " java.util.Map<com.example.Int,java.util.List < int[ ] []>> [] " =
      .ok tableType := by decide +kernel
  have hnone : ∀ a ∈ tableType.classNames, Primitive.ofKeyword? a.simple = none := by decide
  have hback := (parse_render_eq_ok_iff h).2 fun a ha =>
    Primitive.ofKeyword?_eq_none_iff.1 (hnone a ha)
  exact ⟨h, by decide, hback⟩

/-- A class that is called `int` turns into the primitive type of that name, and where no primitive
type may stand the text cannot be read. -/
theorem not_parse_render_keyword :
    (parse "com.example.int" = .ok (.ofClass ⟨"com.example", "int"⟩) ∧
      parse (ofClass ⟨"com.example", "int"⟩).render = .ok (.primitive .int)) ∧
    (∃ t, parse "java.util.List<com.example.int>" = .ok t ∧
      parse t.render = .error (.invalidType "List<int>")) ∧
    ¬ ∀ text t, parse text = .ok t → parse t.render = .ok (t.mapNames ClassName.bare) := by
  have hread : parse "com.example.int" = .ok (.ofClass ⟨"com.example", "int"⟩) := by
    decide +kernel
  have hback : parse (ofClass ⟨"com.example", "int"⟩).render = .ok (.primitive .int) := by
    decide +kernel
  have hlist : parse "java.util.List<com.example.int>" =
      .ok (.named ⟨"java.util", "List"⟩ [.ofClass ⟨"com.example", "int"⟩]) := by decide +kernel
  refine ⟨⟨hread, hback⟩, ⟨_, hlist, by decide +kernel⟩, fun hall => ?_⟩
  have hbare := hall _ _ hread
  rw [hback] at hbare
  exact absurd hbare (by decide +kernel)

end TypeRef

end ClassGen
