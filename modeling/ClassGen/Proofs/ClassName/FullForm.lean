/-
# The full form of a class name, written and read

Reading a class name looks at every dot of the text, cuts it at the last one, and joins nothing
back; writing a class name in full puts one dot, or none for a class without package.  On the class
names whose parts are made of identifiers the two are inverse to each other, and these are the class
names that reading gives (`ClassName.parse_full_inverse`).
-/
import ClassGen.Proofs.ClassName
import ClassGen.Proofs.Source.Path

namespace ClassGen.ClassName

open Text

/-- The text is a list of identifiers with dots between them: the last one is the simple name of the
class, and those before it are its package. -/
structure Lists (text : String) (c : ClassName) : Prop where
  not_empty : text ≠ ""
  identifiers : ∀ s ∈ segments text, isIdentifier s = true
  parts : ∃ front, segments text = front ++ [c.simple] ∧ c.package = joinDots front

/-- The package is empty or a dotted list of identifiers, and the simple name is an identifier. -/
structure IsProper (c : ClassName) : Prop where
  package : IsPackageName c.package
  simple : isIdentifier c.simple = true

instance (c : ClassName) : Decidable c.IsProper :=
  decidable_of_iff ((c.package = "" ∨ ∀ s ∈ segments c.package, isIdentifier s = true) ∧
      isIdentifier c.simple = true)
    ⟨fun h => ⟨h.1, h.2⟩, fun h => ⟨h.package, h.simple⟩⟩

variable {c : ClassName} {s text : String}

/-! ### Dotted lists of identifiers -/

lemma dot_not_mem_of_isIdentifier (h : isIdentifier s = true) : '.' ∉ s.toList :=
  not_mem_of_forall (isNameChar_of_isIdentifier h).2 (by decide)

/-- Neither a dot nor a character of an identifier is blank. -/
lemma trim_eq_self (h : ∀ piece ∈ segments text, isIdentifier piece = true) : trim text = text := by
  have hblank : ∀ ch ∈ text.toList, isBlank ch = false := by
    intro ch hch
    rcases eq_or_exists_mem_splitOn '.' hch with rfl | ⟨piece, hpiece, hmem⟩
    · decide
    · have hidentifier := h (String.ofList piece) (List.mem_map_of_mem hpiece)
      have hpart : isIdentifierPart ch = true :=
        (isIdentifierPart_of_isIdentifier hidentifier).2 ch (by simpa using hmem)
      by_contra hch
      rw [Bool.not_eq_false] at hch
      rw [isIdentifierPart_of_isBlank hch] at hpart
      cases hpart
  rw [trim, trimChars_of_forall_not_isBlank hblank, String.ofList_toList]

lemma segments_eq_singleton (h : '.' ∉ s.toList) : segments s = [s] := by
  rw [segments, splitOn_eq_singleton h]
  simp

lemma segments_append_dot (s t : String) :
    segments (s ++ "." ++ t) = segments s ++ segments t := by
  have hchars : (s ++ "." ++ t).toList = s.toList ++ '.' :: t.toList := by simp
  rw [segments, hchars, splitOn_append_cons, List.map_append]
  rfl

/-! ### The full form is read back -/

/-- The full form is cut at the dot that was put into it. -/
lemma cutAtLastDot_full (h : '.' ∉ c.simple.toList) : CutAtLastDot c.full.toList c := by
  obtain ⟨package, simple⟩ := c
  rw [full]
  split
  · rename_i hpackage
    obtain rfl : package = "" := hpackage
    simpa using CutAtLastDot.simple h
  · have hcut : CutAtLastDot (package.toList ++ '.' :: simple.toList)
        ⟨String.ofList package.toList, String.ofList simple.toList⟩ := .dotted h
    simpa using hcut

lemma IsProper.isIdentifier_of_mem_segments (h : c.IsProper) :
    ∀ piece ∈ segments c.full, isIdentifier piece = true := by
  have hsimple : segments c.simple = [c.simple] :=
    segments_eq_singleton (dot_not_mem_of_isIdentifier h.simple)
  rw [full]
  split
  · rw [hsimple, List.forall_mem_singleton]
    exact h.simple
  · rename_i hpackage
    have hfront := h.package.resolve_left hpackage
    rw [segments_append_dot, hsimple, List.forall_mem_append, List.forall_mem_singleton]
    exact ⟨hfront, h.simple⟩

lemma parse_full (h : c.IsProper) : parse c.full = .ok c := by
  have hsegments := h.isIdentifier_of_mem_segments
  rw [parse_eq_ok_iff, trim_eq_self hsegments]
  exact ⟨isDottedName_iff.2 hsegments, cutAtLastDot_full (dot_not_mem_of_isIdentifier h.simple)⟩

/-! ### What is read -/

lemma isProper_of_parse (h : parse s = .ok c) : c.IsProper := by
  obtain ⟨hdotted, hcut⟩ := parse_eq_ok_iff.1 h
  rw [isDottedName_iff] at hdotted
  refine ⟨?_, hdotted _ hcut.simple_mem_segments⟩
  rw [segments] at hdotted
  generalize (trim s).toList = word at hdotted hcut
  cases hcut with
  | simple => exact Or.inl rfl
  | dotted =>
    -- the segments of the package are those of the text but for the last one
    rw [splitOn_append_cons, List.map_append, List.forall_mem_append] at hdotted
    refine Or.inr fun piece hpiece => hdotted.1 piece ?_
    rwa [segments, String.toList_ofList] at hpiece

lemma parse_eq_ok_iff_lists : parse s = .ok c ↔ Lists (trim s) c := by
  have hparse : parse s = .ok c ↔
      isDottedName (trim s) = true ∧ ofSegments (segments (trim s)) = c := by
    simp only [parse]
    split
    · rename_i hdotted
      simp [hdotted]
    · rename_i hdotted
      simp [hdotted]
  rw [hparse, isDottedName_iff]
  constructor
  · rintro ⟨hidentifiers, rfl⟩
    refine ⟨?_, hidentifiers, ?_⟩
    · intro hempty
      rw [hempty] at hidentifiers
      exact absurd (hidentifiers "" (by decide)) (by decide)
    · obtain ⟨front, last, hconcat⟩ := List.eq_nil_or_concat (segments (trim s)) |>.resolve_left
        (segments_ne_nil _)
      rw [List.concat_eq_append] at hconcat
      refine ⟨front, ?_, ?_⟩
      · rw [hconcat, ofSegments, List.getLastD_concat]
      · rw [hconcat, ofSegments, List.dropLast_concat]
  · rintro ⟨-, hidentifiers, front, hsegments, hpackage⟩
    refine ⟨hidentifiers, ?_⟩
    rw [hsegments, ofSegments, List.dropLast_concat, List.getLastD_concat, ← hpackage]

/-- A text names a class as soon as it is not empty and its segments are identifiers. -/
lemma exists_parse_iff : (∃ c, parse s = .ok c) ↔
    trim s ≠ "" ∧ ∀ piece ∈ segments (trim s), isIdentifier piece = true := by
  constructor
  · rintro ⟨c, hc⟩
    have hlists := parse_eq_ok_iff_lists.1 hc
    exact ⟨hlists.not_empty, hlists.identifiers⟩
  · rintro ⟨-, hidentifiers⟩
    exact ⟨_, parse_eq_ok_iff.2 ⟨isDottedName_iff.2 hidentifiers, cutAtLastDot_ofSegments _⟩⟩

lemma full_inj {a b : ClassName} (ha : a.IsProper) (hb : b.IsProper) (h : a.full = b.full) :
    a = b := by
  have hparse : parse a.full = .ok b := h ▸ parse_full hb
  rw [parse_full ha, Except.ok.injEq] at hparse
  exact hparse

/-- **Reading class names and writing them in full are inverse to each other.**  A text names a
class exactly when what trimming leaves is a dotted list of identifiers, of which the last is the
simple name and the others the package, and its full form is that list again.  The class names that
are read are the proper ones; each of them is read back from its full form, so no two of them have
the same one. -/
theorem parse_full_inverse :
    (∀ s c, parse s = .ok c ↔ Lists (trim s) c) ∧
    (∀ s, (∃ c, parse s = .ok c) ↔
      trim s ≠ "" ∧ ∀ piece ∈ segments (trim s), isIdentifier piece = true) ∧
    (∀ s c, parse s = .ok c → c.full = trim s) ∧
    (∀ c, (∃ s, parse s = .ok c) ↔ c.IsProper) ∧
    (∀ c, c.IsProper → parse c.full = .ok c) ∧
    ∀ a b : ClassName, a.IsProper → b.IsProper → a.full = b.full → a = b := by
  refine ⟨?_, ?_, ?_, ?_, ?_, ?_⟩
  · exact fun s c => parse_eq_ok_iff_lists
  · exact fun s => exists_parse_iff
  · exact fun s c h => full_of_parse h
  · intro c
    constructor
    · rintro ⟨s, hs⟩
      exact isProper_of_parse hs
    · intro hc
      exact ⟨c.full, parse_full hc⟩
  · exact fun c h => parse_full h
  · exact fun a b ha hb h => full_inj ha hb h

/-- Without a segment before its dot the simple name is not read. -/
example : parse " .Point" = .error (.invalidName ".Point") := by decide

end ClassGen.ClassName
