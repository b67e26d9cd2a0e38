/-
# Class names and their full form

A class name is read from a text by cutting it at its last dot, and its full form is that text
again.
-/
import ClassGen.Model.ClassName
import ClassGen.Proofs.Text.Blank
import ClassGen.Proofs.Text.Split

namespace ClassGen.ClassName

open Text

/-- A text cut at its last dot: a package before it and a simple name after it.  A text without a
dot is a simple name. -/
inductive CutAtLastDot : List Char → ClassName → Prop
  | simple {word : List Char} : '.' ∉ word → CutAtLastDot word ⟨"", String.ofList word⟩
  | dotted {package simple : List Char} : '.' ∉ simple →
      CutAtLastDot (package ++ '.' :: simple) ⟨String.ofList package, String.ofList simple⟩

/-- Every text is cut at its last dot in one way only. -/
lemma CutAtLastDot.unique {word : List Char} {a b : ClassName} (ha : CutAtLastDot word a)
    (hb : CutAtLastDot word b) : a = b := by
  generalize hword : word = word' at hb
  cases ha with
  | simple hdot =>
    cases hb with
    | simple => rw [hword]
    | dotted => exact absurd (by simp [hword]) hdot
  | dotted hsimple =>
    cases hb with
    | simple hdot => exact absurd (by simp [← hword]) hdot
    | dotted hsimple' =>
      obtain ⟨rfl, rfl⟩ := append_cons_inj_of_not_mem hsimple hsimple' hword
      rfl

/-- The class name made from the segments of a text is the text cut at its last dot. -/
lemma cutAtLastDot_ofSegments (s : String) : CutAtLastDot s.toList (ofSegments (segments s)) := by
  have hjoin := joinDots_segments s
  rcases List.eq_nil_or_concat (segments s) with hnil | ⟨init, last, hconcat⟩
  · exact absurd hnil (segments_ne_nil s)
  · rw [List.concat_eq_append] at hconcat
    have hlast : '.' ∉ last.toList := not_mem_of_mem_segments (s := s) (by simp [hconcat])
    have hof : ofSegments (segments s) = ⟨joinDots init, last⟩ := by
      rw [hconcat, ofSegments, List.dropLast_concat, List.getLastD_concat]
    rw [hof]
    rw [hconcat] at hjoin
    -- without a segment before the last one there is no dot, else the last dot follows them all
    cases init with
    | nil =>
      have hs : s = last := by rw [← hjoin]; simp [joinDots]
      have hempty : joinDots [] = "" := rfl
      rw [hs, hempty]
      simpa using CutAtLastDot.simple hlast
    | cons first rest =>
      have hs : s = joinDots (first :: rest) ++ "." ++ last := by
        rw [← hjoin, joinDots, joinDots, String.intercalate_append_of_ne_nil (by simp) (by simp),
          String.intercalate_singleton]
      have hcut : CutAtLastDot ((joinDots (first :: rest)).toList ++ '.' :: last.toList)
          ⟨String.ofList (joinDots (first :: rest)).toList, String.ofList last.toList⟩ :=
        .dotted hlast
      rw [hs]
      simpa using hcut

/-- What stands after the last dot is the last segment. -/
lemma CutAtLastDot.simple_mem_segments {s : String} {name : ClassName}
    (h : CutAtLastDot s.toList name) : name.simple ∈ segments s := by
  rw [segments]
  generalize s.toList = word at h
  cases h with
  | simple hdot =>
    rw [splitOn_eq_singleton hdot]
    exact List.mem_singleton_self _
  | dotted hdot =>
    rw [splitOn_append_cons, splitOn_eq_singleton hdot, List.map_append]
    exact List.mem_append_right _ (List.mem_singleton_self _)

/-- A text names a class exactly when the segments of what trimming leaves are identifiers; the
name is the trimmed text cut at its last dot. -/
lemma parse_eq_ok_iff {s : String} {name : ClassName} :
    parse s = .ok name ↔ isDottedName (trim s) = true ∧ CutAtLastDot (trim s).toList name := by
  have hcut := cutAtLastDot_ofSegments (trim s)
  simp only [parse]
  split
  · rename_i hdotted
    simp only [Except.ok.injEq, hdotted, true_and]
    constructor
    · rintro rfl
      exact hcut
    · intro hname
      exact hcut.unique hname
  · rename_i hdotted
    simp [hdotted]

lemma isDottedName_iff {s : String} :
    isDottedName s = true ↔ ∀ piece ∈ segments s, isIdentifier piece = true := by
  simp [isDottedName]

/-- A dotted list of identifiers does not start with a dot. -/
lemma not_isDottedName_of_dot {s : String} {cs : List Char} (h : s.toList = '.' :: cs) :
    isDottedName s = false := by
  have hempty : "" ∈ segments s := by
    rw [segments, h, splitOn, if_pos rfl]
    exact List.mem_cons_self
  have hidentifier : isIdentifier "" = false := rfl
  rw [← Bool.not_eq_true, isDottedName_iff]
  intro hall
  rw [hall "" hempty] at hidentifier
  exact absurd hidentifier (by simp)

/-- The full form of a class name that was read is the trimmed text. -/
lemma full_of_parse {s : String} {name : ClassName} (h : parse s = .ok name) :
    name.full = trim s := by
  obtain ⟨hdotted, hcut⟩ := parse_eq_ok_iff.1 h
  generalize hword : (trim s).toList = word at hcut
  rw [← String.toList_inj, hword]
  cases hcut with
  | simple => simp [full]
  | @dotted package simple _ =>
    cases package with
    | nil => simp [not_isDottedName_of_dot hword] at hdotted
    | cons c package => simp [full]

lemma parse_trim (s : String) : parse (trim s) = parse s := by
  simp only [parse, trim_trim]

lemma parse_eq_error_iff {s : String} {e : NameError} :
    parse s = .error e ↔ isDottedName (trim s) = false ∧ e = .invalidName (trim s) := by
  simp only [parse]
  split
  · rename_i hdotted
    simp [hdotted]
  · rename_i hdotted
    simp [hdotted, eq_comm]

end ClassGen.ClassName
