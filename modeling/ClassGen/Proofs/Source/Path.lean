/-
# Where a source file goes

The path of a source file has a part for each segment of the package and one for the class.  These
are identifiers and a generated name, so each part leads one step down: the file stays below the
directory of generated files (`Path.confined_sourcePath`), and in one package no two classes share
a path (`sourcePath_injective`).
-/
import ClassGen.Command.Path
import ClassGen.Proofs.Naming.Characters
import ClassGen.Proofs.Text.Split
import ClassGen.Source.File

namespace ClassGen

open Text

/-- The text can be the package of classes: it is the empty one, or its segments are identifiers. -/
def IsPackageName (package : String) : Prop :=
  package = "" ∨ ∀ s ∈ segments package, isIdentifier s = true

lemma IsPackageName.isNameChar_or_dot {package : String} (h : IsPackageName package) :
    ∀ c ∈ package.toList, isNameChar c = true ∨ c = '.' := by
  rcases h with rfl | h
  · simp
  · intro c hc
    rcases eq_or_exists_mem_splitOn '.' hc with hdot | ⟨piece, hpiece, hc⟩
    · exact Or.inr hdot
    · have hchars := (isNameChar_of_isIdentifier (h _ (List.mem_map_of_mem hpiece))).2
      rw [String.toList_ofList] at hchars
      exact Or.inl (hchars c hc)

namespace Path

/-- The part of a path leads one step down, and no mark or end of a path is in it. -/
structure LeadsDown (part : List Char) : Prop where
  not_empty : part ≠ []
  not_here : part ≠ ['.']
  not_up : part ≠ ['.', '.']
  no_backslash : '\\' ∉ part
  no_nul : Char.ofNat 0 ∉ part

/-- The path leads to a place below the directory that it is taken from. -/
structure Confined (path : String) : Prop where
  relative : isAbsolute path = false
  parts : ∀ part ∈ splitOn '/' path.toList, LeadsDown part

lemma leadsDown_of_chars {part : List Char} (hchars : ∀ c ∈ part, isNameChar c = true ∨ c = '.')
    (hname : ∃ c ∈ part, isNameChar c = true) : LeadsDown part := by
  obtain ⟨c, hc, hcname⟩ := hname
  have hdot : c ≠ '.' := by
    rintro rfl
    exact absurd hcname (by decide)
  refine ⟨?_, ?_, ?_, fun h => ?_, fun h => ?_⟩
  · rintro rfl
    exact absurd hc List.not_mem_nil
  · rintro rfl
    exact hdot (by simpa using hc)
  · rintro rfl
    exact hdot (by simpa using hc)
  · exact absurd (hchars _ h) (by decide)
  · exact absurd (hchars _ h) (by decide)

/-- An absolute path starts with an empty part. -/
lemma isAbsolute_eq_false {path : String} (h : [] ∉ splitOn '/' path.toList) :
    isAbsolute path = false := by
  rw [isAbsolute]
  rcases hpath : path.toList with _ | ⟨c, cs⟩
  · rfl
  · rw [hpath, splitOn] at h
    by_cases hc : c = '/'
    · simp [hc] at h
    · simpa using hc

lemma confined_of_parts {path : String} (h : ∀ part ∈ splitOn '/' path.toList, LeadsDown part) :
    Confined path :=
  ⟨isAbsolute_eq_false fun hnil => (h [] hnil).not_empty rfl, h⟩

end Path

/-- The text with slashes in place of dots. -/
def slashed (s : String) : String :=
  String.ofList (s.toList.map fun c => if c = '.' then '/' else c)

lemma toList_slashed (s : String) :
    (slashed s).toList = s.toList.map fun c => if c = '.' then '/' else c := by
  rw [slashed, String.toList_ofList]

lemma slashed_append (s t : String) : slashed (s ++ t) = slashed s ++ slashed t := by
  simp [slashed]

lemma slashed_eq_self {s : String} (h : '.' ∉ s.toList) : slashed s = s := by
  have hmap : (s.toList.map fun c => if c = '.' then '/' else c) = s.toList := by
    refine (List.map_congr_left fun c hc => ?_).trans (List.map_id _)
    refine if_neg fun hdot => h ?_
    rwa [← hdot]
  rw [slashed, hmap, String.ofList_toList]

/-- The parts of a text with slashes in place of dots are its segments. -/
lemma splitOn_slashed {s : String} (h : '/' ∉ s.toList) :
    (splitOn '/' (slashed s).toList).map String.ofList = segments s := by
  have hsep : ∀ c ∈ s.toList, (if c = '.' then '/' else c) = '/' ↔ c = '.' := by
    intro c hc
    have hslash : c ≠ '/' := fun hslash => h (hslash ▸ hc)
    by_cases hdot : c = '.' <;> simp [hdot, hslash]
  rw [toList_slashed, splitOn_map hsep, segments, List.map_map]
  refine List.map_congr_left fun piece hpiece => ?_
  have hdot : '.' ∉ (String.ofList piece).toList := by
    rw [String.toList_ofList]
    exact not_mem_of_mem_splitOn hpiece
  have hself := slashed_eq_self hdot
  rwa [slashed, String.toList_ofList] at hself

lemma sourcePath_eq {package simple : String} (h : package ≠ "") :
    sourcePath package simple = slashed package ++ "/" ++ simple ++ ".java" := by
  rw [sourcePath, if_neg h, slashed]

/-- The path is the full name with slashes in place of dots, and an ending. -/
lemma sourcePath_eq_slashed_full {name : ClassName} (h : '.' ∉ name.simple.toList) :
    sourcePath name.package name.simple = slashed name.full ++ ".java" := by
  rw [ClassName.full]
  by_cases hpackage : name.package = ""
  · rw [sourcePath, if_pos hpackage, if_pos hpackage, slashed_eq_self h]
  · have hdot : slashed "." = "/" := rfl
    rw [sourcePath_eq hpackage, if_neg hpackage, slashed_append, slashed_append, hdot,
      slashed_eq_self h]

lemma sourcePath_injective (package : String) : Function.Injective (sourcePath package) := by
  intro s t h
  by_cases hpackage : package = ""
  · rw [sourcePath, sourcePath, if_pos hpackage, if_pos hpackage] at h
    exact (String.append_left_inj _).1 h
  · rw [sourcePath_eq hpackage, sourcePath_eq hpackage] at h
    exact (String.append_right_inj _).1 ((String.append_left_inj _).1 h)

namespace Path

variable {package simple : String}

lemma leadsDown_fileName (h : ∀ c ∈ simple.toList, isNameChar c = true) :
    LeadsDown (simple ++ ".java").toList := by
  rw [String.toList_append]
  refine leadsDown_of_chars (List.forall_mem_append.2 ⟨fun c hc => Or.inl (h c hc), ?_⟩)
    ⟨'j', List.mem_append_right _ (by decide), by decide⟩
  simp [isNameChar]

lemma leadsDown_of_isIdentifier {s : String} (h : isIdentifier s = true) : LeadsDown s.toList := by
  obtain ⟨hnil, hchars⟩ := isNameChar_of_isIdentifier h
  obtain ⟨c, hc⟩ := List.exists_mem_of_ne_nil _ hnil
  exact leadsDown_of_chars (fun d hd => Or.inl (hchars d hd)) ⟨c, hc, hchars c hc⟩

/-- **A source file stays below the directory of generated files**, when the segments of its
package are identifiers and its class has a generated name. -/
lemma confined_sourcePath (hpackage : IsPackageName package)
    (hsimple : ∀ c ∈ simple.toList, isNameChar c = true) : Confined (sourcePath package simple) := by
  have hslash : '/' ∉ (simple ++ ".java").toList := by
    rw [String.toList_append, List.mem_append, not_or]
    exact ⟨not_mem_of_forall hsimple (by decide), by decide⟩
  have hlast : ∀ part ∈ splitOn '/' (simple ++ ".java").toList, LeadsDown part := by
    rw [splitOn_eq_singleton hslash, List.forall_mem_singleton]
    exact leadsDown_fileName hsimple
  by_cases hempty : package = ""
  · rw [sourcePath, if_pos hempty]
    exact confined_of_parts hlast
  · have hsegments := hpackage.resolve_left hempty
    have hslash : '/' ∉ package.toList := fun hmem =>
      absurd (hpackage.isNameChar_or_dot _ hmem) (by decide)
    -- the parts are the segments of the package, and the name of the file
    have hpath : (sourcePath package simple).toList =
        (slashed package).toList ++ '/' :: (simple ++ ".java").toList := by
      simp [sourcePath_eq hempty]
    refine confined_of_parts ?_
    rw [hpath, splitOn_append_cons, List.forall_mem_append]
    refine ⟨fun part hpart => ?_, hlast⟩
    have hpart := List.mem_map_of_mem (f := String.ofList) hpart
    rw [splitOn_slashed hslash] at hpart
    simpa using leadsDown_of_isIdentifier (hsegments _ hpart)

end Path

end ClassGen
