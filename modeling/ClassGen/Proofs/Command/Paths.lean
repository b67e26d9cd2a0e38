/-
# The steps of a path

Taking the steps of a path one by one, from the root or from the working directory, leads to a
place.  The steps of a joined path are those of its two parts, the directory that holds a place is
reached by all steps but the last one, and the ancestors of a path are reached by the first steps of
it; each of these paths starts where the path itself does.  A source file is reached from the output
directory by a step for each segment of its package and one more (`Path.steps_sourcePath`).
-/
import ClassGen.Proofs.Source.Path

namespace ClassGen.Path

open Text

/-! ### Where steps lead -/

/-- The place that steps lead to from a place, whatever is found on the way. -/
def follow (place steps : List String) : List String := steps.foldl enter place

/-- The place that the path leads to from the working directory, whatever is found on the way. -/
def place (here : List String) (path : String) : List String :=
  follow (start here path) (steps path)

/-- The place is passed when the steps of the path are taken one by one, or it is where they lead
to. -/
def Passes (here : List String) (path : String) (place : List String) : Prop :=
  ∃ before, before <+: steps path ∧ follow (start here path) before = place

variable {here place above : List String} {path base package simple : String}

lemma follow_append (place as bs : List String) :
    follow place (as ++ bs) = follow (follow place as) bs :=
  List.foldl_append

/-- Without a step up the steps lead on from where they start. -/
lemma follow_of_down {as : List String} (h : ".." ∉ as) (place : List String) :
    follow place as = place ++ as := by
  induction as generalizing place with
  | nil => exact (List.append_nil place).symm
  | cons a as ih =>
    rw [List.mem_cons, not_or] at h
    obtain ⟨ha, has⟩ := h
    have hstep : enter place a = place ++ [a] := if_neg (Ne.symm ha)
    show follow (enter place a) as = place ++ a :: as
    rw [hstep, ih has, List.append_assoc]
    rfl

/-! ### Steps and parts -/

/-- The steps among the parts of a path. -/
def stepsOf (parts : List (List Char)) : List String :=
  (parts.filter fun p => !p.isEmpty && p != ['.']).map String.ofList

lemma stepsOf_append (ps qs : List (List Char)) :
    stepsOf (ps ++ qs) = stepsOf ps ++ stepsOf qs := by
  simp [stepsOf]

lemma steps_eq_stepsOf (path : String) : steps path = stepsOf (splitOn '/' path.toList) := rfl

lemma stepsOf_idle {part : List Char} (h : (part.isEmpty || part == ['.']) = true) :
    stepsOf [part] = [] := by
  rcases (Bool.or_eq_true _ _).mp h with h | h <;> simp_all [stepsOf]

lemma stepsOf_part {part : List Char} (h : ¬ (part.isEmpty || part == ['.']) = true) :
    stepsOf [part] = [String.ofList part] := by
  simp_all [stepsOf]

/-- A slash between two paths keeps their steps apart. -/
lemma steps_append_slash (base path : String) :
    steps (base ++ "/" ++ path) = steps base ++ steps path := by
  have hslash : (base ++ "/" ++ path).toList = base.toList ++ '/' :: path.toList := by simp
  rw [steps_eq_stepsOf, hslash, splitOn_append_cons, stepsOf_append]
  rfl

lemma steps_join (h : isAbsolute path = false) (base : String) :
    steps (join base path) = steps base ++ steps path := by
  rw [join, if_neg (ne_true_of_eq_false h)]
  split
  · rename_i h
    rcases h with rfl | h
    · have hnil : steps "" = [] := rfl
      rw [hnil, String.empty_append, List.nil_append]
    · -- the slash at the end of the base stands between the two
      obtain ⟨front, hfront⟩ : ∃ front, base.toList = front ++ ['/'] :=
        List.getLast?_eq_some_iff.1 h
      have hbase : base = String.ofList front ++ "/" ++ "" := by
        rw [← String.toList_inj, hfront]
        simp
      have hempty : steps "" = [] := rfl
      rw [hbase, steps_append_slash, hempty, String.append_empty, steps_append_slash,
        List.append_nil]
  · exact steps_append_slash base path

/-! ### Parts, last one first -/

lemma stepsOf_dropIdle (parts : List (List Char)) :
    stepsOf (dropIdle parts).reverse = stepsOf parts.reverse := by
  fun_induction dropIdle parts with
  | case1 => rfl
  | case2 => rfl
  | case3 part before _ hidle ih =>
    rw [ih, List.reverse_cons, stepsOf_append, stepsOf_idle hidle, List.append_nil]
  | case4 => rfl

lemma mem_of_mem_dropIdle {parts : List (List Char)} {part : List Char}
    (h : part ∈ dropIdle parts) : part ∈ parts := by
  fun_induction dropIdle parts with
  | case1 => exact h
  | case2 => exact h
  | case3 p before _ _ ih => exact List.mem_cons_of_mem p (ih h)
  | case4 => exact h

lemma splitOn_ofReversed {parts : List (List Char)} (h : ∀ part ∈ parts, '/' ∉ part)
    (hnil : parts ≠ []) (hroot : parts ≠ [[]]) :
    splitOn '/' (ofReversed parts).toList = parts.reverse := by
  have hslash : ∀ part ∈ parts.reverse, '/' ∉ part := fun part hpart =>
    h part (List.mem_reverse.1 hpart)
  rw [ofReversed, if_neg hroot, String.toList_ofList,
    splitOn_joinWith (List.reverse_ne_nil_iff.2 hnil) hslash]

lemma steps_ofReversed {parts : List (List Char)} (h : ∀ part ∈ parts, '/' ∉ part) :
    steps (ofReversed parts) = stepsOf parts.reverse := by
  by_cases hnil : parts = []
  · subst hnil
    rfl
  · by_cases hroot : parts = [[]]
    · subst hroot
      rfl
    · rw [steps_eq_stepsOf, splitOn_ofReversed h hnil hroot]

lemma dropLast_stepsOf (parts : List (List Char)) :
    (stepsOf parts.reverse).dropLast = stepsOf ((dropIdle parts).drop 1).reverse := by
  fun_induction dropIdle parts with
  | case1 => rfl
  | case2 first =>
    by_cases hidle : (first.isEmpty || first == ['.']) = true
    · rw [List.reverse_singleton, stepsOf_idle hidle]
      rfl
    · rw [List.reverse_singleton, stepsOf_part hidle]
      rfl
  | case3 part before _ hidle ih =>
    rw [List.reverse_cons, stepsOf_append, stepsOf_idle hidle, List.append_nil, ih]
  | case4 part before _ hstep =>
    rw [List.reverse_cons, stepsOf_append, stepsOf_part hstep, List.dropLast_concat]
    rfl

lemma stepsOf_partsBack (path : String) : stepsOf (partsBack path).reverse = steps path := by
  rw [partsBack, stepsOf_dropIdle, List.reverse_reverse, steps_eq_stepsOf]

lemma dropLast_steps (path : String) :
    (steps path).dropLast = stepsOf ((partsBack path).drop 1).reverse := by
  rw [partsBack, ← dropLast_stepsOf, List.reverse_reverse, steps_eq_stepsOf]

lemma slash_not_mem_partsBack (path : String) : ∀ part ∈ (partsBack path).drop 1, '/' ∉ part := by
  intro part hpart
  have hmem := mem_of_mem_dropIdle (List.mem_of_mem_drop hpart)
  exact not_mem_of_mem_splitOn (List.mem_reverse.1 hmem)

lemma slash_not_mem_parent (path : String) :
    ∀ part ∈ dropIdle ((partsBack path).drop 1), '/' ∉ part :=
  fun part hpart => slash_not_mem_partsBack path part (mem_of_mem_dropIdle hpart)

/-- All steps but the last one lead to the directory that holds the place. -/
lemma steps_parent (path : String) : steps (parent path) = (steps path).dropLast := by
  rw [parent, steps_ofReversed (slash_not_mem_parent path), stepsOf_dropIdle, dropLast_steps]

lemma prefix_of_mem_ancestorsOf {parts : List (List Char)} (h : ∀ part ∈ parts, '/' ∉ part)
    {p : String} (hp : p ∈ ancestorsOf parts) : steps p <+: stepsOf parts.reverse := by
  fun_induction ancestorsOf parts with
  | case1 => exact absurd hp List.not_mem_nil
  | case2 first =>
    obtain rfl := List.mem_singleton.1 hp
    have hsteps := steps_ofReversed h
    exact ⟨[], by rw [List.append_nil, hsteps]⟩
  | case3 part before _ hidle ih =>
    rw [List.reverse_cons, stepsOf_append, stepsOf_idle hidle, List.append_nil]
    exact ih (List.forall_mem_cons.1 h).2 hp
  | case4 part before _ hstep ih =>
    rcases List.mem_cons.1 hp with rfl | hp
    · have hsteps := steps_ofReversed h
      exact ⟨[], by rw [List.append_nil, hsteps]⟩
    · rw [List.reverse_cons, stepsOf_append]
      exact (ih (List.forall_mem_cons.1 h).2 hp).trans (List.prefix_append _ _)

/-- The first steps of a path lead to its ancestors. -/
lemma prefix_of_mem_ancestors {p : String} (hp : p ∈ ancestors path) : steps p <+: steps path := by
  rw [ancestors] at hp
  split at hp
  · exact absurd hp List.not_mem_nil
  · rcases List.mem_cons.1 hp with rfl | hp
    · exact List.prefix_rfl
    · have hprefix := prefix_of_mem_ancestorsOf (slash_not_mem_partsBack path) hp
      rw [← dropLast_steps] at hprefix
      exact hprefix.trans (List.dropLast_prefix _)

/-! ### Where a path starts -/

lemma start_congr {path' : String} (h : isAbsolute path = true ↔ isAbsolute path' = true) :
    start here path = start here path' := by
  simp only [start, h]

/-- An absolute path starts with an empty part. -/
lemma isAbsolute_iff : isAbsolute path = true ↔
    path ≠ "" ∧ (splitOn '/' path.toList).head? = some [] := by
  rcases hpath : path.toList with _ | ⟨c, cs⟩
  · obtain rfl : path = "" := String.toList_inj.1 hpath
    simp [isAbsolute]
  · have hne : path ≠ "" := by
      rintro rfl
      cases hpath
    by_cases hc : c = '/'
    · simp [isAbsolute, hpath, hne, splitOn, hc]
    · rcases hcs : splitOn '/' cs with _ | ⟨piece, pieces⟩
      · exact absurd hcs (splitOn_ne_nil '/' cs)
      · simp [isAbsolute, hpath, splitOn_cons_of_ne hc hcs, hc]

/-- Parts, given last one first, are those of an absolute path if the last of them is empty. -/
lemma isAbsolute_ofReversed {parts : List (List Char)} (h : ∀ part ∈ parts, '/' ∉ part) :
    isAbsolute (ofReversed parts) = true ↔ parts.getLast? = some [] := by
  by_cases hnil : parts = []
  · subst hnil
    decide
  · by_cases hroot : parts = [[]]
    · subst hroot
      decide
    · have hsplit := splitOn_ofReversed h hnil hroot
      have hne : ofReversed parts ≠ "" := by
        intro hempty
        rw [hempty] at hsplit
        exact hroot (List.reverse_eq_iff.1 hsplit.symm)
      rw [isAbsolute_iff, hsplit, List.head?_reverse]
      exact and_iff_right hne

lemma getLast?_dropIdle (parts : List (List Char)) :
    (dropIdle parts).getLast? = parts.getLast? := by
  fun_induction dropIdle parts with
  | case1 => rfl
  | case2 => rfl
  | case3 part before hbefore _ ih =>
    obtain ⟨next, rest, rfl⟩ := List.exists_cons_of_ne_nil hbefore
    rw [ih, List.getLast?_cons_cons]
  | case4 => rfl

lemma isAbsolute_iff_getLast? (h : path ≠ "") :
    isAbsolute path = true ↔ (partsBack path).getLast? = some [] := by
  rw [isAbsolute_iff, partsBack, getLast?_dropIdle, List.getLast?_reverse]
  exact and_iff_right h

/-- What stands before the last part, if anything does, starts where the path does. -/
lemma isAbsolute_iff_before (h : path ≠ "") (hbefore : (partsBack path).drop 1 ≠ []) :
    isAbsolute path = true ↔ ((partsBack path).drop 1).getLast? = some [] := by
  rw [isAbsolute_iff_getLast? h]
  rcases hparts : partsBack path with _ | ⟨part, _ | ⟨next, rest⟩⟩
  · exact absurd (by rw [hparts]; rfl) hbefore
  · exact absurd (by rw [hparts]; rfl) hbefore
  · rw [List.getLast?_cons_cons]
    rfl

/-- The only part of an absolute path is that of the root. -/
lemma isAbsolute_eq_false_of_step (h : steps path ≠ []) (hbefore : (partsBack path).drop 1 = []) :
    isAbsolute path = false := by
  have hpath : path ≠ "" := by
    rintro rfl
    exact h rfl
  rw [Bool.eq_false_iff, Ne, isAbsolute_iff_getLast? hpath]
  intro hlast
  rcases hparts : partsBack path with _ | ⟨part, rest⟩
  · simp [hparts] at hlast
  · obtain rfl : rest = [] := by simpa [hparts] using hbefore
    obtain rfl : part = [] := by simpa [hparts] using hlast
    rw [← stepsOf_partsBack, hparts] at h
    exact h rfl

/-- The directory that holds the place is reached from where the path starts. -/
lemma start_parent (here : List String) (h : steps path ≠ []) :
    start here (parent path) = start here path := by
  have hpath : path ≠ "" := by
    rintro rfl
    exact h rfl
  refine start_congr ?_
  rw [parent, isAbsolute_ofReversed (slash_not_mem_parent path), getLast?_dropIdle]
  by_cases hbefore : (partsBack path).drop 1 = []
  · rw [isAbsolute_eq_false_of_step h hbefore, hbefore]
    simp
  · exact (isAbsolute_iff_before hpath hbefore).symm

lemma isAbsolute_of_mem_ancestorsOf {parts : List (List Char)} (h : ∀ part ∈ parts, '/' ∉ part)
    {p : String} (hp : p ∈ ancestorsOf parts) :
    isAbsolute p = true ↔ parts.getLast? = some [] := by
  fun_induction ancestorsOf parts with
  | case1 => exact absurd hp List.not_mem_nil
  | case2 first =>
    obtain rfl := List.mem_singleton.1 hp
    exact isAbsolute_ofReversed h
  | case3 part before hbefore _ ih =>
    obtain ⟨next, rest, rfl⟩ := List.exists_cons_of_ne_nil hbefore
    rw [List.getLast?_cons_cons]
    exact ih (List.forall_mem_cons.1 h).2 hp
  | case4 part before hbefore _ ih =>
    rcases List.mem_cons.1 hp with rfl | hp
    · exact isAbsolute_ofReversed h
    · obtain ⟨next, rest, rfl⟩ := List.exists_cons_of_ne_nil hbefore
      rw [List.getLast?_cons_cons]
      exact ih (List.forall_mem_cons.1 h).2 hp

/-- The ancestors of a path are reached from where the path starts. -/
lemma start_of_mem_ancestors (here : List String) {p : String} (hp : p ∈ ancestors path) :
    start here p = start here path := by
  rw [ancestors] at hp
  split at hp
  · exact absurd hp List.not_mem_nil
  · rename_i hpath
    rcases List.mem_cons.1 hp with rfl | hp
    · rfl
    · have hbefore : (partsBack path).drop 1 ≠ [] := by
        intro hnil
        rw [hnil] at hp
        exact absurd hp List.not_mem_nil
      refine start_congr ?_
      rw [isAbsolute_iff_before hpath hbefore]
      exact isAbsolute_of_mem_ancestorsOf (slash_not_mem_partsBack path) hp

/-- A path passes its ancestors. -/
lemma passes_of_mem_ancestors (here : List String) {p : String} (hp : p ∈ ancestors path) :
    Passes here path (Path.place here p) :=
  ⟨steps p, prefix_of_mem_ancestors hp, by rw [Path.place, start_of_mem_ancestors here hp]⟩

lemma start_join (here : List String) (h : isAbsolute path = false) (base : String) :
    start here (join base path) = start here base := by
  refine start_congr ?_
  rw [join, if_neg (ne_true_of_eq_false h)]
  by_cases hbase : base = ""
  · subst hbase
    simpa [isAbsolute] using h
  · obtain ⟨c, cs, hcs⟩ := List.exists_cons_of_ne_nil (l := base.toList) (by simpa using hbase)
    split <;> simp [isAbsolute, hcs]

/-! ### The steps to a source file -/

lemma steps_of_leadsDown {part : String} (h : LeadsDown part.toList) (hslash : '/' ∉ part.toList) :
    steps part = [part] := by
  have hstep : ¬ (part.toList.isEmpty || part.toList == ['.']) = true := by
    simp [h.not_empty, h.not_here]
  rw [steps_eq_stepsOf, splitOn_eq_singleton hslash, stepsOf_part hstep, String.ofList_toList]

/-- A source file is reached by a step for each segment of its package, and one more. -/
lemma steps_sourcePath (hsimple : ∀ c ∈ simple.toList, isNameChar c = true) :
    steps (sourcePath package simple) = steps (slashed package) ++ [simple ++ ".java"] := by
  have hslash : '/' ∉ (simple ++ ".java").toList := by
    rw [String.toList_append, List.mem_append, not_or]
    exact ⟨not_mem_of_forall hsimple (by decide), by decide⟩
  have hlast := steps_of_leadsDown (leadsDown_fileName hsimple) hslash
  by_cases hempty : package = ""
  · subst hempty
    exact hlast
  · rw [sourcePath_eq hempty, String.append_assoc, steps_append_slash, hlast]

lemma Confined.steps_eq (h : Confined path) :
    steps path = (splitOn '/' path.toList).map String.ofList := by
  have hall : ∀ part ∈ splitOn '/' path.toList, (!part.isEmpty && part != ['.']) = true := by
    intro part hpart
    simp [(h.parts part hpart).not_empty, (h.parts part hpart).not_here]
  rw [steps_eq_stepsOf, stepsOf, List.filter_eq_self.2 hall]

lemma Confined.up_not_mem (h : Confined path) : ".." ∉ steps path := by
  intro hup
  rw [h.steps_eq, List.mem_map] at hup
  obtain ⟨part, hpart, hup⟩ := hup
  have hdots : part = ['.', '.'] := by
    rw [← String.toList_inj, String.toList_ofList] at hup
    exact hup
  exact (h.parts part hpart).not_up hdots

/-- Paths of places below a directory are told apart by their steps. -/
lemma Confined.eq_of_steps_eq {path' : String} (h : Confined path) (h' : Confined path')
    (hsteps : steps path = steps path') : path = path' := by
  rw [h.steps_eq, h'.steps_eq] at hsteps
  have hparts : splitOn '/' path.toList = splitOn '/' path'.toList := by
    have hlists := congrArg (List.map String.toList) hsteps
    simpa [Function.comp_def] using hlists
  rw [← String.toList_inj, ← joinWith_splitOn '/' path.toList, hparts, joinWith_splitOn]

/-- A path below a base leads on from the place of the base. -/
lemma Confined.place_join (h : Confined path) (here : List String) (base : String) :
    Path.place here (join base path) = Path.place here base ++ steps path := by
  rw [Path.place, start_join here h.relative, steps_join h.relative, follow_append,
    follow_of_down h.up_not_mem]
  rfl

/-- Two paths below a base do not lead to one place. -/
lemma Confined.eq_of_place_eq {path' : String} (h : Confined path) (h' : Confined path')
    (hplace : Path.place here (join base path) = Path.place here (join base path')) :
    path = path' := by
  rw [h.place_join, h'.place_join] at hplace
  exact h.eq_of_steps_eq h' (List.append_cancel_left hplace)

/-- The directories that lead to a source file are those that lead to its base, and below the base
one for each segment of the package. -/
lemma passes_parent_join_iff (hpackage : IsPackageName package)
    (hsimple : ∀ c ∈ simple.toList, isNameChar c = true) :
    Passes here (parent (join base (sourcePath package simple))) place ↔
      Passes here base place ∨ ∃ below, below <+: steps (slashed package) ∧
        place = Path.place here base ++ below := by
  have hconfined : Confined (sourcePath package simple) := confined_sourcePath hpackage hsimple
  have hfile : steps (join base (sourcePath package simple)) =
      (steps base ++ steps (slashed package)) ++ [simple ++ ".java"] := by
    rw [steps_join hconfined.relative, steps_sourcePath hsimple, List.append_assoc]
  have hup : ".." ∉ steps (slashed package) := by
    have hnot := hconfined.up_not_mem
    rw [steps_sourcePath hsimple, List.mem_append, not_or] at hnot
    exact hnot.1
  have hsteps : steps (parent (join base (sourcePath package simple))) =
      steps base ++ steps (slashed package) := by
    rw [steps_parent, hfile, List.dropLast_concat]
  have hstart : start here (parent (join base (sourcePath package simple))) = start here base := by
    rw [start_parent here (by simp [hfile]), start_join here hconfined.relative]
  rw [Passes, hsteps, hstart]
  constructor
  · rintro ⟨before, hbefore, rfl⟩
    -- either the base is still on the way, or it is passed
    rcases List.prefix_or_prefix_of_prefix hbefore (List.prefix_append _ _) with hbase | hbase
    · exact Or.inl ⟨before, hbase, rfl⟩
    · obtain ⟨below, rfl⟩ := hbase
      have hbelow : below <+: steps (slashed package) := (List.prefix_append_right_inj _).1 hbefore
      refine Or.inr ⟨below, hbelow, ?_⟩
      rw [follow_append, follow_of_down fun h => hup (hbelow.subset h)]
      rfl
  · rintro (⟨before, hbefore, hplace⟩ | ⟨below, hbelow, rfl⟩)
    · exact ⟨before, hbefore.trans (List.prefix_append _ _), hplace⟩
    · refine ⟨steps base ++ below, (List.prefix_append_right_inj _).2 hbelow, ?_⟩
      rw [follow_append, follow_of_down fun h => hup (hbelow.subset h)]
      rfl

end ClassGen.Path
