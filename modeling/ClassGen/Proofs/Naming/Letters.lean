/-
# Letters in upper and lower case

Case mapping takes letters to texts that start with a letter, and leaves alone what is no letter.
What follows the first letter may be a mark: the capital of `ǰ` is `J` with a caron of its own, the
small letter of `İ` is `i` with a dot of its own.  `İ` is the only character whose lower case has
such a mark (`isIdentifierPart_of_mem_toLower_iff`).
-/
import Mathlib.Data.List.Sort
import Mathlib.Data.List.TakeWhile
import ClassGen.Proofs.Naming.Characters

namespace ClassGen

namespace Text

namespace Run

/-- The code points of a run. -/
def points (r : Run) : List Nat :=
  (List.range ((r.last - r.first) / r.step + 1)).map fun k => r.first + k * r.step

/-- Each number is held by one of the runs, when these are gone through once. -/
def allCover : List Run → List Nat → Bool
  | _, [] => true
  | [], _ :: _ => false
  | r :: rs, n :: ns => allCover rs ((n :: ns).dropWhile r.contains)

lemma mem_points {r : Run} {n : Nat} (h : r.contains n = true) : n ∈ r.points := by
  simp only [contains, Bool.and_eq_true, decide_eq_true_eq, beq_iff_eq] at h
  obtain ⟨⟨hfirst, hlast⟩, hstep⟩ := h
  have hle : (n - r.first) / r.step ≤ (r.last - r.first) / r.step :=
    Nat.div_le_div_right (by omega)
  have hmul : (n - r.first) / r.step * r.step = n - r.first :=
    Nat.div_mul_cancel (Nat.dvd_of_mod_eq_zero hstep)
  refine List.mem_map.2 ⟨(n - r.first) / r.step, List.mem_range.2 (by omega), ?_⟩
  rw [hmul]
  omega

lemma covers_of_allCover {rs : List Run} {ns : List Nat} (h : allCover rs ns = true) :
    ∀ n ∈ ns, covers rs n = true := by
  induction rs generalizing ns with
  | nil =>
    cases ns with
    | nil => simp
    | cons n ns => simp [allCover] at h
  | cons r rs ih =>
    cases ns with
    | nil => simp
    | cons n ns =>
      rw [allCover] at h
      intro m hm
      have hsplit : m ∈ (n :: ns).takeWhile r.contains ++ (n :: ns).dropWhile r.contains := by
        rwa [List.takeWhile_append_dropWhile]
      rcases List.mem_append.1 hsplit with hm | hm
      · have hr : r.contains m = true := List.mem_takeWhile_imp hm
        simp [covers, hr]
      · have hrest : covers rs m = true := ih h m hm
        rw [covers] at hrest ⊢
        rw [List.any_cons, hrest, Bool.or_true]

end Run

/-- The code points of letters, those of ASCII among them. -/
def letterRuns : List Run := ⟨0x41, 0x5A, 1⟩ :: ⟨0x61, 0x7A, 1⟩ :: alphabeticRuns

/-- The letters beyond ASCII have code points of characters. -/
lemma bounds_of_mem_alphabeticRuns {r : Run} (hr : r ∈ alphabeticRuns) :
    0x80 ≤ r.first ∧ (r.last < 0xD800 ∨ 0xE000 ≤ r.first ∧ r.last < 0x110000) := by
  have hall : alphabeticRuns.all (fun r => decide (0x80 ≤ r.first) && (decide (r.last < 0xD800) ||
      (decide (0xE000 ≤ r.first) && decide (r.last < 0x110000)))) = true := by
    decide +kernel
  simpa using List.all_eq_true.1 hall r hr

lemma isAlphabetic_ofNat {n : Nat} (h : Run.covers letterRuns n = true) :
    isAlphabetic (Char.ofNat n) = true := by
  simp only [letterRuns, Run.covers, List.any_cons, Bool.or_eq_true] at h
  rcases h with h | h | h
  · -- the ASCII letters are few
    have hall : (Run.points ⟨0x41, 0x5A, 1⟩).all (fun n => isAlphabetic (Char.ofNat n)) = true := by
      decide +kernel
    exact List.all_eq_true.1 hall n (Run.mem_points h)
  · have hall : (Run.points ⟨0x61, 0x7A, 1⟩).all (fun n => isAlphabetic (Char.ofNat n)) = true := by
      decide +kernel
    exact List.all_eq_true.1 hall n (Run.mem_points h)
  · obtain ⟨r, hr, hn⟩ := List.any_eq_true.1 h
    obtain ⟨hbeyond, hvalid⟩ := bounds_of_mem_alphabeticRuns hr
    have hbounds : r.first ≤ n ∧ n ≤ r.last := by
      simp only [Run.contains, Bool.and_eq_true, decide_eq_true_eq] at hn
      exact hn.1
    have hchar : n.isValidChar := by
      rcases hvalid with hvalid | hvalid
      · exact Or.inl (by omega)
      · exact Or.inr ⟨by omega, by omega⟩
    have htoNat : (Char.ofNat n).toNat = n := by
      rw [Char.ofNat, dif_pos hchar]
      rfl
    rw [isAlphabetic, htoNat, if_neg (by omega)]
    exact h

/-! ### The tables -/

/-- The tables map letters only, and to texts that start with a letter. -/
def mapsLetters (expansions : List (Nat × List Nat)) (shifts : List Shift) : Bool :=
  Run.allCover letterRuns (expansions.map (·.1)) &&
    Run.allCover letterRuns ((expansions.map fun e => e.2.headD 0).insertionSort (· ≤ ·)) &&
    Run.allCover letterRuns (shifts.flatMap (·.source.points)) &&
    Run.allCover letterRuns ((shifts.insertionSort fun s t => s.target ≤ t.target).flatMap fun s =>
      s.source.points.map fun n => s.target + (n - s.source.first))

lemma mapsLetters_upper : mapsLetters upperExpansions upperShifts = true := by
  decide +kernel

lemma mapsLetters_lower : mapsLetters lowerExpansions lowerShifts = true := by
  decide +kernel

/-- A character in upper or lower case: it stays, or it is a letter and its image is one, or starts
with one if the character is among the expanded ones. -/
inductive IsCased (expansions : List (Nat × List Nat)) (c : Char) : List Char → Prop
  | same : IsCased expansions c [c]
  | letter {d : Char} : isAlphabetic c = true → isAlphabetic d = true → IsCased expansions c [d]
  | expanded {d : Char} {ds : List Char} : isAlphabetic c = true → isAlphabetic d = true →
      c.toNat ∈ expansions.map (·.1) → IsCased expansions c (d :: ds)

lemma isCased_mapCase {expansions : List (Nat × List Nat)} {shifts : List Shift}
    (htables : mapsLetters expansions shifts = true) (c : Char) :
    IsCased expansions c ((mapCase expansions shifts c.toNat).map Char.ofNat) := by
  simp only [mapsLetters, Bool.and_eq_true] at htables
  obtain ⟨⟨⟨hkeys, hheads⟩, hsources⟩, htargets⟩ := htables
  have hletter : ∀ {n : Nat}, Run.covers letterRuns n = true → c.toNat = n →
      isAlphabetic c = true := by
    rintro n hn rfl
    rw [← Char.ofNat_toNat c]
    exact isAlphabetic_ofNat hn
  rw [mapCase]
  rcases hexpansion : expansions.find? (fun e => e.1 == c.toNat) with _ | ⟨n, image⟩
  · rw [hexpansion]
    rcases hshift : shifts.find? (fun s => s.source.contains c.toNat) with _ | s
    · have hsame : IsCased expansions c [c] := .same
      simpa [hshift] using hsame
    · have hs : s ∈ shifts := List.mem_of_find?_eq_some hshift
      have hc : c.toNat ∈ s.source.points := Run.mem_points (by simpa using List.find?_some hshift)
      have hsource := Run.covers_of_allCover hsources c.toNat (List.mem_flatMap.2 ⟨s, hs, hc⟩)
      have htarget := Run.covers_of_allCover htargets (s.target + (c.toNat - s.source.first))
        (List.mem_flatMap.2 ⟨s, (List.mem_insertionSort _).2 hs, List.mem_map.2 ⟨_, hc, rfl⟩⟩)
      simp only [hshift, List.map_cons, List.map_nil]
      exact .letter (hletter hsource rfl) (isAlphabetic_ofNat htarget)
  · rw [hexpansion]
    have he : (n, image) ∈ expansions := List.mem_of_find?_eq_some hexpansion
    have hc : n = c.toNat := by simpa using List.find?_some hexpansion
    have hkey : n ∈ expansions.map (·.1) := List.mem_map.2 ⟨_, he, rfl⟩
    have hhead := Run.covers_of_allCover hheads (image.headD 0)
      ((List.mem_insertionSort _).2 (List.mem_map.2 ⟨_, he, rfl⟩))
    cases image with
    | nil =>
      have hzero : Run.covers letterRuns 0 = false := by decide +kernel
      rw [List.headD_nil, hzero] at hhead
      cases hhead
    | cons m ms =>
      have hsource := Run.covers_of_allCover hkeys n hkey
      exact .expanded (hletter hsource hc.symm) (isAlphabetic_ofNat hhead) (hc ▸ hkey)

lemma isCased_ascii {f : Char → Char} {expansions : List (Nat × List Nat)}
    (hf : (List.range 0x80).all (fun n => f (Char.ofNat n) == Char.ofNat n ||
      (isAlphabetic (Char.ofNat n) && isAlphabetic (f (Char.ofNat n)))) = true) {c : Char}
    (hc : c.toNat < 0x80) : IsCased expansions c [f c] := by
  have hc' := List.all_eq_true.1 hf c.toNat (List.mem_range.2 hc)
  rw [Char.ofNat_toNat, Bool.or_eq_true, Bool.and_eq_true, beq_iff_eq] at hc'
  rcases hc' with hsame | ⟨hletter, himage⟩
  · rw [hsame]
    exact .same
  · exact .letter hletter himage

lemma isCased_toUpper (c : Char) : IsCased upperExpansions c (toUpper c) := by
  rw [toUpper]
  split
  · rename_i hascii
    exact isCased_ascii (f := Char.toUpper) (by decide +kernel) hascii
  · exact isCased_mapCase mapsLetters_upper c

lemma isCased_toLower (c : Char) : IsCased lowerExpansions c (toLower c) := by
  rw [toLower]
  split
  · rename_i hascii
    exact isCased_ascii (f := Char.toLower) (by decide +kernel) hascii
  · exact isCased_mapCase mapsLetters_lower c

end Text

end ClassGen
