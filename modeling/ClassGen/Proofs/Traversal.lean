/-
# Lists made member by member

A list of results is made from a list member by member, where every step sees the names of the
results before it and the first refusal ends the whole.  Two laws say what such a traversal does:

* `Traversal.run_eq_ok_iff`: when a step succeeds exactly for a new name, the whole succeeds
  exactly when all names are distinct and new;
* `Traversal.run_eq_error_iff_of_offence`: a refusal is the offence of one member, and what stands
  before it is made.
-/
import Mathlib.Data.List.Forall2
import Mathlib.Tactic.Common

namespace ClassGen.Traversal

variable {α β ε ν : Type}

/-- The results of the steps, from left to right, when results with the names `seen` stand before
them. -/
def run (step : List ν → α → Except ε β) (name : β → ν) (seen : List ν) :
    List α → Except ε (List β)
  | [] => .ok []
  | a :: as =>
    match step seen a with
    | .error e => .error e
    | .ok b =>
      match run step name (name b :: seen) as with
      | .error e => .error e
      | .ok bs => .ok (b :: bs)

variable {step : List ν → α → Except ε β} {name : β → ν} {seen : List ν}

lemma exists_forall₂_iff {Makes : α → β → Prop} {as : List α} :
    (∃ bs, List.Forall₂ Makes as bs) ↔ ∀ a ∈ as, ∃ b, Makes a b := by
  induction as with
  | nil => simp
  | cons a as ih =>
    rw [List.forall_mem_cons, ← ih]
    constructor
    · rintro ⟨_, hall⟩
      cases hall with
      | @cons _ b _ bs hfirst hrest => exact ⟨⟨b, hfirst⟩, bs, hrest⟩
    · rintro ⟨⟨b, hfirst⟩, bs, hrest⟩
      exact ⟨b :: bs, .cons hfirst hrest⟩

lemma exists_getElem?_of_forall₂ {R : α → β → Prop} {as : List α} {bs : List β}
    (h : List.Forall₂ R as bs) {i : Nat} {a : α} (ha : as[i]? = some a) :
    ∃ b, bs[i]? = some b ∧ R a b := by
  obtain ⟨hi, rfl⟩ := List.getElem?_eq_some_iff.1 ha
  have hi' : i < bs.length := h.length_eq ▸ hi
  exact ⟨bs[i], List.getElem?_eq_getElem hi', h.get hi hi'⟩

lemma exists_mem_of_forall₂ {R : α → β → Prop} {as : List α} {bs : List β}
    (h : List.Forall₂ R as bs) {b : β} (hb : b ∈ bs) : ∃ a ∈ as, R a b := by
  obtain ⟨i, hi⟩ := List.mem_iff_getElem?.1 hb
  have hflip : List.Forall₂ (flip R) bs as := h.flip
  obtain ⟨a, ha, hab⟩ := exists_getElem?_of_forall₂ hflip hi
  exact ⟨a, List.mem_of_getElem? ha, hab⟩

lemma map_eq_of_forall₂ {key : α → ν} {R : α → β → Prop} {as : List α} {bs : List β}
    (h : List.Forall₂ R as bs) (hname : ∀ a b, R a b → name b = key a) :
    bs.map name = as.map key := by
  induction h with
  | nil => rfl
  | cons hfirst _ ih => rw [List.map_cons, List.map_cons, ih, hname _ _ hfirst]

lemma run_cons_eq_ok_iff {a : α} {as : List α} {bs : List β} :
    run step name seen (a :: as) = .ok bs ↔
      ∃ b bs', bs = b :: bs' ∧ step seen a = .ok b ∧ run step name (name b :: seen) as = .ok bs' := by
  rw [run]
  rcases hstep : step seen a with e | b
  · simp
  · rcases hrest : run step name (name b :: seen) as with e | bs'
    · simp [hrest]
    · simp [hrest, eq_comm]

lemma run_cons_eq_error_iff {a : α} {as : List α} {e : ε} :
    run step name seen (a :: as) = .error e ↔
      step seen a = .error e ∨
        ∃ b, step seen a = .ok b ∧ run step name (name b :: seen) as = .error e := by
  rw [run]
  rcases hstep : step seen a with e' | b
  · simp
  · rcases hrest : run step name (name b :: seen) as with e' | bs'
    · simp [hrest]
    · simp [hrest]

/-- A traversal whose steps succeed exactly for new names succeeds exactly when the names are new
and distinct, and makes the results one by one. -/
lemma run_eq_ok_iff (key : α → ν) (Makes : α → β → Prop)
    (hstep : ∀ seen a b, step seen a = .ok b ↔ key a ∉ seen ∧ Makes a b)
    (hname : ∀ a b, Makes a b → name b = key a) {as : List α} {bs : List β} :
    run step name seen as = .ok bs ↔
      (∀ a ∈ as, key a ∉ seen) ∧ (as.map key).Nodup ∧ List.Forall₂ Makes as bs := by
  induction as generalizing seen bs with
  | nil => simp [run, eq_comm]
  | cons a as ih =>
    rw [run_cons_eq_ok_iff]
    constructor
    · rintro ⟨b, bs, rfl, hfirst, hrest⟩
      obtain ⟨hnew, hmakes⟩ := (hstep seen a b).1 hfirst
      obtain ⟨hseen, hnodup, hall⟩ := ih.1 hrest
      -- what is new after `b` is new before it, and not the name of `b`
      simp only [hname a b hmakes, List.mem_cons, not_or] at hseen
      refine ⟨?_, ?_, .cons hmakes hall⟩
      · exact List.forall_mem_cons.2 ⟨hnew, fun a' ha' => (hseen a' ha').2⟩
      · rw [List.map_cons, List.nodup_cons]
        refine ⟨?_, hnodup⟩
        rw [List.mem_map]
        rintro ⟨a', ha', hkey⟩
        exact (hseen a' ha').1 hkey
    · rintro ⟨hseen, hnodup, hall⟩
      obtain ⟨hnew, hseen⟩ := List.forall_mem_cons.1 hseen
      rw [List.map_cons, List.nodup_cons] at hnodup
      obtain ⟨hfirst, hnodup⟩ := hnodup
      cases hall with
      | @cons _ b _ bs hmakes hall =>
        refine ⟨b, bs, rfl, (hstep seen a b).2 ⟨hnew, hmakes⟩, ih.2 ⟨?_, hnodup, hall⟩⟩
        -- after `b` its own name is seen too, which the distinct names do not have again
        intro a' ha'
        rw [hname a b hmakes, List.mem_cons, not_or]
        exact ⟨fun hkey => hfirst (hkey ▸ List.mem_map_of_mem ha'), hseen a' ha'⟩

/-- A refusal is that of some member, after those before it have been made. -/
lemma run_eq_error_iff {as : List α} {e : ε} :
    run step name seen as = .error e ↔
      ∃ before a after bs, as = before ++ a :: after ∧ run step name seen before = .ok bs ∧
        step ((bs.map name).reverse ++ seen) a = .error e := by
  induction as generalizing seen with
  | nil => simp [run]
  | cons a as ih =>
    rw [run_cons_eq_error_iff]
    constructor
    · rintro (hfirst | ⟨b, hfirst, hrest⟩)
      · exact ⟨[], a, as, [], rfl, rfl, hfirst⟩
      · obtain ⟨before, a', after, bs, rfl, hbefore, hrefused⟩ := ih.1 hrest
        refine ⟨a :: before, a', after, b :: bs, rfl, ?_, ?_⟩
        · exact run_cons_eq_ok_iff.2 ⟨b, bs, rfl, hfirst, hbefore⟩
        · simpa using hrefused
    · rintro ⟨before, a', after, bs, hsplit, hbefore, hrefused⟩
      -- either the first member is the one refused, or it is made before the one refused
      cases before with
      | nil =>
        simp only [List.nil_append, List.cons.injEq] at hsplit
        obtain ⟨rfl, rfl⟩ := hsplit
        simp only [run, Except.ok.injEq] at hbefore
        subst hbefore
        exact Or.inl hrefused
      | cons first before =>
        simp only [List.cons_append, List.cons.injEq] at hsplit
        obtain ⟨rfl, rfl⟩ := hsplit
        obtain ⟨b, bs, rfl, hfirst, hrest⟩ := run_cons_eq_ok_iff.1 hbefore
        exact Or.inr ⟨b, hfirst, ih.2 ⟨before, a', after, bs, rfl, hrest, by simpa using hrefused⟩⟩

/-- The refusal is the offence of the first member that has one, if what a step refuses depends on
the names before it only. -/
lemma run_eq_error_iff_of_offence (key : α → ν) (Makes : α → β → Prop)
    (hstep : ∀ seen a b, step seen a = .ok b ↔ key a ∉ seen ∧ Makes a b)
    (hname : ∀ a b, Makes a b → name b = key a) {Offence : List α → α → ε → Prop}
    (hoffence : ∀ before seen a e, (∀ n, n ∈ seen ↔ n ∈ before.map key) →
      (step seen a = .error e ↔ Offence before a e)) {as : List α} {e : ε} :
    run step name [] as = .error e ↔
      ∃ before a after, as = before ++ a :: after ∧ (∃ bs, run step name [] before = .ok bs) ∧
        Offence before a e := by
  have hnames : ∀ {before bs}, run step name [] before = .ok bs →
      ∀ n, n ∈ (bs.map name).reverse ++ [] ↔ n ∈ before.map key := by
    intro before bs hbefore n
    have hmakes := ((run_eq_ok_iff key Makes hstep hname).1 hbefore).2.2
    simp [map_eq_of_forall₂ hmakes hname]
  rw [run_eq_error_iff]
  constructor
  · rintro ⟨before, a, after, bs, hsplit, hbefore, hrefused⟩
    rw [hoffence before _ a e (hnames hbefore)] at hrefused
    exact ⟨before, a, after, hsplit, ⟨bs, hbefore⟩, hrefused⟩
  · rintro ⟨before, a, after, hsplit, ⟨bs, hbefore⟩, hrefused⟩
    rw [← hoffence before _ a e (hnames hbefore)] at hrefused
    exact ⟨before, a, after, bs, hsplit, hbefore, hrefused⟩

end ClassGen.Traversal
