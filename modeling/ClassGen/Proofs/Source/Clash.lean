/-
# The imports of a class, exactly

A class needs to import the mentioned classes that are of another package, unless that is the empty
one or `java.lang`.  It can import them all when their simple names differ from one another and from
its own; then the imports are the full names of just these classes, in ascending order.  Otherwise
it is refused for the first needed class whose simple name is taken, by the class itself or by a
needed class before it (`ClassDef.imports_iff_unambiguous`).

Nothing else of the class has a say in this.
-/
import ClassGen.Proofs.Model.Mentions
import ClassGen.Proofs.Source.Imports

namespace ClassGen

namespace ClassDef

/-- The class `c` needs to import the class `a`. -/
structure Needs (c : ClassDef) (a : ClassName) : Prop where
  mentioned : c.Mentions a
  package_ne_empty : a.package ≠ ""
  package_ne_lang : a.package ≠ "java.lang"
  package_ne_own : a.package ≠ c.name.package

/-- All needed classes can be imported: no two of them have one simple name, and none has that of
the class itself. -/
structure Unambiguous (c : ClassDef) : Prop where
  distinct : ∀ a b, c.Needs a → c.Needs b → a.simple = b.simple → a = b
  own : ∀ a, c.Needs a → a.simple ≠ c.name.simple

/-- The class `a` has the simple name of `b` and comes first: it is the class itself or a needed
one that is less than `b`. -/
structure Takes (c : ClassDef) (a b : ClassName) : Prop where
  earlier : a = c.name ∨ c.Needs a ∧ a.lt b = true
  simple : a.simple = b.simple

/-- The class `b` is the least needed one whose simple name is taken, and `a` takes it. -/
structure FirstClash (c : ClassDef) (a b : ClassName) : Prop where
  needed : c.Needs b
  takes : c.Takes a b
  least : ∀ a' b', c.Needs b' → b'.lt b = true → ¬ c.Takes a' b'

end ClassDef

/-! ### The scan for a clash -/

namespace ClassName

/-- A clash is found at the first name that has the simple name of one before it. -/
lemma clash?_eq_some_iff {seen as : List ClassName} {first second : ClassName} :
    clash? seen as = some (first, second) ↔ ∃ before after, as = before ++ second :: after ∧
      clash? seen before = none ∧
      (before.reverse ++ seen).find? (fun s => s.simple == second.simple) = some first := by
  induction as generalizing seen with
  | nil => simp [clash?]
  | cons a as ih =>
    rw [clash?]
    constructor
    · intro h
      rcases hfind : seen.find? (fun s => s.simple == a.simple) with _ | b
      · rw [hfind] at h
        obtain ⟨before, after, rfl, hbefore, hfirst⟩ := ih.1 h
        refine ⟨a :: before, after, rfl, ?_, by simpa using hfirst⟩
        simpa [clash?, hfind] using hbefore
      · rw [hfind, Option.some.injEq, Prod.mk.injEq] at h
        obtain ⟨rfl, rfl⟩ := h
        exact ⟨[], as, rfl, rfl, hfind⟩
    · rintro ⟨before, after, hsplit, hbefore, hfirst⟩
      -- either the clash is at `a`, or `a` is among the names before it
      cases before with
      | nil =>
        simp only [List.nil_append, List.cons.injEq] at hsplit
        obtain ⟨rfl, rfl⟩ := hsplit
        simp only [List.reverse_nil, List.nil_append] at hfirst
        rw [hfirst]
      | cons b before =>
        simp only [List.cons_append, List.cons.injEq] at hsplit
        obtain ⟨rfl, rfl⟩ := hsplit
        rw [clash?] at hbefore
        rcases hfind : seen.find? (fun s => s.simple == a.simple) with _ | b
        · rw [hfind] at hbefore
          simp only [hfind]
          exact ih.2 ⟨before, after, rfl, hbefore, by simpa using hfirst⟩
        · simp [hfind] at hbefore

end ClassName

namespace ClassDef

variable {c d : ClassDef} {a b : ClassName}

lemma mem_imported_iff_needs : a ∈ c.imported ↔ c.Needs a := by
  rw [mem_imported, mem_classNames, ClassName.needsImport_iff]
  constructor
  · rintro ⟨hmentioned, hempty, hlang, hown⟩
    exact ⟨hmentioned, hempty, hlang, hown⟩
  · intro h
    exact ⟨h.mentioned, h.package_ne_empty, h.package_ne_lang, h.package_ne_own⟩

lemma pairwise_imported (c : ClassDef) :
    c.imported.Pairwise fun a b => a.lt b = true :=
  ClassName.isOrder_lt.pairwise_ofList _

lemma clash?_eq_none_iff_unambiguous :
    ClassName.clash? [c.name] c.imported = none ↔ c.Unambiguous := by
  constructor
  · intro h
    refine ⟨fun a b ha hb hab => ?_, fun a ha hown => ?_⟩
    · exact eq_of_simple_eq h (Or.inr (mem_imported_iff_needs.2 ha))
        (Or.inr (mem_imported_iff_needs.2 hb)) hab
    · have ha' : a = c.name := eq_of_simple_eq h (Or.inr (mem_imported_iff_needs.2 ha))
        (Or.inl rfl) hown
      exact ha.package_ne_own (by rw [ha'])
  · intro h
    refine ClassName.clash?_eq_none_iff.2 ⟨fun s hs a ha hsimple => ?_, ?_⟩
    · rw [List.mem_singleton] at hs
      exact h.own a (mem_imported_iff_needs.1 ha) (by rw [← hsimple, hs])
    · refine c.pairwise_imported.imp_of_mem fun {a b} ha hb hlt hsimple => ?_
      have hab : a = b :=
        h.distinct a b (mem_imported_iff_needs.1 ha) (mem_imported_iff_needs.1 hb) hsimple
      exact ClassName.isOrder_lt.irrefl b (hab ▸ hlt)

/-! ### The first clash -/

/-- There is at most one first clash: the taken name is the least one, and it is taken by one class
only, or else a class that takes it would itself be taken before. -/
lemma FirstClash.unique {a' b' : ClassName} (h : c.FirstClash a b) (h' : c.FirstClash a' b') :
    a = a' ∧ b = b' := by
  have hb : b = b' := by
    rcases ClassName.isOrder_lt.lt_or_eq_or_gt b b' with hlt | heq | hgt
    · exact absurd h.takes (h'.least a b h.needed hlt)
    · exact heq
    · exact absurd h'.takes (h.least a' b' h'.needed hgt)
  subst hb
  have hsimple : a.simple = a'.simple := by rw [h.takes.simple, h'.takes.simple]
  refine ⟨?_, rfl⟩
  rcases h.takes.earlier with rfl | ⟨ha, hlt⟩ <;> rcases h'.takes.earlier with rfl | ⟨ha', hlt'⟩
  · rfl
  · exact absurd ⟨Or.inl rfl, hsimple⟩ (h.least c.name a' ha' hlt')
  · exact absurd ⟨Or.inl rfl, hsimple.symm⟩ (h.least c.name a ha hlt)
  · rcases ClassName.isOrder_lt.lt_or_eq_or_gt a a' with haa' | haa' | haa'
    · exact absurd ⟨Or.inr ⟨ha, haa'⟩, hsimple⟩ (h.least a a' ha' hlt')
    · exact haa'
    · exact absurd ⟨Or.inr ⟨ha', haa'⟩, hsimple.symm⟩ (h.least a' a ha hlt)

lemma FirstClash.not_unambiguous (h : c.FirstClash a b) : ¬ c.Unambiguous := by
  intro hun
  rcases h.takes.earlier with rfl | ⟨ha, hlt⟩
  · exact hun.own b h.needed h.takes.simple.symm
  · have hab : a = b := hun.distinct a b ha h.needed h.takes.simple
    exact ClassName.isOrder_lt.irrefl b (hab ▸ hlt)

lemma firstClash_of_clash? (h : ClassName.clash? [c.name] c.imported = some (a, b)) :
    c.FirstClash a b := by
  obtain ⟨before, after, hsplit, hbefore, hfirst⟩ := ClassName.clash?_eq_some_iff.1 h
  have hpair := c.pairwise_imported
  rw [hsplit, List.pairwise_append, List.pairwise_cons] at hpair
  obtain ⟨-, ⟨hafter, -⟩, hlt⟩ := hpair
  have hlt_b : ∀ x ∈ before, x.lt b = true := fun x hx => hlt x hx b List.mem_cons_self
  have hneeds : ∀ x, c.Needs x ↔ x ∈ before ∨ x = b ∨ x ∈ after := by
    intro x
    rw [← mem_imported_iff_needs, hsplit, List.mem_append, List.mem_cons]
  -- the needed classes below `b` are those before it, and these do not clash
  have hmem_before : ∀ x, c.Needs x → x.lt b = true → x ∈ before := by
    intro x hx hxb
    rcases (hneeds x).1 hx with hx | rfl | hx
    · exact hx
    · exact absurd hxb (ClassName.isOrder_lt.irrefl x)
    · exact absurd (ClassName.isOrder_lt.trans x b x hxb (hafter x hx))
        (ClassName.isOrder_lt.irrefl x)
  obtain ⟨hown, hdistinct⟩ := ClassName.clash?_eq_none_iff.1 hbefore
  refine ⟨(hneeds b).2 (Or.inr (Or.inl rfl)), ⟨?_, ?_⟩, ?_⟩
  · have hmem := List.mem_of_find?_eq_some hfirst
    rw [List.mem_append, List.mem_reverse, List.mem_singleton] at hmem
    rcases hmem with hmem | rfl
    · exact Or.inr ⟨(hneeds a).2 (Or.inl hmem), hlt_b a hmem⟩
    · exact Or.inl rfl
  · simpa using List.find?_some hfirst
  · rintro a' b' hb' hlt' ⟨rfl | ⟨ha', haa'⟩, hsimple⟩
    · exact hown c.name List.mem_cons_self b' (hmem_before b' hb' hlt') hsimple
    · have hmem : a' ∈ before :=
        hmem_before a' ha' (ClassName.isOrder_lt.trans a' b' b haa' hlt')
      have hne : a' ≠ b' := fun heq => ClassName.isOrder_lt.irrefl b' (heq ▸ haa')
      have hsymm : Std.Symm fun x y : ClassName => x.simple ≠ y.simple := ⟨fun _ _ h => h.symm⟩
      exact hdistinct.forall hmem (hmem_before b' hb' hlt') hne hsimple

lemma clash?_eq_some_iff_firstClash :
    ClassName.clash? [c.name] c.imported = some (a, b) ↔ c.FirstClash a b := by
  refine ⟨firstClash_of_clash?, fun h => ?_⟩
  rcases hclash : ClassName.clash? [c.name] c.imported with _ | ⟨a', b'⟩
  · exact absurd (clash?_eq_none_iff_unambiguous.1 hclash) h.not_unambiguous
  · obtain ⟨rfl, rfl⟩ := h.unique (firstClash_of_clash? hclash)
    rfl

/-! ### The imports -/

lemma imports_eq_error_iff {e : RenderError} :
    c.imports = .error e ↔ ∃ a b, c.FirstClash a b ∧ e = .nameClash c.name a b := by
  simp only [← clash?_eq_some_iff_firstClash, imports]
  rcases ClassName.clash? [c.name] c.imported with _ | ⟨a, b⟩
  · simp
  · simp [eq_comm]

lemma imports_eq_ok_iff {names : List String} :
    c.imports = .ok names ↔ c.Unambiguous ∧
      names = Ascending.ofList (fun s t => decide (s < t)) (c.imported.map (·.full)) := by
  simp only [← clash?_eq_none_iff_unambiguous, imports]
  rcases ClassName.clash? [c.name] c.imported with _ | ⟨a, b⟩
  · simp only [Except.ok.injEq, true_and]
    exact eq_comm
  · simp

lemma mem_of_imports {names : List String} (h : c.imports = .ok names) {s : String} :
    s ∈ names ↔ ∃ a, c.Needs a ∧ a.full = s := by
  rw [(imports_eq_ok_iff.1 h).2, Ascending.mem_ofList eq_of_not_string_lt, List.mem_map]
  simp only [mem_imported_iff_needs]

lemma pairwise_lt_of_imports {names : List String} (h : c.imports = .ok names) :
    names.Pairwise (· < ·) := by
  rw [(imports_eq_ok_iff.1 h).2]
  exact (isOrder_string_lt.pairwise_ofList _).imp fun hst => by simpa using hst

/-- Classes of one name that need the same classes import alike. -/
lemma imports_congr (hname : d.name = c.name) (hneeds : ∀ a, d.Needs a ↔ c.Needs a) :
    d.imports = c.imports := by
  have himported : d.imported = c.imported := by
    refine ClassName.isOrder_lt.eq_of_mem_iff d.pairwise_imported c.pairwise_imported fun a => ?_
    rw [mem_imported_iff_needs, mem_imported_iff_needs, hneeds]
  rw [imports, imports, himported, hname]

/-- **The imports of a class are exactly the classes that it needs.**  They are given when no simple
name stands for two classes, as full names in strictly ascending order; otherwise the class is
refused for its first clash.  Two classes of one name that need the same classes import alike,
whatever their members are. -/
theorem imports_iff_unambiguous (c : ClassDef) :
    ((∃ names, c.imports = .ok names) ↔ c.Unambiguous) ∧
    (∀ names, c.imports = .ok names →
      names.Pairwise (· < ·) ∧ ∀ s, s ∈ names ↔ ∃ a, c.Needs a ∧ a.full = s) ∧
    (∀ e, c.imports = .error e ↔ ∃ a b, c.FirstClash a b ∧ e = .nameClash c.name a b) ∧
    ∀ d : ClassDef, d.name = c.name → (∀ a, d.Needs a ↔ c.Needs a) → d.imports = c.imports := by
  refine ⟨?_, fun names h => ?_, fun e => imports_eq_error_iff, fun d => imports_congr⟩
  · simp only [imports_eq_ok_iff, exists_and_left, exists_eq, and_true]
  · exact ⟨pairwise_lt_of_imports h, fun s => mem_of_imports h⟩

/-- Of two clashes the one of the least class counts. -/
example :
    imports ⟨⟨"com.example", "Event"⟩, none,
      [⟨"source", .ofClass ⟨"org.example", "Event"⟩, none⟩,
        ⟨"times", .named ⟨"java.util", "List"⟩ [.array (.ofClass ⟨"java.util", "Date"⟩)], none⟩,
        ⟨"day", .ofClass ⟨"java.sql", "Date"⟩, none⟩], []⟩ =
    .error (.nameClash ⟨"com.example", "Event"⟩ ⟨"java.sql", "Date"⟩ ⟨"java.util", "Date"⟩) := by
  decide +kernel

end ClassDef

end ClassGen
