/-
# Taking a source text apart

The parts of a source text are told apart by little: a blank line, four or eight spaces, the last
mark of a line.  Still, when all names are identifiers, a text without comments can be taken apart
in one way only, for any number of members (`ClassDef.render_false_eq_iff`).

Everything is read back together with what follows it, from the first line to the last.  A part
that is repeated, such as the fields, ends where what follows starts with no such part
(`flatMap_append_inj`).
-/
import ClassGen.Proofs.Source.Written

namespace ClassGen

open Text

/-! ### Repeated parts -/

section Blocks

variable {α β : Type*}

/-- Blocks that are read back one by one are read back from all of them together, if what follows
starts with no block. -/
lemma flatMap_append_inj {block : α → List β} {xs ys : List α} {rest rest' : List β}
    (hblock : ∀ x ∈ xs, ∀ y ∈ ys, ∀ bs bs', block x ++ bs = block y ++ bs' → x = y ∧ bs = bs')
    (hrest : ∀ y ∈ ys, ∀ bs, rest ≠ block y ++ bs) (hrest' : ∀ x ∈ xs, ∀ bs, rest' ≠ block x ++ bs)
    (h : xs.flatMap block ++ rest = ys.flatMap block ++ rest') : xs = ys ∧ rest = rest' := by
  induction xs generalizing ys with
  | nil =>
    cases ys with
    | nil => exact ⟨rfl, h⟩
    | cons y ys =>
      rw [List.flatMap_cons, List.append_assoc] at h
      exact absurd h (hrest y List.mem_cons_self _)
  | cons x xs ih =>
    obtain ⟨hx, hxs⟩ := List.forall_mem_cons.1 hrest'
    cases ys with
    | nil =>
      rw [List.flatMap_cons, List.append_assoc] at h
      exact absurd h.symm (hx _)
    | cons y ys =>
      rw [List.flatMap_cons, List.append_assoc, List.flatMap_cons, List.append_assoc] at h
      obtain ⟨rfl, hmore⟩ := hblock x List.mem_cons_self y List.mem_cons_self _ _ h
      have hblock' : ∀ x ∈ xs, ∀ y ∈ ys, ∀ bs bs', block x ++ bs = block y ++ bs' →
          x = y ∧ bs = bs' :=
        fun x hx y hy => hblock x (List.mem_cons_of_mem _ hx) y (List.mem_cons_of_mem _ hy)
      obtain ⟨rfl, hafter⟩ :=
        ih hblock' (fun y hy => hrest y (List.mem_cons_of_mem _ hy)) hxs hmore
      exact ⟨rfl, hafter⟩

/-- Parts of one line each are read back, if the line after them is none of these. -/
lemma map_append_cons_inj {line : α → β} (hline : Function.Injective line) {xs ys : List α}
    {next next' : β} {rest rest' : List β} (hnext : ∀ y ∈ ys, next ≠ line y)
    (hnext' : ∀ x ∈ xs, next' ≠ line x)
    (h : xs.map line ++ next :: rest = ys.map line ++ next' :: rest') :
    xs = ys ∧ next = next' ∧ rest = rest' := by
  have hmap : ∀ zs : List α, zs.map line = zs.flatMap fun z => [line z] := by
    intro zs
    induction zs with
    | nil => rfl
    | cons z zs ih => rw [List.map_cons, ih, List.flatMap_cons, List.singleton_append]
  have hblock : ∀ x ∈ xs, ∀ y ∈ ys, ∀ bs bs', [line x] ++ bs = [line y] ++ bs' →
      x = y ∧ bs = bs' := by
    intro x _ y _ bs bs' hlines
    obtain ⟨hxy, hbs⟩ := List.cons.inj hlines
    exact ⟨hline hxy, hbs⟩
  have hstop : ∀ y ∈ ys, ∀ bs, next :: rest ≠ [line y] ++ bs :=
    fun y hy bs hlines => hnext y hy (List.cons.inj hlines).1
  have hstop' : ∀ x ∈ xs, ∀ bs, next' :: rest' ≠ [line x] ++ bs :=
    fun x hx bs hlines => hnext' x hx (List.cons.inj hlines).1
  rw [hmap, hmap] at h
  obtain ⟨hsame, hafter⟩ := flatMap_append_inj hblock hstop hstop' h
  exact ⟨hsame, List.cons.inj hafter⟩

end Blocks

/-! ### Reading a class back from its lines -/

/-- The parts of a field can be told apart on its line: its name has no space. -/
def WrittenField.IsPlain (f : WrittenField) : Prop := ' ' ∉ f.name.toList

/-- The lines of a method can be told apart: no annotation ends like the head. -/
def WrittenMethod.IsPlain (m : WrittenMethod) : Prop := ∀ a ∈ m.annotations, '\x7b' ∉ a.toList

/-- The members of the class can be told apart. -/
structure WrittenClass.IsPlain (w : WrittenClass) : Prop where
  fields : ∀ f ∈ w.fields, f.IsPlain
  methods : ∀ m ∈ w.methods, m.IsPlain

section Reading

variable {rest rest' : List String}

lemma WrittenField.lines_append_inj {f g : WrittenField} (hf : f.IsPlain) (hg : g.IsPlain)
    (h : f.lines ++ rest = g.lines ++ rest') : f = g ∧ rest = rest' := by
  obtain ⟨type, name⟩ := f
  obtain ⟨type', name'⟩ := g
  have hf : ' ' ∉ name.toList := hf
  have hg : ' ' ∉ name'.toList := hg
  simp only [lines, List.cons_append, List.nil_append, List.cons.injEq, true_and] at h
  obtain ⟨hline, hafter⟩ := h
  have hchars : type.toList ++ ' ' :: (name.toList ++ [';']) =
      type'.toList ++ ' ' :: (name'.toList ++ [';']) := by
    simpa using congrArg String.toList hline
  -- a type may hold spaces, so the line is cut at its last one
  obtain ⟨htype, hname⟩ := append_cons_inj_of_not_mem (by simp [hf]) (by simp [hg]) hchars
  obtain rfl : type = type' := String.toList_inj.1 htype
  obtain rfl : name = name' := String.toList_inj.1 (List.append_cancel_right hname)
  exact ⟨rfl, hafter⟩

/-- A line that opens a brace is no annotation. -/
lemma head_ne_annotation {head a : String} (ha : '\x7b' ∉ a.toList) :
    "    " ++ head ++ " \x7b" ≠ "    @" ++ a := by
  intro h
  have hmem : '\x7b' ∈ ("    @" ++ a).toList := by
    rw [← h]
    simp
  simp [ha] at hmem

lemma WrittenMethod.lines_append_inj {m n : WrittenMethod} (hm : m.IsPlain) (hn : n.IsPlain)
    (h : m.lines ++ rest = n.lines ++ rest') : m = n ∧ rest = rest' := by
  obtain ⟨annotations, head, statements⟩ := m
  obtain ⟨annotations', head', statements'⟩ := n
  simp only [lines, List.cons_append, List.append_assoc, List.nil_append, List.cons.injEq,
    true_and] at h
  have hindent : ∀ indent : String, Function.Injective (indent ++ ·) :=
    fun indent _ _ => (String.append_right_inj indent).1
  obtain ⟨rfl, hhead, hbody⟩ := map_append_cons_inj (hindent "    @")
    (fun a ha => head_ne_annotation (hn a ha)) (fun a ha => head_ne_annotation (hm a ha)) h
  obtain rfl : head = head' := by simpa using hhead
  -- a statement is indented further than the brace after the last one
  have hclose : ∀ s : String, "    \x7d" ≠ "        " ++ s := by
    intro s hs
    simpa using congrArg String.toList hs
  obtain ⟨rfl, -, hafter⟩ := map_append_cons_inj (hindent "        ") (fun s _ => hclose s)
    (fun s _ => hclose s) hbody
  exact ⟨rfl, hafter⟩

/-- A method is no field: what stands on its second line is an annotation or opens a brace. -/
lemma WrittenMethod.lines_append_ne (m : WrittenMethod) (f : WrittenField) :
    m.lines ++ rest ≠ f.lines ++ rest' := by
  obtain ⟨annotations, head, statements⟩ := m
  intro h
  simp only [lines, WrittenField.lines, List.cons_append, List.append_assoc, List.nil_append,
    List.cons.injEq, true_and] at h
  cases annotations with
  | nil =>
    have hline := congrArg (fun s => s.toList.reverse) (List.cons.inj h).1
    simp at hline
  | cons a annotations =>
    have hline := congrArg String.toList (List.cons.inj h).1
    simp at hline

/-- What stands after the last field starts with no field. -/
lemma methods_ne_field (ms : List WrittenMethod) (f : WrittenField) :
    ms.flatMap WrittenMethod.lines ++ ["\x7d"] ≠ f.lines ++ rest := by
  cases ms with
  | nil =>
    intro h
    have hline := congrArg String.toList (List.cons.inj h).1
    simp at hline
  | cons m ms =>
    rw [List.flatMap_cons, List.append_assoc]
    exact m.lines_append_ne f

/-- What stands after the package names no package. -/
lemma imports_ne_package (imports : List String) (simple package : String) :
    importLines imports ++ ("public class " ++ simple ++ " \x7b") :: rest ≠
      ("package " ++ package ++ ";") :: rest' := by
  intro h
  cases imports with
  | nil =>
    have hline := congrArg String.toList (List.cons.inj h).1
    simp at hline
  | cons i imports =>
    have hline := congrArg String.toList (List.cons.inj h).1
    simp at hline

lemma package_append_inj {package package' simple simple' : String} {imports imports' : List String}
    (h : packageLines package ++ (importLines imports ++
        ("public class " ++ simple ++ " \x7b") :: rest) =
      packageLines package' ++ (importLines imports' ++
        ("public class " ++ simple' ++ " \x7b") :: rest')) :
    package = package' ∧
      importLines imports ++ ("public class " ++ simple ++ " \x7b") :: rest =
        importLines imports' ++ ("public class " ++ simple' ++ " \x7b") :: rest' := by
  by_cases hempty : package = ""
  · by_cases hempty' : package' = ""
    · rw [packageLines, if_pos hempty, packageLines, if_pos hempty'] at h
      exact ⟨hempty.trans hempty'.symm, h⟩
    · rw [packageLines, if_pos hempty, packageLines, if_neg hempty'] at h
      exact absurd h (imports_ne_package imports simple package')
  · by_cases hempty' : package' = ""
    · rw [packageLines, if_neg hempty, packageLines, if_pos hempty'] at h
      exact absurd h.symm (imports_ne_package imports' simple' package)
    · rw [packageLines, if_neg hempty, packageLines, if_neg hempty'] at h
      simpa using h

lemma imports_append_inj {simple simple' : String} {imports imports' : List String}
    (h : importLines imports ++ ("public class " ++ simple ++ " \x7b") :: rest =
      importLines imports' ++ ("public class " ++ simple' ++ " \x7b") :: rest') :
    imports = imports' ∧ simple = simple' ∧ rest = rest' := by
  have himport : ∀ simple i, "public class " ++ simple ++ " \x7b" ≠ "import " ++ i ++ ";" := by
    intro simple i hline
    simpa using congrArg String.toList hline
  cases imports with
  | nil =>
    cases imports' with
    | nil => simpa [importLines] using h
    | cons i imports' => exact absurd (List.cons.inj h).1 (himport simple i)
  | cons i imports =>
    cases imports' with
    | nil => exact absurd (List.cons.inj h).1.symm (himport simple' i)
    | cons i' imports' =>
      have hline : Function.Injective fun i => "import " ++ i ++ ";" := fun i i' hi => by
        simpa using hi
      have hblank : ∀ i, "" ≠ "import " ++ i ++ ";" := by
        intro i hi
        simpa using congrArg String.toList hi
      have hlines : ∀ i imports, importLines (i :: imports) =
          (i :: imports).map (fun i => "import " ++ i ++ ";") ++ [""] :=
        fun _ _ => if_neg Bool.false_ne_true
      rw [hlines, hlines, List.append_assoc, List.append_assoc] at h
      obtain ⟨himports, -, hmore⟩ :=
        map_append_cons_inj hline (fun i _ => hblank i) (fun i _ => hblank i) h
      exact ⟨himports, by simpa using hmore⟩

/-- Plain classes are read back from their lines. -/
lemma WrittenClass.eq_of_lines_eq {w w' : WrittenClass} (hw : w.IsPlain) (hw' : w'.IsPlain)
    (h : w.lines = w'.lines) : w = w' := by
  obtain ⟨⟨package, simple⟩, imports, fields, methods⟩ := w
  obtain ⟨⟨package', simple'⟩, imports', fields', methods'⟩ := w'
  obtain ⟨rfl, himports⟩ := package_append_inj h
  obtain ⟨rfl, rfl, hmembers⟩ := imports_append_inj himports
  have hfield : ∀ f ∈ fields, ∀ g ∈ fields', ∀ ls ls' : List String,
      f.lines ++ ls = g.lines ++ ls' → f = g ∧ ls = ls' :=
    fun f hf g hg _ _ => WrittenField.lines_append_inj (hw.fields f hf) (hw'.fields g hg)
  obtain ⟨rfl, hmethods⟩ := flatMap_append_inj hfield (fun f _ _ => methods_ne_field methods f)
    (fun f _ _ => methods_ne_field methods' f) hmembers
  have hmethod : ∀ m ∈ methods, ∀ n ∈ methods', ∀ ls ls' : List String,
      m.lines ++ ls = n.lines ++ ls' → m = n ∧ ls = ls' :=
    fun m hm n hn _ _ => WrittenMethod.lines_append_inj (hw.methods m hm) (hw'.methods n hn)
  -- the closing brace of the class is no blank line, which every method starts with
  have hclose : ∀ (m : WrittenMethod) (ls : List String), ["\x7d"] ≠ m.lines ++ ls := by
    intro m ls hls
    exact absurd (List.cons.inj hls).1 (by decide)
  obtain ⟨rfl, -⟩ := flatMap_append_inj hmethod (fun m _ => hclose m) (fun m _ => hclose m) hmethods
  rfl

end Reading

/-! ### Texts -/

lemma unlines_inj {ls ls' : List String} (hls : ∀ l ∈ ls, '\n' ∉ l.toList)
    (hls' : ∀ l ∈ ls', '\n' ∉ l.toList) (h : unlines ls = unlines ls') : ls = ls' := by
  have hsplit := congrArg (splitOn '\n') h
  rw [splitOn_unlines hls, splitOn_unlines hls'] at hsplit
  exact List.map_injective_iff.2 (fun _ _ => String.toList_inj.1) (List.append_cancel_right hsplit)

namespace ClassDef

variable {c d : ClassDef} {imports : List String}

lemma IsProper.isPlain_asWritten (h : c.IsProper) (imports : List String) :
    (c.asWritten imports).IsPlain := by
  refine ⟨List.forall_mem_map.2 fun f hf => ?_, List.forall_mem_map.2 fun m hm => ?_⟩
  · exact not_mem_of_forall (isNameChar_of_isIdentifier (h.fields f hf)).2 (by decide)
  · refine List.forall_mem_map.2 fun a ha => ?_
    have hmentioned : a ∈ c.classNames := by
      refine mem_classNames.2 (.method hm (.marker ha))
    exact not_mem_of_forall (isNameChar_of_isIdentifier (h.mentioned a hmentioned).simple).2
      (by decide)

/-- **A source text without comments can be taken apart in one way only.**  Two classes whose names
are all identifiers have one text exactly when they have the same name, the same imports, the same
fields by the texts of their types and their names, and the same methods by the simple names of
their annotations, their heads and the texts of their statements, all in the same order. -/
theorem render_false_eq_iff (hc : c.IsProper) (hd : d.IsProper) {text text' : String}
    (htext : c.render false = .ok text) (htext' : d.render false = .ok text') :
    text = text' ↔ c.name = d.name ∧ c.imports = d.imports ∧
      c.fields.map Field.asWritten = d.fields.map Field.asWritten ∧
      c.methods.map Method.asWritten = d.methods.map Method.asWritten := by
  obtain ⟨imports, himports, hlines⟩ := exists_lines_of_render htext
  obtain ⟨imports', himports', hlines'⟩ := exists_lines_of_render htext'
  constructor
  · rintro rfl
    rw [hlines] at hlines'
    have hfeed : ∀ l ∈ (c.asWritten imports).lines, '\n' ∉ l.toList :=
      fun l hl => (hc.isLine_of_mem_lines himports l hl).no_feed
    have hfeed' : ∀ l ∈ (d.asWritten imports').lines, '\n' ∉ l.toList :=
      fun l hl => (hd.isLine_of_mem_lines himports' l hl).no_feed
    have hwritten : c.asWritten imports = d.asWritten imports' :=
      WrittenClass.eq_of_lines_eq (hc.isPlain_asWritten imports) (hd.isPlain_asWritten imports')
        (unlines_inj hfeed hfeed' hlines')
    simp only [asWritten, WrittenClass.mk.injEq] at hwritten
    obtain ⟨hname, rfl, hfields, hmethods⟩ := hwritten
    exact ⟨hname, himports.trans himports'.symm, hfields, hmethods⟩
  · rintro ⟨hname, hsame, hfields, hmethods⟩
    obtain rfl : imports = imports' := by
      rw [himports, himports', Except.ok.injEq] at hsame
      exact hsame
    apply String.toList_injective
    rw [hlines, hlines', asWritten, asWritten, hname, hfields, hmethods]

/-- A class whose members mention classes of that package, and a map. -/
def clockClass (package : String) : ClassDef :=
  ⟨⟨"com.example", "Clock"⟩, none,
    [⟨"zones", .named ⟨"java.util", "Map"⟩
      [.named ⟨package, "String"⟩ [], .array (.primitive .int)], none⟩],
    [⟨.public, .named ⟨package, "String"⟩ [], "show", [⟨.primitive .int, "hour"⟩],
      [⟨package, "Override"⟩], [.returns (.invoke ⟨package, "String"⟩ "valueOf" [.var "hour"])]⟩]⟩

/-- The text of the class does not show of which package the mentioned classes are, as long as they
need no import, and everything else is the same. -/
theorem render_false_clockClass :
    (clockClass "java.lang").IsProper ∧ (clockClass "").IsProper ∧
    ∃ text, (clockClass "java.lang").render false = .ok text ∧
      (clockClass "").render false = .ok text ∧
      (clockClass "java.lang").name = (clockClass "").name ∧
      (clockClass "java.lang").imports = (clockClass "").imports ∧
      (clockClass "java.lang").fields.map Field.asWritten =
        (clockClass "").fields.map Field.asWritten ∧
      (clockClass "java.lang").methods.map Method.asWritten =
        (clockClass "").methods.map Method.asWritten := by
  have hlang : (clockClass "java.lang").IsProper := by decide +kernel
  have hnone : (clockClass "").IsProper := by decide +kernel
  have hsame : (clockClass "java.lang").render false = (clockClass "").render false := by
    decide +kernel
  rcases htext : (clockClass "").render false with e | text
  · have hok : ((clockClass "").render false).isOk = true := by decide +kernel
    rw [htext] at hok
    cases hok
  · rw [htext] at hsame
    exact ⟨hlang, hnone, text, hsame, rfl, (render_false_eq_iff hlang hnone hsame htext).1 rfl⟩

end ClassDef

end ClassGen
