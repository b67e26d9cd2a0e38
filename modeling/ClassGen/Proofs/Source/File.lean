/-
# The files of a model and why it is refused

The files of a model stand for its classes one by one.  A model is refused for the first of its
classes that is refused.  The signatures of the methods of a class are looked at before its imports,
so a class is refused for a signature exactly when one of them is repeated, whatever its imports
are.
-/
import Mathlib.Data.List.Forall2
import Mathlib.Tactic.Common
import ClassGen.Proofs.Source.Clash
import ClassGen.Proofs.Traversal
import ClassGen.Source.File

namespace ClassGen

lemma Signature.firstRepeated?_eq_none_iff {seen signatures : List Signature} :
    firstRepeated? seen signatures = none ↔
      signatures.Nodup ∧ ∀ s ∈ signatures, s ∉ seen := by
  induction signatures generalizing seen with
  | nil => simp [firstRepeated?]
  | cons s rest ih =>
    by_cases hs : s ∈ seen
    · simp [firstRepeated?, hs]
    · have hcontains : seen.contains s = false := by simpa using hs
      rw [firstRepeated?, hcontains, if_neg Bool.false_ne_true, ih, List.nodup_cons,
        List.forall_mem_cons]
      constructor
      · rintro ⟨hnodup, hseen⟩
        have hrest : s ∉ rest := fun h => hseen s h List.mem_cons_self
        exact ⟨⟨hrest, hnodup⟩, hs, fun r hr h => hseen r hr (List.mem_cons_of_mem s h)⟩
      · rintro ⟨⟨hrest, hnodup⟩, -, hseen⟩
        refine ⟨hnodup, fun r hr h => ?_⟩
        rcases List.mem_cons.1 h with rfl | h
        · exact hrest hr
        · exact hseen r hr h

/-- A repeated signature is found at the first one that is among those before it. -/
lemma Signature.firstRepeated?_eq_some_iff {seen signatures : List Signature} {s : Signature} :
    firstRepeated? seen signatures = some s ↔ ∃ before after, signatures = before ++ s :: after ∧
      firstRepeated? seen before = none ∧ (s ∈ before ∨ s ∈ seen) := by
  induction signatures generalizing seen with
  | nil => simp [firstRepeated?]
  | cons r rest ih =>
    rw [firstRepeated?]
    constructor
    · intro h
      by_cases hr : r ∈ seen
      · have hs : r = s := by simpa [hr] using h
        subst hs
        exact ⟨[], rest, rfl, rfl, Or.inr hr⟩
      · have hrest : firstRepeated? (r :: seen) rest = some s := by simpa [hr] using h
        obtain ⟨before, after, rfl, hbefore, hs⟩ := ih.1 hrest
        refine ⟨r :: before, after, rfl, by simpa [firstRepeated?, hr] using hbefore, ?_⟩
        simp only [List.mem_cons] at hs ⊢
        tauto
    · rintro ⟨before, after, hsplit, hbefore, hs⟩
      -- either `r` is the repeated one, or it is among those before it
      cases before with
      | nil =>
        simp only [List.nil_append, List.cons.injEq] at hsplit
        obtain ⟨rfl, rfl⟩ := hsplit
        have hr : r ∈ seen := by simpa using hs
        simp [hr]
      | cons q before =>
        simp only [List.cons_append, List.cons.injEq] at hsplit
        obtain ⟨rfl, rfl⟩ := hsplit
        have hr : r ∉ seen := by
          intro hmem
          simp [firstRepeated?, hmem] at hbefore
        have hrest : firstRepeated? (r :: seen) (before ++ s :: after) = some s := by
          refine ih.2 ⟨before, after, rfl, by simpa [firstRepeated?, hr] using hbefore, ?_⟩
          simp only [List.mem_cons] at hs ⊢
          tauto
        simpa [hr] using hrest

namespace ClassDef

variable {comments : Bool} {c : ClassDef} {cs : List ClassDef} {e : RenderError}

lemma exists_imports_of_render {text : String} (h : c.render comments = .ok text) :
    ∃ imports, c.imports = .ok imports ∧
      text = Piece.renderAll ((c.pieces imports).filter fun p => comments || p.isCode) := by
  rw [render] at h
  split at h
  · exact absurd h (by simp)
  · rcases himports : c.imports with e | imports
    · simp [himports] at h
    · simp only [himports, Except.ok.injEq] at h
      exact ⟨imports, rfl, h.symm⟩

lemma render_eq_error_duplicateMethod_iff {cls : ClassName} {s : Signature} :
    c.render comments = .error (.duplicateMethod cls s) ↔
      cls = c.name ∧ Signature.firstRepeated? [] (c.methods.map (·.signature)) = some s := by
  rw [render]
  rcases hrepeated : Signature.firstRepeated? [] (c.methods.map (·.signature)) with _ | s'
  · rcases himports : c.imports with e | imports
    · obtain ⟨a, b, -, rfl⟩ := imports_eq_error_iff.1 himports
      simp [hrepeated]
    · simp [hrepeated]
  · simp [hrepeated, eq_comm]

lemma sourceFile_eq_error_iff :
    c.sourceFile comments = .error e ↔ c.render comments = .error e := by
  rw [sourceFile]
  rcases c.render comments with e' | text <;> simp

lemma exists_sourceFile_iff :
    (∃ file, c.sourceFile comments = .ok file) ↔ ∃ text, c.render comments = .ok text := by
  rw [sourceFile]
  rcases c.render comments with e' | text <;> simp

lemma sourceFile_eq_ok_iff {file : SourceFile} : c.sourceFile comments = .ok file ↔
    file.path = sourcePath c.name.package c.name.simple ∧
      c.render comments = .ok file.content := by
  obtain ⟨path, content⟩ := file
  rw [sourceFile]
  rcases c.render comments with e | text
  · simp
  · simp [eq_comm]

lemma sourceFiles_eq_ok_iff {files : List SourceFile} : sourceFiles comments cs = .ok files ↔
    List.Forall₂ (fun c file => c.sourceFile comments = .ok file) cs files := by
  induction cs generalizing files with
  | nil => simp [sourceFiles, eq_comm]
  | cons c cs ih =>
    rw [sourceFiles, List.forall₂_cons_left_iff]
    rcases hfile : c.sourceFile comments with e | file
    · simp
    · rcases hfiles : sourceFiles comments cs with e | rest
      · simp [← ih, hfiles]
      · simp only [← ih, hfiles, Except.ok.injEq]
        constructor
        · rintro rfl
          exact ⟨file, rest, rfl, rfl, rfl⟩
        · rintro ⟨_, _, rfl, rfl, rfl⟩
          rfl

lemma sourceFiles_eq_error_iff : sourceFiles comments cs = .error e ↔
    ∃ before c after, cs = before ++ c :: after ∧
      (∀ b ∈ before, ∃ text, b.render comments = .ok text) ∧ c.render comments = .error e := by
  induction cs with
  | nil => simp [sourceFiles]
  | cons c cs ih =>
    constructor
    · intro h
      rw [sourceFiles] at h
      rcases hfile : c.sourceFile comments with e' | file
      · rw [hfile] at h
        cases h
        exact ⟨[], c, cs, rfl, by simp, sourceFile_eq_error_iff.1 hfile⟩
      · rw [hfile] at h
        rcases hfiles : sourceFiles comments cs with e' | files
        · rw [hfiles] at h
          cases h
          obtain ⟨before, d, after, rfl, hbefore, hd⟩ := ih.1 hfiles
          have hc : ∃ text, c.render comments = .ok text := exists_sourceFile_iff.1 ⟨file, hfile⟩
          exact ⟨c :: before, d, after, rfl, List.forall_mem_cons.2 ⟨hc, hbefore⟩, hd⟩
        · rw [hfiles] at h
          cases h
    · rintro ⟨before, d, after, hsplit, hbefore, hd⟩
      cases before with
      | nil =>
        rw [List.nil_append, List.cons.injEq] at hsplit
        obtain ⟨rfl, rfl⟩ := hsplit
        rw [sourceFiles, sourceFile_eq_error_iff.2 hd]
      | cons b before =>
        rw [List.cons_append, List.cons.injEq] at hsplit
        obtain ⟨rfl, rfl⟩ := hsplit
        obtain ⟨hb, hbefore⟩ := List.forall_mem_cons.1 hbefore
        obtain ⟨file, hfile⟩ := exists_sourceFile_iff.2 hb
        rw [sourceFiles, hfile, ih.2 ⟨before, d, after, rfl, hbefore, hd⟩]

end ClassDef

/-- A model has source files exactly if each of its classes can be rendered. -/
lemma CodeModel.exists_sourceFiles_iff {m : CodeModel} {comments : Bool} :
    (∃ files, m.sourceFiles comments = .ok files) ↔
      ∀ c ∈ m.classes, ∃ text, c.render comments = .ok text := by
  constructor
  · rintro ⟨files, hfiles⟩ c hc
    have hall := (ClassDef.sourceFiles_eq_ok_iff.1 hfiles).flip
    obtain ⟨file, -, hfile⟩ := Traversal.exists_mem_of_forall₂ hall hc
    exact ⟨file.content, (ClassDef.sourceFile_eq_ok_iff.1 hfile).2⟩
  · intro h
    rcases hfiles : m.sourceFiles comments with e | files
    · obtain ⟨before, c, after, hsplit, -, hc⟩ := ClassDef.sourceFiles_eq_error_iff.1 hfiles
      obtain ⟨text, htext⟩ := h c (by simp [hsplit])
      rw [hc] at htext
      cases htext
    · exact ⟨files, rfl⟩

lemma CodeModel.sourceFiles_ne_duplicateMethod {m : CodeModel}
    (h : ∀ c ∈ m.classes, (c.methods.map (·.signature)).Nodup) (comments : Bool) (cls : ClassName)
    (s : Signature) : m.sourceFiles comments ≠ .error (.duplicateMethod cls s) := by
  intro herror
  obtain ⟨before, c, after, hsplit, -, hc⟩ := ClassDef.sourceFiles_eq_error_iff.1 herror
  have hmem : c ∈ m.classes := by
    rw [hsplit]
    exact List.mem_append_right before List.mem_cons_self
  have hnone := Signature.firstRepeated?_eq_none_iff.2 ⟨h c hmem, fun r _ => List.not_mem_nil⟩
  rw [(ClassDef.render_eq_error_duplicateMethod_iff.1 hc).2] at hnone
  cases hnone

end ClassGen
