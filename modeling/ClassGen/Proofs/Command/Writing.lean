/-
# Writing files

The steps of a command in a session, one after the other, until one fails.  Writing source files
below a directory makes the directories that lead to them and writes their texts, whatever comes of
it in the end nothing else; and if every step succeeds each text is in its file, since no two files
have one place (`Action.writeFiles_spec`).
-/
import ClassGen.Command.Run
import ClassGen.Proofs.Command.Directory

namespace ClassGen

open Text

/-- The command has failed to make a directory or to write a file. -/
inductive Failure.IsOfWriting : Failure → Prop
  | outputNotMade (path : String) (cause : FileError) : IsOfWriting (.outputNotMade path cause)
  | directoryNotMade (path : String) (cause : FileError) :
    IsOfWriting (.directoryNotMade path cause)
  | notWritten (path : String) (cause : FileError) : IsOfWriting (.notWritten path cause)

namespace Action

/-! ### Steps in a session -/

/-- What an action comes to in a session, and the session after that. -/
def perform {α : Type} (x : Action (StateM Session) α) (s : Session) : Except Failure α × Session :=
  (ExceptT.run x).run s

variable {α β : Type}

lemma perform_bind (x : Action (StateM Session) α) (f : α → Action (StateM Session) β)
    (s : Session) : perform (x >>= f) s =
      match perform x s with
      | (.ok a, s) => perform (f a) s
      | (.error e, s) => (.error e, s) := by
  rw [perform, ExceptT.run_bind, StateT.run_bind]
  rcases hx : perform x s with ⟨e | a, t⟩ <;>
  · rw [perform] at hx
    simp only [hx]
    rfl

lemma perform_lift (step : StateM Session α) (s : Session) :
    perform (ExceptT.lift step) s = (.ok (step s).1, (step s).2) := rfl

lemma perform_report (text : String) (s : Session) :
    perform (report text) s = (.ok (), { s with reported := s.reported ++ text }) := rfl

lemma perform_ofFile (failure : FileError → Failure) (step : StateM Session (Except FileError α))
    (s : Session) : perform (ofFile failure step) s =
      match step s with
      | (.ok a, s) => (.ok a, s)
      | (.error e, s) => (.error (failure e), s) := by
  have hlift : (liftM step : Action (StateM Session) _) = ExceptT.lift step := rfl
  rw [ofFile, perform_bind, hlift, perform_lift]
  rcases step s with ⟨e | a, t⟩ <;> rfl

end Action

/-! ### Source files -/

/-- The place is passed on the way to one of the files. -/
def SourceFile.Leads (here : List String) (base : String) (files : List SourceFile)
    (place : List String) : Prop :=
  ∃ f ∈ files, Path.Passes here (Path.parent (Path.join base f.path)) place

/-- One of the files belongs to the place and has this content. -/
def SourceFile.Fills (here : List String) (base : String) (files : List SourceFile)
    (place : List String) (content : ByteArray) : Prop :=
  ∃ f ∈ files, Path.place here (Path.join base f.path) = place ∧ content = f.content.toUTF8

/-- The file is below the base, and there are directories at all places that lead to it. -/
structure SourceFile.IsIn (base : String) (d : Directory) (f : SourceFile) : Prop where
  leading : ∀ q, Path.Passes d.here (Path.parent (Path.join base f.path)) q →
    d.get? q = some .directory
  content : d.get? (Path.place d.here (Path.join base f.path)) = some (.file f.content.toUTF8)

namespace Action

open Directory SourceFile

variable {s s' : Session} {r : Except Failure Unit} {here : List String} {base : String}
  {files : List SourceFile}

lemma changes_of_subset {files' : List SourceFile} {d d' : Directory}
    (hsubset : ∀ f ∈ files, f ∈ files')
    (h : Changes (Leads here base files) (Fills here base files) d d') :
    Changes (Leads here base files') (Fills here base files') d d' := by
  refine h.mono ?_ ?_
  · rintro q ⟨f, hf, hq⟩
    exact ⟨f, hsubset f hf, hq⟩
  · rintro q content ⟨f, hf, hq⟩
    exact ⟨f, hsubset f hf, hq⟩

/-- Files at places of their own stay when others are written. -/
lemma isIn_of_changes {d d' : Directory} {f : SourceFile} (hf : f.IsIn base d)
    (hconfined : Path.Confined f.path) (hfiles : ∀ g ∈ files, Path.Confined g.path)
    (hpath : ∀ g ∈ files, g.path ≠ f.path)
    (h : Changes (Leads d.here base files) (Fills d.here base files) d d') : f.IsIn base d' := by
  constructor <;> rw [h.here]
  · intro q hq
    exact h.directory (hf.leading q hq)
  · have hchange := h.places (Path.place d.here (Path.join base f.path))
    rw [hf.content] at hchange
    refine hchange.eq_of_some ?_
    rintro content ⟨g, hg, hplace, -⟩
    exact hpath g hg ((hfiles g hg).eq_of_place_eq hconfined hplace)

/-- Write one file below a directory. -/
def writeFile (base : String) (f : SourceFile) : Action (StateM Session) Unit := do
  let path := Path.join base f.path
  ofFile (.directoryNotMade (Path.parent path)) (Workspace.makeDirs (Path.parent path))
  ofFile (.notWritten path) (Workspace.writeText path f.content)
  report ("  wrote " ++ path ++ "\n")

lemma writeFiles_cons (base : String) (f : SourceFile) (files : List SourceFile) :
    (writeFiles base (f :: files) : Action (StateM Session) Unit) =
      writeFile base f >>= fun _ => writeFiles base files := by
  simp [writeFiles, writeFile]

lemma writeText_apply (path text : String) (s : Session) :
    (Workspace.writeText path text : StateM Session _) s =
      ((s.directory.writeText path text).1,
        { s with directory := (s.directory.writeText path text).2 }) := rfl

/-- Writing a file makes the directories that lead to it and writes its text, and whatever comes of
it nothing else; if it succeeds the file is in its place. -/
lemma writeFile_spec {f : SourceFile} (h : perform (writeFile base f) s = (r, s')) :
    Changes (Leads s.directory.here base [f]) (Fills s.directory.here base [f])
        s.directory s'.directory ∧
      (∀ e, r = .error e → e.IsOfWriting) ∧ (r = .ok () → f.IsIn base s'.directory) := by
  simp only [writeFile, perform_bind, perform_ofFile, perform_report, writeText_apply] at h
  rcases hdirs : (Workspace.makeDirs (Path.parent (Path.join base f.path)) :
    StateM Session _) s with ⟨e | u, t⟩
  · obtain ⟨hmade, -⟩ := Workspace.makeDirs_spec hdirs
    rw [hdirs] at h
    obtain ⟨rfl, rfl⟩ := Prod.mk.inj h
    refine ⟨hmade.mono (fun q hq => ⟨f, List.mem_singleton_self f, hq⟩) fun _ _ => False.elim, ?_,
      by simp⟩
    rintro _ ⟨⟩
    exact .directoryNotMade _ e
  · obtain ⟨hmade, hleading⟩ := Workspace.makeDirs_spec hdirs
    rcases hwrite : t.directory.writeText (Path.join base f.path) f.content with ⟨w, d⟩
    obtain ⟨hwritten, hcontent⟩ := writeText_spec hwrite
    rw [hmade.here] at hwritten hcontent
    have hchanges : Changes (Leads s.directory.here base [f]) (Fills s.directory.here base [f])
        s.directory d := by
      refine (hmade.mono ?_ fun _ _ => False.elim).trans (hwritten.mono (fun _ => False.elim) ?_)
      · exact fun q hq => ⟨f, List.mem_singleton_self f, hq⟩
      · exact fun q content hq => ⟨f, List.mem_singleton_self f, hq⟩
    simp only [hdirs, hwrite] at h
    rcases w with e | w
    · obtain ⟨rfl, rfl⟩ := Prod.mk.inj h
      refine ⟨hchanges, ?_, by simp⟩
      rintro _ ⟨⟩
      exact .notWritten _ e
    · obtain ⟨rfl, rfl⟩ := Prod.mk.inj h
      refine ⟨hchanges, by simp, fun _ => ?_⟩
      constructor <;> rw [hchanges.here]
      · intro q hq
        exact hwritten.directory (hleading rfl q hq)
      · exact hcontent rfl

/-- Writing files makes the directories that lead to them and writes their texts, and whatever
comes of it nothing else; if it succeeds every file is in its place. -/
lemma writeFiles_spec (hconfined : ∀ f ∈ files, Path.Confined f.path)
    (hnodup : (files.map (·.path)).Nodup) (h : perform (writeFiles base files) s = (r, s')) :
    Changes (Leads s.directory.here base files) (Fills s.directory.here base files)
        s.directory s'.directory ∧
      (∀ e, r = .error e → e.IsOfWriting) ∧
      (r = .ok () → ∀ f ∈ files, f.IsIn base s'.directory) := by
  induction files generalizing s with
  | nil =>
    obtain ⟨rfl, rfl⟩ : .ok () = r ∧ s = s' := Prod.mk.inj h
    exact ⟨.refl _, by simp, by simp⟩
  | cons f files ih =>
    obtain ⟨hf, hfiles⟩ := List.forall_mem_cons.1 hconfined
    rw [List.map_cons, List.nodup_cons] at hnodup
    obtain ⟨hpath, hnodup⟩ := hnodup
    rw [writeFiles_cons, perform_bind] at h
    rcases hfirst : perform (writeFile base f) s with ⟨e | u, t⟩
    · obtain ⟨hchanges, herror, -⟩ := writeFile_spec hfirst
      rw [hfirst] at h
      obtain ⟨rfl, rfl⟩ := Prod.mk.inj h
      exact ⟨changes_of_subset (by simp) hchanges, herror, by simp⟩
    · obtain ⟨hchanges, -, hok⟩ := writeFile_spec hfirst
      rw [hfirst] at h
      obtain ⟨hrest, herror, hrestOk⟩ := ih hfiles hnodup h
      have hsubset : ∀ g ∈ files, g ∈ f :: files := fun g => List.mem_cons_of_mem f
      have hfirstStays : f.IsIn base s'.directory := by
        -- the other files have other paths
        refine isIn_of_changes (hok rfl) hf hfiles (fun g hg hpaths => hpath ?_) hrest
        rw [← hpaths]
        exact List.mem_map_of_mem hg
      rw [hchanges.here] at hrest
      exact ⟨(changes_of_subset (by simp) hchanges).trans (changes_of_subset hsubset hrest), herror,
        fun hr => List.forall_mem_cons.2 ⟨hfirstStays, hrestOk hr⟩⟩

end Action

end ClassGen
