/-
# What is changed in a directory

Making a directory adds it at a place where nothing was, and writing a file puts its text at a place
where no directory was; everything else stays (`Change`).  Making the directory at a path and those
that lead to it adds directories at places that the path passes, and when it succeeds there is a
directory at every one of them (`makeDirs_spec`).
-/
import ClassGen.Command.Directory
import ClassGen.Proofs.Command.Paths

namespace ClassGen

/-- How a place may change: a directory is made where there was nothing, or a file is written where
there was no directory. -/
inductive Change (made : Prop) (written : ByteArray → Prop) : Option Entry → Option Entry → Prop
  | kept (e : Option Entry) : Change made written e e
  | made : made → Change made written none (some .directory)
  | written {e : Option Entry} {content : ByteArray} : written content →
      e ≠ some .directory → Change made written e (some (.file content))

namespace Change

variable {made made' : Prop} {written written' : ByteArray → Prop} {e e' e'' : Option Entry}

lemma trans (h : Change made written e e') (h' : Change made written e' e'') :
    Change made written e e'' := by
  cases h' with
  | kept => exact h
  | made hmade =>
    cases h with
    | kept => exact .made hmade
  | written hwritten hdirectory =>
    cases h with
    | kept => exact .written hwritten hdirectory
    | made => exact absurd rfl hdirectory
    | written _ hfirst => exact .written hwritten hfirst

lemma mono (hmade : made → made') (hwritten : ∀ content, written content → written' content)
    (h : Change made written e e') : Change made' written' e e' := by
  cases h with
  | kept => exact .kept _
  | made h => exact .made (hmade h)
  | written h hdirectory => exact .written (hwritten _ h) hdirectory

/-- A directory stays. -/
lemma directory (h : Change made written (some .directory) e) : e = some .directory := by
  cases h with
  | kept => rfl
  | written _ hdirectory => exact absurd rfl hdirectory

/-- Where no file is written, what was there stays. -/
lemma eq_of_some {entry : Entry} (hwritten : ∀ content, ¬ written content)
    (h : Change made written (some entry) e) : e = some entry := by
  cases h with
  | kept => rfl
  | written h _ => exact absurd h (hwritten _)

lemma eq_of_not (hmade : ¬ made) (hwritten : ∀ content, ¬ written content)
    (h : Change made written e e') : e' = e := by
  cases h with
  | kept => rfl
  | made h => exact absurd h hmade
  | written h _ => exact absurd h (hwritten _)

/-- Where a directory is now, there was one or nothing. -/
lemma of_directory (h : Change made written e (some .directory)) :
    e = none ∨ e = some .directory := by
  cases h with
  | kept => exact Or.inr rfl
  | made _ => exact Or.inl rfl

end Change

namespace Directory

variable {d d' : Directory} {place target : List String} {path text : String}

/-- The directory is still the same one, and every place has changed in one of the ways that are
allowed there. -/
structure Changes (made : List String → Prop) (written : List String → ByteArray → Prop)
    (d d' : Directory) : Prop where
  here : d'.here = d.here
  places : ∀ place, Change (made place) (written place) (d.get? place) (d'.get? place)

/-! ### Entries -/

lemma lookup_putEntry (place : List String) (e : Entry) (entries : List (List String × Entry))
    (q : List String) :
    (putEntry place e entries).lookup q = if q = place then some e else entries.lookup q := by
  fun_induction putEntry place e entries with
  | case1 =>
    by_cases hq : q = place
    · simp [hq]
    · simp [List.lookup_cons, beq_false_of_ne hq, hq]
  | case2 old rest =>
    by_cases hq : q = place
    · simp [hq]
    · simp [List.lookup_cons, beq_false_of_ne hq, hq]
  | case3 p old rest hp ih =>
    by_cases hq : q = p
    · simp [hq, hp]
    · simp [List.lookup_cons, beq_false_of_ne hq, ih]

lemma get?_of_prefix_here (h : place <+: d.here) : d.get? place = some .directory := if_pos h

/-- Only places that are always there lead to the directory. -/
lemma not_prefix_of_get?_ne (h : d.get? place ≠ some .directory) : ¬ place <+: d.here :=
  fun hplace => h (get?_of_prefix_here hplace)

lemma get?_put (hplace : ¬ place <+: d.here) (e : Entry) (q : List String) :
    (d.put place e).get? q = if q = place then some e else d.get? q := by
  rw [get?, get?, put, lookup_putEntry]
  by_cases hq : q = place
  · subst hq
    simp [hplace]
  · simp [hq]

/-! ### Places -/

/-- Steps that lead to a place lead to it whatever is found on the way. -/
lemma follow_of_walk {steps : List String} (h : d.walk place steps = .ok target) :
    Path.follow place steps = target := by
  fun_induction walk d place steps with
  | case1 place => exact Except.ok.inj h
  | case2 => cases h
  | case3 => cases h
  | case4 place step steps _ ih => exact ih h

/-- All steps but the last one lead to directories. -/
lemma directory_of_walk {before after : List String} (hafter : after ≠ [])
    (h : d.walk place (before ++ after) = .ok target) :
    d.get? (Path.follow place before) = some .directory := by
  induction before generalizing place with
  | nil =>
    obtain ⟨step, steps, rfl⟩ := List.exists_cons_of_ne_nil hafter
    rw [List.nil_append, walk] at h
    show d.get? place = some .directory
    rcases hget : d.get? place with _ | _ | content
    · simp [hget] at h
    · rfl
    · simp [hget] at h
  | cons step before ih =>
    rw [List.cons_append, walk] at h
    rcases hget : d.get? place with _ | _ | content
    · simp [hget] at h
    · rw [hget] at h
      exact ih h
    · simp [hget] at h

lemma walk_mono (hd : ∀ q, d.get? q = some .directory → d'.get? q = some .directory)
    {steps : List String} (h : d.walk place steps = .ok target) :
    d'.walk place steps = .ok target := by
  fun_induction walk d place steps with
  | case1 place => exact h
  | case2 => cases h
  | case3 => cases h
  | case4 place step steps hdirectory ih =>
    rw [walk, hd place hdirectory]
    exact ih h

lemma locate_eq_ok_iff : d.locate path = .ok target ↔
    (path ≠ "" ∧ ¬ Path.hasNul path = true) ∧
      d.walk (Path.start d.here path) (Path.steps path) = .ok target := by
  by_cases hempty : path = ""
  · simp [locate, hempty]
  · by_cases hnul : Path.hasNul path = true <;> simp [locate, hempty, hnul]

lemma place_of_locate (h : d.locate path = .ok target) : Path.place d.here path = target :=
  follow_of_walk (locate_eq_ok_iff.1 h).2

lemma isDirectory_iff : d.isDirectory path = true ↔
    ∃ place, d.locate path = .ok place ∧ d.get? place = some .directory := by
  rw [isDirectory, find]
  rcases hlocate : d.locate path with e | place
  · simp
  · rcases hget : d.get? place with _ | _ | content
    · simp [hget]
    · simp [hget]
    · by_cases hnames : Path.namesDirectory path <;> simp [hget, hnames]

/-- Where there is a directory at the path, there is one at every place that the path passes. -/
lemma directory_of_passes (h : d.isDirectory path = true)
    (hpasses : Path.Passes d.here path place) : d.get? place = some .directory := by
  obtain ⟨q, hlocate, hq⟩ := isDirectory_iff.1 h
  obtain ⟨before, ⟨after, hsteps⟩, rfl⟩ := hpasses
  have hwalk := (locate_eq_ok_iff.1 hlocate).2
  rw [← hsteps] at hwalk
  by_cases hafter : after = []
  · -- the last place that is passed is the one where the directory is
    rw [hafter, List.append_nil] at hwalk
    rwa [follow_of_walk hwalk]
  · exact directory_of_walk hafter hwalk

/-! ### Making directories and writing files -/

namespace Changes

variable {made made' : List String → Prop} {written written' : List String → ByteArray → Prop}
  {d'' : Directory}

lemma refl (d : Directory) : Changes made written d d := ⟨rfl, fun place => .kept (d.get? place)⟩

lemma trans (h : Changes made written d d') (h' : Changes made written d' d'') :
    Changes made written d d'' :=
  ⟨h'.here.trans h.here, fun place => (h.places place).trans (h'.places place)⟩

lemma mono (hmade : ∀ place, made place → made' place)
    (hwritten : ∀ place content, written place content → written' place content)
    (h : Changes made written d d') : Changes made' written' d d' :=
  ⟨h.here, fun place => (h.places place).mono (hmade place) (hwritten place)⟩

lemma directory (h : Changes made written d d') (hplace : d.get? place = some .directory) :
    d'.get? place = some .directory := by
  have hchange := h.places place
  rw [hplace] at hchange
  exact hchange.directory

/-- A path that leads somewhere still leads there. -/
lemma locate (h : Changes made written d d') (hlocate : d.locate path = .ok target) :
    d'.locate path = .ok target := by
  obtain ⟨hpath, hwalk⟩ := locate_eq_ok_iff.1 hlocate
  rw [locate_eq_ok_iff, h.here]
  exact ⟨hpath, walk_mono (fun _ => h.directory) hwalk⟩

end Changes

lemma makeDir_cases {r : Except FileError Unit} (h : d.makeDir path = (r, d')) :
    ((∃ e, r = .error e) ∧ d' = d) ∨
      (r = .ok () ∧ ∃ place, d.locate path = .ok place ∧ d.get? place = none ∧
        d' = d.put place .directory) := by
  rw [makeDir] at h
  rcases hlocate : d.locate path with e | place
  · simp only [hlocate, Prod.mk.injEq] at h
    exact Or.inl ⟨⟨e, h.1.symm⟩, h.2.symm⟩
  · rcases hget : d.get? place with _ | _ | content <;>
      rcases hdot : Path.endsInDot path with _ | _ <;>
      simp only [hlocate, hget, hdot, Prod.mk.injEq] at h
    · exact Or.inr ⟨h.1.symm, place, rfl, hget, h.2.symm⟩
    all_goals exact Or.inl ⟨⟨_, h.1.symm⟩, h.2.symm⟩

lemma writeText_cases {r : Except FileError Unit} (h : d.writeText path text = (r, d')) :
    ((∃ e, r = .error e) ∧ d' = d) ∨
      (r = .ok () ∧ ∃ place, d.locate path = .ok place ∧ d.get? place ≠ some .directory ∧
        d' = d.put place (.file text.toUTF8)) := by
  rw [writeText] at h
  rcases hlocate : d.locate path with e | place
  · simp only [hlocate, Prod.mk.injEq] at h
    exact Or.inl ⟨⟨e, h.1.symm⟩, h.2.symm⟩
  · rcases hget : d.get? place with _ | _ | content <;>
      rcases hnames : Path.namesDirectory path with _ | _ <;>
      simp only [hlocate, hget, hnames, Bool.or_true, Bool.or_false, Bool.false_eq_true, if_true,
        if_false, Prod.mk.injEq] at h
    case none.false => exact Or.inr ⟨h.1.symm, place, rfl, by simp [hget], h.2.symm⟩
    case some.file.false => exact Or.inr ⟨h.1.symm, place, rfl, by simp [hget], h.2.symm⟩
    all_goals exact Or.inl ⟨⟨_, h.1.symm⟩, h.2.symm⟩

/-- Making a directory adds it at most, and if that succeeds there is one at the path. -/
lemma makeDir_spec {r : Except FileError Unit} (h : d.makeDir path = (r, d')) :
    Changes (fun q => Path.place d.here path = q) (fun _ _ => False) d d' ∧
      (r = .ok () → d'.isDirectory path = true) := by
  rcases makeDir_cases h with ⟨⟨e, rfl⟩, rfl⟩ | ⟨rfl, place, hlocate, hget, rfl⟩
  · exact ⟨.refl d', by simp⟩
  · have hplace : ¬ place <+: d.here := not_prefix_of_get?_ne (by simp [hget])
    have hchanges : Changes (fun q => Path.place d.here path = q) (fun _ _ => False) d
        (d.put place .directory) := by
      refine ⟨rfl, fun q => ?_⟩
      rw [get?_put hplace]
      by_cases hq : q = place
      · rw [if_pos hq, hq, hget]
        exact .made (place_of_locate hlocate)
      · rw [if_neg hq]
        exact .kept _
    refine ⟨hchanges, fun _ => isDirectory_iff.2 ⟨place, hchanges.locate hlocate, ?_⟩⟩
    rw [get?_put hplace, if_pos rfl]

/-- Writing a file writes it at most, and if that succeeds it is at the place of the path. -/
lemma writeText_spec {r : Except FileError Unit} (h : d.writeText path text = (r, d')) :
    Changes (fun _ => False)
        (fun q content => Path.place d.here path = q ∧ content = text.toUTF8) d d' ∧
      (r = .ok () → d'.get? (Path.place d.here path) = some (.file text.toUTF8)) := by
  rcases writeText_cases h with ⟨⟨e, rfl⟩, rfl⟩ | ⟨rfl, place, hlocate, hget, rfl⟩
  · exact ⟨.refl d', by simp⟩
  · have hplace : ¬ place <+: d.here := not_prefix_of_get?_ne hget
    have hleads : Path.place d.here path = place := place_of_locate hlocate
    refine ⟨⟨rfl, fun q => ?_⟩, fun _ => ?_⟩
    · rw [get?_put hplace]
      by_cases hq : q = place
      · rw [if_pos hq, hq]
        exact .written ⟨hleads, rfl⟩ hget
      · rw [if_neg hq]
        exact .kept _
    · rw [hleads, get?_put hplace, if_pos rfl]

end Directory

/-! ### Directories along a path -/

namespace Workspace

open Directory

variable {path : String} {s s' : Session} {r : Except FileError Unit}

lemma bind_apply {α β : Type} (x : StateM Session α) (f : α → StateM Session β) (s : Session) :
    (x >>= f) s = f (x s).1 (x s).2 := rfl

lemma makeDir_apply (path : String) (s : Session) : (makeDir path : StateM Session _) s =
    ((s.directory.makeDir path).1, { s with directory := (s.directory.makeDir path).2 }) := rfl

lemma makeDirOrKeep_apply (path : String) (s : Session) :
    (makeDirOrKeep path : StateM Session _) s =
      match s.directory.makeDir path with
      | (.ok (), d) => (.ok (), { s with directory := d })
      | (.error e, d) =>
        (if d.isDirectory path then .ok () else .error e, { s with directory := d }) := by
  rw [makeDirOrKeep, bind_apply, makeDir_apply]
  rcases s.directory.makeDir path with ⟨e | u, d⟩ <;> rfl

/-- Where the directory has no place yet, those around it are made first. -/
lemma makeDirsAlong_of_notFound (h : (s.directory.makeDir path).1 = .error .notFound)
    (around : List String) :
    (makeDirsAlong (path :: around) : StateM Session _) s =
      match (makeDirsAlong around : StateM Session _) s with
      | (.ok (), s) => (makeDirOrKeep path : StateM Session _) s
      | (.error e, s) => (.error e, s) := by
  rcases hmake : s.directory.makeDir path with ⟨r, d⟩
  have hd : d = s.directory := by
    rcases makeDir_cases hmake with ⟨-, hd⟩ | ⟨rfl, -⟩
    · exact hd
    · rw [hmake] at h
      cases h
  obtain rfl : r = .error .notFound := by rwa [hmake] at h
  rw [makeDirsAlong, bind_apply, makeDir_apply, hmake, hd]
  simp only [bind_apply]
  rcases (makeDirsAlong around : StateM Session _) s with ⟨e | u, s'⟩ <;> rfl

lemma makeDirsAlong_of_ne (h : (s.directory.makeDir path).1 ≠ .error .notFound)
    (around : List String) :
    (makeDirsAlong (path :: around) : StateM Session _) s =
      (makeDirOrKeep path : StateM Session _) s := by
  rw [makeDirOrKeep_apply]
  rcases hmake : s.directory.makeDir path with ⟨e | u, d⟩
  · cases e
    case notFound => simp [hmake] at h
    all_goals
      rw [makeDirsAlong, bind_apply, makeDir_apply, hmake]
      rfl
  · rw [makeDirsAlong, bind_apply, makeDir_apply, hmake]
    rfl

lemma makeDirOrKeep_spec (h : (makeDirOrKeep path : StateM Session _) s = (r, s')) :
    Changes (fun q => Path.place s.directory.here path = q) (fun _ _ => False)
        s.directory s'.directory ∧
      (r = .ok () → s'.directory.isDirectory path = true) := by
  rw [makeDirOrKeep_apply] at h
  rcases hmake : s.directory.makeDir path with ⟨e | u, d⟩
  · obtain ⟨hchanges, -⟩ := makeDir_spec hmake
    rw [hmake] at h
    obtain ⟨rfl, rfl⟩ := Prod.mk.inj h
    refine ⟨hchanges, fun hr => ?_⟩
    by_contra hnot
    rw [if_neg hnot] at hr
    cases hr
  · obtain ⟨hchanges, hok⟩ := makeDir_spec hmake
    rw [hmake] at h
    obtain ⟨rfl, rfl⟩ := Prod.mk.inj h
    exact ⟨hchanges, hok⟩

/-- Along a list of paths directories are added at the places of these paths at most, and if that
succeeds there is one at the first path. -/
lemma makeDirsAlong_spec {paths : List String}
    (h : (makeDirsAlong paths : StateM Session _) s = (r, s')) :
    Changes (fun q => ∃ p ∈ paths, Path.place s.directory.here p = q) (fun _ _ => False)
        s.directory s'.directory ∧
      (r = .ok () → ∀ p ∈ paths.head?, s'.directory.isDirectory p = true) := by
  induction paths generalizing s s' r with
  | nil =>
    obtain ⟨rfl, rfl⟩ : .ok () = r ∧ s = s' := Prod.mk.inj h
    exact ⟨.refl _, fun _ p hp => by simp at hp⟩
  | cons path around ih =>
    have hkeep : ∀ {t : Session} {r : Except FileError Unit},
        (makeDirOrKeep path : StateM Session _) t = (r, s') →
        Changes (fun q => ∃ p ∈ path :: around, Path.place t.directory.here p = q)
            (fun _ _ => False) t.directory s'.directory ∧
          (r = .ok () → ∀ p ∈ (path :: around).head?, s'.directory.isDirectory p = true) := by
      intro t r ht
      obtain ⟨hchanges, hok⟩ := makeDirOrKeep_spec ht
      refine ⟨hchanges.mono (fun q hq => ⟨path, List.mem_cons_self, hq⟩) fun _ _ => id, ?_⟩
      intro hr p hp
      obtain rfl : path = p := by simpa using hp
      exact hok hr
    by_cases hfound : (s.directory.makeDir path).1 = .error .notFound
    · rw [makeDirsAlong_of_notFound hfound] at h
      rcases haround : (makeDirsAlong around : StateM Session _) s with ⟨e | u, t⟩
      · obtain ⟨hchanges, -⟩ := ih haround
        rw [haround] at h
        obtain ⟨rfl, rfl⟩ : .error e = r ∧ t = s' := Prod.mk.inj h
        refine ⟨hchanges.mono ?_ fun _ _ => id, by simp⟩
        exact fun q ⟨p, hp, hq⟩ => ⟨p, List.mem_cons_of_mem path hp, hq⟩
      · obtain ⟨haroundChanges, -⟩ := ih haround
        rw [haround] at h
        obtain ⟨hchanges, hok⟩ := hkeep h
        rw [haroundChanges.here] at hchanges
        refine ⟨(haroundChanges.mono ?_ fun _ _ => id).trans hchanges, hok⟩
        exact fun q ⟨p, hp, hq⟩ => ⟨p, List.mem_cons_of_mem path hp, hq⟩
    · rw [makeDirsAlong_of_ne hfound] at h
      exact hkeep h

/-- Making the directory at a path and those that lead to it adds directories at places that the
path passes, and if it succeeds there is one at every such place. -/
lemma makeDirs_spec (h : (makeDirs path : StateM Session _) s = (r, s')) :
    Changes (Path.Passes s.directory.here path) (fun _ _ => False) s.directory s'.directory ∧
      (r = .ok () → ∀ q, Path.Passes s.directory.here path q →
        s'.directory.get? q = some .directory) := by
  obtain ⟨hchanges, hok⟩ := makeDirsAlong_spec h
  refine ⟨hchanges.mono ?_ fun _ _ => id, fun hr q hq => ?_⟩
  · rintro q ⟨p, hp, rfl⟩
    exact Path.passes_of_mem_ancestors s.directory.here hp
  · rw [← hchanges.here] at hq
    by_cases hpath : path = ""
    · -- the empty path passes no place but that of the directory itself
      subst hpath
      obtain ⟨before, hbefore, rfl⟩ := hq
      obtain rfl : before = [] := List.prefix_nil.1 hbefore
      exact get?_of_prefix_here List.prefix_rfl
    · refine directory_of_passes (hok hr path ?_) hq
      rw [Path.ancestors, if_neg hpath]
      rfl

end Workspace

end ClassGen
