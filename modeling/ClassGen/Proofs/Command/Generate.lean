/-
# What the command `generate` leaves behind

Everything is decided before the first file is written: the configuration, the model of the model
file, the plugins, and the texts of all classes.  Where one of these cannot be had the directory
stays as it is.  Otherwise the command makes the output directory, with the missing directories that
its path leads through, and below it the directories of packages, and it writes one file for each
class; nothing else is changed, even if a call of the file system fails on the way
(`Command.generate_changes`).
-/
import ClassGen.Proofs.Command.Writing
import ClassGen.Proofs.Source.Declared

namespace ClassGen

open Text

/-! ### What is decided before writing -/

/-- The configuration of a project in the directory. -/
inductive Directory.Configures (d : Directory) : Config → Prop
  | initial : (∀ entry, d.find ".xbind.yaml" ≠ .ok entry) → Configures d .initial
  | file {text : String} {config : Config} : d.readText ".xbind.yaml" = .ok text →
      Config.parse text = .ok config → Configures d config

/-- The file at the path describes the model. -/
def Directory.Describes (d : Directory) (path : String) (m : CodeModel) : Prop :=
  ∃ text file, d.readText path = .ok text ∧ ModelFile.parse path text = .ok file ∧
    file.build = .ok m

/-- What the command `generate` has decided before it writes: the configuration, the model as it is
described and as the plugins have changed it, and that every class of it can be rendered. -/
structure Plan (d : Directory) (input : Option String) (noComments : Bool)
    (args : List String) where
  /-- The configuration of the project. -/
  config : Config
  /-- The model that the model file describes. -/
  described : CodeModel
  /-- The pipeline after the tokens of the configuration and of the command line. -/
  pipeline : Pipeline
  /-- The model after the plugins. -/
  model : CodeModel
  configures : d.Configures config
  describes : d.Describes (input.getD config.input) described
  prepares : Pipeline.prepare config args = (.ok (), pipeline)
  runs : pipeline.run described = (.ok (), model)
  renders : ∀ c ∈ model.classes, ∃ text, c.render (config.comments && !noComments) = .ok text

namespace Plan

variable {d : Directory} {input output : Option String} {noComments : Bool} {args : List String}

/-- The path of the output directory. -/
def base (plan : Plan d input noComments args) (output : Option String) : String :=
  output.getD plan.config.output

/-- The path of the file of a class. -/
def classPath (plan : Plan d input noComments args) (output : Option String) (c : ClassDef) :
    String :=
  Path.join (plan.base output) (sourcePath c.name.package c.name.simple)

/-- A directory has to be at the place: the path of the output directory passes it, or it is below
the output directory and stands for the first segments of the package of a class. -/
inductive Opens (plan : Plan d input noComments args) (output : Option String) :
    List String → Prop
  | passed {place : List String} : Path.Passes d.here (plan.base output) place →
      Opens plan output place
  | package {c : ClassDef} {below : List String} : c ∈ plan.model.classes →
      below <+: Path.steps (slashed c.name.package) →
      Opens plan output (Path.place d.here (plan.base output) ++ below)

/-- The directory afterwards: it has a directory wherever there has to be one, where there was one
or nothing before, and for each class a file with its text. -/
structure Done (plan : Plan d input noComments args) (output : Option String) (d' : Directory) :
    Prop where
  directories : ∀ place, plan.Opens output place →
    (d.get? place = none ∨ d.get? place = some .directory) ∧ d'.get? place = some .directory
  files : ∀ c ∈ plan.model.classes, ∃ text,
    c.render (plan.config.comments && !noComments) = .ok text ∧
      d'.get? (Path.place d.here (plan.classPath output c)) = some (.file text.toUTF8)

end Plan

/-! ### The stages before writing -/

namespace Action

variable {s : Session} {config : Config} {m : CodeModel} {path : String}

lemma pathExists_apply (path : String) (s : Session) :
    (Workspace.pathExists path : StateM Session Bool) s = ((s.directory.find path).isOk, s) := by
  rcases hfind : s.directory.find path with e | entry <;>
  · simp only [Workspace.pathExists, hfind]
    rfl

lemma perform_loadConfig (s : Session) : perform loadConfig s =
    (match s.directory.find Config.fileName with
      | .error _ => .ok .initial
      | .ok _ =>
        match s.directory.readText Config.fileName with
        | .error e => .error (.configUnreadable Config.fileName e)
        | .ok text => (Config.parse text).mapError (.configMalformed Config.fileName), s) := by
  have hread : (Workspace.readText Config.fileName : StateM Session _) s =
      (s.directory.readText Config.fileName, s) := rfl
  simp only [loadConfig, perform_bind, perform_lift, pathExists_apply]
  rcases hfind : s.directory.find Config.fileName with e | entry
  · rfl
  · have hok : (Except.ok entry : Except FileError Entry).isOk = true := rfl
    simp only [hok, if_true, perform_bind, perform_ofFile, hread]
    rcases htext : s.directory.readText Config.fileName with e | text
    · rfl
    · rcases hparse : Config.parse text with e | config <;> simp only [hparse] <;> rfl

lemma perform_loadModel (path : String) (s : Session) : perform (loadModel path) s =
    (match s.directory.readText path with
      | .error e => .error (.modelUnreadable path e)
      | .ok text =>
        match ModelFile.parse path text with
        | .error e => .error e
        | .ok file => file.build.mapError .modelRefused, s) := by
  have hread : (Workspace.readText path : StateM Session _) s =
      (s.directory.readText path, s) := rfl
  simp only [loadModel, perform_bind, perform_ofFile, hread]
  rcases htext : s.directory.readText path with e | text
  · rfl
  · rcases hparse : ModelFile.parse path text with e | file
    · simp only [hparse]
      rfl
    · rcases hbuild : file.build with e | m <;> simp only [hparse, hbuild] <;> rfl

lemma exists_find_of_readText {d : Directory} {text : String} (h : d.readText path = .ok text) :
    ∃ entry, d.find path = .ok entry := by
  rw [Directory.readText] at h
  rcases hfind : d.find path with e | entry
  · simp [hfind] at h
  · exact ⟨entry, rfl⟩

lemma perform_loadConfig_of_configures (h : s.directory.Configures config) :
    perform loadConfig s = (.ok config, s) := by
  have hname : Config.fileName = ".xbind.yaml" := rfl
  rw [perform_loadConfig, hname]
  cases h with
  | initial hnone =>
    rcases hfind : s.directory.find ".xbind.yaml" with e | entry
    · rfl
    · exact absurd hfind (hnone entry)
  | file htext hparse =>
    obtain ⟨entry, hfind⟩ := exists_find_of_readText htext
    simp only [hfind, htext, hparse, Except.mapError]

/-- A project has a configuration, or loading it fails and changes nothing. -/
lemma configures_or_error (s : Session) : (∃ config, s.directory.Configures config) ∨
    ∃ e, perform loadConfig s = (.error e, s) ∧ ¬ e.IsOfWriting := by
  rw [perform_loadConfig]
  rcases hfind : s.directory.find Config.fileName with e | entry
  · exact Or.inl ⟨.initial, .initial fun entry hentry => by cases hfind.symm.trans hentry⟩
  · rcases htext : s.directory.readText Config.fileName with e | text
    · exact Or.inr ⟨.configUnreadable Config.fileName e, rfl, by rintro ⟨⟩⟩
    · rcases hparse : Config.parse text with e | config
      · refine Or.inr ⟨.configMalformed Config.fileName e, ?_, by rintro ⟨⟩⟩
        simp only [hparse, Except.mapError]
      · exact Or.inl ⟨config, .file htext hparse⟩

lemma perform_loadModel_of_describes (h : s.directory.Describes path m) :
    perform (loadModel path) s = (.ok m, s) := by
  obtain ⟨text, file, htext, hparse, hbuild⟩ := h
  simp only [perform_loadModel, htext, hparse, hbuild, Except.mapError]

lemma not_isOfWriting_of_parse {text : String} {e : Failure}
    (h : ModelFile.parse path text = .error e) : ¬ e.IsOfWriting := by
  rw [ModelFile.parse] at h
  split at h
  · rcases hread : Document.Json.read ModelFile.read text with cause | file
    · rw [hread] at h
      cases h
      rintro ⟨⟩
    · simp [hread, Except.mapError] at h
  · rcases hread : Document.Yaml.read ModelFile.read text with cause | file
    · rw [hread] at h
      cases h
      rintro ⟨⟩
    · simp [hread, Except.mapError] at h

/-- The file at a path describes a model, or loading it fails and changes nothing. -/
lemma describes_or_error (path : String) (s : Session) : (∃ m, s.directory.Describes path m) ∨
    ∃ e, perform (loadModel path) s = (.error e, s) ∧ ¬ e.IsOfWriting := by
  rw [perform_loadModel]
  rcases htext : s.directory.readText path with e | text
  · exact Or.inr ⟨.modelUnreadable path e, rfl, by rintro ⟨⟩⟩
  · rcases hparse : ModelFile.parse path text with e | file
    · exact Or.inr ⟨e, by simp only [hparse], not_isOfWriting_of_parse hparse⟩
    · rcases hbuild : file.build with e | m
      · refine Or.inr ⟨.modelRefused e, ?_, by rintro ⟨⟩⟩
        simp only [hparse, hbuild, Except.mapError]
      · exact Or.inl ⟨m, text, file, htext, hparse, hbuild⟩

/-- What is left to do when everything is decided. -/
def writeAll (base : String) (files : List SourceFile) : Action (StateM Session) Unit := do
  ofFile (.outputNotMade base) (Workspace.makeDirs base)
  writeFiles base files
  report ("Generated " ++ Nat.repr files.length ++ " files in " ++ base ++ "\n")

lemma perform_of_except {α : Type} (x : Except Failure α) (s : Session) :
    perform (liftM x : Action (StateM Session) α) s = (x, s) := rfl

lemma exists_perform_reportPlugins (names : List String) (s : Session) :
    ∃ t, t.directory = s.directory ∧ perform (reportPlugins names) s = (.ok (), t) := by
  rw [reportPlugins]
  split
  · exact ⟨s, rfl, rfl⟩
  · exact ⟨(perform (report _) s).2, rfl, rfl⟩

variable {input output : Option String} {noComments : Bool} {args : List String}

/-- After everything is decided nothing has changed yet. -/
lemma exists_perform_generate (plan : Plan s.directory input noComments args)
    {files : List SourceFile}
    (hfiles : plan.model.sourceFiles (plan.config.comments && !noComments) = .ok files)
    (output : Option String) : ∃ t, t.directory = s.directory ∧
      perform (generate input output noComments args) s =
        perform (writeAll (plan.base output) files) t := by
  have hprocess : process plan.config args plan.described =
      .ok ⟨plan.pipeline.activeNames, plan.pipeline.classpath.decls.map (·.name), .ok (),
        plan.model⟩ := by
    simp only [process, plan.prepares, plan.runs]
  obtain ⟨t, ht, hreport⟩ := exists_perform_reportPlugins plan.pipeline.activeNames s
  refine ⟨t, ht, ?_⟩
  have hrender : renderFiles (plan.config.comments && !noComments)
      ⟨plan.pipeline.activeNames, plan.pipeline.classpath.decls.map (·.name), .ok (),
        plan.model⟩ = .ok files := by
    simp only [renderFiles, hfiles]
  simp only [generate, perform_bind, perform_loadConfig_of_configures plan.configures,
    perform_loadModel_of_describes plan.describes, perform_of_except, hprocess, hreport, hrender,
    writeAll, Plan.base]

/-- Something cannot be decided, and then nothing is changed. -/
lemma plan_or_error (input output : Option String) (noComments : Bool) (args : List String)
    (s : Session) : Nonempty (Plan s.directory input noComments args) ∨
      ∃ e t, perform (generate input output noComments args) s = (.error e, t) ∧
        t.directory = s.directory ∧ ¬ e.IsOfWriting := by
  simp only [generate, perform_bind]
  rcases configures_or_error s with ⟨config, hconfig⟩ | ⟨e, he, hwriting⟩
  case inr => exact Or.inr ⟨e, s, by rw [he], rfl, hwriting⟩
  rw [perform_loadConfig_of_configures hconfig]
  rcases describes_or_error (input.getD config.input) s with ⟨m, hm⟩ | ⟨e, he, hwriting⟩
  case inr => exact Or.inr ⟨e, s, by simp only [he], rfl, hwriting⟩
  simp only [perform_loadModel_of_describes hm, perform_of_except]
  rcases hprepare : Pipeline.prepare config args with ⟨e | u, p⟩
  case error =>
    refine Or.inr ⟨.argumentsRefused e, s, ?_, rfl, by rintro ⟨⟩⟩
    simp only [process, hprepare]
  obtain ⟨t, ht, hreport⟩ := exists_perform_reportPlugins p.activeNames s
  rcases hrun : p.run m with ⟨e | u, m'⟩
  case error =>
    refine Or.inr ⟨.pipelineFailed e, t, ?_, ht, by rintro ⟨⟩⟩
    simp only [process, hprepare, hrun, hreport, renderFiles]
  rcases hfiles : m'.sourceFiles (config.comments && !noComments) with e | files
  · refine Or.inr ⟨.renderRefused e, t, ?_, ht, by rintro ⟨⟩⟩
    simp only [process, hprepare, hrun, hreport, renderFiles, hfiles]
  · have hrenders := CodeModel.exists_sourceFiles_iff.1 ⟨files, hfiles⟩
    exact Or.inl ⟨⟨config, m, p, m', hconfig, hm, hprepare, hrun, hrenders⟩⟩

/-- Writing everything makes the directories that lead to the base and to the files, and writes the
files, and whatever comes of it nothing else. -/
lemma writeAll_spec {s' : Session} {r : Except Failure Unit} {base : String}
    {files : List SourceFile} (hconfined : ∀ f ∈ files, Path.Confined f.path)
    (hnodup : (files.map (·.path)).Nodup) (h : perform (writeAll base files) s = (r, s')) :
    Directory.Changes
        (fun q => Path.Passes s.directory.here base q ∨
          SourceFile.Leads s.directory.here base files q)
        (SourceFile.Fills s.directory.here base files) s.directory s'.directory ∧
      (∀ e, r = .error e → e.IsOfWriting) ∧
      (r = .ok () →
        (∀ q, Path.Passes s.directory.here base q → s'.directory.get? q = some .directory) ∧
        ∀ f ∈ files, f.IsIn base s'.directory) := by
  simp only [writeAll, perform_bind, perform_ofFile, perform_report] at h
  rcases hdirs : (Workspace.makeDirs base : StateM Session _) s with ⟨e | u, t⟩
  · obtain ⟨hmade, -⟩ := Workspace.makeDirs_spec hdirs
    rw [hdirs] at h
    obtain ⟨rfl, rfl⟩ := Prod.mk.inj h
    refine ⟨hmade.mono (fun _ => Or.inl) fun _ _ => False.elim, ?_, by simp⟩
    rintro _ ⟨⟩
    exact .outputNotMade _ e
  · obtain ⟨hmade, hbase⟩ := Workspace.makeDirs_spec hdirs
    rcases hwrite : perform (writeFiles base files) t with ⟨w, t'⟩
    obtain ⟨hchanges, herror, hfiles⟩ := writeFiles_spec hconfined hnodup hwrite
    rw [hmade.here] at hchanges
    have hall : Directory.Changes
        (fun q => Path.Passes s.directory.here base q ∨
          SourceFile.Leads s.directory.here base files q)
        (SourceFile.Fills s.directory.here base files) s.directory t'.directory :=
      (hmade.mono (fun _ => Or.inl) fun _ _ => False.elim).trans
        (hchanges.mono (fun _ => Or.inr) fun _ _ => id)
    simp only [hdirs, hwrite] at h
    rcases w with e | w
    · obtain ⟨rfl, rfl⟩ := Prod.mk.inj h
      exact ⟨hall, herror, by simp⟩
    · obtain ⟨rfl, rfl⟩ := Prod.mk.inj h
      exact ⟨hall, by simp, fun _ =>
        ⟨fun q hq => hchanges.directory (hbase rfl q hq), hfiles rfl⟩⟩

end Action

/-! ### The names of the classes -/

/-- The plugins leave the names of the classes as they are. -/
lemma Pipeline.names_of_run {config : Config} {args : List String} {p : Pipeline}
    {m m' : CodeModel} (hp : prepare config args = (.ok (), p)) (hrun : p.run m = (.ok (), m')) :
    m'.classes.map (·.name) = m.classes.map (·.name) := by
  obtain ⟨style, -, rfl⟩ := exists_chosen_of_prepare hp
  rw [run_pipeline, Prod.mk.injEq] at hrun
  obtain ⟨-, rfl⟩ := hrun
  split
  · rw [CodeModel.mapClasses, List.map_map]
    rfl
  · rfl

namespace Plan

variable {d : Directory} {input output : Option String} {noComments : Bool} {args : List String}

lemma names_of_mem (plan : Plan d input noComments args) {c : ClassDef}
    (hc : c ∈ plan.model.classes) :
    IsPackageName c.name.package ∧ ∀ ch ∈ c.name.simple.toList, isNameChar ch = true := by
  obtain ⟨text, file, -, -, hbuild⟩ := plan.describes
  have hname : c.name ∈ plan.described.classes.map (·.name) := by
    rw [← Pipeline.names_of_run plan.prepares plan.runs]
    exact List.mem_map_of_mem hc
  obtain ⟨b, hb, hbc⟩ := List.mem_map.1 hname
  have hplain : b.Plain := ModelFile.plain_of_build hbuild hb
  rw [← hbc]
  exact ⟨hplain.package, hplain.simple⟩

lemma nodup_sourcePaths (plan : Plan d input noComments args) :
    (plan.model.classes.map fun c => sourcePath c.name.package c.name.simple).Nodup := by
  obtain ⟨text, file, -, -, hbuild⟩ := plan.describes
  have hpaths : (plan.model.classes.map fun c => sourcePath c.name.package c.name.simple) =
      plan.described.classes.map fun c => sourcePath c.name.package c.name.simple := by
    have hnames := congrArg (List.map fun name : ClassName => sourcePath name.package name.simple)
      (Pipeline.names_of_run plan.prepares plan.runs)
    rwa [List.map_map, List.map_map] at hnames
  rw [hpaths]
  exact ModelFile.nodup_sourcePaths_of_build hbuild

lemma exists_file_of_mem (plan : Plan d input noComments args) {files : List SourceFile}
    (hfiles : plan.model.sourceFiles (plan.config.comments && !noComments) = .ok files)
    {c : ClassDef} (hc : c ∈ plan.model.classes) :
    ∃ f ∈ files, f.path = sourcePath c.name.package c.name.simple ∧
      c.render (plan.config.comments && !noComments) = .ok f.content := by
  have hall := (ClassDef.sourceFiles_eq_ok_iff.1 hfiles).flip
  obtain ⟨f, hf, hfile⟩ := Traversal.exists_mem_of_forall₂ hall hc
  exact ⟨f, hf, ClassDef.sourceFile_eq_ok_iff.1 hfile⟩

lemma exists_class_of_mem (plan : Plan d input noComments args) {files : List SourceFile}
    (hfiles : plan.model.sourceFiles (plan.config.comments && !noComments) = .ok files)
    {f : SourceFile} (hf : f ∈ files) :
    ∃ c ∈ plan.model.classes, f.path = sourcePath c.name.package c.name.simple := by
  have hall := ClassDef.sourceFiles_eq_ok_iff.1 hfiles
  obtain ⟨c, hc, hfile⟩ := Traversal.exists_mem_of_forall₂ hall hf
  exact ⟨c, hc, (ClassDef.sourceFile_eq_ok_iff.1 hfile).1⟩

/-- The directories that lead to the files of the classes are those that have to be there. -/
lemma opens_iff (plan : Plan d input noComments args) {files : List SourceFile}
    (hfiles : plan.model.sourceFiles (plan.config.comments && !noComments) = .ok files)
    {place : List String} : plan.Opens output place ↔
      Path.Passes d.here (plan.base output) place ∨
        SourceFile.Leads d.here (plan.base output) files place := by
  constructor
  · intro h
    cases h with
    | passed h => exact Or.inl h
    | @package c below hc hbelow =>
      obtain ⟨hpackage, hsimple⟩ := plan.names_of_mem hc
      obtain ⟨f, hf, hpath, -⟩ := plan.exists_file_of_mem hfiles hc
      refine Or.inr ⟨f, hf, ?_⟩
      rw [hpath, Path.passes_parent_join_iff hpackage hsimple]
      exact Or.inr ⟨below, hbelow, rfl⟩
  · rintro (h | ⟨f, hf, hpasses⟩)
    · exact .passed h
    · obtain ⟨c, hc, hpath⟩ := plan.exists_class_of_mem hfiles hf
      obtain ⟨hpackage, hsimple⟩ := plan.names_of_mem hc
      rw [hpath, Path.passes_parent_join_iff hpackage hsimple] at hpasses
      rcases hpasses with h | ⟨below, hbelow, rfl⟩
      · exact .passed h
      · exact .package hc hbelow

lemma confined_of_mem (plan : Plan d input noComments args) {files : List SourceFile}
    (hfiles : plan.model.sourceFiles (plan.config.comments && !noComments) = .ok files)
    {f : SourceFile} (hf : f ∈ files) : Path.Confined f.path := by
  obtain ⟨c, hc, hpath⟩ := plan.exists_class_of_mem hfiles hf
  obtain ⟨hpackage, hsimple⟩ := plan.names_of_mem hc
  rw [hpath]
  exact Path.confined_sourcePath hpackage hsimple

lemma nodup_paths (plan : Plan d input noComments args) {files : List SourceFile}
    (hfiles : plan.model.sourceFiles (plan.config.comments && !noComments) = .ok files) :
    (files.map (·.path)).Nodup := by
  have hpaths := Traversal.map_eq_of_forall₂ (ClassDef.sourceFiles_eq_ok_iff.1 hfiles)
    fun _ _ hf => (ClassDef.sourceFile_eq_ok_iff.1 hf).1
  rw [hpaths]
  exact plan.nodup_sourcePaths

end Plan

/-- **The command `generate` changes nothing or what it is to change.**  Where something cannot be
decided before writing, it fails and every directory and file stays as it is.  Otherwise it fails
only if a directory cannot be made or a file cannot be written; only the output directory with the
directories that its path passes, the directories of packages below it and the files of the classes
are changed, and if the command succeeds all of these are there, each file with the text of its
class. -/
theorem Command.generate_changes (input output : Option String) (noComments : Bool)
    (args : List String) (s s' : Session) (result : Except Failure Unit)
    (h : Action.perform (Command.run (.generate input output noComments args)) s = (result, s')) :
    (IsEmpty (Plan s.directory input noComments args) →
      s'.directory = s.directory ∧ ∃ e, result = .error e ∧ ¬ e.IsOfWriting) ∧
    ∀ plan : Plan s.directory input noComments args,
      (∀ e, result = .error e → e.IsOfWriting) ∧
      s'.directory.here = s.directory.here ∧
      (∀ place, ¬ plan.Opens output place →
        (∀ c ∈ plan.model.classes, Path.place s.directory.here (plan.classPath output c) ≠ place) →
        s'.directory.get? place = s.directory.get? place) ∧
      (result = .ok () → plan.Done output s'.directory) := by
  refine ⟨fun hnone => ?_, fun plan => ?_⟩
  · rcases Action.plan_or_error input output noComments args s with
      ⟨⟨plan⟩⟩ | ⟨e, t, he, ht, hwriting⟩
    · exact hnone.elim plan
    · obtain ⟨rfl, rfl⟩ := Prod.mk.inj (h.symm.trans he)
      exact ⟨ht, e, rfl, hwriting⟩
  · obtain ⟨files, hfiles⟩ := CodeModel.exists_sourceFiles_iff.2 plan.renders
    obtain ⟨t, ht, hperform⟩ := Action.exists_perform_generate plan hfiles output
    have hwrite : Action.perform (Action.writeAll (plan.base output) files) t = (result, s') :=
      hperform.symm.trans h
    obtain ⟨hchanges, herror, hdone⟩ := Action.writeAll_spec
      (fun f => plan.confined_of_mem hfiles) (plan.nodup_paths hfiles) hwrite
    rw [ht] at hchanges hdone
    refine ⟨herror, hchanges.here, fun place hopens hplace => ?_,
      fun hr => ⟨fun place hopens => ?_, ?_⟩⟩
    · -- the place is none of those that may change
      refine (hchanges.places place).eq_of_not ?_ ?_
      · exact fun hleads => hopens ((plan.opens_iff hfiles).2 hleads)
      · rintro content ⟨f, hf, hfplace, -⟩
        obtain ⟨c, hc, hpath⟩ := plan.exists_class_of_mem hfiles hf
        rw [hpath] at hfplace
        exact hplace c hc hfplace
    · have hdirectory : s'.directory.get? place = some .directory := by
        rcases (plan.opens_iff hfiles).1 hopens with hpasses | ⟨f, hf, hpasses⟩
        · exact (hdone hr).1 place hpasses
        · rw [← hchanges.here] at hpasses
          exact ((hdone hr).2 f hf).leading place hpasses
      have hchange := hchanges.places place
      rw [hdirectory] at hchange
      exact ⟨hchange.of_directory, hdirectory⟩
    · intro c hc
      obtain ⟨f, hf, hpath, htext⟩ := plan.exists_file_of_mem hfiles hc
      have hcontent := ((hdone hr).2 f hf).content
      rw [hpath, hchanges.here] at hcontent
      exact ⟨f.content, htext, hcontent⟩

/-- The model file of a class with one field. -/
def treeText : String :=
  "\x7b\"package\": \"com.example\", \"classes\": [\x7b\"name\": \"tree\", \"fields\": " ++
    "[\x7b\"name\": \"height\", \"type\": \"int\"\x7d]\x7d]\x7d"

/-- A session in a directory that holds the model file; nothing else is below the root. -/
def treeSession : Session :=
  ⟨⟨[(["home", "project", "m.json"], .file treeText.toUTF8)], ["home", "project"]⟩, "", ""⟩

/-- With a style that exists everything is written, beside the working directory or below the root,
and with one that does not exist nothing is. -/
theorem generate_changes_treeSession :
    (∃ (plan : Plan treeSession.directory (some "m.json") false ["-Xcommons-lang"]) (s' : Session),
      Action.perform (Command.run (.generate (some "m.json") (some "../out") false
          ["-Xcommons-lang"])) treeSession = (.ok (), s') ∧
        plan.Done (some "../out") s'.directory ∧
        (s'.directory.get? ["home", "out", "com", "example", "Tree.java"]).isSome = true) ∧
    (∃ (plan : Plan treeSession.directory (some "/home/project/m.json") false ["-Xcommons-lang"])
        (s' : Session),
      Action.perform (Command.run (.generate (some "/home/project/m.json") (some "/srv/out") false
          ["-Xcommons-lang"])) treeSession = (.ok (), s') ∧
        plan.Done (some "/srv/out") s'.directory ∧
        (s'.directory.get? ["srv", "out", "com", "example", "Tree.java"]).isSome = true) ∧
    ∃ (e : Failure) (s' : Session),
      Action.perform (Command.run (.generate (some "m.json") none false
          ["-Xcommons-lang:ToStringStyle=com.example.Missing"])) treeSession = (.error e, s') ∧
        s'.directory = treeSession.directory := by
  -- when the command succeeds, everything was decided and is done
  have hwrites : ∀ (input output : String) (place : List String),
      (let after := Action.perform (Command.run (.generate (some input) (some output) false
        ["-Xcommons-lang"])) treeSession
       after.1 = .ok () ∧ (after.2.directory.get? place).isSome = true) →
      ∃ (plan : Plan treeSession.directory (some input) false ["-Xcommons-lang"]) (s' : Session),
        Action.perform (Command.run (.generate (some input) (some output) false
            ["-Xcommons-lang"])) treeSession = (.ok (), s') ∧
          plan.Done (some output) s'.directory ∧ (s'.directory.get? place).isSome = true := by
    intro input output place hwritten
    rcases hrun : Action.perform (Command.run (.generate (some input) (some output) false
      ["-Xcommons-lang"])) treeSession with ⟨r, s'⟩
    rw [hrun] at hwritten
    obtain ⟨hok, hfile⟩ := hwritten
    obtain rfl : r = .ok () := hok
    obtain ⟨hnone, hplan⟩ := Command.generate_changes _ _ _ _ _ _ _ hrun
    have hdecided : ¬ IsEmpty (Plan treeSession.directory (some input) false
        ["-Xcommons-lang"]) := by
      intro hempty
      obtain ⟨-, e, he, -⟩ := hnone hempty
      cases he
    obtain ⟨plan⟩ := not_isEmpty_iff.1 hdecided
    exact ⟨plan, s', rfl, (hplan plan).2.2.2 rfl, hfile⟩
  refine ⟨hwrites "m.json" "../out" _ (by decide +kernel),
    hwrites "/home/project/m.json" "/srv/out" _ (by decide +kernel), ?_⟩
  have herror : (Action.perform (Command.run (.generate (some "m.json") none false
      ["-Xcommons-lang:ToStringStyle=com.example.Missing"])) treeSession).1 =
        .error (.argumentsRefused (.configuration ⟨"class not found: com.example.Missing"⟩)) := by
    decide +kernel
  rcases hrun : Action.perform (Command.run (.generate (some "m.json") none false
    ["-Xcommons-lang:ToStringStyle=com.example.Missing"])) treeSession with ⟨r, s'⟩
  rw [hrun] at herror
  obtain rfl := herror
  obtain ⟨hnone, hplan⟩ := Command.generate_changes _ _ _ _ _ _ _ hrun
  -- the error is not one of writing, so nothing was decided
  have hempty : IsEmpty (Plan treeSession.directory (some "m.json") false
      ["-Xcommons-lang:ToStringStyle=com.example.Missing"]) :=
    ⟨fun plan => by cases (hplan plan).1 _ rfl⟩
  exact ⟨_, s', rfl, (hnone hempty).1⟩

/-- The directories that the path of the output directory passes need not hold it. -/
theorem generate_changes_beside_output :
    ∃ s', Action.perform (Command.run (.generate (some "m.json") (some "a/../b") false []))
        treeSession = (.ok (), s') ∧
      Path.place treeSession.directory.here "a/../b" = ["home", "project", "b"] ∧
      ¬ ∀ place, s'.directory.get? place ≠ treeSession.directory.get? place →
        ["home", "project", "b"] <+: place := by
  have hmakes :
      let after := Action.perform (Command.run (.generate (some "m.json") (some "a/../b") false []))
        treeSession
      after.1 = .ok () ∧ (after.2.directory.get? ["home", "project", "a"]).isSome = true := by
    decide +kernel
  have hplace : Path.place treeSession.directory.here "a/../b" = ["home", "project", "b"] := by
    decide +kernel
  have hnone : (treeSession.directory.get? ["home", "project", "a"]).isSome = false := by
    decide +kernel
  rcases hrun : Action.perform (Command.run (.generate (some "m.json") (some "a/../b") false []))
    treeSession with ⟨r, s'⟩
  rw [hrun] at hmakes
  obtain ⟨hok, hmade⟩ := hmakes
  obtain rfl : r = .ok () := hok
  refine ⟨s', rfl, hplace, fun hall => ?_⟩
  have hprefix : ["home", "project", "b"] <+: ["home", "project", "a"] := by
    refine hall ["home", "project", "a"] fun hsame => ?_
    simp only [hsame, hnone] at hmade
    cases hmade
  exact absurd hprefix (by decide)

end ClassGen
