/-
# What a source file declares

The class of a model file has identifiers for the segments of its package and a generated name, and
its fields have generated names and types of plain class names.  So the lines of code of its source
file are those of one class, whatever the names and descriptions of the model file are: a line for
the package, imports, the head of the class, fields and the closing brace.  The path of the file
says the same as its lines (`ModelFile.houses_of_build`).
-/
import ClassGen.Proofs.Derived.Run
import ClassGen.Proofs.Source.Comments
import ClassGen.Proofs.Source.Path
import ClassGen.Proofs.TypeRef.Characters

namespace ClassGen

open Text

/-! ### Lines of a declaration -/

/-- The line is blank or starts with these words, and holds characters of code only: no brace, no
slash and no quote. -/
structure CodeLine (start l : String) : Prop where
  start : (∀ c ∈ l.toList, c = ' ') ∨ ∃ rest, l = start ++ rest
  chars : ∀ c ∈ l.toList, isCodeChar c = true

/-- The lines that name a package; the default package has none. -/
def packageLines (package : String) : List String :=
  if package = "" then [] else ["package " ++ package ++ ";", ""]

/-- Without its comments the text declares the class of this name and no other: first comes its
package, then imports, and then the class, with nothing but fields in its body. -/
def Declares (content : String) (name : ClassName) : Prop :=
  ∃ imports fields : List String,
    codeLines content = packageLines name.package ++ imports ++
      ("public class " ++ name.simple ++ " \x7b") :: (fields ++ ["\x7d", ""]) ∧
    (∀ l ∈ imports, CodeLine "import " l) ∧ ∀ l ∈ fields, CodeLine "    protected " l

lemma isCodeChar_of_isNameChar_or_dot {c : Char} (h : isNameChar c = true ∨ c = '.') :
    isCodeChar c = true := by
  rcases h with h | rfl
  · exact isCodeChar_of_isNameChar h
  · decide

/-- A blank line. -/
lemma codeLine_blank (start : String) {l : String} (h : ∀ c ∈ l.toList, c = ' ') :
    CodeLine start l := by
  refine ⟨Or.inl h, fun c hc => ?_⟩
  rw [h c hc]
  decide

/-! ### Classes with plain names -/

/-- The name of the field is a generated one, and its type mentions plain names only. -/
structure Field.Plain (f : Field) : Prop where
  name : ∀ c ∈ f.name.toList, isNameChar c = true
  type : ∀ a ∈ f.type.classNames, a.Plain

/-- The class has a generated name in a package of identifiers, plain fields and no methods. -/
structure ClassDef.Plain (c : ClassDef) : Prop where
  package : IsPackageName c.name.package
  simple : ∀ ch ∈ c.name.simple.toList, isNameChar ch = true
  fields : ∀ f ∈ c.fields, f.Plain
  methods : c.methods = []

namespace ModelFile

variable {file : ModelFile} {m : CodeModel}

lemma plain_resolve {a : ClassName} (h : a.Plain) : (file.resolve a).Plain := by
  rw [resolve]
  split
  · exact ⟨by simp, fun _ => isNameChar_of_mem_className⟩
  · exact h

lemma plain_of_makes {spec : FieldSpec} {field : Field} (h : spec.Makes file field) :
    field.Plain := by
  obtain ⟨t, hparse, -, rfl⟩ := h
  refine ⟨fun _ => isNameChar_of_mem_fieldName, ?_⟩
  rw [TypeRef.classNames_mapNames, List.forall_mem_map]
  exact fun a ha => plain_resolve (TypeRef.forall_plain_of_parse hparse a ha)

lemma plain_of_build (h : file.build = .ok m) {c : ClassDef} (hc : c ∈ m.classes) : c.Plain := by
  obtain ⟨spec, -, hbuild⟩ := Traversal.exists_mem_of_forall₂ (forall₂_build h) hc
  obtain ⟨fields, hfields, rfl⟩ := ClassSpec.build_eq_ok_iff.1 hbuild
  refine ⟨(build_eq_ok_iff.1 h).1, fun _ => isNameChar_of_mem_className, fun f hf => ?_, rfl⟩
  obtain ⟨-, hmakes⟩ := FieldSpec.buildAll_eq_ok_iff.1 hfields
  obtain ⟨fspec, -, hmade⟩ := Traversal.exists_mem_of_forall₂ hmakes hf
  exact plain_of_makes hmade

end ModelFile

/-! ### The lines of a class -/

open Piece

variable {c : ClassDef} {comments : Bool}

lemma isLine_of_forall_isCodeChar {l : String} (h : ∀ c ∈ l.toList, isCodeChar c = true) :
    IsLine l :=
  ⟨not_mem_of_forall h (by decide), not_mem_of_forall h (by decide)⟩

lemma Field.exists_shows_pieces {f : Field} (h : f.Plain) (comments : Bool) :
    ∃ ls, Shows comments f.pieces ls ∧ ∀ l ∈ ls, CodeLine "    protected " l := by
  obtain ⟨ls, hls, hblank⟩ := exists_shows_ofFieldDescription comments f.description
  have hline : CodeLine "    protected "
      ("    protected " ++ f.type.render ++ " " ++ f.name ++ ";") := by
    refine ⟨Or.inr ⟨f.type.render ++ " " ++ f.name ++ ";", by simp [String.append_assoc]⟩, ?_⟩
    simp only [String.toList_append, List.forall_mem_append]
    refine ⟨⟨⟨⟨by simp [isCodeChar, isNameChar], ?_⟩, by simp [isCodeChar]⟩, ?_⟩,
      by simp [isCodeChar]⟩
    · exact TypeRef.isCodeChar_of_mem_render h.type
    · exact fun c hc => isCodeChar_of_isNameChar (h.name c hc)
  have hstart : Shows comments [.code "\n"] [""] := shows_code rfl (by simpa using isLine_empty)
  have hend : Shows comments
      [.code ("    protected " ++ f.type.render ++ " " ++ f.name ++ ";\n")]
      ["    protected " ++ f.type.render ++ " " ++ f.name ++ ";"] := by
    refine shows_code (by simp [unlines]) ?_
    rw [List.forall_mem_singleton]
    exact isLine_of_forall_isCodeChar hline.chars
  refine ⟨[""] ++ ls ++ [_], (hstart.append hls).append hend, ?_⟩
  simp only [List.forall_mem_append, List.forall_mem_singleton]
  refine ⟨⟨codeLine_blank _ (by simp), fun l hl => ?_⟩, hline⟩
  rw [hblank l hl]
  exact codeLine_blank _ (by simp)

lemma exists_shows_fields {fs : List Field} (h : ∀ f ∈ fs, f.Plain) (comments : Bool) :
    ∃ ls, Shows comments (fs.flatMap Field.pieces) ls ∧ ∀ l ∈ ls, CodeLine "    protected " l := by
  induction fs with
  | nil => exact ⟨[], shows_nil, by simp⟩
  | cons f fs ih =>
    obtain ⟨hf, hfs⟩ := List.forall_mem_cons.1 h
    obtain ⟨first, hfirst, hfirstLines⟩ := Field.exists_shows_pieces hf comments
    obtain ⟨rest, hrest, hrestLines⟩ := ih hfs
    exact ⟨first ++ rest, hfirst.append hrest,
      List.forall_mem_append.2 ⟨hfirstLines, hrestLines⟩⟩

/-- The lines of the imports, and a blank one after them. -/
def importLines (imports : List String) : List String :=
  if imports.isEmpty then [] else imports.map (fun i => "import " ++ i ++ ";") ++ [""]

lemma toList_preamble (package : String) (imports : List String) :
    (ClassDef.preamble package imports).toList =
      unlines (packageLines package ++ importLines imports) := by
  have himports : (String.join (imports.map fun i => "import " ++ i ++ ";\n")).toList =
      unlines (imports.map fun i => "import " ++ i ++ ";") := by
    simp [unlines, List.flatMap_map, String.toList_join]
  rw [ClassDef.preamble, packageLines, importLines, unlines_append, String.toList_append]
  congr 1
  · split
    · rfl
    · simp [unlines]
  · split
    · rfl
    · rw [String.toList_append, himports, unlines_append]
      rfl

lemma codeLine_of_mem_importLines {imports : List String}
    (h : ∀ i ∈ imports, ∀ c ∈ i.toList, isCodeChar c = true) :
    ∀ l ∈ importLines imports, CodeLine "import " l := by
  rw [importLines]
  split
  · simp
  · rw [List.forall_mem_append, List.forall_mem_map, List.forall_mem_singleton]
    refine ⟨fun i hi => ⟨Or.inr ⟨i ++ ";", by simp [String.append_assoc]⟩, ?_⟩,
      codeLine_blank _ (by simp)⟩
    simp only [String.toList_append, List.forall_mem_append]
    exact ⟨⟨by simp [isCodeChar, isNameChar], h i hi⟩, by simp [isCodeChar]⟩

lemma isLine_of_mem_packageLines {package : String} (h : IsPackageName package) :
    ∀ l ∈ packageLines package, IsLine l := by
  rw [packageLines]
  split
  · simp
  · rw [List.forall_mem_cons, List.forall_mem_singleton]
    refine ⟨isLine_of_forall_isCodeChar ?_, isLine_empty⟩
    simp only [String.toList_append, List.forall_mem_append]
    refine ⟨⟨by simp [isCodeChar, isNameChar], fun c hc => ?_⟩, by simp [isCodeChar]⟩
    exact isCodeChar_of_isNameChar_or_dot (h.isNameChar_or_dot c hc)

lemma isLine_head {simple : String} (h : ∀ c ∈ simple.toList, isNameChar c = true) :
    IsLine ("public class " ++ simple ++ " \x7b") := by
  -- the head of a class is the only line that opens a brace, which is no character of other lines
  have hline := isLine_of_forall_isCodeChar fun c hc => isCodeChar_of_isNameChar (h c hc)
  constructor
  · simp [hline.no_slash]
  · simp [hline.no_feed]

namespace ClassDef

lemma Plain.isCodeChar_of_mem_imports (h : c.Plain) {imports : List String}
    (himports : c.imports = .ok imports) :
    ∀ i ∈ imports, ∀ ch ∈ i.toList, isCodeChar ch = true := by
  intro i hi ch hch
  obtain ⟨a, ha, rfl⟩ := (mem_of_imports himports).1 hi
  have hmem : a ∈ c.classNames := mem_classNames.2 ha.mentioned
  rw [classNames, h.methods, List.flatMap_nil, List.append_nil, List.mem_flatMap] at hmem
  obtain ⟨f, hf, hmem⟩ := hmem
  exact isCodeChar_of_isNameChar_or_dot (((h.fields f hf).type a hmem).full ch hch)

/-- The source text of a plain class declares the class. -/
lemma Plain.declares (h : c.Plain) {text : String} (htext : c.render comments = .ok text) :
    Declares text c.name := by
  obtain ⟨imports, himports, rfl⟩ := exists_imports_of_render htext
  -- the class is gone through piece by piece; its comment leaves a blank line at most
  obtain ⟨blank, hblank, hblankLines⟩ := exists_shows_ofClassDescription comments c.description
  obtain ⟨fields, hfields, hfieldLines⟩ := exists_shows_fields h.fields comments
  have himportLines : ∀ l ∈ importLines imports, CodeLine "import " l :=
    codeLine_of_mem_importLines (h.isCodeChar_of_mem_imports himports)
  have hpreamble : Shows comments [.code (preamble c.name.package imports)]
      (packageLines c.name.package ++ importLines imports) := by
    refine shows_code (toList_preamble _ _)
      (List.forall_mem_append.2 ⟨isLine_of_mem_packageLines h.package, fun l hl => ?_⟩)
    exact isLine_of_forall_isCodeChar (himportLines l hl).chars
  have hhead : Shows comments [.code ("public class " ++ c.name.simple ++ " \x7b\n")]
      ["public class " ++ c.name.simple ++ " \x7b"] :=
    shows_code (by simp [unlines]) (by simpa only [List.forall_mem_singleton] using isLine_head h.simple)
  have hend : Shows comments [.code "\x7d\n"] ["\x7d"] :=
    shows_code rfl (by simpa only [List.forall_mem_singleton] using ⟨by decide, by decide⟩)
  have hshows : Shows comments (c.pieces imports)
      (packageLines c.name.package ++ importLines imports ++ blank ++
        ["public class " ++ c.name.simple ++ " \x7b"] ++ fields ++ ["\x7d"]) := by
    rw [pieces, h.methods, List.map_nil, List.append_nil]
    exact (((hpreamble.append hblank).append hhead).append hfields).append hend
  refine ⟨importLines imports ++ blank, fields, by rw [hshows.codeLines_eq]; simp, ?_, hfieldLines⟩
  rw [List.forall_mem_append]
  refine ⟨himportLines, fun l hl => ?_⟩
  rw [hblankLines l hl]
  exact codeLine_blank _ (by simp)

end ClassDef

/-! ### The files of a model file -/

/-- The file stands for the class of this name: its path is the full name, it stays below the
directory of generated files, and its text declares the class. -/
structure SourceFile.Houses (file : SourceFile) (name : ClassName) : Prop where
  path : file.path = slashed name.full ++ ".java"
  confined : Path.Confined file.path
  declares : Declares file.content name

namespace ModelFile

variable {file : ModelFile} {m : CodeModel} {files : List SourceFile}

lemma houses_of_sourceFile (h : c.Plain) {f : SourceFile} (hf : c.sourceFile comments = .ok f) :
    f.Houses c.name := by
  obtain ⟨hpath, htext⟩ := ClassDef.sourceFile_eq_ok_iff.1 hf
  refine ⟨?_, ?_, h.declares htext⟩
  · rw [hpath]
    exact sourcePath_eq_slashed_full (not_mem_of_forall h.simple (by decide))
  · rw [hpath]
    exact Path.confined_sourcePath h.package h.simple

lemma package_of_build (h : file.build = .ok m) (hc : c ∈ m.classes) :
    c.name.package = trim file.package := by
  obtain ⟨spec, -, hmirrored⟩ := Traversal.exists_mem_of_forall₂ (mirrored_of_build h).classes hc
  rw [hmirrored.name]

/-- In the one package of a model file the simple names tell the paths apart. -/
lemma nodup_sourcePaths_of_build (h : file.build = .ok m) :
    (m.classes.map fun c => sourcePath c.name.package c.name.simple).Nodup := by
  have hpaths : (m.classes.map fun c => sourcePath c.name.package c.name.simple) =
      (m.classes.map (·.name.simple)).map (sourcePath (trim file.package)) := calc
    _ = m.classes.map fun c => sourcePath (trim file.package) c.name.simple :=
      List.map_congr_left fun c hc => by rw [package_of_build h hc]
    _ = (m.classes.map (·.name.simple)).map (sourcePath (trim file.package)) := by
      rw [List.map_map]
      rfl
  rw [hpaths]
  exact (nodup_simple_of_build h).map (sourcePath_injective _)

lemma nodup_paths_of_build (h : file.build = .ok m) (hfiles : m.sourceFiles comments = .ok files) :
    (files.map (·.path)).Nodup := by
  have hpaths := Traversal.map_eq_of_forall₂ (ClassDef.sourceFiles_eq_ok_iff.1 hfiles)
    fun _ _ hf => (ClassDef.sourceFile_eq_ok_iff.1 hf).1
  rw [hpaths]
  exact nodup_sourcePaths_of_build h

/-- **The files of a model file stand for its classes one by one**, in order and at paths of their
own.  Whatever the file calls its package, classes and fields and however it describes them, no path
leads out of the directory of generated files, and every text declares the class that its path is
for. -/
theorem houses_of_build (h : file.build = .ok m) (hfiles : m.sourceFiles comments = .ok files) :
    List.Forall₂ (fun c f => f.Houses c.name) m.classes files ∧ (files.map (·.path)).Nodup := by
  refine ⟨?_, nodup_paths_of_build h hfiles⟩
  have hall := ClassDef.sourceFiles_eq_ok_iff.1 hfiles
  rw [List.forall₂_iff_zip]
  refine ⟨hall.length_eq, fun {c f} hzip => ?_⟩
  have hplain : c.Plain := plain_of_build h (List.of_mem_zip hzip).1
  exact houses_of_sourceFile hplain (List.forall₂_zip hall hzip)

/-- A file whose names and descriptions would lead somewhere else. -/
def intruderFile : ModelFile :=
  ⟨" com.example ",
    [⟨"../../etc/passwd", some "*/\npackage evil;\r\n**/ class Evil \x7b\x7d /*", []⟩,
     ⟨"\\..\\2.java", none,
      [⟨"x; \x7d", "java.util.List<class>", some "*/ \x7d\npublic class Evil \x7b /"⟩]⟩]⟩

/-- The model of the file. -/
def intruderModel : CodeModel :=
  ⟨"com.example",
    [⟨⟨"com.example", "EtcPasswd"⟩, some "*/\npackage evil;\r\n**/ class Evil \x7b\x7d /*", [], []⟩,
     ⟨⟨"com.example", "_2Java"⟩, none,
      [⟨"x", .named ⟨"java.util", "List"⟩ [.named ⟨"", "class"⟩ []],
        some "*/ \x7d\npublic class Evil \x7b /"⟩], []⟩]⟩

theorem houses_intruderModel :
    ∃ files, intruderFile.build = .ok intruderModel ∧
      intruderModel.sourceFiles true = .ok files ∧
      files.map (·.path) = ["com/example/EtcPasswd.java", "com/example/_2Java.java"] ∧
      List.Forall₂ (fun c f => f.Houses c.name) intruderModel.classes files ∧
      (files.map (·.path)).Nodup := by
  have hm : intruderFile.build = .ok intruderModel := by decide +kernel
  have hpaths : (intruderModel.sourceFiles true).map (·.map (·.path)) =
      .ok ["com/example/EtcPasswd.java", "com/example/_2Java.java"] := by
    decide +kernel
  rcases hfiles : intruderModel.sourceFiles true with e | files
  · rw [hfiles] at hpaths
    cases hpaths
  · rw [hfiles, Except.map, Except.ok.injEq] at hpaths
    exact ⟨files, hm, rfl, hpaths, houses_of_build hm hfiles⟩

end ModelFile

end ClassGen
