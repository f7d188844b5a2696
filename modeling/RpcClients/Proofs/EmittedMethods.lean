import RpcClients.Proofs.WrapperText

/-! # Every method is emitted once

Each generated file for a schema file holds one signature per method, in the order of the schema, and the
text of each method has as many parameters, results and values as its messages have fields. -/

namespace RpcClients

open Resolving Indentation Naming

def Service.signatureHeads (service : Service) : List String :=
  service.methods.map (signatureHead (wrapperName service.goName))

/-! ## Signatures -/

theorem MethodText.signatures {wrapper : String} {method : Method} {text : List String}
    (h : MethodText wrapper method text) :
    StartEach [signatureHead wrapper method] (linesStarting "func (s *" text) := by
  obtain ⟨before, line, after, rfl, hhead, hinner⟩ := h.signature_line
  rw [List.forall_mem_append] at hinner
  have hline : "func (s *".toList <+: line.toList := by
    refine List.IsPrefix.trans ?_ hhead
    exact ⟨(wrapper ++ ") " ++ method.goName ++ "(").toList, by simp [signatureHead]⟩
  have hstart : "func (s *".toList.head? = some 'f' := by simp
  rw [linesStarting_append, linesStarting_cons hline, linesStarting_eq_nil hstart (by decide) hinner.1,
    linesStarting_eq_nil hstart (by decide) hinner.2]
  exact .cons hhead .nil

theorem WrapperText.signatures {service : Service} {text : List String} (h : WrapperText service text) :
    StartEach service.signatureHeads (linesStarting "func (s *" text) := by
  obtain ⟨logger, client, methods, _, _, hmethods, rfl⟩ := h
  have hfirst : linesStarting "func (s *" ["type " ++ wrapperName service.goName ++ " struct \x7b",
      tabbed 1 ("logger *" ++ logger), tabbed 1 ("client " ++ client), "\x7d", ""] = [] := by
    simp [linesStarting, tabbed]
  rw [linesStarting_append, linesStarting_append, hfirst, linesStarting_blank (by decide), linesStarting_nil,
    List.append_nil, List.nil_append, Service.signatureHeads, List.map_eq_flatMap]
  exact startEach_flatten _ (fun method => [signatureHead (wrapperName service.goName) method])
    (fun _ _ h => h.signatures) hmethods

/-! ## Generated files -/

/-- The artifact holds the wrappers of a schema file: its text is that of the services behind a header,
and its signatures are those of their methods. -/
structure WrapsServices (file : File) (artifact : Artifact) : Prop where
  text : ∃ pluginName packageName entries texts, List.Forall₂ WrapperText file.services texts ∧
    artifact.lines ++ [""] =
      SourceFile.headerLines pluginName (some file.name) packageName entries ++ "" :: texts.flatten
  signatures : StartEach (file.services.flatMap Service.signatureHeads)
    (linesStarting "func (s *" artifact.lines)

theorem wrapsServices_of_lines {file : File} {source : SourceFile} {texts : List (List String)}
    {rest : List String} (hsource : source.source = some file.name)
    (htexts : List.Forall₂ WrapperText file.services texts) (hrest : texts.flatten = rest ++ [""])
    (hlines : source.artifact.lines = source.headerText ++ "" :: rest) : WrapsServices file source.artifact := by
  constructor
  · refine ⟨source.pluginName, source.imports.packageName, source.imports.sorted, texts, htexts, ?_⟩
    rw [hlines, hrest, ← hsource, SourceFile.headerText]
    simp
  · have hfound := SourceFile.linesStarting_content hlines
      (source.linesStarting_header (by simp : "func (s *".toList.head? = some 'f') (by decide)) (by decide)
    have htext : linesStarting "func (s *" texts.flatten = linesStarting "func (s *" rest := by
      rw [hrest, linesStarting_append, linesStarting_blank (by decide), linesStarting_nil, List.append_nil]
    rw [hfound, ← htext]
    exact startEach_flatten WrapperText Service.signatureHeads (fun _ _ h => h.signatures) htexts

theorem wrapsServices_of_wrapperFile {options : Options} {files : List File} {unit : GenerationUnit}
    {target : GenerationUnit.Target} {unreadable : List String} {file : File} {source : SourceFile}
    (htarget : unit.target options = .ok target) (hcollects : unit.Collects files)
    (hnames : ∀ name ∈ files.flatMap File.goNames, IsIdentifier name)
    (honeLine : ∀ text ∈ options.wrapperTexts ++ files.flatMap File.headerTexts, '\n' ∉ text.toList)
    (hfile : file ∈ unit.serviceFiles) (h : unit.wrapperFile options target unreadable file = .ok source) :
    WrapsServices file source.artifact := by
  obtain ⟨texts, rest, htexts, hrest, hlines⟩ :=
    GenerationUnit.lines_of_serviceFile htarget hcollects hnames honeLine hfile h
  exact wrapsServices_of_lines (kind_of_wrapperFile h).2.1 htexts hrest hlines

theorem wrapsServices_of_sourceFiles {options : Options} {files : List File} {unit : GenerationUnit}
    {unreadable : List String} {sources : List SourceFile}
    (h : unit.sourceFiles options unreadable = .ok sources) (hcollects : unit.Collects files)
    (hnames : ∀ name ∈ files.flatMap File.goNames, IsIdentifier name)
    (honeLine : ∀ text ∈ options.wrapperTexts ++ files.flatMap File.headerTexts, '\n' ∉ text.toList) :
    List.Forall₂ WrapsServices unit.serviceFiles
      ((sources.map SourceFile.artifact).filter (·.kind = .file)) := by
  obtain ⟨target, first, others, htarget, hfirst, hothers, rfl⟩ := GenerationUnit.sourceFiles_ok h
  have hunit : first.artifact.kind = .unit := (kind_of_providerFile hfirst).1
  have hfiles : (others.map SourceFile.artifact).filter (·.kind = .file) = others.map SourceFile.artifact := by
    rw [List.filter_eq_self]
    intro artifact hartifact
    obtain ⟨source, hsource, rfl⟩ := List.mem_map.mp hartifact
    obtain ⟨file, _, hfile⟩ := exists_of_forall₂_right hothers hsource
    exact decide_eq_true (kind_of_wrapperFile hfile).1
  rw [List.map_cons, List.filter_cons_of_neg (by simp [hunit]), hfiles, List.forall₂_map_right_iff]
  exact forall₂_imp_of_mem
    (fun file hfile source => wrapsServices_of_wrapperFile htarget hcollects hnames honeLine hfile) hothers

/-- A run that succeeds gives one file for each schema file with services. If the Go names are
identifiers and no printed text breaks a line, that file wraps the services of the schema file. -/
theorem generate_emits_methods {options : Options} {files : List File} {unreadable : List String}
    {artifacts : List Artifact} (named : ∀ name ∈ files.flatMap File.goNames, IsIdentifier name)
    (oneLine : ∀ text ∈ options.wrapperTexts ++ files.flatMap File.headerTexts, '\n' ∉ text.toList)
    (h : generate options files unreadable = .ok artifacts) :
    ∃ units, GenerationUnit.group files = .ok units ∧
      List.Forall₂ WrapsServices (units.flatMap GenerationUnit.serviceFiles)
        (artifacts.filter (·.kind = .file)) := by
  obtain ⟨units, sources, hunits, hsources, rfl⟩ := generate_ok h
  refine ⟨units, hunits, ?_⟩
  have hcollects := GenerationUnit.group_collects hunits
  clear h hunits
  induction hsources with
  | nil => exact .nil
  | cons hunit _ ih =>
    rw [List.forall_mem_cons] at hcollects
    rw [List.flatMap_cons, List.flatten_cons, List.map_append, List.filter_append]
    exact List.rel_append (wrapsServices_of_sourceFiles hunit hcollects.1.2 named oneLine) (ih hcollects.2)

/-- A file with two services. The signature of one method needs several lines, the other two methods
have no input and no output. -/
def bookshop : File :=
  let text (name goName : String) : Field := { name, goName, type := { kind := .scalar .string } }
  let book : Ident := ⟨"Book", "shop/books/v1"⟩
  { name := "shop/shelf.proto", package := "shop", importPath := "shop/shelf", packageName := "shelf"
    services :=
      [{ name := "Shelf", goName := "Shelf", fullName := "shop.Shelf"
         methods :=
           [{ name := "Add", goName := "Add", fullName := "shop.Shelf.Add"
              comments := some " Adds a book.\n // Twice."
              input := { fullName := "shop.AddRequest", ident := ⟨"AddRequest", "shop/shelf"⟩
                         fields := [text "title" "Title", text "type" "Type",
                           { name := "book", goName := "Book", type := ⟨.message, some book⟩ }] }
              output := { fullName := "shop.AddResponse", ident := ⟨"AddResponse", "shop/shelf"⟩
                          fields := [text "title" "Title",
                            { name := "books", goName := "Books", type := ⟨.message, some book⟩
                              repeated := true }] } },
            { name := "Clear", goName := "Clear", fullName := "shop.Shelf.Clear"
              input := { fullName := "shop.Empty", ident := ⟨"Empty", "shop/books/v1"⟩ }
              output := { fullName := "shop.Empty", ident := ⟨"Empty", "shop/books/v1"⟩ } }] },
       { name := "type", goName := "Type", fullName := "shop.type"
         methods :=
           [{ name := "Clear", goName := "Clear", fullName := "shop.type.Clear"
              input := { fullName := "shop.Empty", ident := ⟨"Empty", "shop/books/v1"⟩ }
              output := { fullName := "shop.Empty", ident := ⟨"Empty", "shop/books/v1"⟩ } }] }] }

theorem generate_emits_methods_bookshop :
    ∃ artifacts, generate {} [bookshop] = .ok artifacts ∧
      List.Forall₂ WrapsServices [bookshop] (artifacts.filter (·.kind = .file)) := by
  have hrun : (generate {} [bookshop]).toOption.isSome = true := by decide +kernel
  have hgroup : GenerationUnit.group [bookshop] = .ok [⟨"shop/shelf", "shelf", [bookshop]⟩] := by rfl
  cases h : generate {} [bookshop] with
  | error failure => simp [h, Except.toOption] at hrun
  | ok artifacts =>
    obtain ⟨units, hunits, hwraps⟩ := generate_emits_methods (by decide) (by decide) h
    rw [hgroup] at hunits
    cases hunits
    exact ⟨artifacts, rfl, hwraps⟩

def shortOptions : Options :=
  { pluginName := some "t", contextPath := some "c", httpClientPath := some "h"
    twirpClientPath := some "w", zapPath := some "z" }

/-- A file whose name breaks a line of the header of its generated file. -/
def brokenName : File :=
  { name := "a\nfunc (s *svc) M(", package := "p", importPath := "p", packageName := "p"
    services := [{ name := "Svc", goName := "Svc", fullName := "p.Svc" }] }

theorem brokenName_adds_signature :
    (∀ name ∈ [brokenName].flatMap File.goNames, IsIdentifier name) ∧
    brokenName.services.flatMap Service.signatureHeads = [] ∧
    (generate shortOptions [brokenName]).toOption.map (fun artifacts =>
      (artifacts.filter (·.kind = .file)).map fun artifact => linesStarting "func (s *" artifact.lines) =
      some [["func (s *svc) M("]] := by
  refine ⟨?_, ?_, ?_⟩ <;> decide +kernel

end RpcClients
