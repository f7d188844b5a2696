import RpcClients.Proofs.EmittedMethods
import RpcClients.Proofs.ProviderText

/-! # The files of a unit fit together

The factories of the provider instantiate the wrapper types, each of which is declared once in the files
with wrappers. No import of any of these files has the name of a declaration. -/

namespace RpcClients

open Resolving Indentation Naming

/-- How the wrapper type of a service is declared. -/
def declarationLine (service : Service) : String := "type " ++ wrapperName service.goName ++ " struct \x7b"

/-- How a factory instantiates the wrapper type of its service. -/
def instantiationLine (service : Service) : String := tabbed 1 ("return &" ++ wrapperName service.goName ++ "\x7b")

/-! ## What a file with wrappers declares -/

theorem MethodText.heads {wrapper : String} {method : Method} {text : List String}
    (h : MethodText wrapper method text) : ∀ line ∈ text, HeadIn ('f' :: innerHeads) line := by
  obtain ⟨before, line, after, rfl, ⟨rest, hrest⟩, hinner⟩ := h.signature_line
  have hline : HeadIn ('f' :: innerHeads) line := by simp [HeadIn, ← hrest, signatureHead]
  simp only [List.forall_mem_append, List.forall_mem_cons] at hinner ⊢
  exact ⟨fun other hother => (hinner.1 other hother).mono (by simp), hline,
    fun other hother => (hinner.2 other hother).mono (by simp)⟩

theorem WrapperText.heads {service : Service} {text : List String} (h : WrapperText service text) :
    ∀ line ∈ text, HeadIn ('t' :: 'f' :: innerHeads) line := by
  obtain ⟨logger, client, methods, _, _, hmethods, rfl⟩ := h
  simp only [List.forall_mem_append, List.forall_mem_cons]
  refine ⟨⟨?_, ?_⟩, ?_⟩
  · simp [HeadIn, tabbed, innerHeads]
  · exact forall_mem_flatten hmethods fun _ _ h line hline => (h.heads line hline).mono (by simp)
  · simp [HeadIn]

theorem WrapperText.declarations {service : Service} {text : List String} (h : WrapperText service text) :
    linesStarting "type " text = [declarationLine service] := by
  obtain ⟨logger, client, methods, _, _, hmethods, rfl⟩ := h
  have hfirst : linesStarting "type " ["type " ++ wrapperName service.goName ++ " struct \x7b",
      tabbed 1 ("logger *" ++ logger), tabbed 1 ("client " ++ client), "\x7d", ""] =
      [declarationLine service] := by
    simp [linesStarting, tabbed, declarationLine]
  have hinner : linesStarting "type " methods.flatten = [] := by
    apply linesStarting_eq_nil (by simp : "type ".toList.head? = some 't') (by decide : 't' ∉ 'f' :: innerHeads)
    exact forall_mem_flatten hmethods fun _ _ h => h.heads
  rw [linesStarting_append, linesStarting_append, hfirst, hinner, linesStarting_blank (by decide),
    linesStarting_nil]
  rfl

/-! ## What a provider instantiates -/

theorem FactoryText.factories {context newClientOptions : String} {service : Service} {text : List String}
    (h : FactoryText context newClientOptions service text) :
    StartEach [factoryHead service] (linesStarting "func (p *provider) New" text) := by
  obtain ⟨interface, newClient, _, _, rfl⟩ := h
  have hhead : (factoryHead service).toList <+: (factoryHead service ++ "ctx " ++ context ++
      ", address string) (" ++ interface ++ ", error) \x7b").toList := by
    simp [List.append_assoc]
  rw [linesStarting_cons ⟨(service.goName ++ "(ctx " ++ context ++ ", address string) (" ++ interface ++
    ", error) \x7b").toList, by simp [factoryHead, providerType]⟩]
  have hothers : linesStarting "func (p *provider) New"
      [tabbed 1 ("return &" ++ wrapperName service.goName ++ "\x7b"), tabbed 2 "logger: p.logger,",
       tabbed 2 ("client: " ++ newClient ++ "("), tabbed 3 "p.httpClient.ParseAddress(address),",
       tabbed 3 "p.httpClient,", tabbed 3 (newClientOptions ++ "()...,"), tabbed 2 "),", tabbed 1 "\x7d, nil",
       "\x7d", ""] = [] := by
    simp [linesStarting, tabbed]
  rw [hothers]
  exact .cons hhead .nil

theorem FactoryText.instantiations {context newClientOptions : String} {service : Service} {text : List String}
    (h : FactoryText context newClientOptions service text) :
    linesStarting "\treturn &" text = [instantiationLine service] := by
  obtain ⟨interface, newClient, _, _, rfl⟩ := h
  simp [linesStarting, tabbed, instantiationLine, factoryHead]

theorem ProviderText.factories {services : List Service} {text : List String} (h : ProviderText services text) :
    StartEach (services.map factoryHead) (linesStarting "func (p *provider) New" text) := by
  obtain ⟨logger, httpClient, interface, context, newClientOptions, factories, _, hfactories, rfl⟩ := h
  have hfirst : linesStarting "func (p *provider) New" (providerDeclarations logger httpClient interface) = [] := by
    simp [linesStarting, providerDeclarations, providerFunction, providerType, tabbed]
  rw [linesStarting_append, hfirst, List.nil_append, List.map_eq_flatMap]
  exact startEach_flatten _ (fun service => [factoryHead service]) (fun _ _ h => h.factories) hfactories

theorem ProviderText.instantiations {services : List Service} {text : List String}
    (h : ProviderText services text) :
    linesStarting "\treturn &" text = "\treturn &provider\x7b" :: services.map instantiationLine := by
  obtain ⟨logger, httpClient, interface, context, newClientOptions, factories, _, hfactories, rfl⟩ := h
  have hfirst : linesStarting "\treturn &" (providerDeclarations logger httpClient interface) =
      ["\treturn &provider\x7b"] := by
    simp [linesStarting, providerDeclarations, providerFunction, providerType, tabbed]
  rw [linesStarting_append, hfirst, List.map_eq_flatMap,
    linesStarting_flatten _ (fun service => [instantiationLine service]) (fun _ _ h => h.instantiations) hfactories]
  rfl

theorem FactoryText.heads {context newClientOptions : String} {service : Service} {text : List String}
    (h : FactoryText context newClientOptions service text) :
    ∀ line ∈ text, HeadIn ('t' :: 'f' :: innerHeads) line := by
  obtain ⟨interface, newClient, _, _, rfl⟩ := h
  simp [HeadIn, factoryHead, tabbed, innerHeads]

theorem ProviderText.heads {services : List Service} {text : List String} (h : ProviderText services text) :
    ∀ line ∈ text, HeadIn ('t' :: 'f' :: innerHeads) line := by
  obtain ⟨logger, httpClient, interface, context, newClientOptions, factories, _, hfactories, rfl⟩ := h
  rw [List.forall_mem_append]
  refine ⟨?_, forall_mem_flatten hfactories fun _ _ h => h.heads⟩
  simp [HeadIn, providerDeclarations, providerFunction, providerType, tabbed, innerHeads]

/-! ## Imports and declarations -/

namespace GenerationUnit

/-- No import that is bound in a file of a unit has the name of a declaration of the unit. -/
theorem aliases_not_declared {target : Target} {source : SourceFile} {idents : List Ident}
    {texts lines : List String} (himports : source.imports = target.table.resolved idents)
    (hlines : lines = source.headerText ++ "" :: texts)
    (hheads : ∀ line ∈ texts, HeadIn ('t' :: 'f' :: innerHeads) line) :
    ∀ bound ∈ SourceFile.importAliases lines, bound ∉ target.declarations := by
  have hcons := target.table_consistent.resolved idents
  have htexts : ∀ line ∈ texts, line ≠ "import (" := by
    rintro line hline rfl
    exact absurd (hheads _ hline 'i' (by simp)) (by decide)
  intro bound hbound hmem
  rw [SourceFile.importAliases_eq (himports ▸ hcons) hlines htexts, himports] at hbound
  obtain ⟨entry, hentry, rfl⟩ := List.mem_map.mp hbound
  have hreserved := (Imports.resolved_extends target.table idents).reserved.subset hmem
  exact (hcons.free entry ((SourceFile.mem_sorted _ _).mp hentry)).2.2 hreserved

theorem services_eq (unit : GenerationUnit) : unit.services = unit.serviceFiles.flatMap (·.services) := by
  unfold services serviceFiles
  induction unit.files with
  | nil => rfl
  | cons file rest ih =>
    by_cases hempty : file.services.isEmpty = true
    · have hnil : file.services = [] := by simpa using hempty
      rw [List.filter_cons_of_neg (by simp [hempty]), List.flatMap_cons, hnil, ih]
      rfl
    · rw [List.filter_cons_of_pos (by simpa using hempty), List.flatMap_cons, List.flatMap_cons, ih]

end GenerationUnit

/-! ## Coherence -/

/-- The artifact is the file of a schema file and declares the wrapper types of its services. -/
structure DeclaresServices (options : Options) (unit : GenerationUnit) (file : File) (artifact : Artifact) :
    Prop where
  kind : artifact.kind = .file
  name : options.sourceFileName unit file.name = .ok artifact.name
  declared : linesStarting "type " artifact.lines = file.services.map declarationLine

/-- The file with the provider of a unit and the files with its wrappers fit together. -/
structure Coherent (options : Options) (unit : GenerationUnit) (provider : Artifact) (wrappers : List Artifact) :
    Prop where
  kind : provider.kind = .unit
  name : options.unitFileName unit = .ok provider.name
  files : List.Forall₂ (DeclaresServices options unit) unit.serviceFiles wrappers
  factories : StartEach (unit.services.map factoryHead) (linesStarting "func (p *provider) New" provider.lines)
  factoryNames : (unit.services.map fun service => "New" ++ service.goName).Nodup
  instantiated : linesStarting "\treturn &" provider.lines =
    "\treturn &provider\x7b" :: unit.services.map instantiationLine
  declared : wrappers.flatMap (fun artifact => linesStarting "type " artifact.lines) =
    unit.services.map declarationLine
  distinct : (GenerationUnit.wrapperNames unit.services).Nodup
  apart : ∀ artifact ∈ provider :: wrappers, ∀ bound ∈ SourceFile.importAliases artifact.lines,
    bound ∉ providerFunction :: providerType :: GenerationUnit.wrapperNames unit.services

namespace GenerationUnit

variable {options : Options} {unit : GenerationUnit} {target : Target} {unreadable : List String} {file : File}
  {source : SourceFile}

theorem declares_of_wrapperFile {files : List File} (htarget : unit.target options = .ok target)
    (hcollects : unit.Collects files) (hnames : ∀ name ∈ files.flatMap File.goNames, IsIdentifier name)
    (honeLine : ∀ text ∈ options.wrapperTexts ++ files.flatMap File.headerTexts, '\n' ∉ text.toList)
    (hfile : file ∈ unit.serviceFiles) (h : unit.wrapperFile options target unreadable file = .ok source) :
    DeclaresServices options unit file source.artifact ∧
      ∀ bound ∈ SourceFile.importAliases source.artifact.lines, bound ∉ target.declarations := by
  obtain ⟨texts, rest, htexts, hrest, hlines⟩ := lines_of_serviceFile htarget hcollects hnames honeLine hfile h
  obtain ⟨hkind, _, hname⟩ := kind_of_wrapperFile h
  have hdeclared : linesStarting "type " source.artifact.lines = file.services.map declarationLine := by
    have hall := linesStarting_flatten _ (fun service => [declarationLine service])
      (fun _ _ h => WrapperText.declarations h) htexts
    rw [hrest, linesStarting_append, linesStarting_blank (by decide), linesStarting_nil, List.append_nil] at hall
    rw [SourceFile.linesStarting_content hlines (source.linesStarting_header
      (by simp : "type ".toList.head? = some 't') (by decide)) (by decide), hall, List.map_eq_flatMap]
  refine ⟨⟨hkind, hname, hdeclared⟩, ?_⟩
  have hheads := forall_mem_flatten htexts fun _ _ h => h.heads
  rw [hrest, List.forall_mem_append] at hheads
  obtain ⟨_, wrappers, imports, _, hwrappers, rfl⟩ := wrapperFile_ok h
  exact aliases_not_declared (eq_resolved_of_gives_wrappers hwrappers) hlines hheads.1

theorem provides_of_providerFile (htarget : unit.target options = .ok target)
    (h : unit.providerFile options target = .ok source)
    (hnames : ∀ service ∈ unit.services, IsIdentifier service.goName)
    (hoptions : ∀ text ∈ options.printedTexts, '\n' ∉ text.toList)
    (hpath : '\n' ∉ unit.importPath.toList) (hpackage : '\n' ∉ unit.packageName.toList) :
    StartEach (unit.services.map factoryHead) (linesStarting "func (p *provider) New" source.artifact.lines) ∧
      linesStarting "\treturn &" source.artifact.lines =
        "\treturn &provider\x7b" :: unit.services.map instantiationLine ∧
      ∀ bound ∈ SourceFile.importAliases source.artifact.lines, bound ∉ target.declarations := by
  obtain ⟨text, htext, hlines⟩ := lines_providerFile htarget h hnames hoptions hpath hpackage
  obtain ⟨_, provider, imports, _, hprovider, rfl⟩ := providerFile_ok h
  obtain ⟨_, _, _, _, himports⟩ := eq_resolved_of_gives_provider hprovider
  refine ⟨?_, ?_, aliases_not_declared himports hlines htext.heads⟩
  · rw [SourceFile.linesStarting_content hlines (SourceFile.linesStarting_header _
      (by simp : "func (p *provider) New".toList.head? = some 'f') (by decide)) (by decide)]
    exact htext.factories
  · have hcons : imports.Consistent := himports ▸ target.table_consistent.resolved _
    rw [SourceFile.linesStarting_content hlines (SourceFile.linesStarting_return_header hcons) (by decide)]
    exact htext.instantiations

theorem factoryNames_nodup (h : (wrapperNames unit.services).Nodup) :
    (unit.services.map fun service => "New" ++ service.goName).Nodup := by
  have hnames : (unit.services.map (·.goName)).Nodup := by
    apply List.Nodup.of_map wrapperName
    rwa [List.map_map]
  have hinjective : Function.Injective ("New" ++ · : String → String) :=
    fun _ _ h => (String.append_right_inj _).mp h
  have hfactories := hnames.map hinjective
  rwa [List.map_map] at hfactories

theorem Collects.exists_file {files : List File} (h : unit.Collects files) (hservices : unit.hasServices = true) :
    ∃ file ∈ files, file.services ≠ [] ∧ file.importPath = unit.importPath ∧
      file.packageName = unit.packageName := by
  have hne : unit.services ≠ [] := by simpa [hasServices] using hservices
  obtain ⟨service, hservice⟩ := List.exists_mem_of_ne_nil _ hne
  obtain ⟨file, hfile, hservice⟩ := List.mem_flatMap.mp hservice
  exact ⟨file, (h file hfile).1, List.ne_nil_of_mem hservice, (h file hfile).2⟩

theorem Collects.service_names {files : List File} (h : unit.Collects files)
    (hnames : ∀ name ∈ files.flatMap File.goNames, IsIdentifier name) :
    ∀ service ∈ unit.services, IsIdentifier service.goName := by
  intro service hservice
  obtain ⟨file, hfile, hservice⟩ := List.mem_flatMap.mp hservice
  have hname : service.goName ∈ file.goNames := List.mem_flatMap.mpr ⟨service, hservice, List.mem_cons_self⟩
  exact hnames _ (List.mem_flatMap.mpr ⟨file, (h file hfile).1, hname⟩)

theorem declared_of_files {wrappers : List Artifact}
    (h : List.Forall₂ (DeclaresServices options unit) unit.serviceFiles wrappers) :
    wrappers.flatMap (fun artifact => linesStarting "type " artifact.lines) =
      unit.services.map declarationLine := by
  rw [services_eq]
  generalize unit.serviceFiles = files at h ⊢
  induction h with
  | nil => rfl
  | cons hfile _ ih => rw [List.flatMap_cons, List.flatMap_cons, List.map_append, hfile.declared, ih]

theorem coherent_of_sourceFiles {files : List File} {sources : List SourceFile}
    (h : unit.sourceFiles options unreadable = .ok sources) (hservices : unit.hasServices = true)
    (hcollects : unit.Collects files) (hnames : ∀ name ∈ files.flatMap File.goNames, IsIdentifier name)
    (honeLine : ∀ text ∈ options.printedTexts ++ files.flatMap File.headerTexts, '\n' ∉ text.toList) :
    ∃ provider wrappers, sources.map SourceFile.artifact = provider :: wrappers ∧
      Coherent options unit provider wrappers := by
  obtain ⟨target, first, others, htarget, hfirst, hothers, rfl⟩ := sourceFiles_ok h
  obtain ⟨_, _, hdeclarations, hnodup⟩ := target_ok htarget
  rw [List.forall_mem_append] at honeLine
  have hheader {file : File} (hfile : file ∈ files) {text : String} (htext : text ∈ file.headerTexts) :
      '\n' ∉ text.toList := honeLine.2 text (List.mem_flatMap.mpr ⟨file, hfile, htext⟩)
  have hprinted : ∀ text ∈ options.wrapperTexts ++ files.flatMap File.headerTexts, '\n' ∉ text.toList := by
    rw [List.forall_mem_append]
    exact ⟨fun text htext => honeLine.1 text (options.wrapperTexts_subset htext), honeLine.2⟩
  have hwrappers : List.Forall₂ (fun file source => DeclaresServices options unit file source.artifact ∧
      ∀ bound ∈ SourceFile.importAliases source.artifact.lines, bound ∉ target.declarations)
      unit.serviceFiles others :=
    forall₂_imp_of_mem (fun _ hfile _ => declares_of_wrapperFile htarget hcollects hnames hprinted hfile) hothers
  -- the path and the package name of a unit are those of any of its files
  obtain ⟨file, hfile, hsome, hpath, hpackage⟩ := hcollects.exists_file hservices
  obtain ⟨_, hpackageText, hpathText⟩ := File.mem_headerTexts hsome
  obtain ⟨hfactories, hinstantiated, hprovided⟩ := provides_of_providerFile htarget hfirst
    (hcollects.service_names hnames) honeLine.1 (hpath ▸ hheader hfile hpathText)
    (hpackage ▸ hheader hfile hpackageText)
  have hdistinct : (wrapperNames unit.services).Nodup := by
    rw [hdeclarations] at hnodup
    exact hnodup.of_cons.of_cons
  have hfiles : List.Forall₂ (DeclaresServices options unit) unit.serviceFiles (others.map SourceFile.artifact) := by
    rw [List.forall₂_map_right_iff]
    exact hwrappers.imp fun _ _ h => h.1
  have hapart : ∀ artifact ∈ first.artifact :: others.map SourceFile.artifact,
      ∀ bound ∈ SourceFile.importAliases artifact.lines, bound ∉ target.declarations := by
    rw [List.forall_mem_cons]
    refine ⟨hprovided, fun artifact hartifact => ?_⟩
    obtain ⟨source, hsource, rfl⟩ := List.mem_map.mp hartifact
    obtain ⟨_, _, hdeclares⟩ := exists_of_forall₂_right hwrappers hsource
    exact hdeclares.2
  exact ⟨first.artifact, others.map SourceFile.artifact, rfl, {
    kind := (kind_of_providerFile hfirst).1
    name := (kind_of_providerFile hfirst).2
    files := hfiles
    factories := hfactories
    factoryNames := factoryNames_nodup hdistinct
    instantiated := hinstantiated
    declared := declared_of_files hfiles
    distinct := hdistinct
    apart := hdeclarations ▸ hapart }⟩

end GenerationUnit

/-- A run that succeeds gives the files of one unit after the other, each unit with the file of its
provider first. If the Go names are identifiers and no printed text breaks a line, the files of each unit
are coherent. -/
theorem generate_coherent {options : Options} {files : List File} {unreadable : List String}
    {artifacts : List Artifact} (named : ∀ name ∈ files.flatMap File.goNames, IsIdentifier name)
    (oneLine : ∀ text ∈ options.printedTexts ++ files.flatMap File.headerTexts, '\n' ∉ text.toList)
    (h : generate options files unreadable = .ok artifacts) :
    ∃ units parts, GenerationUnit.group files = .ok units ∧ artifacts = parts.flatten ∧
      List.Forall₂ (fun unit part => ∃ provider wrappers, part = provider :: wrappers ∧
        Coherent options unit provider wrappers) units parts := by
  obtain ⟨units, sources, hunits, hsources, rfl⟩ := generate_ok h
  have hcollects := GenerationUnit.group_collects hunits
  refine ⟨units, sources.map (·.map SourceFile.artifact), hunits, List.map_flatten, ?_⟩
  rw [List.forall₂_map_right_iff]
  refine forall₂_imp_of_mem (fun unit hunit part hpart => ?_) hsources
  obtain ⟨hservices, hfiles⟩ := hcollects unit hunit
  exact GenerationUnit.coherent_of_sourceFiles hpart hservices hfiles named oneLine

/-- Two units. The first has a file without services, and one of its wrappers has the name of an import. -/
def shopFiles : List File :=
  [bookshop,
   { name := "shop/note.proto", package := "shop", importPath := "shop/shelf", packageName := "shelf" },
   { name := "shop/till.proto", package := "shop", importPath := "shop/shelf", packageName := "shelf"
     services := [{ name := "Z", goName := "Z", fullName := "shop.Z" }] },
   { name := "mail.proto", package := "mail", importPath := "mail", packageName := "mail"
     services := [{ name := "Send", goName := "Send", fullName := "mail.Send" }] }]

theorem generate_coherent_shop :
    ∃ artifacts parts, generate shortOptions shopFiles = .ok artifacts ∧ artifacts = parts.flatten ∧
      List.Forall₂ (fun unit part => ∃ provider wrappers, part = provider :: wrappers ∧
        Coherent shortOptions unit provider wrappers)
        [⟨"shop/shelf", "shelf", shopFiles.take 3⟩, ⟨"mail", "mail", shopFiles.drop 3⟩] parts := by
  have hrun : (generate shortOptions shopFiles).toOption.isSome = true := by decide +kernel
  have hgroup : GenerationUnit.group shopFiles =
      .ok [⟨"shop/shelf", "shelf", shopFiles.take 3⟩, ⟨"mail", "mail", shopFiles.drop 3⟩] := by rfl
  cases h : generate shortOptions shopFiles with
  | error failure => simp [h, Except.toOption] at hrun
  | ok artifacts =>
    obtain ⟨units, parts, hunits, hparts, hcoherent⟩ :=
      generate_coherent (by decide) (by decide) h
    rw [hgroup] at hunits
    cases hunits
    exact ⟨artifacts, parts, rfl, hparts, hcoherent⟩

/-- A file whose name breaks a line of the header of its generated file. -/
def declaringName : File :=
  { name := "a\ntype x struct \x7b", package := "p", importPath := "p", packageName := "p"
    services := [{ name := "Svc", goName := "Svc", fullName := "p.Svc" }] }

theorem declaringName_adds_declaration :
    (∀ name ∈ [declaringName].flatMap File.goNames, IsIdentifier name) ∧
    declaringName.services.map declarationLine = ["type svc struct \x7b"] ∧
    (generate shortOptions [declaringName]).toOption.map (fun artifacts =>
      (artifacts.filter (·.kind = .file)).map fun artifact => linesStarting "type " artifact.lines) =
      some [["type x struct \x7b", "type svc struct \x7b"]] := by
  refine ⟨?_, ?_, ?_⟩ <;> decide +kernel

end RpcClients
