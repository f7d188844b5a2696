import RpcClients.Proofs.Generation
import RpcClients.Proofs.MethodText

/-! # The text of wrappers

The file of a schema file declares one type per service and prints the methods of the service behind it,
in the order of the schema. -/

namespace RpcClients

open Resolving Indentation Naming

/-- The text of the wrapper of a service. -/
def WrapperText (service : Service) (text : List String) : Prop :=
  ∃ logger client methods, Reference logger ∧ Reference client ∧
    List.Forall₂ (MethodText (wrapperName service.goName)) service.methods methods ∧
    text = ["type " ++ wrapperName service.goName ++ " struct \x7b", tabbed 1 ("logger *" ++ logger),
      tabbed 1 ("client " ++ client), "\x7d", ""] ++ methods.flatten ++ [""]

/-! ## How a wrapper is laid out -/

theorem Indentation.Laid.of_placed {α β : Type} {related : α → List String → Prop} {printed : β → List String}
    {depth : Nat} {items : List α} {values : List β}
    (h : List.Forall₂ (fun item value => ∃ text, (related item text ∧ ∀ line ∈ text, Placed line) ∧
      Laid depth (printed value) text depth) items values) :
    ∃ texts, (List.Forall₂ related items texts ∧ ∀ line ∈ texts.flatten, Placed line) ∧
      Laid depth (values.flatMap printed) texts.flatten depth := by
  obtain ⟨texts, htexts, hlaid⟩ := Laid.of_forall₂ h
  refine ⟨texts, ⟨htexts.imp fun _ _ hitem => hitem.1, ?_⟩, hlaid⟩
  intro line hline
  obtain ⟨text, htext, hline⟩ := List.mem_flatten.mp hline
  obtain ⟨_, _, _, hplaced⟩ := exists_of_forall₂_right htexts htext
  exact hplaced line hline

theorem Wrapper.placed_declaration (name logger client : String) :
    ∀ line ∈ ["type " ++ name ++ " struct \x7b", tabbed 1 ("logger *" ++ logger), tabbed 1 ("client " ++ client),
      "\x7d", ""], Placed line := by
  simp only [List.forall_mem_cons, List.not_mem_nil, false_implies, implies_true, and_true]
  exact ⟨.declaration (by simp [declares]), .behind (by decide) 0 _, .behind (by decide) 0 _,
    .closing (by decide), .blank⟩

theorem Wrapper.laid_declaration {wrapper : Wrapper} (hname : IsIdentifier wrapper.name)
    (hlogger : Reference wrapper.logger) (hclient : Reference wrapper.client) :
    Laid 0 ["type " ++ wrapper.name ++ " struct \x7b", "logger *" ++ wrapper.logger,
        "client " ++ wrapper.client, "\x7d", ""]
      ["type " ++ wrapper.name ++ " struct \x7b", tabbed 1 ("logger *" ++ wrapper.logger),
        tabbed 1 ("client " ++ wrapper.client), "\x7d", ""] 0 := by
  have htype : CodeLine ("type " ++ wrapper.name ++ " struct \x7b") 0 1 0 :=
    (((Shaped.refl "type ").append (item_of_isWord hname.isWord)).append
      (.refl " struct \x7b")).codeLine (by decide)
  have hfirst : CodeLine ("logger *" ++ wrapper.logger) 0 0 0 :=
    ((Shaped.refl "logger *").append hlogger.item).codeLine (by decide)
  have hsecond : CodeLine ("client " ++ wrapper.client) 0 0 0 :=
    ((Shaped.refl "client ").append hclient.item).codeLine (by decide)
  have hclose : CodeLine "\x7d" 1 0 1 := (Shaped.refl _).codeLine (by decide)
  exact .code htype (by decide) (by decide) (.code hfirst (by decide) (by decide)
    (.code hsecond (by decide) (by decide) (.code hclose (by decide) (by decide) (.blank .nil))))

namespace Service

def idents (importPath : String) (service : Service) : List Ident :=
  ⟨service.goName, importPath⟩ :: service.methods.flatMap Method.idents

theorem gives_wrapped_iff {service : Service} {importPath context logger : String}
    {unreadable : List String} {table next : Imports} {wrapper : Wrapper} :
    Gives (service.wrapped importPath context logger unreadable) table wrapper next ↔
      ∃ client middle methods, table.qualified ⟨service.goName, importPath⟩ = .ok (client, middle) ∧
        Gives (service.methods.mapM (·.wrapped (wrapperName service.goName) context unreadable))
          middle methods next ∧
        wrapper = { name := wrapperName service.goName, logger, client, methods } := by
  unfold wrapped
  simp only [gives_bind, gives_pure, gives_qualified]
  constructor
  · rintro ⟨client, middle, hclient, methods, _, hmethods, rfl, rfl⟩
    exact ⟨client, middle, methods, hclient, hmethods, rfl⟩
  · rintro ⟨client, middle, methods, hclient, hmethods, rfl⟩
    exact ⟨client, middle, hclient, methods, _, hmethods, rfl, rfl⟩

theorem eq_resolved_of_gives {service : Service} {importPath context logger : String}
    {unreadable : List String} {table next : Imports} {wrapper : Wrapper}
    (h : Gives (service.wrapped importPath context logger unreadable) table wrapper next) :
    next = table.resolved (service.idents importPath) := by
  obtain ⟨client, middle, methods, hclient, hmethods, _⟩ := gives_wrapped_iff.mp h
  rw [eq_resolved_of_gives_mapM (fun _ _ _ _ => Method.eq_resolved_of_gives_wrapped) hmethods,
    Imports.eq_resolved_of_qualified hclient, ← Imports.resolved_append]
  rfl

theorem laid_of_gives {service : Service} {importPath context logger : String}
    {unreadable : List String} {table next : Imports} {wrapper : Wrapper}
    (h : Gives (service.wrapped importPath context logger unreadable) table wrapper next)
    (hcons : table.Consistent) (hcontext : Reference context) (hlogger : Reference logger)
    (hnames : ∀ name ∈ service.goNames, IsIdentifier name) :
    ∃ text, (WrapperText service text ∧ ∀ line ∈ text, Placed line) ∧ Laid 0 wrapper.lines text 0 := by
  obtain ⟨client, middle, methods, hclient, hmethods, rfl⟩ := gives_wrapped_iff.mp h
  rw [goNames, List.forall_mem_cons] at hnames
  have hwrapper := wrapperName_identifier hnames.1
  have hmiddle : middle.Consistent := by
    rw [Imports.eq_resolved_of_qualified hclient]
    exact hcons.resolved _
  have hprinted : List.Forall₂ (fun method emitted => ∃ text,
      (MethodText (wrapperName service.goName) method text ∧ ∀ line ∈ text, Placed line) ∧
        Laid 0 (WrapperMethod.lines emitted) text 0) service.methods methods := by
    refine forall₂_of_gives_mapM hmethods hmiddle ?_
    intro method hmethod before emitted left hbefore hgives
    refine ⟨?_, Method.laid_of_gives hgives hbefore hwrapper hcontext ?_⟩
    · rw [Method.eq_resolved_of_gives_wrapped hgives]
      exact hbefore.resolved _
    · intro name hname
      exact hnames.2 name (List.mem_flatMap.mpr ⟨method, hmethod, hname⟩)
  obtain ⟨texts, ⟨htexts, hplaced⟩, hlaid⟩ := Laid.of_placed hprinted
  have hreference := reference_of_qualified hcons hnames.1.isWord hclient
  refine ⟨_, ⟨⟨logger, client, texts, hlogger, hreference, htexts, rfl⟩, ?_⟩, ?_⟩
  · rw [List.forall_mem_append, List.forall_mem_append, List.forall_mem_singleton]
    exact ⟨⟨Wrapper.placed_declaration _ _ _, hplaced⟩, .blank⟩
  · exact ((Wrapper.laid_declaration hwrapper hlogger hreference).append hlaid).append (.blank .nil)

end Service

/-! ## The wrappers of a schema file -/

namespace GenerationUnit

theorem gives_wrappers_iff {options : Options} {unit : GenerationUnit} {services : List Service}
    {unreadable : List String} {table next : Imports} {wrappers : List Wrapper} :
    Gives (unit.wrappers options services unreadable) table wrappers next ↔
      ∃ contextPath zapPath context logger first second,
        options.contextPath = some contextPath ∧ options.zapPath = some zapPath ∧
        table.qualified ⟨"Context", contextPath⟩ = .ok (context, first) ∧
        first.qualified ⟨"Logger", zapPath⟩ = .ok (logger, second) ∧
        Gives (services.mapM (·.wrapped unit.importPath context logger unreadable)) second wrappers next := by
  unfold GenerationUnit.wrappers
  simp only [gives_bind, gives_member]
  constructor
  · rintro ⟨context, first, ⟨contextPath, hpath, hcontext⟩, logger, second, ⟨zapPath, hpath', hlogger⟩, h⟩
    exact ⟨contextPath, zapPath, context, logger, first, second, hpath, hpath', hcontext, hlogger, h⟩
  · rintro ⟨contextPath, zapPath, context, logger, first, second, hpath, hpath', hcontext, hlogger, h⟩
    exact ⟨context, first, ⟨contextPath, hpath, hcontext⟩, logger, second, ⟨zapPath, hpath', hlogger⟩, h⟩

theorem laid_of_gives_wrappers {options : Options} {unit : GenerationUnit} {services : List Service}
    {unreadable : List String} {table next : Imports} {wrappers : List Wrapper}
    (h : Gives (unit.wrappers options services unreadable) table wrappers next) (hcons : table.Consistent)
    (hnames : ∀ name ∈ services.flatMap Service.goNames, IsIdentifier name) :
    ∃ texts, (List.Forall₂ WrapperText services texts ∧ ∀ line ∈ texts.flatten, Placed line) ∧
      Laid 0 (wrappers.flatMap Wrapper.lines) texts.flatten 0 := by
  obtain ⟨contextPath, zapPath, context, logger, first, second, _, _, hcontext, hlogger, hwrappers⟩ :=
    gives_wrappers_iff.mp h
  have hfirst : first.Consistent := Imports.eq_resolved_of_qualified hcontext ▸ hcons.resolved _
  have hsecond : second.Consistent := Imports.eq_resolved_of_qualified hlogger ▸ hfirst.resolved _
  have hcontext := reference_of_qualified hcons (by decide : IsIdentifier "Context").isWord hcontext
  have hlogger := reference_of_qualified hfirst (by decide : IsIdentifier "Logger").isWord hlogger
  apply Laid.of_placed
  refine forall₂_of_gives_mapM hwrappers hsecond ?_
  intro service hservice before wrapper left hbefore hgives
  refine ⟨?_, Service.laid_of_gives hgives hbefore hcontext hlogger ?_⟩
  · rw [Service.eq_resolved_of_gives hgives]
    exact hbefore.resolved _
  · intro name hname
    exact hnames name (List.mem_flatMap.mpr ⟨service, hservice, hname⟩)

def wrapperIdents (options : Options) (unit : GenerationUnit) (services : List Service) : List Ident :=
  options.contextPath.toList.map (⟨"Context", ·⟩) ++ options.zapPath.toList.map (⟨"Logger", ·⟩) ++
    services.flatMap (Service.idents unit.importPath)

theorem eq_resolved_of_gives_wrappers {options : Options} {unit : GenerationUnit} {services : List Service}
    {unreadable : List String} {table next : Imports} {wrappers : List Wrapper}
    (h : Gives (unit.wrappers options services unreadable) table wrappers next) :
    next = table.resolved (unit.wrapperIdents options services) := by
  obtain ⟨contextPath, zapPath, context, logger, first, second, hpath, hpath', hcontext, hlogger, hwrappers⟩ :=
    gives_wrappers_iff.mp h
  rw [eq_resolved_of_gives_mapM (fun _ _ _ _ => Service.eq_resolved_of_gives) hwrappers,
    Imports.eq_resolved_of_qualified hlogger, Imports.eq_resolved_of_qualified hcontext,
    ← Imports.resolved_append, ← Imports.resolved_append]
  simp [wrapperIdents, hpath, hpath']

end GenerationUnit

/-! ## Generated files -/

theorem WrapperText.ends {service : Service} {text : List String} (h : WrapperText service text) :
    ["\x7d", "", ""] <:+ text := by
  obtain ⟨logger, client, methods, _, _, hmethods, rfl⟩ := h
  have hlast : ["\x7d", ""] <:+ ["type " ++ wrapperName service.goName ++ " struct \x7b",
      tabbed 1 ("logger *" ++ logger), tabbed 1 ("client " ++ client), "\x7d", ""] ++ methods.flatten := by
    rcases List.eq_nil_or_concat service.methods with hnone | ⟨_, _, hsome⟩
    · rw [hnone, List.forall₂_nil_left_iff] at hmethods
      simp [hmethods, List.suffix_cons_iff]
    · apply List.suffix_append_of_suffix
      exact suffix_flatten hmethods (by simp [hsome]) fun _ _ h => h.ends
  obtain ⟨before, hbefore⟩ := hlast
  exact ⟨before, by rw [← hbefore]; simp⟩

/-- The texts of options that are printed into the files with wrappers. -/
def Options.wrapperTexts (options : Options) : List String :=
  options.pluginName.toList ++ options.contextPath.toList ++ options.zapPath.toList

/-- The texts of a schema file that are printed into the headers of generated files. -/
def File.headerTexts (file : File) : List String :=
  file.services.flatMap fun service =>
    file.name :: file.packageName :: (service.idents file.importPath).map (·.importPath)

theorem Options.wrapperTexts_subset (options : Options) : options.wrapperTexts ⊆ options.printedTexts := by
  intro text
  simp only [wrapperTexts, printedTexts, List.mem_append]
  tauto

theorem File.mem_headerTexts {file : File} (h : file.services ≠ []) :
    file.name ∈ file.headerTexts ∧ file.packageName ∈ file.headerTexts ∧ file.importPath ∈ file.headerTexts := by
  obtain ⟨service, hservice⟩ := List.exists_mem_of_ne_nil _ h
  refine ⟨?_, ?_, ?_⟩ <;> refine List.mem_flatMap.mpr ⟨service, hservice, ?_⟩ <;> simp [Service.idents]

namespace GenerationUnit

theorem newline_not_mem_wrapperIdents {options : Options} {unit : GenerationUnit} {file : File}
    (hunit : file.importPath = unit.importPath)
    (honeLine : ∀ text ∈ options.wrapperTexts ++ file.headerTexts, '\n' ∉ text.toList) :
    ∀ ident ∈ unit.wrapperIdents options file.services, '\n' ∉ ident.importPath.toList := by
  intro ident hident
  apply honeLine
  simp only [wrapperIdents, List.mem_append, List.mem_map, List.mem_flatMap] at hident
  rcases hident with (⟨path, hpath, rfl⟩ | ⟨path, hpath, rfl⟩) | ⟨service, hservice, hident⟩
  · simp_all [Options.wrapperTexts]
  · simp_all [Options.wrapperTexts]
  · refine List.mem_append_right _ (List.mem_flatMap.mpr ⟨service, hservice, ?_⟩)
    rw [hunit]
    exact List.mem_cons_of_mem _ (List.mem_cons_of_mem _ (List.mem_map_of_mem hident))

/-- The lines of the file with the wrappers of a schema file. Of the empty lines at the end of the text
the file has one less. -/
theorem lines_wrapperFile {options : Options} {unit : GenerationUnit} {target : Target}
    {unreadable : List String} {file : File} {source : SourceFile} (htarget : unit.target options = .ok target)
    (h : unit.wrapperFile options target unreadable file = .ok source)
    (hunit : file.importPath = unit.importPath ∧ file.packageName = unit.packageName)
    (hservices : file.services ≠ []) (hnames : ∀ name ∈ file.goNames, IsIdentifier name)
    (honeLine : ∀ text ∈ options.wrapperTexts ++ file.headerTexts, '\n' ∉ text.toList) :
    ∃ texts rest, List.Forall₂ WrapperText file.services texts ∧ texts.flatten = rest ++ [""] ∧
      source.artifact.lines = source.headerText ++ "" :: rest := by
  obtain ⟨name, wrappers, imports, _, hwrappers, rfl⟩ := wrapperFile_ok h
  obtain ⟨texts, ⟨htexts, _⟩, hlaid⟩ := laid_of_gives_wrappers hwrappers target.table_consistent hnames
  obtain rfl := eq_resolved_of_gives_wrappers hwrappers
  obtain ⟨before, hbefore⟩ := suffix_flatten htexts hservices fun _ _ h => h.ends
  have htext : texts.flatten = before ++ ["\x7d"] ++ List.replicate 2 "" := by
    rw [← hbefore]
    simp
  refine ⟨texts, before ++ ["\x7d", ""], htexts, by simp [htext], Target.lines_filed ?_ (htext ▸ hlaid)⟩
  obtain ⟨hname, hpackageName, _⟩ := File.mem_headerTexts hservices
  apply Target.newline_not_mem_filed htarget
  · intro plugin hplugin
    rw [Option.mem_def] at hplugin
    exact honeLine _ (by simp [Options.wrapperTexts, hplugin])
  · exact hunit.2 ▸ honeLine _ (List.mem_append_right _ hpackageName)
  · simpa using honeLine _ (List.mem_append_right _ hname)
  · exact newline_not_mem_wrapperIdents hunit.1 honeLine

theorem lines_of_serviceFile {options : Options} {files : List File} {unit : GenerationUnit} {target : Target}
    {unreadable : List String} {file : File} {source : SourceFile} (htarget : unit.target options = .ok target)
    (hcollects : unit.Collects files) (hnames : ∀ name ∈ files.flatMap File.goNames, IsIdentifier name)
    (honeLine : ∀ text ∈ options.wrapperTexts ++ files.flatMap File.headerTexts, '\n' ∉ text.toList)
    (hfile : file ∈ unit.serviceFiles) (h : unit.wrapperFile options target unreadable file = .ok source) :
    ∃ texts rest, List.Forall₂ WrapperText file.services texts ∧ texts.flatten = rest ++ [""] ∧
      source.artifact.lines = source.headerText ++ "" :: rest := by
  obtain ⟨hfile, hservices⟩ := List.mem_filter.mp hfile
  obtain ⟨hmem, hunit⟩ := hcollects file hfile
  apply lines_wrapperFile htarget h hunit (by simpa using hservices)
  · intro name hname
    exact hnames name (List.mem_flatMap.mpr ⟨file, hmem, hname⟩)
  · rw [List.forall_mem_append] at honeLine ⊢
    exact ⟨honeLine.1, fun text htext => honeLine.2 text (List.mem_flatMap.mpr ⟨file, hmem, htext⟩)⟩

end GenerationUnit

end RpcClients
