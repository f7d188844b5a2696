import Mathlib.Data.List.TakeWhile
import RpcClients.Proofs.EmittedMethods
import RpcClients.Proofs.LoadedNames
import RpcClients.Proofs.PrintedReferences

/-! # Imports and their uses

The body of a generated file refers to imported packages only. It refers to all of them, but for the
package of contexts: the file of a schema file imports it even if there is no method that takes a context. -/

namespace RpcClients

open Resolving Indentation Naming

/-! ## What a body refers to -/

namespace SourceFile

/-- A line of the body refers to the package with this alias. -/
def RefersTo (file : SourceFile) (bound : String) : Prop := ∃ line ∈ file.body, bound ∈ packageReferences line

/-- The import block lists exactly the aliases that the body refers to. -/
def ImportsUsed (file : SourceFile) : Prop :=
  ∀ bound, bound ∈ file.imports.sorted.map (·.2) ↔ file.RefersTo bound

theorem refersTo_iff {file : SourceFile} {texts : List String} {after : Nat} {bound : String}
    (h : Laid 0 file.lines texts after) : file.RefersTo bound ↔ bound ∈ file.lines.flatMap packageReferences := by
  rw [← h.references_eq, List.mem_flatMap, RefersTo, body, h.indentLines_eq]
  constructor
  · rintro ⟨line, hline, hbound⟩
    refine ⟨line, ?_, hbound⟩
    rw [List.mem_reverse] at hline
    exact List.mem_reverse.mp ((List.dropWhile_suffix _).subset hline)
  · rintro ⟨line, hline, hbound⟩
    refine ⟨line, ?_, hbound⟩
    -- only empty lines are cut off, and they refer to nothing
    rw [List.mem_reverse]
    rw [← List.mem_reverse, ← List.takeWhile_append_dropWhile (p := (· = "")) (l := texts.reverse),
      List.mem_append] at hline
    rcases hline with hcut | hkept
    · have hempty : line = "" := by simpa using List.mem_takeWhile_imp hcut
      rw [hempty, packageReferences_of_no_dot (by simp)] at hbound
      cases hbound
    · exact hkept

end SourceFile

namespace GenerationUnit

/-- A file that is printed from lines imports the packages of the identifiers that they were made for, and
refers to those of the identifiers that they were printed with. -/
theorem Target.imports_filed {target : Target} {name : String} {kind : ArtifactKind} {source : Option String}
    {lines texts : List String} {idents printed : List Ident} (hlaid : Laid 0 lines texts 0)
    (hreferences : lines.flatMap packageReferences = printed.filterMap (target.table.resolved idents).aliasFor)
    (bound : String) :
    (bound ∈ (target.filed name kind source lines (target.table.resolved idents)).imports.sorted.map (·.2) ↔
      ∃ ident ∈ idents, (target.table.resolved idents).aliasFor ident = some bound) ∧
    ((target.filed name kind source lines (target.table.resolved idents)).RefersTo bound ↔
      ∃ ident ∈ printed, (target.table.resolved idents).aliasFor ident = some bound) := by
  have hlines : (target.filed name kind source lines (target.table.resolved idents)).lines = lines :=
    Text.flatMap_split hlaid.oneLine.1
  constructor
  · rw [← Imports.mem_aliases_resolved_iff rfl]
    simp only [filed, List.mem_map, SourceFile.mem_sorted]
  · rw [SourceFile.refersTo_iff (hlines.symm ▸ hlaid), hlines, hreferences, List.mem_filterMap]

/-! ## Providers -/

theorem mem_printedIdents_iff {options : Options} {unit : GenerationUnit} {paths : ProviderPaths}
    (hpaths : unit.HasPaths options paths) (hservices : unit.services ≠ []) (ident : Ident) :
    ident ∈ unit.providerIdents options paths.client paths.api ↔ ident ∈ unit.printedIdents paths := by
  obtain ⟨service, hservice⟩ := List.exists_mem_of_ne_nil _ hservices
  simp only [providerIdents, printedIdents, hpaths.httpClient, hpaths.twirpClient, hpaths.zap, hpaths.context,
    Option.toList_some, List.map_cons, List.map_nil, List.mem_append, List.mem_cons, List.not_mem_nil, or_false,
    List.mem_flatMap, Service.factoryIdents, Service.printedFactoryIdents]
  constructor
  · rintro (((((rfl | rfl) | rfl) | rfl) | rfl) | ⟨other, hother, rfl | rfl⟩)
    · simp
    · exact Or.inr ⟨service, hservice, by simp⟩
    · simp
    · simp
    · exact Or.inr ⟨service, hservice, by simp⟩
    · exact Or.inr ⟨other, hother, by simp⟩
    · exact Or.inr ⟨other, hother, by simp⟩
  · rintro ((rfl | rfl | rfl | rfl | rfl) | ⟨other, hother, rfl | rfl | rfl | rfl⟩)
    · simp
    · simp
    · simp
    · simp
    · simp
    · simp
    · exact Or.inr ⟨other, hother, by simp⟩
    · exact Or.inr ⟨other, hother, by simp⟩
    · simp

theorem importsUsed_of_providerFile {options : Options} {unit : GenerationUnit} {target : Target}
    {source : SourceFile} (h : unit.providerFile options target = .ok source) (hservices : unit.services ≠ [])
    (hnames : ∀ service ∈ unit.services, IsExported service.goName) : source.ImportsUsed := by
  obtain ⟨_, paths, hpaths, hprovider, rfl⟩ := eq_filed_of_providerFile h
  obtain ⟨texts, _, hlaid⟩ := laid_of_gives_provider hprovider target.table_consistent
    fun service hservice => (hnames service hservice).1
  intro bound
  obtain ⟨himported, hreferred⟩ := Target.imports_filed hlaid
    (references_provider (providerTable_consistent _ _ _ _) hnames) bound
  refine himported.trans (Iff.trans ?_ hreferred.symm)
  simp only [mem_printedIdents_iff hpaths hservices]

/-! ## Wrappers -/

def printedWrapperIdents (unit : GenerationUnit) (contextPath zapPath : String) (file : File) : List Ident :=
  file.services.flatMap (Service.printedIdents ⟨"Context", contextPath⟩ ⟨"Logger", zapPath⟩ unit.importPath)

theorem references_wrappers {options : Options} {unit : GenerationUnit} {target : Target}
    {unreadable : List String} {file : File} {source : SourceFile}
    (h : unit.wrapperFile options target unreadable file = .ok source)
    (hnames : ∀ name ∈ file.goNames, IsExported name) :
    ∃ contextPath zapPath, options.contextPath = some contextPath ∧ options.zapPath = some zapPath ∧ ∀ bound,
      (bound ∈ source.imports.sorted.map (·.2) ↔ ∃ ident ∈ unit.wrapperIdents options file.services,
        (unit.wrapperTable options target file).aliasFor ident = some bound) ∧
      (source.RefersTo bound ↔ ∃ ident ∈ unit.printedWrapperIdents contextPath zapPath file,
        (unit.wrapperTable options target file).aliasFor ident = some bound) := by
  obtain ⟨_, wrappers, contextPath, zapPath, hcontext, hzap, hwrappers, rfl, hservices⟩ :=
    eq_filed_of_wrapperFile h
  obtain ⟨texts, _, hlaid⟩ := laid_of_gives_wrappers hwrappers target.table_consistent
    fun name hname => (hnames name hname).1
  refine ⟨contextPath, zapPath, hcontext, hzap, ?_⟩
  refine Target.imports_filed hlaid ?_
  rw [printedWrapperIdents, List.flatMap_assoc, List.filterMap_flatMap]
  refine flatMap_eq_of_forall₂ hservices ?_
  rintro service hservice wrapper ⟨hname, hlogger, hclient, hmethods⟩
  exact Service.references_lines (wrapperTable_consistent _ _ _ _) hname hlogger hclient hmethods
    (by decide : IsExported "Context") (by decide : IsExported "Logger")
    fun name hmem => hnames name (List.mem_flatMap.mpr ⟨service, hservice, hmem⟩)

/-- The text of a schema file's wrappers needs the package of contexts: for a method, or because another
identifier is in it. Or else it need not be imported at all. -/
def NeedsContext (options : Options) (unit : GenerationUnit) (target : Target) (file : File) : Prop :=
  (∃ service ∈ file.services, service.methods ≠ []) ∨
    ∀ path ∈ options.contextPath, path = target.importPath ∨ options.zapPath = some path ∨ path = unit.importPath

instance (options : Options) (unit : GenerationUnit) (target : Target) (file : File) :
    Decidable (unit.NeedsContext options target file) :=
  inferInstanceAs (Decidable ((∃ service ∈ _, _) ∨ ∀ path ∈ _, _))

variable {options : Options} {unit : GenerationUnit} {target : Target} {file : File} {contextPath zapPath : String}

theorem mem_printedWrapperIdents_iff {ident : Ident} :
    ident ∈ unit.printedWrapperIdents contextPath zapPath file ↔
      ∃ service ∈ file.services, ident = ⟨"Logger", zapPath⟩ ∨ ident = ⟨service.goName, unit.importPath⟩ ∨
        ∃ method ∈ service.methods, ident = ⟨"Context", contextPath⟩ ∨ ident ∈ method.idents := by
  have hmethod : ∀ method : Method, ident ∈ method.printedIdents ⟨"Context", contextPath⟩ ↔
      ident = ⟨"Context", contextPath⟩ ∨ ident ∈ method.idents := by
    intro method
    simp only [Method.printedIdents, Method.idents, List.mem_cons, List.mem_append, List.not_mem_nil, or_false]
    exact or_congr_right or_comm
  simp only [printedWrapperIdents, Service.printedIdents, List.mem_flatMap, List.mem_cons, hmethod]

theorem mem_wrapperIdents_iff (hcontext : options.contextPath = some contextPath)
    (hzap : options.zapPath = some zapPath) (hservices : file.services ≠ []) {ident : Ident} :
    ident ∈ unit.wrapperIdents options file.services ↔
      ident = ⟨"Context", contextPath⟩ ∨ ident ∈ unit.printedWrapperIdents contextPath zapPath file := by
  obtain ⟨first, hfirst⟩ := List.exists_mem_of_ne_nil _ hservices
  rw [mem_printedWrapperIdents_iff]
  simp only [wrapperIdents, hcontext, hzap, Option.toList_some, List.map_cons, List.map_nil, List.mem_append,
    List.mem_cons, List.not_mem_nil, or_false, Service.idents, List.mem_flatMap]
  constructor
  · rintro ((rfl | rfl) | ⟨service, hservice, rfl | ⟨method, hmethod, h⟩⟩)
    · exact Or.inl rfl
    · exact Or.inr ⟨first, hfirst, Or.inl rfl⟩
    · exact Or.inr ⟨service, hservice, Or.inr (Or.inl rfl)⟩
    · exact Or.inr ⟨service, hservice, Or.inr (Or.inr ⟨method, hmethod, Or.inr h⟩)⟩
  · rintro (rfl | ⟨service, hservice, rfl | rfl | ⟨method, hmethod, rfl | h⟩⟩)
    · exact Or.inl (Or.inl rfl)
    · exact Or.inl (Or.inr rfl)
    · exact Or.inr ⟨service, hservice, Or.inl rfl⟩
    · exact Or.inl (Or.inl rfl)
    · exact Or.inr ⟨service, hservice, Or.inr ⟨method, hmethod, h⟩⟩

theorem exists_printed_iff (hcontext : options.contextPath = some contextPath)
    (hzap : options.zapPath = some zapPath) (hservices : file.services ≠ [])
    (hforeign : contextPath ≠ target.importPath) :
    (∃ ident ∈ unit.printedWrapperIdents contextPath zapPath file, ident.importPath = contextPath) ↔
      unit.NeedsContext options target file := by
  obtain ⟨first, hfirst⟩ := List.exists_mem_of_ne_nil _ hservices
  simp only [mem_printedWrapperIdents_iff, NeedsContext, hcontext, hzap, Option.mem_some, Option.some.injEq]
  constructor
  · rintro ⟨ident, ⟨service, hservice, h⟩, hpath⟩
    by_cases hmethods : service.methods = []
    · right
      rintro _ rfl
      rcases h with rfl | rfl | ⟨method, hmethod, _⟩
      · exact Or.inr (Or.inl hpath)
      · exact Or.inr (Or.inr hpath.symm)
      · simp [hmethods] at hmethod
    · exact Or.inl ⟨service, hservice, hmethods⟩
  · rintro (⟨service, hservice, hmethods⟩ | h)
    · obtain ⟨method, hmethod⟩ := List.exists_mem_of_ne_nil _ hmethods
      exact ⟨⟨"Context", contextPath⟩, ⟨service, hservice, Or.inr (Or.inr ⟨method, hmethod, Or.inl rfl⟩)⟩, rfl⟩
    · rcases h contextPath rfl with h | h | h
      · exact absurd h hforeign
      · exact ⟨⟨"Logger", zapPath⟩, ⟨first, hfirst, Or.inl rfl⟩, h⟩
      · exact ⟨⟨first.goName, unit.importPath⟩, ⟨first, hfirst, Or.inr (Or.inl rfl)⟩, h.symm⟩

theorem contextAlias_of_wrapperFile {unreadable : List String} {source : SourceFile}
    (h : unit.wrapperFile options target unreadable file = .ok source)
    (hcontext : options.contextPath = some contextPath) :
    contextPath = target.importPath ∨ contextPath ≠ target.importPath ∧
      ∃ bound, (unit.wrapperTable options target file).aliasFor ⟨"Context", contextPath⟩ = some bound := by
  obtain ⟨_, wrappers, _, _, _, _, hwrappers, _, _⟩ := eq_filed_of_wrapperFile h
  obtain ⟨path, _, context, _, first, second, hpath, _, hqualified, hlogger, hmethods⟩ :=
    gives_wrappers_iff.mp hwrappers
  obtain rfl : contextPath = path := Option.some.inj (hcontext.symm.trans hpath)
  have hsecond : second.Extends (unit.wrapperTable options target file) := by
    rw [eq_resolved_of_gives_mapM (fun _ _ _ _ => Service.eq_resolved_of_gives) hmethods]
    exact Imports.resolved_extends _ _
  have hfirst := (Imports.extends_of_qualified hlogger).trans hsecond
  rcases Imports.qualified_cases hqualified with ⟨hown, _⟩ | ⟨hforeign, bound, hbound, _⟩
  · exact Or.inl hown
  · refine Or.inr ⟨hforeign, bound, ?_⟩
    exact (unit.wrapperTable_consistent options target file).aliasFor_eq_some_iff.mpr (hfirst.aliases.subset hbound)

theorem importsUsed_iff_of_wrapperFile {unreadable : List String} {source : SourceFile}
    (h : unit.wrapperFile options target unreadable file = .ok source) (hservices : file.services ≠ [])
    (hnames : ∀ name ∈ file.goNames, IsExported name) :
    (∀ bound, source.RefersTo bound → bound ∈ source.imports.sorted.map (·.2)) ∧
      (source.ImportsUsed ↔ unit.NeedsContext options target file) := by
  obtain ⟨contextPath, zapPath, hcontext, hzap, huses⟩ := references_wrappers h hnames
  have hidents : ∀ ident : Ident, ident ∈ unit.wrapperIdents options file.services ↔ _ :=
    fun _ => mem_wrapperIdents_iff hcontext hzap hservices
  have hlisted : ∀ bound, source.RefersTo bound → bound ∈ source.imports.sorted.map (·.2) := by
    intro bound hbound
    obtain ⟨ident, hident, halias⟩ := (huses bound).2.mp hbound
    exact (huses bound).1.mpr ⟨ident, (hidents ident).mpr (Or.inr hident), halias⟩
  -- the body refers to all imports if it refers to the package of contexts
  have hused : (∀ bound, (unit.wrapperTable options target file).aliasFor ⟨"Context", contextPath⟩ = some bound →
      source.RefersTo bound) ↔ source.ImportsUsed := by
    constructor
    · intro hrefers bound
      refine ⟨fun hbound => ?_, hlisted bound⟩
      obtain ⟨ident, hident, halias⟩ := (huses bound).1.mp hbound
      rcases (hidents ident).mp hident with rfl | hprinted
      · exact hrefers bound halias
      · exact (huses bound).2.mpr ⟨ident, hprinted, halias⟩
    · intro hall bound halias
      exact (hall bound).mp ((huses bound).1.mpr ⟨_, (hidents _).mpr (Or.inl rfl), halias⟩)
  refine ⟨hlisted, hused.symm.trans ?_⟩
  rcases contextAlias_of_wrapperFile h hcontext with hown | ⟨hforeign, bound, hbound⟩
  · refine iff_of_true ?_ (Or.inr ?_)
    · intro bound hbound
      simp [Imports.aliasFor, wrapperTable, hown, Target.table] at hbound
    · intro path hpath
      exact Or.inl (Option.some.inj (hpath.symm.trans hcontext) ▸ hown)
  · rw [← exists_printed_iff hcontext hzap hservices hforeign]
    constructor
    · intro hrefers
      obtain ⟨ident, hident, halias⟩ := (huses bound).2.mp (hrefers bound hbound)
      have hcons := unit.wrapperTable_consistent options target file
      exact ⟨ident, hident, (hcons.path_eq_iff (hcons.aliasFor_eq_some_iff.mp halias)
        (hcons.aliasFor_eq_some_iff.mp hbound)).mpr rfl⟩
    · rintro ⟨ident, hident, rfl⟩ other hother
      exact (huses other).2.mpr ⟨ident, hident, hother⟩

end GenerationUnit

/-- In a run on loaded files whose declared names are identifiers, each provider's file imports exactly the
packages that its body refers to. The file of a schema file refers to imported packages only, and it refers
to all of them exactly if it needs the package of contexts. -/
theorem imports_used_iff {descriptors : List Schema.FileDescriptor} {toGenerate unreadable : List String}
    {files : List File} {options : Options} {artifacts : List Artifact}
    (loaded : Schema.load descriptors toGenerate unreadable = .ok files)
    (named : ∀ name ∈ descriptors.flatMap Schema.FileDescriptor.declaredNames, IsSchemaName name)
    (h : generate options files unreadable = .ok artifacts) :
    ∃ units, GenerationUnit.group files = .ok units ∧
      ∀ artifact ∈ artifacts, ∃ unit ∈ units, ∃ target source,
        unit.target options = .ok target ∧ artifact = source.artifact ∧
        ((unit.providerFile options target = .ok source ∧ source.ImportsUsed) ∨
          ∃ file ∈ unit.serviceFiles, unit.wrapperFile options target unreadable file = .ok source ∧
            (∀ bound, source.RefersTo bound → bound ∈ source.imports.sorted.map (·.2)) ∧
            (source.ImportsUsed ↔ unit.NeedsContext options target file)) := by
  obtain ⟨units, hunits, hsources⟩ := sources_of_generate h
  refine ⟨units, hunits, ?_⟩
  intro artifact hartifact
  obtain ⟨unit, hunit, target, source, htarget, heq, hsource⟩ := hsources artifact hartifact
  obtain ⟨hunitServices, hcollects⟩ := GenerationUnit.group_collects hunits unit hunit
  have hnames : ∀ file ∈ unit.files, ∀ name ∈ file.goNames, IsExported name := by
    intro file hfile name hname
    exact Schema.exported_of_load loaded named name
      (List.mem_flatMap.mpr ⟨file, (hcollects file hfile).1, hname⟩)
  refine ⟨unit, hunit, target, source, htarget, heq, hsource.imp ?_ ?_⟩
  · intro hprovider
    refine ⟨hprovider, GenerationUnit.importsUsed_of_providerFile hprovider ?_ ?_⟩
    · simpa [GenerationUnit.hasServices] using hunitServices
    · intro service hservice
      obtain ⟨file, hfile, hservice⟩ := List.mem_flatMap.mp hservice
      exact hnames file hfile _ (List.mem_flatMap.mpr ⟨service, hservice, List.mem_cons_self⟩)
  · rintro ⟨file, hfile, hwrappers⟩
    obtain ⟨hmem, hservices⟩ := List.mem_filter.mp hfile
    exact ⟨file, hfile, hwrappers, GenerationUnit.importsUsed_iff_of_wrapperFile hwrappers
      (by simpa using hservices) (hnames file hmem)⟩

/-- A file with a service that has no methods. -/
def idleDescriptor : Schema.FileDescriptor :=
  { name := "a.proto", package := "a", services := [{ name := "Svc" }], options := { goPackage := some "x/foo" } }

def idleFile : File :=
  { name := "a.proto", package := "a", importPath := "x/foo", packageName := "foo"
    services := [{ name := "Svc", goName := "Svc", fullName := "a.Svc" }] }

theorem load_idleDescriptor : Schema.load [idleDescriptor] ["a.proto"] = .ok [idleFile] := by rfl

theorem imports_used_iff_idle :
    ∃ artifacts, Schema.load [idleDescriptor] ["a.proto"] = .ok [idleFile] ∧
      (∀ name ∈ [idleDescriptor].flatMap Schema.FileDescriptor.declaredNames, IsSchemaName name) ∧
      generate {} [idleFile] = .ok artifacts ∧
      ∀ artifact ∈ artifacts, ∃ source : SourceFile, artifact = source.artifact ∧
        (source.ImportsUsed ↔ artifact.kind = .unit) := by
  have hrun : (generate {} [idleFile]).toOption.isSome = true := by decide +kernel
  have hgroup : GenerationUnit.group [idleFile] = .ok [⟨"x/foo", "foo", [idleFile]⟩] := by rfl
  have hnamed : ∀ name ∈ [idleDescriptor].flatMap Schema.FileDescriptor.declaredNames, IsSchemaName name := by
    decide
  cases h : generate {} [idleFile] with
  | error failure => simp [h, Except.toOption] at hrun
  | ok artifacts =>
    obtain ⟨units, hunits, hartifacts⟩ := imports_used_iff load_idleDescriptor hnamed h
    rw [hgroup] at hunits
    cases hunits
    refine ⟨artifacts, load_idleDescriptor, hnamed, rfl, ?_⟩
    intro artifact hartifact
    obtain ⟨unit, hunit, target, source, htarget, rfl, ⟨hprovider, hused⟩ | ⟨file, hfile, hwrappers, _, hiff⟩⟩ :=
      hartifacts artifact hartifact
    · exact ⟨source, rfl, iff_of_true hused (kind_of_providerFile hprovider).1⟩
    · refine ⟨source, rfl, iff_of_false (hiff.not.mpr ?_) ?_⟩
      · obtain rfl := List.mem_singleton.mp hunit
        obtain rfl : file = idleFile := List.mem_singleton.mp (List.mem_of_mem_filter hfile)
        cases htarget
        decide +kernel
      · simp [SourceFile.artifact, (kind_of_wrapperFile hwrappers).1]

theorem idleFile_leaves_import_unused :
    Schema.load [idleDescriptor] ["a.proto"] = .ok [idleFile] ∧
    (generate shortOptions [idleFile]).toOption.isSome = true ∧
    ((GenerationUnit.group [idleFile]).bind fun units =>
      units.mapM (·.sourceFiles shortOptions [])).toOption.map (fun sources =>
        (sources.flatten.filter (·.kind = .file)).map fun source =>
          (source.imports.sorted.map (·.2), source.body.flatMap packageReferences)) =
      some [(["c", "foo", "z"], ["z", "foo"])] :=
  ⟨load_idleDescriptor, by decide +kernel, by decide +kernel⟩

end RpcClients
