import Mathlib.Data.List.Perm.Basic
import RpcClients.Proofs.FactoryBlocks
import RpcClients.Proofs.ProviderOrder

/-! # Units whose files come in another order

The file for a schema file does not depend on the order of the files of its unit, and in the file of the unit
only the factories do. -/

namespace RpcClients

open Resolving Indentation Naming

theorem exists_of_forall₂ {α β : Type} {r r' : α → β → Prop} {s : β → β → Prop} {items : List α} {values : List β}
    (h : List.Forall₂ r items values)
    (hstep : ∀ item ∈ items, ∀ value, r item value → ∃ value', r' item value' ∧ s value value') :
    ∃ others, List.Forall₂ r' items others ∧ List.Forall₂ s values others := by
  induction h with
  | nil => exact ⟨[], .nil, .nil⟩
  | cons hitem _ ih =>
    rw [List.forall_mem_cons] at hstep
    obtain ⟨other, hother, hs⟩ := hstep.1 _ hitem
    obtain ⟨others, hitems, hvalues⟩ := ih hstep.2
    exact ⟨other :: others, .cons hother hitems, .cons hs hvalues⟩

/-! ## Files printed from tables that are alike -/

theorem Imports.Alike.sorted {table other : Imports} (h : table.Alike other) : other.sorted = table.sorted := by
  rw [Imports.sorted, Imports.sorted, h.aliases]

namespace SourceFile

variable {file other : SourceFile}

theorem importBlock_congr (h : file.imports.Alike other.imports) : other.importBlock = file.importBlock := by
  rw [importBlock, importBlock, h.sorted]

theorem header_congr (hplugin : other.pluginName = file.pluginName) (hsource : other.source = file.source)
    (himports : file.imports.Alike other.imports) : other.header = file.header := by
  have hline : other.sourceLine = file.sourceLine := by rw [sourceLine_eq, sourceLine_eq, hsource]
  unfold header
  rw [hplugin, hline, himports.packageName, importBlock_congr himports]

end SourceFile

namespace GenerationUnit

/-- The targets differ only in the order of their declarations. -/
structure Target.Alike (target other : Target) : Prop where
  pluginName : other.pluginName = target.pluginName
  table : target.table.Alike other.table

variable {options : Options} {unit : GenerationUnit} {files : List File} {target other : Target}
  {unreadable : List String}

theorem Target.file_of_gives {name : String} {kind : ArtifactKind} {source : Option String}
    {step : Resolving (List String)} {lines : List String} {imports : Imports}
    (h : Gives step target.table lines imports) :
    target.file name kind source step = .ok (target.filed name kind source lines imports) := by
  rw [file_eq, h]

theorem Target.Alike.file (h : target.Alike other) {name : String} {kind : ArtifactKind} {source : Option String}
    {step : Resolving (List String)} (hstep : Even step) {file : SourceFile}
    (hfile : target.file name kind source step = .ok file) :
    ∃ file', other.file name kind source step = .ok file' ∧ file.artifact = file'.artifact := by
  obtain ⟨lines, imports, hlines, rfl⟩ := file_ok hfile
  obtain ⟨imports', himports, hlines'⟩ := hstep _ _ _ _ h.table hlines
  refine ⟨_, file_of_gives hlines', ?_⟩
  have hheader : (other.filed name kind source lines imports').header =
      (target.filed name kind source lines imports).header := SourceFile.header_congr h.pluginName rfl himports
  unfold SourceFile.artifact SourceFile.content
  rw [hheader]
  rfl

theorem target_perm (h : unit.files.Perm files) (htarget : unit.target options = .ok target) :
    ∃ other, target.Alike other ∧ { unit with files }.target options = .ok other := by
  obtain ⟨_, _, hdeclared, hnodup⟩ := target_ok htarget
  obtain ⟨pluginName, hplugin, htarget⟩ := except_bind_ok_iff.mp htarget
  obtain ⟨importPath, hpath, htarget⟩ := except_bind_ok_iff.mp htarget
  obtain ⟨declarations, _, htarget⟩ := except_bind_ok_iff.mp htarget
  obtain rfl := except_pure_ok_iff.mp htarget
  have hperm : declarations.Perm
      ([providerFunction, providerType] ++ wrapperNames (services { unit with files })) := by
    rw [show declarations = _ from hdeclared]
    exact (((services_perm h).map _).cons _).cons _
  have hother := declare_of_nodup (hperm.nodup_iff.mp hnodup)
  refine ⟨⟨importPath, unit.packageName ++ pluginName, pluginName, _ ++ wrapperNames (services { unit with files })⟩,
    ⟨rfl, rfl, rfl, hperm, rfl⟩, ?_⟩
  exact except_bind_ok_iff.mpr ⟨pluginName, hplugin, except_bind_ok_iff.mpr ⟨importPath, hpath,
    except_bind_ok_iff.mpr ⟨_, hother, rfl⟩⟩⟩

/-! ## Files for schema files -/

theorem wrapperFile_alike (h : target.Alike other) {file : File} {source : SourceFile}
    (hsource : unit.wrapperFile options target unreadable file = .ok source) :
    ∃ source', unit.wrapperFile options other unreadable file = .ok source' ∧ source.artifact = source'.artifact := by
  obtain ⟨_, hreadable, hsource⟩ := except_bind_ok_iff.mp hsource
  obtain ⟨name, hname, hsource⟩ := except_bind_ok_iff.mp hsource
  obtain ⟨source', hsource', hartifact⟩ := h.file
    ((unit.even_wrappers options file.services unreadable).bind fun _ => even_pure _) hsource
  exact ⟨source', except_bind_ok_iff.mpr ⟨_, hreadable, except_bind_ok_iff.mpr ⟨name, hname, hsource'⟩⟩, hartifact⟩

theorem wrapperFiles_perm (h : unit.files.Perm files) (halike : target.Alike other) {sources : List SourceFile}
    (hsources : List.Forall₂ (fun file source => unit.wrapperFile options target unreadable file = .ok source)
      unit.serviceFiles sources) :
    ∃ sources', List.Forall₂ (fun file source => unit.wrapperFile options other unreadable file = .ok source)
        (serviceFiles { unit with files }) sources' ∧
      (sources.map SourceFile.artifact).Perm (sources'.map SourceFile.artifact) := by
  obtain ⟨middle, hmiddle, hartifacts⟩ := exists_of_forall₂ hsources
    fun file _ source hsource => wrapperFile_alike halike hsource
  obtain ⟨sources', hsources', hperm⟩ := List.perm_comp_forall₂ (h.symm.filter (!·.services.isEmpty)) hmiddle
  refine ⟨sources', hsources', ?_⟩
  rw [map_eq_map_of_forall₂ hartifacts]
  exact hperm.symm.map _

/-! ## The file of the unit -/

/-- Both are files of the unit, the second for another order of the schema files: behind the same header and the
same declarations they have the factories of the services, which differ in order and in indentation only. If the
names of the services are identifiers, they differ in order only. -/
structure Reorders (unit : GenerationUnit) (source other : SourceFile) : Prop where
  name : other.name = source.name
  importBlock : other.importBlock = source.importBlock
  header : other.header = source.header
  body : ∃ (declarations : List String) (factories others : List (List String)),
    source.body = declarations ++ factories.flatMap ("" :: ·) ∧
    other.body = declarations ++ others.flatMap ("" :: ·) ∧
    factories.length = unit.services.length ∧
    (∀ factory ∈ factories, ∃ line rest, factory.map content = line :: rest ∧
      Provider.factoryLead.toList <+: line.toList) ∧
    (factories.map (·.map content)).Perm (others.map (·.map content)) ∧
    ((∀ service ∈ unit.services, IsIdentifier service.goName) → factories.Perm others)

theorem declarationBlock_reordered (table : Imports) (paths : ProviderPaths) :
    (providerIn table paths { unit with files }).declarationBlock =
      (unit.providerIn table paths).declarationBlock := rfl

theorem factoryBlock_reordered (table : Imports) (paths : ProviderPaths) :
    (providerIn table paths { unit with files }).factoryBlock = (unit.providerIn table paths).factoryBlock := rfl

theorem map_content_factories_perm (h : unit.files.Perm files) (table : Imports) (paths : ProviderPaths) :
    ((unit.providerIn table paths).factories.map (·.map content)).Perm
      ((providerIn table paths { unit with files }).factories.map (·.map content)) := by
  rw [Provider.map_content_factories, Provider.map_content_factories, factoryBlock_reordered]
  exact ((services_perm h).map _).map _

theorem factories_perm (h : unit.files.Perm files) {table : Imports} (hcons : table.Consistent) (paths : ProviderPaths)
    (hnames : ∀ service ∈ unit.services, IsIdentifier service.goName) :
    (unit.providerIn table paths).factories.Perm (providerIn table paths { unit with files }).factories := by
  have hservices := services_perm h
  rw [factories_eq hcons hnames,
    factories_eq hcons fun service hservice => hnames service (hservices.mem_iff.mpr hservice), factoryBlock_reordered]
  exact hservices.map _

theorem Target.body_filed (target : Target) (name : String) (provider : Provider) (imports : Imports) :
    (target.filed name .unit none provider.lines imports).body =
      indentLines provider.declarationBlock ++ provider.factories.flatMap ("" :: ·) := Provider.body_eq rfl

theorem reorders_filed (h : unit.files.Perm files) (halike : target.Alike other) {imports imports' : Imports}
    (himports : imports.Alike imports') (hcons : imports.Consistent) (name : String) (paths : ProviderPaths) :
    unit.Reorders (target.filed name .unit none (unit.providerIn imports paths).lines imports)
      (other.filed name .unit none (providerIn imports paths { unit with files }).lines imports') where
  name := rfl
  importBlock := SourceFile.importBlock_congr himports
  header := SourceFile.header_congr halike.pluginName rfl himports
  body := by
    refine ⟨_, _, _, Target.body_filed _ _ _ _, ?_, ?_, ?_, map_content_factories_perm h imports paths,
      factories_perm h hcons paths⟩
    · rw [Target.body_filed, declarationBlock_reordered]
    · rw [Provider.length_factories]
      exact List.length_map _
    · exact fun factory => Provider.head_of_mem_factories

theorem providerFile_perm (h : unit.files.Perm files) (halike : target.Alike other) {source : SourceFile}
    (hsource : unit.providerFile options target = .ok source) :
    ∃ source', { unit with files }.providerFile options other = .ok source' ∧ unit.Reorders source source' := by
  obtain ⟨name, provider, imports, hname, hprovider, rfl⟩ := providerFile_ok hsource
  obtain ⟨_, _, _, _, hresolved⟩ := eq_resolved_of_gives_provider hprovider
  have hcons : imports.Consistent := hresolved ▸ target.table_consistent.resolved _
  obtain ⟨paths, imports', himports, rfl, hprovider'⟩ :=
    gives_provider_perm h halike.table target.table_consistent other.table_consistent hprovider
  exact ⟨_, except_bind_ok_iff.mpr ⟨name, hname, Target.file_of_gives (gives_bind.mpr ⟨_, _, hprovider',
    gives_pure.mpr ⟨rfl, rfl⟩⟩)⟩, reorders_filed h halike himports hcons name paths⟩

/-! ## All files of a unit -/

/-- The second list of artifacts is what the unit gives for another order of its schema files. -/
def GivesReordered (options : Options) (unit : GenerationUnit) (part other : List Artifact) : Prop :=
  ∃ first first' rest rest', part = SourceFile.artifact first :: rest ∧ other = SourceFile.artifact first' :: rest' ∧
    first.kind = .unit ∧ first'.kind = .unit ∧ options.unitFileName unit = .ok first.name ∧
    unit.Reorders first first' ∧ (∀ artifact ∈ rest, artifact.kind = .file) ∧ rest.Perm rest'

theorem unitArtifacts_perm (h : unit.files.Perm files) {part : List Artifact}
    (hpart : unitArtifacts options unreadable unit = .ok part) :
    ∃ other, unitArtifacts options unreadable { unit with files } = .ok other ∧
      unit.GivesReordered options part other := by
  obtain ⟨sources, hsources, rfl⟩ := unitArtifacts_ok hpart
  obtain ⟨target, first, rest, htarget, hfirst, hrest, rfl⟩ := sourceFiles_ok hsources
  obtain ⟨other, halike, hother⟩ := target_perm h htarget
  obtain ⟨first', hfirst', hreorders⟩ := providerFile_perm h halike hfirst
  obtain ⟨rest', hrest', hperm⟩ := wrapperFiles_perm h halike hrest
  have hgiven : sourceFiles options { unit with files } unreadable = .ok (first' :: rest') :=
    except_bind_ok_iff.mpr ⟨other, hother, except_bind_ok_iff.mpr ⟨first', hfirst',
      except_bind_ok_iff.mpr ⟨rest', except_mapM_ok_iff.mpr hrest', rfl⟩⟩⟩
  have hkinds : ∀ artifact ∈ rest.map SourceFile.artifact, artifact.kind = .file := by
    intro artifact hartifact
    obtain ⟨source, hsource, rfl⟩ := List.mem_map.mp hartifact
    obtain ⟨file, _, hfile⟩ := exists_of_forall₂_right hrest hsource
    exact (kind_of_wrapperFile hfile).1
  refine ⟨(first' :: rest').map SourceFile.artifact, ?_, first, first', _, _, rfl, rfl, (kind_of_providerFile hfirst).1,
    (kind_of_providerFile hfirst').1, (kind_of_providerFile hfirst).2, hreorders, hkinds, hperm⟩
  rw [unitArtifacts, artifacts, hgiven]
  rfl

end GenerationUnit

end RpcClients
