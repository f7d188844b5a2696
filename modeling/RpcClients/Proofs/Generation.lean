import RpcClients.Client.Generate
import RpcClients.Proofs.FileText
import RpcClients.Proofs.Flattening
import RpcClients.Proofs.Grouping

/-! # How a run comes apart

A run that succeeds gives, for each unit, one file for the unit and one for each of its schema files that
has services. All files of a unit start from the same import table. -/

namespace RpcClients

open Resolving

namespace GenerationUnit

/-! ## Declarations -/

def wrapperNames (services : List Service) : List String := services.map fun service => wrapperName service.goName

theorem declare_ok {names declared : List String} {services : List Service}
    (h : declare names services = .ok declared) (hnodup : names.Nodup) :
    declared = names ++ wrapperNames services ∧ declared.Nodup := by
  induction services generalizing names with
  | nil =>
    cases h
    simpa [wrapperNames] using hnodup
  | cons service rest ih =>
    rw [declare] at h
    split_ifs at h with htaken
    obtain ⟨hdeclared, hrest⟩ := ih h (by
      rw [List.nodup_append]
      refine ⟨hnodup, by simp, ?_⟩
      rintro name hname _ hwrapper rfl
      exact htaken (List.mem_singleton.mp hwrapper ▸ hname))
    exact ⟨by rw [hdeclared]; simp [wrapperNames], hrest⟩

theorem target_ok {options : Options} {unit : GenerationUnit} {target : Target}
    (h : unit.target options = .ok target) :
    options.pluginName = some target.pluginName ∧
    target.packageName = unit.packageName ++ target.pluginName ∧
    target.declarations = providerFunction :: providerType :: wrapperNames unit.services ∧
    target.declarations.Nodup := by
  obtain ⟨pluginName, hplugin, h⟩ := except_bind_ok_iff.mp h
  obtain ⟨importPath, _, h⟩ := except_bind_ok_iff.mp h
  obtain ⟨declarations, hdeclared, h⟩ := except_bind_ok_iff.mp h
  rw [except_pure_ok_iff] at h
  obtain ⟨hall, hnodup⟩ := declare_ok hdeclared (by decide)
  rw [h]
  refine ⟨?_, rfl, hall, hnodup⟩
  unfold Options.requirePluginName at hplugin
  split at hplugin
  · cases hplugin
  · cases hplugin
    assumption

/-! ## Files -/

/-- The import table that each file of a unit starts from. -/
def Target.table (target : Target) : Imports := ⟨target.importPath, target.packageName, target.declarations, []⟩

theorem Target.table_consistent (target : Target) : target.table.Consistent :=
  Imports.consistent_of_no_aliases rfl

/-- The file with the given lines and the table that printing them left. -/
def Target.filed (target : Target) (name : String) (kind : ArtifactKind) (source : Option String)
    (lines : List String) (imports : Imports) : SourceFile where
  name := name
  kind := kind
  source := source
  pluginName := target.pluginName
  imports := imports
  lines := lines.flatMap (Text.split '\n')

theorem Target.newline_not_mem_filed {options : Options} {unit : GenerationUnit} {target : Target} {name : String}
    {kind : ArtifactKind} {source : Option String} {lines : List String} {idents : List Ident}
    (htarget : unit.target options = .ok target) (hplugin : ∀ plugin ∈ options.pluginName, '\n' ∉ plugin.toList)
    (hpackage : '\n' ∉ unit.packageName.toList) (hsource : ∀ text ∈ source, '\n' ∉ text.toList)
    (hidents : ∀ ident ∈ idents, '\n' ∉ ident.importPath.toList) :
    ∀ text ∈ (target.filed name kind source lines (target.table.resolved idents)).headerTexts,
      '\n' ∉ text.toList := by
  obtain ⟨hname, htargetPackage, _⟩ := target_ok htarget
  have hplugin := hplugin _ hname
  simp only [SourceFile.headerTexts, filed, List.forall_mem_cons, List.forall_mem_append]
  refine ⟨hplugin, ?_, by simpa using hsource, ?_⟩
  · rw [(Imports.resolved_extends _ _).packageName, table, htargetPackage]
    simp [hplugin, hpackage]
  · intro path hpath
    obtain ⟨entry, hentry, rfl⟩ := List.mem_map.mp hpath
    rcases Imports.mem_resolved hentry with hold | hident
    · cases hold
    · obtain ⟨ident, hident, heq⟩ := List.mem_map.mp hident
      rw [← heq]
      exact hidents ident hident

theorem Target.lines_filed {target : Target} {name : String} {kind : ArtifactKind} {source : Option String}
    {lines before : List String} {idents : List Ident} {blanks : Nat}
    (hheader : ∀ text ∈ (target.filed name kind source lines (target.table.resolved idents)).headerTexts,
      '\n' ∉ text.toList)
    (hlaid : Indentation.Laid 0 lines (before ++ ["\x7d"] ++ List.replicate blanks "") 0) :
    (target.filed name kind source lines (target.table.resolved idents)).artifact.lines =
      (target.filed name kind source lines (target.table.resolved idents)).headerText ++
        "" :: (before ++ ["\x7d", ""]) := by
  have hfile : (target.filed name kind source lines (target.table.resolved idents)).lines = lines :=
    Text.flatMap_split hlaid.oneLine.1
  have hcons := target.table_consistent.resolved idents
  have hlines := SourceFile.split_content_of_laid (SourceFile.newline_not_mem_header hcons hheader)
    (hfile.symm ▸ hlaid) (by decide)
  exact hlines.trans (by simp)

theorem Target.file_eq (target : Target) (name : String) (kind : ArtifactKind) (source : Option String)
    (step : Resolving (List String)) :
    target.file name kind source step =
      match step.outcome target.table with
      | (.error failure, _) => .error failure
      | (.ok lines, imports) => .ok (target.filed name kind source lines imports) := rfl

theorem Target.file_ok {target : Target} {name : String} {kind : ArtifactKind} {source : Option String}
    {step : Resolving (List String)} {file : SourceFile} (h : target.file name kind source step = .ok file) :
    ∃ lines imports, Gives step target.table lines imports ∧
      file = target.filed name kind source lines imports := by
  rw [Target.file_eq] at h
  split at h
  · cases h
  · rename_i lines imports hrun
    cases h
    exact ⟨lines, imports, hrun, rfl⟩

theorem wrapperFile_ok {options : Options} {unit : GenerationUnit} {target : Target}
    {unreadable : List String} {file : File} {source : SourceFile}
    (h : unit.wrapperFile options target unreadable file = .ok source) :
    ∃ name wrappers imports, options.sourceFileName unit file.name = .ok name ∧
      Gives (unit.wrappers options file.services unreadable) target.table wrappers imports ∧
      source = target.filed name .file (some file.name) (wrappers.flatMap Wrapper.lines) imports := by
  obtain ⟨_, _, h⟩ := except_bind_ok_iff.mp h
  obtain ⟨name, hname, h⟩ := except_bind_ok_iff.mp h
  obtain ⟨lines, imports, hlines, rfl⟩ := Target.file_ok h
  obtain ⟨wrappers, middle, hwrappers, hpure⟩ := gives_bind.mp hlines
  obtain ⟨rfl, rfl⟩ := gives_pure.mp hpure
  exact ⟨name, wrappers, _, hname, hwrappers, rfl⟩

theorem providerFile_ok {options : Options} {unit : GenerationUnit} {target : Target} {source : SourceFile}
    (h : unit.providerFile options target = .ok source) :
    ∃ name provider imports, options.unitFileName unit = .ok name ∧
      Gives (unit.provider options) target.table provider imports ∧
      source = target.filed name .unit none provider.lines imports := by
  obtain ⟨name, hname, h⟩ := except_bind_ok_iff.mp h
  obtain ⟨lines, imports, hlines, rfl⟩ := Target.file_ok h
  obtain ⟨provider, middle, hprovider, hpure⟩ := gives_bind.mp hlines
  obtain ⟨rfl, rfl⟩ := gives_pure.mp hpure
  exact ⟨name, provider, _, hname, hprovider, rfl⟩

def serviceFiles (unit : GenerationUnit) : List File := unit.files.filter (!·.services.isEmpty)

theorem sourceFiles_ok {options : Options} {unit : GenerationUnit} {unreadable : List String}
    {sources : List SourceFile} (h : unit.sourceFiles options unreadable = .ok sources) :
    ∃ target first others, unit.target options = .ok target ∧
      unit.providerFile options target = .ok first ∧
      List.Forall₂ (fun file source => unit.wrapperFile options target unreadable file = .ok source)
        unit.serviceFiles others ∧
      sources = first :: others := by
  obtain ⟨target, htarget, h⟩ := except_bind_ok_iff.mp h
  obtain ⟨first, hfirst, h⟩ := except_bind_ok_iff.mp h
  obtain ⟨others, hothers, h⟩ := except_bind_ok_iff.mp h
  exact ⟨target, first, others, htarget, hfirst, except_mapM_ok_iff.mp hothers, except_pure_ok_iff.mp h⟩

end GenerationUnit

theorem kind_of_providerFile {options : Options} {unit : GenerationUnit} {target : GenerationUnit.Target}
    {source : SourceFile} (h : unit.providerFile options target = .ok source) :
    source.kind = .unit ∧ options.unitFileName unit = .ok source.name := by
  obtain ⟨_, _, _, hname, _, rfl⟩ := GenerationUnit.providerFile_ok h
  exact ⟨rfl, hname⟩

theorem kind_of_wrapperFile {options : Options} {unit : GenerationUnit} {target : GenerationUnit.Target}
    {unreadable : List String} {file : File} {source : SourceFile}
    (h : unit.wrapperFile options target unreadable file = .ok source) :
    source.kind = .file ∧ source.source = some file.name ∧
      options.sourceFileName unit file.name = .ok source.name := by
  obtain ⟨_, _, _, hname, _, rfl⟩ := GenerationUnit.wrapperFile_ok h
  exact ⟨rfl, rfl, hname⟩

/-! ## Runs -/

theorem unitArtifacts_ok {options : Options} {unreadable : List String} {unit : GenerationUnit}
    {artifacts : List Artifact} (h : unitArtifacts options unreadable unit = .ok artifacts) :
    ∃ sources, unit.sourceFiles options unreadable = .ok sources ∧
      artifacts = sources.map SourceFile.artifact := by
  unfold unitArtifacts at h
  split at h
  · cases h
  · rename_i given hgiven
    cases h
    obtain ⟨sources, hsources, hmap⟩ := except_bind_ok_iff.mp hgiven
    exact ⟨sources, hsources, except_pure_ok_iff.mp hmap⟩

theorem sourceFiles_of_unitArtifacts {options : Options} {unreadable : List String}
    {units : List GenerationUnit} {parts : List (List Artifact)}
    (h : List.Forall₂ (fun unit part => unitArtifacts options unreadable unit = .ok part) units parts) :
    ∃ sources, List.Forall₂ (fun unit files => unit.sourceFiles options unreadable = .ok files) units sources ∧
      parts = sources.map (·.map SourceFile.artifact) := by
  induction h with
  | nil => exact ⟨[], .nil, rfl⟩
  | cons hpart _ ih =>
    obtain ⟨files, hfiles, rfl⟩ := unitArtifacts_ok hpart
    obtain ⟨sources, hsources, rfl⟩ := ih
    exact ⟨files :: sources, .cons hfiles hsources, rfl⟩

/-- A run that succeeds gives the files of its units, one unit after the other. -/
theorem generate_ok {options : Options} {files : List File} {unreadable : List String}
    {artifacts : List Artifact} (h : generate options files unreadable = .ok artifacts) :
    ∃ units sources, GenerationUnit.group files = .ok units ∧
      List.Forall₂ (fun unit files => unit.sourceFiles options unreadable = .ok files) units sources ∧
      artifacts = sources.flatten.map SourceFile.artifact := by
  obtain ⟨units, hunits, h⟩ := except_bind_ok_iff.mp h
  obtain ⟨parts, hparts, h⟩ := except_bind_ok_iff.mp h
  obtain ⟨sources, hsources, rfl⟩ := sourceFiles_of_unitArtifacts (except_mapM_ok_iff.mp hparts)
  refine ⟨units, sources, hunits, hsources, ?_⟩
  rw [List.map_flatten]
  simp only at h
  split at h
  · cases h
  · exact except_pure_ok_iff.mp h

theorem sources_of_generate {options : Options} {files : List File} {unreadable : List String}
    {artifacts : List Artifact} (h : generate options files unreadable = .ok artifacts) :
    ∃ units, GenerationUnit.group files = .ok units ∧
      ∀ artifact ∈ artifacts, ∃ unit ∈ units, ∃ target source, unit.target options = .ok target ∧
        artifact = source.artifact ∧
        (unit.providerFile options target = .ok source ∨
          ∃ file ∈ unit.serviceFiles, unit.wrapperFile options target unreadable file = .ok source) := by
  obtain ⟨units, parts, hunits, hparts, rfl⟩ := generate_ok h
  refine ⟨units, hunits, ?_⟩
  intro artifact hartifact
  obtain ⟨source, hsource, rfl⟩ := List.mem_map.mp hartifact
  obtain ⟨sources, hsources, hsource⟩ := List.mem_flatten.mp hsource
  obtain ⟨unit, hunit, hfiles⟩ := exists_of_forall₂_right hparts hsources
  obtain ⟨target, first, others, htarget, hfirst, hothers, rfl⟩ := GenerationUnit.sourceFiles_ok hfiles
  refine ⟨unit, hunit, target, source, htarget, rfl, ?_⟩
  rcases List.mem_cons.mp hsource with rfl | hother
  · exact Or.inl hfirst
  · exact Or.inr (exists_of_forall₂_right hothers hother)

end RpcClients
