import RpcClients.Proofs.EmittedMethods
import RpcClients.Proofs.ProviderText

/-! # The layout of generated files

Every body closes the brackets that it opens. Its declarations start at the margin, and what belongs to a
declaration stands behind a tab or starts with a closing bracket. -/

namespace RpcClients

open Resolving Indentation Naming

/-! ## Where the lines of a provider stand -/

theorem Reference.not_mem {text : String} (h : Reference text) {c : Char} (hc : c ∈ Text.separators)
    (hdot : c ≠ '.') : c ∉ text.toList := by
  rcases h with hword | ⟨bound, name, hbound, hname, rfl⟩
  · exact hword.not_mem hc
  · simp [hbound.not_mem hc, hname.not_mem hc, hdot]

theorem placed_declarations (logger httpClient interface : String) :
    ∀ line ∈ providerDeclarations logger httpClient interface, Placed line := by
  unfold providerDeclarations
  simp only [List.forall_mem_cons, List.not_mem_nil, false_implies, implies_true, and_true]
  refine ⟨.comment (by decide), .declaration (by decide), ?_, ?_, ?_, .behind (by decide) 0 _,
    .literal (by decide) 1, .literal (by decide) 1, .literal (by decide) 0, .closing (by decide), .blank,
    .declaration (by decide), .behind (by decide) 0 _, .behind (by decide) 0 _, .closing (by decide), .blank⟩
  · rw [String.append_assoc]
    exact .behind (by decide) 0 _
  · rw [String.append_assoc]
    exact .behind (by decide) 0 _
  · rw [String.append_assoc]
    exact .closer (by decide) _

theorem FactoryText.placed {context newClientOptions : String} {service : Service} {text : List String}
    (h : FactoryText context newClientOptions service text) (hoptions : Reference newClientOptions) :
    ∀ line ∈ text, Placed line := by
  obtain ⟨interface, newClient, _, _, rfl⟩ := h
  simp only [List.forall_mem_cons, List.not_mem_nil, false_implies, implies_true, and_true]
  refine ⟨.declaration ?_, ?_, .literal (by decide) 1, ?_, .literal (by decide) 2, .literal (by decide) 2, ?_,
    .literal (by decide) 1, .literal (by decide) 0, .closing (by decide), .blank⟩
  · simp [declares, factoryHead]
  · rw [String.append_assoc]
    exact .behind (by decide) 0 _
  · rw [String.append_assoc]
    exact .behind (by decide) 1 _
  · refine .unbroken (hoptions.item.starts.append _) ?_ 2
    simp [hoptions.not_mem (show ' ' ∈ Text.separators by decide) (by decide)]

theorem ProviderText.placed {services : List Service} {text : List String} (h : ProviderText services text) :
    ∀ line ∈ text, Placed line := by
  obtain ⟨logger, httpClient, interface, context, newClientOptions, factories, hreferences, hfactories, rfl⟩ := h
  rw [List.forall_mem_append]
  refine ⟨placed_declarations _ _ _, ?_⟩
  intro line hline
  obtain ⟨factory, hfactory, hline⟩ := List.mem_flatten.mp hline
  obtain ⟨service, _, htext⟩ := exists_of_forall₂_right hfactories hfactory
  exact htext.placed (hreferences newClientOptions (by simp)) line hline

/-! ## Bodies -/

/-- The lines are balanced, so that others behind them are printed as they are alone, and their declarations stand
at the margin with the rest behind tabs. -/
structure BlockLaid (lines : List String) : Prop where
  balanced : Balanced lines
  separate : ∀ more, indentLines (lines ++ more) = indentLines lines ++ indentLines more
  printed : List.Forall₂ PrintedAs lines (indentLines lines)

theorem blockLaid_of_laid {lines texts : List String} (h : Laid 0 lines texts 0)
    (hplaced : ∀ line ∈ texts, Placed line) :
    BlockLaid lines := by
  refine ⟨h.balanced, h.balanced.indentLines_append, ?_⟩
  rw [h.indentLines_eq]
  exact h.printedAs hplaced

namespace GenerationUnit

theorem Target.blockLaid_filed {target : Target} {name : String} {kind : ArtifactKind} {source : Option String}
    {lines texts : List String} {imports : Imports} (h : Laid 0 lines texts 0) (hplaced : ∀ line ∈ texts, Placed line) :
    BlockLaid (target.filed name kind source lines imports).lines := by
  have hlines : (target.filed name kind source lines imports).lines = lines := Text.flatMap_split h.oneLine.1
  rw [hlines]
  exact blockLaid_of_laid h hplaced

theorem blockLaid_providerFile {options : Options} {unit : GenerationUnit} {target : Target} {source : SourceFile}
    (h : unit.providerFile options target = .ok source)
    (hnames : ∀ service ∈ unit.services, IsIdentifier service.goName) : BlockLaid source.lines := by
  obtain ⟨name, provider, imports, _, hprovider, rfl⟩ := providerFile_ok h
  obtain ⟨text, htext, hlaid⟩ := laid_of_gives_provider hprovider target.table_consistent hnames
  exact Target.blockLaid_filed hlaid htext.placed

theorem blockLaid_wrapperFile {options : Options} {unit : GenerationUnit} {target : Target}
    {unreadable : List String} {file : File} {source : SourceFile}
    (h : unit.wrapperFile options target unreadable file = .ok source)
    (hnames : ∀ name ∈ file.goNames, IsIdentifier name) : BlockLaid source.lines := by
  obtain ⟨name, wrappers, imports, _, hwrappers, rfl⟩ := wrapperFile_ok h
  obtain ⟨texts, ⟨_, hplaced⟩, hlaid⟩ := laid_of_gives_wrappers hwrappers target.table_consistent hnames
  exact Target.blockLaid_filed hlaid hplaced

theorem blockLaid_of_sourceFiles {options : Options} {files : List File} {unit : GenerationUnit}
    {unreadable : List String} {sources : List SourceFile}
    (h : unit.sourceFiles options unreadable = .ok sources) (hcollects : unit.Collects files)
    (hnames : ∀ name ∈ files.flatMap File.goNames, IsIdentifier name) :
    ∀ source ∈ sources, BlockLaid source.lines := by
  obtain ⟨target, first, others, _, hfirst, hothers, rfl⟩ := sourceFiles_ok h
  have hfile : ∀ file ∈ unit.files, ∀ name ∈ file.goNames, IsIdentifier name := by
    intro file hfile name hname
    exact hnames name (List.mem_flatMap.mpr ⟨file, (hcollects file hfile).1, hname⟩)
  rw [List.forall_mem_cons]
  constructor
  · refine blockLaid_providerFile hfirst ?_
    intro service hservice
    obtain ⟨file, hmem, hown⟩ := List.mem_flatMap.mp hservice
    exact hfile file hmem _ (List.mem_flatMap.mpr ⟨service, hown, List.mem_cons_self⟩)
  · intro source hsource
    obtain ⟨file, hmem, hwrapper⟩ := exists_of_forall₂_right hothers hsource
    exact blockLaid_wrapperFile hwrapper (hfile file (List.mem_filter.mp hmem).1)

end GenerationUnit

/-- If the Go names are identifiers, the body of each file that a run gives is balanced, its declarations stand at
the margin and the code between them is indented, whatever the comments of the methods say. -/
theorem generate_lays_out_blocks {options : Options} {files : List File} {unreadable : List String}
    {artifacts : List Artifact} (named : ∀ name ∈ files.flatMap File.goNames, IsIdentifier name)
    (h : generate options files unreadable = .ok artifacts) :
    ∃ units sources, GenerationUnit.group files = .ok units ∧
      List.Forall₂ (fun unit part => unit.sourceFiles options unreadable = .ok part) units sources ∧
      artifacts = sources.flatten.map SourceFile.artifact ∧
      ∀ source ∈ sources.flatten, BlockLaid source.lines := by
  obtain ⟨units, sources, hunits, hsources, hartifacts⟩ := generate_ok h
  refine ⟨units, sources, hunits, hsources, hartifacts, ?_⟩
  intro source hsource
  obtain ⟨part, hpart, hsource⟩ := List.mem_flatten.mp hsource
  obtain ⟨unit, hunit, hfiles⟩ := exists_of_forall₂_right hsources hpart
  have hcollects := (GenerationUnit.group_collects hunits unit hunit).2
  exact GenerationUnit.blockLaid_of_sourceFiles hfiles hcollects named source hsource

/-- A method whose comment closes brackets, with parameters named like keywords. -/
def unevenFile : File :=
  let text (name goName : String) : Field := { name, goName, type := { kind := .scalar .string } }
  { name := "a.proto", package := "a", importPath := "a", packageName := "a"
    services :=
      [{ name := "S", goName := "S", fullName := "a.S"
         methods :=
           [{ name := "M", goName := "M", fullName := "a.S.M", comments := some ")\x7d\nfunc ((\n"
              input := { fullName := "a.R", ident := ⟨"R", "a"⟩, fields := [text "func" "Func", text "type" "Type"] }
              output := { fullName := "a.R", ident := ⟨"R", "a"⟩, fields := [text "func" "Func"] } }] }] }

theorem generate_lays_out_blocks_uneven :
    ∃ artifacts sources, generate shortOptions [unevenFile] = .ok artifacts ∧
      GenerationUnit.sourceFiles shortOptions ⟨"a", "a", [unevenFile]⟩ [] = .ok sources ∧
      artifacts = sources.map SourceFile.artifact ∧ ∀ source ∈ sources, BlockLaid source.lines := by
  have hrun : (generate shortOptions [unevenFile]).toOption.isSome = true := by decide +kernel
  have hgroup : GenerationUnit.group [unevenFile] = .ok [⟨"a", "a", [unevenFile]⟩] := by rfl
  cases h : generate shortOptions [unevenFile] with
  | error failure => simp [h, Except.toOption] at hrun
  | ok artifacts =>
    obtain ⟨units, parts, hunits, hparts, hartifacts, hlaid⟩ := generate_lays_out_blocks (by decide) h
    rw [hgroup] at hunits
    cases hunits
    obtain ⟨sources, rest, hsources, hrest, rfl⟩ := List.forall₂_cons_left_iff.mp hparts
    cases hrest
    rw [List.flatten_singleton] at hartifacts hlaid
    exact ⟨artifacts, sources, rfl, hsources, hartifacts, hlaid⟩

end RpcClients
