import RpcClients.Proofs.SuccessCondition
import RpcClients.Proofs.UnitOrder

/-! # The order of the input

A run on the same files in another order succeeds if and only if the run succeeds. The files for schema files are
the same, and the files of units differ in the order of their factories. -/

namespace RpcClients

open Resolving Indentation Naming

namespace GenerationUnit

/-! ## Units of reordered files -/

variable {files files' : List File}

theorem PackagesAgree.perm (h : PackagesAgree files) (order : files.Perm files') : PackagesAgree files' := by
  intro file hfile other hother
  exact h file (order.mem_iff.mpr hfile) other (order.mem_iff.mpr hother)

/-- The unit with those of the files that have its path. -/
def within (files : List File) (unit : GenerationUnit) : GenerationUnit :=
  { unit with files := files.filter (·.importPath = unit.importPath) }

theorem atPath_perm (order : files.Perm files') (hagree : PackagesAgree files) {path : String}
    (hpath : path ∈ files.map (·.importPath)) : atPath files' path = (atPath files path).within files' := by
  obtain ⟨file, hfile, rfl⟩ := List.mem_map.mp hpath
  have hname : (atPath files' file.importPath).packageName = (atPath files file.importPath).packageName := by
    rw [hagree.packageName_atPath hfile, (hagree.perm order).packageName_atPath (order.mem_iff.mp hfile)]
  rw [within, ← hname]
  rfl

theorem partition_perm (order : files.Perm files') (hagree : PackagesAgree files) :
    (partition files').Perm ((partition files).map (within files')) := by
  have hpaths : (files'.map (·.importPath)).eraseDups.Perm (files.map (·.importPath)).eraseDups := by
    rw [List.perm_ext_iff_of_nodup (nodup_eraseDups _) (nodup_eraseDups _)]
    intro path
    rw [List.mem_eraseDups, List.mem_eraseDups, (order.map _).mem_iff]
  have hunits : (files.map (·.importPath)).eraseDups.map (atPath files') = (partition files).map (within files') := by
    rw [partition, List.map_map]
    apply List.map_congr_left
    intro path hpath
    exact atPath_perm order hagree (List.mem_eraseDups.mp hpath)
  rw [← hunits]
  exact hpaths.map _

theorem perm_within (order : files.Perm files') {unit : GenerationUnit} (hunit : unit ∈ partition files) :
    unit.files.Perm (unit.within files').files := by
  obtain ⟨path, _, rfl⟩ := List.mem_map.mp hunit
  exact order.filter _

theorem unitsOf_perm (order : files.Perm files') (hagree : PackagesAgree (files.filter (·.generate))) :
    (unitsOf files').Perm ((unitsOf files).map (within (files'.filter (·.generate)))) := by
  have order := order.filter (·.generate)
  have hservices : ∀ unit ∈ partition (files.filter (·.generate)),
      (hasServices ∘ within (files'.filter (·.generate))) unit = unit.hasServices := by
    intro unit hunit
    have hperm := services_perm (perm_within order hunit)
    exact congrArg (!·) hperm.isEmpty_eq.symm
  have hperm := (partition_perm order hagree).filter hasServices
  rwa [List.filter_map, List.filter_congr hservices] at hperm

end GenerationUnit

/-! ## Runs on reordered files -/

variable {options : Options} {files files' : List File} {unreadable : List String} {artifacts : List Artifact}

theorem generate_ok_iff :
    generate options files unreadable = .ok artifacts ↔
      GenerationUnit.PackagesAgree (files.filter (·.generate)) ∧
      ∃ parts, List.Forall₂ (fun unit part => unitArtifacts options unreadable unit = .ok part)
          (GenerationUnit.unitsOf files) parts ∧
        artifacts = parts.flatten ∧ (artifacts.map (·.name)).Nodup := by
  unfold generate
  by_cases hagree : GenerationUnit.PackagesAgree (files.filter (·.generate))
  · rw [GenerationUnit.group_eq hagree]
    constructor
    · intro h
      obtain ⟨units, hunits, h⟩ := except_bind_ok_iff.mp h
      cases hunits
      obtain ⟨parts, hparts, h⟩ := except_bind_ok_iff.mp h
      cases hrepeated : firstRepeated? [] (parts.flatten.map (·.name)) with
      | some name =>
        simp only [hrepeated] at h
        cases h
      | none =>
        simp only [hrepeated] at h
        obtain rfl := except_pure_ok_iff.mp h
        exact ⟨hagree, parts, except_mapM_ok_iff.mp hparts, rfl, ((firstRepeated?_eq_none_iff [] _).mp hrepeated).1⟩
    · rintro ⟨_, parts, hparts, rfl, hnodup⟩
      refine except_bind_ok_iff.mpr ⟨_, rfl, except_bind_ok_iff.mpr ⟨parts, except_mapM_ok_iff.mpr hparts, ?_⟩⟩
      simp only [(firstRepeated?_eq_none_iff [] _).mpr ⟨hnodup, by simp⟩]
      rfl
  · obtain ⟨problem, hproblem⟩ := GenerationUnit.group_error hagree
    rw [hproblem]
    constructor
    · intro h
      cases h
    · exact fun h => absurd h.1 hagree

theorem perm_of_forall₂ {γ : Type} {s : List Artifact → List Artifact → Prop} {parts others : List (List Artifact)}
    (h : List.Forall₂ s parts others) (select : List Artifact → List γ)
    (happend : ∀ part rest, select (part ++ rest) = select part ++ select rest)
    (hs : ∀ part other, s part other → (select part).Perm (select other)) :
    (select parts.flatten).Perm (select others.flatten) := by
  induction h with
  | nil => rfl
  | cons hpart _ ih =>
    rw [List.flatten_cons, List.flatten_cons, happend, happend]
    exact (hs _ _ hpart).append ih

namespace GenerationUnit.GivesReordered

variable {unit : GenerationUnit} {part other : List Artifact}

theorem names_perm (h : unit.GivesReordered options part other) : (part.map (·.name)).Perm (other.map (·.name)) := by
  obtain ⟨first, first', rest, rest', rfl, rfl, _, _, _, hreorders, _, hrest⟩ := h
  have hname : first'.artifact.name = first.artifact.name := hreorders.name
  rw [List.map_cons, List.map_cons, hname]
  exact (hrest.map _).cons _

theorem files_perm (h : unit.GivesReordered options part other) :
    (part.filter (·.kind = .file)).Perm (other.filter (·.kind = .file)) := by
  obtain ⟨first, first', rest, rest', rfl, rfl, hkind, hkind', _, _, _, hrest⟩ := h
  have hnot : ¬ first.artifact.kind = .file := by simp [SourceFile.artifact, hkind]
  have hnot' : ¬ first'.artifact.kind = .file := by simp [SourceFile.artifact, hkind']
  rw [List.filter_cons_of_neg (by simpa using hnot), List.filter_cons_of_neg (by simpa using hnot')]
  exact hrest.filter _

theorem filter_unit (h : unit.GivesReordered options part other) :
    ∃ source source', part.filter (·.kind = .unit) = [source.artifact] ∧
      other.filter (·.kind = .unit) = [source'.artifact] ∧
      options.unitFileName unit = .ok source.name ∧ unit.Reorders source source' := by
  obtain ⟨first, first', rest, rest', rfl, rfl, hkind, hkind', hname, hreorders, hkinds, hrest⟩ := h
  have hnone : ∀ artifact ∈ rest, ¬ (decide (artifact.kind = .unit)) = true := by
    intro artifact hartifact
    simp [hkinds artifact hartifact]
  have hnone' : ∀ artifact ∈ rest', ¬ (decide (artifact.kind = .unit)) = true :=
    fun artifact hartifact => hnone artifact (hrest.mem_iff.mpr hartifact)
  refine ⟨first, first', ?_, ?_, hname, hreorders⟩
  · rw [List.filter_cons_of_pos (by simp [SourceFile.artifact, hkind]), List.filter_eq_nil_iff.mpr hnone]
  · rw [List.filter_cons_of_pos (by simp [SourceFile.artifact, hkind']), List.filter_eq_nil_iff.mpr hnone']

theorem unitNames_perm (h : unit.GivesReordered options part other) :
    ((part.filter (·.kind = .unit)).map (·.name)).Perm ((other.filter (·.kind = .unit)).map (·.name)) := by
  obtain ⟨source, source', hpart, hother, _, hreorders⟩ := h.filter_unit
  have hname : source'.artifact.name = source.artifact.name := hreorders.name
  rw [hpart, hother, List.map_singleton, List.map_singleton, hname]

end GenerationUnit.GivesReordered

/-- A run on the files in another order gives the parts of the units again, reordered. -/
theorem generate_reordered (order : files.Perm files') (h : generate options files unreadable = .ok artifacts) :
    ∃ artifacts' parts middle, generate options files' unreadable = .ok artifacts' ∧ artifacts = parts.flatten ∧
      artifacts'.Perm middle.flatten ∧
      List.Forall₂ (fun part other => ∃ unit ∈ GenerationUnit.unitsOf files, unit.GivesReordered options part other)
        parts middle := by
  obtain ⟨hagree, parts, hparts, rfl, hnodup⟩ := generate_ok_iff.mp h
  obtain ⟨middle, hmiddle, hreordered⟩ : ∃ middle,
      List.Forall₂ (fun unit part => unitArtifacts options unreadable
        (GenerationUnit.within (files'.filter (·.generate)) unit) = .ok part) (GenerationUnit.unitsOf files) middle ∧
      List.Forall₂ (fun part other => ∃ unit ∈ GenerationUnit.unitsOf files, unit.GivesReordered options part other)
        parts middle := by
    apply exists_of_forall₂ hparts
    intro unit hunit part hpart
    have hfiles := GenerationUnit.perm_within (order.filter _) (List.mem_filter.mp hunit).1
    obtain ⟨other, hother, hreordered⟩ := GenerationUnit.unitArtifacts_perm hfiles hpart
    exact ⟨other, hother, unit, hunit, hreordered⟩
  have hunits : List.Forall₂ (fun unit part => unitArtifacts options unreadable unit = .ok part)
      ((GenerationUnit.unitsOf files).map (GenerationUnit.within (files'.filter (·.generate)))) middle :=
    List.forall₂_map_left_iff.mpr hmiddle
  obtain ⟨parts', hparts', hperm⟩ := List.perm_comp_forall₂ (GenerationUnit.unitsOf_perm order hagree) hunits
  have hnames := perm_of_forall₂ hreordered (List.map (·.name)) (fun _ _ => List.map_append)
    fun part other ⟨unit, _, hunit⟩ => hunit.names_perm
  refine ⟨parts'.flatten, parts, middle, generate_ok_iff.mpr ⟨hagree.perm (order.filter _), parts', hparts', rfl, ?_⟩,
    rfl, hperm.flatten, hreordered⟩
  exact ((hperm.flatten.map _).trans hnames.symm).nodup_iff.mpr hnodup

/-- A run on the same files in another order succeeds if and only if the run succeeds. Then both give the same files
for schema files and files of units under the same names. Two files of units with one name have the same header, so
the same imports, and the same declarations, and they have the factories of the services in some order: these differ
in indentation at most, and not even in that if the names of the services are identifiers. -/
theorem generate_orders_output (order : files.Perm files') :
    ((∃ artifacts, generate options files unreadable = .ok artifacts) ↔
      ∃ artifacts, generate options files' unreadable = .ok artifacts) ∧
    ∀ artifacts artifacts', generate options files unreadable = .ok artifacts →
      generate options files' unreadable = .ok artifacts' →
      (artifacts.filter (·.kind = .file)).Perm (artifacts'.filter (·.kind = .file)) ∧
      ((artifacts.filter (·.kind = .unit)).map (·.name)).Perm ((artifacts'.filter (·.kind = .unit)).map (·.name)) ∧
      ∀ artifact ∈ artifacts, ∀ artifact' ∈ artifacts', artifact.kind = .unit → artifact'.kind = .unit →
        artifact.name = artifact'.name →
        ∃ unit ∈ GenerationUnit.unitsOf files, ∃ source source', options.unitFileName unit = .ok artifact.name ∧
          artifact = source.artifact ∧ artifact' = source'.artifact ∧ unit.Reorders source source' := by
  refine ⟨⟨?_, ?_⟩, ?_⟩
  · rintro ⟨artifacts, h⟩
    obtain ⟨artifacts', _, _, h', _⟩ := generate_reordered order h
    exact ⟨artifacts', h'⟩
  · rintro ⟨artifacts', h'⟩
    obtain ⟨artifacts, _, _, h, _⟩ := generate_reordered order.symm h'
    exact ⟨artifacts, h⟩
  · intro artifacts artifacts' h h'
    obtain ⟨given, parts, middle, hgiven, rfl, hperm, hreordered⟩ := generate_reordered order h
    obtain rfl := Except.ok.inj (h'.symm.trans hgiven)
    obtain ⟨_, _, _, _, hnodup⟩ := generate_ok_iff.mp h'
    refine ⟨?_, ?_, ?_⟩
    · refine (perm_of_forall₂ hreordered _ (fun _ _ => List.filter_append _ _) ?_).trans (hperm.symm.filter _)
      exact fun part other ⟨unit, _, hunit⟩ => hunit.files_perm
    · refine (perm_of_forall₂ hreordered (fun part => (part.filter (·.kind = .unit)).map (·.name)) (by simp) ?_).trans
        ((hperm.symm.filter _).map _)
      exact fun part other ⟨unit, _, hunit⟩ => hunit.unitNames_perm
    · intro artifact hartifact artifact' hartifact' hkind _ hname
      obtain ⟨part, hpart, hmem⟩ := List.mem_flatten.mp hartifact
      obtain ⟨other, hother, unit, hunit, hparts⟩ := exists_of_forall₂_left hreordered hpart
      obtain ⟨source, source', hsource, hsource', hfile, hreorders⟩ := hparts.filter_unit
      obtain rfl : artifact = source.artifact := by
        rw [← List.mem_singleton, ← hsource]
        exact List.mem_filter.mpr ⟨hmem, by simpa using hkind⟩
      have hgiven' : source'.artifact ∈ other := by
        have hself : source'.artifact ∈ other.filter (·.kind = .unit) := by simp [hsource']
        exact (List.mem_filter.mp hself).1
      -- no two artifacts of a run have one name
      have hsame : artifact' = source'.artifact := by
        refine List.inj_on_of_nodup_map hnodup hartifact'
          (hperm.mem_iff.mpr (List.mem_flatten_of_mem hother hgiven')) ?_
        exact hname.symm.trans hreorders.name.symm
      exact ⟨unit, hunit, source, source', hfile, rfl, hsame, hreorders⟩

/-- A file of the package `zoo` with one service. -/
def keeperFile (name service : String) : File :=
  { name, package := "zoo", importPath := "zoo", packageName := "zoo"
    services := [{ name := service, goName := service, fullName := "zoo." ++ service }] }

theorem generate_orders_output_zoo :
    [keeperFile "lion.proto" "Lion", keeperFile "seal.proto" "Seal"].Perm
      [keeperFile "seal.proto" "Seal", keeperFile "lion.proto" "Lion"] ∧
    ∃ artifacts artifacts',
      generate shortOptions [keeperFile "lion.proto" "Lion", keeperFile "seal.proto" "Seal"] = .ok artifacts ∧
      generate shortOptions [keeperFile "seal.proto" "Seal", keeperFile "lion.proto" "Lion"] = .ok artifacts' ∧
      (artifacts.filter (·.kind = .file)).Perm (artifacts'.filter (·.kind = .file)) ∧
      ((artifacts.filter (·.kind = .unit)).map (·.name)).Perm ((artifacts'.filter (·.kind = .unit)).map (·.name)) ∧
      ∃ (unit : GenerationUnit) (source source' : SourceFile),
        source.artifact ∈ artifacts ∧ source'.artifact ∈ artifacts' ∧ unit.Reorders source source' := by
  have order : [keeperFile "lion.proto" "Lion", keeperFile "seal.proto" "Seal"].Perm
      [keeperFile "seal.proto" "Seal", keeperFile "lion.proto" "Lion"] := .swap _ _ _
  have hrun : (generate shortOptions [keeperFile "lion.proto" "Lion", keeperFile "seal.proto" "Seal"]).toOption.any
      (·.any (·.kind = .unit)) = true := by decide +kernel
  obtain ⟨hsucceeds, hsame⟩ := generate_orders_output order
  cases h : generate shortOptions [keeperFile "lion.proto" "Lion", keeperFile "seal.proto" "Seal"] with
  | error failure => simp [h, Except.toOption] at hrun
  | ok artifacts =>
    obtain ⟨artifacts', h'⟩ := hsucceeds.mp ⟨artifacts, h⟩
    obtain ⟨hfiles, hunits, hsources⟩ := hsame artifacts artifacts' h h'
    simp only [h, Except.toOption, Option.any_some, List.any_eq_true, decide_eq_true_eq] at hrun
    obtain ⟨artifact, hartifact, hkind⟩ := hrun
    have hname : artifact.name ∈ (artifacts.filter (·.kind = .unit)).map (·.name) :=
      List.mem_map_of_mem (List.mem_filter.mpr ⟨hartifact, by simpa using hkind⟩)
    obtain ⟨artifact', hartifact', hsameName⟩ := List.mem_map.mp (hunits.mem_iff.mp hname)
    obtain ⟨hartifact', hkind'⟩ := List.mem_filter.mp hartifact'
    obtain ⟨unit, _, source, source', _, rfl, rfl, hreorders⟩ := hsources artifact hartifact artifact' hartifact' hkind
      (by simpa using hkind') hsameName.symm
    exact ⟨order, artifacts, artifacts', rfl, h', hfiles, hunits, unit, source, source', hartifact, hartifact',
      hreorders⟩

/-! ## Names with brackets

A service whose name opens a bracket leaves it open in its factory, and the factories behind it stand deeper. -/

theorem unitFile_of_generate (h : generate options files unreadable = .ok artifacts) {unit : GenerationUnit}
    (hunit : unit ∈ GenerationUnit.unitsOf files) {provider : Provider}
    (hprovider : ((unit.target options).toOption.bind fun target =>
      ((unit.provider options).outcome target.table).1.toOption) = some provider) :
    ∃ source : SourceFile, source.artifact ∈ artifacts ∧ source.kind = .unit ∧
      options.unitFileName unit = .ok source.name ∧
      source.body = indentLines provider.declarationBlock ++ provider.factories.flatMap ("" :: ·) := by
  obtain ⟨_, parts, hparts, rfl, _⟩ := generate_ok_iff.mp h
  obtain ⟨part, hpart, hgiven⟩ := exists_of_forall₂_left hparts hunit
  obtain ⟨sources, hsources, rfl⟩ := unitArtifacts_ok hgiven
  obtain ⟨target, first, rest, htarget, hfirst, _, rfl⟩ := GenerationUnit.sourceFiles_ok hsources
  obtain ⟨name, given, imports, hname, hgives, rfl⟩ := GenerationUnit.providerFile_ok hfirst
  rw [htarget] at hprovider
  change ((unit.provider options).outcome target.table).1.toOption = some provider at hprovider
  rw [hgives] at hprovider
  obtain rfl := Option.some.inj hprovider
  exact ⟨_, List.mem_flatten_of_mem hpart (List.mem_map_of_mem List.mem_cons_self), rfl, hname,
    GenerationUnit.Target.body_filed _ _ _ _⟩

/-- What the first line of a block starts with. -/
def firstChar (block : List String) : Option Char := block.head?.bind (·.toList.head?)

theorem Provider.firstChar_indentedFrom (provider : Provider) (method : ProviderMethod) (depth : Nat) :
    firstChar (indentedFrom depth (provider.factoryBlock method)) = some (if depth = 0 then 'f' else '\t') := by
  obtain ⟨first, rest, hblock⟩ := provider.factoryBlock_eq_cons method
  obtain ⟨more, hmore⟩ : factoryLead.toList <+: (content (factoryLead ++ first)).toList :=
    content_lead (by decide) (by decide) first
  obtain ⟨tail, htail⟩ : ∃ tail, Text.trimmed (factoryLead ++ first).toList = 'f' :: tail := by
    rw [content, String.toList_ofList] at hmore
    exact ⟨_, hmore.symm⟩
  have hdepth : depthOf depth (code ('f' :: tail)) = depth := by
    obtain ⟨more, hcode⟩ : ∃ more, code ('f' :: tail) = 'f' :: more := ⟨_, rfl⟩
    rw [hcode]
    rfl
  obtain ⟨printed, hprinted⟩ : ∃ printed, indentedFrom depth (provider.factoryBlock method) =
      String.ofList (margin ['\t'] depth ++ 'f' :: tail) :: printed := by
    rw [hblock, indentedFrom, List.map_cons, indentFrom]
    simp only [htail, hdepth]
    exact ⟨_, rfl⟩
  rw [hprinted, firstChar, List.head?_cons, Option.bind_some, String.toList_ofList]
  cases depth with
  | zero => rfl
  | succ depth => rfl

def keeperMethod (service : String) : ProviderMethod :=
  ⟨service, "zooapi." ++ service, "zoo.New" ++ service ++ "ProtobufClient", wrapperName service⟩

def keeperProvider (services : List String) : Provider where
  httpClient := "h.Client"
  newClientOptions := "w.NewClientOptions"
  logger := "z.Logger"
  interface := "zooapiclient.Provider"
  context := "c.Context"
  methods := services.map keeperMethod

theorem keeperProvider_firstChars (first second : String) {depth : Nat}
    (h : depthBehind 0 ((keeperProvider []).factoryBlock (keeperMethod first)) = depth) :
    (keeperProvider [first, second]).factories.map firstChar = [some 'f', some (if depth = 0 then 'f' else '\t')] := by
  have hreference {bound name : String} (hbound : IsIdentifier bound) (hname : IsIdentifier name) :
      Reference (bound ++ "." ++ name) := Or.inr ⟨bound, name, hbound.isWord, hname.isWord, rfl⟩
  have hlogger : Reference (keeperProvider [first, second]).logger := @hreference "z" "Logger" (by decide) (by decide)
  have hclient : Reference (keeperProvider [first, second]).httpClient :=
    @hreference "h" "Client" (by decide) (by decide)
  have hinterface : Reference (keeperProvider [first, second]).interface :=
    @hreference "zooapiclient" "Provider" (by decide) (by decide)
  have hclosed : depthBehind 0 (keeperProvider [first, second]).declarationBlock = 0 :=
    Provider.closed_of_laid (Provider.laid_declarations hlogger hclient hinterface) (Provider.split_declarationLines _)
  have hblocks : (keeperProvider [first, second]).methods.map (keeperProvider [first, second]).factoryBlock =
      [(keeperProvider []).factoryBlock (keeperMethod first),
        (keeperProvider []).factoryBlock (keeperMethod second)] := rfl
  rw [Provider.factories, hclosed, hblocks, printedFrom, printedFrom, printedFrom, h, List.map_cons, List.map_cons,
    List.map_nil, Provider.firstChar_indentedFrom, Provider.firstChar_indentedFrom, if_pos rfl]

theorem unit_factories_not_perm :
    ∃ (artifacts artifacts' : List Artifact) (source source' : SourceFile) (declarations : List String)
      (factories others : List (List String)),
      generate shortOptions [keeperFile "lion.proto" "Lion(", keeperFile "seal.proto" "Seal"] = .ok artifacts ∧
      generate shortOptions [keeperFile "seal.proto" "Seal", keeperFile "lion.proto" "Lion("] = .ok artifacts' ∧
      source.artifact ∈ artifacts ∧ source'.artifact ∈ artifacts' ∧
      source.kind = .unit ∧ source'.kind = .unit ∧ source.name = source'.name ∧
      source.body = declarations ++ factories.flatMap ("" :: ·) ∧
      source'.body = declarations ++ others.flatMap ("" :: ·) ∧
      (∀ factory ∈ factories ++ others, ∃ line rest, factory.map content = line :: rest ∧
        Provider.factoryLead.toList <+: line.toList) ∧
      ¬ factories.Perm others := by
  have hrun : (generate shortOptions
      [keeperFile "lion.proto" "Lion(", keeperFile "seal.proto" "Seal"]).toOption.isSome = true := by decide +kernel
  cases h : generate shortOptions [keeperFile "lion.proto" "Lion(", keeperFile "seal.proto" "Seal"] with
  | error failure => simp [h, Except.toOption] at hrun
  | ok artifacts =>
    obtain ⟨artifacts', _, _, h', _⟩ := generate_reordered (.swap (keeperFile "seal.proto" "Seal")
      (keeperFile "lion.proto" "Lion(") []) h
    obtain ⟨source, hsource, hkind, hname, hbody⟩ := @unitFile_of_generate _ _ _ _ h
      ⟨"zoo", "zoo", [keeperFile "lion.proto" "Lion(", keeperFile "seal.proto" "Seal"]⟩ (by decide)
      (keeperProvider ["Lion(", "Seal"]) (by decide +kernel)
    obtain ⟨source', hsource', hkind', hname', hbody'⟩ := @unitFile_of_generate _ _ _ _ h'
      ⟨"zoo", "zoo", [keeperFile "seal.proto" "Seal", keeperFile "lion.proto" "Lion("]⟩ (by decide)
      (keeperProvider ["Seal", "Lion("]) (by decide +kernel)
    refine ⟨artifacts, artifacts', source, source', _, _, _, rfl, h', hsource, hsource', hkind, hkind',
      Except.ok.inj (hname.symm.trans hname'), hbody, hbody', ?_, ?_⟩
    · intro factory hfactory
      rcases List.mem_append.mp hfactory with hfactory | hfactory
      · exact Provider.head_of_mem_factories hfactory
      · exact Provider.head_of_mem_factories hfactory
    · intro hperm
      have hlion : depthBehind 0 ((keeperProvider []).factoryBlock (keeperMethod "Lion(")) = 4 := by decide +kernel
      have hseal : depthBehind 0 ((keeperProvider []).factoryBlock (keeperMethod "Seal")) = 0 := by decide +kernel
      have hfirst := hperm.map firstChar
      rw [keeperProvider_firstChars "Lion(" "Seal" hlion, keeperProvider_firstChars "Seal" "Lion(" hseal] at hfirst
      revert hfirst
      decide

end RpcClients
