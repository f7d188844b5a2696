import RpcClients.Proofs.ParameterNames
import RpcClients.Proofs.ProviderText
import RpcClients.Proofs.ReportedFailures
import RpcClients.Proofs.UnitPartition
import RpcClients.Proofs.WrapperText

/-! # What a unit needs

With the default options, a unit in which everything that is referred to has a name and a path is generated
if its wrapper types do not clash, its methods are unary and no field stands in a oneof. No other step can
fail. -/

namespace RpcClients

open Resolving

/-! ## Complete files -/

/-- The identifier has a name and a package. -/
def Ident.Complete (ident : Ident) : Prop := ident.name ≠ "" ∧ ident.importPath ≠ ""

/-- The type is scalar, or there is an identifier that it can be referred to by. -/
def FieldType.Complete (type : FieldType) : Prop :=
  type.kind.isScalar = true ∨ ∃ ident ∈ type.ident, ident.Complete

def Method.Complete (method : Method) : Prop :=
  method.input.ident.Complete ∧
    ∀ field ∈ method.input.fields ++ method.output.fields, ∀ type ∈ field.types, type.Complete

def Service.Complete (service : Service) : Prop :=
  service.goName ≠ "" ∧ ∀ method ∈ service.methods, method.Complete

def File.Complete (file : File) : Prop :=
  file.importPath ≠ "" ∧ ∀ service ∈ file.services, service.Complete

instance (ident : Ident) : Decidable ident.Complete := inferInstanceAs (Decidable (_ ∧ _))

instance (type : FieldType) : Decidable type.Complete := inferInstanceAs (Decidable (_ ∨ _))

instance (method : Method) : Decidable method.Complete := inferInstanceAs (Decidable (_ ∧ _))

instance (service : Service) : Decidable service.Complete := inferInstanceAs (Decidable (_ ∧ _))

instance (file : File) : Decidable file.Complete := inferInstanceAs (Decidable (_ ∧ _))

theorem Ident.Complete.referable {ident : Ident} (h : ident.Complete) (own : String) : ident.Referable own :=
  ⟨h.1, Or.inr h.2⟩

theorem FieldType.Complete.known {type : FieldType} (h : type.Complete) (own : String) : type.Known own := by
  rcases h with hscalar | ⟨ident, hident, hcomplete⟩
  · exact Or.inl hscalar
  · exact Or.inr ⟨ident, hident, hcomplete.referable own⟩

/-! ## Steps that succeed in every table -/

namespace Resolving

variable {α β : Type}

/-- The step gives something whatever the table is. -/
def Succeeds (step : Resolving α) : Prop := ∀ table, ∃ value next, Gives step table value next

theorem succeeds_pure (value : α) : Succeeds (pure value) := fun table => ⟨value, table, gives_pure.mpr ⟨rfl, rfl⟩⟩

theorem succeeds_qualified {ident : Ident} (h : ident.Complete) : Succeeds (qualified ident) := by
  intro table
  obtain ⟨text, next, hok⟩ := (Imports.qualified_ok_iff table ident).mpr (h.referable _)
  exact ⟨text, next, gives_qualified.mpr hok⟩

theorem Succeeds.bind {step : Resolving α} {rest : α → Resolving β} (hstep : Succeeds step)
    (hrest : ∀ value, Succeeds (rest value)) : Succeeds (step >>= rest) := by
  intro table
  obtain ⟨value, middle, hvalue⟩ := hstep table
  obtain ⟨given, next, hgiven⟩ := hrest value middle
  exact ⟨given, next, gives_bind.mpr ⟨value, middle, hvalue, hgiven⟩⟩

theorem succeeds_ofExcept_bind {result : Except Failure α} {value : α} {rest : α → Resolving β}
    (h : result = .ok value) (hrest : Succeeds (rest value)) : Succeeds (ofExcept result >>= rest) := by
  intro table
  obtain ⟨given, next, hgiven⟩ := hrest table
  exact ⟨given, next, gives_bind.mpr ⟨value, table, gives_ofExcept.mpr ⟨h, rfl⟩, hgiven⟩⟩

theorem succeeds_mapM {step : α → Resolving β} {items : List α} (h : ∀ item ∈ items, Succeeds (step item)) :
    Succeeds (items.mapM step) := by
  induction items with
  | nil => exact succeeds_pure []
  | cons item rest ih =>
    rw [List.forall_mem_cons] at h
    rw [List.mapM_cons]
    exact h.1.bind fun value => (ih h.2).bind fun values => succeeds_pure (value :: values)

theorem forall_of_gives_mapM {step : α → Resolving β} {items : List α} {table next : Imports} {given : List β}
    {p : α → Prop} (h : Gives (items.mapM step) table given next)
    (hstep : ∀ item before value left, Gives (step item) before value left → p item) : ∀ item ∈ items, p item := by
  induction items generalizing table given with
  | nil => simp
  | cons item rest ih =>
    obtain ⟨value, middle, values, hvalue, hvalues, _⟩ := gives_mapM_cons.mp h
    rw [List.forall_mem_cons]
    exact ⟨hstep item _ _ _ hvalue, ih hvalues⟩

end Resolving

/-! ## Methods and wrappers -/

/-- The method can be wrapped: it is unary, and no field of its messages stands in a oneof. -/
def Method.Wrappable (method : Method) : Prop :=
  method.shape = .unary ∧ ∀ field ∈ method.input.fields ++ method.output.fields, field.oneof = none

theorem Method.wrappable_of_gives {method : Method} {wrapper context : String} {unreadable : List String}
    {table next : Imports} {emitted : WrapperMethod}
    (h : Gives (method.wrapped wrapper context unreadable) table emitted next) : method.Wrappable := by
  obtain ⟨hunary, _, _, _, _, _, _, _, hparameters, hresults, _⟩ := gives_wrapped_iff.mp h
  refine ⟨hunary, ?_⟩
  rw [List.forall_mem_append]
  exact ⟨fun field hfield => ((Message.gives_parametersFor hparameters).1 field hfield).1,
    fun field hfield => ((Message.gives_parametersFor hresults).1 field hfield).1⟩

theorem Method.Wrappable.succeeds {method : Method} (h : method.Wrappable) (hcomplete : method.Complete)
    (wrapper context : String) : Succeeds (method.wrapped wrapper context []) := by
  intro table
  obtain ⟨hunary, honeof⟩ := h
  obtain ⟨hrequest, htypes⟩ := hcomplete
  have hsupported : ∀ field ∈ method.input.fields ++ method.output.fields, field.Supported table.importPath := by
    intro field hfield
    exact ⟨honeof field hfield, fun type htype => (htypes field hfield type htype).known _⟩
  rw [List.forall_mem_append] at hsupported
  exact gives_wrapped_of_flattens wrapper context hunary (by simp [Readable]) (hrequest.referable _)
    ((Message.flattens_iff _ _).mpr hsupported.1) ((Message.flattens_iff _ _).mpr hsupported.2)

theorem Service.wrappable_of_gives {service : Service} {importPath context logger : String}
    {unreadable : List String} {table next : Imports} {wrapper : Wrapper}
    (h : Gives (service.wrapped importPath context logger unreadable) table wrapper next) :
    ∀ method ∈ service.methods, method.Wrappable := by
  obtain ⟨_, _, _, _, hmethods, _⟩ := gives_wrapped_iff.mp h
  exact forall_of_gives_mapM hmethods fun _ _ _ _ => Method.wrappable_of_gives

theorem Service.succeeds_wrapped {service : Service} (hcomplete : service.Complete)
    (hmethods : ∀ method ∈ service.methods, method.Wrappable) {importPath : String} (hpath : importPath ≠ "")
    (context logger : String) : Succeeds (service.wrapped importPath context logger []) := by
  refine (succeeds_qualified ⟨hcomplete.1, hpath⟩).bind fun client => ?_
  refine (succeeds_mapM fun method hmethod => ?_).bind fun methods => succeeds_pure _
  exact (hmethods method hmethod).succeeds (hcomplete.2 method hmethod) _ _

namespace GenerationUnit

/-! ## Declarations -/

theorem eq_of_ofNat_eq_N {code : Nat} (h : Char.ofNat code = 'N') : code = 78 := by
  by_cases hvalid : code.isValidChar
  · rw [Char.ofNat, dif_pos hvalid] at h
    exact congrArg Char.toNat h
  · rw [Char.ofNat, dif_neg hvalid] at h
    cases h

theorem lowerCase_eq_cons (c : Char) : ∃ first rest, Text.lowerCase c = first :: rest ∧ first ≠ 'N' := by
  unfold Text.lowerCase Text.mapCase
  split
  · rename_i codes hcodes
    obtain ⟨before, after, hsplit, _⟩ := List.lookup_eq_some_iff.mp hcodes
    have hmem : (c.toNat, codes) ∈ Text.lowerExpansions := by simp [hsplit]
    simp only [Text.lowerExpansions, List.mem_singleton, Prod.mk.injEq] at hmem
    rw [hmem.2]
    exact ⟨_, _, rfl, by decide⟩
  · split
    · rename_i run hrun
      have hall : ∀ run ∈ Text.lowerRuns, run.covers (Int.toNat (78 - run.shift)) = false := by decide +kernel
      refine ⟨_, [], rfl, ?_⟩
      intro heq
      have hcode := eq_of_ofNat_eq_N heq
      have hsame : Int.toNat (78 - run.shift) = c.toNat := by omega
      have hnot := hall run (List.mem_of_find?_eq_some hrun)
      rw [hsame, List.find?_some hrun] at hnot
      cases hnot
    · rename_i hnone
      refine ⟨c, [], rfl, ?_⟩
      rintro rfl
      revert hnone
      decide

theorem wrapperName_ne_providerFunction (goName : String) : wrapperName goName ≠ providerFunction := by
  unfold wrapperName
  simp only
  split_ifs
  · intro h
    simpa [providerFunction] using congrArg (·.toList.getLast?) h
  · unfold Naming.unexported
    intro h
    split at h
    · simp [providerFunction] at h
    · rename_i c rest _
      obtain ⟨first, others, hlower, hne⟩ := lowerCase_eq_cons c
      rw [hlower] at h
      simpa [providerFunction, hne] using congrArg (·.toList.head?) h

/-- The wrapper types of the unit differ from each other and from its provider's type. -/
def NamesApart (unit : GenerationUnit) : Prop :=
  (wrapperNames unit.services).Nodup ∧ providerType ∉ wrapperNames unit.services

theorem namesApart_iff (unit : GenerationUnit) :
    unit.NamesApart ↔ ([providerFunction, providerType] ++ wrapperNames unit.services).Nodup := by
  have hfunction : providerFunction ∉ wrapperNames unit.services := by
    simpa [wrapperNames] using fun (service : Service) _ => wrapperName_ne_providerFunction service.goName
  have hboth : providerFunction ≠ providerType := by decide
  simp [NamesApart, hfunction, hboth, and_comm]

theorem declare_of_nodup {names : List String} {services : List Service}
    (h : (names ++ wrapperNames services).Nodup) : declare names services = .ok (names ++ wrapperNames services) := by
  induction services generalizing names with
  | nil => simp [declare, wrapperNames]
  | cons service rest ih =>
    have hsplit : names ++ wrapperNames (service :: rest) =
        names ++ [wrapperName service.goName] ++ wrapperNames rest := by simp [wrapperNames]
    rw [hsplit] at h ⊢
    have hnew : wrapperName service.goName ∉ names := by
      intro hmem
      exact (List.nodup_append.mp (List.nodup_append.mp h).1).2.2 _ hmem _ (by simp) rfl
    rw [declare, if_neg hnew, ih h]

/-! ## Units -/

def AllUnary (unit : GenerationUnit) : Prop :=
  ∀ service ∈ unit.services, ∀ method ∈ service.methods, method.shape = .unary

def NoOneofs (unit : GenerationUnit) : Prop :=
  ∀ service ∈ unit.services, ∀ method ∈ service.methods,
    ∀ field ∈ method.input.fields ++ method.output.fields, field.oneof = none

/-- Nothing in the unit keeps its files from being generated. -/
def Valid (unit : GenerationUnit) : Prop := unit.NamesApart ∧ unit.AllUnary ∧ unit.NoOneofs

instance (unit : GenerationUnit) : Decidable unit.NamesApart := inferInstanceAs (Decidable (_ ∧ _))

instance (unit : GenerationUnit) : Decidable unit.AllUnary :=
  inferInstanceAs (Decidable (∀ service ∈ unit.services, ∀ method ∈ service.methods, method.shape = .unary))

instance (unit : GenerationUnit) : Decidable unit.NoOneofs :=
  inferInstanceAs (Decidable (∀ service ∈ unit.services, ∀ method ∈ service.methods,
    ∀ field ∈ method.input.fields ++ method.output.fields, field.oneof = none))

instance (unit : GenerationUnit) : Decidable unit.Valid := inferInstanceAs (Decidable (_ ∧ _ ∧ _))

theorem valid_iff (unit : GenerationUnit) :
    unit.Valid ↔ unit.NamesApart ∧ ∀ file ∈ unit.serviceFiles, ∀ service ∈ file.services,
      ∀ method ∈ service.methods, method.Wrappable := by
  have hmem : ∀ service, service ∈ unit.services ↔ ∃ file ∈ unit.serviceFiles, service ∈ file.services := by
    intro service
    simp only [services, serviceFiles, List.mem_flatMap, List.mem_filter, Bool.not_eq_eq_eq_not, Bool.not_true,
      List.isEmpty_eq_false_iff]
    constructor
    · rintro ⟨file, hfile, hservice⟩
      exact ⟨file, ⟨hfile, List.ne_nil_of_mem hservice⟩, hservice⟩
    · rintro ⟨file, ⟨hfile, _⟩, hservice⟩
      exact ⟨file, hfile, hservice⟩
  unfold Valid AllUnary NoOneofs Method.Wrappable
  rw [and_congr_right_iff]
  intro _
  constructor
  · rintro ⟨hunary, honeof⟩ file hfile service hservice method hmethod
    have hservice := (hmem service).mpr ⟨file, hfile, hservice⟩
    exact ⟨hunary service hservice method hmethod, honeof service hservice method hmethod⟩
  · intro h
    refine ⟨fun service hservice method hmethod => ?_, fun service hservice method hmethod => ?_⟩
    · obtain ⟨file, hfile, hservice⟩ := (hmem service).mp hservice
      exact (h file hfile service hservice method hmethod).1
    · obtain ⟨file, hfile, hservice⟩ := (hmem service).mp hservice
      exact (h file hfile service hservice method hmethod).2

/-- The unit has an import path, and its services are complete. -/
def Complete (unit : GenerationUnit) : Prop :=
  unit.importPath ≠ "" ∧ ∀ service ∈ unit.services, service.Complete

theorem Target.file_of_succeeds (target : Target) (name : String) (kind : ArtifactKind) (source : Option String)
    {lines : Resolving (List String)} (h : Succeeds lines) : ∃ file, target.file name kind source lines = .ok file := by
  obtain ⟨given, imports, hgives⟩ := h target.table
  refine ⟨target.filed name kind source given imports, ?_⟩
  rw [Target.file_eq, hgives]

theorem joinPath_ne_empty (first : String) {second : String} (h : second ≠ "") :
    Text.joinPath first second ≠ "" := by
  unfold Text.joinPath
  split_ifs <;> simp [h]

theorem succeeds_provider {unit : GenerationUnit} (h : unit.Complete) : Succeeds (unit.provider {}) := by
  have hsuffixed : ∀ suffix : String, suffix ≠ "" →
      Text.joinPath unit.importPath (unit.packageName ++ suffix) ≠ "" := by
    intro suffix hne
    exact joinPath_ne_empty _ (by simp [hne])
  refine (succeeds_qualified ⟨by decide, by decide⟩).bind fun httpClient => ?_
  refine (succeeds_qualified ⟨by decide, by decide⟩).bind fun newClientOptions => ?_
  refine (succeeds_qualified ⟨by decide, by decide⟩).bind fun logger => ?_
  refine succeeds_ofExcept_bind rfl ?_
  refine (succeeds_qualified ⟨by simp, hsuffixed _ (by decide)⟩).bind fun interface => ?_
  refine (succeeds_qualified ⟨by decide, by decide⟩).bind fun context => ?_
  refine succeeds_ofExcept_bind rfl ?_
  refine (succeeds_mapM fun service hservice => ?_).bind fun methods => succeeds_pure _
  have hservice := h.2 service hservice
  refine (succeeds_qualified ⟨hservice.1, hsuffixed _ (by decide)⟩).bind fun interface => ?_
  exact (succeeds_qualified ⟨by simp, h.1⟩).bind fun newClient => succeeds_pure _

theorem succeeds_wrappers {unit : GenerationUnit} (h : unit.Complete) {services : List Service}
    (hservices : ∀ service ∈ services, service.Complete)
    (hmethods : ∀ service ∈ services, ∀ method ∈ service.methods, method.Wrappable) :
    Succeeds (unit.wrappers {} services []) := by
  refine (succeeds_qualified ⟨by decide, by decide⟩).bind fun context => ?_
  refine (succeeds_qualified ⟨by decide, by decide⟩).bind fun logger => ?_
  refine succeeds_mapM fun service hservice => ?_
  exact service.succeeds_wrapped (hservices service hservice) (hmethods service hservice) h.1 _ _

theorem wrappable_of_gives_wrappers {options : Options} {unit : GenerationUnit} {services : List Service}
    {unreadable : List String} {table next : Imports} {wrappers : List Wrapper}
    (h : Gives (unit.wrappers options services unreadable) table wrappers next) :
    ∀ service ∈ services, ∀ method ∈ service.methods, method.Wrappable := by
  obtain ⟨_, _, _, _, _, _, _, _, _, _, hwrappers⟩ := gives_wrappers_iff.mp h
  exact forall_of_gives_mapM hwrappers fun _ _ _ _ => Service.wrappable_of_gives

theorem valid_of_sourceFiles {unit : GenerationUnit} {options : Options} {unreadable : List String}
    {sources : List SourceFile} (h : unit.sourceFiles options unreadable = .ok sources) : unit.Valid := by
  obtain ⟨target, first, others, htarget, _, hothers, _⟩ := sourceFiles_ok h
  obtain ⟨_, _, hdeclared, hnodup⟩ := target_ok htarget
  rw [hdeclared] at hnodup
  rw [valid_iff, namesApart_iff]
  refine ⟨hnodup, ?_⟩
  intro file hfile
  obtain ⟨source, _, hsource⟩ := exists_of_forall₂_left hothers hfile
  obtain ⟨_, _, _, _, hwrappers, _⟩ := wrapperFile_ok hsource
  exact wrappable_of_gives_wrappers hwrappers

theorem NamesApart.target {unit : GenerationUnit} (h : unit.NamesApart) :
    ∃ target, unit.target {} = .ok target := by
  have hdeclared := declare_of_nodup ((namesApart_iff unit).mp h)
  exact ⟨⟨Text.joinPath unit.importPath (unit.packageName ++ "apiclienttwirp"),
      unit.packageName ++ "apiclienttwirp", "apiclienttwirp", _⟩,
    except_bind_ok_iff.mpr ⟨_, rfl, except_bind_ok_iff.mpr ⟨_, rfl,
      except_bind_ok_iff.mpr ⟨_, hdeclared, rfl⟩⟩⟩⟩

theorem Complete.providerFile {unit : GenerationUnit} (h : unit.Complete) (target : Target) :
    ∃ source, unit.providerFile {} target = .ok source := by
  obtain ⟨source, hsource⟩ := target.file_of_succeeds _ .unit none
    ((succeeds_provider h).bind fun provider => succeeds_pure provider.lines)
  exact ⟨source, except_bind_ok_iff.mpr ⟨_, rfl, hsource⟩⟩

theorem Complete.wrapperFile {unit : GenerationUnit} (h : unit.Complete) (target : Target) {file : File}
    (hfile : file ∈ unit.serviceFiles)
    (hmethods : ∀ service ∈ file.services, ∀ method ∈ service.methods, method.Wrappable) :
    ∃ source, unit.wrapperFile {} target [] file = .ok source := by
  have hservices : ∀ service ∈ file.services, service.Complete := by
    intro service hservice
    exact h.2 service (List.mem_flatMap.mpr ⟨file, (List.mem_filter.mp hfile).1, hservice⟩)
  obtain ⟨source, hsource⟩ := target.file_of_succeeds _ .file (some file.name)
    ((succeeds_wrappers h hservices hmethods).bind fun wrappers => succeeds_pure (wrappers.flatMap Wrapper.lines))
  exact ⟨source, except_bind_ok_iff.mpr ⟨(), rfl, except_bind_ok_iff.mpr ⟨_, rfl, hsource⟩⟩⟩

theorem Valid.sourceFiles {unit : GenerationUnit} (h : unit.Valid) (hcomplete : unit.Complete) :
    ∃ sources, unit.sourceFiles {} [] = .ok sources := by
  obtain ⟨hnames, hmethods⟩ := (valid_iff unit).mp h
  obtain ⟨target, htarget⟩ := hnames.target
  obtain ⟨first, hfirst⟩ := hcomplete.providerFile target
  obtain ⟨others, hothers⟩ := except_mapM_of_forall fun file hfile =>
    hcomplete.wrapperFile target hfile (hmethods file hfile)
  exact ⟨first :: others, except_bind_ok_iff.mpr ⟨target, htarget, except_bind_ok_iff.mpr ⟨first, hfirst,
    except_bind_ok_iff.mpr ⟨others, hothers, rfl⟩⟩⟩⟩

/-- The names of the unit's artifacts: the file of the unit, then one for each file with services. -/
def artifactNames (unit : GenerationUnit) : List String :=
  let package := unit.packageName ++ "apiclienttwirp"
  let dir := Text.joinPath unit.importPath package
  Text.joinPath dir (package ++ ".go") :: unit.serviceFiles.map fun file =>
    let stem := String.ofList (Text.withoutSuffix ".proto".toList (Text.baseName file.name).toList)
    Text.joinPath dir (stem ++ "." ++ "apiclienttwirp" ++ ".go")

theorem names_of_sourceFiles {unit : GenerationUnit} {unreadable : List String} {sources : List SourceFile}
    (h : unit.sourceFiles {} unreadable = .ok sources) : sources.map (·.name) = unit.artifactNames := by
  obtain ⟨target, first, others, _, hfirst, hothers, rfl⟩ := sourceFiles_ok h
  obtain ⟨_, hname⟩ := kind_of_providerFile hfirst
  rw [List.map_cons, artifactNames, ← Except.ok.inj hname]
  refine congrArg _ (map_eq_map_of_forall₂ (hothers.imp ?_)).symm
  intro file source hsource
  exact Except.ok.inj (kind_of_wrapperFile hsource).2.2

end GenerationUnit

/-- A complete unit is generated if and only if it is valid. -/
theorem unitArtifacts_ok_iff {unit : GenerationUnit} (h : unit.Complete) :
    (∃ artifacts, unitArtifacts {} [] unit = .ok artifacts) ↔ unit.Valid := by
  constructor
  · rintro ⟨artifacts, hartifacts⟩
    obtain ⟨sources, hsources, _⟩ := unitArtifacts_ok hartifacts
    exact GenerationUnit.valid_of_sourceFiles hsources
  · intro hvalid
    obtain ⟨sources, hsources⟩ := hvalid.sourceFiles h
    refine ⟨sources.map SourceFile.artifact, ?_⟩
    rw [unitArtifacts, GenerationUnit.artifacts, hsources]
    rfl

theorem names_of_unitArtifacts {unit : GenerationUnit} {unreadable : List String} {artifacts : List Artifact}
    (h : unitArtifacts {} unreadable unit = .ok artifacts) : artifacts.map (·.name) = unit.artifactNames := by
  obtain ⟨sources, hsources, rfl⟩ := unitArtifacts_ok h
  rw [← GenerationUnit.names_of_sourceFiles hsources, List.map_map]
  rfl

end RpcClients
