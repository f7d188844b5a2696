import RpcClients.Proofs.Generation

/-! # Failures inside a unit

If the plugin has a name, named packages are not null and all texts can be read, then whatever fails inside a
unit is reported, and until the unit is added to the report it names none. If in addition every field has a
type that can be referred to, then a missing type reference is not what is reported. -/

namespace RpcClients

/-! ## Types -/

/-- The type is scalar, or it has an identifier. -/
def FieldType.Typed (type : FieldType) : Prop := type.kind.isScalar = true ∨ type.ident.isSome = true

def Message.Typed (message : Message) : Prop := ∀ field ∈ message.fields, ∀ type ∈ field.types, type.Typed

def Service.Typed (service : Service) : Prop :=
  ∀ method ∈ service.methods, method.input.Typed ∧ method.output.Typed

/-- The failure is that a type has no identifier. -/
def Cause.LacksType : Cause → Prop
  | .field _ _ (.noTypeReference _) => True
  | _ => False

/-! ## Reported failures -/

variable {α β : Type} {typed : Prop}

/-- If the result is a failure, it is one that is reported and that names no unit. It is no missing type if
the condition `typed` holds. -/
def Reported (typed : Prop) (result : Except Failure α) : Prop :=
  ∀ failure, result = .error failure → ∃ cause, (typed → ¬ cause.LacksType) ∧ failure = .ofCause cause

theorem reported_ok (value : α) : Reported typed (.ok value) := by
  intro failure h
  cases h

theorem reported_ofCause {cause : Cause} (hcause : typed → ¬ cause.LacksType) :
    Reported typed (.error (.ofCause cause) : Except Failure α) := by
  intro failure h
  cases h
  exact ⟨cause, hcause, rfl⟩

theorem Reported.bind {step : Except Failure α} {rest : α → Except Failure β} (hstep : Reported typed step)
    (hrest : ∀ value, Reported typed (rest value)) : Reported typed (step >>= rest) := by
  cases step with
  | error failure =>
    obtain ⟨cause, hcause, rfl⟩ := hstep failure rfl
    exact reported_ofCause hcause
  | ok value => exact hrest value

theorem reported_mapM {step : α → Except Failure β} {items : List α}
    (h : ∀ item ∈ items, Reported typed (step item)) : Reported typed (items.mapM step) := by
  induction items with
  | nil => exact reported_ok []
  | cons item rest ih =>
    rw [List.forall_mem_cons] at h
    rw [List.mapM_cons]
    exact h.1.bind fun value => (ih h.2).bind fun values => reported_ok (value :: values)

namespace Resolving

/-- In every table, the step reports what fails. -/
def Reports (typed : Prop) (step : Resolving α) : Prop := ∀ table, Reported typed (step.outcome table).1

theorem reports_pure (value : α) : Reports typed (pure value) := fun _ => reported_ok value

theorem reports_ofExcept {result : Except Failure α} (h : Reported typed result) :
    Reports typed (ofExcept result) := by
  intro table
  cases result with
  | error failure =>
    obtain ⟨cause, hcause, rfl⟩ := h failure rfl
    exact reported_ofCause hcause
  | ok value => exact reported_ok value

theorem Reports.bind {step : Resolving α} {rest : α → Resolving β} (hstep : Reports typed step)
    (hrest : ∀ value, Reports typed (rest value)) : Reports typed (step >>= rest) := by
  intro table
  rw [outcome_bind]
  rcases hfirst : step.outcome table with ⟨failure | value, left⟩
  · obtain ⟨cause, hcause, rfl⟩ := hstep table failure (by rw [hfirst])
    exact reported_ofCause hcause
  · exact hrest value left

theorem reports_mapM {step : α → Resolving β} {items : List α} (h : ∀ item ∈ items, Reports typed (step item)) :
    Reports typed (items.mapM step) := by
  induction items with
  | nil => exact reports_pure []
  | cons item rest ih =>
    rw [List.forall_mem_cons] at h
    rw [List.mapM_cons]
    exact h.1.bind fun value => (ih h.2).bind fun values => reports_pure (value :: values)

theorem reports_qualified (ident : Ident) : Reports typed (qualified ident) := by
  intro table
  unfold qualified
  rw [outcome_lift]
  rcases table.qualified ident with problem | ⟨text, next⟩
  · exact reported_ofCause fun _ => id
  · exact reported_ok text

theorem reports_member (path : Option String) (name : String) : Reports typed (member path name) := by
  cases path with
  | none => exact fun _ => reported_ofCause fun _ => id
  | some path => exact reports_qualified ⟨name, path⟩

end Resolving

open Resolving

/-! ## Methods -/

namespace Message

theorem reported_checkField (message : Message) (field : Field) : Reported typed (message.checkField field) := by
  unfold checkField
  split
  · exact reported_ok ()
  · exact reported_ofCause fun _ => id

theorem reports_elementType (message : Message) (field : Field) {type : FieldType} (h : typed → type.Typed) :
    Reports typed (message.elementType field type) := by
  unfold elementType
  split
  · exact reports_pure _
  · rename_i hident hkind
    refine fun _ => reported_ofCause fun htyped _ => ?_
    rcases h htyped with hscalar | hsome
    · cases htype : type.kind with
      | scalar scalar => exact hkind scalar htype
      | enum | message => simp [htype, FieldKind.isScalar] at hscalar
    · rw [hident] at hsome
      cases hsome
  · exact (reports_qualified _).bind fun _ => reports_pure _
  · exact reports_qualified _

theorem reports_goType (message : Message) (field : Field) (h : typed → ∀ type ∈ field.types, type.Typed) :
    Reports typed (message.goType field) := by
  unfold goType
  refine (reports_ofExcept (message.reported_checkField field)).bind fun _ => ?_
  unfold Field.types at h
  split
  · rename_i key value hkey hvalue
    simp only [hkey, hvalue, List.forall_mem_cons] at h
    refine (message.reports_elementType field fun htyped => (h htyped).1).bind fun _ => ?_
    exact (message.reports_elementType field fun htyped => (h htyped).2.1).bind fun _ => reports_pure _
  · rename_i hmap
    refine (message.reports_elementType field fun htyped => ?_).bind fun _ => ?_
    · have htype := h htyped
      split at htype
      · rename_i key value hkey hvalue
        exact absurd hvalue (hmap key value hkey)
      · exact htype field.type List.mem_cons_self
    · split_ifs <;> exact reports_pure _

theorem reports_parametersFor (message : Message) (taken : List String) {fields : List Field}
    (h : typed → ∀ field ∈ fields, ∀ type ∈ field.types, type.Typed) :
    Reports typed (message.parametersFor taken fields) := by
  induction fields generalizing taken with
  | nil => exact reports_pure []
  | cons field rest ih =>
    simp only [List.forall_mem_cons] at h
    refine (message.reports_goType field fun htyped => (h htyped).1).bind fun type => ?_
    exact (ih _ fun htyped => (h htyped).2).bind fun others => reports_pure _

theorem reported_errorReturn (message : Message) (error : String) :
    Reported typed (message.errorReturn error) := by
  refine (reported_mapM fun field _ => ?_).bind fun values => reported_ok _
  exact (message.reported_checkField field).bind fun _ => reported_ok _

end Message

theorem Method.reported_requireUnary (method : Method) : Reported typed method.requireUnary := by
  unfold requireUnary
  split
  · exact reported_ok ()
  · exact reported_ofCause fun _ => id

theorem Method.reports_wrapped (method : Method) (wrapper context : String)
    (h : typed → method.input.Typed ∧ method.output.Typed) :
    Reports typed (method.wrapped wrapper context []) := by
  refine (reports_ofExcept method.reported_requireUnary).bind fun _ => ?_
  refine (reports_qualified _).bind fun request => ?_
  refine (method.input.reports_parametersFor _ fun htyped => (h htyped).1).bind fun parameters => ?_
  refine (method.output.reports_parametersFor _ fun htyped => (h htyped).2).bind fun results => ?_
  refine Reports.bind ?_ fun _ =>
    (reports_ofExcept (method.output.reported_errorReturn _)).bind fun _ => reports_pure _
  cases method.comments with
  | none => exact reports_pure _
  | some text => exact reports_ofExcept (reported_ok ())

/-! ## Files -/

theorem Service.reports_wrapped (service : Service) (importPath context logger : String)
    (h : typed → service.Typed) : Reports typed (service.wrapped importPath context logger []) := by
  refine (reports_qualified _).bind fun client => ?_
  refine (reports_mapM fun method hmethod => ?_).bind fun _ => reports_pure _
  exact method.reports_wrapped _ _ fun htyped => h htyped method hmethod

theorem Service.reports_provided (service : Service) (apiPath importPath : String) :
    Reports typed (service.provided apiPath importPath) :=
  (reports_qualified _).bind fun _ => (reports_qualified _).bind fun _ => reports_pure _

/-- The options by which every failure inside of a unit is reported. -/
def Options.Reporting (options : Options) : Prop := options.pluginName ≠ none ∧ options.namedPackages ≠ none

namespace Options.Reporting

variable {options : Options}

theorem reported_requirePluginName (h : options.Reporting) : Reported typed options.requirePluginName := by
  unfold requirePluginName
  split
  · rename_i hnone
    exact absurd hnone h.1
  · exact reported_ok _

theorem reported_relativePath (unit : GenerationUnit) : Reported typed (options.relativePath unit) := by
  unfold relativePath
  split
  · exact reported_ofCause fun _ => id
  · split_ifs
    · exact reported_ok _
    · exact reported_ok _
    · exact reported_ofCause fun _ => id

theorem reported_importPath (h : options.Reporting) (unit : GenerationUnit) (suffix : String) :
    Reported typed (options.importPath unit suffix) := by
  unfold importPath
  simp only
  split
  · rename_i hnone
    exact absurd hnone h.2
  · split
    · exact reported_ok _
    · exact (reported_relativePath unit).bind fun _ => reported_ok _

theorem reported_packageName (h : options.Reporting) (unit : GenerationUnit) :
    Reported typed (options.packageName unit) := h.reported_requirePluginName.bind fun _ => reported_ok _

theorem reported_outputDir (h : options.Reporting) (unit : GenerationUnit) :
    Reported typed (options.outputDir unit) := by
  refine (h.reported_packageName unit).bind fun package => ?_
  split_ifs
  · exact reported_ok _
  · exact (reported_relativePath unit).bind fun _ => reported_ok _

theorem reported_unitFileName (h : options.Reporting) (unit : GenerationUnit) :
    Reported typed (options.unitFileName unit) :=
  (h.reported_packageName unit).bind fun _ => (h.reported_outputDir unit).bind fun _ => reported_ok _

theorem reported_sourceFileName (h : options.Reporting) (unit : GenerationUnit) (source : String) :
    Reported typed (options.sourceFileName unit source) :=
  (h.reported_outputDir unit).bind fun _ => h.reported_requirePluginName.bind fun _ => reported_ok _

end Options.Reporting

namespace GenerationUnit

theorem reported_declare (names : List String) (services : List Service) : Reported typed (declare names services) := by
  induction services generalizing names with
  | nil => exact reported_ok names
  | cons service rest ih =>
    rw [declare]
    split_ifs
    · exact reported_ofCause fun _ => id
    · exact ih _

theorem Target.reported_file (target : Target) (name : String) (kind : ArtifactKind) (source : Option String)
    {lines : Resolving (List String)} (h : Reports typed lines) :
    Reported typed (target.file name kind source lines) := by
  rw [Target.file_eq]
  rcases hlines : lines.outcome target.table with ⟨failure | given, imports⟩
  · obtain ⟨cause, hcause, rfl⟩ := h target.table failure (by rw [hlines])
    exact reported_ofCause hcause
  · exact reported_ok _

variable {options : Options} (h : options.Reporting) (unit : GenerationUnit)

include h

theorem reported_target : Reported typed (unit.target options) := by
  refine h.reported_requirePluginName.bind fun pluginName => ?_
  refine (h.reported_importPath unit pluginName).bind fun importPath => ?_
  exact (reported_declare _ _).bind fun _ => reported_ok _

theorem reports_provider : Reports typed (unit.provider options) := by
  refine (reports_member _ _).bind fun _ => ?_
  refine (reports_member _ _).bind fun _ => ?_
  refine (reports_member _ _).bind fun _ => ?_
  refine (reports_ofExcept (h.reported_importPath unit _)).bind fun _ => ?_
  refine (reports_qualified _).bind fun _ => ?_
  refine (reports_member _ _).bind fun _ => ?_
  refine (reports_ofExcept (h.reported_importPath unit _)).bind fun _ => ?_
  exact (reports_mapM fun service _ => service.reports_provided _ _).bind fun _ => reports_pure _

theorem reported_providerFile (target : Target) : Reported typed (unit.providerFile options target) := by
  refine (h.reported_unitFileName unit).bind fun name => target.reported_file _ _ _ ?_
  exact (reports_provider h unit).bind fun _ => reports_pure _

theorem reported_wrapperFile (target : Target) {file : File}
    (htyped : typed → ∀ service ∈ file.services, service.Typed) :
    Reported typed (unit.wrapperFile options target [] file) := by
  refine (reported_ok ()).bind fun _ => ?_
  refine (h.reported_sourceFileName unit file.name).bind fun name => target.reported_file _ _ _ ?_
  refine Reports.bind ?_ fun _ => reports_pure _
  refine (reports_member _ _).bind fun context => (reports_member _ _).bind fun logger => ?_
  exact reports_mapM fun service hservice => service.reports_wrapped _ _ _ fun hall => htyped hall service hservice

theorem reported_artifacts (htyped : typed → ∀ service ∈ unit.services, service.Typed) :
    Reported typed (unit.artifacts options []) := by
  refine Reported.bind ?_ fun _ => reported_ok _
  refine (reported_target h unit).bind fun target => ?_
  refine (reported_providerFile h unit target).bind fun first => ?_
  refine (reported_mapM fun file hfile => ?_).bind fun _ => reported_ok _
  refine reported_wrapperFile h unit target fun hall service hservice => htyped hall service ?_
  exact List.mem_flatMap.mpr ⟨file, List.mem_of_mem_filter hfile, hservice⟩

end GenerationUnit

theorem unitArtifacts_reported {options : Options} (h : options.Reporting) {unit : GenerationUnit}
    (htyped : typed → ∀ service ∈ unit.services, service.Typed) {failure : Failure}
    (herror : unitArtifacts options [] unit = .error failure) :
    ∃ cause, (typed → ¬ cause.LacksType) ∧ failure = .reported ⟨cause, some unit.importPath⟩ := by
  unfold unitArtifacts at herror
  split at herror
  · rename_i inner hinner
    cases herror
    obtain ⟨cause, hcause, rfl⟩ := GenerationUnit.reported_artifacts h unit htyped inner hinner
    exact ⟨cause, hcause, rfl⟩
  · cases herror

theorem unitArtifacts_error {options : Options} (h : options.Reporting) {unit : GenerationUnit}
    {failure : Failure} (herror : unitArtifacts options [] unit = .error failure) :
    ∃ cause, failure = .reported ⟨cause, some unit.importPath⟩ := by
  obtain ⟨cause, _, hcause⟩ := unitArtifacts_reported h False.elim herror
  exact ⟨cause, hcause⟩

end RpcClients
