import RpcClients.Proofs.AliasChoice
import RpcClients.Proofs.ProviderText
import RpcClients.Proofs.WrapperText

/-! # What is printed, by the finished import table

The table grows while a file is printed. Since no reference changes by that, every reference in the file
is the one that the finished table gives. -/

namespace RpcClients

open Resolving

variable {table next final : Imports}

theorem Imports.extends_of_qualified {ident : Ident} {text : String}
    (h : table.qualified ident = .ok (text, next)) : table.Extends next := by
  rw [eq_resolved_of_qualified h]
  exact resolved_extends _ _

theorem Imports.Consistent.requestAlias_referenceTo {table : Imports} (h : table.Consistent) (ident : Ident)
    (hdot : '.' ∉ ident.name.toList) : requestAlias (table.referenceTo ident) = (table.aliasFor ident).toList := by
  unfold referenceTo
  cases hbound : table.aliasFor ident with
  | none =>
    have hnone : qualifier? ident.name = none := by
      simp [qualifier?, Text.pieces_of_not_mem hdot]
    simp [requestAlias, hnone]
  | some bound =>
    exact requestAlias_eq (h.words _ (h.aliasFor_eq_some_iff.mp hbound)).1.1 hdot

/-- Each step of a list is taken in a table that the finished one extends. -/
theorem forall₂_of_gives_mapM_final {α β : Type} {step : α → Resolving β} {idents : α → List Ident}
    (hstep : ∀ item table value next, Gives (step item) table value next →
      next = table.resolved (idents item))
    {items : List α} {given : List β} (h : Gives (items.mapM step) table given next)
    (hfinal : next.Extends final) :
    List.Forall₂ (fun item value => ∃ before left, Gives (step item) before value left ∧ left.Extends final)
      items given := by
  induction items generalizing table given with
  | nil =>
    obtain ⟨rfl, _⟩ := gives_mapM_nil.mp h
    exact .nil
  | cons item rest ih =>
    obtain ⟨value, middle, values, hvalue, hvalues, rfl⟩ := gives_mapM_cons.mp h
    have hmiddle : middle.Extends next := by
      rw [eq_resolved_of_gives_mapM hstep hvalues]
      exact Imports.resolved_extends _ _
    exact .cons ⟨table, middle, hvalue, hmiddle.trans hfinal⟩ (ih hvalues)

/-! ## Types of fields -/

/-- The Go type of a field, of a map key or of a map value, taken by itself. -/
def FieldType.textIn (table : Imports) (type : FieldType) : String :=
  match type.kind, type.ident with
  | .scalar scalar, _ => scalar.goType
  | .message, some ident => "*" ++ table.referenceTo ident
  | .enum, some ident => table.referenceTo ident
  | _, none => ""

def Field.typeIn (table : Imports) (field : Field) : String :=
  match field.types with
  | [key, value] => "map[" ++ key.textIn table ++ "]" ++ value.textIn table
  | _ => Message.wrapElement field (field.type.textIn table)

namespace Message

variable {message : Message}

theorem eq_textIn_of_gives {field : Field} {type : FieldType} {text : String}
    (h : Gives (message.elementType field type) table text next) (hfinal : next.Extends final)
    (hcons : final.Consistent) : text = type.textIn final := by
  unfold elementType at h
  unfold FieldType.textIn
  split at h
  · rename_i scalar hkind
    obtain ⟨rfl, _⟩ := gives_pure.mp h
    simp only [hkind]
  · exact absurd h not_gives_throw
  · rename_i ident hkind hident
    obtain ⟨reference, middle, hq, hp⟩ := gives_bind.mp h
    obtain ⟨rfl, rfl⟩ := gives_pure.mp hp
    rw [Imports.referenceTo_of_qualified (gives_qualified.mp hq) hfinal hcons]
    simp only [hkind, hident]
  · rename_i ident hkind hident
    rw [Imports.referenceTo_of_qualified (gives_qualified.mp h) hfinal hcons]
    simp only [hkind, hident]

theorem extends_of_gives_elementType {field : Field} {type : FieldType} {text : String}
    (h : Gives (message.elementType field type) table text next) : table.Extends next := by
  rw [(gives_elementType h).2]
  exact Imports.resolved_extends _ _

theorem eq_typeIn_of_gives {field : Field} {text : String} (h : Gives (message.goType field) table text next)
    (hfinal : next.Extends final) (hcons : final.Consistent) : text = field.typeIn final := by
  obtain ⟨_, h⟩ := gives_goType_iff.mp h
  unfold Field.typeIn
  rcases h with ⟨key, value, _, _, middle, htypes, hkey, hvalue, rfl⟩ | ⟨htypes, _, helement, rfl⟩
  · have hmiddle := (extends_of_gives_elementType hvalue).trans hfinal
    rw [htypes, eq_textIn_of_gives hkey hmiddle hcons, eq_textIn_of_gives hvalue hfinal hcons]
  · rw [htypes, eq_textIn_of_gives helement hfinal hcons]

theorem types_of_gives {taken : List String} {fields : List Field} {parameters : List Parameter}
    (h : Gives (message.parametersFor taken fields) table parameters next) (hfinal : next.Extends final)
    (hcons : final.Consistent) : ∀ p ∈ parameters, p.goType = p.field.typeIn final := by
  induction fields generalizing taken table parameters with
  | nil =>
    obtain ⟨rfl, _⟩ := gives_parametersFor_nil.mp h
    simp
  | cons field rest ih =>
    obtain ⟨type, middle, others, htype, hothers, rfl⟩ := gives_parametersFor_cons.mp h
    have hmiddle : middle.Extends next := by
      rw [(gives_parametersFor hothers).2]
      exact Imports.resolved_extends _ _
    rw [List.forall_mem_cons]
    exact ⟨eq_typeIn_of_gives htype (hmiddle.trans hfinal) hcons, ih hothers⟩

end Message

/-! ## Methods and wrappers -/

theorem Method.texts_of_gives {method : Method} {wrapper context : String} {unreadable : List String}
    {emitted : WrapperMethod} (h : Gives (method.wrapped wrapper context unreadable) table emitted next)
    (hfinal : next.Extends final) (hcons : final.Consistent) :
    emitted.context = context ∧ emitted.request = final.referenceTo method.input.ident ∧
      ∀ p ∈ emitted.parameters ++ emitted.results, p.goType = p.field.typeIn final := by
  obtain ⟨_, _, request, first, parameters, second, results, hrequest, hparameters, hresults, rfl⟩ :=
    gives_wrapped_iff.mp h
  have hsecond : second.Extends next := by
    rw [(Message.gives_parametersFor hresults).2]
    exact Imports.resolved_extends _ _
  have hfirst : first.Extends second := by
    rw [(Message.gives_parametersFor hparameters).2]
    exact Imports.resolved_extends _ _
  have hsecond := hsecond.trans hfinal
  refine ⟨rfl, Imports.referenceTo_of_qualified hrequest (hfirst.trans hsecond) hcons, ?_⟩
  rw [List.forall_mem_append]
  exact ⟨Message.types_of_gives hparameters hsecond hcons, Message.types_of_gives hresults hfinal hcons⟩

/-- The wrapper has the methods of the service, each made before the table had all its aliases. -/
def Service.MethodsIn (table : Imports) (unreadable : List String) (context : String) (service : Service)
    (wrapper : Wrapper) : Prop :=
  List.Forall₂ (fun method emitted => ∃ before left,
      Gives (Method.wrapped method (wrapperName service.goName) context unreadable) before emitted left ∧
        left.Extends table)
    service.methods wrapper.methods

theorem Service.client_of_gives {service : Service} {importPath context logger : String}
    {unreadable : List String} {wrapper : Wrapper}
    (h : Gives (service.wrapped importPath context logger unreadable) table wrapper next)
    (hfinal : next.Extends final) (hcons : final.Consistent) :
    wrapper.name = wrapperName service.goName ∧ wrapper.logger = logger ∧
      wrapper.client = final.referenceTo ⟨service.goName, importPath⟩ ∧
      service.MethodsIn final unreadable context wrapper := by
  obtain ⟨client, middle, methods, hclient, hmethods, rfl⟩ := gives_wrapped_iff.mp h
  have hmiddle : middle.Extends next := by
    rw [eq_resolved_of_gives_mapM (fun _ _ _ _ => Method.eq_resolved_of_gives_wrapped) hmethods]
    exact Imports.resolved_extends _ _
  exact ⟨rfl, rfl, Imports.referenceTo_of_qualified hclient (hmiddle.trans hfinal) hcons,
    forall₂_of_gives_mapM_final (fun _ _ _ _ => Method.eq_resolved_of_gives_wrapped) hmethods hfinal⟩

namespace GenerationUnit

theorem wrappers_of_gives {options : Options} {unit : GenerationUnit} {services : List Service}
    {unreadable : List String} {wrappers : List Wrapper}
    (h : Gives (unit.wrappers options services unreadable) table wrappers next) (hcons : next.Consistent) :
    ∃ contextPath zapPath, options.contextPath = some contextPath ∧ options.zapPath = some zapPath ∧
      List.Forall₂ (fun service wrapper => ∃ before left,
          Gives (Service.wrapped service unit.importPath (next.referenceTo ⟨"Context", contextPath⟩)
            (next.referenceTo ⟨"Logger", zapPath⟩) unreadable) before wrapper left ∧ left.Extends next)
        services wrappers := by
  obtain ⟨contextPath, zapPath, context, logger, first, second, hpath, hpath', hcontext, hlogger, hwrappers⟩ :=
    gives_wrappers_iff.mp h
  have hsecond : second.Extends next := by
    rw [eq_resolved_of_gives_mapM (fun _ _ _ _ => Service.eq_resolved_of_gives) hwrappers]
    exact Imports.resolved_extends _ _
  have hfirst := (Imports.extends_of_qualified hlogger).trans hsecond
  obtain rfl := Imports.referenceTo_of_qualified hcontext hfirst hcons
  obtain rfl := Imports.referenceTo_of_qualified hlogger hsecond hcons
  exact ⟨contextPath, zapPath, hpath, hpath', forall₂_of_gives_mapM_final
    (fun _ _ _ _ => Service.eq_resolved_of_gives) hwrappers (.refl next)⟩

end GenerationUnit

/-! ## Providers -/

def Service.factoryIn (table : Imports) (apiPath importPath : String) (service : Service) : ProviderMethod where
  service := service.goName
  interface := table.referenceTo ⟨service.goName, apiPath⟩
  newClient := table.referenceTo ⟨"New" ++ service.goName ++ "ProtobufClient", importPath⟩
  wrapper := wrapperName service.goName

theorem Service.eq_factoryIn_of_gives {service : Service} {apiPath importPath : String} {method : ProviderMethod}
    (h : Gives (service.provided apiPath importPath) table method next) (hfinal : next.Extends final)
    (hcons : final.Consistent) : method = service.factoryIn final apiPath importPath := by
  obtain ⟨interface, middle, newClient, hinterface, hclient, rfl⟩ := gives_provided_iff.mp h
  have hmiddle := (Imports.extends_of_qualified hclient).trans hfinal
  rw [Imports.referenceTo_of_qualified hinterface hmiddle hcons,
    Imports.referenceTo_of_qualified hclient hfinal hcons]
  rfl

theorem eq_map_of_forall₂ {α β : Type} {f : α → β} {items : List α} {values : List β}
    (h : List.Forall₂ (fun item value => value = f item) items values) : values = items.map f := by
  induction h with
  | nil => rfl
  | cons hitem _ ih => rw [hitem, ih, List.map_cons]

structure ProviderPaths where
  httpClient : String
  twirpClient : String
  zap : String
  client : String
  context : String
  api : String

namespace GenerationUnit

/-- The options give these packages for the provider of the unit. -/
structure HasPaths (unit : GenerationUnit) (options : Options) (paths : ProviderPaths) : Prop where
  httpClient : options.httpClientPath = some paths.httpClient
  twirpClient : options.twirpClientPath = some paths.twirpClient
  zap : options.zapPath = some paths.zap
  client : options.importPath unit clientSuffix = .ok paths.client
  context : options.contextPath = some paths.context
  api : options.importPath unit apiSuffix = .ok paths.api

def providerIn (table : Imports) (paths : ProviderPaths) (unit : GenerationUnit) : Provider where
  httpClient := table.referenceTo ⟨"Client", paths.httpClient⟩
  newClientOptions := table.referenceTo ⟨"NewClientOptions", paths.twirpClient⟩
  logger := table.referenceTo ⟨"Logger", paths.zap⟩
  interface := table.referenceTo ⟨"Provider", paths.client⟩
  context := table.referenceTo ⟨"Context", paths.context⟩
  methods := unit.services.map (Service.factoryIn table paths.api unit.importPath)

theorem eq_providerIn_of_gives {options : Options} {unit : GenerationUnit} {provider : Provider}
    (h : Gives (unit.provider options) table provider next) (hcons : next.Consistent) :
    ∃ paths, unit.HasPaths options paths ∧ provider = unit.providerIn next paths := by
  obtain ⟨httpPath, twirpPath, zapPath, clientPath, contextPath, apiPath, first, second, third, fourth, fifth,
    ⟨hhttpPath, htwirpPath, hzapPath, hclientPath, hcontextPath, hapiPath⟩, hhttp, htwirp, hzap, hclient, hcontext,
    hmethods⟩ := provider_of_gives h
  have hfifth : fifth.Extends next := by
    rw [eq_resolved_of_gives_mapM (fun _ _ _ _ => Service.eq_resolved_of_gives_provided) hmethods]
    exact Imports.resolved_extends _ _
  have hfourth := (Imports.extends_of_qualified hcontext).trans hfifth
  have hthird := (Imports.extends_of_qualified hclient).trans hfourth
  have hsecond := (Imports.extends_of_qualified hzap).trans hthird
  have hfirst := (Imports.extends_of_qualified htwirp).trans hsecond
  have heach := (forall₂_of_gives_mapM_final (fun _ _ _ _ => Service.eq_resolved_of_gives_provided) hmethods
    (.refl next)).imp fun service method ⟨_, _, hgives, hleft⟩ => Service.eq_factoryIn_of_gives hgives hleft hcons
  refine ⟨⟨httpPath, twirpPath, zapPath, clientPath, contextPath, apiPath⟩,
    ⟨hhttpPath, htwirpPath, hzapPath, hclientPath, hcontextPath, hapiPath⟩, ?_⟩
  obtain ⟨httpClient, newClientOptions, logger, interface, context, methods⟩ := provider
  simp only [providerIn, Provider.mk.injEq]
  exact ⟨Imports.referenceTo_of_qualified hhttp hfirst hcons,
    Imports.referenceTo_of_qualified htwirp hsecond hcons, Imports.referenceTo_of_qualified hzap hthird hcons,
    Imports.referenceTo_of_qualified hclient hfourth hcons, Imports.referenceTo_of_qualified hcontext hfifth hcons,
    eq_map_of_forall₂ heach⟩

/-! ## Files -/

def providerTable (options : Options) (unit : GenerationUnit) (target : Target) (paths : ProviderPaths) : Imports :=
  target.table.resolved (unit.providerIdents options paths.client paths.api)

theorem providerTable_consistent (options : Options) (unit : GenerationUnit) (target : Target)
    (paths : ProviderPaths) : (unit.providerTable options target paths).Consistent :=
  target.table_consistent.resolved _

theorem eq_filed_of_providerFile {options : Options} {unit : GenerationUnit} {target : Target} {source : SourceFile}
    (h : unit.providerFile options target = .ok source) :
    ∃ name paths, unit.HasPaths options paths ∧
      Gives (unit.provider options) target.table (unit.providerIn (unit.providerTable options target paths) paths)
        (unit.providerTable options target paths) ∧
      source = target.filed name .unit none
        (unit.providerIn (unit.providerTable options target paths) paths).lines
        (unit.providerTable options target paths) := by
  obtain ⟨name, provider, imports, _, hprovider, rfl⟩ := providerFile_ok h
  obtain ⟨clientPath, apiPath, hclient, hapi, rfl⟩ := eq_resolved_of_gives_provider hprovider
  obtain ⟨paths, hpaths, rfl⟩ := eq_providerIn_of_gives hprovider (target.table_consistent.resolved _)
  rw [hpaths.client] at hclient
  rw [hpaths.api] at hapi
  cases hclient
  cases hapi
  exact ⟨name, paths, hpaths, hprovider, rfl⟩

def wrapperTable (options : Options) (unit : GenerationUnit) (target : Target) (file : File) : Imports :=
  target.table.resolved (unit.wrapperIdents options file.services)

theorem wrapperTable_consistent (options : Options) (unit : GenerationUnit) (target : Target) (file : File) :
    (unit.wrapperTable options target file).Consistent := target.table_consistent.resolved _

theorem eq_filed_of_wrapperFile {options : Options} {unit : GenerationUnit} {target : Target}
    {unreadable : List String} {file : File} {source : SourceFile}
    (h : unit.wrapperFile options target unreadable file = .ok source) :
    ∃ name wrappers contextPath zapPath,
      options.contextPath = some contextPath ∧ options.zapPath = some zapPath ∧
      Gives (unit.wrappers options file.services unreadable) target.table wrappers
        (unit.wrapperTable options target file) ∧
      source = target.filed name .file (some file.name) (wrappers.flatMap Wrapper.lines)
        (unit.wrapperTable options target file) ∧
      List.Forall₂ (fun service wrapper =>
          wrapper.name = wrapperName service.goName ∧
          wrapper.logger = (unit.wrapperTable options target file).referenceTo ⟨"Logger", zapPath⟩ ∧
          wrapper.client =
            (unit.wrapperTable options target file).referenceTo ⟨service.goName, unit.importPath⟩ ∧
          service.MethodsIn (unit.wrapperTable options target file) unreadable
            ((unit.wrapperTable options target file).referenceTo ⟨"Context", contextPath⟩) wrapper)
        file.services wrappers := by
  obtain ⟨name, wrappers, imports, _, hwrappers, rfl⟩ := wrapperFile_ok h
  obtain rfl := eq_resolved_of_gives_wrappers hwrappers
  have hcons := unit.wrapperTable_consistent options target file
  obtain ⟨contextPath, zapPath, hcontext, hzap, heach⟩ := wrappers_of_gives hwrappers hcons
  refine ⟨name, wrappers, contextPath, zapPath, hcontext, hzap, hwrappers, rfl, ?_⟩
  refine heach.imp ?_
  rintro service wrapper ⟨before, left, hgives, hleft⟩
  exact Service.client_of_gives hgives hleft hcons

end GenerationUnit

end RpcClients
