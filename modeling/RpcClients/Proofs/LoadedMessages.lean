import RpcClients.Proofs.LoadingMemory

/-! # Messages of loaded files

A message is loaded while only some Go packages are known. With the packages that are known in the end it would be
loaded again as it is, and so would each of its fields. -/

namespace RpcClients

def Service.messages (service : Service) : List Message :=
  service.methods.flatMap fun method => [method.input, method.output]

def File.messages (file : File) : List Message := file.services.flatMap Service.messages

namespace Schema

namespace Loading

variable {α β : Type} {table : SymbolTable} {known : Packages}

/-! ## Fields and messages -/

/-- The field that its type, its map types and its oneof make up. -/
def assembledField (owner : Symbol) (field : FieldDescriptor) (type : FieldType) (map : Option (FieldType × FieldType))
    (oneof : Option String) : Field where
  name := field.name
  goName := Naming.camelCase field.name
  type := type
  repeated := field.label = .repeated && map.isNone
  optional := oneof.isNone &&
    (field.proto3Optional || (optionalByDefault owner.file && (!(field.label = .repeated && map.isNone) && map.isNone)))
  mapKey := map.map (·.1)
  mapValue := map.map (·.2)
  oneof := oneof

theorem loadsWith_field_iff {symbols : List Symbol} {owner : Symbol} {field : FieldDescriptor}
    {descriptor : MessageDescriptor} {loaded : Field} :
    LoadsWith known (Loading.field { symbols } owner descriptor field) loaded ↔
      ∃ type map off, LoadsWith known (fieldType { symbols } owner field) type ∧
        LoadsWith known (mapTypes { symbols } field type.2) map ∧ LoadsWith known (oneof descriptor field) off ∧
        loaded = assembledField owner field type.1 map off := by
  have hparts : Loading.field { symbols } owner descriptor field = (do
      let type ← fieldType { symbols } owner field
      let map ← mapTypes { symbols } field type.2
      let off ← oneof descriptor field
      return assembledField owner field type.1 map off) := rfl
  rw [hparts]
  constructor
  · have closed : Closed { symbols } (Repeats { symbols } fun _ => True) := closed_repeats_any
    intro h
    apply h.ensured
    refine (closed.fieldType _ _).ensures.bind fun type _ => ?_
    refine (closed.mapTypes _ _).ensures.bind fun map _ => ?_
    refine (closed.oneof _ _).ensures.bind fun off _ => ensures_pure fun final => ?_
    intro hoff hmap htype
    exact ⟨type, map, off, htype, hmap, hoff, rfl⟩
  · rintro ⟨type, map, off, htype, hmap, hoff, rfl⟩
    exact htype.bind (hmap.bind (hoff.bind (loadsWith_pure _)))

/-- With these packages the declared fields are loaded as the given ones. -/
def LoadsFields (known : Packages) (table : SymbolTable) (symbol : Symbol) (descriptor : MessageDescriptor)
    (fields : List Field) : Prop :=
  List.Forall₂ (fun declared given => LoadsWith known (field table symbol descriptor declared) given)
    descriptor.fields fields

theorem LoadsFields.exists_field {symbol : Symbol} {descriptor : MessageDescriptor} {fields : List Field}
    (h : LoadsFields known table symbol descriptor fields) {i : Nat} {declared : FieldDescriptor}
    (hdeclared : descriptor.fields[i]? = some declared) :
    ∃ given, fields[i]? = some given ∧ LoadsWith known (field table symbol descriptor declared) given := by
  obtain ⟨hi, rfl⟩ := List.getElem?_eq_some_iff.mp hdeclared
  have hi' : i < fields.length := List.Forall₂.length_eq h ▸ hi
  exact ⟨fields[i], List.getElem?_eq_getElem hi', List.Forall₂.get h hi hi'⟩

theorem fullName_of_loads_message {symbol : Symbol} {loaded : Message}
    (h : Loads (message table symbol) loaded) : loaded.fullName = symbol.fullName := by
  unfold message at h
  split at h
  · exact absurd h not_loads_throw
  · obtain ⟨_, _, h⟩ := loads_bind h
    obtain ⟨_, _, h⟩ := loads_bind h
    rw [loads_pure h]

theorem loadsWith_message_iff {symbol : Symbol} {descriptor : MessageDescriptor}
    (hmessage : symbol.message = some descriptor) {loaded : Message} :
    LoadsWith known (message table symbol) loaded ↔
      loaded.fullName = symbol.fullName ∧ LoadsWith known (ident table symbol) loaded.ident ∧
        LoadsFields known table symbol descriptor loaded.fields := by
  have hident : Repeats table (fun _ => True) (ident table symbol) :=
    (repeats_goPackage trivial).bind fun _ _ => repeats_pure _
  unfold message
  simp only [hmessage]
  constructor
  · intro h
    apply h.ensured
    refine (ensures_mapM fun declared _ => (closed_repeats_any.field symbol descriptor declared).ensures).bind
      fun fields _ => hident.ensures.bind fun ident _ => ensures_pure fun final => ?_
    intro hident hfields
    exact ⟨rfl, hident, hfields⟩
  · rintro ⟨hname, hident, hfields⟩
    obtain ⟨fullName, ident, fields⟩ := loaded
    obtain rfl : fullName = symbol.fullName := hname
    exact (loadsWith_mapM hfields).bind (hident.bind (loadsWith_pure _))

/-- The message is loaded again for one of the symbols. -/
def Reloads (table : SymbolTable) (final : Packages) (loaded : Message) : Prop :=
  ∃ symbol ∈ table.symbols, LoadsWith final (message table symbol) loaded

theorem ensures_method (file : FileDescriptor) (service : String) (serviceIndex : Nat)
    (descriptor : MethodDescriptor × Nat) :
    Ensures (fun final (loaded : Method) => ∀ message ∈ [loaded.input, loaded.output], Reloads table final message)
      (method table (message table) file service serviceIndex descriptor) := by
  refine (closed_repeats_any.goName _).ensures.bind fun _ _ => ?_
  refine (closed_repeats_any.resolve _ _ _).ensures.bind fun input hinput => ?_
  have hinput := mem_of_loads_resolve hinput
  refine (closed_repeats_any.message hinput).ensures.bind fun _ _ => ?_
  refine (closed_repeats_any.resolve _ _ _).ensures.bind fun output houtput => ?_
  have houtput := mem_of_loads_resolve houtput
  refine (closed_repeats_any.message houtput).ensures.bind fun _ _ => ensures_pure fun final => ?_
  intro hout _ hin _ _ message hmessage
  rcases List.mem_pair.mp hmessage with rfl | rfl
  · exact ⟨input, hinput, hin⟩
  · exact ⟨output, houtput, hout⟩

theorem ensures_service (file : FileDescriptor) (descriptor : ServiceDescriptor × Nat) :
    Ensures (fun final (loaded : Service) => ∀ message ∈ loaded.messages, Reloads table final message)
      (service table (message table) file descriptor) := by
  refine (ensures_mapM fun method _ => ensures_method _ _ _ method).bind fun methods _ => ?_
  refine (closed_repeats_any.goName _).ensures.bind fun _ _ => ensures_pure fun final => ?_
  intro _ hmethods message hmessage
  obtain ⟨method, hmethod, hmessage⟩ := List.mem_flatMap.mp hmessage
  obtain ⟨_, _, hreloads⟩ := exists_of_forall₂_right hmethods hmethod
  exact hreloads message hmessage

theorem ensures_file (toGenerate : List String) (descriptor : FileDescriptor) :
    Ensures (fun final (loaded : File) => ∀ message ∈ loaded.messages, Reloads table final message)
      (file table (message table) toGenerate descriptor) := by
  unfold file
  split_ifs
  · have hpackage : Repeats table (fun _ => True) (goPackage table descriptor) := repeats_goPackage trivial
    refine hpackage.ensures.bind fun _ _ => ?_
    refine (ensures_mapM fun service _ => ensures_service descriptor service).bind fun services _ => ?_
    refine ensures_pure fun final => ?_
    intro hservices _ message hmessage
    obtain ⟨service, hservice, hmessage⟩ := List.mem_flatMap.mp hmessage
    obtain ⟨_, _, hreloads⟩ := exists_of_forall₂_right hservices hservice
    exact hreloads message hmessage
  · refine (closed_repeats_any.importedPackage descriptor).ensures.bind fun _ _ => ensures_pure fun final => ?_
    intro _ message hmessage
    cases hmessage

end Loading

/-- With the packages that are known in the end all messages of the files are loaded again as they are. -/
theorem reloads_of_run {table : SymbolTable} {descriptors : List FileDescriptor} {toGenerate : List String}
    {files : List File} {before after : Loading.Packages}
    (h : (descriptors.mapM (Loading.file table (Loading.message table) toGenerate)).run before = .ok (files, after)) :
    ∀ message ∈ files.flatMap File.messages, Loading.Reloads table after message := by
  obtain ⟨_, hfiles⟩ := Loading.ensures_mapM (fun descriptor _ => Loading.ensures_file toGenerate descriptor) _ _ _ h
  have hfiles := hfiles after (Loading.grows_refl after)
  intro message hmessage
  obtain ⟨file, hfile, hmessage⟩ := List.mem_flatMap.mp hmessage
  obtain ⟨_, _, hreloads⟩ := exists_of_forall₂_right hfiles hfile
  exact hreloads message hmessage

end Schema

end RpcClients
