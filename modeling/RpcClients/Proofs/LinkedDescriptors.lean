import RpcClients.Proofs.LoadedNames
import RpcClients.Proofs.SoundDescriptors

/-! # Linked descriptors

In the descriptors of files that were just read, type names stand as they were written, only scalar fields
have a type, and optional fields of proto3 have no oneof. A compiler hands over the linked form: type names are
full names with a dot before them, every field has a type, and each optional field of proto3 is alone in a oneof
of its own. Both forms are loaded alike. -/

namespace RpcClients.Schema

/-! ## The linked form -/

def Symbol.typeCode (symbol : Symbol) : TypeCode := if symbol.message.isSome then .message else .enum

/-- The type name by which a symbol is found in every scope. -/
def Symbol.absoluteName (symbol : Symbol) : String := "." ++ symbol.fullName

/-- A type name as a full name, as it is if nothing is found by it. -/
def linkedName (symbols : List Symbol) (scope typeName : String) : String :=
  match resolve? symbols scope typeName with
  | some symbol => symbol.absoluteName
  | none => typeName

/-- A field with the full name and the kind of its type, unless it is scalar. -/
def FieldDescriptor.linked (symbols : List Symbol) (scope : String) (field : FieldDescriptor) : FieldDescriptor :=
  if field.typeName = "" then field
  else
    match resolve? symbols scope field.typeName with
    | some symbol => { field with typeName := symbol.absoluteName, type := some symbol.typeCode }
    | none => field

/-- Puts each optional field of proto3 into a oneof of its own, the first one into that with index `next`. -/
def withOwnOneofs (next : Nat) : List FieldDescriptor → List FieldDescriptor
  | [] => []
  | field :: rest =>
    if field.proto3Optional then { field with oneofIndex := some next } :: withOwnOneofs (next + 1) rest
    else field :: withOwnOneofs next rest

section

variable (symbols : List Symbol) (naming : String → Nat → String)

mutual

/-- A message with the given full name in linked form. Its further oneofs have the names that `naming` gives
to the optional fields of proto3, in order. -/
def MessageDescriptor.linked (fullName : String) : MessageDescriptor → MessageDescriptor
  | ⟨name, fields, nested, enums, oneofs, mapEntry⟩ =>
    ⟨name, withOwnOneofs oneofs.length (fields.map (·.linked symbols fullName)), linkedWithin fullName nested, enums,
      oneofs ++ (List.range (fields.countP (·.proto3Optional))).map (naming fullName), mapEntry⟩

/-- The messages of a scope in linked form. -/
def linkedWithin (scope : String) : List MessageDescriptor → List MessageDescriptor
  | [] => []
  | message :: rest => message.linked (inScope scope message.name) :: linkedWithin scope rest

end

def MethodDescriptor.linked (scope : String) (method : MethodDescriptor) : MethodDescriptor :=
  { method with
    inputType := linkedName symbols scope method.inputType
    outputType := linkedName symbols scope method.outputType }

def ServiceDescriptor.linked (scope : String) (service : ServiceDescriptor) : ServiceDescriptor :=
  { service with methods := service.methods.map (·.linked symbols scope) }

def FileDescriptor.linked (file : FileDescriptor) : FileDescriptor :=
  { file with
    messages := linkedWithin symbols naming file.package file.messages
    services := file.services.map (·.linked symbols file.package) }

/-- The symbol of the same name in files in linked form. -/
def Symbol.linked (symbol : Symbol) : Symbol :=
  { symbol with
    file := symbol.file.linked symbols naming
    message := symbol.message.map (·.linked symbols naming symbol.fullName) }

end

/-- Files in linked form. Names are looked for in all of them. -/
def linkedFiles (naming : String → Nat → String) (files : List FileDescriptor) : List FileDescriptor :=
  files.map (·.linked (files.flatMap FileDescriptor.symbols) naming)

variable {symbols : List Symbol} {naming : String → Nat → String}

/-! ## Symbols -/

mutual

theorem linked_messageSymbols (file : FileDescriptor) (scope lead : String) :
    (message : MessageDescriptor) →
      messageSymbols (file.linked symbols naming) scope lead
          (message.linked symbols naming (inScope scope message.name)) =
        (messageSymbols file scope lead message).map (·.linked symbols naming)
  | ⟨name, fields, nested, enums, oneofs, mapEntry⟩ => by
    rw [messageSymbols, MessageDescriptor.linked, messageSymbols, linked_nestedSymbols file _ _ nested]
    rw [List.map_cons, List.map_append, List.map_map]
    exact congrArg₂ _ (by simp [Symbol.linked, MessageDescriptor.linked]) rfl

theorem linked_nestedSymbols (file : FileDescriptor) (scope lead : String) :
    (messages : List MessageDescriptor) →
      nestedSymbols (file.linked symbols naming) scope lead (linkedWithin symbols naming scope messages) =
        (nestedSymbols file scope lead messages).map (·.linked symbols naming)
  | [] => by simp [nestedSymbols, linkedWithin]
  | message :: rest => by
    rw [linkedWithin, nestedSymbols, nestedSymbols, linked_messageSymbols file scope lead message,
      linked_nestedSymbols file scope lead rest, List.map_append]

end

theorem linked_fileSymbols (file : FileDescriptor) :
    (file.linked symbols naming).symbols = file.symbols.map (·.linked symbols naming) := by
  rw [FileDescriptor.symbols, FileDescriptor.symbols, List.map_append, List.map_map]
  exact congrArg₂ _ (linked_nestedSymbols file file.package "" file.messages) rfl

theorem findSymbol?_linked (table : List Symbol) (fullName : String) :
    findSymbol? (table.map (·.linked symbols naming)) fullName =
      (findSymbol? table fullName).map (·.linked symbols naming) := by
  rw [findSymbol?, findSymbol?, List.find?_map]
  rfl

theorem addSymbols_linked {added result : List Symbol} (symbols : List Symbol) (naming : String → Nat → String)
    (h : addSymbols [] [] added = .ok result) :
    addSymbols [] [] (added.map (·.linked symbols naming)) = .ok (result.map (·.linked symbols naming)) := by
  obtain ⟨_, hnodup, _, rfl⟩ := addSymbols_ok_iff.mp h
  refine addSymbols_ok_iff.mpr ⟨fun _ _ => rfl, ?_, by simp, by simp⟩
  rw [List.map_map]
  exact hnodup

/-! ## Resolution -/

theorem resolve?_absoluteName (table : List Symbol) (scope : String) (symbol : Symbol) :
    resolve? table scope symbol.absoluteName = findSymbol? table symbol.fullName := by
  have hcut : Text.cut '.' symbol.absoluteName.toList = ([], some symbol.fullName.toList) := by
    simp [Symbol.absoluteName, Text.cut]
  rw [resolve?, hcut]
  simp

/-- In every scope the full name of a symbol means the symbol in linked form. -/
theorem resolve?_linked {table : List Symbol} {scope typeName : String} {symbol : Symbol}
    (h : resolve? table scope typeName = some symbol) (other : String) :
    resolve? (table.map (·.linked symbols naming)) other symbol.absoluteName =
      some (symbol.linked symbols naming) := by
  rw [resolve?_absoluteName, findSymbol?_linked, findSymbol?_of_resolve? h]
  rfl

/-! ## Fields -/

/-- The second field is the first in linked form, up to the oneof of an optional field of proto3. -/
structure Relinked (symbols : List Symbol) (scope : String) (field linked : FieldDescriptor) : Prop where
  eq : linked = { field.linked symbols scope with oneofIndex := linked.oneofIndex }
  oneof : field.proto3Optional = false → linked.oneofIndex = field.oneofIndex

theorem linked_cases (scope : String) (field : FieldDescriptor) :
    ∃ type typeName, field.linked symbols scope = { field with type, typeName } := by
  unfold FieldDescriptor.linked
  split_ifs
  · exact ⟨field.type, field.typeName, rfl⟩
  · split
    · exact ⟨_, _, rfl⟩
    · exact ⟨field.type, field.typeName, rfl⟩

theorem relinked_fields (scope : String) (next : Nat) (fields : List FieldDescriptor) :
    List.Forall₂ (Relinked symbols scope) fields (withOwnOneofs next (fields.map (·.linked symbols scope))) := by
  induction fields generalizing next with
  | nil => exact .nil
  | cons field rest ih =>
    obtain ⟨type, typeName, hlinked⟩ := linked_cases scope field
    rw [List.map_cons, withOwnOneofs]
    split_ifs with hoptional
    · refine .cons ⟨rfl, ?_⟩ (ih _)
      intro hnot
      rw [hlinked] at hoptional
      simp [hnot] at hoptional
    · exact .cons ⟨rfl, by simp [hlinked]⟩ (ih _)

namespace Relinked

variable {scope : String} {field linked : FieldDescriptor}

theorem kept (h : Relinked symbols scope field linked) :
    linked.name = field.name ∧ linked.label = field.label ∧ linked.proto3Optional = field.proto3Optional := by
  obtain ⟨type, typeName, hlinked⟩ := linked_cases scope field
  rw [h.eq, hlinked]
  exact ⟨rfl, rfl, rfl⟩

theorem type_cases (h : Relinked symbols scope field linked) :
    (field.typeName = "" ∧ linked.type = field.type ∧ linked.typeName = "") ∨
    (field.typeName ≠ "" ∧ resolve? symbols scope field.typeName = none) ∨
    ∃ symbol, field.typeName ≠ "" ∧ resolve? symbols scope field.typeName = some symbol ∧
      linked.type = some symbol.typeCode ∧ linked.typeName = symbol.absoluteName := by
  rw [h.eq, FieldDescriptor.linked]
  by_cases hscalar : field.typeName = ""
  · simp [hscalar]
  · cases hfound : resolve? symbols scope field.typeName with
    | none => exact Or.inr (Or.inl ⟨hscalar, rfl⟩)
    | some symbol => exact Or.inr (Or.inr ⟨symbol, hscalar, rfl, by simp [hscalar], by simp [hscalar]⟩)

end Relinked

theorem find?_relinked {scope : String} {fields linked : List FieldDescriptor} {name : String}
    {field : FieldDescriptor} (h : List.Forall₂ (Relinked symbols scope) fields linked)
    (hfound : fields.find? (·.name = name) = some field) :
    ∃ other, linked.find? (·.name = name) = some other ∧ Relinked symbols scope field other := by
  induction h with
  | nil => cases hfound
  | cons hfirst _ ih =>
    rw [List.find?_cons] at hfound ⊢
    rw [hfirst.kept.1]
    split at hfound
    · cases hfound
      exact ⟨_, rfl, hfirst⟩
    · exact ih hfound

namespace Loading

/-! ## Loading linked files -/

variable {table : List Symbol}

/-- The symbols of linked files. -/
def linkedTable (table : List Symbol) (naming : String → Nat → String) : SymbolTable :=
  { symbols := table.map (·.linked table naming) }

theorem carries_resolve (scope typeName context other : String) :
    Carries (fun symbol given => symbol ∈ table ∧ given = symbol.linked table naming)
      (resolve { symbols := table } scope typeName context)
      (resolve (linkedTable table naming) other (linkedName table scope typeName) context) := by
  cases hfound : resolve? table scope typeName with
  | some symbol =>
    have hname : linkedName table scope typeName = symbol.absoluteName := by simp only [linkedName, hfound]
    rw [resolve_of_some hfound, hname, linkedTable, resolve_of_some (resolve?_linked hfound other)]
    exact carries_pure ⟨mem_of_resolve? hfound, rfl⟩
  | none =>
    rw [resolve_of_none hfound]
    exact carries_throw

theorem typeCode_ne_group (symbol : Symbol) : symbol.typeCode ≠ .group := by
  unfold Symbol.typeCode
  split_ifs <;> simp

theorem absoluteName_ne_empty (symbol : Symbol) : symbol.absoluteName ≠ "" := by
  intro h
  simpa [Symbol.absoluteName] using congrArg String.toList h

theorem kind_linked (symbol : Symbol) : (symbol.linked table naming).kind = symbol.kind := by
  simp [Symbol.kind, Symbol.linked]

theorem carries_fieldType (owner : Symbol) {field linked : FieldDescriptor}
    (h : Relinked table owner.fullName field linked) :
    Carries (fun found given => given = (found.1, found.2.map (·.linked table naming)))
      (fieldType { symbols := table } owner field)
      (fieldType (linkedTable table naming) (owner.linked table naming) linked) := by
  unfold fieldType
  simp only
  by_cases hgroup : field.type = some .group
  · rw [if_pos hgroup]
    exact carries_throw
  rw [if_neg hgroup]
  rcases h.type_cases with ⟨hscalar, htype, hname⟩ | ⟨hname, hnone⟩ | ⟨symbol, hname, hsome, htype, hlinked⟩
  · rw [if_pos hscalar, if_pos hname, htype, if_neg hgroup]
    split
    · exact carries_pure rfl
    · exact carries_throw
  · rw [if_neg hname, resolve_of_none hnone]
    exact carries_throw
  · rw [if_neg hname, htype, if_neg (by simpa using typeCode_ne_group symbol), hlinked,
      if_neg (absoluteName_ne_empty symbol), resolve_of_some hsome, linkedTable,
      resolve_of_some (resolve?_linked hsome _), pure_bind, pure_bind, kind_linked]
    refine (carries_of_eq (ident { symbols := table } symbol)).bind ?_
    rintro ident _ rfl
    exact carries_pure rfl

theorem mapEntry?_linked {field linked : FieldDescriptor} (hlabel : linked.label = field.label)
    (symbol : Option Symbol) :
    mapEntry? linked (symbol.map (·.linked table naming)) =
      ( mapEntry? field symbol).map fun entry =>
        (entry.1.linked table naming, entry.2.linked table naming entry.1.fullName) := by
  cases symbol with
  | none => rfl
  | some symbol =>
    obtain ⟨name, fullName, goName, file, message⟩ := symbol
    cases message with
    | none => rfl
    | some message =>
      obtain ⟨name, fields, nested, enums, oneofs, mapEntry⟩ := message
      unfold mapEntry?
      simp only [Symbol.linked, Option.map_some, MessageDescriptor.linked, hlabel]
      split_ifs <;> rfl

theorem linked_message_fields (fullName : String) (message : MessageDescriptor) :
    List.Forall₂ (Relinked table fullName) message.fields (message.linked table naming fullName).fields := by
  obtain ⟨name, fields, nested, enums, oneofs, mapEntry⟩ := message
  rw [MessageDescriptor.linked]
  exact relinked_fields fullName oneofs.length fields

theorem carries_entryField (fullName : String) (entry : MessageDescriptor) (name : String) :
    Carries (Relinked table fullName) (entryField entry name)
      (entryField (entry.linked table naming fullName) name) := by
  unfold entryField
  split
  · rename_i field hfield
    obtain ⟨other, hother, hrelinked⟩ := find?_relinked (List.rel_reverse (linked_message_fields fullName entry)) hfield
    rw [hother]
    exact carries_pure hrelinked
  · exact carries_throw

theorem carries_mapTypes {field linked : FieldDescriptor} (hlabel : linked.label = field.label)
    (symbol : Option Symbol) :
    Carries Eq (mapTypes { symbols := table } field symbol)
      (mapTypes (linkedTable table naming) linked (symbol.map (·.linked table naming))) := by
  unfold mapTypes
  rw [ mapEntry?_linked hlabel]
  cases mapEntry? field symbol with
  | none => exact carries_pure rfl
  | some found =>
    obtain ⟨owner, entry⟩ := found
    refine (carries_entryField owner.fullName entry "key").bind fun key other hkey => ?_
    refine (carries_fieldType owner hkey).bind ?_
    rintro ⟨keyType, _⟩ _ rfl
    refine (carries_entryField owner.fullName entry "value").bind fun value other hvalue => ?_
    refine (carries_fieldType owner hvalue).bind ?_
    rintro ⟨valueType, _⟩ _ rfl
    exact carries_pure rfl

theorem oneofAt?_append {oneofs : List String} {index : Int} {name : String} (hindex : 0 ≤ index)
    (h : oneofAt? oneofs index = some name) (more : List String) : oneofAt? (oneofs ++ more) index = some name := by
  have hnot : ¬ index < 0 := by omega
  simp only [oneofAt?, if_neg hnot] at h ⊢
  obtain ⟨hlt, _⟩ := List.getElem?_eq_some_iff.mp h
  rw [List.getElem?_append_left hlt]
  exact h

theorem carries_oneof {fullName : String} {message : MessageDescriptor} {field linked : FieldDescriptor}
    (h : Relinked table fullName field linked) (honeof : field.RefersWithin message.oneofs.length) :
    Carries Eq (oneof message field) (oneof (message.linked table naming fullName) linked) := by
  have hoptional := h.kept.2.2
  by_cases hsynthetic : field.proto3Optional = true
  · have hnone : ∀ (message : MessageDescriptor) (field : FieldDescriptor), field.proto3Optional = true →
        oneof message field = pure none := by
      intro message field hfield
      unfold oneof
      split
      · rfl
      · rw [if_pos hfield]
    rw [hnone _ _ hsynthetic, hnone _ _ (hoptional.trans hsynthetic)]
    exact carries_of_eq _
  · rw [Bool.not_eq_true] at hsynthetic
    unfold oneof
    rw [h.oneof hsynthetic]
    split
    · exact carries_pure rfl
    · rename_i index hindex
      rw [hoptional, hsynthetic]
      simp only [Bool.false_eq_true, if_false]
      split
      · rename_i name hname
        obtain ⟨_, fields, nested, enums, oneofs, mapEntry⟩ := message
        rw [MessageDescriptor.linked, oneofAt?_append (honeof index hindex).1 hname]
        exact carries_pure rfl
      · exact carries_throw

theorem carries_field (owner : Symbol) {message : MessageDescriptor} {descriptor linked : FieldDescriptor}
    (h : Relinked table owner.fullName descriptor linked)
    (honeof : descriptor.RefersWithin message.oneofs.length) :
    Carries Eq (field { symbols := table } owner message descriptor)
      (field (linkedTable table naming) (owner.linked table naming)
        (message.linked table naming owner.fullName) linked) := by
  obtain ⟨hname, hlabel, hoptional⟩ := h.kept
  refine (carries_fieldType owner h).bind ?_
  rintro ⟨type, symbol⟩ _ rfl
  refine (carries_mapTypes hlabel symbol).bind ?_
  rintro map _ rfl
  refine (carries_oneof h honeof).bind ?_
  rintro oneof _ rfl
  rw [hname, hlabel, hoptional]
  exact carries_of_eq _

theorem carries_message {symbol : Symbol} (h : ∀ message ∈ symbol.message, message.WellFormed) :
    Carries Eq (message { symbols := table } symbol)
      (message (linkedTable table naming) (symbol.linked table naming)) := by
  obtain ⟨name, fullName, goName, file, declared⟩ := symbol
  cases declared with
  | none => exact carries_throw
  | some declared =>
    have hfields : List.Forall₂ (fun field linked => field ∈ declared.fields ∧ Relinked table fullName field linked)
        declared.fields (declared.linked table naming fullName).fields :=
      forall₂_imp_of_mem (fun field hfield linked hlinked => ⟨hfield, hlinked⟩)
        (linked_message_fields fullName declared)
    refine (carries_mapM hfields fun field linked hfield => ?_).bind ?_
    · exact carries_field ⟨name, fullName, goName, file, some declared⟩ hfield.2 ((h declared rfl).oneof field hfield.1)
    · rintro fields _ rfl
      exact carries_of_eq _

/-- The messages that symbols declare are well formed. -/
def WellFormedSymbols (table : List Symbol) : Prop := ∀ symbol ∈ table, ∀ message ∈ symbol.message, message.WellFormed

variable (htable : WellFormedSymbols table)

include htable

theorem carries_method (file : FileDescriptor) (service : String) (serviceIndex : Nat)
    (descriptor : MethodDescriptor × Nat) :
    Carries Eq (method { symbols := table } (message { symbols := table }) file service serviceIndex descriptor)
      (method (linkedTable table naming) (message (linkedTable table naming)) (file.linked table naming) service
        serviceIndex (descriptor.1.linked table file.package, descriptor.2)) := by
  refine (carries_of_eq (goName { symbols := table } descriptor.1.name)).bind ?_
  rintro goName _ rfl
  refine (carries_resolve _ _ _ _).bind ?_
  rintro inputSymbol _ ⟨hinput, rfl⟩
  refine (carries_message (htable inputSymbol hinput)).bind ?_
  rintro input _ rfl
  refine (carries_resolve _ _ _ _).bind ?_
  rintro outputSymbol _ ⟨houtput, rfl⟩
  refine (carries_message (htable outputSymbol houtput)).bind ?_
  rintro output _ rfl
  exact carries_of_eq _

theorem carries_service (file : FileDescriptor) (descriptor : ServiceDescriptor × Nat) :
    Carries Eq (service { symbols := table } (message { symbols := table }) file descriptor)
      (service (linkedTable table naming) (message (linkedTable table naming)) (file.linked table naming)
        (descriptor.1.linked table file.package, descriptor.2)) := by
  have hmethods : (descriptor.1.linked table file.package).methods.zipIdx =
      descriptor.1.methods.zipIdx.map fun method => (method.1.linked table file.package, method.2) := by
    rw [ServiceDescriptor.linked, List.zipIdx_map]
    rfl
  unfold service
  simp only [hmethods]
  refine (carries_mapM_map fun method => carries_method htable _ _ _ method).bind ?_
  rintro methods _ rfl
  exact carries_of_eq _

theorem carries_file (toGenerate : List String) (descriptor : FileDescriptor) :
    Carries Eq (file { symbols := table } (message { symbols := table }) toGenerate descriptor)
      (file (linkedTable table naming) (message (linkedTable table naming)) toGenerate
        (descriptor.linked table naming)) := by
  have hservices : (descriptor.linked table naming).services.zipIdx =
      descriptor.services.zipIdx.map fun service => (service.1.linked table descriptor.package, service.2) := by
    rw [FileDescriptor.linked, List.zipIdx_map]
    rfl
  unfold file
  change Carries Eq _ (if descriptor.name ∈ toGenerate then _ else _)
  split_ifs
  · refine (carries_of_eq (goPackage { symbols := table } descriptor)).bind ?_
    rintro package _ rfl
    rw [hservices]
    refine (carries_mapM_map fun service => carries_service htable descriptor service).bind ?_
    rintro services _ rfl
    exact carries_of_eq _
  · exact carries_of_eq _

end Loading

/-- Sound files are loaded alike in linked form. -/
theorem load_linkedFiles {descriptors : List FileDescriptor} (hsound : ∀ file ∈ descriptors, file.Sound)
    {toGenerate : List String} {files : List File} (h : load descriptors toGenerate = .ok files)
    (naming : String → Nat → String) : load (linkedFiles naming descriptors) toGenerate = .ok files := by
  obtain ⟨hnames, symbols, after, hsymbols, hrun⟩ := load_ok_iff.mp h
  have hresult := addSymbols_eq hsymbols
  have hlinked := addSymbols_linked symbols naming hsymbols
  rw [← hresult] at hlinked
  have hwellFormed : Loading.WellFormedSymbols symbols := by
    intro symbol hsymbol
    rw [hresult] at hsymbol
    obtain ⟨file, hfile, hmem⟩ := List.mem_flatMap.mp hsymbol
    exact (hsound file hfile).symbols symbol hmem
  have hdeclared : (linkedFiles naming descriptors).flatMap FileDescriptor.symbols =
      symbols.map (·.linked symbols naming) := by
    rw [linkedFiles, ← hresult, List.flatMap_map, hresult, List.map_flatMap]
    simp only [linked_fileSymbols]
  obtain ⟨loaded, rfl, hloaded⟩ :=
    Loading.carries_mapM_map (fun file => Loading.carries_file hwellFormed toGenerate file) _ _ _ hrun
  refine load_ok_iff.mpr ⟨?_, symbols.map (·.linked symbols naming), after, ?_, ?_⟩
  · rw [← hnames, linkedFiles]
    simp [List.any_map, Function.comp_def, FileDescriptor.linked]
  · rw [hdeclared]
    exact hlinked
  · rw [linkedFiles, ← hresult]
    exact hloaded

end RpcClients.Schema

namespace RpcClients

open Proto Schema

/-- Files that were read are loaded alike in the form in which they stand and in linked form, whatever the oneofs
around optional fields are called and whatever is to be generated. -/
theorem load_linked_of_parse {sources : List (String × String)} {descriptors : List FileDescriptor}
    (parsed : List.Forall₂ (fun source file => parse source.1 source.2 = .ok file) sources descriptors)
    {toGenerate : List String} {files : List File} (loaded : load descriptors toGenerate = .ok files)
    (naming : String → Nat → String) : load (linkedFiles naming descriptors) toGenerate = .ok files := by
  refine load_linkedFiles (fun file hfile => ?_) loaded naming
  obtain ⟨source, _, hparse⟩ := exists_of_forall₂_right parsed hfile
  exact sound_of_parse hparse

/-- The descriptor of `nestedText` as a compiler hands it over. -/
def nestedLinked : FileDescriptor :=
  { nestedDescriptor with
    messages :=
      [{ name := "M"
         fields :=
           [{ name := "m", number := 1, label := .repeated, type := some .message, typeName := ".p.M.MEntry",
              jsonName := "m" },
            { name := "a", number := 2, type := some .enum, typeName := ".p.M.E", oneofIndex := some 0,
              jsonName := "a" },
            { name := "n", number := 3, type := some .message, typeName := ".p.M.N", oneofIndex := some 1,
              jsonName := "n"
              proto3Optional := true }]
         nested :=
           [{ name := "MEntry", mapEntry := true
              fields := [{ name := "key", number := 1, type := some (.scalar .string), jsonName := "key" },
                         { name := "value", number := 2, type := some .message, typeName := ".p.M.N",
                           jsonName := "value" }] },
            { name := "N" }]
         enums := [{ name := "E", values := [("A", 0)] }]
         oneofs := ["o", "_n"] }]
    services := [{ name := "S", methods := [{ name := "Get", inputType := ".p.M", outputType := ".p.M.N" }] }] }

theorem load_linked_of_parse_nested :
    parse nestedText "a.proto" = .ok nestedDescriptor ∧
    linkedFiles (fun _ _ => "_n") [nestedDescriptor] = [nestedLinked] ∧
    ∃ files, load [nestedDescriptor] ["a.proto"] = .ok files ∧ load [nestedLinked] ["a.proto"] = .ok files := by
  have hlinked : linkedFiles (fun _ _ => "_n") [nestedDescriptor] = [nestedLinked] := by rfl
  have hload : (load [nestedDescriptor] ["a.proto"]).toOption.isSome = true := by decide
  refine ⟨parse_nestedText, hlinked, ?_⟩
  cases h : load [nestedDescriptor] ["a.proto"] with
  | error failure => simp [h, Except.toOption] at hload
  | ok files =>
    have hparsed : List.Forall₂ (fun source file => parse source.1 source.2 = .ok file)
        [(nestedText, "a.proto")] [nestedDescriptor] := .cons parse_nestedText .nil
    rw [← hlinked]
    exact ⟨files, rfl, load_linked_of_parse hparsed h _⟩

end RpcClients
