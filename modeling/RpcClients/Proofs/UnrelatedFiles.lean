import Mathlib.Data.List.Find
import RpcClients.Proofs.Scoping
import RpcClients.Proofs.SoundDescriptors

/-! # Unrelated files

A relative type name is looked for among the symbols of all files, so each file could change what the names in the
others mean. A file whose package starts with a component that nothing in the others starts with changes nothing:
the others are loaded as without it. -/

namespace RpcClients.Schema

/-! ## First components -/

/-- What stands before the first dot of a name. -/
def headComponent (name : String) : String := String.ofList (Text.cut '.' name.toList).1

theorem headComponent_inScope {scope : String} (h : scope ≠ "") (name : String) :
    headComponent (inScope scope name) = headComponent scope := by
  have htext : (inScope scope name).toList = scope.toList ++ '.' :: name.toList := by simp [inScope, h]
  rw [headComponent, htext, Text.cut_append_cons_fst, headComponent]

theorem outerScope_empty (count : Nat) : outerScope "" count = "" := by simp [outerScope, scopeParts]

theorem headComponent_outerScope {scope : String} {count : Nat} (h : outerScope scope count ≠ "") :
    headComponent (outerScope scope count) = headComponent scope := by
  have hscope : scope ≠ "" := by
    rintro rfl
    exact h (outerScope_empty count)
  have houter : (outerScope scope count).toList =
      ['.'].intercalate ((Text.pieces '.' scope.toList).take count) := by
    rw [outerScope, scopeParts, if_neg hscope, Text.split, ← List.map_take, String.toList_intercalate]
    simp [Function.comp_def]
  obtain ⟨piece, others, hpieces⟩ := List.exists_cons_of_ne_nil (Text.pieces_ne_nil '.' scope.toList)
  have hpiece : '.' ∉ piece := Text.not_mem_of_mem_pieces (hpieces ▸ List.mem_cons_self)
  have hhead : (Text.cut '.' scope.toList).1 = piece := by
    rw [← Text.intercalate_pieces '.' scope.toList, hpieces, Text.cut_intercalate_fst hpiece]
  cases count with
  | zero => exact absurd (by simp [outerScope]) h
  | succ count =>
    rw [headComponent, houter, hpieces, List.take_succ_cons, Text.cut_intercalate_fst hpiece, headComponent, hhead]

/-! ## Names that keep their meaning -/

/-- What the type name means in the scope, it means when symbols are added. -/
def KeepsMeaning (symbols added : List Symbol) (scope typeName : String) : Prop :=
  ∀ symbol, resolve? symbols scope typeName = some symbol → resolve? (symbols ++ added) scope typeName = some symbol

theorem findSymbol?_append {symbols : List Symbol} {fullName : String} {symbol : Symbol}
    (h : findSymbol? symbols fullName = some symbol) (added : List Symbol) :
    findSymbol? (symbols ++ added) fullName = some symbol := by
  rw [findSymbol?] at h
  rw [findSymbol?, List.find?_append, h]
  rfl

theorem exists_resolve?_relative {typeName : String} (h : typeName.toList.head? ≠ some '.') :
    ∃ within : String → String, ∀ symbols scope, resolve? symbols scope typeName =
      (((enclosing scope).map (inScope · (headComponent typeName))).find? (isKnown symbols)).bind
        fun candidate => findSymbol? symbols (within candidate) := by
  unfold resolve? headComponent
  cases htext : typeName.toList with
  | nil => exact ⟨id, fun _ _ => rfl⟩
  | cons c rest =>
    have hc : c ≠ '.' := by simpa [htext] using h
    rw [Text.cut, if_neg hc]
    generalize Text.cut '.' rest = parts
    obtain ⟨before, _ | _ | ⟨next, after⟩⟩ := parts
    · exact ⟨id, fun _ _ => rfl⟩
    · exact ⟨id, fun _ _ => rfl⟩
    · exact ⟨fun candidate => inScope candidate (String.ofList (next :: after)), fun _ _ => rfl⟩

theorem exists_resolve?_absolute {typeName : String} (h : typeName.toList.head? = some '.') :
    ∃ fullName, ∀ symbols scope, resolve? symbols scope typeName = findSymbol? symbols fullName := by
  obtain ⟨rest, hrest⟩ := List.head?_eq_some_iff.mp h
  refine ⟨String.ofList rest, fun symbols scope => ?_⟩
  rw [resolve?, hrest, Text.cut, if_pos rfl]

theorem keepsMeaning_full {symbols added : List Symbol} {scope typeName : String}
    (h : typeName.toList.head? = some '.') : KeepsMeaning symbols added scope typeName := by
  obtain ⟨fullName, hresolve⟩ := exists_resolve?_absolute h
  intro symbol hsymbol
  rw [hresolve] at hsymbol ⊢
  exact findSymbol?_append hsymbol added

section

variable {component : String} {symbols added : List Symbol}

theorem headComponent_of_isKnown (hadded : ∀ symbol ∈ added, headComponent symbol.fullName = component) {name : String}
    (h : isKnown added name = true) : headComponent name = component := by
  rcases isKnown_iff.mp h with hdeclared | ⟨symbol, hsymbol, inner, hinner⟩
  · obtain ⟨symbol, hsymbol, rfl⟩ := List.mem_map.mp hdeclared
    exact hadded symbol hsymbol
  · rw [← hadded symbol hsymbol, headComponent, headComponent, ← hinner, List.append_assoc, List.singleton_append,
      Text.cut_append_cons_fst]

theorem headComponent_candidate_ne {scope typeName outer : String}
    (hscope : scope ≠ "" → headComponent scope ≠ component)
    (hname : headComponent typeName ≠ component) (houter : outer ∈ enclosing scope) :
    headComponent (inScope outer (headComponent typeName)) ≠ component := by
  by_cases hempty : outer = ""
  · have halone : headComponent (headComponent typeName) = headComponent typeName := by
      simp [headComponent, Text.cut_of_not_mem (Text.not_mem_cut_fst typeName.toList)]
    rw [hempty, inScope, if_pos rfl, halone]
    exact hname
  · obtain ⟨count, _, rfl⟩ := mem_enclosing_iff.mp houter
    rw [headComponent_inScope hempty, headComponent_outerScope hempty]
    refine hscope ?_
    rintro rfl
    exact hempty (outerScope_empty count)

/-- Symbols of a component that neither the scope nor the name starts with do not change what the name means. -/
theorem keepsMeaning_of_head_ne (hadded : ∀ symbol ∈ added, headComponent symbol.fullName = component)
    {scope typeName : String} (hscope : scope ≠ "" → headComponent scope ≠ component)
    (hname : typeName.toList.head? ≠ some '.' → headComponent typeName ≠ component) :
    KeepsMeaning symbols added scope typeName := by
  by_cases hrelative : typeName.toList.head? = some '.'
  · exact keepsMeaning_full hrelative
  obtain ⟨within, hresolve⟩ := exists_resolve?_relative hrelative
  have hknown : ∀ candidate ∈ (enclosing scope).map (inScope · (headComponent typeName)),
      isKnown (symbols ++ added) candidate = isKnown symbols candidate := by
    intro candidate hcandidate
    obtain ⟨outer, houter, rfl⟩ := List.mem_map.mp hcandidate
    have hnot : isKnown added (inScope outer (headComponent typeName)) = false := by
      rw [← Bool.not_eq_true]
      intro hadds
      exact headComponent_candidate_ne hscope (hname hrelative) houter (headComponent_of_isKnown hadded hadds)
    rw [isKnown] at hnot
    rw [isKnown, List.any_append, hnot, Bool.or_false, isKnown]
  -- the same scope decides, and the symbol that is found there comes before the added ones
  intro symbol h
  rw [hresolve] at h ⊢
  rw [List.find?_congr hknown]
  obtain ⟨candidate, hcandidate, hfound⟩ := Option.bind_eq_some_iff.mp h
  rw [hcandidate]
  exact findSymbol?_append hfound added

end

/-! ## Names of a file -/

def FileDescriptor.topNames (file : FileDescriptor) : List String :=
  file.messages.map (·.name) ++ file.enums.map (·.name)

def FileDescriptor.usedNames (file : FileDescriptor) : List String :=
  (messagesWithin file.messages).flatMap (fun message => (message.fields.map (·.typeName)).filter (· ≠ "")) ++
    file.services.flatMap fun service => service.methods.flatMap fun method => [method.inputType, method.outputType]

/-- The component is not the first one of the package, of a type at the top of the file or of a relative type name. -/
structure FileDescriptor.Avoids (component : String) (file : FileDescriptor) : Prop where
  package : file.package ≠ "" → headComponent file.package ≠ component
  types : ∀ name ∈ file.topNames, headComponent (inScope file.package name) ≠ component
  uses : ∀ name ∈ file.usedNames, name.toList.head? ≠ some '.' → headComponent name ≠ component

/-- A message with an empty full name has no types inside. Those would have full names of their own, as if they stood
at the top of the file. -/
def FileDescriptor.Rooted (file : FileDescriptor) : Prop :=
  ∀ message ∈ file.messages, inScope file.package message.name = "" → message.nested = [] ∧ message.enums = []

theorem inScope_ne_empty {scope : String} (h : scope ≠ "") (name : String) : inScope scope name ≠ "" := by
  intro hempty
  simpa [inScope, h] using congrArg String.toList hempty

theorem headComponent_enumSymbols {file : FileDescriptor} {scope lead : String} (h : scope ≠ "")
    (enums : List EnumDescriptor) :
    ∀ symbol ∈ enums.map (EnumDescriptor.symbol file scope lead),
      headComponent symbol.fullName = headComponent scope := by
  intro symbol hsymbol
  obtain ⟨enum, _, rfl⟩ := List.mem_map.mp hsymbol
  exact headComponent_inScope h enum.name

mutual

theorem headComponent_messageSymbols {file : FileDescriptor} {scope lead : String} (h : scope ≠ "") :
    (message : MessageDescriptor) → ∀ symbol ∈ messageSymbols file scope lead message,
      headComponent symbol.fullName = headComponent scope
  | ⟨name, fields, nested, enums, oneofs, mapEntry⟩ => by
    have hname := inScope_ne_empty h name
    have hhead := headComponent_inScope h name
    rw [messageSymbols]
    simp only [List.forall_mem_cons, List.forall_mem_append]
    refine ⟨hhead, fun symbol hsymbol => ?_, fun symbol hsymbol => ?_⟩
    · exact (headComponent_nestedSymbols hname nested symbol hsymbol).trans hhead
    · exact (headComponent_enumSymbols hname enums symbol hsymbol).trans hhead

theorem headComponent_nestedSymbols {file : FileDescriptor} {scope lead : String} (h : scope ≠ "") :
    (messages : List MessageDescriptor) → ∀ symbol ∈ nestedSymbols file scope lead messages,
      headComponent symbol.fullName = headComponent scope
  | [] => by simp [nestedSymbols]
  | message :: rest => by
    rw [nestedSymbols, List.forall_mem_append]
    exact ⟨headComponent_messageSymbols h message, headComponent_nestedSymbols h rest⟩

end

theorem headComponent_symbols {file : FileDescriptor} (h : file.package ≠ "") :
    ∀ symbol ∈ file.symbols, headComponent symbol.fullName = headComponent file.package := by
  rw [FileDescriptor.symbols, List.forall_mem_append]
  exact ⟨headComponent_nestedSymbols h file.messages, headComponent_enumSymbols h file.enums⟩

theorem mem_nestedSymbols {file : FileDescriptor} {scope lead : String} {messages : List MessageDescriptor}
    {symbol : Symbol} (h : symbol ∈ nestedSymbols file scope lead messages) :
    ∃ message ∈ messages, symbol ∈ messageSymbols file scope lead message := by
  induction messages with
  | nil => simp [nestedSymbols] at h
  | cons message rest ih =>
    rw [nestedSymbols, List.mem_append] at h
    rcases h with h | h
    · exact ⟨message, List.mem_cons_self, h⟩
    · obtain ⟨found, hfound, hsymbol⟩ := ih h
      exact ⟨found, List.mem_cons_of_mem _ hfound, hsymbol⟩

theorem headComponent_of_mem_messageSymbols {file : FileDescriptor} {scope lead : String} {message : MessageDescriptor}
    (hrooted : inScope scope message.name = "" → message.nested = [] ∧ message.enums = []) {symbol : Symbol}
    (h : symbol ∈ messageSymbols file scope lead message) :
    headComponent symbol.fullName = headComponent (inScope scope message.name) := by
  obtain ⟨name, fields, nested, enums, oneofs, mapEntry⟩ := message
  rw [messageSymbols] at h
  by_cases hempty : inScope scope name = ""
  · obtain ⟨rfl, rfl⟩ : nested = [] ∧ enums = [] := hrooted hempty
    simp only [nestedSymbols, List.map_nil, List.append_nil, List.mem_singleton] at h
    rw [h]
  · rcases List.mem_cons.mp h with rfl | h
    · rfl
    · rcases List.mem_append.mp h with h | h
      · exact headComponent_nestedSymbols hempty nested symbol h
      · exact headComponent_enumSymbols hempty enums symbol h

theorem FileDescriptor.Avoids.symbols {component : String} {file : FileDescriptor} (h : file.Avoids component)
    (hrooted : file.Rooted) : ∀ symbol ∈ file.symbols, headComponent symbol.fullName ≠ component := by
  intro symbol hsymbol
  rcases List.mem_append.mp hsymbol with hsymbol | hsymbol
  · obtain ⟨message, hmessage, hsymbol⟩ := mem_nestedSymbols hsymbol
    rw [headComponent_of_mem_messageSymbols (hrooted message hmessage) hsymbol]
    exact h.types _ (List.mem_append_left _ (List.mem_map_of_mem hmessage))
  · obtain ⟨enum, henum, rfl⟩ := List.mem_map.mp hsymbol
    exact h.types _ (List.mem_append_right _ (List.mem_map_of_mem henum))

/-- The texts of the file that are read although it is not generated: the names of its types and its Go package. -/
structure FileDescriptor.Readable (unreadable : List String) (file : FileDescriptor) : Prop where
  types : ∀ symbol ∈ file.symbols, symbol.name ∉ unreadable
  package : ∀ option ∈ file.options.goPackage, option ∉ unreadable

/-- The Go package that the file states, one without names if it states none. -/
def FileDescriptor.statedPackage (file : FileDescriptor) : GoPackage :=
  let option := file.options.goPackage.getD ""
  if option = "" then ⟨"", ""⟩ else GoPackage.ofOption option

/-- The file as it is loaded if it is not generated. -/
def FileDescriptor.imported (file : FileDescriptor) : File where
  name := file.name
  package := file.package
  importPath := file.statedPackage.importPath
  packageName := file.statedPackage.name
  generate := false

/-! ## Loading with more symbols -/

def SymbolTable.add (table : SymbolTable) (added : List Symbol) : SymbolTable :=
  { table with symbols := table.symbols ++ added }

/-- All type names of the fields of a symbol keep their meaning. -/
def Symbol.KeepsFields (symbols added : List Symbol) (symbol : Symbol) : Prop :=
  ∀ message ∈ symbol.message, ∀ field ∈ message.fields,
    field.typeName ≠ "" → KeepsMeaning symbols added symbol.fullName field.typeName

namespace Loading

variable {table : SymbolTable} {added : List Symbol}

theorem carries_require_add (fault : Fault) (text : String) :
    Carries Eq (require table fault text) (require (table.add added) fault text) := carries_of_eq _

theorem carries_resolve_add {scope typeName : String} (h : KeepsMeaning table.symbols added scope typeName)
    (context : String) :
    Carries (fun symbol given => symbol = given ∧ symbol ∈ table.symbols) (resolve table scope typeName context)
      (resolve (table.add added) scope typeName context) := by
  cases hfound : resolve? table.symbols scope typeName with
  | none =>
    intro before symbol after hrun
    have hsome := resolve?_of_loads ⟨before, after, hrun⟩
    rw [hfound] at hsome
    cases hsome
  | some symbol =>
    have hadded : resolve? (table.add added).symbols scope typeName = some symbol := h symbol hfound
    unfold resolve
    simp only [hfound, hadded]
    refine (carries_require_add _ _).bind fun _ _ _ => ?_
    split_ifs
    · exact (carries_require_add _ _).bind fun _ _ _ => carries_pure ⟨rfl, mem_of_resolve? hfound⟩
    · exact carries_pure ⟨rfl, mem_of_resolve? hfound⟩

theorem carries_fieldType_add {owner : Symbol} {field : FieldDescriptor}
    (h : field.typeName ≠ "" → KeepsMeaning table.symbols added owner.fullName field.typeName) :
    Carries (fun found given => found = given ∧ ∀ symbol ∈ found.2, symbol ∈ table.symbols)
      (fieldType table owner field)
      (fieldType (table.add added) owner field) := by
  unfold fieldType
  simp only
  split_ifs with hgroup hscalar
  · exact carries_throw
  · split
    · exact carries_pure ⟨rfl, by simp⟩
    · exact carries_throw
  · refine (carries_resolve_add (h hscalar) _).bind ?_
    rintro symbol _ ⟨rfl, hsymbol⟩
    refine (carries_of_eq (ident table symbol)).bind ?_
    rintro ident _ rfl
    exact carries_pure ⟨rfl, by simpa using hsymbol⟩

theorem carries_entryField_mem (entry : MessageDescriptor) (name : String) :
    Carries (fun field given => field = given ∧ field ∈ entry.fields) (entryField entry name)
      (entryField entry name) := by
  unfold entryField
  split
  · rename_i field hfield
    exact carries_pure ⟨rfl, List.mem_reverse.mp (List.mem_of_find?_eq_some hfield)⟩
  · exact carries_throw

section

variable (hfields : ∀ symbol ∈ table.symbols, symbol.KeepsFields table.symbols added)

include hfields

theorem carries_mapTypes_add (field : FieldDescriptor) {symbol : Option Symbol}
    (hsymbol : ∀ found ∈ symbol, found ∈ table.symbols) :
    Carries Eq (mapTypes table field symbol) (mapTypes (table.add added) field symbol) := by
  unfold mapTypes
  cases hentry : mapEntry? field symbol with
  | none => exact carries_pure rfl
  | some found =>
    obtain ⟨owner, entry⟩ := found
    obtain ⟨hfound, hmessage, _⟩ := mapEntry?_eq_some hentry
    have howner := hfields owner (hsymbol owner hfound) entry hmessage
    refine (carries_entryField_mem entry "key").bind ?_
    rintro key _ ⟨rfl, hkey⟩
    refine (carries_fieldType_add (howner key hkey)).bind ?_
    rintro keyType _ ⟨rfl, _⟩
    refine (carries_entryField_mem entry "value").bind ?_
    rintro value _ ⟨rfl, hvalue⟩
    refine (carries_fieldType_add (howner value hvalue)).bind ?_
    rintro valueType _ ⟨rfl, _⟩
    exact carries_pure rfl

theorem carries_field_add {owner : Symbol} {message : MessageDescriptor} {descriptor : FieldDescriptor}
    (h : descriptor.typeName ≠ "" → KeepsMeaning table.symbols added owner.fullName descriptor.typeName) :
    Carries Eq (field table owner message descriptor) (field (table.add added) owner message descriptor) := by
  refine (carries_fieldType_add h).bind ?_
  rintro ⟨type, symbol⟩ _ ⟨rfl, hsymbol⟩
  refine (carries_mapTypes_add hfields descriptor hsymbol).bind ?_
  rintro map _ rfl
  exact carries_of_eq _

theorem carries_message_add {symbol : Symbol} (h : symbol ∈ table.symbols) :
    Carries Eq (message table symbol) (message (table.add added) symbol) := by
  unfold message
  cases hmessage : symbol.message with
  | none => exact carries_throw
  | some message =>
    refine (carries_mapM_mem fun field hfield => ?_).bind ?_
    · exact carries_field_add hfields (hfields symbol h message hmessage field hfield)
    · rintro fields _ rfl
      exact carries_of_eq _

theorem carries_method_add {file : FileDescriptor} {descriptor : MethodDescriptor × Nat}
    (h : KeepsMeaning table.symbols added file.package descriptor.1.inputType ∧
      KeepsMeaning table.symbols added file.package descriptor.1.outputType) (service : String) (serviceIndex : Nat) :
    Carries Eq (method table (message table) file service serviceIndex descriptor)
      (method (table.add added) (message (table.add added)) file service serviceIndex descriptor) := by
  refine (carries_of_eq (goName table descriptor.1.name)).bind ?_
  rintro goName _ rfl
  refine (carries_resolve_add h.1 _).bind ?_
  rintro inputSymbol _ ⟨rfl, hinput⟩
  refine (carries_message_add hfields hinput).bind ?_
  rintro input _ rfl
  refine (carries_resolve_add h.2 _).bind ?_
  rintro outputSymbol _ ⟨rfl, houtput⟩
  refine (carries_message_add hfields houtput).bind ?_
  rintro output _ rfl
  exact carries_of_eq _

theorem carries_service_add {file : FileDescriptor} {descriptor : ServiceDescriptor × Nat}
    (h : ∀ method ∈ descriptor.1.methods, KeepsMeaning table.symbols added file.package method.inputType ∧
      KeepsMeaning table.symbols added file.package method.outputType) :
    Carries Eq (service table (message table) file descriptor)
      (service (table.add added) (message (table.add added)) file descriptor) := by
  refine (carries_mapM_mem fun method hmethod => ?_).bind ?_
  · exact carries_method_add hfields (h method.1 (List.fst_mem_of_mem_zipIdx hmethod)) _ _
  · rintro methods _ rfl
    exact carries_of_eq _

theorem carries_file_add {descriptor : FileDescriptor}
    (h : ∀ service ∈ descriptor.services, ∀ method ∈ service.methods,
      KeepsMeaning table.symbols added descriptor.package method.inputType ∧
      KeepsMeaning table.symbols added descriptor.package method.outputType) (toGenerate : List String) :
    Carries Eq (file table (message table) toGenerate descriptor)
      (file (table.add added) (message (table.add added)) toGenerate descriptor) := by
  unfold file
  split_ifs
  · refine (carries_of_eq (goPackage table descriptor)).bind ?_
    rintro package _ rfl
    refine (carries_mapM_mem fun service hservice => ?_).bind ?_
    · exact carries_service_add hfields (h service.1 (List.fst_mem_of_mem_zipIdx hservice))
    · rintro services _ rfl
      exact carries_of_eq _
  · exact carries_of_eq _

end

theorem importedPackage_eq {descriptor : FileDescriptor} (h : descriptor.Readable table.unreadable) :
    importedPackage table descriptor = pure descriptor.statedPackage := by
  unfold importedPackage FileDescriptor.statedPackage
  split
  · rename_i hempty
    rw [if_pos hempty]
  · rename_i hoption
    have hread : requireReadable table.unreadable .unreadableText (descriptor.options.goPackage.getD "") = .ok () := by
      cases hstated : descriptor.options.goPackage with
      | none => exact absurd (by simp [hstated]) hoption
      | some option => simpa [requireReadable] using h.package option hstated
    rw [if_neg hoption, packageOf, require, hread]
    rfl

theorem file_imported {toGenerate : List String} {descriptor : FileDescriptor} (hnot : descriptor.name ∉ toGenerate)
    (hreadable : descriptor.Readable table.unreadable) :
    file table (message table) toGenerate descriptor = pure descriptor.imported := by
  unfold file
  rw [if_neg hnot, importedPackage_eq hreadable]
  rfl

end Loading

/-! ## Unrelated files -/

namespace FileDescriptor.Avoids

variable {component : String} {file : FileDescriptor} {symbols added : List Symbol}
  (hadded : ∀ symbol ∈ added, headComponent symbol.fullName = component)

include hadded

theorem keepsFields (h : file.Avoids component) (hrooted : file.Rooted) {symbol : Symbol}
    (hsymbol : symbol ∈ file.symbols) :
    symbol.KeepsFields symbols added := by
  intro message hmessage field hfield hname
  have hused : field.typeName ∈ file.usedNames := by
    refine List.mem_append_left _
      (List.mem_flatMap.mpr ⟨message, mem_messagesWithin_of_mem_symbols hsymbol hmessage, ?_⟩)
    exact List.mem_filter.mpr ⟨List.mem_map_of_mem hfield, by simpa using hname⟩
  exact keepsMeaning_of_head_ne hadded (fun _ => h.symbols hrooted symbol hsymbol) (h.uses _ hused)

theorem keepsMethods (h : file.Avoids component) {service : ServiceDescriptor} (hservice : service ∈ file.services)
    {method : MethodDescriptor} (hmethod : method ∈ service.methods) :
    KeepsMeaning symbols added file.package method.inputType ∧
      KeepsMeaning symbols added file.package method.outputType := by
  have hused : ∀ name ∈ [method.inputType, method.outputType], name ∈ file.usedNames := fun name hname =>
    List.mem_append_right _ (List.mem_flatMap.mpr ⟨service, hservice, List.mem_flatMap.mpr ⟨method, hmethod, hname⟩⟩)
  exact ⟨keepsMeaning_of_head_ne hadded h.package (h.uses _ (hused _ (by simp))),
    keepsMeaning_of_head_ne hadded h.package (h.uses _ (hused _ (by simp)))⟩

end FileDescriptor.Avoids

theorem addSymbols_unrelated {unreadable : List String} {files : List FileDescriptor} {symbols : List Symbol}
    (h : addSymbols unreadable [] (files.flatMap FileDescriptor.symbols) = .ok symbols) {other : FileDescriptor}
    (hdiffer : ∀ symbol ∈ symbols, ∀ added ∈ other.symbols, symbol.fullName ≠ added.fullName)
    (distinct : (other.symbols.map (·.fullName)).Nodup) (readable : other.Readable unreadable) :
    addSymbols unreadable [] ((files ++ [other]).flatMap FileDescriptor.symbols) = .ok (symbols ++ other.symbols) := by
  obtain ⟨hread, hnodup, _, rfl⟩ := addSymbols_ok_iff.mp h
  rw [List.flatMap_append, List.flatMap_singleton]
  refine addSymbols_ok_iff.mpr ⟨?_, ?_, by simp, rfl⟩
  · refine List.forall_mem_append.mpr ⟨hread, fun symbol hsymbol => ?_⟩
    simpa [requireReadable] using readable.types symbol hsymbol
  · rw [List.map_append, List.nodup_append]
    refine ⟨hnodup, distinct, fun name hname added hadded => ?_⟩
    obtain ⟨symbol, hsymbol, rfl⟩ := List.mem_map.mp hname
    obtain ⟨other, hother, rfl⟩ := List.mem_map.mp hadded
    exact hdiffer symbol hsymbol other hother

/-- Let files be loaded, and let a further file have a package whose first component no package, no type and no
relative type name in them starts with. Then the files are loaded as before, followed by the further one. -/
theorem load_append_unrelated {descriptors : List FileDescriptor} {toGenerate unreadable : List String}
    {files : List File} (loaded : load descriptors toGenerate unreadable = .ok files)
    (hrooted : ∀ file ∈ descriptors, file.Rooted) {other : FileDescriptor} (hpackage : other.package ≠ "")
    (havoids : ∀ file ∈ descriptors, file.Avoids (headComponent other.package))
    (distinct : (other.symbols.map (·.fullName)).Nodup) (readable : other.Readable unreadable)
    (hnot : other.name ∉ toGenerate) :
    load (descriptors ++ [other]) toGenerate unreadable = .ok (files ++ [other.imported]) := by
  obtain ⟨hnames, symbols, after, hsymbols, hrun⟩ := load_ok_iff.mp loaded
  have hhead := headComponent_symbols hpackage
  have hresult : symbols = descriptors.flatMap FileDescriptor.symbols := addSymbols_eq hsymbols
  have hfile : ∀ symbol ∈ symbols, ∃ file ∈ descriptors, symbol ∈ file.symbols := by
    intro symbol hsymbol
    rw [hresult] at hsymbol
    exact List.mem_flatMap.mp hsymbol
  have hdiffer : ∀ symbol ∈ symbols, ∀ added ∈ other.symbols, symbol.fullName ≠ added.fullName := by
    intro symbol hsymbol added hadded heq
    obtain ⟨file, hfile, hsymbol⟩ := hfile symbol hsymbol
    exact (havoids file hfile).symbols (hrooted file hfile) symbol hsymbol (heq ▸ hhead added hadded)
  have hfields : ∀ symbol ∈ symbols, symbol.KeepsFields symbols other.symbols := by
    intro symbol hsymbol
    obtain ⟨file, hfile, hsymbol⟩ := hfile symbol hsymbol
    exact (havoids file hfile).keepsFields hhead (hrooted file hfile) hsymbol
  let table : SymbolTable := { symbols, unreadable }
  let larger := table.add other.symbols
  have hcarries : Loading.Carries Eq (descriptors.mapM (Loading.file table (Loading.message table) toGenerate))
      (descriptors.mapM (Loading.file larger (Loading.message larger) toGenerate)) := by
    refine Loading.carries_mapM_mem fun file hfile => Loading.carries_file_add hfields ?_ toGenerate
    exact fun service hservice method hmethod => (havoids file hfile).keepsMethods hhead hservice hmethod
  have hlast : Loading.file larger (Loading.message larger) toGenerate other = pure other.imported :=
    Loading.file_imported hnot readable
  -- the last file is loaded without looking for any symbol, so what is remembered stays as it is
  obtain ⟨_, rfl, hmore⟩ := hcarries _ _ _ hrun
  refine load_ok_iff.mpr ⟨?_, larger.symbols, after, addSymbols_unrelated hsymbols hdiffer distinct readable, ?_⟩
  · simp only [List.find?_eq_none, Bool.not_eq_true', Bool.not_eq_false] at hnames ⊢
    intro name hname
    rw [List.any_append, hnames name hname, Bool.true_or]
  · change ((descriptors ++ [other]).mapM (Loading.file larger (Loading.message larger) toGenerate)).run [] = _
    rw [List.mapM_append, StateT.run_bind, hmore, List.mapM_cons, hlast]
    rfl

/-- A file with relative type names of one and of two components. -/
def relativeFile : FileDescriptor where
  name := "a.proto"
  package := "a.b"
  messages :=
    [{ name := "M", fields := [{ name := "x", number := 1, typeName := "X" },
      { name := "y", number := 2, typeName := "b.X" }] },
     { name := "X" }]
  services := [{ name := "S", methods := [{ name := "G", inputType := "M", outputType := ".a.b.X" }] }]
  options := { goPackage := some "x/a" }

/-- A file with types of the same names, in a package that ends with the same component. -/
def unrelatedFile : FileDescriptor where
  name := "z.proto"
  package := "z.a.b"
  messages := [{ name := "M" }, { name := "X", nested := [{ name := "X" }] }]
  options := { goPackage := some "x/z;z" }

theorem load_append_unrelated_sameNames :
    ∃ files, load [relativeFile] ["a.proto"] = .ok files ∧
      load [relativeFile, unrelatedFile] ["a.proto"] =
        .ok (files ++ [⟨"z.proto", "z.a.b", "x/z", "z", [], false⟩]) := by
  have havoids : relativeFile.Avoids (headComponent unrelatedFile.package) := ⟨by decide, by decide, by decide⟩
  have hload : (load [relativeFile] ["a.proto"]).toOption.isSome = true := by decide
  cases h : load [relativeFile] ["a.proto"] with
  | error failure => simp [h, Except.toOption] at hload
  | ok files =>
    refine ⟨files, rfl, ?_⟩
    exact load_append_unrelated h (List.forall_mem_singleton.mpr (by unfold FileDescriptor.Rooted; decide)) (by decide)
      (List.forall_mem_singleton.mpr havoids) (by decide) ⟨by decide, by decide⟩ (by decide)

/-- A message without a name. The type inside of it has the full name `c`. -/
def namelessFile : FileDescriptor where
  name := "f.proto"
  messages :=
    [{ nested := [{ name := "c", fields := [{ name := "v", number := 1, typeName := "X" }] }] }, { name := "X" }]
  services := [{ name := "S", methods := [{ name := "M", inputType := ".c", outputType := ".c" }] }]
  options := { goPackage := some "x/f" }
  version := "proto3"

def capturingFile : FileDescriptor where
  name := "g.proto"
  package := "c"
  messages := [{ name := "X" }]
  options := { goPackage := some "x/g" }

/-- The file as it is loaded if the type of its field is found in a Go package. -/
def namelessLoaded (importPath : String) : File :=
  let message : Message :=
    { fullName := "c", ident := ⟨"_C", "x/f"⟩
      fields := [{ name := "v", goName := "V", type := { kind := .message, ident := some ⟨"X", importPath⟩ } }] }
  { name := "f.proto", package := "", importPath := "x/f", packageName := "f"
    services := [{ name := "S", goName := "S", fullName := "S"
                   methods := [{ name := "M", goName := "M", fullName := "S.M", input := message,
                                 output := message }] }] }

theorem namelessFile_captured :
    namelessFile.Avoids (headComponent capturingFile.package) ∧
    (capturingFile.symbols.map (·.fullName)).Nodup ∧
    load [namelessFile] ["f.proto"] = .ok [namelessLoaded "x/f"] ∧
    load [namelessFile, capturingFile] ["f.proto"] = .ok [namelessLoaded "x/g", capturingFile.imported] ∧
    namelessLoaded "x/g" ≠ namelessLoaded "x/f" :=
  ⟨⟨by decide, by decide, by decide⟩, by decide, by rfl, by rfl, by decide⟩

end RpcClients.Schema
