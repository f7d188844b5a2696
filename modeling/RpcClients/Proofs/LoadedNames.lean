import RpcClients.Proofs.CamelCase
import RpcClients.Proofs.LoadingMemory

/-! # Go names of loaded files

All Go names in files that were loaded come from names that the descriptors declare: each is one of them
in camel case, or several with underscores between them. -/

namespace RpcClients.Schema

open Naming

/-! ## Declared names -/

mutual

def MessageDescriptor.declaredNames : MessageDescriptor → List String
  | ⟨name, fields, nested, enums, _, _⟩ =>
    name :: (fields.map (·.name) ++ enums.map (·.name) ++ namesWithin nested)

def namesWithin : List MessageDescriptor → List String
  | [] => []
  | message :: rest => message.declaredNames ++ namesWithin rest

end

def ServiceDescriptor.declaredNames (service : ServiceDescriptor) : List String :=
  service.name :: service.methods.map (·.name)

def FileDescriptor.declaredNames (file : FileDescriptor) : List String :=
  namesWithin file.messages ++ file.enums.map (·.name) ++ file.services.flatMap ServiceDescriptor.declaredNames

/-! ## Properties of Go names -/

/-- A property of Go names that all declared names have in camel case, and that nesting keeps. -/
structure Carried (P : String → Prop) (declared : List String) : Prop where
  camelCase : ∀ name ∈ declared, P (camelCase name)
  nest : ∀ outer inner, P outer → P inner → P (outer ++ "_" ++ inner)

theorem carried_no_dot (declared : List String) : Carried (fun name => '.' ∉ name.toList) declared where
  camelCase name _ := dot_not_mem_camelCase name
  nest outer inner houter hinner := by simp [houter, hinner]

theorem carried_exported {declared : List String} (h : ∀ name ∈ declared, IsSchemaName name) :
    Carried IsExported declared where
  camelCase name hname := camelCase_exported (h name hname)
  nest _ _ houter hinner := houter.nest hinner

variable {P : String → Prop}

/-- The Go name of a symbol and those of its fields have the property. -/
def Symbol.Named (P : String → Prop) (symbol : Symbol) : Prop :=
  P symbol.goName ∧ ∀ message ∈ symbol.message, ∀ field ∈ message.fields, P (camelCase field.name)

/-- What stands before the Go names of a scope. -/
def Leads (P : String → Prop) (lead : String) : Prop := ∀ inner, P inner → P (lead ++ inner)

theorem Carried.mono {declared fewer : List String} (h : Carried P declared) (hsub : fewer ⊆ declared) :
    Carried P fewer := ⟨fun name hname => h.camelCase name (hsub hname), h.nest⟩

theorem Carried.leads {declared : List String} (h : Carried P declared) {outer : String} (houter : P outer) :
    Leads P (outer ++ "_") := fun inner hinner => h.nest outer inner houter hinner

theorem named_enum {enums : List EnumDescriptor} {file : FileDescriptor} {scope lead : String}
    (h : Carried P (enums.map (·.name))) (hlead : Leads P lead) :
    ∀ symbol ∈ enums.map (EnumDescriptor.symbol file scope lead), symbol.Named P := by
  intro symbol hsymbol
  obtain ⟨enum, henum, rfl⟩ := List.mem_map.mp hsymbol
  exact ⟨hlead _ (h.camelCase _ (List.mem_map_of_mem henum)), by simp [EnumDescriptor.symbol]⟩

mutual

theorem named_messageSymbols {file : FileDescriptor} {scope lead : String} :
    (message : MessageDescriptor) → Carried P message.declaredNames → Leads P lead →
      ∀ symbol ∈ messageSymbols file scope lead message, symbol.Named P
  | ⟨name, fields, nested, enums, oneofs, mapEntry⟩, h, hlead => by
    rw [MessageDescriptor.declaredNames] at h
    have hname : P (lead ++ camelCase name) := hlead _ (h.camelCase name (by simp))
    have hfields : ∀ field ∈ fields, P (camelCase field.name) := by
      intro field hfield
      apply h.camelCase
      simp only [List.mem_cons, List.mem_append, List.mem_map]
      exact Or.inr (Or.inl (Or.inl ⟨field, hfield, rfl⟩))
    rw [messageSymbols]
    simp only [List.forall_mem_cons, List.forall_mem_append]
    refine ⟨⟨hname, by simpa using hfields⟩, ?_, ?_⟩
    · exact named_nestedSymbols nested (h.mono (by intro; simp +contextual)) (h.leads hname)
    · exact named_enum (h.mono (by intro; simp +contextual)) (h.leads hname)

theorem named_nestedSymbols {file : FileDescriptor} {scope lead : String} :
    (messages : List MessageDescriptor) → Carried P (namesWithin messages) → Leads P lead →
      ∀ symbol ∈ nestedSymbols file scope lead messages, symbol.Named P
  | [], _, _ => by simp [nestedSymbols]
  | message :: rest, h, hlead => by
    rw [namesWithin] at h
    rw [nestedSymbols, List.forall_mem_append]
    exact ⟨named_messageSymbols message (h.mono (List.subset_append_left _ _)) hlead,
      named_nestedSymbols rest (h.mono (List.subset_append_right _ _)) hlead⟩

end

theorem named_fileSymbols {file : FileDescriptor} (h : Carried P file.declaredNames) :
    ∀ symbol ∈ file.symbols, symbol.Named P := by
  have hlead : Leads P "" := by
    intro inner hinner
    rwa [String.empty_append]
  unfold FileDescriptor.declaredNames at h
  rw [FileDescriptor.symbols, List.forall_mem_append]
  exact ⟨named_nestedSymbols _ (h.mono (by intro; simp +contextual)) hlead,
    named_enum (h.mono (by intro; simp +contextual)) hlead⟩

/-! ## Steps of loading -/

namespace Loading

theorem eq_of_loads_goName {table : SymbolTable} {name goName : String} (h : Loads (Loading.goName table name) goName) :
    goName = camelCase name := by
  obtain ⟨_, _, h⟩ := loads_bind h
  exact loads_pure h

theorem name_of_loads_ident {table : SymbolTable} {symbol : Symbol} {ident : Ident}
    (h : Loads (Loading.ident table symbol) ident) : ident.name = symbol.goName := by
  obtain ⟨_, _, h⟩ := loads_bind h
  rw [loads_pure h]

/-! ## Names of what is loaded -/

variable {table : SymbolTable}

theorem names_of_loads_fieldType (htable : ∀ symbol ∈ table.symbols, symbol.Named P) {owner : Symbol}
    {field : FieldDescriptor} {type : FieldType} {symbol : Option Symbol}
    (h : Loads (fieldType table owner field) (type, symbol)) : ∀ ident ∈ type.idents, P ident.name := by
  unfold fieldType at h
  simp only at h
  split_ifs at h
  · exact absurd h not_loads_throw
  · split at h
    · rw [(Prod.mk.inj (loads_pure h)).1]
      simp [FieldType.idents, FieldKind.isScalar]
    · exact absurd h not_loads_throw
  · obtain ⟨found, hfound, h⟩ := loads_bind h
    obtain ⟨ident, hident, h⟩ := loads_bind h
    rw [(Prod.mk.inj (loads_pure h)).1]
    have hname := (htable found (mem_of_loads_resolve hfound)).1
    rw [← name_of_loads_ident hident] at hname
    intro other hother
    have hother : other = ident := by
      unfold FieldType.idents at hother
      split at hother
      · simp at hother
      · simpa using hother
    rwa [hother]

theorem names_of_loads_mapTypes (htable : ∀ symbol ∈ table.symbols, symbol.Named P) {field : FieldDescriptor}
    {symbol : Option Symbol} {types : Option (FieldType × FieldType)}
    (h : Loads (mapTypes table field symbol) types) :
    ∀ entry ∈ types, (∀ ident ∈ entry.1.idents, P ident.name) ∧ ∀ ident ∈ entry.2.idents, P ident.name := by
  unfold mapTypes at h
  split at h
  · rw [loads_pure h]
    simp
  · obtain ⟨_, _, h⟩ := loads_bind h
    obtain ⟨⟨key, _⟩, hkey, h⟩ := loads_bind h
    obtain ⟨_, _, h⟩ := loads_bind h
    obtain ⟨⟨value, _⟩, hvalue, h⟩ := loads_bind h
    rw [loads_pure h]
    rintro _ ⟨⟩
    exact ⟨names_of_loads_fieldType htable hkey, names_of_loads_fieldType htable hvalue⟩

theorem names_of_loads_field (htable : ∀ symbol ∈ table.symbols, symbol.Named P) {owner : Symbol}
    {message : MessageDescriptor} {descriptor : FieldDescriptor} {loaded : Field}
    (hname : P (camelCase descriptor.name)) (h : Loads (field table owner message descriptor) loaded) :
    ∀ name ∈ loaded.goNames, P name := by
  obtain ⟨⟨type, symbol⟩, htype, h⟩ := loads_bind h
  obtain ⟨map, hmap, h⟩ := loads_bind h
  obtain ⟨_, _, h⟩ := loads_bind h
  obtain ⟨goName, hgoName, h⟩ := loads_bind h
  have htypes := names_of_loads_fieldType htable htype
  have hentries := names_of_loads_mapTypes htable hmap
  rw [loads_pure h, Field.goNames, List.forall_mem_cons, eq_of_loads_goName hgoName]
  refine ⟨hname, ?_⟩
  intro name hmem
  obtain ⟨ident, hident, rfl⟩ := List.mem_map.mp hmem
  cases map with
  | none =>
    have hident : ident ∈ type.idents := by simpa [Field.idents, Field.types] using hident
    exact htypes ident hident
  | some entry =>
    have hident : ident ∈ entry.1.idents ∨ ident ∈ entry.2.idents := by
      simpa [Field.idents, Field.types] using hident
    obtain ⟨hkey, hvalue⟩ := hentries entry rfl
    exact hident.elim (hkey ident) (hvalue ident)

theorem names_of_loads_message (htable : ∀ symbol ∈ table.symbols, symbol.Named P) {symbol : Symbol}
    {loaded : Message} (hsymbol : symbol ∈ table.symbols) (h : Loads (message table symbol) loaded) :
    ∀ name ∈ loaded.goNames, P name := by
  obtain ⟨hname, hfields⟩ := htable symbol hsymbol
  unfold message at h
  split at h
  · exact absurd h not_loads_throw
  · rename_i descriptor hdescriptor
    obtain ⟨fields, hloaded, h⟩ := loads_bind h
    obtain ⟨ident, hident, h⟩ := loads_bind h
    rw [loads_pure h, Message.goNames, List.forall_mem_cons, name_of_loads_ident hident]
    refine ⟨hname, ?_⟩
    intro name hmem
    obtain ⟨loadedField, hfield, hmem⟩ := List.mem_flatMap.mp hmem
    obtain ⟨source, hsource, hloads⟩ := exists_of_forall₂_right (loads_mapM hloaded) hfield
    exact names_of_loads_field htable (hfields descriptor hdescriptor source hsource) hloads name hmem

theorem names_of_loads_method (htable : ∀ symbol ∈ table.symbols, symbol.Named P) {file : FileDescriptor}
    {service : String} {serviceIndex : Nat} {descriptor : MethodDescriptor × Nat} {loaded : Method}
    (hname : P (camelCase descriptor.1.name))
    (h : Loads (method table (message table) file service serviceIndex descriptor) loaded) :
    ∀ name ∈ loaded.goNames, P name := by
  obtain ⟨goName, hgoName, h⟩ := loads_bind h
  obtain ⟨inputSymbol, hinputSymbol, h⟩ := loads_bind h
  obtain ⟨input, hinput, h⟩ := loads_bind h
  obtain ⟨outputSymbol, houtputSymbol, h⟩ := loads_bind h
  obtain ⟨output, houtput, h⟩ := loads_bind h
  rw [loads_pure h, Method.goNames, List.forall_mem_cons, List.forall_mem_append, eq_of_loads_goName hgoName]
  exact ⟨hname, names_of_loads_message htable (mem_of_loads_resolve hinputSymbol) hinput,
    names_of_loads_message htable (mem_of_loads_resolve houtputSymbol) houtput⟩

theorem names_of_loads_service (htable : ∀ symbol ∈ table.symbols, symbol.Named P) {file : FileDescriptor}
    {descriptor : ServiceDescriptor × Nat} {loaded : Service}
    (hnames : ∀ name ∈ descriptor.1.declaredNames, P (camelCase name))
    (h : Loads (service table (message table) file descriptor) loaded) : ∀ name ∈ loaded.goNames, P name := by
  rw [ServiceDescriptor.declaredNames, List.forall_mem_cons] at hnames
  obtain ⟨methods, hmethods, h⟩ := loads_bind h
  obtain ⟨goName, hgoName, h⟩ := loads_bind h
  rw [loads_pure h, Service.goNames, List.forall_mem_cons, eq_of_loads_goName hgoName]
  refine ⟨hnames.1, ?_⟩
  intro name hmem
  obtain ⟨loadedMethod, hmethod, hmem⟩ := List.mem_flatMap.mp hmem
  obtain ⟨source, hsource, hloads⟩ := exists_of_forall₂_right (loads_mapM hmethods) hmethod
  exact names_of_loads_method htable
    (hnames.2 _ (List.mem_map_of_mem (List.fst_mem_of_mem_zipIdx hsource))) hloads name hmem

theorem names_of_loads_file (htable : ∀ symbol ∈ table.symbols, symbol.Named P) {toGenerate : List String}
    {descriptor : FileDescriptor} {loaded : File}
    (hnames : ∀ name ∈ descriptor.declaredNames, P (camelCase name))
    (h : Loads (file table (message table) toGenerate descriptor) loaded) : ∀ name ∈ loaded.goNames, P name := by
  unfold file at h
  split_ifs at h
  · obtain ⟨_, _, h⟩ := loads_bind h
    obtain ⟨services, hservices, h⟩ := loads_bind h
    rw [loads_pure h]
    intro name hmem
    obtain ⟨loadedService, hservice, hmem⟩ := List.mem_flatMap.mp hmem
    obtain ⟨source, hsource, hloads⟩ := exists_of_forall₂_right (loads_mapM hservices) hservice
    refine names_of_loads_service htable (fun declared hdeclared => hnames declared ?_) hloads name hmem
    rw [FileDescriptor.declaredNames, List.mem_append]
    exact Or.inr (List.mem_flatMap.mpr ⟨source.1, List.fst_mem_of_mem_zipIdx hsource, hdeclared⟩)
  · obtain ⟨_, _, h⟩ := loads_bind h
    rw [loads_pure h]
    simp [File.goNames]

end Loading

theorem names_of_load {descriptors : List FileDescriptor} {toGenerate unreadable : List String}
    {files : List File} (h : load descriptors toGenerate unreadable = .ok files)
    (hcarried : Carried P (descriptors.flatMap FileDescriptor.declaredNames)) :
    ∀ name ∈ files.flatMap File.goNames, P name := by
  have hdeclared : ∀ descriptor ∈ descriptors,
      descriptor.declaredNames ⊆ descriptors.flatMap FileDescriptor.declaredNames := by
    intro descriptor hdescriptor name hname
    exact List.mem_flatMap.mpr ⟨descriptor, hdescriptor, hname⟩
  obtain ⟨_, symbols, after, hsymbols, hloaded⟩ := load_ok_iff.mp h
  have hnamed : ∀ symbol ∈ symbols, symbol.Named P := by
    intro symbol hsymbol
    rw [addSymbols_eq hsymbols] at hsymbol
    obtain ⟨descriptor, hdescriptor, hmem⟩ := List.mem_flatMap.mp hsymbol
    exact named_fileSymbols (hcarried.mono (hdeclared descriptor hdescriptor)) symbol hmem
  intro name hname
  obtain ⟨loadedFile, hfile, hname⟩ := List.mem_flatMap.mp hname
  obtain ⟨source, hsource, hloads⟩ := exists_of_forall₂_right (Loading.loads_mapM ⟨_, _, hloaded⟩) hfile
  exact Loading.names_of_loads_file hnamed
    (fun declared hmem => hcarried.camelCase declared (hdeclared source hsource hmem)) hloads name hname

theorem dot_not_mem_of_load {descriptors : List FileDescriptor} {toGenerate unreadable : List String}
    {files : List File} (h : load descriptors toGenerate unreadable = .ok files) :
    ∀ name ∈ files.flatMap File.goNames, '.' ∉ name.toList := names_of_load h (carried_no_dot _)

theorem exported_of_load {descriptors : List FileDescriptor} {toGenerate unreadable : List String}
    {files : List File} (h : load descriptors toGenerate unreadable = .ok files)
    (hnames : ∀ name ∈ descriptors.flatMap FileDescriptor.declaredNames, IsSchemaName name) :
    ∀ name ∈ files.flatMap File.goNames, IsExported name := names_of_load h (carried_exported hnames)

end RpcClients.Schema
