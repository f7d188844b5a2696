import RpcClients.Proofs.CamelCase
import RpcClients.Proofs.DeclaredMessages
import RpcClients.Proofs.LoadedMessages
import RpcClients.Proofs.RoundTrip
import RpcClients.Proofs.UnrelatedFiles
import RpcClients.Source.Parameter

/-! # Map fields

A map is encoded as a repeated field of an entry message, which stands inside of the message that declares the map.
Loading finds the entry again and takes the types of key and value from it. The type of the value is looked up from
inside of the entry. There it means what it means in the message, unless a file declares something inside of the full
name of the entry. -/

namespace RpcClients.Schema

open Proto

/-! ## Scopes inside of a scope -/

section

variable {symbols : List Symbol} {scope name typeName : String} {symbol : Symbol}

theorem intercalate_scopeParts (scope : String) : String.intercalate "." (scopeParts scope) = scope := by
  unfold scopeParts
  split_ifs with hempty
  · rw [hempty]
    rfl
  · rw [← String.toList_inj, String.toList_intercalate, Text.split, List.map_map]
    simpa [Function.comp_def] using Text.intercalate_pieces '.' scope.toList

theorem scopeParts_inScope (hname : name ≠ "") (hdot : '.' ∉ name.toList) :
    scopeParts (inScope scope name) = scopeParts scope ++ [name] := by
  have hpieces : Text.pieces '.' name.toList = [name.toList] := Text.pieces_of_not_mem hdot
  by_cases hscope : scope = ""
  · simp [inScope, hscope, scopeParts, hname, Text.split, hpieces]
  · have htext : (inScope scope name).toList = scope.toList ++ '.' :: name.toList := by simp [inScope, hscope]
    rw [scopeParts, if_neg (inScope_ne_empty hscope name), Text.split, htext, Text.pieces_append_cons, hpieces,
      scopeParts, if_neg hscope, Text.split]
    simp

theorem exists_enclosing_eq_cons (scope : String) : ∃ outer, enclosing scope = scope :: outer := by
  unfold enclosing
  simp only [List.range_succ, List.reverse_append, List.reverse_singleton, List.singleton_append, List.map_cons,
    List.take_length, intercalate_scopeParts]
  exact ⟨_, rfl⟩

theorem enclosing_inScope (hname : name ≠ "") (hdot : '.' ∉ name.toList) :
    enclosing (inScope scope name) = inScope scope name :: enclosing scope := by
  have hwhole := intercalate_scopeParts (inScope scope name)
  rw [scopeParts_inScope hname hdot] at hwhole
  unfold enclosing
  rw [scopeParts_inScope hname hdot]
  simp only [List.length_append, List.length_singleton]
  rw [List.range_succ, List.reverse_append, List.reverse_singleton, List.singleton_append, List.map_cons]
  congr 1
  · rw [List.take_of_length_le (by simp), hwhole]
  · refine List.map_congr_left fun count hcount => ?_
    rw [List.mem_reverse, List.mem_range, Nat.lt_succ_iff] at hcount
    rw [List.take_append_of_le_length hcount]

theorem resolve?_of_member (distinct : (symbols.map (·.fullName)).Nodup) (hdot : '.' ∉ name.toList)
    (hsymbol : symbol ∈ symbols) (hname : symbol.fullName = inScope scope name) :
    resolve? symbols scope name = some symbol := by
  obtain ⟨outer, houter⟩ := exists_enclosing_eq_cons scope
  have hknown : isKnown symbols (inScope scope name) = true :=
    isKnown_iff.mpr (.inl (List.mem_map.mpr ⟨symbol, hsymbol, hname⟩))
  rw [resolve?_undotted hdot, houter, List.map_cons, List.find?_cons, hknown]
  exact (findSymbol?_eq_some_iff distinct).mpr ⟨hsymbol, hname⟩

/-- A scope in which nothing has the first component of a name adds nothing to the scopes around it. -/
theorem resolve?_inScope (hname : name ≠ "") (hdot : '.' ∉ name.toList)
    (hunknown : typeName.toList.head? ≠ some '.' →
      isKnown symbols (inScope (inScope scope name) (headComponent typeName)) = false) :
    resolve? symbols (inScope scope name) typeName = resolve? symbols scope typeName := by
  by_cases hfull : typeName.toList.head? = some '.'
  · obtain ⟨fullName, hresolve⟩ := exists_resolve?_absolute hfull
    rw [hresolve, hresolve]
  · obtain ⟨within, hresolve⟩ := exists_resolve?_relative hfull
    rw [hresolve, hresolve, enclosing_inScope hname hdot, List.map_cons, List.find?_cons, hunknown hfull]

end

/-! ## Types of fields -/

namespace Loading

variable {symbols : List Symbol} {owner other : Symbol} {field plain : FieldDescriptor} {known : Packages}

theorem fieldType_eq_of_loads {given : FieldType × Option Symbol} (h : Loads (fieldType { symbols } owner field) given)
    (htype : plain.type = field.type) (hname : plain.typeName = field.typeName)
    (hmeaning : field.typeName ≠ "" →
      resolve? symbols owner.fullName field.typeName = resolve? symbols other.fullName field.typeName) :
    fieldType { symbols } other plain = fieldType { symbols } owner field := by
  by_cases hgroup : field.type = some .group
  · unfold fieldType at h
    simp only [if_pos hgroup] at h
    exact absurd h not_loads_throw
  by_cases hempty : field.typeName = ""
  · unfold fieldType at h ⊢
    simp only [htype, hname, if_neg hgroup, if_pos hempty] at h ⊢
    split at h
    · rfl
    · exact absurd h not_loads_throw
  · rw [← htype] at hgroup
    rw [← hname] at hempty
    cases hfound : resolve? symbols owner.fullName field.typeName with
    | none =>
      rw [fieldType_of_none (htype ▸ hgroup) (hname ▸ hempty) hfound] at h
      exact absurd h not_loads_throw
    | some symbol =>
      rw [fieldType_of_some (htype ▸ hgroup) (hname ▸ hempty) hfound]
      rw [hmeaning (hname ▸ hempty), ← hname] at hfound
      exact fieldType_of_some hgroup hempty hfound

theorem mapTypes_of_single (h : field.label ≠ .repeated) (symbol : Option Symbol) :
    mapTypes { symbols } field symbol = pure none := by
  have hnone : mapEntry? field symbol = none := by
    unfold mapEntry?
    split
    · split <;> simp [h]
    · rfl
  unfold mapTypes
  rw [hnone]

/-! ## Maps -/

variable {map : MapDecl} {proto3 : Bool} {key : Scalar}

theorem mapTypes_of_entry {entry : Symbol} (hentry : entry.message = some (map.entryDescriptor proto3))
    (hkey : Scalar.ofName? map.key = some key) :
    mapTypes { symbols } map.descriptor (some entry) = (do
      let value ← fieldType { symbols } entry (map.valueDescriptor proto3)
      return some ({ kind := .scalar key }, value.1)) := by
  have hkeyType : fieldType { symbols } entry
      (FieldDecl.descriptor proto3 { type := ⟨map.key, false⟩, name := "key", number := 1 }) =
        pure ({ kind := .scalar key }, none) := by
    unfold fieldType FieldDecl.descriptor TypeRef.described
    simp [hkey]
  have hfound : mapEntry? map.descriptor (some entry) = some (entry, map.entryDescriptor proto3) := by
    unfold mapEntry?
    simp only [hentry]
    rfl
  unfold mapTypes
  simp only [hfound]
  change (fieldType { symbols } entry _ >>= fun key => fieldType { symbols } entry _ >>= fun value =>
    pure (some (key.1, value.1))) = _
  rw [hkeyType, pure_bind]

theorem exists_of_loadsWith_map {entry : Symbol} {descriptor : MessageDescriptor} {loaded : Field}
    (hfound : resolve? symbols owner.fullName map.entryName = some entry)
    (hentry : entry.message = some (map.entryDescriptor proto3)) (hkey : Scalar.ofName? map.key = some key)
    (h : LoadsWith known (Loading.field { symbols } owner descriptor map.descriptor) loaded) :
    ∃ type value, LoadsWith known (fieldType { symbols } entry (map.valueDescriptor proto3)) value ∧
      loaded = assembledField owner map.descriptor type (some ({ kind := .scalar key }, value.1)) none := by
  obtain ⟨type, types, off, htype, htypes, hoff, rfl⟩ := loadsWith_field_iff.mp h
  have hname : map.descriptor.typeName ≠ "" := by simp [MapDecl.descriptor, MapDecl.entryName]
  have hsymbol : type.2 = some entry := by
    rw [fieldType_of_some (by simp [MapDecl.descriptor]) hname hfound] at htype
    obtain ⟨_, _, hgiven⟩ := loads_bind htype.loads
    rw [loads_pure hgiven]
  have hvalue : ∃ value, LoadsWith known (fieldType { symbols } entry (map.valueDescriptor proto3)) value ∧
      types = some ({ kind := .scalar key }, value.1) := by
    rw [hsymbol, mapTypes_of_entry hentry hkey] at htypes
    apply htypes.ensured
    refine (closed_repeats_any.fieldType _ _).ensures.bind fun value _ => ensures_pure fun final hvalue => ?_
    exact ⟨value, hvalue, rfl⟩
  obtain ⟨value, hvalue, rfl⟩ := hvalue
  obtain rfl : off = none := loads_pure hoff.loads
  exact ⟨type.1, value, hvalue, rfl⟩

end Loading

/-! ## Messages with a further field -/

/-- The symbol of a message that declares the field as well, after its other fields. -/
def Symbol.declaring (field : FieldDescriptor) (symbol : Symbol) : Symbol :=
  { symbol with
    message := symbol.message.map fun message => { message with fields := message.fields ++ [field] } }

namespace Loading

theorem loadsWith_declaring {symbols : List Symbol} {owner : Symbol} {descriptor : MessageDescriptor}
    {declared : FieldDescriptor} {known : Packages} {loaded : Message} {given : Field}
    (hmessage : owner.message = some descriptor) (hloaded : LoadsWith known (message { symbols } owner) loaded)
    (hfield : LoadsWith known (field { symbols } owner descriptor declared) given) :
    LoadsWith known (message { symbols } (owner.declaring declared))
      { loaded with fields := loaded.fields ++ [given] } := by
  have hdeclaring : (owner.declaring declared).message =
      some { descriptor with fields := descriptor.fields ++ [declared] } := by
    simp [Symbol.declaring, hmessage]
  obtain ⟨hname, hident, hfields⟩ := (loadsWith_message_iff hmessage).mp hloaded
  rw [loadsWith_message_iff hdeclaring]
  exact ⟨hname, hident, List.rel_append hfields (.cons hfield .nil)⟩

/-- Once the files are loaded, the message is loaded as it was, and if it declared the field as well, it would have a
further field of the type. -/
def WouldGet (descriptors : List FileDescriptor) (toGenerate : List String) (loaded : Message) (field : FieldDescriptor)
    (type : FieldType) : Prop :=
  ∃ table files packages, table.symbols = descriptors.flatMap FileDescriptor.symbols ∧ table.unreadable = [] ∧
    (descriptors.mapM (file table (message table) toGenerate)).run [] = .ok (files, packages) ∧
    ∃ symbol ∈ table.symbols, LoadsWith packages (message table symbol) loaded ∧
      ∃ further : Field, further.type = type ∧
        LoadsWith packages (message table (symbol.declaring field)) { loaded with fields := loaded.fields ++ [further] }

end Loading

/-! ## Loaded maps -/

/-- The field is the map, with the types of key and value. -/
structure LoadedMap (message : Message) (map : MapDecl) (key : Scalar) (value : FieldType) (field : Field) : Prop where
  name : field.name = map.name
  keyName : Scalar.ofName? map.key = some key
  mapKey : field.mapKey = some { kind := .scalar key }
  mapValue : field.mapValue = some value
  repeated : field.repeated = false
  optional : field.optional = false
  oneof : field.oneof = none
  goType : message.goType field = (do
    let element ← message.elementType field value
    return "map[" ++ key.goType ++ "]" ++ element)

/-- Something is declared inside of the entry of the map by the first component of the value type, which hides what the
type means in the message. -/
def Captured (symbols : List Symbol) (scope : String) (map : MapDecl) : Prop :=
  map.value.absolute = false ∧ Scalar.ofName? map.value.name = none ∧
    isKnown symbols (inScope (inScope scope map.entryName) (headComponent map.value.name)) = true

theorem loadedMap_assembledField (message : Message) {owner : Symbol} {map : MapDecl} {key : Scalar}
    (hkey : Scalar.ofName? map.key = some key) (type value : FieldType) :
    LoadedMap message map key value
      (Loading.assembledField owner map.descriptor type (some ({ kind := .scalar key }, value)) none) where
  name := rfl
  keyName := hkey
  mapKey := rfl
  mapValue := rfl
  repeated := by simp [Loading.assembledField]
  optional := by simp [Loading.assembledField, MapDecl.descriptor]
  oneof := rfl
  goType := rfl

theorem dot_not_mem_entryName (map : MapDecl) : '.' ∉ map.entryName.toList := by
  simp [MapDecl.entryName, Naming.dot_not_mem_camelCase]

theorem typeName_described {type : TypeRef} (h : type.described.2 ≠ "") :
    type.described.2 = type.text ∧ (type.absolute = false → Scalar.ofName? type.name = none) := by
  unfold TypeRef.described at h ⊢
  cases hscalar : if type.absolute then none else Scalar.ofName? type.name with
  | some scalar =>
    rw [hscalar] at h
    exact absurd rfl h
  | none => exact ⟨rfl, fun hrelative => by simpa [hrelative] using hscalar⟩

theorem resolve?_value {symbols : List Symbol} {scope : String} {map : MapDecl}
    (h : ¬ Captured symbols scope map) (hname : map.value.described.2 ≠ "") :
    resolve? symbols (inScope scope map.entryName) map.value.described.2 =
      resolve? symbols scope map.value.described.2 := by
  obtain ⟨htext, hscalar⟩ := typeName_described hname
  refine resolve?_inScope (by simp [MapDecl.entryName]) (dot_not_mem_entryName map) fun hrelative => ?_
  have habsolute : map.value.absolute = false := by
    rw [← Bool.not_eq_true]
    intro habsolute
    exact hrelative (by simp [htext, TypeRef.text, habsolute])
  rw [← Bool.not_eq_true]
  intro hknown
  refine h ⟨habsolute, hscalar habsolute, ?_⟩
  rwa [htext, TypeRef.text, if_neg (by simp [habsolute])] at hknown

/-- The message is the one of the symbol with the items. It is loaded again with the packages, and each message inside
of it has a symbol. -/
structure LoadedFrom (symbols : List Symbol) (packages : Loading.Packages) (loaded : Message) (owner : Symbol)
    (proto3 : Bool) (items : List MessageItem) (descriptor : MessageDescriptor) : Prop where
  distinct : (symbols.map (·.fullName)).Nodup
  mem : owner ∈ symbols
  message : owner.message = some descriptor
  loads : Loading.LoadsWith packages (Loading.message { symbols } owner) loaded
  described : describeItems proto3 { name := descriptor.name } items = .ok descriptor
  nested : ∀ nested ∈ descriptor.nested,
    ∃ symbol ∈ symbols, symbol.fullName = inScope owner.fullName nested.name ∧ symbol.message = some nested

/-- A declared message that was loaded has its symbol, wherever it is declared. -/
theorem exists_loadedFrom {sources : List (String × String)} {descriptors : List FileDescriptor}
    {packages : Loading.Packages} {loaded : Message}
    {source : String × String} {tree : SourceTree} {items : List MessageItem}
    (hparse : List.Forall₂ (fun source file => parse source.1 source.2 = .ok file) sources descriptors)
    (distinct : ((descriptors.flatMap FileDescriptor.symbols).map (·.fullName)).Nodup)
    (hreloads : Loading.Reloads { symbols := descriptors.flatMap FileDescriptor.symbols } packages loaded)
    (hsource : source ∈ sources) (htree : SourceTree.ofText source.1.toList = .ok tree)
    (hdeclared : tree.Declares loaded.fullName items) :
    ∃ owner proto3 descriptor,
      LoadedFrom (descriptors.flatMap FileDescriptor.symbols) packages loaded owner proto3 items descriptor := by
  obtain ⟨owner, howner, hloads⟩ := hreloads
  obtain ⟨file, hfile, hparsed⟩ := exists_of_forall₂_left hparse hsource
  obtain ⟨tree', htree', hdescribed⟩ := parse_ok_iff.mp hparsed
  obtain rfl : tree' = tree := Except.ok.inj (htree'.symm.trans htree)
  obtain ⟨descriptor, hholds, hitems⟩ := SourceTree.exists_holds_of_declares hdescribed hdeclared
  have hsymbols : file.symbols ⊆ descriptors.flatMap FileDescriptor.symbols :=
    fun symbol hsymbol => List.mem_flatMap.mpr ⟨file, hfile, hsymbol⟩
  -- no other symbol has the full name
  obtain ⟨symbol, hsymbol, hname, hmessage⟩ := hholds.symbol
  have hfull := Loading.fullName_of_loads_message hloads.loads
  obtain rfl : symbol = owner :=
    List.inj_on_of_nodup_map distinct (hsymbols hsymbol) howner (hname.trans hfull)
  refine ⟨symbol, _, descriptor, distinct, howner, hmessage, hloads, hitems, fun nested hnested => ?_⟩
  obtain ⟨inner, hinner, hinnerName, hinnerMessage⟩ := (hholds.nested hnested).symbol
  exact ⟨inner, hsymbols hinner, by rw [hinnerName, hfull], hinnerMessage⟩

namespace LoadedFrom

variable {symbols : List Symbol} {packages : Loading.Packages} {loaded : Message} {owner : Symbol} {proto3 : Bool}
  {items : List MessageItem} {descriptor : MessageDescriptor}

theorem exists_field (h : LoadedFrom symbols packages loaded owner proto3 items descriptor) {i : Nat}
    {declared : FieldDescriptor} (hdeclared : descriptor.fields[i]? = some declared) :
    ∃ field, loaded.fields[i]? = some field ∧
      Loading.LoadsWith packages (Loading.field { symbols } owner descriptor declared) field := by
  obtain ⟨_, _, hfields⟩ := (Loading.loadsWith_message_iff h.message).mp h.loads
  exact hfields.exists_field hdeclared

theorem exists_map {before after : List MessageItem} {map : MapDecl}
    (h : LoadedFrom symbols packages loaded owner proto3 (before ++ .map map :: after) descriptor) :
    ∃ field key entry value, loaded.fields[(before.flatMap MessageItem.fieldNames).length]? = some field ∧
      LoadedMap loaded map key value.1 field ∧ entry.fullName = inScope owner.fullName map.entryName ∧
      Loading.LoadsWith packages (Loading.fieldType { symbols } entry (map.valueDescriptor proto3)) value := by
  obtain ⟨⟨key, hkey⟩, hentry, hposition⟩ := getElem?_fields_of_map h.described
  have hkey : Scalar.ofName? map.key = some key := by
    unfold mapKey? at hkey
    rw [Option.filter_eq_some_iff] at hkey
    exact hkey.1
  obtain ⟨entry, hsymbol, hname, hmessage⟩ := h.nested _ hentry
  have hfound : resolve? symbols owner.fullName map.entryName = some entry :=
    resolve?_of_member h.distinct (dot_not_mem_entryName map) hsymbol hname
  obtain ⟨field, hfield, hloads⟩ := h.exists_field hposition
  obtain ⟨type, value, hvalue, rfl⟩ := Loading.exists_of_loadsWith_map hfound hmessage hkey hloads
  exact ⟨_, key, entry, value, hfield, loadedMap_assembledField loaded hkey type value.1, hname, hvalue⟩

end LoadedFrom

theorem exists_loadsWith_plain {symbols : List Symbol} {packages : Loading.Packages} {owner entry : Symbol}
    {map : MapDecl} {proto3 : Bool} {value : FieldType × Option Symbol}
    (hentry : entry.fullName = inScope owner.fullName map.entryName)
    (hvalue : Loading.LoadsWith packages (Loading.fieldType { symbols } entry (map.valueDescriptor proto3)) value)
    (hcaptured : ¬ Captured symbols owner.fullName map) {plain : FieldDecl} (htype : plain.type = map.value)
    (hlabel : plain.label ≠ some .repeated) (proto3' : Bool) (descriptor : MessageDescriptor) :
    ∃ field : Field, field.type = value.1 ∧
      Loading.LoadsWith packages (Loading.field { symbols } owner descriptor (plain.descriptor proto3')) field := by
  have hsame : Loading.fieldType { symbols } owner (plain.descriptor proto3') =
      Loading.fieldType { symbols } entry (map.valueDescriptor proto3) := by
    refine Loading.fieldType_eq_of_loads hvalue.loads ?_ ?_ fun hname => ?_
    · simp [FieldDecl.descriptor, MapDecl.valueDescriptor, htype]
    · simp [FieldDecl.descriptor, MapDecl.valueDescriptor, htype]
    · rw [hentry]
      exact resolve?_value hcaptured hname
  have hsingle : (plain.descriptor proto3').label ≠ .repeated := by
    unfold FieldDecl.descriptor
    rcases hstated : plain.label with _ | label
    · simp
    · cases label <;> simp_all [Label.described]
  refine ⟨_, ?_, Loading.loadsWith_field_iff.mpr ⟨value, none, none, hsame ▸ hvalue, ?_, rfl, rfl⟩⟩
  · rfl
  · rw [Loading.mapTypes_of_single hsingle]
    exact Loading.loadsWith_pure none

/-- Let texts be read and their files be loaded, and let a message that a method takes or gives declare a map, wherever
the message stands. Its field at that place is the map, with the key type that is declared. If nothing captures the
type of the value, then a single field of this type in the same message has the type that the map has for it: one that
the message declares, and one that it would declare as well, in either language. -/
theorem map_survives_encoding {sources : List (String × String)} {descriptors : List FileDescriptor}
    {toGenerate : List String}
    {files : List File} {loaded : Message} {source : String × String} {tree : SourceTree}
    {before after : List MessageItem} {map : MapDecl}
    (hparse : List.Forall₂ (fun source file => parse source.1 source.2 = .ok file) sources descriptors)
    (hload : load descriptors toGenerate = .ok files) (hloaded : loaded ∈ files.flatMap File.messages)
    (hsource : source ∈ sources) (htree : SourceTree.ofText source.1.toList = .ok tree)
    (hdeclared : tree.Declares loaded.fullName (before ++ .map map :: after)) :
    ∃ field key value, loaded.fields[(before.flatMap MessageItem.fieldNames).length]? = some field ∧
      LoadedMap loaded map key value field ∧
      (¬ Captured (descriptors.flatMap FileDescriptor.symbols) loaded.fullName map →
        (∀ proto3 plain described, FieldDecl.described proto3 plain = .ok described → plain.type = map.value →
          plain.label ≠ some .repeated → Loading.WouldGet descriptors toGenerate loaded described value) ∧
        ∀ before' plain after', before ++ .map map :: after = before' ++ .field plain :: after' →
          plain.type = map.value → plain.label ≠ some .repeated → ∃ other,
            loaded.fields[(before'.flatMap MessageItem.fieldNames).length]? = some other ∧ other.type = value) := by
  obtain ⟨_, symbols, packages, hsymbols, hrun⟩ := load_ok_iff.mp hload
  obtain ⟨_, distinct, _, rfl⟩ := addSymbols_ok_iff.mp hsymbols
  rw [List.nil_append] at hrun
  obtain ⟨owner, proto3, descriptor, hfrom⟩ :=
    exists_loadedFrom hparse distinct (reloads_of_run hrun loaded hloaded) hsource htree hdeclared
  obtain ⟨field, key, entry, value, hfield, hmap, hentry, hvalue⟩ := hfrom.exists_map
  refine ⟨field, key, value.1, hfield, hmap, fun hcaptured => ?_⟩
  rw [Loading.fullName_of_loads_message hfrom.loads.loads] at hcaptured
  constructor
  · intro proto3' plain described hdescribed htype hlabel
    obtain ⟨further, hfurther, hloads⟩ :=
      exists_loadsWith_plain hentry hvalue hcaptured htype hlabel proto3' descriptor
    rw [eq_descriptor_of_described hdescribed]
    exact ⟨_, files, packages, rfl, rfl, hrun, owner, hfrom.mem, hfrom.loads, further, hfurther,
      Loading.loadsWith_declaring hfrom.message hfrom.loads hloads⟩
  · intro before' plain after' hitems htype hlabel
    rw [hitems] at hfrom
    obtain ⟨other, hother, hloads⟩ := hfrom.exists_field (getElem?_fields_of_field hfrom.described)
    obtain ⟨given, hgiven, hloads'⟩ := exists_loadsWith_plain hentry hvalue hcaptured htype hlabel proto3 descriptor
    rw [hloads'.unique hloads] at hgiven
    exact ⟨other, hother, hgiven⟩

/-! ## A map whose value is captured -/

theorem exists_tree_of_print (outline : Outline)
    (hlevels : ∀ message ∈ outline.messages, message.levels ≤ Wire.maxDepth) :
    ∃ tree, SourceTree.ofText outline.print.toList = .ok tree ∧ tree.packages = outline.tree.packages ∧
      tree.messages = outline.tree.messages := by
  obtain ⟨tree, htree, hstatements, _, _⟩ := outline.ofText_written outline.written_print
    fun message hmessage => Nat.lt_of_le_of_lt (hlevels message hmessage) (by decide)
  have hsame : outline.tree.statements.map Proto.Statement.unplaced = tree.statements.map Proto.Statement.unplaced :=
    outline.decls_unplaced.trans hstatements.symm
  exact ⟨tree, htree, SourceTree.filterMap_unplaced (by rintro ⟨⟩ <;> rfl) hsame,
    SourceTree.filterMap_unplaced (by rintro ⟨⟩ <;> rfl) hsame⟩

def zoo : Outline where
  language := some .proto3
  statements :=
    [.package { first := { text := "zoo" } },
     .goPackage { text := "x/zoo" },
     .message { text := "Animal" } [],
     .message { text := "House" }
       [.message { text := "Animal" } [],
        .message { text := "Pen" }
          [.oneof { text := "keeper" } [⟨.scalar .string, { text := "name" }, { value := 13 }⟩],
           .map { key := { type := .int32 }, value := .named { path := { first := { text := "Animal" } } },
                  name := { text := "by_age" }, number := { value := 11 } },
           .field none ⟨.named { path := { first := { text := "Animal" } } }, { text := "head" }, { value := 12 }⟩]],
     .service ⟨{ text := "Zoo" },
       [⟨{ text := "Visit" }, { type := { path := { first := { text := "House" }, more := [{ text := "Pen" }] } } },
          { type := { path := { first := { text := "House" }, more := [{ text := "Pen" }] } } }⟩]⟩]

/-- A file whose package is the entry of the map. -/
def entryPackage (name : Identifier) : Outline where
  language := some .proto3
  statements :=
    [.package { first := { text := "zoo" }, more := [{ text := "House" }, { text := "Pen" },
      { text := "ByAgeEntry" }] },
     .goPackage { text := "x/entry" }, .message name []]
  onePackage := Nat.le_refl 1
  unrequired := fun _ => rfl

def penMap : MapDecl := ⟨"int32", ⟨"Animal", false⟩, "by_age", 11⟩

def penHead : FieldDecl := { type := ⟨"Animal", false⟩, name := "head", number := 12 }

def penKeeper : MessageItem := .oneof "keeper" [{ type := ⟨"string", false⟩, name := "name", number := 13 }]

theorem declares_pen : ∃ tree, SourceTree.ofText zoo.print.toList = .ok tree ∧
    tree.Declares "zoo.House.Pen" [penKeeper, .map penMap, .field penHead] := by
  obtain ⟨tree, htree, hpackages, hmessages⟩ := exists_tree_of_print zoo (by decide)
  have hpackage : tree.package = "zoo" := by
    rw [SourceTree.package, hpackages]
    rfl
  have hmessages : tree.messages = [("Animal", []), ("House",
      [.message "Animal" [], .message "Pen" [penKeeper, .map penMap, .field penHead]])] := hmessages
  refine ⟨tree, htree, ?_⟩
  have hhouse : tree.Declares (inScope tree.package "House")
      [.message "Animal" [], .message "Pen" [penKeeper, .map penMap, .field penHead]] :=
    .top (by simp [hmessages])
  have hpen : tree.Declares (inScope (inScope tree.package "House") "Pen") [penKeeper, .map penMap, .field penHead] :=
    .nested hhouse (by simp)
  rwa [hpackage] at hpen

def zooFiles (name : Identifier) : List FileDescriptor :=
  [zoo.descriptor "zoo.proto", (entryPackage name).descriptor "entry.proto"]

theorem parse_zooFiles (name : Identifier) :
    List.Forall₂ (fun source file => parse source.1 source.2 = .ok file)
      [(zoo.print, "zoo.proto"), ((entryPackage name).print, "entry.proto")] (zooFiles name) := by
  refine .cons ?_ (.cons ?_ .nil)
  · exact (zoo.parse_written_iff zoo.written_print _).mpr (by decide)
  · refine ((entryPackage name).parse_written_iff (entryPackage name).written_print _).mpr ?_
    rintro message hmessage
    obtain rfl := List.mem_singleton.mp hmessage
    exact Nat.zero_le _

def loadedPen (animal : Ident) : Message where
  fullName := "zoo.House.Pen"
  ident := ⟨"House_Pen", "x/zoo"⟩
  fields :=
    [{ name := "name", goName := "Name", type := { kind := .scalar .string }, oneof := some "keeper" },
     { name := "by_age", goName := "ByAge"
       type := { kind := .message, ident := some ⟨"House_Pen_ByAgeEntry", "x/zoo"⟩ }
       mapKey := some { kind := .scalar .int32 }, mapValue := some { kind := .message, ident := some animal } },
     { name := "head", goName := "Head", type := { kind := .message, ident := some ⟨"House_Animal", "x/zoo"⟩ } }]

theorem exists_load_of_any {descriptors : List FileDescriptor} {toGenerate : List String} {loaded : Message}
    (h : (load descriptors toGenerate).toOption.any (fun files => loaded ∈ files.flatMap File.messages) = true) :
    ∃ files, load descriptors toGenerate = .ok files ∧ loaded ∈ files.flatMap File.messages := by
  cases hload : load descriptors toGenerate with
  | error failure => simp [hload, Except.toOption] at h
  | ok files => exact ⟨files, rfl, by simpa [hload, Except.toOption] using h⟩

theorem captured_map_differs :
    (∃ tree, SourceTree.ofText zoo.print.toList = .ok tree ∧
      tree.Declares "zoo.House.Pen" [penKeeper, .map penMap, .field penHead]) ∧
    List.Forall₂ (fun source file => parse source.1 source.2 = .ok file)
      [(zoo.print, "zoo.proto"), ((entryPackage { text := "Animal" }).print, "entry.proto")]
      (zooFiles { text := "Animal" }) ∧
    ∃ files loaded, load (zooFiles { text := "Animal" }) ["zoo.proto"] = .ok files ∧
      loaded ∈ files.flatMap File.messages ∧ loaded.fullName = "zoo.House.Pen" ∧
      ∃ field other, loaded.fields[1]? = some field ∧ loaded.fields[2]? = some other ∧
        penHead.type = penMap.value ∧ field.mapValue ≠ some other.type := by
  obtain ⟨files, hload, hloaded⟩ :
      ∃ files, load (zooFiles { text := "Animal" }) ["zoo.proto"] = .ok files ∧
        loadedPen ⟨"Animal", "x/entry"⟩ ∈ files.flatMap File.messages := by
    apply exists_load_of_any
    decide +kernel
  exact ⟨declares_pen, parse_zooFiles _, files, _, hload, hloaded, rfl, _, _, rfl, rfl, rfl, by decide⟩

theorem map_survives_encoding_zoo :
    ∃ files, load (zooFiles { text := "Keeper" }) ["zoo.proto"] = .ok files ∧
      loadedPen ⟨"House_Animal", "x/zoo"⟩ ∈ files.flatMap File.messages ∧
      ∃ field key value, (loadedPen ⟨"House_Animal", "x/zoo"⟩).fields[1]? = some field ∧
        LoadedMap (loadedPen ⟨"House_Animal", "x/zoo"⟩) penMap key value field ∧
        ¬ Captured ((zooFiles { text := "Keeper" }).flatMap FileDescriptor.symbols) "zoo.House.Pen" penMap ∧
        Loading.WouldGet (zooFiles { text := "Keeper" }) ["zoo.proto"] (loadedPen ⟨"House_Animal", "x/zoo"⟩)
          (penHead.descriptor true) value ∧
        ∃ other, (loadedPen ⟨"House_Animal", "x/zoo"⟩).fields[2]? = some other ∧ other.type = value := by
  obtain ⟨files, hload, hloaded⟩ :
      ∃ files, load (zooFiles { text := "Keeper" }) ["zoo.proto"] = .ok files ∧
        loadedPen ⟨"House_Animal", "x/zoo"⟩ ∈ files.flatMap File.messages := by
    apply exists_load_of_any
    decide +kernel
  obtain ⟨tree, htree, hdeclared⟩ := declares_pen
  have hcaptured : ¬ Captured ((zooFiles { text := "Keeper" }).flatMap FileDescriptor.symbols) "zoo.House.Pen" penMap :=
    fun h => absurd h.2.2 (by decide)
  obtain ⟨field, key, value, hfield, hmap, hplain⟩ := map_survives_encoding (parse_zooFiles { text := "Keeper" })
    hload hloaded List.mem_cons_self htree
    (show tree.Declares _ ([penKeeper] ++ .map penMap :: [.field penHead]) from hdeclared)
  obtain ⟨hwould, hdeclared⟩ := hplain hcaptured
  exact ⟨files, hload, hloaded, field, key, value, hfield, hmap, hcaptured,
    hwould true penHead _ rfl rfl (by decide), hdeclared [penKeeper, .map penMap] penHead [] rfl rfl (by decide)⟩

end RpcClients.Schema
