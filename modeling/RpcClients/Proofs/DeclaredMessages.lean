import RpcClients.Proofs.LoadingOrder
import RpcClients.Proofs.SoundDescriptors

/-! # Messages as they are declared

A message stands at the top of a file or inside of another message. Its descriptor is made item by item: its fields
keep their order, and each message inside of it, the entry of a map too, has a symbol inside of its full name. -/

namespace RpcClients.Schema

/-! ## Symbols of a file -/

/-- The file declares the message by the full name, with everything inside of it. -/
def FileDescriptor.Holds (file : FileDescriptor) (fullName : String) (message : MessageDescriptor) : Prop :=
  ∃ scope lead, fullName = inScope scope message.name ∧ messageSymbols file scope lead message ⊆ file.symbols

theorem messageSymbols_subset_nestedSymbols {file : FileDescriptor} {scope lead : String} {message : MessageDescriptor}
    {messages : List MessageDescriptor} (h : message ∈ messages) :
    messageSymbols file scope lead message ⊆ nestedSymbols file scope lead messages := by
  induction messages with
  | nil => cases h
  | cons first rest ih =>
    rw [nestedSymbols]
    rcases List.mem_cons.mp h with rfl | h
    · exact List.subset_append_left _ _
    · exact List.subset_append_of_subset_right _ (ih h)

variable {file : FileDescriptor} {fullName : String} {message : MessageDescriptor}

theorem FileDescriptor.holds_top (h : message ∈ file.messages) :
    file.Holds (inScope file.package message.name) message := by
  refine ⟨file.package, "", rfl, ?_⟩
  unfold FileDescriptor.symbols
  exact List.subset_append_of_subset_left _ (messageSymbols_subset_nestedSymbols h)

theorem FileDescriptor.Holds.nested (h : file.Holds fullName message) {nested : MessageDescriptor}
    (hnested : nested ∈ message.nested) :
    file.Holds (inScope fullName nested.name) nested := by
  obtain ⟨scope, lead, rfl, hsymbols⟩ := h
  obtain ⟨name, fields, inner, enums, oneofs, mapEntry⟩ := message
  rw [messageSymbols, List.cons_subset, List.append_subset] at hsymbols
  exact ⟨_, _, rfl, List.Subset.trans (messageSymbols_subset_nestedSymbols hnested) hsymbols.2.1⟩

theorem FileDescriptor.Holds.symbol (h : file.Holds fullName message) :
    ∃ symbol ∈ file.symbols, symbol.fullName = fullName ∧ symbol.message = some message := by
  obtain ⟨scope, lead, rfl, hsymbols⟩ := h
  obtain ⟨name, fields, inner, enums, oneofs, mapEntry⟩ := message
  rw [messageSymbols, List.cons_subset] at hsymbols
  exact ⟨_, hsymbols.1, rfl, rfl⟩

end RpcClients.Schema

namespace RpcClients.Proto

open Schema

/-! ## Fields and map entries -/

def FieldDecl.descriptor (proto3 : Bool) (decl : FieldDecl) : FieldDescriptor where
  name := decl.name
  number := decl.number
  jsonName := Naming.jsonName decl.name
  label := (decl.label.map Label.described).getD .optional
  type := decl.type.described.1
  typeName := decl.type.described.2
  proto3Optional := decl.label = some .optional && proto3

theorem eq_descriptor_of_described {proto3 : Bool} {decl : FieldDecl} {field : FieldDescriptor}
    (h : decl.described proto3 = .ok field) : field = decl.descriptor proto3 := by
  unfold FieldDecl.described at h
  obtain ⟨_, _, h⟩ := except_bind_ok_iff.mp h
  split_ifs at h
  exact except_pure_ok_iff.mp h

def MapDecl.entryName (map : MapDecl) : String := Naming.camelCase map.name ++ "Entry"

/-- The field of the entry that holds the value. -/
def MapDecl.valueDescriptor (proto3 : Bool) (map : MapDecl) : FieldDescriptor :=
  FieldDecl.descriptor proto3 { type := map.value, name := "value", number := 2 }

def MapDecl.entryDescriptor (proto3 : Bool) (map : MapDecl) : MessageDescriptor where
  name := map.entryName
  fields :=
    [FieldDecl.descriptor proto3 { type := ⟨map.key, false⟩, name := "key", number := 1 },
     map.valueDescriptor proto3]
  mapEntry := true

theorem eq_entryDescriptor_of_entry {proto3 : Bool} {map : MapDecl} {entry : MessageDescriptor}
    (h : map.entry proto3 = .ok entry) :
    (∃ key, mapKey? map.key = some key) ∧ entry = map.entryDescriptor proto3 := by
  unfold MapDecl.entry at h
  split at h
  · cases h
  · rename_i key hkey
    obtain ⟨keyField, hkeyField, h⟩ := except_bind_ok_iff.mp h
    obtain ⟨valueField, hvalueField, h⟩ := except_bind_ok_iff.mp h
    obtain rfl := except_pure_ok_iff.mp h
    rw [eq_descriptor_of_described hkeyField, eq_descriptor_of_described hvalueField]
    exact ⟨⟨key, hkey⟩, rfl⟩

def MapDecl.descriptor (map : MapDecl) : FieldDescriptor where
  name := map.name
  number := map.number
  jsonName := Naming.jsonName map.name
  label := .repeated
  type := some .message
  typeName := map.entryName

theorem eq_mapDescriptor_of_described {map : MapDecl} {field : FieldDescriptor}
    (h : map.described map.entryName = .ok field) : field = map.descriptor := by
  unfold MapDecl.described at h
  obtain ⟨_, _, h⟩ := except_bind_ok_iff.mp h
  exact except_pure_ok_iff.mp h

/-! ## Items of a message -/

def MessageItem.fieldNames : MessageItem → List String
  | .field decl => [decl.name]
  | .map decl => [decl.name]
  | .oneof _ decls => decls.map (·.name)
  | .message _ _ => []
  | .enum _ => []

/-- The second message has what the first one has, then fields with the names, and maybe further messages. -/
structure Adds (names : List String) (message described : MessageDescriptor) : Prop where
  name : described.name = message.name
  fields : ∃ fields, described.fields = message.fields ++ fields ∧ fields.map (·.name) = names
  nested : message.nested <+: described.nested

variable {proto3 : Bool} {message described : MessageDescriptor} {item : MessageItem} {items : List MessageItem}

theorem Adds.trans {names more : List String} {next : MessageDescriptor} (h : Adds names message described)
    (h' : Adds more described next) : Adds (names ++ more) message next := by
  obtain ⟨fields, hfields, rfl⟩ := h.fields
  obtain ⟨others, hothers, rfl⟩ := h'.fields
  refine ⟨h'.name.trans h.name, ⟨fields ++ others, ?_, List.map_append⟩, h.nested.trans h'.nested⟩
  rw [hothers, hfields, List.append_assoc]

theorem describeItem_map_ok {map : MapDecl} (h : describeItem proto3 message (.map map) = .ok described) :
    (∃ key, mapKey? map.key = some key) ∧ described = { message with
      nested := message.nested ++ [map.entryDescriptor proto3], fields := message.fields ++ [map.descriptor] } := by
  obtain ⟨entry, hentry, h⟩ := except_bind_ok_iff.mp h
  obtain ⟨field, hfield, h⟩ := except_bind_ok_iff.mp h
  obtain rfl := except_pure_ok_iff.mp h
  obtain ⟨hkey, rfl⟩ := eq_entryDescriptor_of_entry hentry
  rw [eq_mapDescriptor_of_described hfield]
  exact ⟨hkey, rfl⟩

theorem adds_describeItem (h : describeItem proto3 message item = .ok described) :
    Adds item.fieldNames message described := by
  cases item with
  | field decl =>
    obtain ⟨field, hfield, h⟩ := except_bind_ok_iff.mp h
    obtain rfl := except_pure_ok_iff.mp h
    exact ⟨rfl, ⟨[field], rfl, by simp [MessageItem.fieldNames, (described_field hfield).1]⟩, List.prefix_rfl⟩
  | map decl =>
    obtain ⟨_, rfl⟩ := describeItem_map_ok h
    exact ⟨rfl, ⟨[decl.descriptor], rfl, rfl⟩, List.prefix_append _ _⟩
  | oneof name decls =>
    obtain ⟨fields, hfields, h⟩ := except_bind_ok_iff.mp h
    obtain rfl := except_pure_ok_iff.mp h
    refine ⟨rfl, ⟨_, rfl, ?_⟩, List.prefix_rfl⟩
    rw [List.map_map]
    refine (map_eq_map_of_forall₂ ?_).symm
    exact (except_mapM_ok_iff.mp hfields).imp fun decl field hfield => (described_field hfield).1.symm
  | message name inner =>
    obtain ⟨nested, _, h⟩ := except_bind_ok_iff.mp h
    obtain ⟨_, _, h⟩ := except_bind_ok_iff.mp h
    obtain rfl := except_pure_ok_iff.mp h
    exact ⟨rfl, ⟨[], by simp, rfl⟩, List.prefix_append _ _⟩
  | enum decl =>
    obtain ⟨enum, _, h⟩ := except_bind_ok_iff.mp h
    obtain rfl := except_pure_ok_iff.mp h
    exact ⟨rfl, ⟨[], by simp, rfl⟩, List.prefix_rfl⟩

theorem adds_describeItems (h : describeItems proto3 message items = .ok described) :
    Adds (items.flatMap MessageItem.fieldNames) message described := by
  induction items generalizing message with
  | nil =>
    cases h
    exact ⟨rfl, ⟨[], by simp, rfl⟩, List.prefix_rfl⟩
  | cons item rest ih =>
    obtain ⟨next, hnext, h⟩ := except_bind_ok_iff.mp h
    rw [List.flatMap_cons]
    exact (adds_describeItem hnext).trans (ih h)

theorem describeItems_split {before after : List MessageItem}
    (h : describeItems proto3 message (before ++ item :: after) = .ok described) :
    ∃ first next, describeItems proto3 message before = .ok first ∧ describeItem proto3 first item = .ok next ∧
      describeItems proto3 next after = .ok described := by
  induction before generalizing message with
  | nil =>
    obtain ⟨next, hnext, h⟩ := except_bind_ok_iff.mp h
    exact ⟨message, next, rfl, hnext, h⟩
  | cons other rest ih =>
    obtain ⟨middle, hmiddle, h⟩ := except_bind_ok_iff.mp h
    obtain ⟨first, next, hfirst, hnext, h⟩ := ih h
    exact ⟨first, next, except_bind_ok_iff.mpr ⟨middle, hmiddle, hfirst⟩, hnext, h⟩

theorem getElem?_fields {name : String} {before after : List MessageItem} {first next : MessageDescriptor}
    {field : FieldDescriptor} (hbefore : describeItems proto3 { name } before = .ok first)
    (hnext : next.fields = first.fields ++ [field]) (hafter : describeItems proto3 next after = .ok described) :
    described.fields[(before.flatMap MessageItem.fieldNames).length]? = some field := by
  obtain ⟨fields, hfields, hnames⟩ := (adds_describeItems hbefore).fields
  obtain ⟨others, hothers, _⟩ := (adds_describeItems hafter).fields
  have hfirst : first.fields = fields := hfields
  rw [hothers, hnext, hfirst, ← hnames, List.length_map, List.append_assoc]
  simp

theorem getElem?_fields_of_field {name : String} {before after : List MessageItem} {decl : FieldDecl}
    (h : describeItems proto3 { name } (before ++ .field decl :: after) = .ok described) :
    described.fields[(before.flatMap MessageItem.fieldNames).length]? = some (decl.descriptor proto3) := by
  obtain ⟨first, next, hfirst, hnext, h⟩ := describeItems_split h
  obtain ⟨field, hfield, hnext⟩ := except_bind_ok_iff.mp hnext
  obtain rfl := except_pure_ok_iff.mp hnext
  rw [← eq_descriptor_of_described hfield]
  exact getElem?_fields hfirst rfl h

theorem getElem?_fields_of_map {name : String} {before after : List MessageItem} {map : MapDecl}
    (h : describeItems proto3 { name } (before ++ .map map :: after) = .ok described) :
    (∃ key, mapKey? map.key = some key) ∧ map.entryDescriptor proto3 ∈ described.nested ∧
      described.fields[(before.flatMap MessageItem.fieldNames).length]? = some map.descriptor := by
  obtain ⟨first, next, hfirst, hnext, h⟩ := describeItems_split h
  obtain ⟨hkey, rfl⟩ := describeItem_map_ok hnext
  exact ⟨hkey, (adds_describeItems h).nested.subset (by simp), getElem?_fields hfirst rfl h⟩

theorem exists_nested_of_describeItems {name : String} {inner : List MessageItem}
    (h : describeItems proto3 message items = .ok described) (hitem : .message name inner ∈ items) :
    ∃ nested ∈ described.nested, describeItems proto3 { name } inner = .ok nested := by
  obtain ⟨before, after, rfl⟩ := List.append_of_mem hitem
  obtain ⟨first, next, _, hnext, h⟩ := describeItems_split h
  obtain ⟨nested, hnested, hnext⟩ := except_bind_ok_iff.mp hnext
  obtain ⟨_, _, hnext⟩ := except_bind_ok_iff.mp hnext
  obtain rfl := except_pure_ok_iff.mp hnext
  exact ⟨nested, (adds_describeItems h).nested.subset (by simp), hnested⟩

/-! ## Messages of a file -/

theorem head?_of_atMostOne {α : Type} {values : List α} {stated : Option α} (h : atMostOne values = .ok stated) :
    stated = values.head? := by
  unfold atMostOne at h
  split at h
  · exact (Except.ok.inj h).symm
  · exact (Except.ok.inj h).symm
  · cases h

namespace SourceTree

def package (tree : SourceTree) : String := tree.packages.head?.getD ""

/-- The file declares a message of the full name with the items. -/
inductive Declares (tree : SourceTree) : String → List MessageItem → Prop
  | top {name : String} {items : List MessageItem} (h : (name, items) ∈ tree.messages) :
      tree.Declares (inScope tree.package name) items
  | nested {outer name : String} {items inner : List MessageItem} (h : tree.Declares outer items)
      (hinner : .message name inner ∈ items) : tree.Declares (inScope outer name) inner

theorem package_described {tree : SourceTree} {name : String} {file : FileDescriptor}
    (h : tree.described name = .ok file) : file.package = tree.package := by
  obtain ⟨_, parts, hparts, rfl⟩ := described_ok_iff.mp h
  unfold package
  rw [← head?_of_atMostOne hparts.package]
  rfl

/-- A message that is declared has its descriptor in the file, by its full name. -/
theorem exists_holds_of_declares {tree : SourceTree} {name fullName : String} {file : FileDescriptor}
    (h : tree.described name = .ok file) (hdeclared : tree.Declares fullName items) :
    ∃ message, file.Holds fullName message ∧
      describeItems (file.version = "proto3") { name := message.name } items = .ok message := by
  induction hdeclared with
  | top hitems =>
    rw [← package_described h]
    obtain ⟨_, parts, hparts, rfl⟩ := described_ok_iff.mp h
    obtain ⟨message, hmessage, hdescribed⟩ := exists_of_forall₂_left hparts.messages hitems
    unfold describeMessage at hdescribed
    obtain ⟨made, hmade, hdescribed⟩ := except_bind_ok_iff.mp hdescribed
    obtain ⟨_, _, hdescribed⟩ := except_bind_ok_iff.mp hdescribed
    obtain rfl := except_pure_ok_iff.mp hdescribed
    have hname := (adds_describeItems hmade).name
    simp only at hname hmade
    rw [← hname] at hmade ⊢
    exact ⟨message, FileDescriptor.holds_top hmessage, hmade⟩
  | nested _ hinner ih =>
    obtain ⟨outer, houter, hdescribed⟩ := ih
    obtain ⟨nested, hnested, hmade⟩ := exists_nested_of_describeItems hdescribed hinner
    have hname := (adds_describeItems hmade).name
    simp only at hname
    rw [← hname] at hmade ⊢
    exact ⟨nested, houter.nested hnested, hmade⟩

end SourceTree

end RpcClients.Proto
