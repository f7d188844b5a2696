import RpcClients.Proofs.OutlineReading

/-! # Reading what was written

The descriptor of a file is the one that its outline says, however the file is laid out, if no message of it
holds more levels than a descriptor can. -/

namespace RpcClients.Proto.Outline

open Schema

/-! ## Fields -/

theorem described_type (type : FieldType) : type.decl.described = (type.code, type.name) := by
  cases type with
  | scalar type => cases type <;> rfl
  | named reference unscalar =>
    obtain ⟨absolute, path⟩ := reference
    cases absolute with
    | true => rfl
    | false =>
      have hname : Scalar.ofName? path.text = none := by simpa using unscalar
      simp [FieldType.decl, Reference.decl, TypeRef.described, hname, FieldType.code, FieldType.name, TypeRef.text,
        Reference.text]

theorem requireInt32_ok {number : Int} (h : minInt32 ≤ number ∧ number ≤ maxInt32) : requireInt32 number = .ok () := by
  rw [requireInt32, if_pos h]

theorem requireInt32_fieldNumber (number : FieldNumber) : requireInt32 number.value = .ok () := by
  refine requireInt32_ok ⟨?_, number.small⟩
  simp only [minInt32]
  omega

theorem described_field {proto3 : Bool} (field : Field) {label : Option Label}
    (h : proto3 = true → label ≠ some .required) :
    (field.decl label).described proto3 = .ok (labelled label proto3 field.descriptor) := by
  unfold FieldDecl.described
  refine except_bind_ok_iff.mpr ⟨(), requireInt32_fieldNumber field.number, ?_⟩
  rw [if_neg]
  · simp only [Field.decl, described_type]
    rfl
  · rw [Bool.and_eq_true, decide_eq_true_eq]
    exact fun hrequired => h hrequired.2 hrequired.1

theorem described_unlabelled (proto3 : Bool) (field : Field) :
    (field.decl none).described proto3 = .ok field.descriptor :=
  described_field field fun _ => nofun

theorem described_oneofFields (proto3 : Bool) (fields : List Field) :
    (fields.map (·.decl none)).mapM (FieldDecl.described proto3) = .ok (fields.map Field.descriptor) := by
  rw [except_mapM_ok_iff, List.forall₂_map_left_iff, List.forall₂_map_right_iff]
  exact List.forall₂_same.mpr fun field _ => described_unlabelled proto3 field

theorem mapKey?_name (key : MapKey) : mapKey? key.type.name = some key.type := by
  obtain ⟨type, legal⟩ := key
  have hname : Scalar.ofName? type.name = some type := by cases type <;> rfl
  rw [mapKey?, hname, Option.filter_some, if_pos]
  simpa using legal

theorem described_entry (proto3 : Bool) (map : MapField) : map.decl.entry proto3 = .ok map.entry := by
  unfold MapDecl.entry
  rw [show mapKey? map.decl.key = some map.key.type from mapKey?_name map.key]
  refine except_bind_ok_iff.mpr ⟨_, described_unlabelled proto3 map.keyField, ?_⟩
  exact except_bind_ok_iff.mpr ⟨_, described_unlabelled proto3 map.valueField, rfl⟩

theorem described_map (map : MapField) : map.decl.described map.entryName = .ok map.descriptor := by
  unfold MapDecl.described
  exact except_bind_ok_iff.mpr ⟨(), requireInt32_fieldNumber map.number, rfl⟩

theorem described_enum (enum : Enum) : enum.decl.described = .ok enum.descriptor := by
  have hvalues (values : List (Identifier × EnumNumber)) :
      (values.map fun value => (value.1.text, value.2.value)).forM (fun value => requireInt32 value.2) = .ok () := by
    induction values with
    | nil => rfl
    | cons value values ih =>
      exact except_bind_ok_iff.mpr ⟨(), requireInt32_ok value.2.small, ih⟩
  unfold EnumDecl.described
  exact except_bind_ok_iff.mpr ⟨(), hvalues enum.values, rfl⟩

/-! ## Messages -/

def extended (proto3 : Bool) (message : MessageDescriptor) (items : List Item) : MessageDescriptor :=
  { message with
    fields := message.fields ++ fields proto3 message.oneofs.length items
    nested := message.nested ++ nested proto3 items
    enums := message.enums ++ items.flatMap Item.enums
    oneofs := message.oneofs ++ items.flatMap Item.oneofs }

theorem extended_nil (proto3 : Bool) (message : MessageDescriptor) : extended proto3 message [] = message := by
  cases message
  simp [extended, fields, nested]

theorem extended_cons (proto3 : Bool) (message : MessageDescriptor) (item : Item) (items : List Item) :
    extended proto3 (extended proto3 message [item]) items = extended proto3 message (item :: items) := by
  simp [extended, fields, nested]

theorem extended_new (proto3 : Bool) (name : Identifier) (items : List Item) :
    extended proto3 { name := name.text } items = message proto3 name items := by
  simp [extended, message]

theorem requireLevels_ok {message : MessageDescriptor} (h : message.levels ≤ Wire.maxDepth) :
    message.requireLevels = .ok () := by
  rw [MessageDescriptor.requireLevels, if_pos h]

mutual

theorem describeItem_decl {proto3 : Bool} (item : Item) (message : MessageDescriptor)
    (hrequired : proto3 = true → item.hasRequired = false)
    (hlevels : levelsWith (item.nested proto3) ≤ Wire.maxDepth + 1) :
    describeItem proto3 message item.decl = .ok (extended proto3 message [item]) := by
  cases item with
  | field label field =>
    have hlabel : proto3 = true → label ≠ some .required := fun hproto3 => by
        simpa [Item.hasRequired] using hrequired hproto3
    refine except_bind_ok_iff.mpr ⟨_, described_field field hlabel, ?_⟩
    simp [extended, fields, nested, Item.fields, Item.nested, Item.enums, Item.oneofs, pure, Except.pure]
  | map map =>
    refine except_bind_ok_iff.mpr ⟨_, described_entry proto3 map, ?_⟩
    refine except_bind_ok_iff.mpr ⟨_, described_map map, ?_⟩
    simp [extended, fields, nested, Item.fields, Item.nested, Item.enums, Item.oneofs, pure, Except.pure]
  | oneof name fields =>
    refine except_bind_ok_iff.mpr ⟨_, described_oneofFields proto3 fields, ?_⟩
    simp [extended, Outline.fields, nested, Item.fields, Item.nested, Item.enums, Item.oneofs, pure, Except.pure]
  | message name items =>
    have hinner := levelsWith_nested_le proto3 name items
    have hmessage : (Outline.message proto3 name items).levels ≤ Wire.maxDepth := by
      rw [nested_message, levelsWith, levelsWith] at hlevels
      omega
    refine except_bind_ok_iff.mpr ⟨_, describeItems_decls items { name := name.text } hrequired (by omega), ?_⟩
    rw [extended_new]
    refine except_bind_ok_iff.mpr ⟨(), requireLevels_ok hmessage, ?_⟩
    simp [extended, fields, nested, Item.fields, nested_message, Item.enums, Item.oneofs, pure, Except.pure]
  | enum enum =>
    refine except_bind_ok_iff.mpr ⟨_, described_enum enum, ?_⟩
    simp [extended, fields, nested, Item.fields, Item.nested, Item.enums, Item.oneofs, pure, Except.pure]

theorem describeItems_decls {proto3 : Bool} (items : List Item) (message : MessageDescriptor)
    (hrequired : proto3 = true → anyRequired items = false)
    (hlevels : levelsWith (nested proto3 items) ≤ Wire.maxDepth + 1) :
    describeItems proto3 message (itemDecls items) = .ok (extended proto3 message items) := by
  cases items with
  | nil => rw [itemDecls, describeItems, extended_nil]
  | cons item items =>
    have hitem : proto3 = true → item.hasRequired = false ∧ anyRequired items = false :=
      fun hproto3 => by simpa [anyRequired] using hrequired hproto3
    rw [nested, levelsWith_append] at hlevels
    rw [itemDecls, describeItems, ← extended_cons]
    refine except_bind_ok_iff.mpr ⟨_, describeItem_decl item message (fun h => (hitem h).1) (by omega), ?_⟩
    exact describeItems_decls items _ (fun h => (hitem h).2) (by omega)

end

theorem describeMessage_decls {proto3 : Bool} (name : Identifier) (items : List Item)
    (hrequired : proto3 = true → anyRequired items = false)
    (hlevels : (message proto3 name items).levels ≤ Wire.maxDepth) :
    describeMessage proto3 name.text (itemDecls items) = .ok (message proto3 name items) := by
  have hinner := levelsWith_nested_le proto3 name items
  refine except_bind_ok_iff.mpr ⟨_, describeItems_decls items { name := name.text } hrequired (by omega), ?_⟩
  rw [extended_new]
  exact except_bind_ok_iff.mpr ⟨(), requireLevels_ok hlevels, rfl⟩

/-! ## Files -/

def tree (outline : Outline) : SourceTree where
  statements := outline.decls
  tokens := []
  comments := []
  fault := none

theorem filterMap_decls {β : Type} (outline : Outline) (select : Proto.Statement → Option β) :
    outline.tree.statements.filterMap select =
      outline.language.toList.filterMap (fun language => select (.version (Text.codes language.text.text))) ++
        outline.statements.filterMap fun statement => select statement.decl := by
  simp only [tree, decls, List.filterMap_append, List.filterMap_map, Function.comp_def]

theorem filterMap_tree {β γ : Type} (outline : Outline) {select : Proto.Statement → Option β}
    {select' : Outline.Statement → Option γ} {decl : γ → β} (hversion : ∀ name, select (.version name) = none)
    (hselect : ∀ statement : Outline.Statement, select statement.decl = (select' statement).map decl) :
    outline.tree.statements.filterMap select = (outline.statements.filterMap select').map decl := by
  rw [filterMap_decls, List.map_filterMap, List.filterMap_congr fun statement _ => hselect statement,
    List.filterMap_eq_nil_iff.mpr fun language _ => hversion _, List.nil_append]

theorem versions_tree (outline : Outline) :
    outline.tree.versions = outline.language.toList.map fun language => Text.codes language.text.text := by
  unfold SourceTree.versions
  rw [filterMap_decls]
  refine (congrArg (_ ++ ·) (List.filterMap_eq_nil_iff.mpr ?_)).trans ?_
  · rintro ⟨⟩ _ <;> rfl
  · cases outline.language <;> rfl

theorem packages_tree (outline : Outline) : outline.tree.packages = (packagesOf outline.statements).map Path.text :=
  outline.filterMap_tree (fun _ => rfl) (by rintro ⟨⟩ <;> rfl)

theorem imports_tree (outline : Outline) :
    outline.tree.imports = (importsOf outline.statements).map fun file => (file.1, Text.codes file.2.text) :=
  outline.filterMap_tree (fun _ => rfl) (by rintro ⟨⟩ <;> rfl)

theorem goPackages_tree (outline : Outline) :
    outline.tree.goPackages = (goPackagesOf outline.statements).map fun value => Text.codes value.text :=
  outline.filterMap_tree (fun _ => rfl) (by rintro ⟨⟩ <;> rfl)

theorem described_service (service : Service) : service.decl.described = service.descriptor := by
  unfold ServiceDecl.described Service.decl Service.descriptor
  rw [List.map_map]
  rfl

theorem messages_tree (outline : Outline) :
    outline.tree.messages = (messagesOf outline.statements).map fun decl => (decl.1.text, itemDecls decl.2) :=
  outline.filterMap_tree (fun _ => rfl) (by rintro ⟨⟩ <;> rfl)

theorem enums_tree (outline : Outline) : outline.tree.enums = (enumsOf outline.statements).map Enum.decl :=
  outline.filterMap_tree (fun _ => rfl) (by rintro ⟨⟩ <;> rfl)

theorem services_tree (outline : Outline) : outline.tree.services = (servicesOf outline.statements).map Service.decl :=
  outline.filterMap_tree (fun _ => rfl) (by rintro ⟨⟩ <;> rfl)

theorem encodable_codes (text : String) : encodable (Text.codes text) = .ok text := by
  rw [encodable, Text.codes, ofCodes?_toNat, String.ofList_toList]

theorem languageOf?_codes (language : Language) :
    languageOf? (Text.codes language.text.text) = some language.text.text := by
  rw [languageOf?, Text.codes, ofCodes?_toNat, String.ofList_toList]
  cases language <;> rfl

theorem language_tree (outline : Outline) (name : String) :
    outline.tree.language name = .ok (outline.language.getD .proto2).text.text := by
  unfold SourceTree.language
  rw [versions_tree]
  cases outline.language with
  | none => rfl
  | some language =>
    refine except_bind_ok_iff.mpr ⟨_, rfl, ?_⟩
    simp only [languageOf?_codes]
    rfl

theorem importIndexes_eq (kind : ImportKind) (imports : List (ImportKind × List Nat)) :
    importIndexes kind imports = indexes kind 0 (imports.map (·.1)) := by
  have hfrom (index : Nat) : (imports.zipIdx index).filterMap
      (fun file => if file.1.1 = kind then some (file.2 : Int) else none) = indexes kind index (imports.map (·.1)) := by
    induction imports generalizing index with
    | nil => rfl
    | cons file imports ih =>
      rw [List.zipIdx_cons, List.map_cons, indexes, ← ih]
      by_cases hkind : file.1 = kind
      · simp [hkind]
      · simp [hkind]
  exact hfrom 0

theorem proto3_iff (outline : Outline) :
    (outline.language.getD .proto2).text.text = "proto3" ↔ outline.proto3 = true := by
  unfold proto3
  rw [decide_eq_true_eq]
  cases outline.language with
  | none => decide
  | some language => cases language <;> decide

theorem atMostOne_ok {α : Type} {values : List α} (h : values.length ≤ 1) : atMostOne values = .ok values.head? := by
  rcases values with _ | ⟨value, _ | ⟨other, rest⟩⟩
  · rfl
  · rfl
  · simp at h

theorem serviceLocations_nil (service : ServiceDecl × Nat) : serviceLocations [] service = [] := by
  simp [serviceLocations, location?, leadingComments?, commentEnding?]

theorem locations_eq_nil {tree : SourceTree} (hcomments : tree.comments = []) {name : String} {file : FileDescriptor}
    (h : tree.described name = .ok file) : file.locations = [] := by
  obtain ⟨_, parts, _, rfl⟩ := SourceTree.described_ok_iff.mp h
  rw [SourceTree.assembled, hcomments]
  exact List.flatMap_eq_nil_iff.mpr fun service _ => serviceLocations_nil service

def parts (outline : Outline) : SourceTree.Parts where
  version := (outline.language.getD .proto2).text.text
  package := (packagesOf outline.statements).head?.map Path.text
  dependencies := (importsOf outline.statements).map (·.2.text)
  goPackages := (goPackagesOf outline.statements).map (·.text)
  messages := outline.messages
  enums := (enumsOf outline.statements).map Enum.descriptor

theorem hasParts_tree (outline : Outline) (hlevels : ∀ message ∈ outline.messages, message.levels ≤ Wire.maxDepth)
    (name : String) : outline.tree.HasParts name outline.parts where
  version := outline.language_tree name
  package := by
    rw [packages_tree, atMostOne_ok (by simpa using outline.onePackage), List.head?_map]
    rfl
  dependencies := by
    rw [imports_tree, List.forall₂_map_left_iff]
    refine List.forall₂_map_right_iff.mpr (List.forall₂_same.mpr fun file _ => encodable_codes _)
  goPackages := by
    rw [goPackages_tree, List.forall₂_map_left_iff]
    refine List.forall₂_map_right_iff.mpr (List.forall₂_same.mpr fun value _ => encodable_codes _)
  messages := by
    have hproto3 : decide (outline.parts.version = "proto3") = outline.proto3 := by
      rw [Bool.eq_iff_iff, decide_eq_true_eq]
      exact outline.proto3_iff
    rw [hproto3, messages_tree, List.forall₂_map_left_iff]
    refine List.forall₂_map_right_iff.mpr (List.forall₂_same.mpr fun decl hdecl => ?_)
    refine describeMessage_decls decl.1 decl.2 ?_ (hlevels _ (List.mem_map_of_mem hdecl))
    intro hlanguage
    have hall := outline.unrequired (by simpa [proto3] using hlanguage)
    simpa using List.all_eq_true.mp hall decl hdecl
  enums := by
    rw [enums_tree, List.forall₂_map_left_iff]
    exact List.forall₂_map_right_iff.mpr (List.forall₂_same.mpr fun enum _ => described_enum enum)

theorem described_tree (outline : Outline) (hlevels : ∀ message ∈ outline.messages, message.levels ≤ Wire.maxDepth)
    (name : String) : outline.tree.described name = .ok (outline.descriptor name) := by
  have hparts := outline.hasParts_tree hlevels name
  have hdescribed := SourceTree.described_ok_iff.mpr ⟨rfl, outline.parts, hparts, rfl⟩
  have hlocations := locations_eq_nil rfl hdescribed
  have hservices : outline.tree.services.map ServiceDecl.described =
      (servicesOf outline.statements).map Service.descriptor := by
    rw [services_tree, List.map_map]
    exact List.map_congr_left fun service _ => described_service service
  refine SourceTree.described_ok_iff.mpr ⟨rfl, outline.parts, hparts, ?_⟩
  have himports (kind : ImportKind) : importIndexes kind outline.tree.imports =
      indexes kind 0 ((importsOf outline.statements).map (·.1)) := by
    rw [importIndexes_eq, imports_tree, List.map_map]
    rfl
  simp only [SourceTree.assembled] at hlocations
  simp only [SourceTree.assembled, descriptor, hlocations, hservices, himports, parts, List.getLast?_map]

theorem decls_unplaced (outline : Outline) : outline.decls.map Proto.Statement.unplaced = outline.decls := by
  have hservice (service : Service) : service.decl.unplaced = service.decl := by
    simp [ServiceDecl.unplaced, Service.decl, Function.comp_def, RpcDecl.unplaced, Rpc.decl]
  have hstatement (statement : Outline.Statement) : statement.decl.unplaced = statement.decl := by
    cases statement with
    | service service => exact congrArg Proto.Statement.service (hservice service)
    | _ => rfl
  unfold decls
  rw [List.map_append, List.map_map, List.map_map]
  refine congrArg₂ (· ++ ·) (List.map_congr_left fun language _ => rfl) ?_
  exact List.map_congr_left fun statement _ => hstatement statement

/-! ## Levels -/

theorem levels_of_requireLevels {message : MessageDescriptor} (h : message.requireLevels = .ok ()) :
    message.levels ≤ Wire.maxDepth := by
  unfold MessageDescriptor.requireLevels at h
  split_ifs at h with hlevels
  exact hlevels

theorem levels_of_describeMessage {proto3 : Bool} {name : String} {items : List MessageItem}
    {message : MessageDescriptor}
    (h : describeMessage proto3 name items = .ok message) : message.levels ≤ Wire.maxDepth := by
  obtain ⟨described, _, h⟩ := except_bind_ok_iff.mp h
  obtain ⟨_, hlevels, h⟩ := except_bind_ok_iff.mp h
  rw [except_pure_ok_iff] at h
  exact h ▸ levels_of_requireLevels hlevels

/-- No message of a file that was read holds more levels than a descriptor can. -/
theorem levels_of_parse {text name : String} {file : FileDescriptor} (h : parse text name = .ok file) :
    ∀ message ∈ file.messages, message.levels ≤ Wire.maxDepth := by
  obtain ⟨tree, _, hdescribed⟩ := parse_ok_iff.mp h
  obtain ⟨_, parts, hparts, rfl⟩ := SourceTree.described_ok_iff.mp hdescribed
  intro message hmessage
  obtain ⟨decl, _, hdecl⟩ := exists_of_forall₂_right hparts.messages hmessage
  exact levels_of_describeMessage hdecl

/-- A file that is written as an outline says has the descriptor of the outline, if and only if no message
of it holds more levels than a descriptor can. -/
theorem parse_written_iff (outline : Outline) {text : String} (h : Written outline.lexemes text.toList)
    (name : String) :
    parse text name = .ok (outline.descriptor name) ↔ ∀ message ∈ outline.messages, message.levels ≤ Wire.maxDepth := by
  constructor
  · exact fun hparse => levels_of_parse hparse
  · intro hlevels
    obtain ⟨tree, htree, hstatements, hcomments, hfault⟩ := outline.ofText_written h
      fun message hmessage => Nat.lt_of_le_of_lt (hlevels message hmessage) (by decide)
    have hsame : outline.tree.statements.map Proto.Statement.unplaced = tree.statements.map Proto.Statement.unplaced :=
      outline.decls_unplaced.trans hstatements.symm
    obtain ⟨locations, hfile⟩ := SourceTree.described_unplaced hsame hfault (outline.described_tree hlevels name)
    obtain rfl : locations = [] := locations_eq_nil hcomments hfile
    exact parse_ok_iff.mpr ⟨tree, htree, hfile⟩

theorem written_print (outline : Outline) : Written outline.lexemes outline.print.toList := by
  rw [print, String.toList_ofList]
  exact written_printed outline.lexemes

/-- A file with every kind of statement and of item. -/
def catalogue : Outline where
  language := some .proto3
  statements :=
    [.package { first := { text := "shop" }, more := [{ text := "books" }] },
     .importFile .plain { text := "shop/money.proto" },
     .importFile .publicly { text := "shop/author.proto" },
     .importFile .weakly { text := "über.proto" },
     .goPackage { text := "shop/books;books" },
     .message { text := "Book" }
       [.field none ⟨.scalar .string, { text := "title" }, { value := 3 }⟩,
        .field (some .optional) ⟨.scalar .uint32, { text := "page_count" }, { value := 4 }⟩,
        .enum ⟨{ text := "Cover" }, [({ text := "SOFT" }, { value := 0 }),
          ({ text := "NONE" }, { value := -2147483648 })]⟩,
        .oneof { text := "owner" }
          [⟨.named { absolute := true, path := { first := { text := "shop" }, more := [{ text := "Author" }] } },
             { text := "author" }, { value := 5 }⟩,
           ⟨.scalar .string, { text := "library" }, { value := 6 }⟩],
        .map { key := { type := .string }, value := .named { path := { first := { text := "Edition" } } },
               name := { text := "by_country" }, number := { value := 2147483647 } },
        .message { text := "Edition" }
          [.message { text := "Print" } [], .oneof { text := "none" } [],
           .field (some .repeated) ⟨.named { path := { first := { text := "Print" } } }, { text := "prints" },
             { value := 3 }⟩]],
     .enum ⟨{ text := "Empty" }, []⟩,
     .service ⟨{ text := "Shelf" },
       [⟨{ text := "Add" }, { streaming := true, type := { path := { first := { text := "Book" } } } },
          { type := { absolute := true, path := { first := { text := "shop" }, more := [{ text := "Receipt" }] } } }⟩,
        ⟨{ text := "Watch" }, { type := { path := { first := { text := "Book" } } } },
          { streaming := true, type := { path := { first := { text := "Book" } } } }⟩]⟩]

theorem parse_written_iff_catalogue :
    parse catalogue.print "shop/book.proto" = .ok (catalogue.descriptor "shop/book.proto") :=
  (catalogue.parse_written_iff catalogue.written_print "shop/book.proto").mpr (by decide)

def nestedMessages : Nat → List Item
  | 0 => []
  | depth + 1 => [.message { text := "M" } (nestedMessages depth)]

theorem anyRequired_nestedMessages (depth : Nat) : anyRequired (nestedMessages depth) = false := by
  induction depth with
  | zero => rfl
  | succ depth ih => simp [nestedMessages, anyRequired, Item.hasRequired, ih]

theorem levelsWith_nestedMessages (proto3 : Bool) (depth : Nat) :
    levelsWith (nested proto3 (nestedMessages depth)) = depth := by
  induction depth with
  | zero => rfl
  | succ depth ih =>
    have hnone : fields proto3 0 (nestedMessages depth) = [] ∧ (nestedMessages depth).flatMap Item.enums = [] ∧
        (nestedMessages depth).flatMap Item.oneofs = [] := by
      cases depth <;> exact ⟨rfl, rfl, rfl⟩
    obtain ⟨hfields, henums, honeofs⟩ := hnone
    simp [nestedMessages, nested, nested_message, message, levelsWith, MessageDescriptor.levels, hfields, henums,
      honeofs, ih]

/-- A file with so many messages inside its message. -/
def tower (depth : Nat) : Outline where
  language := some .proto3
  statements := [.message { text := "M" } (nestedMessages depth)]
  onePackage := by simp [packagesOf]
  unrequired := by simp [messagesOf, anyRequired_nestedMessages]

/-- What the outline of a file says is not always read: here a message holds one level too many. -/
theorem tower_unread : parse (tower 101).print "tower.proto" ≠ .ok ((tower 101).descriptor "tower.proto") := by
  intro h
  have hmessage : message true { text := "M" } (nestedMessages 101) ∈ ((tower 101).descriptor "tower.proto").messages :=
    List.mem_singleton_self _
  have hlevels := levels_of_parse h _ hmessage
  have hnested := levelsWith_nested_le true { text := "M" } (nestedMessages 101)
  rw [levelsWith_nestedMessages] at hnested
  exact absurd (Nat.le_trans hnested hlevels) (by decide)

end RpcClients.Proto.Outline
