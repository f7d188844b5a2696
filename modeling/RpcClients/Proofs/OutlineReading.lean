import RpcClients.Proofs.LexemeReading

/-! # Reading outlines

At the lexemes of an outline the rules get through and find its declarations, one rule after the other from
names up to files. -/

namespace RpcClients.Proto

/-! ## The declarations of outlines -/

namespace Outline

def Reference.decl (reference : Reference) : TypeRef := ⟨reference.path.text, reference.absolute⟩

def FieldType.decl : FieldType → TypeRef
  | scalar type => ⟨type.name, false⟩
  | named reference _ => reference.decl

def Field.decl (field : Field) (label : Option Label) : FieldDecl where
  label := label
  type := field.type.decl
  name := field.name.text
  number := field.number.value

def MapField.decl (map : MapField) : MapDecl where
  key := map.key.type.name
  value := map.value.decl
  name := map.name.text
  number := map.number.value

def Enum.decl (enum : Enum) : EnumDecl where
  name := enum.name.text
  values := enum.values.map fun value => (value.1.text, value.2.value)

mutual

def Item.decl : Item → MessageItem
  | .field label field => .field (field.decl label)
  | .map map => .map map.decl
  | .oneof name fields => .oneof name.text (fields.map (·.decl none))
  | .message name items => .message name.text (itemDecls items)
  | .enum enum => .enum enum.decl

def itemDecls : List Item → List MessageItem
  | [] => []
  | item :: rest => item.decl :: itemDecls rest

end

def Rpc.decl (rpc : Rpc) : RpcDecl where
  name := rpc.name.text
  line := 0
  input := rpc.input.type.decl
  output := rpc.output.type.decl
  clientStreaming := rpc.input.streaming
  serverStreaming := rpc.output.streaming

def Service.decl (service : Service) : ServiceDecl where
  name := service.name.text
  line := 0
  rpcs := service.rpcs.map Rpc.decl

def Statement.decl : Outline.Statement → Proto.Statement
  | .package path => .package path.text
  | .importFile kind file => .importFile kind (Text.codes file.text)
  | .goPackage value => .goPackage (Text.codes value.text)
  | .message name items => .message name.text (itemDecls items)
  | .enum decl => .enum decl.decl
  | .service decl => .service decl.decl

def decls (outline : Outline) : List Proto.Statement :=
  (outline.language.toList.map fun language => .version (Text.codes language.text.text)) ++
    outline.statements.map Statement.decl

open RpcClients.Proto.Parser

variable {place : Place} {lexeme : Lexeme} {lexemes : List Lexeme} {kind : TokenKind}

/-! ## Names and types -/

theorem exists_fuel {fuel : Nat} (h : (lexeme :: lexemes).length ≤ fuel) :
    ∃ fuel', fuel = fuel' + 1 ∧ lexemes.length ≤ fuel' := by
  obtain ⟨fuel, rfl⟩ := Nat.exists_eq_succ_of_ne_zero (show fuel ≠ 0 by rintro rfl; simp at h)
  exact ⟨fuel, rfl, Nat.le_of_succ_le_succ h⟩

theorem exists_fuel_append {first : List Lexeme} {fuel : Nat} (hfirst : first ≠ [])
    (h : (first ++ lexemes).length ≤ fuel) : ∃ fuel', fuel = fuel' + 1 ∧ lexemes.length ≤ fuel' := by
  obtain ⟨lexeme, more, rfl⟩ := List.exists_cons_of_ne_nil hfirst
  obtain ⟨fuel, rfl, hless⟩ := exists_fuel h
  exact ⟨fuel, rfl, Nat.le_trans (by simp) hless⟩

theorem leads_dottedRest (names : List Identifier) (hreads : lexeme.ReadsAs .plain kind) (hkind : kind ≠ .mark '.')
    {fuel : Nat} (hfuel : (dottedLexemes names ++ lexeme :: lexemes).length ≤ fuel) :
    Leads .plain (dottedLexemes names ++ lexeme :: lexemes) (dottedRest fuel) (· = dotted names)
      .plain (lexeme :: lexemes) := by
  induction names generalizing fuel with
  | nil =>
    obtain ⟨fuel, rfl, _⟩ := exists_fuel hfuel
    unfold dottedRest
    refine leads_kind hreads ?_
    rw [if_neg hkind]
    exact leads_pure rfl
  | cons name names ih =>
    obtain ⟨fuel, rfl, hless⟩ := exists_fuel hfuel
    unfold dottedRest
    refine leads_kind (mark_readsAs '.' _ _) ?_
    rw [if_pos rfl]
    refine (leads_skip (mark_readsAs '.' _ _) _).andThen ?_
    refine (leads_takeName rfl name _).andThen ?_
    exact (ih (Nat.le_of_succ_le hless)).andThen (leads_pure rfl)

theorem readable_dotted (names : List Identifier) (hreads : lexeme.ReadsAs .plain kind) :
    Readable .plain (dottedLexemes names ++ lexeme :: lexemes) := by
  cases names with
  | nil => exact ⟨lexeme, lexemes, kind, rfl, hreads⟩
  | cons name names => exact ⟨_, _, _, rfl, mark_readsAs '.' (by decide) _⟩

theorem leads_dottedName (hplace : place.names = true) (path : Path) (hreads : lexeme.ReadsAs .plain kind)
    (hkind : kind ≠ .mark '.') :
    Leads place (path.lexemes ++ lexeme :: lexemes) dottedName (· = path.text) .plain (lexeme :: lexemes) := by
  unfold dottedName
  refine (leads_takeName hplace path.first _).andThen ?_
  refine (leads_remaining (readable_dotted path.more hreads)).bind fun fuel hfuel => ?_
  exact (leads_dottedRest path.more hreads hkind hfuel).andThen (leads_pure rfl)

theorem leads_reference (hplace : place.names = true) (reference : Reference) (hreads : lexeme.ReadsAs .plain kind)
    (hkind : kind ≠ .mark '.') :
    Leads place (reference.lexemes ++ lexeme :: lexemes) type (· = reference.decl) .plain (lexeme :: lexemes) := by
  obtain ⟨absolute, path⟩ := reference
  unfold type
  cases absolute with
  | true =>
    refine leads_kind (mark_readsAs '.' (by decide) _) ?_
    rw [if_pos rfl]
    refine (leads_skip (mark_readsAs '.' (by decide) _) _).andThen ?_
    exact (leads_dottedName rfl path hreads hkind).andThen (leads_pure rfl)
  | false =>
    refine leads_kind (path.first.readsAs hplace) ?_
    rw [if_neg (by decide)]
    exact (leads_dottedName hplace path hreads hkind).andThen (leads_pure rfl)

/-- The name of a scalar, as a reference. -/
def scalarReference (type : Scalar) : Reference := { path := { first := scalarName type } }

theorem FieldType.exists_reference (type : FieldType) :
    ∃ reference : Reference, type.lexemes = reference.lexemes ∧ type.decl = reference.decl := by
  cases type with
  | scalar type =>
    refine ⟨scalarReference type, rfl, ?_⟩
    simp [FieldType.decl, Reference.decl, scalarReference, Path.text, dotted, scalarName]
  | named reference _ => exact ⟨reference, rfl, rfl⟩

theorem leads_type (hplace : place.names = true) (fieldType : FieldType) (hreads : lexeme.ReadsAs .plain kind)
    (hkind : kind ≠ .mark '.') :
    Leads place (fieldType.lexemes ++ lexeme :: lexemes) type (· = fieldType.decl) .plain (lexeme :: lexemes) := by
  obtain ⟨reference, hlexemes, hdecl⟩ := fieldType.exists_reference
  rw [hlexemes, hdecl]
  exact leads_reference hplace reference hreads hkind

theorem Reference.starts (reference : Reference) (hplace : place.names = true) :
    ∃ lexeme lexemes kind, reference.lexemes = lexeme :: lexemes ∧ lexeme.ReadsAs place kind ∧
      (kind = .name ∨ kind = .mark '.') := by
  obtain ⟨absolute, path⟩ := reference
  cases absolute with
  | true => exact ⟨_, _, _, rfl, mark_readsAs '.' (by decide) _, Or.inr rfl⟩
  | false => exact ⟨_, _, _, rfl, path.first.readsAs hplace, Or.inl rfl⟩

/-! ## Fields -/

theorem number_lt (number : FieldNumber) : number.value < 10 ^ 10 := by
  have := number.small
  simp only [maxInt32] at this
  omega

theorem Field.lexemes_ne_nil (field : Field) : field.lexemes ≠ [] := by simp [Field.lexemes]

theorem Field.readable (field : Field) (hplace : place.names = true) : Readable place field.lexemes := by
  obtain ⟨reference, hreference, _⟩ := field.type.exists_reference
  obtain ⟨lexeme, rest, kind, hlexemes, hreads, _⟩ := reference.starts hplace
  have htype : Readable place field.type.lexemes := ⟨lexeme, rest, kind, hreference.trans hlexemes, hreads⟩
  exact htype.append _

theorem leads_fieldOptions {known : ';' ∈ marks} :
    Leads .plain (.mark ';' known :: lexemes) fieldOptions (· = ()) .plain (.mark ';' known :: lexemes) := by
  unfold fieldOptions
  refine leads_kind (mark_readsAs ';' known _) ?_
  rw [if_neg (by decide)]
  exact leads_pure rfl

theorem leads_fieldRest (hplace : place.names = true) (field : Field) (label : Option Label) (place' : Place) :
    Leads place (field.lexemes ++ lexemes) (fieldRest label place') (· = field.decl label) place' lexemes := by
  rw [Field.lexemes, List.append_assoc]
  unfold fieldRest
  refine (leads_type hplace field.type (field.name.readsAs rfl) nofun).andThen ?_
  refine (leads_takeName rfl field.name _).andThen ?_
  refine (leads_takeMark _).andThen ?_
  refine (leads_integer (number_lt field.number) _).andThen ?_
  refine leads_fieldOptions.andThen ?_
  exact (leads_takeMark _).andThen (leads_pure rfl)

/-- The place has these keywords. -/
def Offers (place : Place) (keywords : List Keyword) : Prop :=
  ∀ keyword ∈ keywords, readToken place keyword.spelling.toList = (.keyword keyword, keyword.spelling.toList)

theorem Offers.readsAs {keywords : List Keyword} (h : Offers place keywords) (keyword : Keyword)
    (hkeyword : keyword ∈ keywords := by decide) : (Lexeme.keyword keyword).ReadsAs place (.keyword keyword) :=
  Keyword.readsAs (h keyword hkeyword)

theorem leads_kind_field {α : Type} {result : α → Prop} {place' : Place} {lexemes' : List Lexeme}
    (hplace : place.names = true) (field : Field) {rest : TokenKind → Parser α}
    (hname : Leads place (field.lexemes ++ lexemes) (rest .name) result place' lexemes')
    (hdot : Leads place (field.lexemes ++ lexemes) (rest (.mark '.')) result place' lexemes') :
    Leads place (field.lexemes ++ lexemes) (Parser.kind >>= rest) result place' lexemes' := by
  obtain ⟨reference, hreference, _⟩ := field.type.exists_reference
  obtain ⟨first, more, kind, hlexemes, hreads, hkind⟩ := reference.starts hplace
  rw [Field.lexemes, hreference, hlexemes] at hname hdot ⊢
  refine leads_kind hreads ?_
  rcases hkind with rfl | rfl
  · exact hname
  · exact hdot

theorem leads_field (hplace : place.names = true) (hoffers : Offers place Place.messageKeywords) (field : Field)
    (label : Option Label) :
    Leads place (labelLexemes label ++ field.lexemes ++ lexemes) Parser.field (· = field.decl label)
      .message lexemes := by
  unfold Parser.field
  cases label with
  | none =>
    have hfield := @leads_fieldRest place lexemes hplace field none .message
    exact leads_kind_field hplace field hfield hfield
  | some label =>
    cases label with
    | optional =>
      refine leads_kind (hoffers.readsAs .optional) ?_
      exact (leads_skip (hoffers.readsAs .optional) _).andThen (leads_fieldRest rfl field _ _)
    | required =>
      refine leads_kind (hoffers.readsAs .required) ?_
      exact (leads_skip (hoffers.readsAs .required) _).andThen (leads_fieldRest rfl field _ _)
    | repeated =>
      refine leads_kind (hoffers.readsAs .repeated) ?_
      exact (leads_skip (hoffers.readsAs .repeated) _).andThen (leads_fieldRest rfl field _ _)

theorem leads_mapRest (map : MapField) :
    Leads .plain (map.lexemes ++ lexemes) mapRest (· = map.decl) .message lexemes := by
  rw [MapField.lexemes, List.append_assoc, List.append_assoc]
  unfold mapRest
  refine (leads_takeMark _).andThen ?_
  refine (leads_takeName rfl (scalarName map.key.type) _).andThen ?_
  refine (leads_takeMark _).andThen ?_
  refine (leads_type rfl map.value (mark_readsAs '>' (by decide) _) (by decide)).andThen ?_
  refine (leads_takeMark _).andThen ?_
  refine (leads_takeName rfl map.name _).andThen ?_
  refine (leads_takeMark _).andThen ?_
  refine (leads_integer (number_lt map.number) _).andThen ?_
  refine leads_fieldOptions.andThen ?_
  exact (leads_takeMark _).andThen (leads_pure rfl)

theorem leads_oneofItems (fields : List Field) {fuel : Nat} {known : '\x7d' ∈ marks}
    (hfuel : (fields.flatMap Field.lexemes ++ .mark '\x7d' known :: lexemes).length ≤ fuel) :
    Leads .oneof (fields.flatMap Field.lexemes ++ .mark '\x7d' known :: lexemes) (oneofItems fuel)
      (· = fields.map (·.decl none)) .message lexemes := by
  induction fields generalizing fuel with
  | nil =>
    obtain ⟨fuel, rfl, _⟩ := exists_fuel hfuel
    unfold oneofItems
    refine leads_kind (mark_readsAs '\x7d' known _) ?_
    exact (leads_skip (mark_readsAs '\x7d' known _) _).andThen (leads_pure rfl)
  | cons field fields ih =>
    rw [List.flatMap_cons, List.append_assoc] at hfuel ⊢
    obtain ⟨fuel, rfl, hless⟩ := exists_fuel_append field.lexemes_ne_nil hfuel
    have hitem : Leads .oneof (field.lexemes ++ (fields.flatMap Field.lexemes ++ .mark '\x7d' known :: lexemes))
        (do let field ← fieldRest none .oneof; return field :: (← oneofItems fuel))
        (· = (field :: fields).map (·.decl none)) .message lexemes := by
      refine (leads_fieldRest rfl field none .oneof).andThen ?_
      exact (ih hless).andThen (leads_pure rfl)
    unfold oneofItems
    exact leads_kind_field rfl field hitem hitem

theorem leads_oneofRest (name : Identifier) (fields : List Field) {known : '\x7d' ∈ marks} :
    Leads .plain ([.name name, .mark '\x7b'] ++ (fields.flatMap Field.lexemes ++
      .mark '\x7d' known :: lexemes)) oneofRest
      (· = (Item.oneof name fields).decl) .message lexemes := by
  unfold oneofRest
  refine (leads_takeName rfl name _).andThen ?_
  refine (leads_takeMark _).andThen ?_
  refine (leads_remaining ?_).bind fun fuel hfuel => ?_
  · cases fields with
    | nil => exact readable_mark
    | cons field fields =>
      rw [List.flatMap_cons, List.append_assoc]
      exact (field.readable rfl).append _
  · refine (leads_oneofItems fields hfuel).andThen (leads_pure ?_)
    rfl

/-! ## Enums -/

theorem leads_enumValue (value : Identifier × EnumNumber) :
    Leads .enum (valueLexemes value ++ lexemes) enumValue (· = (value.1.text, value.2.value)) .enum lexemes := by
  obtain ⟨name, number⟩ := value
  unfold enumValue
  rw [valueLexemes, List.append_assoc, List.append_assoc]
  refine (leads_takeName rfl name _).andThen ?_
  refine (leads_takeMark _).andThen ?_
  have hsmall : number.value.natAbs < 10 ^ 10 := by
    have := number.small
    simp only [minInt32, maxInt32] at this
    omega
  by_cases hnegative : number.value < 0
  · rw [EnumNumber.lexemes, if_pos hnegative]
    refine leads_kind (mark_readsAs '-' (by decide) _) ?_
    simp only [if_true]
    refine (leads_skip (mark_readsAs '-' (by decide) _) _).andThen ?_
    refine (leads_integer hsmall _).andThen ?_
    refine leads_fieldOptions.andThen ?_
    refine (leads_takeMark _).andThen (leads_pure ?_)
    simp only [Prod.mk.injEq, true_and]
    omega
  · rw [EnumNumber.lexemes, if_neg hnegative]
    refine leads_kind (number_readsAs number.value.natAbs _) ?_
    simp only [reduceCtorEq, if_false]
    refine (leads_integer hsmall _).andThen ?_
    refine leads_fieldOptions.andThen ?_
    refine (leads_takeMark _).andThen (leads_pure ?_)
    simp only [Prod.mk.injEq, true_and]
    omega

theorem leads_enumItems (values : List (Identifier × EnumNumber)) {fuel : Nat} {known : '\x7d' ∈ marks}
    (hfuel : (values.flatMap valueLexemes ++ .mark '\x7d' known :: lexemes).length ≤ fuel) :
    Leads .enum (values.flatMap valueLexemes ++ .mark '\x7d' known :: lexemes) (enumItems fuel)
      (· = values.map fun value => (value.1.text, value.2.value)) .afterBlock lexemes := by
  induction values generalizing fuel with
  | nil =>
    obtain ⟨fuel, rfl, _⟩ := exists_fuel hfuel
    unfold enumItems
    refine leads_kind (mark_readsAs '\x7d' known _) ?_
    exact (leads_skip (mark_readsAs '\x7d' known _) _).andThen (leads_pure rfl)
  | cons value values ih =>
    rw [List.flatMap_cons, List.append_assoc] at hfuel ⊢
    obtain ⟨fuel, rfl, hless⟩ := exists_fuel_append (by simp [valueLexemes]) hfuel
    unfold enumItems
    refine leads_kind (value.1.readsAs rfl) ?_
    refine (leads_enumValue value).andThen ?_
    exact (ih hless).andThen (leads_pure rfl)

theorem leads_enumRest (enum : Enum) :
    Leads .plain (enum.lexemes ++ lexemes) enumRest (· = enum.decl) .afterBlock lexemes := by
  rw [Enum.lexemes, List.append_assoc, List.append_assoc]
  unfold enumRest
  refine (leads_takeName rfl enum.name _).andThen ?_
  refine (leads_takeMark _).andThen ?_
  refine (leads_remaining ?_).bind fun fuel hfuel => ?_
  · cases enum.values with
    | nil => exact readable_mark
    | cons value values => exact ⟨_, _, _, rfl, value.1.readsAs rfl⟩
  · exact (leads_enumItems enum.values hfuel).andThen (leads_pure rfl)

/-! ## Messages -/

theorem Item.lexemes_ne_nil (item : Item) : item.lexemes ≠ [] := by
  cases item with
  | field label field => simp [Item.lexemes, field.lexemes_ne_nil]
  | map => simp [Item.lexemes]
  | oneof => simp [Item.lexemes]
  | message => simp [Item.lexemes]
  | enum => simp [Item.lexemes]

theorem nested_message (proto3 : Bool) (name : Identifier) (items : List Item) :
    (Item.message name items).nested proto3 = [message proto3 name items] := by
  rw [Item.nested, message]

open Schema in
theorem levelsWith_nested_le (proto3 : Bool) (name : Identifier) (items : List Item) :
    levelsWith (nested proto3 items) ≤ (message proto3 name items).levels := by
  simp only [message, MessageDescriptor.levels]
  omega

theorem offers_message : Offers .message Place.messageKeywords := by
  unfold Offers
  decide

theorem offers_afterBlock : Offers .afterBlock Place.messageKeywords := by
  unfold Offers
  decide

open Schema in
theorem leads_messageItems (proto3 : Bool) (items : List Item) (hplace : place.names = true)
    (hoffers : Offers place Place.messageKeywords) {depth fuel : Nat}
    (hdepth : depth + levelsWith (nested proto3 items) ≤ maxNesting) {known : '\x7d' ∈ marks}
    (hfuel : (itemLexemes items ++ .mark '\x7d' known :: lexemes).length ≤ fuel) :
    Leads place (itemLexemes items ++ .mark '\x7d' known :: lexemes) (messageItems depth fuel) (· = itemDecls items)
      .afterBlock lexemes := by
  -- the rule goes down by its fuel, also where it goes into a message
  induction fuel generalizing place lexemes depth items with
  | zero => simp at hfuel
  | succ fuel ih =>
    unfold messageItems
    cases items with
    | nil =>
      refine leads_kind (mark_readsAs '\x7d' known _) ?_
      exact (leads_skip (mark_readsAs '\x7d' known _) _).andThen (leads_pure rfl)
    | cons item items =>
      rw [itemLexemes, List.append_assoc] at hfuel ⊢
      rw [nested, levelsWith_append] at hdepth
      obtain ⟨_, ⟨⟩, hless⟩ := exists_fuel_append item.lexemes_ne_nil hfuel
      have hitems : depth + levelsWith (nested proto3 items) ≤ maxNesting := by omega
      cases item with
      | field label field =>
        have hitem : Leads place (labelLexemes label ++ field.lexemes ++
            (itemLexemes items ++ .mark '\x7d' known :: lexemes))
            (do let field ← Parser.field; return .field field :: (← messageItems depth fuel))
            (· = itemDecls (.field label field :: items)) .afterBlock lexemes := by
          refine (leads_field hplace hoffers field label).andThen ?_
          exact (ih items rfl offers_message hitems hless).andThen (leads_pure rfl)
        rw [Item.lexemes]
        cases label with
        | none => exact leads_kind_field hplace field hitem hitem
        | some label =>
          cases label with
          | optional => exact leads_kind (hoffers.readsAs .optional) hitem
          | required => exact leads_kind (hoffers.readsAs .required) hitem
          | repeated => exact leads_kind (hoffers.readsAs .repeated) hitem
      | map map =>
        refine leads_kind (hoffers.readsAs .map) ?_
        refine (leads_skip (hoffers.readsAs .map) _).andThen ?_
        refine (leads_mapRest map).andThen ?_
        exact (ih items rfl offers_message hitems hless).andThen (leads_pure rfl)
      | oneof name fields =>
        rw [Item.lexemes, List.append_assoc, List.append_assoc]
        refine leads_kind (hoffers.readsAs .oneof) ?_
        refine (leads_skip (hoffers.readsAs .oneof) _).andThen ?_
        refine (leads_oneofRest name fields).andThen ?_
        exact (ih items rfl offers_message hitems hless).andThen (leads_pure rfl)
      | message name inner =>
        have hinner := levelsWith_nested_le proto3 name inner
        rw [nested_message, levelsWith] at hdepth
        have hwithin : (itemLexemes inner ++ .mark '\x7d' known :: (itemLexemes items ++
            .mark '\x7d' known :: lexemes)).length ≤
            fuel := by
          simp only [Item.lexemes, List.length_append, List.length_cons] at hfuel ⊢
          omega
        rw [Item.lexemes, List.append_assoc, List.append_assoc]
        refine leads_kind (hoffers.readsAs .message) ?_
        refine (leads_skip (hoffers.readsAs .message) _).andThen ?_
        refine (leads_takeName rfl name _).andThen ?_
        refine (leads_takeMark _).andThen ?_
        refine (leads_enter (by omega)).andThen ?_
        refine (ih inner rfl offers_message (by omega) hwithin).andThen ?_
        exact (ih items rfl offers_afterBlock hitems hless).andThen (leads_pure rfl)
      | enum enum =>
        refine leads_kind (hoffers.readsAs .enum) ?_
        refine (leads_skip (hoffers.readsAs .enum) _).andThen ?_
        refine (leads_enumRest enum).andThen ?_
        exact (ih items rfl offers_afterBlock hitems hless).andThen (leads_pure rfl)

theorem Item.readable (item : Item) (hplace : place.names = true) (hoffers : Offers place Place.messageKeywords) :
    Readable place item.lexemes := by
  cases item with
  | field label field =>
    cases label with
    | none => exact field.readable hplace
    | some label =>
      cases label with
      | optional => exact ⟨_, _, _, rfl, hoffers.readsAs .optional⟩
      | required => exact ⟨_, _, _, rfl, hoffers.readsAs .required⟩
      | repeated => exact ⟨_, _, _, rfl, hoffers.readsAs .repeated⟩
  | map => exact ⟨_, _, _, rfl, hoffers.readsAs .map⟩
  | oneof => exact ⟨_, _, _, rfl, hoffers.readsAs .oneof⟩
  | message => exact ⟨_, _, _, rfl, hoffers.readsAs .message⟩
  | enum => exact ⟨_, _, _, rfl, hoffers.readsAs .enum⟩

/-! ## Services -/

theorem leads_streamable (payload : Payload) (place' : Place) :
    Leads place (payload.lexemes ++ lexemes) (streamable place') (· = (payload.streaming, payload.type.decl))
      place' lexemes := by
  obtain ⟨streaming, reference⟩ := payload
  have htype (place : Place) (hplace : place.names = true) : Leads place (reference.lexemes ++ .mark ')' :: lexemes)
      (do let type ← type; takeMark ')' place'; return (streaming, type)) (· = (streaming, reference.decl))
      place' lexemes := by
    refine (leads_reference hplace reference (mark_readsAs ')' (by decide) _) (by decide)).andThen ?_
    exact (leads_takeMark _).andThen (leads_pure rfl)
  unfold streamable
  rw [Payload.lexemes, List.cons_append, List.append_assoc, List.append_assoc]
  refine (leads_takeMark _).andThen ?_
  cases streaming with
  | true =>
    have hstream : (Lexeme.keyword .stream).ReadsAs .streamed (.keyword .stream) := Keyword.readsAs (by decide)
    refine leads_kind hstream ?_
    exact (leads_skip hstream _).andThen (htype .plain rfl)
  | false =>
    have hwhole := htype .streamed rfl
    obtain ⟨first, more, kind, hlexemes, hreads, hkind⟩ := reference.starts (show Place.streamed.names = true from rfl)
    rw [hlexemes] at hwhole ⊢
    refine leads_kind hreads ?_
    rcases hkind with rfl | rfl
    · exact hwhole
    · exact hwhole

theorem leads_rpcRest (rpc : Rpc) :
    Leads .plain (rpc.lexemes ++ lexemes) rpcRest (fun decl => decl.unplaced = rpc.decl) .service lexemes := by
  rw [Rpc.lexemes, List.cons_append, List.append_assoc, List.cons_append, List.append_assoc]
  have hreturns : (Lexeme.keyword .returns).ReadsAs .returns (.keyword .returns) := Keyword.readsAs (by decide)
  unfold rpcRest
  refine (leads_take (rpc.name.readsAs rfl) _).bind fun token htoken => ?_
  have hname : String.ofList token.text = rpc.name.text := by
    rw [show token.text = rpc.name.text.toList from htoken, String.ofList_toList]
  refine (leads_streamable rpc.input _).andThen ?_
  refine (leads_take hreturns _).discard.andThen ?_
  refine (leads_streamable rpc.output _).andThen ?_
  refine leads_kind (mark_readsAs ';' (by decide) _) ?_
  rw [if_neg (by decide)]
  refine (leads_takeMark _).andThen (leads_pure ?_)
  rw [hname]
  rfl

theorem leads_serviceItems (rpcs : List Rpc) {fuel : Nat} {known : '\x7d' ∈ marks}
    (hfuel : ((rpcs.flatMap fun rpc => .keyword .rpc :: rpc.lexemes) ++ .mark '\x7d' known :: lexemes).length ≤ fuel) :
    Leads .service ((rpcs.flatMap fun rpc => .keyword .rpc :: rpc.lexemes) ++ .mark '\x7d' known :: lexemes)
      (serviceItems fuel) (fun decls => decls.map RpcDecl.unplaced = rpcs.map Rpc.decl) .file lexemes := by
  induction rpcs generalizing fuel with
  | nil =>
    obtain ⟨fuel, rfl, _⟩ := exists_fuel hfuel
    unfold serviceItems
    refine leads_kind (mark_readsAs '\x7d' known _) ?_
    exact (leads_skip (mark_readsAs '\x7d' known _) _).andThen (leads_pure rfl)
  | cons rpc rpcs ih =>
    have hrpc : (Lexeme.keyword .rpc).ReadsAs .service (.keyword .rpc) := Keyword.readsAs (by decide)
    rw [List.flatMap_cons, List.append_assoc] at hfuel ⊢
    obtain ⟨fuel, rfl, hless⟩ := exists_fuel_append (by simp) hfuel
    unfold serviceItems
    refine leads_kind hrpc ?_
    refine (leads_skip hrpc _).andThen ?_
    refine (leads_rpcRest rpc).bind fun decl hdecl => ?_
    refine (ih hless).bind fun decls hdecls => leads_pure ?_
    rw [List.map_cons, List.map_cons, hdecl, hdecls]

theorem leads_serviceRest (service : Service) :
    Leads .plain (service.lexemes ++ lexemes) serviceRest (fun decl => decl.unplaced = service.decl) .file lexemes := by
  rw [Service.lexemes, List.append_assoc, List.append_assoc]
  unfold serviceRest
  refine (leads_take (service.name.readsAs rfl) _).bind fun token htoken => ?_
  have hname : String.ofList token.text = service.name.text := by
    rw [show token.text = service.name.text.toList from htoken, String.ofList_toList]
  refine (leads_takeMark _).andThen ?_
  refine (leads_remaining ?_).bind fun fuel hfuel => ?_
  · cases service.rpcs with
    | nil => exact readable_mark
    | cons rpc rpcs => exact ⟨_, _, _, rfl, Keyword.readsAs (by decide)⟩
  · refine (leads_serviceItems service.rpcs hfuel).bind fun decls hdecls => leads_pure ?_
    simp only [ServiceDecl.unplaced, hname, hdecls, Service.decl]

/-! ## Files -/

theorem leads_importRest (kind : ImportKind) (file : PlainText) {known : ';' ∈ marks} :
    Leads .importKind ((importKeywords kind).map .keyword ++ .quoted file :: .mark ';' known :: lexemes) importRest
      (· = .importFile kind (Text.codes file.text)) .file lexemes := by
  have hpath (place : Place) : Leads place (.quoted file :: .mark ';' known :: lexemes)
      (do let path ← quotedText; takeMark ';' .file; return Proto.Statement.importFile kind path)
      (· = .importFile kind (Text.codes file.text)) .file lexemes := by
    refine (leads_quotedText file _).andThen ?_
    exact (leads_takeMark _).andThen (leads_pure rfl)
  unfold importRest
  cases kind with
  | plain => exact leads_kind (quoted_readsAs file _) (hpath _)
  | publicly =>
    have hpublic : (Lexeme.keyword .publicImport).ReadsAs .importKind (.keyword .publicImport) :=
      Keyword.readsAs (by decide)
    exact leads_kind hpublic ((leads_skip hpublic _).andThen (hpath _))
  | weakly =>
    have hweak : (Lexeme.keyword .weakImport).ReadsAs .importKind (.keyword .weakImport) := Keyword.readsAs (by decide)
    exact leads_kind hweak ((leads_skip hweak _).andThen (hpath _))

theorem leads_optionName (name : Identifier) {known : '=' ∈ marks} :
    Leads .plain (.name name :: .mark '=' known :: lexemes) optionName (· = name.text)
      .plain (.mark '=' known :: lexemes) := by
  have hpart : Leads .plain (.name name :: .mark '=' known :: lexemes) optionPart (· = name.text)
      .plain (.mark '=' known :: lexemes) := by
    unfold optionPart
    refine leads_kind (name.readsAs rfl) ?_
    rw [if_neg (by decide)]
    exact leads_takeName rfl name _
  unfold optionName
  refine (leads_remaining ⟨_, _, _, rfl, name.readsAs rfl⟩).bind fun fuel hfuel => ?_
  obtain ⟨fuel, rfl, _⟩ := exists_fuel hfuel
  unfold optionParts
  refine hpart.andThen (leads_kind (mark_readsAs '=' known _) ?_)
  rw [if_neg (by decide)]
  exact leads_pure rfl

theorem leads_optionValue (text : PlainText) {known : ';' ∈ marks} :
    Leads place (.quoted text :: .mark ';' known :: lexemes) optionValue (· = some (Text.codes text.text))
      .plain (.mark ';' known :: lexemes) := by
  have hquoted : (Lexeme.quoted text).ReadsAs place .quoted := quoted_readsAs text place
  have hreadable : Readable place (.quoted text :: .mark ';' known :: lexemes) := ⟨_, _, _, rfl, hquoted⟩
  unfold optionValue
  refine (leads_remaining hreadable).bind fun fuel hfuel => ?_
  obtain ⟨fuel, rfl, _⟩ := exists_fuel hfuel
  rw [Nat.mul_add, constant]
  refine leads_kind hquoted ?_
  refine (leads_remaining hreadable).bind fun fuel hfuel => ?_
  obtain ⟨fuel, rfl, _⟩ := exists_fuel hfuel
  have htexts : Leads place (.quoted text :: .mark ';' known :: lexemes) (adjacentTexts (fuel + 1))
      (· = Text.codes text.text) .plain (.mark ';' known :: lexemes) := by
    unfold adjacentTexts
    refine (leads_quotedText text _).andThen (leads_kind (mark_readsAs ';' known _) ?_)
    rw [if_neg (by decide)]
    exact leads_pure rfl
  exact htexts.andThen (leads_pure rfl)

theorem leads_optionRest (value : PlainText) {known : ';' ∈ marks} :
    Leads .plain ([.name goPackageName, .mark '=', .quoted value] ++ .mark ';' known :: lexemes) optionRest
      (· = some (Text.codes value.text)) .afterOption lexemes := by
  unfold optionRest
  refine (leads_optionName goPackageName).andThen ?_
  refine (leads_takeMark _).andThen ?_
  refine (leads_optionValue value).andThen ?_
  exact (leads_takeMark _).andThen (leads_pure rfl)

theorem leads_finish {α : Type} {result : α → Prop} {rest : TokenKind → Parser α} (value : α)
    (hrest : rest .finish = pure value) (h : result value) (place' : Place) :
    Leads place [] (Parser.kind >>= rest) result place' [] := by
  intro reader hreader
  cases hreader with
  | finish hkind hcomments =>
    refine ⟨value, reader, ?_, h, .finish hkind hcomments, rfl⟩
    have hrun : (Parser.kind >>= rest).run reader = (rest reader.token.kind).run reader := rfl
    rw [hrun, hkind, hrest]
    rfl

theorem Statement.lexemes_ne_nil (statement : Statement) : statement.lexemes ≠ [] := by
  cases statement <;> simp [Statement.lexemes]

theorem offers_file : Offers .file Place.fileKeywords := by
  unfold Offers
  decide

theorem offers_afterOption : Offers .afterOption Place.fileKeywords := by
  unfold Offers
  decide

theorem offers_file_afterBlock : Offers .afterBlock Place.fileKeywords := by
  unfold Offers
  decide

open Schema in
theorem leads_statements (proto3 : Bool) (statements : List Outline.Statement)
    (hoffers : Offers place Place.fileKeywords)
    (hdepth : ∀ decl ∈ messagesOf statements, (message proto3 decl.1 decl.2).levels < maxNesting) {fuel : Nat}
    (hfuel : (statements.flatMap Statement.lexemes).length < fuel) :
    Leads place (statements.flatMap Statement.lexemes) (Parser.statements fuel)
      (fun found => found.map Proto.Statement.unplaced = statements.map Statement.decl) .file [] := by
  induction statements generalizing place fuel with
  | nil =>
    obtain ⟨fuel, rfl⟩ := Nat.exists_eq_succ_of_ne_zero (Nat.ne_of_gt hfuel)
    unfold Parser.statements
    exact leads_finish [] (by rfl) (by rfl) _
  | cons statement statements ih =>
    rw [List.flatMap_cons] at hfuel ⊢
    obtain ⟨fuel, rfl⟩ := Nat.exists_eq_succ_of_ne_zero (show fuel ≠ 0 by omega)
    have hless : (statements.flatMap Statement.lexemes).length < fuel := by
      have hfirst := List.length_pos_of_ne_nil statement.lexemes_ne_nil
      rw [List.length_append] at hfuel
      omega
    -- a statement that has been read, and the statements behind it
    have hrest {place : Place} (hoffers : Offers place Place.fileKeywords) {found : Proto.Statement}
        (hfound : found.unplaced = statement.decl) :
        Leads place (statements.flatMap Statement.lexemes) (do return found :: (← Parser.statements fuel))
          (fun found => found.map Proto.Statement.unplaced = (statement :: statements).map Statement.decl)
          .file [] := by
      have hmore : ∀ decl ∈ messagesOf statements, (message proto3 decl.1 decl.2).levels < maxNesting :=
        fun decl hdecl => hdepth decl (((List.sublist_cons_self statement statements).filterMap _).subset hdecl)
      refine (ih hoffers hmore hless).bind fun more hmore => ?_
      exact leads_pure (by rw [List.map_cons, List.map_cons, hfound, hmore])
    unfold Parser.statements
    cases statement with
    | package path =>
      rw [Statement.lexemes, List.cons_append, List.append_assoc]
      refine leads_kind (hoffers.readsAs .package) ?_
      refine (leads_skip (hoffers.readsAs .package) _).andThen ?_
      refine (leads_dottedName rfl path (mark_readsAs ';' (by decide) _) (by decide)).andThen ?_
      exact (leads_takeMark _).andThen (hrest offers_file (by rfl))
    | importFile kind file =>
      rw [Statement.lexemes, List.cons_append, List.append_assoc]
      refine leads_kind (hoffers.readsAs .importFile) ?_
      refine (leads_skip (hoffers.readsAs .importFile) _).andThen ?_
      exact (leads_importRest kind file).andThen (hrest offers_file (by rfl))
    | goPackage value =>
      refine leads_kind (hoffers.readsAs .option) ?_
      refine (leads_skip (hoffers.readsAs .option) _).andThen ?_
      exact (leads_optionRest value).andThen (hrest offers_afterOption (by rfl))
    | message name items =>
      have hlevels := levelsWith_nested_le proto3 name items
      have hdepth : (message proto3 name items).levels < maxNesting := hdepth (name, items) List.mem_cons_self
      rw [Statement.lexemes, List.append_assoc, List.append_assoc]
      refine leads_kind (hoffers.readsAs .message) ?_
      refine (leads_skip (hoffers.readsAs .message) _).andThen ?_
      refine (leads_takeName rfl name _).andThen ?_
      refine (leads_takeMark _).andThen ?_
      refine (leads_remaining ?_).bind fun fuel hfuel => ?_
      · cases items with
        | nil => exact readable_mark
        | cons item items =>
          rw [itemLexemes, List.append_assoc]
          exact (item.readable rfl offers_message).append _
      · refine (leads_messageItems proto3 items rfl offers_message (by omega) hfuel).andThen ?_
        exact hrest offers_file_afterBlock (by rfl)
    | enum enum =>
      refine leads_kind (hoffers.readsAs .enum) ?_
      refine (leads_skip (hoffers.readsAs .enum) _).andThen ?_
      exact (leads_enumRest enum).andThen (hrest offers_file_afterBlock (by rfl))
    | service service =>
      refine leads_kind (hoffers.readsAs .service) ?_
      refine (leads_skip (hoffers.readsAs .service) _).andThen ?_
      refine (leads_serviceRest service).bind fun decl hdecl => ?_
      refine hrest offers_file ?_
      exact congrArg Proto.Statement.service hdecl

open Schema in
theorem leads_file (outline : Outline)
    (hdepth : ∀ message ∈ outline.messages, message.levels < maxNesting) {fuel : Nat}
    (hfuel : outline.lexemes.length < fuel) :
    Leads .file outline.lexemes (Parser.statements fuel)
      (fun found => found.map Proto.Statement.unplaced = outline.decls) .file [] := by
  have hmessages : ∀ decl ∈ messagesOf outline.statements, (message outline.proto3 decl.1 decl.2).levels < maxNesting :=
    fun decl hdecl => hdepth _ (List.mem_map_of_mem hdecl)
  unfold Outline.lexemes at hfuel ⊢
  unfold Outline.decls
  cases hlanguage : outline.language with
  | none =>
    rw [hlanguage] at hfuel
    exact leads_statements outline.proto3 outline.statements offers_file hmessages hfuel
  | some language =>
    rw [hlanguage] at hfuel
    obtain ⟨fuel, rfl⟩ := Nat.exists_eq_succ_of_ne_zero (show fuel ≠ 0 by omega)
    have hless : (outline.statements.flatMap Statement.lexemes).length < fuel := by
      simp [Language.lexemes] at hfuel ⊢
      omega
    unfold Parser.statements
    refine leads_kind (offers_file.readsAs .version) ?_
    refine (leads_skip (offers_file.readsAs .version) _).andThen ?_
    refine (leads_takeMark _).andThen ?_
    refine (leads_quotedText language.text _).andThen ?_
    refine (leads_takeMark _).andThen ?_
    refine (leads_statements outline.proto3 outline.statements offers_file hmessages hless).bind fun found hfound => ?_
    exact leads_pure (by rw [List.map_cons, hfound]; rfl)

open Schema in
/-- A text that is written as the outline says is read, and gives its declarations. -/
theorem ofText_written (outline : Outline) {text : List Char} (h : Written outline.lexemes text)
    (hdepth : ∀ message ∈ outline.messages, message.levels < maxNesting) :
    ∃ tree, SourceTree.ofText text = .ok tree ∧ tree.statements.map Proto.Statement.unplaced = outline.decls ∧
      tree.comments = [] ∧ tree.fault = none := by
  have hstart : At .file outline.lexemes (Reader.start text) := at_read h rfl .file {} none
  have hfuel : outline.lexemes.length < text.length + 1 := Nat.lt_succ_of_le h.length_le
  obtain ⟨found, reader, hrun, hfound, hafter, hfault⟩ := outline.leads_file hdepth hfuel _ hstart
  refine ⟨_, except_bind_ok_iff.mpr ⟨(found, reader), hrun, rfl⟩, hfound, ?_, hfault⟩
  rw [hafter.comments]
  rfl

end Outline

end RpcClients.Proto
