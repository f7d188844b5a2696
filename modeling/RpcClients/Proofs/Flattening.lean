import RpcClients.Client.Wrapper
import RpcClients.Proofs.ImportRun

/-! # Flattening messages

When the fields of a message have Go types, and which identifiers the types refer to. Neither depends
on the names that are taken, and of the table only the file's own import path counts. -/

namespace RpcClients

open Resolving

/-! ## References -/

/-- A file with the given import path can refer to the identifier. -/
def Ident.Referable (own : String) (ident : Ident) : Prop :=
  ident.name ≠ "" ∧ (ident.importPath = own ∨ ident.importPath ≠ "")

namespace Imports

/-- The table after references to identifiers. -/
def resolved (table : Imports) (idents : List Ident) : Imports := table.after (idents.map .qualified)

theorem resolved_nil (table : Imports) : table.resolved [] = table := rfl

theorem resolved_append (table : Imports) (idents others : List Ident) :
    table.resolved (idents ++ others) = (table.resolved idents).resolved others := by
  simp [resolved, after_append]

theorem resolved_extends (table : Imports) (idents : List Ident) :
    table.Extends (table.resolved idents) := after_extends _ _

@[simp] theorem resolved_importPath (table : Imports) (idents : List Ident) :
    (table.resolved idents).importPath = table.importPath := (table.resolved_extends idents).importPath

theorem Consistent.resolved {table : Imports} (h : table.Consistent) (idents : List Ident) :
    (table.resolved idents).Consistent := h.after _

theorem eq_resolved_of_qualified {table next : Imports} {ident : Ident} {text : String}
    (h : table.qualified ident = .ok (text, next)) : next = table.resolved [ident] := by
  simp [resolved, perform_qualified, h]

theorem mem_resolved {table : Imports} {idents : List Ident} {entry : String × String}
    (h : entry ∈ (table.resolved idents).aliases) :
    entry ∈ table.aliases ∨ entry.1 ∈ idents.map (·.importPath) := by
  induction idents generalizing table with
  | nil => exact Or.inl h
  | cons ident rest ih =>
    rcases ih h with hbefore | hrest
    · by_cases hold : entry ∈ table.aliases
      · exact Or.inl hold
      · obtain ⟨name, hwanted, _⟩ := new_alias hold hbefore
        have hpath : entry.1 = ident.importPath := congrArg Prod.fst (Option.some.inj hwanted).symm
        exact Or.inr (hpath ▸ List.mem_cons_self)
    · exact Or.inr (List.mem_cons_of_mem _ hrest)

/-- What a reference looks like: the name alone in the file's own package, else after an alias. -/
theorem qualified_cases {table next : Imports} {ident : Ident} {text : String}
    (h : table.qualified ident = .ok (text, next)) :
    (ident.importPath = table.importPath ∧ text = ident.name) ∨
    (ident.importPath ≠ table.importPath ∧
      ∃ bound, (ident.importPath, bound) ∈ next.aliases ∧ text = bound ++ "." ++ ident.name) := by
  unfold qualified at h
  split_ifs at h with hname hown
  · cases h
    exact Or.inl ⟨hown, rfl⟩
  · refine Or.inr ⟨hown, ?_⟩
    rcases aliasOf_cases table ident.importPath none with ⟨_, _, hno⟩ | ⟨bound, _, hlookup, hok⟩ | ⟨_, _, hok⟩
    · rw [hno] at h
      cases h
    · rw [hok] at h
      cases h
      exact ⟨bound, mem_of_lookup_eq_some hlookup, rfl⟩
    · rw [hok] at h
      cases h
      exact ⟨_, by simp [mem_bind_aliases], rfl⟩

theorem qualified_ok_iff (table : Imports) (ident : Ident) :
    (∃ text next, table.qualified ident = .ok (text, next)) ↔ ident.Referable table.importPath := by
  unfold qualified Ident.Referable
  split_ifs with hname hown
  · simp [hname]
  · simp [hname, hown]
  · rcases aliasOf_cases table ident.importPath none with ⟨_, hnot, hno⟩ | ⟨_, hfor, _, hok⟩ | ⟨hfor, _, hok⟩
    · have hempty : ident.importPath = "" := by
        by_contra hne
        exact hnot ⟨hne, hown⟩
      rw [hno]
      constructor
      · rintro ⟨_, _, h⟩
        cases h
      · rintro ⟨_, h | h⟩
        · exact absurd h hown
        · exact absurd hempty h
    · rw [hok]
      exact ⟨fun _ => ⟨hname, Or.inr hfor.1⟩, fun _ => ⟨_, _, rfl⟩⟩
    · rw [hok]
      exact ⟨fun _ => ⟨hname, Or.inr hfor.1⟩, fun _ => ⟨_, _, rfl⟩⟩

end Imports

theorem gives_qualified_of_referable {ident : Ident} {table : Imports}
    (h : ident.Referable table.importPath) :
    ∃ text, Gives (Resolving.qualified ident) table text (table.resolved [ident]) := by
  obtain ⟨text, next, hok⟩ := (Imports.qualified_ok_iff table ident).mpr h
  rw [Imports.eq_resolved_of_qualified hok] at hok
  exact ⟨text, gives_qualified.mpr hok⟩

theorem eq_resolved_of_gives_mapM {α β : Type} {step : α → Resolving β} {idents : α → List Ident}
    (hstep : ∀ item table value next, Gives (step item) table value next →
      next = table.resolved (idents item))
    {items : List α} {table next : Imports} {given : List β} (h : Gives (items.mapM step) table given next) :
    next = table.resolved (items.flatMap idents) := by
  induction items generalizing table given with
  | nil =>
    obtain ⟨_, rfl⟩ := gives_mapM_nil.mp h
    rfl
  | cons item rest ih =>
    obtain ⟨value, middle, values, hvalue, hvalues, _⟩ := gives_mapM_cons.mp h
    rw [ih hvalues, hstep _ _ _ _ hvalue, List.flatMap_cons, Imports.resolved_append]

/-! ## Types of fields -/

namespace FieldType

def idents (type : FieldType) : List Ident := if type.kind.isScalar then [] else type.ident.toList

/-- The type is scalar, or it refers to something. -/
def Known (own : String) (type : FieldType) : Prop :=
  type.kind.isScalar = true ∨ ∃ ident, type.ident = some ident ∧ ident.Referable own

end FieldType

namespace Field

/-- The types that make up the Go type of a field: key and value of a map, else its own. -/
def types (field : Field) : List FieldType :=
  match field.mapKey, field.mapValue with
  | some key, some value => [key, value]
  | _, _ => [field.type]

theorem types_cases (field : Field) :
    (field.isMap = true ∧ ∃ key value, field.types = [key, value]) ∨
    (field.isMap = false ∧ field.types = [field.type]) := by
  unfold isMap types
  cases field.mapKey with
  | none => simp
  | some key => cases field.mapValue <;> simp

def idents (field : Field) : List Ident := field.types.flatMap FieldType.idents

/-- The field can become a parameter. -/
def Supported (own : String) (field : Field) : Prop :=
  field.oneof = none ∧ ∀ type ∈ field.types, type.Known own

end Field

namespace Message

theorem gives_elementType {message : Message} {field : Field} {type : FieldType}
    {table next : Imports} {text : String} (h : Gives (message.elementType field type) table text next) :
    type.Known table.importPath ∧ next = table.resolved type.idents := by
  unfold elementType at h
  split at h
  · rename_i scalar hkind
    obtain ⟨_, rfl⟩ := gives_pure.mp h
    simp [FieldType.Known, FieldType.idents, FieldKind.isScalar, hkind, Imports.resolved_nil]
  · exact absurd h not_gives_throw
  · rename_i ident hkind hident
    obtain ⟨reference, middle, hq, hp⟩ := gives_bind.mp h
    obtain ⟨_, rfl⟩ := gives_pure.mp hp
    rw [gives_qualified] at hq
    refine ⟨Or.inr ⟨ident, hident, (Imports.qualified_ok_iff _ _).mp ⟨_, _, hq⟩⟩, ?_⟩
    simpa [FieldType.idents, FieldKind.isScalar, hkind, hident] using Imports.eq_resolved_of_qualified hq
  · rename_i ident hkind hident
    rw [gives_qualified] at h
    refine ⟨Or.inr ⟨ident, hident, (Imports.qualified_ok_iff _ _).mp ⟨_, _, h⟩⟩, ?_⟩
    simpa [FieldType.idents, FieldKind.isScalar, hkind, hident] using Imports.eq_resolved_of_qualified h

theorem elementType_of_known (message : Message) (field : Field) {type : FieldType} {table : Imports}
    (h : type.Known table.importPath) :
    ∃ text, Gives (message.elementType field type) table text (table.resolved type.idents) := by
  unfold elementType FieldType.idents
  obtain ⟨kind, ident⟩ := type
  cases kind with
  | scalar scalar => exact ⟨_, gives_pure.mpr ⟨rfl, rfl⟩⟩
  | enum =>
    obtain h | ⟨ident, rfl, href⟩ := h
    · cases h
    · exact gives_qualified_of_referable href
  | message =>
    obtain h | ⟨ident, rfl, href⟩ := h
    · cases h
    · obtain ⟨reference, hq⟩ := gives_qualified_of_referable href
      exact ⟨_, gives_bind.mpr ⟨_, _, hq, gives_pure.mpr ⟨rfl, rfl⟩⟩⟩

theorem checkField_ok_iff (message : Message) (field : Field) (value : Unit) :
    message.checkField field = .ok value ↔ field.oneof = none := by
  unfold checkField
  cases field.oneof <;> simp

/-- The Go type of a field that is no map, from the type of one element. -/
def wrapElement (field : Field) (element : String) : String :=
  if field.repeated then "[]" ++ element
  else if field.optional && !holdsNil field.type.kind then "*" ++ element
  else element

theorem gives_single_iff {message : Message} {field : Field} {table next : Imports} {text : String} :
    Gives (do
      let element ← message.elementType field field.type
      if field.repeated then return "[]" ++ element
      else if field.optional && !holdsNil field.type.kind then return "*" ++ element
      else return element) table text next ↔
      ∃ element, Gives (message.elementType field field.type) table element next ∧
        text = wrapElement field element := by
  unfold wrapElement
  rw [gives_bind]
  constructor
  · rintro ⟨element, middle, helement, hrest⟩
    refine ⟨element, ?_⟩
    split_ifs at hrest ⊢ <;>
    · obtain ⟨rfl, rfl⟩ := gives_pure.mp hrest
      exact ⟨helement, rfl⟩
  · rintro ⟨element, helement, rfl⟩
    refine ⟨element, next, helement, ?_⟩
    split_ifs <;> exact gives_pure.mpr ⟨rfl, rfl⟩

theorem gives_goType_iff {message : Message} {field : Field} {table next : Imports} {text : String} :
    Gives (message.goType field) table text next ↔ field.oneof = none ∧
      ((∃ key value keyText valueText middle, field.types = [key, value] ∧
          Gives (message.elementType field key) table keyText middle ∧
          Gives (message.elementType field value) middle valueText next ∧
          text = "map[" ++ keyText ++ "]" ++ valueText) ∨
       (field.types = [field.type] ∧ ∃ element,
          Gives (message.elementType field field.type) table element next ∧
          text = wrapElement field element)) := by
  have hcheck : ∀ rest : Unit → Resolving String,
      Gives (Resolving.ofExcept (message.checkField field) >>= rest) table text next ↔
        field.oneof = none ∧ Gives (rest ()) table text next := by
    intro rest
    simp only [gives_bind, gives_ofExcept, checkField_ok_iff]
    constructor
    · rintro ⟨_, _, ⟨honeof, rfl⟩, hrest⟩
      exact ⟨honeof, hrest⟩
    · rintro ⟨honeof, hrest⟩
      exact ⟨(), table, ⟨honeof, rfl⟩, hrest⟩
  unfold goType Field.types
  rw [hcheck, and_congr_right_iff]
  intro _
  -- a field is a map only if it has both a key and a value
  rcases field.mapKey with _ | key
  · simp only [gives_single_iff]
    simp
  · rcases field.mapValue with _ | value
    · simp only [gives_single_iff]
      simp
    · simp only [gives_bind, gives_pure]
      constructor
      · rintro ⟨k, middle, hk, v, last, hv, rfl, rfl⟩
        exact Or.inl ⟨key, value, k, v, middle, rfl, hk, hv, rfl⟩
      · rintro (⟨_, _, k, v, middle, htypes, hk, hv, rfl⟩ | ⟨htypes, _⟩)
        · cases htypes
          exact ⟨k, middle, hk, v, next, hv, rfl, rfl⟩
        · cases htypes

theorem gives_goType {message : Message} {field : Field} {table next : Imports} {text : String}
    (h : Gives (message.goType field) table text next) :
    field.Supported table.importPath ∧ next = table.resolved field.idents := by
  obtain ⟨honeof, h⟩ := gives_goType_iff.mp h
  rcases h with ⟨key, value, _, _, middle, htypes, hkey, hvalue, _⟩ | ⟨htypes, _, helement, _⟩
  · obtain ⟨hknown, rfl⟩ := gives_elementType hkey
    obtain ⟨hknown', rfl⟩ := gives_elementType hvalue
    rw [Imports.resolved_importPath] at hknown'
    simp [Field.Supported, Field.idents, htypes, honeof, hknown, hknown', Imports.resolved_append]
  · obtain ⟨hknown, rfl⟩ := gives_elementType helement
    simp [Field.Supported, Field.idents, htypes, honeof, hknown]

theorem goType_of_supported (message : Message) {field : Field} {table : Imports}
    (h : field.Supported table.importPath) :
    ∃ text, Gives (message.goType field) table text (table.resolved field.idents) := by
  obtain ⟨honeof, hknown⟩ := h
  rcases field.types_cases with ⟨_, key, value, htypes⟩ | ⟨_, htypes⟩
  · rw [htypes] at hknown
    have hvalue : value.Known (table.resolved key.idents).importPath := by
      rw [Imports.resolved_importPath]
      exact hknown value (by simp)
    obtain ⟨k, hk⟩ := elementType_of_known message field (hknown key (by simp))
    obtain ⟨v, hv⟩ := elementType_of_known message field hvalue
    refine ⟨_, gives_goType_iff.mpr ⟨honeof, Or.inl ⟨key, value, k, v, _, htypes, hk, ?_, rfl⟩⟩⟩
    simpa [Field.idents, htypes, Imports.resolved_append] using hv
  · rw [htypes] at hknown
    obtain ⟨element, helement⟩ := elementType_of_known message field (hknown field.type (by simp))
    refine ⟨_, gives_goType_iff.mpr ⟨honeof, Or.inr ⟨htypes, element, ?_, rfl⟩⟩⟩
    simpa [Field.idents, htypes] using helement

/-! ## Lists of parameters -/

/-- The name that a field gets when some names are taken. -/
def freeName (taken : List String) (field : Field) : String :=
  firstFree (underscored (parameterName field.goName)) taken

theorem gives_parametersFor_nil {message : Message} {taken : List String} {table next : Imports}
    {parameters : List Parameter} :
    Gives (message.parametersFor taken []) table parameters next ↔ parameters = [] ∧ next = table :=
  gives_pure

theorem gives_parametersFor_cons {message : Message} {taken : List String} {field : Field}
    {rest : List Field} {table next : Imports} {parameters : List Parameter} :
    Gives (message.parametersFor taken (field :: rest)) table parameters next ↔
      ∃ type middle others, Gives (message.goType field) table type middle ∧
        Gives (message.parametersFor (freeName taken field :: taken) rest) middle others next ∧
        parameters = ⟨freeName taken field, type, field⟩ :: others := by
  simp only [parametersFor, gives_bind, gives_pure]
  constructor
  · rintro ⟨type, middle, htype, others, last, hothers, rfl, rfl⟩
    exact ⟨type, middle, others, htype, hothers, rfl⟩
  · rintro ⟨type, middle, others, htype, hothers, rfl⟩
    exact ⟨type, middle, htype, others, next, hothers, rfl, rfl⟩

theorem gives_parametersFor {message : Message} {taken : List String} {fields : List Field}
    {table next : Imports} {parameters : List Parameter}
    (h : Gives (message.parametersFor taken fields) table parameters next) :
    (∀ field ∈ fields, field.Supported table.importPath) ∧ next = table.resolved (fields.flatMap Field.idents) := by
  induction fields generalizing taken table parameters with
  | nil =>
    obtain ⟨_, rfl⟩ := gives_parametersFor_nil.mp h
    simp [Imports.resolved_nil]
  | cons field rest ih =>
    obtain ⟨type, middle, others, htype, hothers, _⟩ := gives_parametersFor_cons.mp h
    obtain ⟨hsupported, rfl⟩ := gives_goType htype
    obtain ⟨hrest, rfl⟩ := ih hothers
    simp only [Imports.resolved_importPath] at hrest
    refine ⟨?_, by simp [Imports.resolved_append]⟩
    intro other hother
    rcases List.mem_cons.mp hother with rfl | hother
    · exact hsupported
    · exact hrest other hother

theorem parametersFor_of_supported (message : Message) {fields : List Field} {table : Imports}
    (h : ∀ field ∈ fields, field.Supported table.importPath) (taken : List String) :
    ∃ parameters, Gives (message.parametersFor taken fields) table parameters
      (table.resolved (fields.flatMap Field.idents)) := by
  induction fields generalizing taken table with
  | nil => exact ⟨[], gives_parametersFor_nil.mpr ⟨rfl, rfl⟩⟩
  | cons field rest ih =>
    obtain ⟨type, htype⟩ := goType_of_supported message (h field List.mem_cons_self)
    have hrest : ∀ other ∈ rest, other.Supported (table.resolved field.idents).importPath := by
      intro other hother
      rw [Imports.resolved_importPath]
      exact h other (List.mem_cons_of_mem _ hother)
    obtain ⟨others, hothers⟩ := ih hrest (freeName taken field :: taken)
    rw [List.flatMap_cons, Imports.resolved_append]
    exact ⟨_, gives_parametersFor_cons.mpr ⟨type, _, others, htype, hothers, rfl⟩⟩

/-- In the table, the fields of the message become parameters without a failure. -/
def Flattens (table : Imports) (message : Message) : Prop :=
  ∃ parameters next, Gives message.parameters table parameters next

theorem flattens_iff (table : Imports) (message : Message) :
    message.Flattens table ↔ ∀ field ∈ message.fields, field.Supported table.importPath := by
  constructor
  · rintro ⟨_, _, h⟩
    exact (gives_parametersFor h).1
  · intro h
    obtain ⟨parameters, hgives⟩ := parametersFor_of_supported message h []
    exact ⟨parameters, _, hgives⟩

theorem zeroValue_ok_iff (message : Message) (field : Field) (text : String) :
    message.zeroValue field = .ok text ↔ field.oneof = none ∧ text = zeroText field := by
  unfold zeroValue
  rw [except_bind_ok_iff]
  simp only [checkField_ok_iff, except_pure_ok_iff, exists_const]

theorem errorReturn_ok_iff (message : Message) (error text : String) :
    message.errorReturn error = .ok text ↔ (∀ field ∈ message.fields, field.oneof = none) ∧
      text = "return " ++ String.intercalate ", " (message.fields.map zeroText ++ [error]) := by
  unfold errorReturn
  simp only [except_bind_ok_iff, except_mapM_ok_iff, except_pure_ok_iff, zeroValue_ok_iff,
    forall₂_eq_map_iff]
  constructor
  · rintro ⟨_, ⟨honeof, rfl⟩, rfl⟩
    exact ⟨honeof, rfl⟩
  · rintro ⟨honeof, rfl⟩
    exact ⟨_, ⟨honeof, rfl⟩, rfl⟩

end Message

/-! ## Methods -/

namespace Method

theorem requireUnary_ok_iff (method : Method) (value : Unit) :
    method.requireUnary = .ok value ↔ method.shape = .unary := by
  unfold requireUnary
  cases method.shape <;> simp

/-- The comments of the method can be read. -/
def Readable (unreadable : List String) (method : Method) : Prop :=
  ∀ text ∈ method.comments, text ∉ unreadable

theorem gives_readComments {unreadable : List String} {method : Method} {table next : Imports}
    {value : PUnit} :
    Gives (method.comments.forM fun text =>
      Resolving.ofExcept (requireReadable unreadable .unreadableText text)) table value next ↔
      method.Readable unreadable ∧ next = table := by
  unfold Readable requireReadable
  cases method.comments with
  | none => simp [gives_pure]
  | some text =>
    by_cases h : text ∈ unreadable
    · simp [h, gives_ofExcept]
    · simp [h, gives_ofExcept]

theorem gives_wrapped_iff {method : Method} {wrapper context : String} {unreadable : List String}
    {table next : Imports} {emitted : WrapperMethod} :
    Gives (method.wrapped wrapper context unreadable) table emitted next ↔
      method.shape = .unary ∧ method.Readable unreadable ∧
      ∃ request first parameters second results,
        table.qualified method.input.ident = .ok (request, first) ∧
        Gives (method.input.parameters (requestAlias request)) first parameters second ∧
        Gives (method.output.parameters (parameters.map (·.name) ++ "ctx" :: requestAlias request))
          second results next ∧
        emitted = {
          wrapper, context, request, parameters, results
          name := method.goName
          comments := method.comments
          errorReturn := "return " ++
            String.intercalate ", " (method.output.fields.map Message.zeroText ++ ["err"]) } := by
  unfold wrapped
  simp only [gives_bind, gives_ofExcept, gives_qualified, gives_pure, gives_readComments,
    requireUnary_ok_iff, Message.errorReturn_ok_iff]
  constructor
  · rintro ⟨_, _, ⟨hunary, rfl⟩, request, first, hrequest, parameters, second, hparameters, results,
      third, hresults, _, _, ⟨hread, rfl⟩, _, _, ⟨⟨_, rfl⟩, rfl⟩, rfl, rfl⟩
    exact ⟨hunary, hread, request, first, parameters, second, results, hrequest, hparameters, hresults, rfl⟩
  · rintro ⟨hunary, hread, request, first, parameters, second, results, hrequest, hparameters, hresults, rfl⟩
    have honeof : ∀ field ∈ method.output.fields, field.oneof = none := by
      intro field hfield
      exact ((Message.gives_parametersFor hresults).1 field hfield).1
    exact ⟨(), table, ⟨hunary, rfl⟩, request, first, hrequest, parameters, second, hparameters, results,
      next, hresults, ⟨⟩, next, ⟨hread, rfl⟩, _, next, ⟨⟨honeof, rfl⟩, rfl⟩, rfl, rfl⟩

/-- The identifiers that a method refers to, in the order of the references. -/
def idents (method : Method) : List Ident :=
  method.input.ident ::
    (method.input.fields.flatMap Field.idents ++ method.output.fields.flatMap Field.idents)

theorem eq_resolved_of_gives_wrapped {method : Method} {wrapper context : String}
    {unreadable : List String} {table next : Imports} {emitted : WrapperMethod}
    (h : Gives (method.wrapped wrapper context unreadable) table emitted next) :
    next = table.resolved method.idents := by
  obtain ⟨_, _, request, first, parameters, second, results, hrequest, hparameters, hresults, _⟩ :=
    gives_wrapped_iff.mp h
  obtain ⟨_, rfl⟩ := Message.gives_parametersFor hresults
  obtain ⟨_, rfl⟩ := Message.gives_parametersFor hparameters
  rw [Imports.eq_resolved_of_qualified hrequest, ← Imports.resolved_append, ← Imports.resolved_append]
  rfl

end Method

end RpcClients
