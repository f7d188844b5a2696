import RpcClients.Proofs.FinishedTable

/-! # Zero values

A failed call returns a zero value for each field. Types and zero values are told from a field in two different ways,
but they agree: what is written for a field is the zero literal of its Go type. -/

namespace RpcClients

open Resolving

/-! ## Classes of types -/

/-- Pointers, slices and maps. -/
def NilType (type : String) : Prop := ∃ rest, type = "*" ++ rest ∨ type = "[]" ++ rest ∨ type = "map[" ++ rest

def numberTypes : List String :=
  ["byte", "complex128", "complex64", "float32", "float64", "int", "int16", "int32", "int64", "int8", "rune", "uint",
   "uint16", "uint32", "uint64", "uint8", "uintptr"]

/-- The builtin types with a zero value that is not `nil`. -/
def plainTypes : List String := "string" :: "bool" :: numberTypes

theorem NilType.head {type : String} (h : NilType type) : ∃ c ∈ ['*', '[', 'm'], type.toList.head? = some c := by
  obtain ⟨rest, rfl | rfl | rfl⟩ := h
  · exact ⟨'*', by simp, by simp⟩
  · exact ⟨'[', by simp, by simp⟩
  · exact ⟨'m', by simp, by simp⟩

theorem not_nilType_of_mem_plainTypes {type : String} (htype : type ∈ plainTypes) : ¬ NilType type := by
  intro h
  obtain ⟨c, hc, hhead⟩ := h.head
  have hother : plainTypes.all (fun type => type.toList.head?.all fun c => c ∉ ['*', '[', 'm']) = true := by decide
  have hfirst := List.all_eq_true.mp hother type htype
  rw [hhead] at hfirst
  exact of_decide_eq_true hfirst hc

/-! ## References -/

namespace Naming

open Text

/-- The name starts with a letter that is its own upper case, as every upper-case letter is. -/
def StartsUpper (name : String) : Prop := ∃ c ∈ name.toList.head?, isLetter c = true ∧ upperCase c = [c]

variable {name : String}

theorem startsUpper_iff :
    StartsUpper name ↔ name.toList.head?.any (fun c => isLetter c && upperCase c = [c]) = true := by
  simp [StartsUpper, Option.any_eq_true]

instance : Decidable (StartsUpper name) := decidable_of_iff _ startsUpper_iff.symm

theorem StartsUpper.not_nilType (h : StartsUpper name) : ¬ NilType name := by
  intro hnil
  obtain ⟨c, hc, hletter, hupper⟩ := h
  obtain ⟨mark, hmark, hhead⟩ := hnil.head
  rw [hhead, Option.mem_some_iff] at hc
  subst hc
  have hother : ['*', '[', 'm'].all (fun c => isLetter c = true → upperCase c ≠ [c]) = true := by decide
  exact of_decide_eq_true (List.all_eq_true.mp hother _ hmark) hletter hupper

theorem StartsUpper.not_mem_plainTypes (h : StartsUpper name) : name ∉ plainTypes := by
  obtain ⟨c, hc, _, hupper⟩ := h
  intro hmem
  have hlower : plainTypes.all (fun type => type.toList.head?.all fun c => upperCase c ≠ [c]) = true := by decide
  have hfirst := List.all_eq_true.mp hlower name hmem
  rw [Option.mem_def.mp hc] at hfirst
  exact of_decide_eq_true hfirst hupper

theorem IsWord.not_nilType {bound : String} (h : IsWord bound) (name : String) : ¬ NilType (bound ++ "." ++ name) := by
  have hbound : bound.toList.find? (· ∈ separators) = none := by
    rw [List.find?_eq_none]
    intro c hc
    simpa using not_mem_separators_of_isWordChar (h.2 c hc)
  have hdot : (bound ++ "." ++ name).toList.find? (· ∈ separators) = some '.' := by
    rw [String.toList_append, String.toList_append, List.append_assoc, List.find?_append, hbound]
    rfl
  rintro ⟨rest, heq | heq | heq⟩
  all_goals
    rw [heq, String.toList_append] at hdot
    exact absurd (Option.some.inj hdot) (by decide)

end Naming

theorem Imports.Consistent.referenceTo_named {table : Imports} (h : table.Consistent) {ident : Ident}
    (hname : Naming.StartsUpper ident.name) :
    ¬ NilType (table.referenceTo ident) ∧ table.referenceTo ident ∉ plainTypes := by
  unfold referenceTo
  cases hbound : table.aliasFor ident with
  | none => exact ⟨hname.not_nilType, hname.not_mem_plainTypes⟩
  | some bound =>
    have hword := (h.words _ (h.aliasFor_eq_some_iff.mp hbound)).1
    refine ⟨hword.not_nilType ident.name, ?_⟩
    intro hmem
    have hdots : ∀ type ∈ plainTypes, '.' ∉ type.toList := by decide
    exact hdots _ hmem (by simp)

/-! ## Zero literals -/

/-- The type is the reference to the enum that the field is of. -/
def Field.RefersToEnum (table : Imports) (field : Field) (type : String) : Prop :=
  ∃ ident, field.type = { kind := .enum, ident := some ident } ∧ type = table.referenceTo ident

/-- The value is the one literal of a zero value that the type of the field has. -/
structure ZeroLiteral (table : Imports) (field : Field) (type value : String) : Prop where
  nil : value = "nil" ↔ NilType type
  string : value = "\"\"" ↔ type = "string"
  bool : value = "false" ↔ type = "bool"
  number : value = "0" ↔ type ∈ numberTypes ∨ field.RefersToEnum table type
  literal : value ∈ ["nil", "\"\"", "false", "0"]

section

variable {table : Imports} {field : Field} {type : String}

theorem zeroLiteral_nil (htype : NilType type) (henum : ¬ field.RefersToEnum table type) :
    ZeroLiteral table field type "nil" := by
  have hplain : type ∉ plainTypes := fun hmem => not_nilType_of_mem_plainTypes hmem htype
  simp only [plainTypes, List.mem_cons, not_or] at hplain
  constructor <;> simp [htype, hplain, henum]

theorem zeroLiteral_enum (hnil : ¬ NilType type) (hplain : type ∉ plainTypes) (henum : field.RefersToEnum table type) :
    ZeroLiteral table field type "0" := by
  simp only [plainTypes, List.mem_cons, not_or] at hplain
  constructor <;> simp [hnil, hplain, henum]

theorem zeroLiteral_plain {value : String} (hplain : type ∈ plainTypes) (henum : ¬ field.RefersToEnum table type)
    (hvalue : value ≠ "nil" ∧ (value = "\"\"" ↔ type = "string") ∧ (value = "false" ↔ type = "bool") ∧
      (value = "0" ↔ type ∈ numberTypes) ∧ value ∈ ["nil", "\"\"", "false", "0"]) :
    ZeroLiteral table field type value := by
  obtain ⟨hne, hstring, hbool, hnumber, hliteral⟩ := hvalue
  refine ⟨?_, hstring, hbool, ?_, hliteral⟩
  · simp [hne, not_nilType_of_mem_plainTypes hplain]
  · simp [hnumber, henum]

theorem zeroLiteral_scalar {scalar : Scalar} (hkind : field.type.kind = .scalar scalar)
    (hsingle : (field.repeated || field.isMap || field.optional) = false) :
    ZeroLiteral table field scalar.goType (Message.zeroText field) := by
  have henum : ∀ type, ¬ field.RefersToEnum table type := by
    rintro type ⟨ident, htype, _⟩
    rw [htype] at hkind
    cases hkind
  unfold Message.zeroText
  rw [hsingle, hkind]
  cases scalar with
  | bytes => exact zeroLiteral_nil ⟨"byte", Or.inr (Or.inl rfl)⟩ (henum _)
  | _ => exact zeroLiteral_plain (by decide) (henum _) (by decide)

theorem nilType_textIn {type : FieldType} {own : String} (hknown : type.Known own)
    (h : Message.holdsNil type.kind = true) : NilType (type.textIn table) := by
  obtain ⟨kind, ident⟩ := type
  unfold FieldType.textIn
  unfold Message.holdsNil at h
  simp only [Bool.or_eq_true, decide_eq_true_eq] at h
  rcases h with rfl | rfl
  · rcases hknown with hscalar | ⟨ident, rfl, _⟩
    · cases hscalar
    · exact ⟨_, Or.inl rfl⟩
  · exact ⟨"byte", Or.inr (Or.inl rfl)⟩

theorem textIn_of_scalar {type : FieldType} {scalar : Scalar} (h : type.kind = .scalar scalar) :
    type.textIn table = scalar.goType := by
  unfold FieldType.textIn
  simp only [h]

theorem zeroLiteral_single (hcons : table.Consistent) {own : String} (hknown : field.type.Known own)
    (hupper : ∀ ident ∈ field.type.ident, Naming.StartsUpper ident.name)
    (hsingle : (field.repeated || field.isMap || field.optional) = false) :
    ZeroLiteral table field (field.type.textIn table) (Message.zeroText field) := by
  cases hkind : field.type.kind with
  | scalar scalar =>
    rw [textIn_of_scalar hkind]
    exact zeroLiteral_scalar hkind hsingle
  | message =>
    have hzero : Message.zeroText field = "nil" := by simp [Message.zeroText, hsingle, hkind]
    have henum : ¬ field.RefersToEnum table (field.type.textIn table) := by
      rintro ⟨ident, htype, _⟩
      rw [htype] at hkind
      cases hkind
    rw [hzero]
    exact zeroLiteral_nil (nilType_textIn hknown (by simp [Message.holdsNil, hkind])) henum
  | enum =>
    have hzero : Message.zeroText field = "0" := by simp [Message.zeroText, hsingle, hkind]
    obtain ⟨ident, hident⟩ : ∃ ident, field.type.ident = some ident := by
      rcases hknown with hscalar | ⟨ident, hident, _⟩
      · rw [hkind] at hscalar
        cases hscalar
      · exact ⟨ident, hident⟩
    have htext : field.type.textIn table = table.referenceTo ident := by
      unfold FieldType.textIn
      simp only [hkind, hident]
    have htype : field.type = { kind := .enum, ident := some ident } := by
      rw [← hkind, ← hident]
    obtain ⟨hnil, hplain⟩ := hcons.referenceTo_named (hupper ident (by simp [hident]))
    rw [hzero, htext]
    exact zeroLiteral_enum hnil hplain ⟨ident, htype, rfl⟩

theorem zeroLiteral_typeIn (hcons : table.Consistent) {own : String} (hsupported : field.Supported own)
    (hupper : ∀ ident ∈ field.type.ident, Naming.StartsUpper ident.name) :
    ZeroLiteral table field (field.typeIn table) (Message.zeroText field) := by
  have hnil {type : String} (htype : NilType type) (hmany : (field.repeated || field.isMap || field.optional) = true) :
      ZeroLiteral table field type (Message.zeroText field) := by
    have hzero : Message.zeroText field = "nil" := by simp [Message.zeroText, hmany]
    rw [hzero]
    refine zeroLiteral_nil htype ?_
    rintro ⟨ident, hident, rfl⟩
    exact (hcons.referenceTo_named (hupper ident (by simp [hident]))).1 htype
  obtain ⟨_, hknown⟩ := hsupported
  unfold Field.typeIn
  rcases field.types_cases with ⟨hmap, key, value, htypes⟩ | ⟨hmap, htypes⟩
  · rw [htypes]
    exact hnil ⟨key.textIn table ++ "]" ++ value.textIn table, Or.inr (Or.inr (by simp [String.append_assoc]))⟩
      (by simp [hmap])
  · rw [htypes] at hknown ⊢
    have hknown := hknown field.type (by simp)
    unfold Message.wrapElement
    by_cases hrepeated : field.repeated = true
    · simp only [hrepeated, if_true]
      exact hnil ⟨_, Or.inr (Or.inl rfl)⟩ (by simp [hrepeated])
    by_cases hoptional : field.optional = true
    · -- an optional field has a pointer around it, unless it can be `nil` without one
      by_cases hholds : Message.holdsNil field.type.kind = true
      · simp only [hrepeated, hoptional, hholds]
        exact hnil (nilType_textIn hknown hholds) (by simp [hoptional])
      · simp only [hrepeated, hoptional, hholds]
        exact hnil ⟨_, Or.inl rfl⟩ (by simp [hoptional])
    · simp only [hrepeated, hoptional]
      exact zeroLiteral_single hcons hknown hupper (by simp [hrepeated, hoptional, hmap])

end

/-! ## Failed calls -/

/-- In every table of a run, let the fields of a message become results, and let the enums and messages that they are
of have names that start upper case. Then the return statement of a failed call is made: it lists one value for each
result, in order, and the error behind them. Each value is the zero literal of the Go type of its result. -/
theorem Message.zero_values_match {table next : Imports} (reached : table.Reached) {message : Message}
    {taken : List String} {results : List Parameter}
    (upper : ∀ field ∈ message.fields, ∀ ident ∈ field.type.ident, Naming.StartsUpper ident.name)
    (h : Gives (message.parameters taken) table results next) (error : String) :
    ∃ values, message.errorReturn error = .ok ("return " ++ String.intercalate ", " (values ++ [error])) ∧
      results.map (·.field) = message.fields ∧
      List.Forall₂ (fun result value => ZeroLiteral next result.field result.goType value) results values := by
  obtain ⟨hsupported, hnext⟩ := gives_parametersFor h
  have hcons : next.Consistent := by
    rw [hnext]
    exact reached.consistent.resolved _
  have hfields : results.map (·.field) = message.fields := (chosen_of_gives h).fields_eq
  refine ⟨message.fields.map zeroText, ?_, hfields, ?_⟩
  · rw [errorReturn_ok_iff]
    exact ⟨fun field hfield => (hsupported field hfield).1, rfl⟩
  · rw [← hfields, List.map_map, List.forall₂_map_right_iff, List.forall₂_same]
    intro result hresult
    have hfield : result.field ∈ message.fields := hfields ▸ List.mem_map_of_mem hresult
    rw [types_of_gives h (Imports.Extends.refl next) hcons result hresult]
    exact zeroLiteral_typeIn hcons (hsupported _ hfield) (upper _ hfield)

/-- Fields of all classes: one with half a map, optional ones with and without a pointer, and enums of the file's own
package and of one whose name is a keyword. -/
def mixedMessage : Message :=
  let color : FieldType := { kind := .enum, ident := some ⟨"Color", "own"⟩ }
  let kind : FieldType := { kind := .enum, ident := some ⟨"Kind", "x/map"⟩ }
  let field (goName : String) (type : FieldType) : Field := { name := goName, goName, type }
  { fullName := "p.M", ident := ⟨"M", "own"⟩
    fields :=
      [{ field "A" { kind := .scalar .bytes } with optional := true },
       { field "B" { kind := .scalar .bool } with mapKey := some { kind := .scalar .string } },
       field "C" color, field "D" kind, { field "E" kind with optional := true },
       { field "F" color with mapKey := some { kind := .scalar .string }, mapValue := some kind },
       { field "G" { kind := .message, ident := some ⟨"N", "y/n"⟩ } with repeated := true },
       field "H" { kind := .scalar .string }, field "I" { kind := .scalar .sfixed64 }] }

theorem Message.zero_values_match_mixed :
    ∃ results next, Gives (mixedMessage.parameters []) { importPath := "own", packageName := "own" } results next ∧
      results.map (·.goType) = ["[]byte", "bool", "Color", "_map.Kind", "*_map.Kind", "map[string]_map.Kind", "[]*n.N",
        "string", "int64"] ∧
      ∃ values, mixedMessage.errorReturn "err" = .ok "return nil, false, 0, 0, nil, nil, nil, \"\", 0, err" ∧
        List.Forall₂ (fun result value => ZeroLiteral next result.field result.goType value) results values := by
  have htypes : ((mixedMessage.parameters []).outcome { importPath := "own", packageName := "own" }).1.toOption.map
      (·.map (·.goType)) = some ["[]byte", "bool", "Color", "_map.Kind", "*_map.Kind", "map[string]_map.Kind", "[]*n.N",
        "string", "int64"] := by decide +kernel
  have hupper : ∀ field ∈ mixedMessage.fields, ∀ ident ∈ field.type.ident, Naming.StartsUpper ident.name := by decide
  have hflattens : mixedMessage.Flattens { importPath := "own", packageName := "own" } := by
    simp [flattens_iff, mixedMessage, Field.Supported, Field.types, FieldType.Known, FieldKind.isScalar,
      Ident.Referable]
  obtain ⟨results, next, h⟩ := hflattens
  obtain ⟨values, _, _, hvalues⟩ := zero_values_match ⟨"own", "own", [], rfl⟩ hupper h "err"
  refine ⟨results, next, h, ?_, values, rfl, hvalues⟩
  rw [h] at htypes
  exact Option.some.inj htypes

end RpcClients
