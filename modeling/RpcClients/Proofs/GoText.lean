import RpcClients.Proofs.LineLayout
import RpcClients.Proofs.ParameterNames

/-! # Go names and types as parts of lines

Names, references and types are printed inside lines of code. They leave the depth as it is. -/

namespace RpcClients

open Resolving Indentation

/-! ## Identifiers -/

namespace Naming

def isIdentifierChar (c : Char) : Bool := c.isAlphanum || c = '_'

/-- An identifier of ASCII letters, digits and underscores. -/
def IsIdentifier (name : String) : Prop := name ≠ "" ∧ name.toList.all isIdentifierChar = true

instance (name : String) : Decidable (IsIdentifier name) := inferInstanceAs (Decidable (_ ∧ _))

theorem of_isIdentifierChar (p : Char → Bool)
    (h : (List.range 128).all (fun n => !isIdentifierChar (Char.ofNat n) || p (Char.ofNat n)) = true)
    {c : Char} (hc : isIdentifierChar c = true) : p c = true := by
  have hlt : c.toNat < 128 := by
    unfold isIdentifierChar Char.isAlphanum Char.isAlpha Char.isUpper Char.isLower Char.isDigit at hc
    simp only [Bool.or_eq_true, Bool.and_eq_true, decide_eq_true_eq, UInt32.le_iff_toNat_le] at hc
    rcases hc with ((hc | hc) | hc) | rfl
    · exact Nat.lt_of_le_of_lt hc.2 (by decide)
    · exact Nat.lt_of_le_of_lt hc.2 (by decide)
    · exact Nat.lt_of_le_of_lt hc.2 (by decide)
    · decide
  have := List.all_eq_true.mp h c.toNat (List.mem_range.mpr hlt)
  rw [Char.ofNat_toNat, hc] at this
  simpa using this

theorem isWordChar_of_isIdentifierChar {c : Char} (h : isIdentifierChar c = true) :
    Text.isWordChar c = true := of_isIdentifierChar Text.isWordChar (by decide) h

theorem lowerCase_identifier {c : Char} (h : isIdentifierChar c = true) :
    (!(Text.lowerCase c).isEmpty && (Text.lowerCase c).all isIdentifierChar) = true :=
  of_isIdentifierChar (fun c => !(Text.lowerCase c).isEmpty && (Text.lowerCase c).all isIdentifierChar)
    (by decide +kernel) h

theorem IsIdentifier.isWord {name : String} (h : IsIdentifier name) : IsWord name := by
  refine ⟨h.1, ?_⟩
  intro c hc
  exact isWordChar_of_isIdentifierChar (List.all_eq_true.mp h.2 c hc)

theorem IsIdentifier.append {name other : String} (h : IsIdentifier name)
    (hother : other.toList.all isIdentifierChar = true) : IsIdentifier (name ++ other) := by
  refine ⟨by simp [h.1], ?_⟩
  rw [String.toList_append, List.all_append, h.2, hother]
  rfl

theorem IsIdentifier.unexported {name : String} (h : IsIdentifier name) :
    IsIdentifier (unexported name) := by
  obtain ⟨hne, hall⟩ := h
  unfold Naming.unexported
  cases hlist : name.toList with
  | nil => exact absurd (by simpa using hlist) hne
  | cons c rest =>
    rw [hlist, List.all_cons, Bool.and_eq_true] at hall
    have hlower := lowerCase_identifier hall.1
    rw [Bool.and_eq_true] at hlower
    refine ⟨?_, by simp [hlower.2, hall.2]⟩
    intro hempty
    have hnil : Text.lowerCase c ++ rest = [] := by simpa using congrArg String.toList hempty
    simp [(List.append_eq_nil_iff.mp hnil).1] at hlower

end Naming

open Naming

theorem parameterName_identifier {goName : String} (h : IsIdentifier goName) :
    IsIdentifier (parameterName goName) := by
  unfold parameterName
  simp only
  split_ifs
  · exact h.unexported.append (by decide)
  · exact h.unexported

theorem wrapperName_identifier {goName : String} (h : IsIdentifier goName) :
    IsIdentifier (wrapperName goName) := by
  unfold wrapperName
  simp only
  split_ifs
  · exact h.unexported.append (by decide)
  · exact h.unexported

theorem underscored_identifier {name : String} (h : IsIdentifier name) (count : Nat) :
    IsIdentifier (underscored name count) := by
  apply h.append
  rw [String.toList_ofList, List.all_replicate]
  simp [isIdentifierChar]

theorem Chosen.identifiers {taken : List String} {fields : List Field} {parameters : List Parameter}
    (h : Chosen taken fields parameters) (hnames : ∀ field ∈ fields, IsIdentifier field.goName) :
    ∀ p ∈ parameters, IsIdentifier p.name := by
  induction h with
  | nil => simp
  | cons field _ _ count hname _ _ _ ih =>
    rw [List.forall_mem_cons] at hnames ⊢
    refine ⟨?_, ih hnames.2⟩
    rw [hname]
    exact underscored_identifier (parameterName_identifier hnames.1) count

/-! ## Words and references -/

theorem marks_of_isWordChar {c : Char} (h : Text.isWordChar c = true) :
    isPlain c = true ∧ isOpener c = false ∧ isCloser c = false ∧ c ≠ ',' := by
  have hmark := Text.not_mem_separators_of_isWordChar h
  refine ⟨?_, ?_, ?_, ?_⟩
  · rw [isPlain, decide_eq_true_eq]
    intro hmem
    exact hmark ((by decide : ['"', '\x60', '/', '\n'] ⊆ Text.separators) hmem)
  · rw [Bool.eq_false_iff]
    intro hopen
    simp only [isOpener, Bool.or_eq_true, decide_eq_true_eq] at hopen
    rcases hopen with (rfl | rfl) | rfl <;> exact hmark (by decide)
  · rw [Bool.eq_false_iff]
    intro hclose
    simp only [isCloser, Bool.or_eq_true, decide_eq_true_eq] at hclose
    rcases hclose with (rfl | rfl) | rfl <;> exact hmark (by decide)
  · rintro rfl
    exact hmark (by decide)

theorem item_of_isWord {name : String} (h : IsWord name) : Item name := by
  obtain ⟨hne, hchars⟩ := h
  have hmarks := fun c hc => marks_of_isWordChar (hchars c hc)
  have hblank := fun c hc => Text.isBlank_eq_false_of_isWordChar (hchars c hc)
  have hlist : name.toList ≠ [] := by simpa using hne
  obtain ⟨c, rest, hcons⟩ := List.exists_cons_of_ne_nil hlist
  have hfirst : isCloser c = false := (hmarks c (by simp [hcons])).2.2.1
  constructor
  · intro _
    exact codeText_of_plain (List.all_eq_true.mpr fun c hc => (hmarks c hc).1)
  · have hopeners : name.toList.countP isOpener = 0 := by
      rw [List.countP_eq_zero]
      intro c hc
      simp [(hmarks c hc).2.1]
    have hclosers : name.toList.countP isCloser = 0 := by
      rw [List.countP_eq_zero]
      intro c hc
      simp [(hmarks c hc).2.2.1]
    rw [hopeners, hclosers]
    rfl
  · rw [hcons, List.head?_cons, Option.map_some, hblank c (by simp [hcons])]
    rfl
  · rw [List.getLast?_eq_getLast_of_ne_nil hlist, Option.map_some, hblank _ (List.getLast_mem hlist)]
    rfl
  · rw [hcons, List.takeWhile_cons, hfirst]
    rfl
  · rw [hcons, List.all_cons, hfirst]
    rfl

/-- A Go name, alone or behind the alias of its package. -/
def Reference (text : String) : Prop :=
  IsWord text ∨ ∃ bound name, IsWord bound ∧ IsWord name ∧ text = bound ++ "." ++ name

theorem reference_of_qualified {table next : Imports} {ident : Ident} {text : String}
    (hcons : table.Consistent) (hname : IsWord ident.name)
    (h : table.qualified ident = .ok (text, next)) : Reference text := by
  rcases Imports.qualified_cases h with ⟨_, rfl⟩ | ⟨_, bound, hbound, rfl⟩
  · exact Or.inl hname
  · refine Or.inr ⟨bound, ident.name, ?_, hname, rfl⟩
    rw [Imports.eq_resolved_of_qualified h] at hbound
    exact ((hcons.resolved _).words _ hbound).1

theorem Reference.item {text : String} (h : Reference text) : Item text := by
  rcases h with hword | ⟨bound, name, hbound, hname, rfl⟩
  · exact item_of_isWord hword
  · exact .of_shaped (((item_of_isWord hbound).append (.refl ".")).append (item_of_isWord hname)) (by decide)

/-! ## Types -/

/-- The texts of Go types. -/
inductive TypeText : String → Prop
  | reference {text : String} (h : Reference text) : TypeText text
  | pointer {text : String} (h : TypeText text) : TypeText ("*" ++ text)
  | slice {text : String} (h : TypeText text) : TypeText ("[]" ++ text)
  | map {key value : String} (hkey : TypeText key) (hvalue : TypeText value) :
      TypeText ("map[" ++ key ++ "]" ++ value)

theorem TypeText.item {text : String} (h : TypeText text) : Item text := by
  induction h with
  | reference h => exact h.item
  | pointer _ ih => exact .of_shaped ((Shaped.refl "*").append ih) (by decide)
  | slice _ ih => exact .of_shaped ((Shaped.refl "[]").append ih) (by decide)
  | map _ _ hkey hvalue =>
    exact .of_shaped ((((Shaped.refl "map[").append hkey).append (.refl "]")).append hvalue) (by decide)

theorem Scalar.typeText (scalar : Scalar) : TypeText scalar.goType := by
  have hword : ∀ name, IsIdentifier name → TypeText name := fun name h => .reference (Or.inl h.isWord)
  cases scalar <;> first | exact hword _ (by decide) | exact .slice (hword "byte" (by decide))

namespace Message

theorem typeText_of_gives_elementType {message : Message} {field : Field} {type : FieldType}
    {table next : Imports} {text : String} (h : Gives (message.elementType field type) table text next)
    (hcons : table.Consistent) (hnames : ∀ ident ∈ type.idents, IsWord ident.name) : TypeText text := by
  unfold elementType at h
  split at h
  · rename_i scalar hkind
    obtain ⟨rfl, _⟩ := gives_pure.mp h
    exact scalar.typeText
  · exact absurd h not_gives_throw
  · rename_i ident hkind hident
    obtain ⟨reference, middle, hq, hp⟩ := gives_bind.mp h
    obtain ⟨rfl, _⟩ := gives_pure.mp hp
    have hname := hnames ident (by simp [FieldType.idents, FieldKind.isScalar, hkind, hident])
    exact .pointer (.reference (reference_of_qualified hcons hname (gives_qualified.mp hq)))
  · rename_i ident hkind hident
    have hname := hnames ident (by simp [FieldType.idents, FieldKind.isScalar, hkind, hident])
    exact .reference (reference_of_qualified hcons hname (gives_qualified.mp h))

theorem typeText_wrapElement (field : Field) {element : String} (h : TypeText element) :
    TypeText (wrapElement field element) := by
  unfold wrapElement
  split_ifs
  · exact .slice h
  · exact .pointer h
  · exact h

theorem typeText_of_gives {message : Message} {field : Field} {table next : Imports} {text : String}
    (h : Gives (message.goType field) table text next) (hcons : table.Consistent)
    (hnames : ∀ ident ∈ field.idents, IsWord ident.name) : TypeText text := by
  obtain ⟨_, h⟩ := gives_goType_iff.mp h
  rcases h with ⟨key, value, _, _, middle, htypes, hkey, hvalue, rfl⟩ | ⟨htypes, _, helement, rfl⟩
  · simp only [Field.idents, htypes, List.flatMap_cons, List.flatMap_nil, List.append_nil,
      List.forall_mem_append] at hnames
    obtain ⟨_, rfl⟩ := gives_elementType hkey
    exact .map (typeText_of_gives_elementType hkey hcons hnames.1)
      (typeText_of_gives_elementType hvalue (hcons.resolved _) hnames.2)
  · simp only [Field.idents, htypes, List.flatMap_cons, List.flatMap_nil, List.append_nil] at hnames
    exact typeText_wrapElement field (typeText_of_gives_elementType helement hcons hnames)

end Message

/-! ## Names in schema files -/

def Field.goNames (field : Field) : List String := field.goName :: field.idents.map (·.name)

def Message.goNames (message : Message) : List String :=
  message.ident.name :: message.fields.flatMap Field.goNames

def Method.goNames (method : Method) : List String :=
  method.goName :: (method.input.goNames ++ method.output.goNames)

def Service.goNames (service : Service) : List String :=
  service.goName :: service.methods.flatMap Method.goNames

def File.goNames (file : File) : List String := file.services.flatMap Service.goNames

/-- A parameter that can be printed. -/
structure Parameter.Printable (parameter : Parameter) : Prop where
  name : IsIdentifier parameter.name
  goType : TypeText parameter.goType
  field : IsIdentifier parameter.field.goName

theorem Parameter.Printable.item {parameter : Parameter} (h : parameter.Printable) :
    Item parameter.text :=
  .of_shaped (((item_of_isWord h.name.isWord).append (.refl " ")).append h.goType.item) (by decide)

theorem Message.typeTexts_of_gives {message : Message} {taken : List String} {fields : List Field}
    {table next : Imports} {parameters : List Parameter}
    (h : Gives (message.parametersFor taken fields) table parameters next) (hcons : table.Consistent)
    (hnames : ∀ name ∈ fields.flatMap Field.goNames, IsIdentifier name) :
    ∀ p ∈ parameters, TypeText p.goType := by
  induction fields generalizing taken table parameters with
  | nil =>
    obtain ⟨rfl, _⟩ := gives_parametersFor_nil.mp h
    simp
  | cons field rest ih =>
    obtain ⟨type, middle, others, htype, hothers, rfl⟩ := gives_parametersFor_cons.mp h
    rw [List.flatMap_cons, List.forall_mem_append] at hnames
    rw [List.forall_mem_cons]
    obtain ⟨_, rfl⟩ := gives_goType htype
    refine ⟨typeText_of_gives htype hcons ?_, ih hothers (hcons.resolved _) hnames.2⟩
    intro ident hident
    exact (hnames.1 ident.name (by simp [Field.goNames, List.mem_map_of_mem hident])).isWord

theorem Message.printable_of_gives {message : Message} {taken : List String} {table next : Imports}
    {parameters : List Parameter} (h : Gives (message.parameters taken) table parameters next)
    (hcons : table.Consistent) (hnames : ∀ name ∈ message.goNames, IsIdentifier name) :
    ∀ p ∈ parameters, p.Printable := by
  have hchosen := chosen_of_gives h
  rw [goNames, List.forall_mem_cons] at hnames
  have hfields : ∀ field ∈ message.fields, IsIdentifier field.goName := by
    intro field hfield
    exact hnames.2 _ (List.mem_flatMap.mpr ⟨field, hfield, List.mem_cons_self⟩)
  intro p hp
  refine ⟨hchosen.identifiers hfields p hp, typeTexts_of_gives h hcons hnames.2 p hp, ?_⟩
  apply hfields
  rw [← hchosen.fields_eq]
  exact List.mem_map_of_mem hp

end RpcClients
