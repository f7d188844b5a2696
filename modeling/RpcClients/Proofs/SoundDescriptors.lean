import RpcClients.Proofs.DescribedFile
import RpcClients.Schema.Symbol

/-! # Sound descriptors

Loading takes the key and the value of a map entry and the oneof of a field without asking whether they are
there. In the descriptor of a file that was read they always are, at every level of nesting. -/

namespace RpcClients.Schema

/-- The field refers to no oneof, or to one of the first `count`. -/
def FieldDescriptor.RefersWithin (count : Nat) (field : FieldDescriptor) : Prop :=
  ∀ index ∈ field.oneofIndex, 0 ≤ index ∧ index < count

/-- A map entry has a key and a value, and fields refer to oneofs of their message. -/
structure MessageDescriptor.WellFormed (message : MessageDescriptor) : Prop where
  entry : message.mapEntry = true → ∀ name ∈ ["key", "value"], name ∈ message.fields.map (·.name)
  oneof : ∀ field ∈ message.fields, field.RefersWithin message.oneofs.length

mutual

/-- A message and all messages nested in it. -/
def MessageDescriptor.within : MessageDescriptor → List MessageDescriptor
  | ⟨name, fields, nested, enums, oneofs, mapEntry⟩ =>
    ⟨name, fields, nested, enums, oneofs, mapEntry⟩ :: messagesWithin nested

def messagesWithin : List MessageDescriptor → List MessageDescriptor
  | [] => []
  | message :: rest => message.within ++ messagesWithin rest

end

def MessageDescriptor.Sound (message : MessageDescriptor) : Prop := ∀ part ∈ message.within, part.WellFormed

/-- All messages of a file are well formed, nested ones too. -/
def FileDescriptor.Sound (file : FileDescriptor) : Prop := ∀ message ∈ file.messages, message.Sound

theorem mem_messagesWithin {part : MessageDescriptor} {messages : List MessageDescriptor} :
    part ∈ messagesWithin messages ↔ ∃ message ∈ messages, part ∈ message.within := by
  induction messages with
  | nil => simp [messagesWithin]
  | cons message rest ih => simp [messagesWithin, ih]

theorem MessageDescriptor.sound_iff {message : MessageDescriptor} :
    message.Sound ↔ message.WellFormed ∧ ∀ nested ∈ message.nested, nested.Sound := by
  obtain ⟨name, fields, nested, enums, oneofs, mapEntry⟩ := message
  unfold Sound
  rw [within, List.forall_mem_cons]
  refine and_congr_right fun _ => ?_
  constructor
  · intro h message hmessage part hpart
    exact h part (mem_messagesWithin.mpr ⟨message, hmessage, hpart⟩)
  · intro h part hpart
    obtain ⟨message, hmessage, hpart⟩ := mem_messagesWithin.mp hpart
    exact h message hmessage part hpart

/-! ## Symbols -/

mutual

theorem mem_within_of_mem_messageSymbols {file : FileDescriptor} {scope lead : String} :
    (message : MessageDescriptor) → ∀ symbol ∈ messageSymbols file scope lead message,
      ∀ declared ∈ symbol.message, declared ∈ message.within
  | ⟨name, fields, nested, enums, oneofs, mapEntry⟩ => by
    rw [messageSymbols, MessageDescriptor.within]
    simp only [List.forall_mem_cons, List.forall_mem_append]
    refine ⟨by simp, ?_, ?_⟩
    · intro symbol hsymbol declared hdeclared
      exact List.mem_cons_of_mem _ (mem_messagesWithin_of_mem_nestedSymbols nested symbol hsymbol declared hdeclared)
    · intro symbol hsymbol
      obtain ⟨enum, _, rfl⟩ := List.mem_map.mp hsymbol
      simp [EnumDescriptor.symbol]

theorem mem_messagesWithin_of_mem_nestedSymbols {file : FileDescriptor} {scope lead : String} :
    (messages : List MessageDescriptor) → ∀ symbol ∈ nestedSymbols file scope lead messages,
      ∀ declared ∈ symbol.message, declared ∈ messagesWithin messages
  | [] => by simp [nestedSymbols]
  | message :: rest => by
    rw [nestedSymbols, messagesWithin, List.forall_mem_append]
    constructor
    · intro symbol hsymbol declared hdeclared
      exact List.mem_append_left _ (mem_within_of_mem_messageSymbols message symbol hsymbol declared hdeclared)
    · intro symbol hsymbol declared hdeclared
      exact List.mem_append_right _ (mem_messagesWithin_of_mem_nestedSymbols rest symbol hsymbol declared hdeclared)

end

theorem mem_messagesWithin_of_mem_symbols {file : FileDescriptor} {symbol : Symbol} (h : symbol ∈ file.symbols)
    {message : MessageDescriptor} (hmessage : message ∈ symbol.message) : message ∈ messagesWithin file.messages := by
  rcases List.mem_append.mp h with h | h
  · exact mem_messagesWithin_of_mem_nestedSymbols _ symbol h message hmessage
  · obtain ⟨enum, _, rfl⟩ := List.mem_map.mp h
    cases hmessage

theorem FileDescriptor.Sound.symbols {file : FileDescriptor} (h : file.Sound) :
    ∀ symbol ∈ file.symbols, ∀ message ∈ symbol.message, message.WellFormed := by
  intro symbol hsymbol message hmessage
  obtain ⟨outer, houter, hpart⟩ := mem_messagesWithin.mp (mem_messagesWithin_of_mem_symbols hsymbol hmessage)
  exact h outer houter message hpart

end RpcClients.Schema

namespace RpcClients.Proto

open Schema

/-! ## Descriptors of declarations -/

theorem described_field {proto3 : Bool} {decl : FieldDecl} {field : FieldDescriptor}
    (h : decl.described proto3 = .ok field) : field.name = decl.name ∧ field.oneofIndex = none := by
  unfold FieldDecl.described at h
  obtain ⟨_, _, h⟩ := except_bind_ok_iff.mp h
  split_ifs at h
  obtain rfl := except_pure_ok_iff.mp h
  exact ⟨rfl, rfl⟩

theorem sound_entry {proto3 : Bool} {map : MapDecl} {entry : MessageDescriptor}
    (h : map.entry proto3 = .ok entry) : entry.Sound := by
  unfold MapDecl.entry at h
  split at h
  · cases h
  · obtain ⟨key, hkey, h⟩ := except_bind_ok_iff.mp h
    obtain ⟨value, hvalue, h⟩ := except_bind_ok_iff.mp h
    obtain rfl := except_pure_ok_iff.mp h
    obtain ⟨hkeyName, hkeyOneof⟩ := described_field hkey
    obtain ⟨hvalueName, hvalueOneof⟩ := described_field hvalue
    rw [MessageDescriptor.sound_iff]
    exact ⟨⟨by simp [hkeyName, hvalueName], by simp [FieldDescriptor.RefersWithin, hkeyOneof, hvalueOneof]⟩, by simp⟩

theorem described_map {map : MapDecl} {entry : String} {field : FieldDescriptor}
    (h : map.described entry = .ok field) : field.oneofIndex = none := by
  unfold MapDecl.described at h
  obtain ⟨_, _, h⟩ := except_bind_ok_iff.mp h
  obtain rfl := except_pure_ok_iff.mp h
  rfl

/-- A message to which items can still be added: it is sound and no map entry. -/
def Growing (message : MessageDescriptor) : Prop := message.Sound ∧ message.mapEntry = false

theorem growing_new (name : String) : Growing { name } :=
  ⟨MessageDescriptor.sound_iff.mpr ⟨⟨by simp, by simp⟩, by simp⟩, rfl⟩

theorem Growing.add {message : MessageDescriptor} (h : Growing message) (fields : List FieldDescriptor)
    (nested : List MessageDescriptor) (enums : List EnumDescriptor) (oneofs : List String)
    (hnested : ∀ added ∈ nested, added.Sound)
    (hfields : ∀ field ∈ fields, field.RefersWithin (message.oneofs ++ oneofs).length) :
    Growing { message with
      fields := message.fields ++ fields, nested := message.nested ++ nested, enums
      oneofs := message.oneofs ++ oneofs } := by
  obtain ⟨hsound, hentry⟩ := h
  obtain ⟨hmessage, hbefore⟩ := MessageDescriptor.sound_iff.mp hsound
  refine ⟨MessageDescriptor.sound_iff.mpr ⟨⟨by simp [hentry], ?_⟩, ?_⟩, hentry⟩
  · rw [List.forall_mem_append]
    refine ⟨?_, hfields⟩
    intro field hfield index hindex
    have := hmessage.oneof field hfield index hindex
    rw [List.length_append]
    omega
  · rw [List.forall_mem_append]
    exact ⟨hbefore, hnested⟩

mutual

theorem growing_describeItem {proto3 : Bool} {message described : MessageDescriptor} (item : MessageItem)
    (hmessage : Growing message) (h : describeItem proto3 message item = .ok described) : Growing described := by
  match item with
  | .field decl =>
    obtain ⟨field, hfield, h⟩ := except_bind_ok_iff.mp h
    obtain rfl := except_pure_ok_iff.mp h
    simpa using hmessage.add [field] [] message.enums [] (by simp)
      (by simp [FieldDescriptor.RefersWithin, (described_field hfield).2])
  | .map map =>
    obtain ⟨entry, hentry, h⟩ := except_bind_ok_iff.mp h
    obtain ⟨field, hfield, h⟩ := except_bind_ok_iff.mp h
    obtain rfl := except_pure_ok_iff.mp h
    simpa using hmessage.add [field] [entry] message.enums [] (by simpa using sound_entry hentry)
      (by simp [FieldDescriptor.RefersWithin, described_map hfield])
  | .oneof name decls =>
    obtain ⟨fields, _, h⟩ := except_bind_ok_iff.mp h
    obtain rfl := except_pure_ok_iff.mp h
    have hfields : ∀ field ∈ fields.map fun field => { field with oneofIndex := some (message.oneofs.length : Int) },
        field.RefersWithin (message.oneofs ++ [name]).length := by
      rw [List.forall_mem_map]
      rintro _ _ index ⟨⟩
      rw [List.length_append, List.length_singleton]
      omega
    simpa using hmessage.add _ [] message.enums [name] (by simp) hfields
  | .message name items =>
    obtain ⟨nested, hnested, h⟩ := except_bind_ok_iff.mp h
    obtain ⟨_, _, h⟩ := except_bind_ok_iff.mp h
    obtain rfl := except_pure_ok_iff.mp h
    have hsound := (growing_describeItems items (growing_new name) hnested).1
    simpa using hmessage.add [] [nested] message.enums [] (by simpa using hsound) (by simp)
  | .enum decl =>
    obtain ⟨enum, _, h⟩ := except_bind_ok_iff.mp h
    obtain rfl := except_pure_ok_iff.mp h
    simpa using hmessage.add [] [] (message.enums ++ [enum]) [] (by simp) (by simp)

theorem growing_describeItems {proto3 : Bool} {message described : MessageDescriptor} (items : List MessageItem)
    (hmessage : Growing message) (h : describeItems proto3 message items = .ok described) : Growing described := by
  match items with
  | [] =>
    cases h
    exact hmessage
  | item :: rest =>
    obtain ⟨next, hnext, h⟩ := except_bind_ok_iff.mp h
    exact growing_describeItems rest (growing_describeItem item hmessage hnext) h

end

/-- The descriptor of a text that was read is sound. -/
theorem sound_of_parse {text name : String} {file : FileDescriptor} (h : parse text name = .ok file) :
    file.Sound := by
  obtain ⟨tree, _, h⟩ := parse_ok_iff.mp h
  obtain ⟨_, parts, hparts, rfl⟩ := SourceTree.described_ok_iff.mp h
  intro message hmessage
  obtain ⟨decl, _, hdecl⟩ := exists_of_forall₂_right hparts.messages hmessage
  unfold describeMessage at hdecl
  obtain ⟨described, hdescribed, hdecl⟩ := except_bind_ok_iff.mp hdecl
  obtain ⟨_, _, hdecl⟩ := except_bind_ok_iff.mp hdecl
  obtain rfl := except_pure_ok_iff.mp hdecl
  exact (growing_describeItems decl.2 (growing_new decl.1) hdescribed).1

/-- A schema file with a map, a oneof, an optional field and nested types. -/
def nestedText : String :=
  "syntax=\"proto3\";package p;option go_package=\"x/p\";" ++
  "message M\x7bmap<string,N> m=1;oneof o\x7bE a=2;\x7doptional N n=3;message N\x7b\x7denum E\x7bA=0;\x7d\x7d" ++
  "service S\x7brpc Get(M)returns(M.N);\x7d"

def nestedDescriptor : FileDescriptor :=
  { name := "a.proto", package := "p", version := "proto3", options := { goPackage := some "x/p" }
    messages :=
      [{ name := "M"
         fields :=
           [{ name := "m", number := 1, label := .repeated, type := some .message, typeName := "MEntry",
              jsonName := "m" },
            { name := "a", number := 2, typeName := "E", oneofIndex := some 0, jsonName := "a" },
            { name := "n", number := 3, typeName := "N", jsonName := "n", proto3Optional := true }]
         nested :=
           [{ name := "MEntry", mapEntry := true
              fields := [{ name := "key", number := 1, type := some (.scalar .string), jsonName := "key" },
                         { name := "value", number := 2, typeName := "N", jsonName := "value" }] },
            { name := "N" }]
         enums := [{ name := "E", values := [("A", 0)] }]
         oneofs := ["o"] }]
    services := [{ name := "S", methods := [{ name := "Get", inputType := "M", outputType := "M.N" }] }] }

theorem parse_nestedText : parse nestedText "a.proto" = .ok nestedDescriptor := by decide +kernel

end RpcClients.Proto
