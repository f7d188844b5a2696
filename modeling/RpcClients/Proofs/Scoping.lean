import Mathlib.Data.Nat.Find
import RpcClients.Proofs.LoadingOrder
import RpcClients.Proofs.Pieces

/-! # Scopes

A relative type name is looked for from the innermost scope outwards, and the first scope that knows its first
component decides. A scope knows a type that is declared in it, and also a package below it. So a name without dots
means the type that is declared in the innermost scope, unless a package of that name stands in a scope further in. -/

namespace RpcClients.Schema

/-! ## The scopes around a scope -/

/-- The scope that the first components of a scope make up. -/
def outerScope (scope : String) (count : Nat) : String := String.intercalate "." ((scopeParts scope).take count)

/-- The scope of the first `count` components is the innermost one around a scope that has the property. -/
structure Innermost (scope : String) (property : String → Prop) (count : Nat) : Prop where
  le : count ≤ (scopeParts scope).length
  holds : property (outerScope scope count)
  further : ∀ more, count < more → more ≤ (scopeParts scope).length → ¬ property (outerScope scope more)

theorem mem_enclosing_iff {scope outer : String} :
    outer ∈ enclosing scope ↔ ∃ count ≤ (scopeParts scope).length, outer = outerScope scope count := by
  simp only [enclosing, List.mem_map, List.mem_reverse, List.mem_range, Nat.lt_succ_iff, outerScope, eq_comm]

section

variable {scope : String} {P : String → Prop}

theorem exists_innermost {count : Nat} (hle : count ≤ (scopeParts scope).length)
    (hcount : P (outerScope scope count)) : ∃ inner, count ≤ inner ∧ Innermost scope P inner := by
  classical
  refine ⟨Nat.findGreatest (fun count => P (outerScope scope count)) (scopeParts scope).length,
    Nat.le_findGreatest hle hcount, Nat.findGreatest_le _, ?_, ?_⟩
  · exact Nat.findGreatest_spec (P := fun count => P (outerScope scope count)) hle hcount
  · intro more hmore hlength
    exact Nat.findGreatest_is_greatest hmore hlength

theorem find?_enclosing {p : String → Bool} {count : Nat} (h : Innermost scope (fun outer => p outer = true) count) :
    (enclosing scope).find? p = some (outerScope scope count) := by
  have hsearch : ∀ length, count ≤ length → length ≤ (scopeParts scope).length →
      ((List.range (length + 1)).reverse.map (outerScope scope)).find? p = some (outerScope scope count) := by
    intro length hcount hlength
    induction length with
    | zero =>
      obtain rfl : count = 0 := by omega
      simpa using h.holds
    | succ length ih =>
      rw [List.range_succ, List.reverse_append, List.map_append, List.reverse_singleton, List.map_singleton,
        List.singleton_append, List.find?_cons]
      rcases Nat.lt_or_ge length count with hlast | hfurther
      · obtain rfl : count = length + 1 := by omega
        rw [h.holds]
      · have hnot := h.further (length + 1) (by omega) hlength
        rw [Bool.not_eq_true] at hnot
        rw [hnot]
        exact ih hfurther (by omega)
  exact hsearch _ h.le le_rfl

end

/-! ## What a scope knows -/

variable {symbols : List Symbol} {scope name : String} {symbol : Symbol}

def Declared (symbols : List Symbol) (fullName : String) : Prop := fullName ∈ symbols.map (·.fullName)

/-- Something is declared inside of a name, as inside of a package. -/
def HasMembers (symbols : List Symbol) (name : String) : Prop :=
  ∃ symbol ∈ symbols, name.toList ++ ['.'] <+: symbol.fullName.toList

theorem isKnown_iff : isKnown symbols name = true ↔ Declared symbols name ∨ HasMembers symbols name := by
  simp only [isKnown, List.any_eq_true, Bool.or_eq_true, decide_eq_true_eq, List.isPrefixOf_iff_prefix, Declared,
    HasMembers, List.mem_map]
  constructor
  · rintro ⟨symbol, hsymbol, hname | hinside⟩
    · exact .inl ⟨symbol, hsymbol, hname⟩
    · exact .inr ⟨symbol, hsymbol, hinside⟩
  · rintro (⟨symbol, hsymbol, hname⟩ | ⟨symbol, hsymbol, hinside⟩)
    · exact ⟨symbol, hsymbol, .inl hname⟩
    · exact ⟨symbol, hsymbol, .inr hinside⟩

theorem findSymbol?_eq_none_iff : findSymbol? symbols name = none ↔ ¬ Declared symbols name := by
  simp [findSymbol?, Declared]

/-! ## Names without dots -/

theorem resolve?_undotted (hdot : '.' ∉ name.toList) :
    resolve? symbols scope name =
      (((enclosing scope).map (inScope · name)).find? (isKnown symbols)).bind (findSymbol? symbols) := by
  rw [resolve?, Text.cut_of_not_mem hdot]
  split
  · rename_i heq
    cases (Prod.mk.inj heq).2
  · rename_i heq
    obtain ⟨rfl, rfl⟩ := Prod.mk.inj heq
    rw [String.ofList_toList]
    rfl

/-- The innermost scope that knows the name decides. -/
theorem resolve?_of_innermost (hdot : '.' ∉ name.toList) {count : Nat}
    (h : Innermost scope (fun outer => isKnown symbols (inScope outer name) = true) count) :
    resolve? symbols scope name = findSymbol? symbols (inScope (outerScope scope count) name) := by
  rw [resolve?_undotted hdot, List.find?_map, Function.comp_def, find?_enclosing h]
  rfl

/-- The symbol is the type of that name in the innermost scope that declares one. -/
def Means (symbols : List Symbol) (scope name : String) (symbol : Symbol) : Prop :=
  symbol ∈ symbols ∧ ∃ count, Innermost scope (fun outer => Declared symbols (inScope outer name)) count ∧
    symbol.fullName = inScope (outerScope scope count) name

/-- A scope declares a type of that name, and in a scope further in a package has the name. -/
def HiddenByPackage (symbols : List Symbol) (scope name : String) : Prop :=
  ∃ count, Innermost scope (fun outer => Declared symbols (inScope outer name)) count ∧
    ∃ more, count < more ∧ more ≤ (scopeParts scope).length ∧ HasMembers symbols (inScope (outerScope scope more) name)

theorem exists_means_of_innermost {count : Nat}
    (h : Innermost scope (fun outer => Declared symbols (inScope outer name)) count) :
    ∃ symbol, Means symbols scope name symbol := by
  obtain ⟨symbol, hsymbol, hname⟩ := List.mem_map.mp h.holds
  exact ⟨symbol, hsymbol, count, h, hname⟩

theorem resolve?_of_means (distinct : (symbols.map (·.fullName)).Nodup) (hdot : '.' ∉ name.toList)
    (h : Means symbols scope name symbol) (hhidden : ¬ HiddenByPackage symbols scope name) :
    resolve? symbols scope name = some symbol := by
  obtain ⟨hsymbol, count, hcount, hname⟩ := h
  have hknown : Innermost scope (fun outer => isKnown symbols (inScope outer name) = true) count := by
    refine ⟨hcount.le, isKnown_iff.mpr (.inl hcount.holds), fun more hmore hlength hknown => ?_⟩
    rcases isKnown_iff.mp hknown with hdeclared | hmembers
    · exact hcount.further more hmore hlength hdeclared
    · exact hhidden ⟨count, hcount, more, hmore, hlength, hmembers⟩
  rw [resolve?_of_innermost hdot hknown]
  exact (findSymbol?_eq_some_iff distinct).mpr ⟨hsymbol, hname⟩

theorem resolve?_of_hidden (hdot : '.' ∉ name.toList) (h : HiddenByPackage symbols scope name) :
    resolve? symbols scope name = none := by
  obtain ⟨count, hcount, more, hmore, hlength, hmembers⟩ := h
  obtain ⟨inner, hinner, hknown⟩ := exists_innermost
    (P := fun outer => isKnown symbols (inScope outer name) = true) hlength (isKnown_iff.mpr (.inr hmembers))
  rw [resolve?_of_innermost hdot hknown]
  exact findSymbol?_eq_none_iff.mpr (hcount.further inner (by omega) hknown.le)

theorem resolve?_of_meaningless (hdot : '.' ∉ name.toList) (h : ∀ symbol, ¬ Means symbols scope name symbol) :
    resolve? symbols scope name = none := by
  rw [resolve?_undotted hdot]
  cases hfound : ((enclosing scope).map (inScope · name)).find? (isKnown symbols) with
  | none => rfl
  | some candidate =>
    obtain ⟨outer, houter, rfl⟩ := List.mem_map.mp (List.mem_of_find?_eq_some hfound)
    obtain ⟨count, hle, rfl⟩ := mem_enclosing_iff.mp houter
    refine findSymbol?_eq_none_iff.mpr fun hdeclared => ?_
    obtain ⟨inner, _, hinner⟩ := exists_innermost
      (P := fun outer => Declared symbols (inScope outer name)) hle hdeclared
    obtain ⟨symbol, hsymbol⟩ := exists_means_of_innermost hinner
    exact h symbol hsymbol

/-! ## Types of fields -/

namespace Loading

/-- The type of a field that is of the type of a symbol. -/
def typeOf (table : SymbolTable) (symbol : Symbol) : Loading (FieldType × Option Symbol) := do
  return ({ kind := symbol.kind, ident := some (← ident table symbol) }, some symbol)

/-- The failure of a field whose type name means nothing. -/
def unknownType (owner : Symbol) (field : FieldDescriptor) : DescriptorProblem :=
  .unknownType (owner.fullName ++ "." ++ field.name) field.typeName

variable {owner : Symbol} {field : FieldDescriptor}

theorem fieldType_of_some (hgroup : field.type ≠ some .group) (hname : field.typeName ≠ "")
    (h : resolve? symbols owner.fullName field.typeName = some symbol) :
    fieldType { symbols } owner field = typeOf { symbols } symbol := by
  unfold fieldType
  simp only
  rw [if_neg hgroup, if_neg hname, resolve_of_some h, pure_bind]
  rfl

theorem fieldType_of_none (hgroup : field.type ≠ some .group) (hname : field.typeName ≠ "")
    (h : resolve? symbols owner.fullName field.typeName = none) :
    fieldType { symbols } owner field = fail (unknownType owner field) := by
  unfold fieldType
  simp only
  rw [if_neg hgroup, if_neg hname, resolve_of_none h]
  rfl

theorem typeOf_ne_fail (table : SymbolTable) (symbol : Symbol) (problem : DescriptorProblem) :
    typeOf table symbol ≠ fail problem := by
  intro heq
  have hrun := congrArg (fun step => step.run [(symbol.file.name, ⟨"", ""⟩)]) heq
  simp only [typeOf, ident, StateT.run_bind] at hrun
  rw [run_goPackage_of_some List.lookup_cons_self] at hrun
  cases hrun

/-- The field has the type that its name means, and only a name that means nothing is reported as unknown. -/
structure FollowsScoping (table : SymbolTable) (owner : Symbol) (field : FieldDescriptor) : Prop where
  found : ∀ symbol, Means table.symbols owner.fullName field.typeName symbol →
    fieldType table owner field = typeOf table symbol
  unknown : (∀ symbol, ¬ Means table.symbols owner.fullName field.typeName symbol) →
    fieldType table owner field = fail (unknownType owner field)

/-- Let the files declare no full name twice. Then the loader takes the symbols of all of them, and a field whose type
name has no dots follows the rules of scoping, unless a package hides the type; then the type is reported as
unknown. -/
theorem fieldType_follows_scoping_iff {files : List FileDescriptor}
    (distinct : ((files.flatMap FileDescriptor.symbols).map (·.fullName)).Nodup) (owner : Symbol)
    {field : FieldDescriptor} (hgroup : field.type ≠ some .group) (hname : field.typeName ≠ "")
    (hdot : '.' ∉ field.typeName.toList) :
    let table : SymbolTable := { symbols := files.flatMap FileDescriptor.symbols }
    SymbolTable.ofFiles [] files = .ok table ∧
    (FollowsScoping table owner field ↔ ¬ HiddenByPackage table.symbols owner.fullName field.typeName) ∧
    (HiddenByPackage table.symbols owner.fullName field.typeName →
      fieldType table owner field = fail (unknownType owner field)) := by
  intro table
  have hadded : addSymbols [] [] (files.flatMap FileDescriptor.symbols) = .ok table.symbols :=
    addSymbols_ok_iff.mpr ⟨fun _ _ => rfl, distinct, by simp, rfl⟩
  have hunknown : HiddenByPackage table.symbols owner.fullName field.typeName →
      fieldType table owner field = fail (unknownType owner field) :=
    fun hhidden => fieldType_of_none hgroup hname (resolve?_of_hidden hdot hhidden)
  refine ⟨?_, ⟨fun hfollows hhidden => ?_, fun hhidden => ⟨?_, ?_⟩⟩, hunknown⟩
  · rw [SymbolTable.ofFiles, hadded]
    rfl
  · have hfail := hunknown hhidden
    obtain ⟨count, hcount, _⟩ := hhidden
    obtain ⟨symbol, hsymbol⟩ := exists_means_of_innermost hcount
    exact typeOf_ne_fail _ symbol _ ((hfollows.found symbol hsymbol).symm.trans hfail)
  · intro symbol hsymbol
    exact fieldType_of_some hgroup hname (resolve?_of_means distinct hdot hsymbol hhidden)
  · intro hnothing
    exact fieldType_of_none hgroup hname (resolve?_of_meaningless hdot hnothing)

def hiddenField : FieldDescriptor := { name := "x", number := 1, typeName := "n" }

/-- A type without a package, a message with a field of that type, and a package of the same name beside the
message. -/
def hiddenTypeFiles : List FileDescriptor :=
  [{ name := "n.proto", options := { goPackage := some "x/n" }, messages := [{ name := "n" }] },
   { name := "a.proto", package := "a", options := { goPackage := some "x/a" }
     messages := [{ name := "M", fields := [hiddenField] }]
     services := [{ name := "S", methods := [{ name := "G", inputType := "M", outputType := "M" }] }] },
   { name := "an.proto", package := "a.n", options := { goPackage := some "x/an" }, messages := [{ name := "K" }] }]

theorem innermost_hiddenTypeFiles : Innermost "a.M"
    (fun outer => Declared (hiddenTypeFiles.flatMap FileDescriptor.symbols) (inScope outer "n")) 0 where
  le := by decide
  holds := by
    unfold Declared
    decide
  further := by
    intro more hmore hlength
    have hcases : more = 1 ∨ more = 2 := by
      have hlength : more ≤ 2 := hlength
      omega
    unfold Declared
    rcases hcases with rfl | rfl <;> decide

theorem hiddenByPackage_hiddenTypeFiles :
    HiddenByPackage (hiddenTypeFiles.flatMap FileDescriptor.symbols) "a.M" "n" := by
  refine ⟨0, innermost_hiddenTypeFiles, 1, by decide, by decide, ?_⟩
  unfold HasMembers
  decide

theorem fieldType_follows_scoping_iff_hidden :
    ∃ owner ∈ hiddenTypeFiles.flatMap FileDescriptor.symbols, owner.fullName = "a.M" ∧
      ¬ FollowsScoping { symbols := hiddenTypeFiles.flatMap FileDescriptor.symbols } owner hiddenField ∧
      fieldType { symbols := hiddenTypeFiles.flatMap FileDescriptor.symbols } owner hiddenField =
        fail (.unknownType "a.M.x" "n") := by
  obtain ⟨owner, howner, hname⟩ : ∃ owner ∈ hiddenTypeFiles.flatMap FileDescriptor.symbols, owner.fullName = "a.M" := by
    decide
  have distinct : ((hiddenTypeFiles.flatMap FileDescriptor.symbols).map (·.fullName)).Nodup := by decide
  obtain ⟨_, hiff, hunknown⟩ := fieldType_follows_scoping_iff distinct owner
    (by decide : hiddenField.type ≠ some .group) (by decide) (by decide)
  have hhidden : HiddenByPackage (hiddenTypeFiles.flatMap FileDescriptor.symbols) owner.fullName hiddenField.typeName :=
    hname ▸ hiddenByPackage_hiddenTypeFiles
  refine ⟨owner, howner, hname, fun hfollows => hiff.mp hfollows hhidden, ?_⟩
  rw [hunknown hhidden, unknownType, hname]
  rfl

theorem hiddenTypeFiles_lose_type :
    ((hiddenTypeFiles.flatMap FileDescriptor.symbols).map (·.fullName)).Nodup ∧
    (∃ symbol, Means (hiddenTypeFiles.flatMap FileDescriptor.symbols) "a.M" "n" symbol ∧ symbol.fullName = "n") ∧
    load hiddenTypeFiles ["a.proto"] = .error (.descriptor (.unknownType "a.M.x" "n")) := by
  refine ⟨by decide, ?_, by rfl⟩
  obtain ⟨symbol, hsymbol, hname⟩ := List.mem_map.mp innermost_hiddenTypeFiles.holds
  exact ⟨symbol, ⟨hsymbol, 0, innermost_hiddenTypeFiles, hname⟩, hname⟩

end Loading

end RpcClients.Schema
