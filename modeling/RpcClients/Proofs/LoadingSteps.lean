import RpcClients.Proofs.Resolution
import RpcClients.Schema.Load

/-! # Steps of loading

A file is loaded in steps. Some of them ask for the Go package of a file; the others only look at the
descriptors. What holds of steps of both kinds, and of steps that follow each other, holds of all of them. -/

namespace RpcClients.Schema

/-! ## Symbols -/

/-- Symbols can be added if their names can be read and they differ from each other and from those in the table. -/
theorem addSymbols_ok_iff {unreadable : List String} {table added symbols : List Symbol} :
    addSymbols unreadable table added = .ok symbols ↔
      (∀ symbol ∈ added, requireReadable unreadable .unreadableName symbol.name = .ok ()) ∧
      (added.map (·.fullName)).Nodup ∧ (∀ symbol ∈ added, symbol.fullName ∉ table.map (·.fullName)) ∧
      symbols = table ++ added := by
  induction added generalizing table with
  | nil => simp [addSymbols, eq_comm]
  | cons symbol rest ih =>
    have hfresh : findSymbol? table symbol.fullName = none ↔ symbol.fullName ∉ table.map (·.fullName) := by
      simp [findSymbol?]
    rw [addSymbols, except_bind_ok_iff]
    cases hfound : findSymbol? table symbol.fullName with
    | some first =>
      rw [hfound] at hfresh
      simp only [reduceCtorEq, false_iff, not_not, and_false, exists_const, false_iff] at hfresh ⊢
      rintro ⟨_, _, hnew, _⟩
      exact hnew symbol List.mem_cons_self hfresh
    | none =>
      have hnew := hfresh.mp hfound
      simp only [ih, List.map_append, List.map_cons, List.map_nil, List.mem_append, List.mem_singleton, not_or,
        List.forall_mem_cons, List.nodup_cons, List.append_assoc, List.singleton_append, List.mem_map]
      constructor
      · rintro ⟨_, hname, hreadable, hnodup, hdiffer, rfl⟩
        refine ⟨⟨hname, hreadable⟩, ⟨?_, hnodup⟩, ⟨by simpa using hnew, fun other hother => ?_⟩, rfl⟩
        · rintro ⟨other, hother, heq⟩
          exact (hdiffer other hother).2 heq
        · exact (hdiffer other hother).1
      · rintro ⟨⟨hname, hreadable⟩, ⟨hhead, hnodup⟩, ⟨_, hdiffer⟩, rfl⟩
        refine ⟨(), hname, hreadable, hnodup, fun other hother => ⟨hdiffer other hother, fun heq => ?_⟩, rfl⟩
        exact hhead ⟨other, hother, heq⟩

theorem addSymbols_eq {unreadable : List String} {added symbols : List Symbol}
    (h : addSymbols unreadable [] added = .ok symbols) : symbols = added := (addSymbols_ok_iff.mp h).2.2.2

theorem mem_of_resolve? {table : List Symbol} {scope typeName : String} {symbol : Symbol}
    (h : resolve? table scope typeName = some symbol) : symbol ∈ table := by
  unfold resolve? at h
  split at h
  · exact List.mem_of_find?_eq_some h
  · obtain ⟨candidate, _, h⟩ := Option.bind_eq_some_iff.mp h
    split at h <;> exact List.mem_of_find?_eq_some h

theorem findSymbol?_of_resolve? {table : List Symbol} {scope typeName : String} {symbol : Symbol}
    (h : resolve? table scope typeName = some symbol) : findSymbol? table symbol.fullName = some symbol := by
  have hself : ∀ fullName, findSymbol? table fullName = some symbol →
      findSymbol? table symbol.fullName = some symbol := by
    intro fullName hfound
    have hname : symbol.fullName = fullName := by simpa using List.find?_some hfound
    rwa [hname]
  unfold resolve? at h
  split at h
  · exact hself _ h
  · obtain ⟨candidate, _, h⟩ := Option.bind_eq_some_iff.mp h
    split at h <;> exact hself _ h

namespace Loading

variable {α β γ : Type}

/-! ## What steps load -/

/-- The step can load the value. -/
def Loads (step : Loading α) (value : α) : Prop := ∃ before after, step.run before = .ok (value, after)

theorem loads_pure {value given : α} (h : Loads (pure value) given) : given = value := by
  obtain ⟨_, _, h⟩ := h
  rw [StateT.run_pure] at h
  cases h
  rfl

theorem not_loads_throw {failure : Failure} {given : α} : ¬ Loads (throw failure) given := by
  rintro ⟨_, _, h⟩
  cases h

theorem loads_bind {step : Loading α} {rest : α → Loading β} {given : β} (h : Loads (step >>= rest) given) :
    ∃ value, Loads step value ∧ Loads (rest value) given := by
  obtain ⟨before, after, h⟩ := h
  rw [StateT.run_bind] at h
  obtain ⟨⟨value, middle⟩, hstep, hrest⟩ := except_bind_ok_iff.mp h
  exact ⟨value, ⟨_, _, hstep⟩, ⟨_, _, hrest⟩⟩

theorem loads_mapM {step : α → Loading β} {items : List α} {values : List β}
    (h : Loads (items.mapM step) values) : List.Forall₂ (fun item value => Loads (step item) value) items values := by
  induction items generalizing values with
  | nil =>
    rw [List.mapM_nil] at h
    rw [loads_pure h]
    exact .nil
  | cons item rest ih =>
    rw [List.mapM_cons] at h
    obtain ⟨value, hvalue, h⟩ := loads_bind h
    obtain ⟨others, hothers, h⟩ := loads_bind h
    rw [loads_pure h]
    exact .cons hvalue (ih hothers)

theorem resolve?_of_loads {table : SymbolTable} {scope typeName context : String} {symbol : Symbol}
    (h : Loads (resolve table scope typeName context) symbol) :
    resolve? table.symbols scope typeName = some symbol := by
  obtain ⟨_, _, h⟩ := loads_bind h
  cases hfound : resolve? table.symbols scope typeName with
  | none =>
    simp only [hfound] at h
    split_ifs at h
    · obtain ⟨_, _, h⟩ := loads_bind h
      exact absurd h not_loads_throw
    · exact absurd h not_loads_throw
  | some found =>
    simp only [hfound] at h
    split_ifs at h
    · obtain ⟨_, _, h⟩ := loads_bind h
      rw [loads_pure h]
    · rw [loads_pure h]

theorem mem_of_loads_resolve {table : SymbolTable} {scope typeName context : String} {symbol : Symbol}
    (h : Loads (resolve table scope typeName context) symbol) : symbol ∈ table.symbols :=
  mem_of_resolve? (resolve?_of_loads h)

theorem mapEntry?_eq_some {field : FieldDescriptor} {symbol : Option Symbol}
    {entry : Symbol × MessageDescriptor} (h : mapEntry? field symbol = some entry) :
    symbol = some entry.1 ∧ entry.1.message = some entry.2 ∧ entry.2.mapEntry = true := by
  unfold mapEntry? at h
  split at h
  · split at h
    · rename_i message hmessage
      split_ifs at h with hentry
      cases h
      simp only [Bool.and_eq_true] at hentry
      exact ⟨rfl, hmessage, hentry.2⟩
    · cases h
  · cases h

section Readable

-- where all texts can be read, a step fails only on a name that means nothing

variable {symbols : List Symbol} {scope typeName : String}

theorem resolve_of_some {symbol : Symbol} (h : resolve? symbols scope typeName = some symbol) (context : String) :
    resolve { symbols } scope typeName context = pure symbol := by
  have hrequire : ∀ fault text, require { symbols } fault text = pure () := fun _ _ => rfl
  unfold resolve
  simp only [hrequire, pure_bind, h]
  split_ifs <;> rfl

theorem resolve_of_none (h : resolve? symbols scope typeName = none) (context : String) :
    resolve { symbols } scope typeName context = fail (.unknownType context typeName) := by
  have hrequire : ∀ fault text, require { symbols } fault text = pure () := fun _ _ => rfl
  unfold resolve
  simp only [hrequire, pure_bind, h]
  split_ifs <;> rfl

end Readable

/-! ## Steps that give alike -/

/-- Whatever the first step gives, the second gives what is related to it, and leaves the same. -/
def Carries (related : α → β → Prop) (step : Loading α) (other : Loading β) : Prop :=
  ∀ before value after, step.run before = .ok (value, after) →
    ∃ given, related value given ∧ other.run before = .ok (given, after)

theorem carries_of_eq (step : Loading α) : Carries Eq step step :=
  fun _ value _ h => ⟨value, rfl, h⟩

theorem carries_pure {related : α → β → Prop} {value : α} {given : β} (h : related value given) :
    Carries related (pure value) (pure given) := by
  intro before result after hrun
  cases hrun
  exact ⟨given, h, rfl⟩

theorem carries_throw {related : α → β → Prop} {failure : Failure} {other : Loading β} :
    Carries related (throw failure) other := by
  intro before result after hrun
  cases hrun

theorem Carries.bind {δ : Type} {related : α → β → Prop} {next : γ → δ → Prop} {step : Loading α}
    {other : Loading β} {rest : α → Loading γ} {others : β → Loading δ} (hstep : Carries related step other)
    (hrest : ∀ value given, related value given → Carries next (rest value) (others given)) :
    Carries next (step >>= rest) (other >>= others) := by
  intro before result after hrun
  rw [StateT.run_bind] at hrun
  obtain ⟨⟨value, middle⟩, hvalue, hrun⟩ := except_bind_ok_iff.mp hrun
  obtain ⟨given, hgiven, hother⟩ := hstep _ _ _ hvalue
  obtain ⟨found, hfound, hothers⟩ := hrest value given hgiven _ _ _ hrun
  refine ⟨found, hfound, ?_⟩
  rw [StateT.run_bind, hother]
  exact hothers

theorem carries_mapM {related : α → β → Prop} {step : α → Loading γ} {other : β → Loading γ} {items : List α}
    {others : List β} (h : List.Forall₂ related items others)
    (hstep : ∀ item given, related item given → Carries Eq (step item) (other given)) :
    Carries Eq (items.mapM step) (others.mapM other) := by
  induction h with
  | nil => exact carries_pure rfl
  | cons hfirst _ ih =>
    rw [List.mapM_cons, List.mapM_cons]
    refine (hstep _ _ hfirst).bind ?_
    rintro value _ rfl
    refine ih.bind ?_
    rintro values _ rfl
    exact carries_pure rfl

theorem carries_mapM_map {change : α → β} {step : α → Loading γ} {other : β → Loading γ} {items : List α}
    (hstep : ∀ item, Carries Eq (step item) (other (change item))) :
    Carries Eq (items.mapM step) ((items.map change).mapM other) := by
  have hitems : List.Forall₂ (fun item given => given = change item) items (items.map change) := by
    rw [List.forall₂_map_right_iff, List.forall₂_same]
    simp
  refine carries_mapM hitems ?_
  rintro item _ rfl
  exact hstep item

theorem carries_mapM_mem {step other : α → Loading β} {items : List α}
    (hstep : ∀ item ∈ items, Carries Eq (step item) (other item)) :
    Carries Eq (items.mapM step) (items.mapM other) := by
  have hitems : List.Forall₂ (fun item given => item = given ∧ item ∈ items) items items :=
    List.forall₂_same.mpr fun item hitem => ⟨rfl, hitem⟩
  refine carries_mapM hitems ?_
  rintro item _ ⟨rfl, hitem⟩
  exact hstep item hitem

/-! ## Properties of all steps -/

/-- A property of steps that succeed or fail at once and of those that ask for the package of a declared symbol, and
that is kept when steps follow each other. -/
structure Closed (table : SymbolTable) (P : ∀ {α : Type}, Loading α → Prop) : Prop where
  value {α : Type} (value : α) : P (pure value : Loading α)
  failure {α : Type} (failure : Failure) : P (throw failure : Loading α)
  andThen {α β : Type} {step : Loading α} {rest : α → Loading β} (hstep : P step)
    (hrest : ∀ value, Loads step value → P (rest value)) : P (step >>= rest)
  package : ∀ symbol ∈ table.symbols, P (goPackage table symbol.file)

namespace Closed

variable {table : SymbolTable} {P : ∀ {α : Type}, Loading α → Prop} (closed : Closed table P)

include closed

theorem mapM {step : α → Loading β} {items : List α} (h : ∀ item ∈ items, P (step item)) : P (items.mapM step) := by
  induction items with
  | nil => exact closed.value []
  | cons item rest ih =>
    rw [List.forall_mem_cons] at h
    rw [List.mapM_cons]
    exact closed.andThen h.1 fun value _ => closed.andThen (ih h.2) fun values _ => closed.value (value :: values)

theorem require (fault : Fault) (text : String) : P (require table fault text) := by
  unfold Loading.require
  split
  · exact closed.value ()
  · exact closed.failure _

theorem packageOf (option : String) : P (packageOf table option) :=
  closed.andThen (closed.require _ _) fun _ _ => closed.value _

theorem importedPackage (file : FileDescriptor) : P (importedPackage table file) := by
  unfold Loading.importedPackage
  split
  · exact closed.value _
  · exact closed.packageOf _

theorem ident {symbol : Symbol} (h : symbol ∈ table.symbols) : P (ident table symbol) :=
  closed.andThen (closed.package symbol h) fun _ _ => closed.value _

theorem goName (name : String) : P (goName table name) :=
  closed.andThen (closed.require _ _) fun _ _ => closed.value _

theorem resolve (scope typeName context : String) : P (resolve table scope typeName context) := by
  refine closed.andThen (closed.require _ _) fun _ _ => ?_
  cases resolve? table.symbols scope typeName with
  | none =>
    dsimp only
    split_ifs
    · exact closed.andThen (closed.require _ _) fun _ _ => closed.failure _
    · exact closed.failure _
  | some symbol =>
    dsimp only
    split_ifs
    · exact closed.andThen (closed.require _ _) fun _ _ => closed.value _
    · exact closed.value _

theorem fieldType (owner : Symbol) (field : FieldDescriptor) : P (fieldType table owner field) := by
  unfold Loading.fieldType
  dsimp only
  split_ifs
  · exact closed.failure _
  · split
    · exact closed.value _
    · exact closed.failure _
  · refine closed.andThen (closed.resolve _ _ _) fun symbol hsymbol => ?_
    exact closed.andThen (closed.ident (mem_of_loads_resolve hsymbol)) fun _ _ => closed.value _

theorem entryField (entry : MessageDescriptor) (name : String) : P (entryField entry name) := by
  unfold Loading.entryField
  split
  · exact closed.value _
  · exact closed.failure _

theorem mapTypes (field : FieldDescriptor) (symbol : Option Symbol) : P (mapTypes table field symbol) := by
  unfold Loading.mapTypes
  split
  · exact closed.value _
  · refine closed.andThen (closed.entryField _ _) fun _ _ => closed.andThen (closed.fieldType _ _) fun _ _ => ?_
    refine closed.andThen (closed.entryField _ _) fun _ _ => closed.andThen (closed.fieldType _ _) fun _ _ => ?_
    exact closed.value _

theorem oneof (message : MessageDescriptor) (field : FieldDescriptor) : P (oneof message field) := by
  unfold Loading.oneof
  split
  · exact closed.value _
  · split
    · exact closed.value _
    · split
      · exact closed.value _
      · exact closed.failure _

theorem field (owner : Symbol) (message : MessageDescriptor) (descriptor : FieldDescriptor) :
    P (field table owner message descriptor) := by
  refine closed.andThen (closed.fieldType _ _) fun _ _ => closed.andThen (closed.mapTypes _ _) fun _ _ => ?_
  exact closed.andThen (closed.oneof _ _) fun _ _ => closed.andThen (closed.goName _) fun _ _ => closed.value _

theorem message {symbol : Symbol} (h : symbol ∈ table.symbols) : P (message table symbol) := by
  unfold Loading.message
  split
  · exact closed.failure _
  · refine closed.andThen (closed.mapM fun _ _ => closed.field _ _ _) fun _ _ => ?_
    exact closed.andThen (closed.ident h) fun _ _ => closed.value _

theorem method (file : FileDescriptor) (service : String) (serviceIndex : Nat) (descriptor : MethodDescriptor × Nat) :
    P (method table (Loading.message table) file service serviceIndex descriptor) := by
  refine closed.andThen (closed.goName _) fun _ _ => closed.andThen (closed.resolve _ _ _) fun input hinput => ?_
  refine closed.andThen (closed.message (mem_of_loads_resolve hinput)) fun _ _ => ?_
  refine closed.andThen (closed.resolve _ _ _) fun output houtput => ?_
  exact closed.andThen (closed.message (mem_of_loads_resolve houtput)) fun _ _ => closed.value _

theorem service (file : FileDescriptor) (descriptor : ServiceDescriptor × Nat) :
    P (service table (Loading.message table) file descriptor) := by
  refine closed.andThen (closed.mapM fun _ _ => closed.method _ _ _ _) fun _ _ => ?_
  exact closed.andThen (closed.goName _) fun _ _ => closed.value _

theorem file (toGenerate : List String) {descriptor : FileDescriptor} (h : P (goPackage table descriptor)) :
    P (file table (Loading.message table) toGenerate descriptor) := by
  unfold Loading.file
  split_ifs
  · refine closed.andThen h fun _ _ => ?_
    exact closed.andThen (closed.mapM fun _ _ => closed.service _ _) fun _ _ => closed.value _
  · exact closed.andThen (closed.importedPackage _) fun _ _ => closed.value _

end Closed

end Loading

end RpcClients.Schema
