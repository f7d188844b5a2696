import RpcClients.Proofs.LoadedMessages
import RpcClients.Proofs.LoadedNames
import RpcClients.Proofs.ReportedFailures
import RpcClients.Proofs.SoundDescriptors
import RpcClients.Proofs.UnitPartition

/-! # Failures of loading

If the descriptors are sound and all their texts can be read, then loading fails only with a problem of the
descriptors that is reported. What it loads has a type for each field, so that generating code from it fails
only with a reported problem that is not a missing type. -/

namespace RpcClients.Schema

namespace Loading

variable {α β : Type}

/-- The step fails only with a problem of the descriptors. -/
def Reports (step : Loading α) : Prop :=
  ∀ before failure, step.run before = .error failure → ∃ problem, failure = .descriptor problem

theorem reports_pure (value : α) : Reports (pure value) := by
  intro before failure h
  cases h

theorem reports_fail (problem : DescriptorProblem) : Reports (fail problem : Loading α) := by
  intro before failure h
  cases h
  exact ⟨problem, rfl⟩

theorem Reports.bind {step : Loading α} {rest : α → Loading β} (hstep : Reports step)
    (hrest : ∀ value, Loads step value → Reports (rest value)) : Reports (step >>= rest) := by
  intro before failure h
  rw [StateT.run_bind] at h
  cases hfirst : step.run before with
  | error first =>
    rw [hfirst] at h
    cases h
    exact hstep before _ hfirst
  | ok result =>
    rw [hfirst] at h
    exact hrest result.1 ⟨_, _, hfirst⟩ result.2 failure h

theorem reports_mapM {step : α → Loading β} {items : List α} (h : ∀ item ∈ items, Reports (step item)) :
    Reports (items.mapM step) := by
  induction items with
  | nil => exact reports_pure []
  | cons item rest ih =>
    rw [List.forall_mem_cons] at h
    rw [List.mapM_cons]
    exact h.1.bind fun value _ => (ih h.2).bind fun values _ => reports_pure (value :: values)

theorem reports_get : Reports (get : Loading (List (String × GoPackage))) := by
  intro before failure h
  cases h

theorem reports_modify (change : List (String × GoPackage) → List (String × GoPackage)) :
    Reports (modify change : Loading Unit) := by
  intro before failure h
  cases h

/-! ## Steps -/

/-- All texts can be read, and the messages that are declared are well formed. -/
structure Loadable (table : SymbolTable) : Prop where
  readable : table.unreadable = []
  wellFormed : ∀ symbol ∈ table.symbols, ∀ message ∈ symbol.message, message.WellFormed

namespace Loadable

variable {table : SymbolTable} (htable : Loadable table)

include htable

theorem require (fault : Fault) (text : String) : Reports (require table fault text) := by
  unfold Loading.require
  rw [htable.readable]
  exact reports_pure ()

theorem packageOf (option : String) : Reports (packageOf table option) :=
  (htable.require _ _).bind fun _ _ => reports_pure _

theorem goPackage (file : FileDescriptor) : Reports (goPackage table file) := by
  refine reports_get.bind fun known _ => ?_
  split
  · exact reports_pure _
  · split
    · exact reports_fail _
    · refine (htable.packageOf _).bind fun package _ => ?_
      exact (reports_modify _).bind fun _ _ => reports_pure package

theorem ident (symbol : Symbol) : Reports (ident table symbol) :=
  (htable.goPackage _).bind fun _ _ => reports_pure _

theorem goName (name : String) : Reports (goName table name) :=
  (htable.require _ _).bind fun _ _ => reports_pure _

theorem resolve (scope typeName context : String) : Reports (resolve table scope typeName context) := by
  refine (htable.require _ _).bind fun _ _ => ?_
  cases resolve? table.symbols scope typeName with
  | none =>
    simp only
    split_ifs
    · exact (htable.require _ _).bind fun _ _ => reports_fail _
    · exact reports_fail _
  | some symbol =>
    simp only
    split_ifs
    · exact (htable.require _ _).bind fun _ _ => reports_pure _
    · exact reports_pure _

theorem fieldType (owner : Symbol) (field : FieldDescriptor) : Reports (fieldType table owner field) := by
  unfold Loading.fieldType
  simp only
  split_ifs
  · exact reports_fail _
  · split
    · exact reports_pure _
    · exact reports_fail _
  · exact (htable.resolve _ _ _).bind fun symbol _ => (htable.ident symbol).bind fun _ _ => reports_pure _

end Loadable

theorem mem_of_loads_fieldType {table : SymbolTable} {owner : Symbol} {field : FieldDescriptor}
    {type : FieldType} {symbol : Option Symbol} (h : Loads (fieldType table owner field) (type, symbol)) :
    ∀ found ∈ symbol, found ∈ table.symbols := by
  unfold fieldType at h
  simp only at h
  split_ifs at h
  · exact absurd h not_loads_throw
  · split at h
    · rw [(Prod.mk.inj (loads_pure h)).2]
      simp
    · exact absurd h not_loads_throw
  · obtain ⟨resolved, hresolved, h⟩ := loads_bind h
    obtain ⟨_, _, h⟩ := loads_bind h
    rw [(Prod.mk.inj (loads_pure h)).2]
    rintro _ ⟨⟩
    exact mem_of_loads_resolve hresolved

theorem reports_entryField {entry : MessageDescriptor} {name : String}
    (h : name ∈ entry.fields.map (·.name)) : Reports (entryField entry name) := by
  obtain ⟨field, hfield, hname⟩ := List.mem_map.mp h
  unfold entryField
  split
  · exact reports_pure _
  · rename_i hnone
    rw [List.find?_eq_none] at hnone
    exact absurd (decide_eq_true hname) (hnone field (List.mem_reverse.mpr hfield))

theorem oneofAt?_isSome {oneofs : List String} {index : Int} (h : 0 ≤ index ∧ index < oneofs.length) :
    ∃ name, oneofAt? oneofs index = some name := by
  have hnot : ¬ index < 0 := by omega
  have hlt : index.toNat < oneofs.length := by omega
  exact ⟨oneofs[index.toNat], by simp [oneofAt?, hnot, hlt]⟩

theorem reports_oneof {message : MessageDescriptor} {field : FieldDescriptor}
    (h : field.RefersWithin message.oneofs.length) : Reports (oneof message field) := by
  unfold oneof
  split
  · exact reports_pure _
  · rename_i index hindex
    obtain ⟨name, hname⟩ := oneofAt?_isSome (h index hindex)
    rw [hname]
    split_ifs <;> exact reports_pure _

namespace Loadable

variable {table : SymbolTable} (htable : Loadable table)

include htable

theorem mapTypes {field : FieldDescriptor} {symbol : Option Symbol}
    (hsymbol : ∀ found ∈ symbol, found ∈ table.symbols) : Reports (mapTypes table field symbol) := by
  unfold Loading.mapTypes
  split
  · exact reports_pure _
  · rename_i found entry hentry
    obtain ⟨rfl, hmessage, hmap⟩ := mapEntry?_eq_some hentry
    have hnames := (htable.wellFormed found (hsymbol found rfl) entry hmessage).entry hmap
    refine (reports_entryField (hnames "key" (by simp))).bind fun key _ => ?_
    refine (htable.fieldType found key).bind fun _ _ => ?_
    refine (reports_entryField (hnames "value" (by simp))).bind fun value _ => ?_
    exact (htable.fieldType found value).bind fun _ _ => reports_pure _

theorem field {message : MessageDescriptor} (owner : Symbol) {descriptor : FieldDescriptor}
    (honeof : descriptor.RefersWithin message.oneofs.length) :
    Reports (field table owner message descriptor) := by
  refine (htable.fieldType owner descriptor).bind fun type htype => ?_
  refine (htable.mapTypes (mem_of_loads_fieldType htype)).bind fun map _ => ?_
  refine (reports_oneof honeof).bind fun oneof _ => ?_
  exact (htable.goName _).bind fun _ _ => reports_pure _

theorem message {symbol : Symbol} (hsymbol : symbol ∈ table.symbols) : Reports (message table symbol) := by
  unfold Loading.message
  split
  · exact reports_fail _
  · rename_i descriptor hdescriptor
    have hfields := (htable.wellFormed symbol hsymbol descriptor hdescriptor).oneof
    refine (reports_mapM fun field hfield => htable.field symbol (hfields field hfield)).bind fun _ _ => ?_
    exact (htable.ident symbol).bind fun _ _ => reports_pure _

theorem method (file : FileDescriptor) (service : String) (serviceIndex : Nat)
    (descriptor : MethodDescriptor × Nat) :
    Reports (method table (Loading.message table) file service serviceIndex descriptor) := by
  refine (htable.goName _).bind fun goName _ => ?_
  refine (htable.resolve _ _ _).bind fun input hinput => ?_
  refine (htable.message (mem_of_loads_resolve hinput)).bind fun _ _ => ?_
  refine (htable.resolve _ _ _).bind fun output houtput => ?_
  exact (htable.message (mem_of_loads_resolve houtput)).bind fun _ _ => reports_pure _

theorem service (file : FileDescriptor) (descriptor : ServiceDescriptor × Nat) :
    Reports (service table (Loading.message table) file descriptor) := by
  refine (reports_mapM fun method _ => htable.method _ _ _ method).bind fun _ _ => ?_
  exact (htable.goName _).bind fun _ _ => reports_pure _

theorem file (toGenerate : List String) (descriptor : FileDescriptor) :
    Reports (file table (Loading.message table) toGenerate descriptor) := by
  unfold Loading.file
  split_ifs
  · refine (htable.goPackage descriptor).bind fun package _ => ?_
    exact (reports_mapM fun service _ => htable.service _ service).bind fun _ _ => reports_pure _
  · refine Reports.bind ?_ fun _ _ => reports_pure _
    unfold importedPackage
    split
    · exact reports_pure _
    · exact htable.packageOf _

end Loadable

end Loading

theorem addSymbols_error {table added : List Symbol} {failure : Failure}
    (h : addSymbols [] table added = .error failure) : ∃ problem, failure = .descriptor problem := by
  induction added generalizing table with
  | nil => cases h
  | cons symbol rest ih =>
    cases hfirst : findSymbol? table symbol.fullName with
    | some first =>
      simp only [addSymbols, requireReadable, List.contains_nil, Bool.false_eq_true, if_false, hfirst] at h
      cases h
      exact ⟨_, rfl⟩
    | none =>
      simp only [addSymbols, requireReadable, List.contains_nil, Bool.false_eq_true, if_false, hfirst] at h
      exact ih h

/-- Sound descriptors fail to load only with a problem that is reported. -/
theorem load_error {descriptors : List FileDescriptor} (hsound : ∀ file ∈ descriptors, file.Sound)
    {toGenerate : List String} {failure : Failure} (h : load descriptors toGenerate = .error failure) :
    ∃ problem, failure = .descriptor problem := by
  rw [load_eq_loadAfresh] at h
  unfold loadAfresh at h
  split at h
  · cases h
    exact ⟨_, rfl⟩
  · rcases except_bind_error_iff.mp h with htable | ⟨table, htable, h⟩
    · rcases except_bind_error_iff.mp htable with hsymbols | ⟨symbols, _, hpure⟩
      · exact addSymbols_error hsymbols
      · cases hpure
    · obtain ⟨symbols, hsymbols, htable⟩ := except_bind_ok_iff.mp htable
      obtain rfl := except_pure_ok_iff.mp htable
      have hloadable : Loading.Loadable { symbols } := by
        refine ⟨rfl, fun symbol hsymbol => ?_⟩
        rw [addSymbols_eq hsymbols] at hsymbol
        obtain ⟨file, hfile, hmem⟩ := List.mem_flatMap.mp hsymbol
        exact (hsound file hfile).symbols symbol hmem
      have hfiles := Loading.reports_mapM fun file (_ : file ∈ descriptors) => hloadable.file toGenerate file
      rcases except_bind_error_iff.mp h with hrun | ⟨_, _, hpure⟩
      · exact hfiles _ _ hrun
      · cases hpure

/-! ## Types of what is loaded -/

namespace Loading

variable {table : SymbolTable}

theorem typed_of_loads_fieldType {owner : Symbol} {field : FieldDescriptor} {type : FieldType}
    {symbol : Option Symbol} (h : Loads (fieldType table owner field) (type, symbol)) : type.Typed := by
  unfold fieldType at h
  simp only at h
  split_ifs at h
  · exact absurd h not_loads_throw
  · split at h
    · rw [(Prod.mk.inj (loads_pure h)).1]
      exact Or.inl rfl
    · exact absurd h not_loads_throw
  · obtain ⟨_, _, h⟩ := loads_bind h
    obtain ⟨_, _, h⟩ := loads_bind h
    rw [(Prod.mk.inj (loads_pure h)).1]
    exact Or.inr rfl

theorem typed_of_loads_mapTypes {field : FieldDescriptor} {symbol : Option Symbol}
    {types : Option (FieldType × FieldType)} (h : Loads (mapTypes table field symbol) types) :
    ∀ entry ∈ types, entry.1.Typed ∧ entry.2.Typed := by
  unfold mapTypes at h
  split at h
  · rw [loads_pure h]
    simp
  · obtain ⟨_, _, h⟩ := loads_bind h
    obtain ⟨⟨key, _⟩, hkey, h⟩ := loads_bind h
    obtain ⟨_, _, h⟩ := loads_bind h
    obtain ⟨⟨value, _⟩, hvalue, h⟩ := loads_bind h
    rw [loads_pure h]
    rintro _ ⟨⟩
    exact ⟨typed_of_loads_fieldType hkey, typed_of_loads_fieldType hvalue⟩

theorem typed_of_loads_field {owner : Symbol} {message : MessageDescriptor} {descriptor : FieldDescriptor}
    {loaded : Field} (h : Loads (field table owner message descriptor) loaded) :
    ∀ type ∈ loaded.types, type.Typed := by
  obtain ⟨⟨type, symbol⟩, htype, h⟩ := loads_bind h
  obtain ⟨map, hmap, h⟩ := loads_bind h
  obtain ⟨_, _, h⟩ := loads_bind h
  obtain ⟨_, _, h⟩ := loads_bind h
  rw [loads_pure h]
  cases map with
  | none => simpa [Field.types] using typed_of_loads_fieldType htype
  | some entry => simpa [Field.types] using typed_of_loads_mapTypes hmap entry rfl

theorem typed_of_loads_message {symbol : Symbol} {loaded : Message} (h : Loads (message table symbol) loaded) :
    loaded.Typed := by
  unfold message at h
  split at h
  · exact absurd h not_loads_throw
  · obtain ⟨fields, hfields, h⟩ := loads_bind h
    obtain ⟨_, _, h⟩ := loads_bind h
    rw [loads_pure h]
    intro field hfield
    obtain ⟨descriptor, _, hloads⟩ := exists_of_forall₂_right (loads_mapM hfields) hfield
    exact typed_of_loads_field hloads

end Loading

theorem typed_of_load {descriptors : List FileDescriptor} {toGenerate unreadable : List String}
    {files : List File} (h : load descriptors toGenerate unreadable = .ok files) :
    ∀ file ∈ files, ∀ service ∈ file.services, service.Typed := by
  obtain ⟨_, symbols, _, _, hloaded⟩ := load_ok_iff.mp h
  have htyped : ∀ message ∈ files.flatMap File.messages, message.Typed := by
    intro message hmessage
    obtain ⟨_, _, hloads⟩ := reloads_of_run hloaded message hmessage
    exact Loading.typed_of_loads_message hloads.loads
  intro file hfile service hservice method hmethod
  have hmessages : ∀ message ∈ [method.input, method.output], message ∈ files.flatMap File.messages := by
    intro message hmessage
    refine List.mem_flatMap.mpr ⟨file, hfile, List.mem_flatMap.mpr ⟨service, hservice, ?_⟩⟩
    exact List.mem_flatMap.mpr ⟨method, hmethod, hmessage⟩
  exact ⟨htyped _ (hmessages _ (by simp)), htyped _ (hmessages _ (by simp))⟩

end RpcClients.Schema

namespace RpcClients

open Proto Schema GenerationUnit

/-! ## Runs over files that were read -/

theorem except_mapM_eq_error {α β ε : Type} {step : α → Except ε β} {items : List α} {problem : ε}
    (h : items.mapM step = .error problem) : ∃ item ∈ items, step item = .error problem := by
  induction items with
  | nil => cases h
  | cons item rest ih =>
    rw [List.mapM_cons] at h
    rcases except_bind_error_iff.mp h with hitem | ⟨_, _, h⟩
    · exact ⟨item, List.mem_cons_self, hitem⟩
    · rcases except_bind_error_iff.mp h with hrest | ⟨_, _, hpure⟩
      · obtain ⟨other, hother, herror⟩ := ih hrest
        exact ⟨other, List.mem_cons_of_mem item hother, herror⟩
      · cases hpure

theorem generate_error {options : Options} (hoptions : options.Reporting) {files : List File}
    (htyped : ∀ file ∈ files, ∀ service ∈ file.services, service.Typed) {failure : Failure}
    (h : generate options files = .error failure) :
    ∃ error, failure = .reported error ∧ ¬ error.cause.LacksType := by
  by_cases hagree : PackagesAgree (files.filter (·.generate))
  · unfold generate at h
    rw [group_eq hagree] at h
    rcases except_bind_error_iff.mp h with hunits | ⟨units, hunits, h⟩
    · cases hunits
    cases hunits
    rcases except_bind_error_iff.mp h with hparts | ⟨parts, _, h⟩
    · obtain ⟨unit, hunit, herror⟩ := except_mapM_eq_error hparts
      obtain ⟨_, _, _, hfiles⟩ := mem_of_mem_unitsOf hunit
      have hservices : ∀ service ∈ unit.services, service.Typed := by
        intro service hservice
        obtain ⟨file, hfile, hmem⟩ := List.mem_flatMap.mp hservice
        exact htyped file (hfiles hfile) service hmem
      obtain ⟨cause, hcause, rfl⟩ := unitArtifacts_reported hoptions (fun _ : True => hservices) herror
      exact ⟨_, rfl, hcause trivial⟩
    · cases hrepeated : firstRepeated? [] (parts.flatten.map Artifact.name) with
      | none =>
        simp only [hrepeated] at h
        cases h
      | some name =>
        simp only [hrepeated] at h
        cases h
        exact ⟨_, rfl, id⟩
  · obtain ⟨problem, hproblem⟩ := group_error hagree
    rw [generate, hproblem] at h
    cases h
    exact ⟨_, rfl, id⟩

/-- Files that were read, whatever they are called, can be loaded or give a reported problem of the
descriptors, whatever is to be generated. What is loaded can be generated with the default options or gives
a reported problem, which is never that a type has no reference. -/
theorem parsed_files_reported {sources : List (String × String)} {descriptors : List FileDescriptor}
    (parsed : List.Forall₂ (fun source file => parse source.1 source.2 = .ok file) sources descriptors)
    (toGenerate : List String) :
    (∃ problem, load descriptors toGenerate = .error (.descriptor problem)) ∨
    ∃ files, load descriptors toGenerate = .ok files ∧
      ((∃ artifacts, generate {} files = .ok artifacts) ∨
        ∃ error, generate {} files = .error (.reported error) ∧
          ∀ message field kind, error.cause ≠ .field message field (.noTypeReference kind)) := by
  have hsound : ∀ file ∈ descriptors, file.Sound := by
    intro file hfile
    obtain ⟨source, _, hparse⟩ := exists_of_forall₂_right parsed hfile
    exact sound_of_parse hparse
  cases hload : load descriptors toGenerate with
  | error failure =>
    obtain ⟨problem, rfl⟩ := load_error hsound hload
    exact Or.inl ⟨problem, rfl⟩
  | ok files =>
    refine Or.inr ⟨files, rfl, ?_⟩
    cases hgenerate : generate {} files with
    | ok artifacts => exact Or.inl ⟨artifacts, rfl⟩
    | error failure =>
      have hreporting : Options.Reporting {} := by simp [Options.Reporting]
      obtain ⟨error, rfl, hcause⟩ := generate_error hreporting (typed_of_load hload) hgenerate
      refine Or.inr ⟨error, rfl, ?_⟩
      intro message field kind heq
      exact hcause (by simp [heq, Cause.LacksType])

theorem parsed_files_reported_nested :
    parse nestedText "a.proto" = .ok nestedDescriptor ∧
    ∃ files, load [nestedDescriptor] ["a.proto"] = .ok files ∧
      ∃ error, generate {} files = .error (.reported error) ∧
        ∀ message field kind, error.cause ≠ .field message field (.noTypeReference kind) := by
  refine ⟨parse_nestedText, ?_⟩
  have hrun : (load [nestedDescriptor] ["a.proto"]).toOption.map (fun files => (generate {} files).toOption.isSome) =
      some false := by decide +kernel
  have hparsed : List.Forall₂ (fun source file => parse source.1 source.2 = .ok file)
      [(nestedText, "a.proto")] [nestedDescriptor] := .cons parse_nestedText .nil
  rcases parsed_files_reported hparsed ["a.proto"] with ⟨problem, hload⟩ | ⟨files, hload, hgenerate⟩
  · simp [hload, Except.toOption] at hrun
  · refine ⟨files, hload, ?_⟩
    rcases hgenerate with ⟨artifacts, hartifacts⟩ | herror
    · simp [hload, hartifacts, Except.toOption] at hrun
    · exact herror

end RpcClients
