import Mathlib.Logic.Relation
import RpcClients.Proofs.LoadedMessages
import RpcClients.Proofs.MethodScope

/-! # Names that collapse

Go names do not keep how words are told apart: several schema names have one name in camel case. The fields of a
request and the methods of a service keep their Go names, so where names of one message or of one service collapse, a
key of the request or a method of the wrapper is written twice. -/

namespace RpcClients

namespace Naming

/-! ## Respelling -/

/-- One change that the Go name of a name does not show. A letter at the start or behind a digit is raised, an
underscore goes and the letter behind it is raised, and an underscore at the start becomes an `X`. -/
inductive Respells : List Char → List Char → Prop
  | first {c : Char} (rest : List Char) (hc : c.isLower = true) : Respells (c :: rest) (c.toUpper :: rest)
  | digit {d c : Char} (before rest : List Char) (hd : d.isDigit = true) (hc : c.isLower = true) :
    Respells (before ++ d :: c :: rest) (before ++ d :: c.toUpper :: rest)
  | joined {b c : Char} (before rest : List Char) (hb : b ≠ '.') (hc : c.isLower = true) :
    Respells (before ++ b :: '_' :: c :: rest) (before ++ b :: c.toUpper :: rest)
  | leading {rest : List Char} (hrest : rest.head?.any Char.isLower = false) : Respells ('_' :: rest) ('X' :: rest)
  | leadingJoined {c : Char} (rest : List Char) (hc : c.isLower = true) :
    Respells ('_' :: c :: rest) ('X' :: c.toUpper :: rest)

variable {b b' c : Char} {before : Option Char} {cs : List Char}

theorem ne_of_isLower (h : c.isLower = true) : c ≠ '.' ∧ c ≠ '_' ∧ c.isDigit = false := by
  have := of_isIdentifierChar (fun c => !c.isLower || (c != '.' && c != '_' && !c.isDigit)) (by decide)
    (isIdentifierChar_of_isLower h)
  simpa [h, and_assoc] using this

theorem ne_of_isDigit (h : c.isDigit = true) : c ≠ '.' ∧ c ≠ '_' ∧ c.isLower = false := by
  have hchar : isIdentifierChar c = true := by
    unfold isIdentifierChar Char.isAlphanum
    simp [h]
  have := of_isIdentifierChar (fun c => !c.isDigit || (c != '.' && c != '_' && !c.isLower)) (by decide) hchar
  simpa [h, and_assoc] using this

theorem raised_of_isLower (h : c.isLower = true) :
    c.toUpper ≠ '.' ∧ c.toUpper ≠ '_' ∧ c.toUpper.isLower = false ∧ c.toUpper.isDigit = false := by
  have := of_isIdentifierChar (fun c => !c.isLower ||
      (c.toUpper != '.' && c.toUpper != '_' && !c.toUpper.isLower && !c.toUpper.isDigit)) (by decide)
    (isIdentifierChar_of_isLower h)
  simpa [h, and_assoc] using this

theorem exists_lower_head (h : cs.head?.any Char.isLower = true) : ∃ c rest, cs = c :: rest ∧ c.isLower = true := by
  cases cs with
  | nil => simp at h
  | cons c rest => exact ⟨c, rest, rfl, by simpa using h⟩

theorem camelChar_congr_after {after after' : Option Char} (h : after.any Char.isLower = after'.any Char.isLower)
    (before : Option Char) (c : Char) : camelChar before c after = camelChar before c after' := by
  unfold camelChar
  rw [h]

theorem camelChar_kept (hdot : c ≠ '.') (hunder : c ≠ '_') (h : (c.isLower && startsWord before) = false)
    (after : Option Char) : camelChar before c after = [c] := by
  simp [camelChar, hdot, hunder, h]

theorem camelChar_lower (hc : c.isLower = true) (h : startsWord before = true) (after : Option Char) :
    camelChar before c after = [c.toUpper] := by
  obtain ⟨hdot, hunder, _⟩ := ne_of_isLower hc
  simp [camelChar, hdot, hunder, hc, h]

theorem camelChar_underscore (hb : b ≠ '.') (after : Option Char) :
    camelChar (some b) '_' after = if after.any Char.isLower then [] else ['_'] := by
  simp [camelChar, hb]

theorem camelFrom_congr (hb : b ≠ '.') (hb' : b' ≠ '.')
    (h : cs.head?.any Char.isLower = true → startsWord (some b) = startsWord (some b')) :
    camelFrom (some b) cs = camelFrom (some b') cs := by
  cases cs with
  | nil => rfl
  | cons c rest =>
    rw [camelFrom, camelFrom]
    congr 1
    unfold camelChar
    cases hc : c.isLower with
    | true => simp [hb, hb', h (by simp [hc])]
    | false => simp [hb, hb']

theorem startsWord_letter (h : c.isLower = true) :
    startsWord (some c) = false ∧ startsWord (some c.toUpper) = false := by
  obtain ⟨hdot, hunder, hdigit⟩ := ne_of_isLower h
  obtain ⟨hdot', hunder', _, hdigit'⟩ := raised_of_isLower h
  simp [startsWord, hdot, hunder, hdigit, hdot', hunder', hdigit']

theorem camelFrom_raised (h : c.isLower = true) (cs : List Char) :
    camelFrom (some c.toUpper) cs = camelFrom (some c) cs := by
  refine camelFrom_congr (raised_of_isLower h).1 (ne_of_isLower h).1 fun _ => ?_
  rw [(startsWord_letter h).1, (startsWord_letter h).2]

theorem camelFrom_kept (hdot : c ≠ '.') (hunder : c ≠ '_') (h : (c.isLower && startsWord before) = false)
    (rest : List Char) : camelFrom before (c :: rest) = c :: camelFrom (some c) rest := by
  rw [camelFrom, camelChar_kept hdot hunder h]
  rfl

theorem camelFrom_capital (h : c.isLower = true) (before : Option Char) (rest : List Char) :
    camelFrom before (c.toUpper :: rest) = c.toUpper :: camelFrom (some c) rest := by
  obtain ⟨hdot, hunder, hlower, _⟩ := raised_of_isLower h
  rw [camelFrom_kept hdot hunder (by simp [hlower]), camelFrom_raised h]

theorem camelFrom_lower (h : c.isLower = true) (hbefore : startsWord before = true) (rest : List Char) :
    camelFrom before (c :: rest) = c.toUpper :: camelFrom (some c) rest := by
  rw [camelFrom, camelChar_lower h hbefore]
  rfl

theorem camelFrom_joined (hb : b ≠ '.') (h : c.isLower = true) (rest : List Char) :
    camelFrom (some b) ('_' :: c :: rest) = c.toUpper :: camelFrom (some c) rest := by
  rw [camelFrom, camelChar_underscore hb, List.head?_cons, if_pos (by simpa using h),
    camelFrom_lower h (by decide)]
  rfl

/-! ## What respelling keeps -/

theorem camelFrom_append_congr {cs ds : List Char} (hhead : cs.head? = ds.head?)
    (h : ∀ before, camelFrom before cs = camelFrom before ds) (front : List Char) (before : Option Char) :
    camelFrom before (front ++ cs) = camelFrom before (front ++ ds) := by
  induction front generalizing before with
  | nil => exact h before
  | cons c rest ih =>
    rw [List.cons_append, List.cons_append, camelFrom, camelFrom, ih, List.head?_append, hhead, ← List.head?_append]

theorem Respells.camelFrom_eq {cs ds : List Char} (h : Respells cs ds) : camelFrom none cs = camelFrom none ds := by
  cases h with
  | first rest hc => rw [camelFrom_lower hc rfl, camelFrom_capital hc]
  | @digit d c front rest hd hc =>
    refine camelFrom_append_congr (by rfl) (fun before => ?_) front none
    obtain ⟨hdot, hunder, hlower⟩ := ne_of_isDigit hd
    have hword : startsWord (some d) = true := by simp [startsWord, hd]
    have hkept : (d.isLower && startsWord before) = false := by simp [hlower]
    rw [camelFrom_kept hdot hunder hkept, camelFrom_kept hdot hunder hkept, camelFrom_lower hc hword,
      camelFrom_capital hc]
  | @joined b c front rest hb hc =>
    refine camelFrom_append_congr (by rfl) (fun before => ?_) front none
    have hafter : (some '_').any Char.isLower = (some c.toUpper).any Char.isLower :=
      (raised_of_isLower hc).2.2.1.symm
    rw [camelFrom, camelFrom_joined hb hc, camelFrom, camelFrom_capital hc]
    exact congrArg (· ++ _) (camelChar_congr_after hafter before b)
  | leading hrest =>
    rw [camelFrom, camelFrom]
    congr 1
    exact camelFrom_congr (by decide) (by decide) fun hlower => absurd hlower (by simp [hrest])
  | leadingJoined rest hc =>
    rw [camelFrom, camelFrom_lower hc (by decide), camelFrom, camelFrom_capital hc]
    rfl

/-! ## Every name can be respelled as its Go name -/

open Relation

theorem respells_camelFrom (front : List Char) (last : Char) (hlast : last ≠ '.') (cs : List Char) (hdots : '.' ∉ cs)
    (hunder : last = '_' → cs.head?.any Char.isLower = false) :
    ReflTransGen Respells (front ++ last :: cs) (front ++ last :: camelFrom (some last) cs) := by
  -- the part grows by one character of the Go name, for which one or two characters are read
  have hgrow : ∀ (next : Char) (rest more : List Char),
      ReflTransGen Respells ((front ++ [last]) ++ next :: rest) ((front ++ [last]) ++ next :: more) →
      ReflTransGen Respells (front ++ last :: next :: rest) (front ++ last :: next :: more) := by simp
  cases cs with
  | nil => exact .refl
  | cons c rest =>
    rw [List.mem_cons, not_or] at hdots
    by_cases hc : c = '_'
    · subst hc
      rw [camelFrom, camelChar_underscore hlast]
      cases hlower : rest.head?.any Char.isLower with
      | true =>
        obtain ⟨d, rest, rfl, hd⟩ := exists_lower_head hlower
        obtain ⟨hdot, hne, _⟩ := raised_of_isLower hd
        rw [if_pos rfl, List.nil_append, camelFrom_lower hd (by decide), ← camelFrom_raised hd]
        refine .head (.joined front rest hlast hd) (hgrow _ _ _ ?_)
        exact respells_camelFrom _ _ hdot rest (fun h => hdots.2 (List.mem_cons_of_mem _ h)) fun h => absurd h hne
      | false =>
        rw [if_neg (by simp)]
        exact hgrow _ _ _ (respells_camelFrom _ _ (by decide) rest hdots.2 fun _ => hlower)
    · cases hraised : c.isLower && startsWord (some last) with
      | true =>
        rw [Bool.and_eq_true] at hraised
        -- a word starts behind a digit only, for an underscore would have gone with the letter
        have hdigit : last.isDigit = true := by
          have hne : last ≠ '_' := by
            intro h
            simpa [hraised.1] using hunder h
          simpa [startsWord, hlast, hne] using hraised.2
        obtain ⟨hdot, hne, _⟩ := raised_of_isLower hraised.1
        rw [camelFrom_lower hraised.1 hraised.2, ← camelFrom_raised hraised.1]
        refine .head (.digit front rest hdigit hraised.1) (hgrow _ _ _ ?_)
        exact respells_camelFrom _ _ hdot rest hdots.2 fun h => absurd h hne
      | false =>
        rw [camelFrom_kept (Ne.symm hdots.1) hc hraised]
        exact hgrow _ _ _ (respells_camelFrom _ _ (Ne.symm hdots.1) rest hdots.2 fun h => absurd h hc)
termination_by cs.length

theorem respells_behind_raised (front : List Char) (h : c.isLower = true) {rest : List Char} (hdots : '.' ∉ rest) :
    ReflTransGen Respells (front ++ c.toUpper :: rest) (front ++ c.toUpper :: camelFrom (some c) rest) := by
  obtain ⟨hdot, hne, _⟩ := raised_of_isLower h
  rw [← camelFrom_raised h]
  exact respells_camelFrom front _ hdot rest hdots fun h => absurd h hne

theorem respells_camelCase {name : String} (hdots : '.' ∉ name.toList) :
    ReflTransGen Respells name.toList (camelCase name).toList := by
  rw [camelCase, String.toList_ofList]
  cases hname : name.toList with
  | nil => exact .refl
  | cons c rest =>
    rw [hname, List.mem_cons, not_or] at hdots
    by_cases hc : c = '_'
    · subst hc
      have hfirst : camelChar none '_' rest.head? = ['X'] := by simp [camelChar]
      rw [camelFrom, hfirst, List.singleton_append]
      cases hlower : rest.head?.any Char.isLower with
      | true =>
        obtain ⟨d, rest, rfl, hd⟩ := exists_lower_head hlower
        rw [camelFrom_lower hd (by decide)]
        refine .head (.leadingJoined rest hd) (respells_behind_raised ['X'] hd ?_)
        exact fun h => hdots.2 (List.mem_cons_of_mem _ h)
      | false =>
        have hrest : camelFrom (some '_') rest = camelFrom (some 'X') rest :=
          camelFrom_congr (by decide) (by decide) fun h => absurd h (by simp [hlower])
        rw [hrest]
        exact .head (.leading hlower) (respells_camelFrom [] 'X' (by decide) rest hdots.2 fun h => absurd h (by decide))
    · cases hlower : c.isLower with
      | true =>
        rw [camelFrom_lower hlower rfl]
        exact .head (.first rest hlower) (respells_behind_raised [] hlower hdots.2)
      | false =>
        rw [camelFrom_kept (Ne.symm hdots.1) hc (by simp [hlower])]
        exact respells_camelFrom [] c (Ne.symm hdots.1) rest hdots.2 fun h => absurd h hc

/-- The names can be respelled as one name. -/
def Collapse (name other : String) : Prop := Join (ReflTransGen Respells) name.toList other.toList

theorem camelCase_eq_of_collapse {name other : String} (h : Collapse name other) :
    camelCase name = camelCase other := by
  have hkept : ∀ {cs ds}, ReflTransGen Respells cs ds → camelFrom none cs = camelFrom none ds := by
    intro cs ds h
    induction h with
    | refl => rfl
    | tail _ hstep ih => exact ih.trans hstep.camelFrom_eq
  obtain ⟨cs, hname, hother⟩ := h
  rw [camelCase, camelCase, hkept hname, hkept hother]

/-- Names without dots have one Go name if and only if they collapse. -/
theorem camelCase_eq_iff {name other : String} (hname : '.' ∉ name.toList) (hother : '.' ∉ other.toList) :
    camelCase name = camelCase other ↔ Collapse name other := by
  refine ⟨fun h => ⟨_, respells_camelCase hname, ?_⟩, camelCase_eq_of_collapse⟩
  rw [h]
  exact respells_camelCase hother

/-- No two of the names collapse. -/
def Apart (names : List String) : Prop := names.Pairwise fun name other => ¬ Collapse name other

theorem nodup_camelCase_iff {names : List String} (h : ∀ name ∈ names, '.' ∉ name.toList) :
    (names.map camelCase).Nodup ↔ Apart names := by
  rw [List.Nodup, List.pairwise_map]
  refine List.Pairwise.iff_of_mem fun {name other} hname hother => ?_
  exact (camelCase_eq_iff (h name hname) (h other hother)).not

end Naming

open Naming Resolving

namespace Schema

/-! ## Names of loaded members -/

def DeclaresFields (descriptors : List FileDescriptor) (fullName : String) (names : List String) : Prop :=
  ∃ symbol ∈ descriptors.flatMap FileDescriptor.symbols, symbol.fullName = fullName ∧
    ∃ message ∈ symbol.message, message.fields.map (·.name) = names

def DeclaresMethods (descriptors : List FileDescriptor) (fullName : String) (names : List String) : Prop :=
  ∃ file ∈ descriptors, ∃ service ∈ file.services, inScope file.package service.name = fullName ∧
    service.methods.map (·.name) = names

namespace Loading

variable {table : SymbolTable}

theorem goName_of_loads_field {owner : Symbol} {message : MessageDescriptor} {descriptor : FieldDescriptor}
    {loaded : Field} (h : Loads (field table owner message descriptor) loaded) :
    camelCase descriptor.name = loaded.goName := by
  obtain ⟨_, _, h⟩ := loads_bind h
  obtain ⟨_, _, h⟩ := loads_bind h
  obtain ⟨_, _, h⟩ := loads_bind h
  obtain ⟨goName, hgoName, h⟩ := loads_bind h
  rw [loads_pure h, eq_of_loads_goName hgoName]

theorem goNames_of_loads_message {symbol : Symbol} {loaded : Message} (h : Loads (message table symbol) loaded) :
    ∃ descriptor ∈ symbol.message,
      loaded.fields.map (·.goName) = (descriptor.fields.map (·.name)).map camelCase := by
  unfold message at h
  split at h
  · exact absurd h not_loads_throw
  · rename_i descriptor hdescriptor
    obtain ⟨fields, hfields, h⟩ := loads_bind h
    obtain ⟨_, _, h⟩ := loads_bind h
    rw [loads_pure h]
    refine ⟨descriptor, hdescriptor, ?_⟩
    rw [List.map_map]
    exact (map_eq_map_of_forall₂ ((loads_mapM hfields).imp fun _ _ hfield => goName_of_loads_field hfield)).symm

theorem goName_of_loads_method {file : FileDescriptor} {service : String} {serviceIndex : Nat}
    {descriptor : MethodDescriptor × Nat} {loaded : Method}
    (h : Loads (method table (message table) file service serviceIndex descriptor) loaded) :
    camelCase descriptor.1.name = loaded.goName ∧
      ∃ symbol ∈ table.symbols, Loads (message table symbol) loaded.input := by
  obtain ⟨goName, hgoName, h⟩ := loads_bind h
  obtain ⟨symbol, hsymbol, h⟩ := loads_bind h
  obtain ⟨input, hinput, h⟩ := loads_bind h
  obtain ⟨_, _, h⟩ := loads_bind h
  obtain ⟨_, _, h⟩ := loads_bind h
  rw [loads_pure h]
  exact ⟨(eq_of_loads_goName hgoName).symm, symbol, mem_of_loads_resolve hsymbol, hinput⟩

theorem goNames_of_loads_service {file : FileDescriptor} {descriptor : ServiceDescriptor × Nat} {loaded : Service}
    (h : Loads (service table (message table) file descriptor) loaded) :
    inScope file.package descriptor.1.name = loaded.fullName ∧
      loaded.methods.map (·.goName) = (descriptor.1.methods.map (·.name)).map camelCase ∧
      ∀ method ∈ loaded.methods, ∃ symbol ∈ table.symbols, Loads (message table symbol) method.input := by
  obtain ⟨methods, hmethods, h⟩ := loads_bind h
  obtain ⟨_, _, h⟩ := loads_bind h
  have hmethods := (loads_mapM hmethods).imp fun _ _ hmethod => goName_of_loads_method hmethod
  rw [loads_pure h]
  refine ⟨rfl, ?_, ?_⟩
  · rw [← map_eq_map_of_forall₂ (hmethods.imp fun _ _ h => h.1), List.map_map]
    conv_rhs => rw [← List.zipIdx_map_fst 0 descriptor.1.methods, List.map_map]
    rfl
  · intro method hmethod
    obtain ⟨_, _, hinput⟩ := exists_of_forall₂_right hmethods hmethod
    exact hinput.2

end Loading

theorem members_of_load {descriptors : List FileDescriptor} {toGenerate unreadable : List String} {files : List File}
    (h : load descriptors toGenerate unreadable = .ok files) {loaded : File} (hloaded : loaded ∈ files)
    {service : Service} (hservice : service ∈ loaded.services) :
    (∃ names, DeclaresMethods descriptors service.fullName names ∧
      service.methods.map (·.goName) = names.map camelCase) ∧
    ∀ method ∈ service.methods, ∃ names, DeclaresFields descriptors method.input.fullName names ∧
      method.input.fields.map (·.goName) = names.map camelCase := by
  obtain ⟨_, symbols, after, hsymbols, hrun⟩ := load_ok_iff.mp h
  obtain rfl := addSymbols_eq hsymbols
  obtain ⟨source, hsource, hloads⟩ := exists_of_forall₂_right (Loading.loads_mapM ⟨_, _, hrun⟩) hloaded
  unfold Loading.file at hloads
  split_ifs at hloads
  · obtain ⟨_, _, hloads⟩ := Loading.loads_bind hloads
    obtain ⟨services, hservices, hloads⟩ := Loading.loads_bind hloads
    rw [Loading.loads_pure hloads] at hservice
    obtain ⟨declared, hdeclared, hloads⟩ := exists_of_forall₂_right (Loading.loads_mapM hservices) hservice
    obtain ⟨hname, hmethods, hinputs⟩ := Loading.goNames_of_loads_service hloads
    refine ⟨⟨_, ⟨source, hsource, declared.1, List.fst_mem_of_mem_zipIdx hdeclared, hname, rfl⟩, hmethods⟩, ?_⟩
    intro method hmethod
    obtain ⟨symbol, hsymbol, hinput⟩ := hinputs method hmethod
    obtain ⟨descriptor, hdescriptor, hfields⟩ := Loading.goNames_of_loads_message hinput
    exact ⟨_, ⟨symbol, hsymbol, (Loading.fullName_of_loads_message hinput).symm, descriptor, hdescriptor, rfl⟩, hfields⟩
  · obtain ⟨_, _, hloads⟩ := Loading.loads_bind hloads
    rw [Loading.loads_pure hloads] at hservice
    cases hservice

end Schema

/-! ## Members of wrappers -/

def WrapperMethod.requestKeys (method : WrapperMethod) : List String := method.parameters.map (·.field.goName)

/-- In a run on loaded files, the wrapper of a service has the methods that are declared for it, and the request of a
method has the fields of its message, all under their names in camel case. So methods and keys are distinct if and only
if no two of the declared names collapse. -/
theorem members_distinct_iff {descriptors : List Schema.FileDescriptor} {toGenerate unreadable : List String}
    {files : List File} {options : Options} {artifacts : List Artifact}
    (loaded : Schema.load descriptors toGenerate unreadable = .ok files)
    (h : generate options files unreadable = .ok artifacts) :
    ∃ units, GenerationUnit.group files = .ok units ∧
      ∀ artifact ∈ artifacts, artifact.kind = .file →
        ∃ unit ∈ units, ∃ file ∈ unit.serviceFiles, ∃ target wrappers,
          PrintsWrappers options unit target file wrappers artifact ∧
          List.Forall₂ (fun service wrapper =>
            (∃ names, Schema.DeclaresMethods descriptors service.fullName names ∧
              wrapper.methods.map (·.name) = names.map camelCase ∧
              ((∀ name ∈ names, '.' ∉ name.toList) → ((wrapper.methods.map (·.name)).Nodup ↔ Apart names))) ∧
            List.Forall₂ (fun method emitted =>
              ∃ names, Schema.DeclaresFields descriptors method.input.fullName names ∧
                emitted.requestKeys = names.map camelCase ∧
                ((∀ name ∈ names, '.' ∉ name.toList) → (emitted.requestKeys.Nodup ↔ Apart names)))
              service.methods wrapper.methods) file.services wrappers := by
  obtain ⟨units, hunits, hsources⟩ := sources_of_generate h
  refine ⟨units, hunits, ?_⟩
  intro artifact hartifact hkind
  obtain ⟨unit, hunit, target, source, htarget, rfl, hprovider | ⟨file, hfile, hwrappers⟩⟩ :=
    hsources artifact hartifact
  · rw [SourceFile.artifact, (kind_of_providerFile hprovider).1] at hkind
    cases hkind
  · obtain ⟨name, wrappers, contextPath, zapPath, _, _, _, rfl, hservices⟩ :=
      GenerationUnit.eq_filed_of_wrapperFile hwrappers
    refine ⟨unit, hunit, file, hfile, target, wrappers, ⟨htarget, name, rfl⟩, ?_⟩
    have hmem : file ∈ files :=
      ((GenerationUnit.group_collects hunits unit hunit).2 file (List.mem_of_mem_filter hfile)).1
    refine forall₂_imp_of_mem ?_ hservices
    rintro service hservice wrapper ⟨_, _, _, hmethods⟩
    obtain ⟨⟨names, hdeclared, hnames⟩, hinputs⟩ := Schema.members_of_load loaded hmem hservice
    constructor
    · have hmembers : wrapper.methods.map (·.name) = names.map camelCase := by
        rw [← hnames]
        refine (map_eq_map_of_forall₂ (hmethods.imp ?_)).symm
        rintro method emitted ⟨before, left, hgives, _⟩
        obtain ⟨_, _, _, _, _, _, _, _, _, _, rfl⟩ := Method.gives_wrapped_iff.mp hgives
        rfl
      exact ⟨names, hdeclared, hmembers, fun hdots => hmembers ▸ nodup_camelCase_iff hdots⟩
    · refine forall₂_imp_of_mem ?_ hmethods
      rintro method hmethod emitted ⟨before, left, hgives, _⟩
      obtain ⟨names, hdeclared, hnames⟩ := hinputs method hmethod
      have hkeys : emitted.requestKeys = names.map camelCase := by
        rw [← hnames, ← (Method.fields_of_gives hgives).1, List.map_map]
        rfl
      exact ⟨names, hdeclared, hkeys, fun hdots => hkeys ▸ nodup_camelCase_iff hdots⟩

/-- A file with two fields, and two methods, that Go does not tell apart. -/
def collapsing : Schema.FileDescriptor :=
  { name := "a.proto", package := "a"
    messages := [{ name := "Req", fields := [{ name := "foo_bar", type := some (.scalar .string) },
      { name := "FooBar", type := some (.scalar .string) }] }]
    services := [{ name := "Svc", methods := [{ name := "get", inputType := ".a.Req", outputType := ".a.Req" },
      { name := "Get", inputType := ".a.Req", outputType := ".a.Req" }] }]
    options := { goPackage := some "x/b" }, version := "proto3" }

def collapsingFile : File :=
  let text (name : String) : Field := { name, goName := "FooBar", type := { kind := .scalar .string } }
  let request : Message := { fullName := "a.Req", ident := ⟨"Req", "x/b"⟩, fields := [text "foo_bar", text "FooBar"] }
  let method (name : String) : Method :=
    { name, goName := "Get", fullName := "a.Svc." ++ name, input := request, output := request }
  { name := "a.proto", package := "a", importPath := "x/b", packageName := "b"
    services := [{ name := "Svc", goName := "Svc", fullName := "a.Svc", methods := [method "get", method "Get"] }] }

theorem load_collapsing : Schema.load [collapsing] ["a.proto"] = .ok [collapsingFile] := by rfl

theorem members_distinct_iff_collapsing :
    ∃ artifacts, Schema.load [collapsing] ["a.proto"] = .ok [collapsingFile] ∧
      generate shortOptions [collapsingFile] = .ok artifacts ∧
      ∀ artifact ∈ artifacts, artifact.kind = .file →
        ∃ unit target wrappers, PrintsWrappers shortOptions unit target collapsingFile wrappers artifact ∧
          ∃ wrapper ∈ wrappers, ¬ (wrapper.methods.map (·.name)).Nodup ∧
            ∃ emitted ∈ wrapper.methods, ¬ emitted.requestKeys.Nodup := by
  have hrun : (generate shortOptions [collapsingFile]).toOption.isSome = true := by decide +kernel
  have hgroup : GenerationUnit.group [collapsingFile] = .ok [⟨"x/b", "b", [collapsingFile]⟩] := by rfl
  cases h : generate shortOptions [collapsingFile] with
  | error failure => simp [h, Except.toOption] at hrun
  | ok artifacts =>
    obtain ⟨units, hunits, hartifacts⟩ := members_distinct_iff load_collapsing h
    rw [hgroup] at hunits
    cases hunits
    refine ⟨artifacts, load_collapsing, rfl, ?_⟩
    intro artifact hartifact hkind
    obtain ⟨unit, hunit, file, hfile, target, wrappers, hprints, hservices⟩ := hartifacts artifact hartifact hkind
    obtain rfl := List.mem_singleton.mp hunit
    obtain rfl : file = collapsingFile := List.mem_singleton.mp (List.mem_of_mem_filter hfile)
    obtain ⟨wrapper, _, ⟨⟨names, hnames, _, hmembers⟩, hmethods⟩, _, rfl⟩ := List.forall₂_cons_left_iff.mp hservices
    obtain ⟨emitted, _, ⟨keys, hkeys, _, hfields⟩, _, hmethods⟩ := List.forall₂_cons_left_iff.mp hmethods
    refine ⟨_, target, _, hprints, wrapper, List.mem_cons_self, ?_, emitted, by simp [hmethods], ?_⟩
    · obtain ⟨_, hsource, service, hservice, _, rfl⟩ := hnames
      obtain rfl := List.mem_singleton.mp hsource
      obtain rfl := List.mem_singleton.mp hservice
      rw [hmembers (by decide)]
      intro hapart
      refine (List.pairwise_cons.mp hapart).1 "Get" (by decide) ⟨"Get".toList, ?_, .refl⟩
      exact .single (.first _ (by decide))
    · obtain ⟨symbol, hsymbol, _, message, hmessage, rfl⟩ := hkeys
      obtain rfl := List.mem_singleton.mp hsymbol
      cases hmessage
      rw [hfields (by decide)]
      intro hapart
      refine (List.pairwise_cons.mp hapart).1 "FooBar" (by decide) ⟨"FooBar".toList, ?_, .refl⟩
      exact .head (.joined ['f', 'o'] _ (by decide) (by decide)) (.single (.first _ (by decide)))

theorem collapsing_repeats_members :
    (∀ message ∈ collapsing.messages, (message.fields.map (·.name)).Nodup) ∧
    (∀ service ∈ collapsing.services, (service.methods.map (·.name)).Nodup) ∧
    Schema.load [collapsing] ["a.proto"] = .ok [collapsingFile] ∧
    (generate shortOptions [collapsingFile]).toOption.isSome = true ∧
    (do
      (← GenerationUnit.group [collapsingFile]).mapM fun unit => do
        let target ← unit.target shortOptions
        let wrappers ← ((unit.wrappers shortOptions collapsingFile.services []).outcome target.table).1
        return wrappers.flatMap fun wrapper => wrapper.methods.map fun method => (method.name, method.call.drop 3) :
      Except Failure (List (List (String × List String)))).toOption =
    some [[("Get", ["FooBar: fooBar,", "FooBar: fooBar_,", "\x7d,", ")"]),
      ("Get", ["FooBar: fooBar,", "FooBar: fooBar_,", "\x7d,", ")"])]] :=
  ⟨by decide, by decide, load_collapsing, by decide +kernel, by decide +kernel⟩

end RpcClients
