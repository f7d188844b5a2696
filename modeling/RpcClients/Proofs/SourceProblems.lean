import RpcClients.Proofs.DescribedFile

/-! # Problems of sources

A source has problems of two kinds. Some are reported; the others escape: they end the run without a report. A source
is refused for the first problem that is found in it, so its problems are listed here in the order in which they are
found, and whether a bad source is reported depends on the first of them. -/

namespace RpcClients.Proto

open Schema

inductive SourceProblem where
  | unreadable (file : String) (position : Position)
  | version (file : String) (name : List Nat)
  | requiredField (name : String)
  | mapKey (field key : String)
  | escaping (fault : Fault)
deriving DecidableEq, Repr

def SourceProblem.failure : SourceProblem → Failure
  | unreadable file position => .descriptor (.syntaxError file position.line position.column)
  | version file name => .descriptor (.unsupportedSyntax file name)
  | requiredField name => .descriptor (.requiredField name)
  | mapKey field key => .descriptor (.mapKey field key)
  | escaping fault => .fault fault

/-! ## The problems in order -/

def problemIf (condition : Prop) [Decidable condition] (problem : SourceProblem) : List SourceProblem :=
  if condition then [problem] else []

/-- Numbers have 32 bits. -/
def numberProblems (number : Int) : List SourceProblem :=
  problemIf (¬ (minInt32 ≤ number ∧ number ≤ maxInt32)) (.escaping .numberOutOfRange)

def FieldDecl.problems (proto3 : Bool) (field : FieldDecl) : List SourceProblem :=
  numberProblems field.number ++
    problemIf (field.label = some .required && proto3) (.requiredField field.name)

def MapDecl.problems (map : MapDecl) : List SourceProblem :=
  problemIf ((mapKey? map.key).isNone) (.mapKey map.name map.key) ++ numberProblems map.number

def EnumDecl.problems (enum : EnumDecl) : List SourceProblem := enum.values.flatMap fun value => numberProblems value.2

mutual

/-- How many levels of descriptors an item adds to a message. -/
def MessageItem.levels : MessageItem → Nat
  | .field _ => 1
  | .map _ => 2
  | .oneof _ _ => 1
  | .message _ items => itemsLevels items + 1
  | .enum enum => if enum.values.isEmpty then 1 else 2

def itemsLevels : List MessageItem → Nat
  | [] => 0
  | item :: rest => max item.levels (itemsLevels rest)

end

def levelProblems (items : List MessageItem) : List SourceProblem :=
  problemIf (Wire.maxDepth < itemsLevels items) (.escaping .tooManyLevels)

mutual

def MessageItem.problems (proto3 : Bool) : MessageItem → List SourceProblem
  | .field field => field.problems proto3
  | .map map => map.problems
  | .oneof _ fields => fields.flatMap (·.problems proto3)
  | .message _ items => itemsProblems proto3 items ++ levelProblems items
  | .enum enum => enum.problems

def itemsProblems (proto3 : Bool) : List MessageItem → List SourceProblem
  | [] => []
  | item :: rest => item.problems proto3 ++ itemsProblems proto3 rest

end

/-- Some statements may stand only once. -/
def repetitionProblems {α : Type} (values : List α) : List SourceProblem :=
  problemIf (1 < values.length) (.escaping .repeatedStatement)

/-- A descriptor holds no half of a surrogate pair. -/
def textProblems (codes : List Nat) : List SourceProblem :=
  problemIf ((Text.ofCodes? codes).isNone) (.escaping .loneSurrogate)

namespace SourceTree

def versionProblems (tree : SourceTree) (file : String) : List SourceProblem :=
  repetitionProblems tree.versions ++
    tree.versions.flatMap fun name => problemIf ((languageOf? name).isNone) (.version file name)

def isProto3 (tree : SourceTree) : Bool := tree.versions.head?.bind languageOf? = some "proto3"

/-- The problems of a source that can be read. What reading noted comes first: a literal that cannot be decoded, or
nesting that is too deep. Then come the statements that may stand once, the texts and the declarations. -/
def problems (tree : SourceTree) (file : String) : List SourceProblem :=
  tree.fault.toList.map .escaping ++ tree.versionProblems file ++ repetitionProblems tree.packages ++
    tree.imports.flatMap (fun item => textProblems item.2) ++ tree.goPackages.flatMap textProblems ++
    tree.messages.flatMap (fun message => itemsProblems tree.isProto3 message.2 ++ levelProblems message.2) ++
    tree.enums.flatMap EnumDecl.problems

end SourceTree

/-- The problems of a source. If it cannot be read, nothing more is found. -/
def sourceProblems (text name : String) : List SourceProblem :=
  match SourceTree.ofText text.toList with
  | .error position => [.unreadable name position]
  | .ok tree => tree.problems name

/-- The problem for which a source is refused. -/
def firstProblem? (text name : String) : Option SourceProblem := (sourceProblems text name).head?

/-! ## Steps that detect problems -/

/-- The step fails with the first of the problems, and succeeds if there are none. -/
inductive Detects {α : Type} : Except Failure α → List SourceProblem → Prop
  | nothing (value : α) : Detects (.ok value) []
  | first (problem : SourceProblem) (others : List SourceProblem) : Detects (.error problem.failure) (problem :: others)

section

variable {α β : Type}

theorem Detects.bind {step : Except Failure α} {rest : α → Except Failure β} {problems others : List SourceProblem}
    (hstep : Detects step problems) (hrest : ∀ value, step = .ok value → Detects (rest value) others) :
    Detects (step >>= rest) (problems ++ others) := by
  cases hstep with
  | nothing value => exact hrest value rfl
  | first problem more => exact .first problem (more ++ others)

theorem Detects.andReturn {step : Except Failure α} {rest : α → β} {problems : List SourceProblem}
    (hstep : Detects step problems) : Detects (step >>= fun value => pure (rest value)) problems := by
  rw [← List.append_nil problems]
  exact hstep.bind fun value _ => .nothing (rest value)

theorem detects_mapM {step : α → Except Failure β} {problems : α → List SourceProblem}
    (h : ∀ item, Detects (step item) (problems item)) (items : List α) :
    Detects (items.mapM step) (items.flatMap problems) := by
  induction items with
  | nil => exact .nothing []
  | cons item rest ih =>
    rw [List.mapM_cons, List.flatMap_cons]
    exact (h item).bind fun _ _ => ih.andReturn

theorem detects_forM {step : α → Except Failure PUnit} {problems : α → List SourceProblem}
    (h : ∀ item, Detects (step item) (problems item)) (items : List α) :
    Detects (items.forM step) (items.flatMap problems) := by
  induction items with
  | nil => exact .nothing PUnit.unit
  | cons item rest ih => exact (h item).bind fun _ _ => ih

theorem detects_nothing_of_not {condition : Prop} [Decidable condition] (h : ¬ condition) (problem : SourceProblem)
    (value : α) : Detects (.ok value) (problemIf condition problem) := by
  rw [problemIf, if_neg h]
  exact .nothing value

theorem detects_of {condition : Prop} [Decidable condition] (h : condition) (problem : SourceProblem) :
    Detects (.error problem.failure : Except Failure α) (problemIf condition problem) := by
  rw [problemIf, if_pos h]
  exact .first problem []

end

/-! ## Declarations -/

theorem detects_requireInt32 (number : Int) : Detects (requireInt32 number) (numberProblems number) := by
  unfold requireInt32 numberProblems
  split_ifs with hrange
  · exact detects_nothing_of_not (not_not.mpr hrange) _ ()
  · exact detects_of hrange (.escaping .numberOutOfRange)

theorem detects_field (proto3 : Bool) (field : FieldDecl) :
    Detects (field.described proto3) (field.problems proto3) := by
  refine (detects_requireInt32 field.number).bind fun _ _ => ?_
  split_ifs with hrequired
  · exact detects_of hrequired (.requiredField field.name)
  · exact detects_nothing_of_not hrequired _ _

theorem detects_entryField (proto3 : Bool) (type : TypeRef) (name : String) {number : Nat} (h : number ≤ 2) :
    Detects (FieldDecl.described proto3 { type, name, number }) [] := by
  have hrange : minInt32 ≤ number ∧ number ≤ maxInt32 := by
    unfold minInt32 maxInt32
    omega
  have hnone : FieldDecl.problems proto3 { type, name, number } = [] := by
    simp [FieldDecl.problems, numberProblems, problemIf, hrange]
  rw [← hnone]
  exact detects_field proto3 _

theorem detects_entry (proto3 : Bool) (map : MapDecl) :
    Detects (map.entry proto3) (problemIf ((mapKey? map.key).isNone) (.mapKey map.name map.key)) := by
  unfold MapDecl.entry
  cases mapKey? map.key with
  | none => exact detects_of rfl (.mapKey map.name map.key)
  | some scalar =>
    refine (detects_entryField proto3 _ "key" (by decide)).bind fun key _ => ?_
    exact (detects_entryField proto3 _ "value" (by decide)).andReturn

theorem detects_mapField (map : MapDecl) (entry : String) : Detects (map.described entry) (numberProblems map.number) :=
  (detects_requireInt32 map.number).andReturn

theorem detects_enum (enum : EnumDecl) : Detects enum.described enum.problems := by
  have hvalues : Detects (enum.values.forM fun value => requireInt32 value.2) enum.problems :=
    detects_forM (fun value => detects_requireInt32 value.2) enum.values
  exact hvalues.andReturn

/-! ## Levels -/

theorem foldr_max_append (levels more : List Nat) :
    (levels ++ more).foldr max 0 = max (levels.foldr max 0) (more.foldr max 0) := by
  induction levels with
  | nil => simp
  | cons level rest ih => rw [List.cons_append, List.foldr_cons, List.foldr_cons, ih, Nat.max_assoc]

theorem levels_add (message : MessageDescriptor) (fields : List FieldDescriptor) (nested : List MessageDescriptor)
    (enums : List EnumDescriptor) (oneofs : List String) :
    MessageDescriptor.levels
        { message with
          fields := message.fields ++ fields, nested := message.nested ++ nested, enums := message.enums ++ enums
          oneofs := message.oneofs ++ oneofs } =
      max message.levels (MessageDescriptor.levels { fields, nested, enums, oneofs }) := by
  obtain ⟨name, old, inner, oldEnums, oldOneofs, mapEntry⟩ := message
  have hparts : (if (old ++ fields).isEmpty && (oldOneofs ++ oneofs).isEmpty && !mapEntry then 0 else 1) =
      max (if old.isEmpty && oldOneofs.isEmpty && !mapEntry then 0 else 1)
        (if fields.isEmpty && oneofs.isEmpty && !false then 0 else 1) := by
    cases old <;> cases oldOneofs <;> cases fields <;> cases oneofs <;> cases mapEntry <;> rfl
  simp only [MessageDescriptor.levels, levelsWith_append, List.map_append, foldr_max_append]
  rw [hparts]
  ac_rfl

theorem levels_entry {proto3 : Bool} {map : MapDecl} {entry : MessageDescriptor} (h : map.entry proto3 = .ok entry) :
    entry.levels = 1 := by
  unfold MapDecl.entry at h
  cases hkey : mapKey? map.key with
  | none =>
    rw [hkey] at h
    cases h
  | some scalar =>
    rw [hkey] at h
    obtain ⟨key, _, h⟩ := except_bind_ok_iff.mp h
    obtain ⟨value, _, h⟩ := except_bind_ok_iff.mp h
    rw [except_pure_ok_iff.mp h]
    simp [MessageDescriptor.levels, levelsWith]

theorem levels_enum {decl : EnumDecl} {enum : EnumDescriptor} (h : decl.described = .ok enum) :
    enum.levels + 1 = (MessageItem.enum decl).levels := by
  obtain ⟨_, _, h⟩ := except_bind_ok_iff.mp h
  rw [except_pure_ok_iff.mp h, EnumDescriptor.levels, MessageItem.levels]
  split_ifs <;> rfl

mutual

theorem levels_describeItem {proto3 : Bool} {message next : MessageDescriptor} (item : MessageItem)
    (h : describeItem proto3 message item = .ok next) : next.levels = max message.levels item.levels := by
  match item with
  | .field decl =>
    obtain ⟨field, _, h⟩ := except_bind_ok_iff.mp h
    rw [except_pure_ok_iff.mp h]
    simpa [MessageDescriptor.levels, levelsWith, MessageItem.levels] using levels_add message [field] [] [] []
  | .map map =>
    obtain ⟨entry, hentry, h⟩ := except_bind_ok_iff.mp h
    obtain ⟨field, _, h⟩ := except_bind_ok_iff.mp h
    have hlevels := levels_entry hentry
    rw [except_pure_ok_iff.mp h]
    simpa [MessageDescriptor.levels, levelsWith, MessageItem.levels, hlevels] using
      levels_add message [field] [entry] [] []
  | .oneof name decls =>
    obtain ⟨fields, _, h⟩ := except_bind_ok_iff.mp h
    rw [except_pure_ok_iff.mp h]
    simpa [MessageDescriptor.levels, levelsWith, MessageItem.levels] using
      levels_add message (fields.map fun field => { field with oneofIndex := some message.oneofs.length }) [] [] [name]
  | .message name items =>
    obtain ⟨nested, hnested, h⟩ := except_bind_ok_iff.mp h
    obtain ⟨_, _, h⟩ := except_bind_ok_iff.mp h
    have hlevels : nested.levels = itemsLevels items := by
      rw [levels_describeItems items hnested]
      simp [MessageDescriptor.levels, levelsWith]
    rw [except_pure_ok_iff.mp h]
    simpa [MessageDescriptor.levels, levelsWith, MessageItem.levels, hlevels] using levels_add message [] [nested] [] []
  | .enum decl =>
    obtain ⟨enum, henum, h⟩ := except_bind_ok_iff.mp h
    have hlevels := levels_enum henum
    rw [except_pure_ok_iff.mp h, ← hlevels]
    simpa [MessageDescriptor.levels, levelsWith] using levels_add message [] [] [enum] []

/-- A message has as many levels as its items say. -/
theorem levels_describeItems {proto3 : Bool} {message next : MessageDescriptor} (items : List MessageItem)
    (h : describeItems proto3 message items = .ok next) : next.levels = max message.levels (itemsLevels items) := by
  match items with
  | [] =>
    cases h
    simp [itemsLevels]
  | item :: rest =>
    obtain ⟨middle, hitem, hrest⟩ := except_bind_ok_iff.mp h
    rw [levels_describeItems rest hrest, levels_describeItem item hitem, itemsLevels, Nat.max_assoc]

end

theorem detects_requireLevels {message : MessageDescriptor} {items : List MessageItem}
    (h : message.levels = itemsLevels items) : Detects message.requireLevels (levelProblems items) := by
  unfold MessageDescriptor.requireLevels levelProblems
  rw [h]
  split_ifs with hlevels
  · exact detects_nothing_of_not (Nat.not_lt.mpr hlevels) _ ()
  · exact detects_of (Nat.lt_of_not_le hlevels) (.escaping .tooManyLevels)

/-! ## Messages -/

theorem detects_leveled {α : Type} {proto3 : Bool} {name : String} {items : List MessageItem}
    (h : Detects (describeItems proto3 { name } items) (itemsProblems proto3 items)) (rest : MessageDescriptor → α) :
    Detects (do
        let message ← describeItems proto3 { name } items
        message.requireLevels
        return rest message) (itemsProblems proto3 items ++ levelProblems items) := by
  refine h.bind fun message hmessage => (detects_requireLevels ?_).andReturn
  rw [levels_describeItems items hmessage]
  simp [MessageDescriptor.levels, levelsWith]

mutual

theorem detects_describeItem (proto3 : Bool) (message : MessageDescriptor) (item : MessageItem) :
    Detects (describeItem proto3 message item) (item.problems proto3) := by
  match item with
  | .field decl => exact (detects_field proto3 decl).andReturn
  | .map map => exact (detects_entry proto3 map).bind fun entry _ => (detects_mapField map entry.name).andReturn
  | .oneof name decls => exact (detects_mapM (detects_field proto3) decls).andReturn
  | .message name items => exact detects_leveled (detects_describeItems proto3 { name } items) _
  | .enum decl => exact (detects_enum decl).andReturn

theorem detects_describeItems (proto3 : Bool) (message : MessageDescriptor) (items : List MessageItem) :
    Detects (describeItems proto3 message items) (itemsProblems proto3 items) := by
  match items with
  | [] => exact .nothing message
  | item :: rest =>
    exact (detects_describeItem proto3 message item).bind fun next _ => detects_describeItems proto3 next rest

end

/-! ## Sources -/

theorem detects_atMostOne {α : Type} (values : List α) : Detects (atMostOne values) (repetitionProblems values) := by
  rcases values with _ | ⟨value, _ | ⟨other, more⟩⟩
  · exact .nothing none
  · exact .nothing (some value)
  · exact detects_of (by simp) (.escaping .repeatedStatement)

theorem detects_encodable (codes : List Nat) : Detects (encodable codes) (textProblems codes) := by
  unfold encodable textProblems
  cases Text.ofCodes? codes with
  | none => exact detects_of rfl (.escaping .loneSurrogate)
  | some text => exact detects_nothing_of_not (by simp) _ text

namespace SourceTree

theorem detects_language (tree : SourceTree) (file : String) :
    Detects (tree.language file) (tree.versionProblems file) := by
  unfold language versionProblems
  generalize tree.versions = versions
  rcases versions with _ | ⟨name, _ | ⟨other, more⟩⟩
  · exact .nothing "proto2"
  · rw [List.flatMap_singleton]
    refine (detects_atMostOne [name]).bind fun version hversion => ?_
    obtain rfl : some name = version := Except.ok.inj hversion
    cases hlanguage : languageOf? name with
    | none =>
      simp only [hlanguage]
      exact detects_of rfl (.version file name)
    | some language =>
      simp only [hlanguage]
      exact detects_nothing_of_not (by simp) _ language
  -- what a second statement says does not matter any more
  · exact .first (.escaping .repeatedStatement) _

theorem isProto3_of_language {tree : SourceTree} {file version : String} (h : tree.language file = .ok version) :
    tree.isProto3 = decide (version = "proto3") := by
  unfold language at h
  unfold isProto3
  generalize tree.versions = versions at h ⊢
  rcases versions with _ | ⟨name, _ | ⟨other, more⟩⟩
  · cases h
    rfl
  · cases hlanguage : languageOf? name with
    | none => simp [atMostOne, hlanguage, bind, Except.bind] at h
    | some language =>
      obtain rfl : language = version := by simpa [atMostOne, hlanguage, bind, Except.bind, pure, Except.pure] using h
      simp [hlanguage]
  · cases h

theorem detects_described (tree : SourceTree) (file : String) : Detects (tree.described file) (tree.problems file) := by
  unfold described problems
  cases tree.fault with
  | some fault => exact .first (.escaping fault) _
  | none =>
    simp only [Option.toList_none, List.map_nil, List.nil_append, List.append_assoc]
    refine (detects_language tree file).bind fun version hversion => ?_
    rw [isProto3_of_language hversion]
    refine (detects_atMostOne tree.packages).bind fun package _ => ?_
    refine (detects_mapM (fun item => detects_encodable item.2) tree.imports).bind fun dependencies _ => ?_
    refine (detects_mapM detects_encodable tree.goPackages).bind fun goPackages _ => ?_
    refine (detects_mapM (fun message => ?_) tree.messages).bind fun messages _ => ?_
    · exact detects_leveled (detects_describeItems _ _ message.2) _
    · exact (detects_mapM detects_enum tree.enums).andReturn

end SourceTree

theorem detects_parse (text name : String) : Detects (parse text name) (sourceProblems text name) := by
  unfold parse sourceProblems
  cases SourceTree.ofText text.toList with
  | error position => exact .first (.unreadable name position) []
  | ok tree => exact tree.detects_described name

/-- A source has a descriptor, or it is refused for its first problem. -/
theorem parse_cases (text name : String) :
    (∃ file, parse text name = .ok file ∧ firstProblem? text name = none) ∨
      ∃ problem, parse text name = .error problem.failure ∧ firstProblem? text name = some problem := by
  have h := detects_parse text name
  unfold firstProblem?
  generalize parse text name = result, sourceProblems text name = problems at h ⊢
  cases h with
  | nothing file => exact .inl ⟨file, rfl, rfl⟩
  | first problem others => exact .inr ⟨problem, rfl, rfl⟩

end RpcClients.Proto
