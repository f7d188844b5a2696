import RpcClients.Proofs.Flattening
import RpcClients.Proofs.Pieces

/-! # Names in a generated method

Parameters and results get names that differ from each other, from the keywords, from what the body
refers to, and from the alias of the request. -/

namespace RpcClients

open Resolving

/-! ## Names with underscores after them -/

/-- The name is no keyword and nothing that the body of a method refers to. -/
def PlainName (name : String) : Prop := name ∉ Naming.keywords ∧ name ∉ bodyLocals

theorem special_last :
    (Naming.keywords ++ bodyLocals).all (fun word => word.toList.getLast? != some '_') = true := by
  decide

theorem plainName_of_last {name : String} (h : name.toList.getLast? = some '_') : PlainName name := by
  constructor <;>
  · intro hmem
    have := List.all_eq_true.mp special_last name (by simp [hmem])
    simp [h] at this

theorem parameterName_plain (goName : String) : PlainName (parameterName goName) := by
  unfold parameterName
  simp only
  split_ifs with h
  · apply plainName_of_last
    simp
  · exact not_or.mp h

theorem underscored_zero (name : String) : underscored name 0 = name := by simp [underscored]

theorem underscored_plain {name : String} (h : PlainName name) (count : Nat) :
    PlainName (underscored name count) := by
  cases count with
  | zero =>
    rw [underscored_zero]
    exact h
  | succ count =>
    apply plainName_of_last
    simp [underscored, List.replicate_succ']

/-! ## Choosing names one after the other -/

/-- Each parameter has the name of its field with the fewest underscores after it that make it differ
from the names taken and from those of the parameters before it. -/
inductive Chosen : List String → List Field → List Parameter → Prop
  | nil {taken : List String} : Chosen taken [] []
  | cons {taken : List String} {rest : List Field} {others : List Parameter} (field : Field)
      (name type : String) (count : Nat)
      (named : name = underscored (parameterName field.goName) count) (free : name ∉ taken)
      (least : ∀ fewer, fewer < count → underscored (parameterName field.goName) fewer ∈ taken)
      (chosen : Chosen (name :: taken) rest others) :
      Chosen taken (field :: rest) (⟨name, type, field⟩ :: others)

theorem Message.chosen_of_gives {message : Message} {taken : List String} {fields : List Field}
    {table next : Imports} {parameters : List Parameter}
    (h : Gives (message.parametersFor taken fields) table parameters next) :
    Chosen taken fields parameters := by
  induction fields generalizing taken table parameters with
  | nil =>
    obtain ⟨rfl, _⟩ := gives_parametersFor_nil.mp h
    exact .nil
  | cons field rest ih =>
    obtain ⟨type, middle, others, _, hothers, rfl⟩ := gives_parametersFor_cons.mp h
    obtain ⟨count, hname, hfree, hleast⟩ :=
      firstFree_spec _ taken (underscored_injective (parameterName field.goName))
    refine .cons field _ type count hname ?_ hleast (ih hothers)
    unfold freeName
    rw [hname]
    exact hfree

namespace Chosen

variable {taken : List String} {fields : List Field} {parameters : List Parameter}

theorem fields_eq (h : Chosen taken fields parameters) : parameters.map (·.field) = fields := by
  induction h with
  | nil => rfl
  | cons _ _ _ _ _ _ _ _ ih => rw [List.map_cons, ih]

theorem not_taken (h : Chosen taken fields parameters) : ∀ p ∈ parameters, p.name ∉ taken := by
  induction h with
  | nil => simp
  | cons _ _ _ _ _ hfree _ _ ih =>
    intro p hp
    rcases List.mem_cons.mp hp with rfl | hp
    · exact hfree
    · intro htaken
      exact ih p hp (List.mem_cons_of_mem _ htaken)

theorem nodup (h : Chosen taken fields parameters) : (parameters.map (·.name)).Nodup := by
  induction h with
  | nil => simp
  | cons _ _ _ _ _ _ _ hchosen ih =>
    rw [List.map_cons, List.nodup_cons]
    refine ⟨?_, ih⟩
    intro hmem
    obtain ⟨p, hp, heq⟩ := List.mem_map.mp hmem
    exact hchosen.not_taken p hp (heq ▸ List.mem_cons_self)

theorem plain (h : Chosen taken fields parameters) : ∀ p ∈ parameters, PlainName p.name := by
  induction h with
  | nil => simp
  | cons _ _ _ count hname _ _ _ ih =>
    intro p hp
    rcases List.mem_cons.mp hp with rfl | hp
    · rw [hname]
      exact underscored_plain (parameterName_plain _) count
    · exact ih p hp

end Chosen

/-! ## The alias of the request -/

theorem qualifier?_eq {bound name : String} (h : '.' ∉ name.toList) :
    qualifier? (bound ++ "." ++ name) = some bound := by
  have hlist : (bound ++ "." ++ name).toList = bound.toList ++ '.' :: name.toList := by simp
  have hne : (Text.pieces '.' bound.toList).reverse ≠ [] := by
    simpa using Text.pieces_ne_nil '.' bound.toList
  obtain ⟨last, before, hbound⟩ := List.exists_cons_of_ne_nil hne
  unfold qualifier?
  rw [hlist, Text.pieces_reverse_of_not_mem h, hbound, ← hbound]
  simp [Text.intercalate_pieces]

theorem requestAlias_eq {bound name : String} (hbound : bound ≠ "") (h : '.' ∉ name.toList) :
    requestAlias (bound ++ "." ++ name) = [bound] := by
  unfold requestAlias
  rw [qualifier?_eq h]
  split
  · rename_i heq
    cases heq
  · rename_i heq
    exact absurd (Option.some.inj heq) hbound
  · rename_i heq
    rw [Option.some.inj heq]

/-! ## Names of a whole method -/

def WrapperMethod.names (method : WrapperMethod) : List String :=
  (method.parameters ++ method.results).map (·.name)

theorem Method.chosen_of_gives {method : Method} {wrapper context : String} {unreadable : List String}
    {table next : Imports} {emitted : WrapperMethod}
    (h : Gives (method.wrapped wrapper context unreadable) table emitted next) :
    Chosen (requestAlias emitted.request) method.input.fields emitted.parameters ∧
    Chosen (emitted.parameters.map (·.name) ++ "ctx" :: requestAlias emitted.request)
      method.output.fields emitted.results := by
  obtain ⟨_, _, request, _, parameters, _, results, _, hparameters, hresults, rfl⟩ := gives_wrapped_iff.mp h
  exact ⟨Message.chosen_of_gives hparameters, Message.chosen_of_gives hresults⟩

theorem Method.names_nodup {method : Method} {wrapper context : String} {unreadable : List String}
    {table next : Imports} {emitted : WrapperMethod}
    (h : Gives (method.wrapped wrapper context unreadable) table emitted next) :
    ("s" :: "ctx" :: emitted.names).Nodup ∧ ∀ name ∈ emitted.names, PlainName name := by
  obtain ⟨hparameters, hresults⟩ := chosen_of_gives h
  have hplain : ∀ name ∈ emitted.names, PlainName name := by
    intro name hname
    obtain ⟨p, hp, rfl⟩ := List.mem_map.mp hname
    rcases List.mem_append.mp hp with hp | hp
    · exact hparameters.plain p hp
    · exact hresults.plain p hp
  have hlocal : ∀ word ∈ bodyLocals, word ∉ emitted.names := by
    intro word hword hmem
    exact (hplain word hmem).2 hword
  refine ⟨?_, hplain⟩
  have hnames : emitted.names.Nodup := by
    rw [WrapperMethod.names, List.map_append, List.nodup_append]
    refine ⟨hparameters.nodup, hresults.nodup, ?_⟩
    rintro name hname other hother rfl
    obtain ⟨r, hr, heq⟩ := List.mem_map.mp hother
    apply hresults.not_taken r hr
    rw [heq]
    exact List.mem_append_left _ hname
  rw [List.nodup_cons, List.nodup_cons, List.mem_cons, not_or]
  exact ⟨⟨by decide, hlocal "s" (by decide)⟩, hlocal "ctx" (by decide), hnames⟩

theorem Method.alias_not_mem_names {method : Method} {wrapper context : String}
    {unreadable : List String} {table next : Imports} {emitted : WrapperMethod}
    (h : Gives (method.wrapped wrapper context unreadable) table emitted next) {bound : String}
    (hbound : bound ∈ requestAlias emitted.request) : bound ∉ emitted.names := by
  obtain ⟨hparameters, hresults⟩ := chosen_of_gives h
  intro hmem
  obtain ⟨p, hp, rfl⟩ := List.mem_map.mp hmem
  rcases List.mem_append.mp hp with hp | hp
  · exact hparameters.not_taken p hp hbound
  · exact hresults.not_taken p hp (List.mem_append_right _ (List.mem_cons_of_mem _ hbound))

theorem Method.request_cases {method : Method} {wrapper context : String} {unreadable : List String}
    {table next : Imports} {emitted : WrapperMethod}
    (h : Gives (method.wrapped wrapper context unreadable) table emitted next) :
    (method.input.ident.importPath = table.importPath ∧ emitted.request = method.input.ident.name) ∨
    (method.input.ident.importPath ≠ table.importPath ∧
      ∃ bound, (method.input.ident.importPath, bound) ∈ next.aliases ∧
        emitted.request = bound ++ "." ++ method.input.ident.name) := by
  obtain ⟨_, _, request, first, parameters, second, results, hrequest, hparameters, hresults, rfl⟩ :=
    gives_wrapped_iff.mp h
  obtain ⟨_, rfl⟩ := Message.gives_parametersFor hresults
  obtain ⟨_, rfl⟩ := Message.gives_parametersFor hparameters
  rcases Imports.qualified_cases hrequest with hown | ⟨hforeign, bound, hbound, htext⟩
  · exact Or.inl hown
  · refine Or.inr ⟨hforeign, bound, ?_, htext⟩
    rw [← Imports.resolved_append]
    exact (Imports.resolved_extends _ _).aliases.subset hbound

theorem Method.gives_wrapped_of_flattens {method : Method} {table : Imports} {unreadable : List String}
    (wrapper context : String) (unary : method.shape = .unary) (readable : method.Readable unreadable)
    (request : method.input.ident.Referable table.importPath)
    (input : method.input.Flattens table) (output : method.output.Flattens table) :
    ∃ emitted next, Gives (method.wrapped wrapper context unreadable) table emitted next := by
  obtain ⟨text, first, hrequest⟩ := (Imports.qualified_ok_iff table _).mpr request
  have hfirst := Imports.eq_resolved_of_qualified hrequest
  have hinput : ∀ field ∈ method.input.fields, field.Supported first.importPath := by
    rw [hfirst, Imports.resolved_importPath]
    exact (Message.flattens_iff table _).mp input
  obtain ⟨parameters, hparameters⟩ :=
    Message.parametersFor_of_supported method.input hinput (requestAlias text)
  have houtput : ∀ field ∈ method.output.fields,
      field.Supported (first.resolved (method.input.fields.flatMap Field.idents)).importPath := by
    rw [Imports.resolved_importPath, hfirst, Imports.resolved_importPath]
    exact (Message.flattens_iff table _).mp output
  obtain ⟨results, hresults⟩ := Message.parametersFor_of_supported method.output houtput
    (parameters.map (·.name) ++ "ctx" :: requestAlias text)
  exact ⟨_, _, gives_wrapped_iff.mpr
    ⟨unary, readable, text, first, parameters, _, results, hrequest, hparameters, hresults, rfl⟩⟩

/-- In every table of a run, a unary method whose messages flatten is emitted. The receiver, `ctx`,
the parameters and the results have different names, none of them a keyword or a name that the body
refers to. Each has the fewest underscores that make it free. The alias of a request whose Go name
holds no dot is none of them. -/
theorem Method.names_apart {table : Imports} (reached : table.Reached) (method : Method)
    (wrapper context : String) (unreadable : List String) (unary : method.shape = .unary)
    (readable : method.Readable unreadable) (request : method.input.ident.Referable table.importPath)
    (input : method.input.Flattens table) (output : method.output.Flattens table) :
    ∃ emitted next, Gives (method.wrapped wrapper context unreadable) table emitted next ∧
      ("s" :: "ctx" :: emitted.names).Nodup ∧
      (∀ name ∈ emitted.names, name ∉ Naming.keywords ∧ name ∉ bodyLocals) ∧
      Chosen (requestAlias emitted.request) method.input.fields emitted.parameters ∧
      Chosen (emitted.parameters.map (·.name) ++ "ctx" :: requestAlias emitted.request)
        method.output.fields emitted.results ∧
      ((method.input.ident.importPath = table.importPath ∧
          emitted.request = method.input.ident.name) ∨
        ∃ bound, (method.input.ident.importPath, bound) ∈ next.aliases ∧
          emitted.request = bound ++ "." ++ method.input.ident.name ∧
          ('.' ∉ method.input.ident.name.toList → bound ∉ emitted.names)) := by
  obtain ⟨emitted, next, h⟩ := gives_wrapped_of_flattens wrapper context unary readable request input output
  obtain ⟨hnodup, hplain⟩ := names_nodup h
  obtain ⟨hparameters, hresults⟩ := chosen_of_gives h
  refine ⟨emitted, next, h, hnodup, hplain, hparameters, hresults, ?_⟩
  rcases request_cases h with hown | ⟨_, bound, hbound, htext⟩
  · exact Or.inl hown
  · refine Or.inr ⟨bound, hbound, htext, ?_⟩
    intro hdot
    have hnext : next.Consistent := by
      rw [eq_resolved_of_gives_wrapped h]
      exact reached.consistent.resolved _
    -- aliases are words, so the only dot of the request is the one behind its alias
    apply alias_not_mem_names h
    rw [htext, requestAlias_eq (hnext.words _ hbound).1.1 hdot]
    exact List.mem_cons_self

/-- A method with fields that all end up with the same few names. -/
def collidingMethod : Method :=
  let field (goName : String) : Field := { name := goName, goName, type := { kind := .scalar .string } }
  { name := "Get", goName := "Get", fullName := "p.S.Get"
    input := { fullName := "p.A", ident := ⟨"A", "x/foo"⟩
               fields := ["Type", "Type_", "Type", "Foo", "foo_", "Ctx"].map field }
    output := { fullName := "p.B", ident := ⟨"B", "x/foo"⟩, fields := ["Type", "Foo", "Nil"].map field } }

theorem names_apart_colliding :
    ∃ emitted next, Gives (collidingMethod.wrapped "w" "context.Context" [])
      { importPath := "own", packageName := "own" } emitted next ∧
      ("s" :: "ctx" :: emitted.names).Nodup := by
  have hsupported : ∀ message ∈ [collidingMethod.input, collidingMethod.output],
      message.Flattens { importPath := "own", packageName := "own" } := by
    simp [Message.flattens_iff, collidingMethod, Field.Supported, Field.types, FieldType.Known,
      FieldKind.isScalar]
  obtain ⟨emitted, next, h, hnodup, _⟩ := Method.names_apart ⟨"own", "own", [], rfl⟩ collidingMethod
    "w" "context.Context" [] rfl (by simp [Method.Readable]) (by simp [Ident.Referable, collidingMethod])
    (hsupported _ (by simp)) (hsupported _ (by simp))
  exact ⟨emitted, next, h, hnodup⟩

example : ((collidingMethod.wrapped "w" "context.Context" []).outcome
    { importPath := "own", packageName := "own" }).1.toOption.map (·.names) =
    some ["type_", "type__", "type___", "foo_", "foo__", "ctx_", "type____", "foo___", "nil_"] := by
  decide

/-- A method whose request has a Go name with a dot in it. -/
def dottedMethod : Method :=
  { name := "Get", goName := "Get", fullName := "p.S.Get"
    input := { fullName := "p.A.B", ident := ⟨"A.B", "x/foo"⟩
               fields := [{ name := "foo", goName := "Foo", type := { kind := .scalar .string } }] }
    output := { fullName := "p.R", ident := ⟨"R", "x/foo"⟩ } }

theorem dottedMethod_shadows_alias :
    dottedMethod.shape = .unary ∧
    ∃ emitted next, Gives (dottedMethod.wrapped "s" "context.Context" [])
      { importPath := "x/foo/fooapiclienttwirp", packageName := "fooapiclienttwirp" } emitted next ∧
      ("x/foo", "foo") ∈ next.aliases ∧ emitted.request = "foo" ++ "." ++ dottedMethod.input.ident.name ∧
      "foo" ∈ emitted.names := by
  refine ⟨rfl, { wrapper := "s", name := "Get", comments := none, context := "context.Context"
                 request := "foo.A.B", errorReturn := "return err", results := []
                 parameters := [⟨"foo", "string", dottedMethod.input.fields.head (by decide)⟩] },
    { importPath := "x/foo/fooapiclienttwirp", packageName := "fooapiclienttwirp"
      aliases := [("x/foo", "foo")] }, ?_, ?_, ?_, ?_⟩
  · decide
  · decide
  · decide
  · decide

end RpcClients
