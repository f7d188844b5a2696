import RpcClients.Proofs.Scoping

/-! # Names with dots

The first component of a relative name picks a scope, and the rest of the name is looked up there and nowhere else.
Scopes are compared as texts, which comes to comparing their components: `a.bc` is not inside of `a.b`. -/

namespace RpcClients.Text

theorem intercalate_append {separator : List Char} {some more : List (List Char)} (hsome : some ≠ [])
    (hmore : more ≠ []) :
    separator.intercalate (some ++ more) = separator.intercalate some ++ separator ++ separator.intercalate more := by
  induction some with
  | nil => exact absurd rfl hsome
  | cons piece rest ih =>
    rw [List.cons_append, List.intercalate_cons_of_ne_nil (by simp [hmore])]
    cases rest with
    | nil => simp
    | cons next others =>
      rw [ih (by simp), List.intercalate_cons_cons]
      simp

/-- A text goes on behind another one and a separator exactly if its pieces go on behind those of the other one. -/
theorem starts_separated_iff {separator : Char} {cs other : List Char} :
    cs ++ [separator] <+: other ↔ ∃ more, more ≠ [] ∧ pieces separator other = pieces separator cs ++ more := by
  constructor
  · rintro ⟨rest, rfl⟩
    refine ⟨pieces separator rest, pieces_ne_nil _ _, ?_⟩
    rw [List.append_assoc, List.singleton_append, pieces_append_cons]
  · rintro ⟨more, hmore, hpieces⟩
    refine ⟨[separator].intercalate more, ?_⟩
    rw [← intercalate_pieces separator other, hpieces, intercalate_append (pieces_ne_nil _ _) hmore, intercalate_pieces]

end RpcClients.Text

namespace RpcClients.Schema

variable {symbols : List Symbol} {scope first rest : String} {symbol : Symbol}

/-! ## Scopes as components -/

/-- The components of a name go on behind those of a scope. -/
def Inside (outer name : String) : Prop := ∃ more, more ≠ [] ∧ Text.split '.' name = Text.split '.' outer ++ more

theorem inside_iff {outer name : String} : Inside outer name ↔ outer.toList ++ ['.'] <+: name.toList := by
  unfold Inside Text.split
  rw [Text.starts_separated_iff]
  constructor
  · rintro ⟨more, hmore, hsplit⟩
    refine ⟨more.map String.toList, by simpa using hmore, ?_⟩
    have hpieces := congrArg (List.map String.toList) hsplit
    simpa [List.map_append, Function.comp_def] using hpieces
  · rintro ⟨more, hmore, hpieces⟩
    exact ⟨more.map String.ofList, by simpa using hmore, by rw [hpieces, List.map_append]⟩

/-- A type has the name, or one is declared inside of it. -/
def Knows (symbols : List Symbol) (name : String) : Prop :=
  Declared symbols name ∨ ∃ symbol ∈ symbols, Inside name symbol.fullName

theorem knows_iff {name : String} : Knows symbols name ↔ isKnown symbols name = true := by
  unfold Knows
  simp only [inside_iff, isKnown_iff, HasMembers]

theorem Innermost.eq {property : String → Prop} {count other : Nat} (h : Innermost scope property count)
    (hother : Innermost scope property other) : count = other := by
  rcases Nat.lt_trichotomy count other with hlt | heq | hlt
  · exact absurd hother.holds (h.further other hlt hother.le)
  · exact heq
  · exact absurd h.holds (hother.further count hlt h.le)

theorem find?_enclosing_eq_some_iff {p : String → Bool} {outer : String} :
    (enclosing scope).find? p = some outer ↔
      ∃ count, Innermost scope (fun outer => p outer = true) count ∧ outer = outerScope scope count := by
  constructor
  · intro h
    obtain ⟨count, hle, rfl⟩ := mem_enclosing_iff.mp (List.mem_of_find?_eq_some h)
    obtain ⟨inner, _, hinner⟩ := exists_innermost (P := fun outer => p outer = true) hle (List.find?_some h)
    refine ⟨inner, hinner, ?_⟩
    rw [find?_enclosing hinner] at h
    exact (Option.some.inj h).symm
  · rintro ⟨count, hcount, rfl⟩
    exact find?_enclosing hcount

/-! ## What a name denotes -/

/-- The full name of what the rest of a name means inside of what its first component names. Without a rest it is
that itself. -/
def memberName (outer rest : String) : String := if rest = "" then outer else inScope outer rest

/-- The innermost scope that knows the first component declares the symbol by the whole name. -/
def Denotes (symbols : List Symbol) (scope first rest : String) (symbol : Symbol) : Prop :=
  ∃ count, Innermost scope (fun outer => Knows symbols (inScope outer first)) count ∧ symbol ∈ symbols ∧
    symbol.fullName = memberName (inScope (outerScope scope count) first) rest

theorem resolve?_dotted (hfirst : first ≠ "") (hdot : '.' ∉ first.toList) :
    resolve? symbols scope (first ++ "." ++ rest) =
      ((enclosing scope).find? fun outer => isKnown symbols (inScope outer first)).bind fun outer =>
        findSymbol? symbols (memberName (inScope outer first) rest) := by
  have hcut : Text.cut '.' (first ++ "." ++ rest).toList = (first.toList, some rest.toList) := by
    simpa using Text.cut_append_cons_of_not_mem hdot rest.toList
  obtain ⟨c, before, hchars⟩ := List.exists_cons_of_ne_nil (by simpa using hfirst : first.toList ≠ [])
  have hname : String.ofList (c :: before) = first := by rw [← hchars, String.ofList_toList]
  unfold resolve?
  rw [hcut, hchars]
  cases hrest : rest.toList with
  | nil =>
    obtain rfl : rest = "" := by simpa using hrest
    simp only [hname, memberName, if_true, List.find?_map, Function.comp_def]
    cases (enclosing scope).find? fun outer => isKnown symbols (inScope outer first) <;> rfl
  | cons d after =>
    have hne : rest ≠ "" := by
      rintro rfl
      simp at hrest
    have hlast : String.ofList (d :: after) = rest := by rw [← hrest, String.ofList_toList]
    simp only [hname, hlast, memberName, if_neg hne, List.find?_map, Function.comp_def]
    cases (enclosing scope).find? fun outer => isKnown symbols (inScope outer first) <;> rfl

theorem resolve?_dotted_eq_some_iff (distinct : (symbols.map (·.fullName)).Nodup) (hfirst : first ≠ "")
    (hdot : '.' ∉ first.toList) :
    resolve? symbols scope (first ++ "." ++ rest) = some symbol ↔ Denotes symbols scope first rest symbol := by
  unfold Denotes
  simp only [resolve?_dotted hfirst hdot, Option.bind_eq_some_iff, find?_enclosing_eq_some_iff,
    findSymbol?_eq_some_iff distinct, knows_iff]
  constructor
  · rintro ⟨_, ⟨count, hcount, rfl⟩, hsymbol, hname⟩
    exact ⟨count, hcount, hsymbol, hname⟩
  · rintro ⟨count, hcount, hsymbol, hname⟩
    exact ⟨_, ⟨count, hcount, rfl⟩, hsymbol, hname⟩

theorem resolve?_absolute (fullName : String) :
    resolve? symbols scope ("." ++ fullName) = findSymbol? symbols fullName := by
  unfold resolve?
  have hcut : Text.cut '.' ("." ++ fullName).toList = ([], some fullName.toList) := by simp [Text.cut]
  rw [hcut]
  simp

namespace Loading

theorem resolve_eq_pure_iff {typeName context : String} :
    resolve { symbols } scope typeName context = pure symbol ↔ resolve? symbols scope typeName = some symbol := by
  constructor
  · intro h
    have hloads : Loads (resolve { symbols } scope typeName context) symbol := by
      rw [h]
      exact ⟨[], [], rfl⟩
    exact resolve?_of_loads hloads
  · intro h
    exact resolve_of_some h context

/-- Let no full name be declared twice. A relative name with dots gives the symbol that it denotes, and it is unknown
exactly if it denotes none. So a scope that knows the first component hides all scopes around it, even if the rest of
the name means nothing there. A name behind a dot gives the symbol with that full name, whatever the scope. -/
theorem resolve_dotted_iff (distinct : (symbols.map (·.fullName)).Nodup) (scope context : String)
    (hfirst : first ≠ "") (hdot : '.' ∉ first.toList) (rest : String) :
    (∀ symbol, resolve { symbols } scope (first ++ "." ++ rest) context = pure symbol ↔
      Denotes symbols scope first rest symbol) ∧
    (resolve { symbols } scope (first ++ "." ++ rest) context = fail (.unknownType context (first ++ "." ++ rest)) ↔
      ∀ symbol, ¬ Denotes symbols scope first rest symbol) ∧
    (∀ count ≤ (scopeParts scope).length, Knows symbols (inScope (outerScope scope count) first) →
      ∀ symbol, resolve { symbols } scope (first ++ "." ++ rest) context = pure symbol →
        ∃ inner, count ≤ inner ∧ inner ≤ (scopeParts scope).length ∧
          symbol.fullName = memberName (inScope (outerScope scope inner) first) rest) ∧
    (∀ fullName symbol, resolve { symbols } scope ("." ++ fullName) context = pure symbol ↔
      symbol ∈ symbols ∧ symbol.fullName = fullName) := by
  have hfound (symbol : Symbol) : resolve { symbols } scope (first ++ "." ++ rest) context = pure symbol ↔
      Denotes symbols scope first rest symbol := by
    rw [resolve_eq_pure_iff, resolve?_dotted_eq_some_iff distinct hfirst hdot]
  refine ⟨hfound, ⟨?_, ?_⟩, ?_, ?_⟩
  · intro hfail symbol hsymbol
    have hloads : Loads (resolve { symbols } scope (first ++ "." ++ rest) context) symbol := by
      rw [(hfound symbol).mpr hsymbol]
      exact ⟨[], [], rfl⟩
    rw [hfail] at hloads
    exact not_loads_throw hloads
  · intro hnone
    apply resolve_of_none
    rw [Option.eq_none_iff_forall_ne_some]
    intro symbol hsymbol
    exact hnone symbol ((resolve?_dotted_eq_some_iff distinct hfirst hdot).mp hsymbol)
  · intro count hle hknows symbol hsymbol
    obtain ⟨inner, hinner, _, hname⟩ := (hfound symbol).mp hsymbol
    refine ⟨inner, ?_, hinner.le, hname⟩
    by_contra hlt
    exact hinner.further count (by omega) hle hknows
  · intro fullName symbol
    rw [resolve_eq_pure_iff, resolve?_absolute, findSymbol?_eq_some_iff distinct]

/-- The type `n.T` outside of all packages, the package `a.n` without such a type, and the package `a.nb` with one. -/
def shadowingFiles : List FileDescriptor :=
  [{ name := "n.proto", messages := [{ name := "n", nested := [{ name := "T" }] }] },
   { name := "m.proto", package := "a", messages := [{ name := "M" }] },
   { name := "k.proto", package := "a.n", messages := [{ name := "K" }] },
   { name := "b.proto", package := "a.nb", messages := [{ name := "T" }] }]

theorem innermost_shadowingFiles : Innermost "a.M"
    (fun outer => Knows (shadowingFiles.flatMap FileDescriptor.symbols) (inScope outer "n")) 1 where
  le := by decide
  holds := by
    rw [knows_iff]
    decide
  further := by
    intro more hmore hlength
    have hlength : more ≤ 2 := hlength
    obtain rfl : more = 2 := by omega
    rw [knows_iff]
    decide

theorem resolve_dotted_iff_shadowing :
    let table : SymbolTable := { symbols := shadowingFiles.flatMap FileDescriptor.symbols }
    (∃ symbol, resolve table "a.M" ("n" ++ "." ++ "K") "x" = pure symbol ∧ symbol.fullName = "a.n.K") ∧
    resolve table "a.M" ("n" ++ "." ++ "T") "x" = fail (.unknownType "x" "n.T") ∧
    ∃ symbol, resolve table "a.M" ("." ++ "n.T") "x" = pure symbol ∧ symbol.fullName = "n.T" := by
  intro table
  have distinct : (table.symbols.map (·.fullName)).Nodup := by decide
  have hdeclared : Declared table.symbols "a.n.K" ∧ Declared table.symbols "n.T" ∧
      ¬ Declared table.symbols "a.n.T" := by
    unfold Declared
    decide
  obtain ⟨inner, hinner, hinnerName⟩ := List.mem_map.mp hdeclared.1
  obtain ⟨outer, houter, houterName⟩ := List.mem_map.mp hdeclared.2.1
  refine ⟨⟨inner, ?_, hinnerName⟩, ?_, outer, ?_, houterName⟩
  · refine ((resolve_dotted_iff distinct "a.M" "x" (by decide) (by decide) "K").1 inner).mpr ?_
    exact ⟨1, innermost_shadowingFiles, hinner, hinnerName⟩
  · refine (resolve_dotted_iff distinct "a.M" "x" (by decide) (by decide) "T").2.1.mpr ?_
    rintro symbol ⟨count, hcount, hsymbol, hname⟩
    obtain rfl := hcount.eq innermost_shadowingFiles
    exact hdeclared.2.2 (List.mem_map.mpr ⟨symbol, hsymbol, hname⟩)
  · exact ((resolve_dotted_iff distinct "a.M" "x" (by decide : "n" ≠ "") (by decide) "T").2.2.2 "n.T" outer).mpr
      ⟨houter, houterName⟩

end Loading

end RpcClients.Schema
