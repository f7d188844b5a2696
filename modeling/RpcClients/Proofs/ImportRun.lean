import RpcClients.Proofs.Resolution

/-! # Runs of calls on an import table

Each call either fails, reserves a name, answers from the table, or binds one path to a fresh alias.
What holds of a table after any run follows from this. -/

namespace RpcClients.Imports

/-- A call on the import table of a file. -/
inductive Call where
  | reserve (name : String)
  | aliasOf (path : String) (preferred : Option String)
  | qualified (ident : Ident)

namespace Call

/-- A call as a step of resolution. It answers with a text, or with none if it reserves a name. -/
def resolve : Call → Resolving (Option String)
  | reserve name => do
    match (← get).reserve name with
    | .error problem => throw (.resolution problem)
    | .ok table =>
      set table
      return none
  | aliasOf path preferred => do return some (← Resolving.lift (·.aliasOf path preferred))
  | qualified ident => do return some (← Resolving.qualified ident)

/-- What a call answers, and the table that it leaves. -/
def perform (call : Call) (table : Imports) : Except Failure (Option String) × Imports :=
  call.resolve.outcome table

/-- The path that a call binds if it is new, and the name that its alias is made from. -/
def wanted : Call → Option (String × String)
  | reserve _ => none
  | aliasOf path preferred => some (path, wantedName path preferred)
  | qualified ident => some (ident.importPath, wantedName ident.importPath none)

end Call

/-- The table after a run of calls, failed ones included. -/
def after (table : Imports) (calls : List Call) : Imports :=
  calls.foldl (fun table call => (call.perform table).2) table

@[simp] theorem after_nil (table : Imports) : table.after [] = table := rfl

@[simp] theorem after_cons (table : Imports) (call : Call) (calls : List Call) :
    table.after (call :: calls) = (call.perform table).2.after calls := rfl

theorem after_append (table : Imports) (calls more : List Call) :
    table.after (calls ++ more) = (table.after calls).after more := by
  simp [after, List.foldl_append]

/-! ## What one call can do -/

theorem perform_reserve (name : String) (table : Imports) :
    (Call.reserve name).perform table =
      match table.reserve name with
      | .error problem => (.error (.resolution problem), table)
      | .ok next => (.ok none, next) := by
  change (match table.reserve name with
    | .error problem => throw (Failure.resolution problem)
    | .ok next => do set next; return none : Resolving (Option String)).outcome table = _
  cases table.reserve name <;> rfl

theorem perform_aliasOf (path : String) (preferred : Option String) (table : Imports) :
    (Call.aliasOf path preferred).perform table =
      match table.aliasOf path preferred with
      | .error problem => (.error (.resolution problem), table)
      | .ok (text, next) => (.ok (some text), next) := by
  unfold Call.perform Call.resolve
  rw [Resolving.outcome_bind, Resolving.outcome_lift]
  rcases table.aliasOf path preferred with problem | ⟨text, next⟩ <;> rfl

theorem perform_qualified (ident : Ident) (table : Imports) :
    (Call.qualified ident).perform table =
      match table.qualified ident with
      | .error problem => (.error (.resolution problem), table)
      | .ok (text, next) => (.ok (some text), next) := by
  unfold Call.perform Call.resolve Resolving.qualified
  rw [Resolving.outcome_bind, Resolving.outcome_lift]
  rcases table.qualified ident with problem | ⟨text, next⟩ <;> rfl

/-- A path that can be bound: not the empty one, and not the file's own. -/
def Foreign (table : Imports) (path : String) : Prop := path ≠ "" ∧ path ≠ table.importPath

theorem aliasOf_cases (table : Imports) (path : String) (preferred : Option String) :
    (∃ problem, ¬ table.Foreign path ∧ table.aliasOf path preferred = .error problem) ∨
    (∃ bound, table.Foreign path ∧ table.aliases.lookup path = some bound ∧
      table.aliasOf path preferred = .ok (bound, table)) ∨
    (table.Foreign path ∧ table.aliases.lookup path = none ∧
      table.aliasOf path preferred =
        .ok (firstFree (numbered (wantedName path preferred)) table.used,
          table.bind path (wantedName path preferred))) := by
  unfold aliasOf Foreign
  split_ifs with hempty hown
  · exact Or.inl ⟨_, fun h => h.1 hempty, rfl⟩
  · exact Or.inl ⟨_, fun h => h.2 hown, rfl⟩
  · right
    cases hlookup : table.aliases.lookup path with
    | some bound => exact Or.inl ⟨bound, ⟨hempty, hown⟩, rfl, rfl⟩
    | none => exact Or.inr ⟨⟨hempty, hown⟩, rfl, rfl⟩

theorem perform_cases (call : Call) (table : Imports) :
    (∃ failure, call.perform table = (.error failure, table)) ∨
    (∃ name, call = .reserve name ∧ name ∉ table.aliases.map (·.2) ∧
      call.perform table = (.ok none, { table with reserved := name :: table.reserved })) ∨
    (∃ text, call.perform table = (.ok (some text), table)) ∨
    (∃ path name text, call.wanted = some (path, name) ∧ table.Foreign path ∧
      table.aliases.lookup path = none ∧
      call.perform table = (.ok (some text), table.bind path name)) := by
  cases call with
  | reserve name =>
    rw [perform_reserve]
    unfold reserve
    split_ifs with htaken
    · exact Or.inl ⟨_, rfl⟩
    · exact Or.inr (Or.inl ⟨name, rfl, htaken, rfl⟩)
  | aliasOf path preferred =>
    rw [perform_aliasOf]
    rcases aliasOf_cases table path preferred with ⟨_, _, h⟩ | ⟨bound, _, _, h⟩ | ⟨hpath, hnew, h⟩
    · exact Or.inl ⟨_, by rw [h]⟩
    · exact Or.inr (Or.inr (Or.inl ⟨bound, by rw [h]⟩))
    · exact Or.inr (Or.inr (Or.inr ⟨path, _, _, rfl, hpath, hnew, by rw [h]⟩))
  | qualified ident =>
    rw [perform_qualified]
    unfold qualified
    split_ifs with hname hown
    · exact Or.inl ⟨_, rfl⟩
    · exact Or.inr (Or.inr (Or.inl ⟨_, rfl⟩))
    · rcases aliasOf_cases table ident.importPath none with
        ⟨_, _, h⟩ | ⟨bound, _, _, h⟩ | ⟨hpath, hnew, h⟩
      · exact Or.inl ⟨_, by rw [h]; rfl⟩
      · exact Or.inr (Or.inr (Or.inl ⟨_, by rw [h]; rfl⟩))
      · exact Or.inr (Or.inr (Or.inr ⟨_, _, _, rfl, hpath, hnew, by rw [h]; rfl⟩))

theorem mem_bind_aliases (table : Imports) (path name : String) (entry : String × String) :
    entry ∈ (table.bind path name).aliases ↔
      entry ∈ table.aliases ∨ entry = (path, firstFree (numbered name) table.used) := by
  simp [bind]

theorem not_mem_of_lookup_eq_none {entries : List (String × String)} {path : String}
    (h : entries.lookup path = none) : path ∉ entries.map (·.1) := by
  intro hmem
  obtain ⟨entry, hentry, rfl⟩ := List.mem_map.mp hmem
  have := List.lookup_eq_none_iff.mp h entry hentry
  simp at this

/-! ## A table only grows -/

/-- What a later table of the same file keeps of an earlier one. -/
structure Extends (table next : Imports) : Prop where
  importPath : next.importPath = table.importPath
  packageName : next.packageName = table.packageName
  reserved : table.reserved <:+ next.reserved
  aliases : table.aliases <+: next.aliases

theorem Extends.refl (table : Imports) : table.Extends table :=
  ⟨rfl, rfl, List.suffix_refl _, List.prefix_refl _⟩

theorem Extends.trans {first second third : Imports} (h : first.Extends second)
    (h' : second.Extends third) : first.Extends third :=
  ⟨h'.importPath.trans h.importPath, h'.packageName.trans h.packageName,
    h.reserved.trans h'.reserved, h.aliases.trans h'.aliases⟩

theorem perform_extends (call : Call) (table : Imports) : table.Extends (call.perform table).2 := by
  rcases perform_cases call table with ⟨_, h⟩ | ⟨name, _, _, h⟩ | ⟨_, h⟩ | ⟨path, name, _, _, _, _, h⟩
  · rw [h]; exact Extends.refl table
  · rw [h]; exact ⟨rfl, rfl, List.suffix_cons _ _, List.prefix_refl _⟩
  · rw [h]; exact Extends.refl table
  · rw [h]; exact ⟨rfl, rfl, List.suffix_refl _, List.prefix_append _ _⟩

theorem after_extends (table : Imports) (calls : List Call) : table.Extends (table.after calls) := by
  induction calls generalizing table with
  | nil => exact Extends.refl table
  | cons call calls ih => exact (perform_extends call table).trans (ih _)

/-- One of the calls reserves the name, and it succeeds. -/
def Reserves (table : Imports) (calls : List Call) (name : String) : Prop :=
  ∃ before rest, calls = before ++ Call.reserve name :: rest ∧
    ((Call.reserve name).perform (table.after before)).1 = .ok none

theorem mem_reserved_of_reserves {table : Imports} {calls : List Call} {name : String}
    (h : table.Reserves calls name) : name ∈ (table.after calls).reserved := by
  obtain ⟨before, rest, rfl, hok⟩ := h
  rw [after_append, after_cons]
  have hmem : name ∈ ((Call.reserve name).perform (table.after before)).2.reserved := by
    rw [perform_reserve] at hok ⊢
    unfold reserve at hok ⊢
    split_ifs at hok ⊢
    exact List.mem_cons_self
  exact (after_extends _ rest).reserved.subset hmem

/-! ## Every table of a run is consistent -/

/-- Paths and aliases match one to one, and no alias can be taken for something else. -/
structure Consistent (table : Imports) : Prop where
  paths : (table.aliases.map (·.1)).Nodup
  names : (table.aliases.map (·.2)).Nodup
  foreign : ∀ entry ∈ table.aliases, table.Foreign entry.1
  free : ∀ entry ∈ table.aliases,
    entry.2 ∉ Naming.predeclared ∧ entry.2 ≠ table.packageName ∧ entry.2 ∉ table.reserved
  words : ∀ entry ∈ table.aliases, Naming.IsWord entry.2 ∧ entry.2 ∉ Naming.keywords

theorem consistent_of_no_aliases {table : Imports} (h : table.aliases = []) : table.Consistent := by
  constructor <;> simp [h]

theorem not_mem_used_iff (table : Imports) (name : String) :
    name ∉ table.used ↔ name ∉ Naming.predeclared ∧ name ≠ table.packageName ∧
      name ∉ table.reserved ∧ name ∉ table.aliases.map (·.2) := by
  simp only [used, List.mem_append, List.mem_cons, not_or]
  tauto

theorem Consistent.reserve {table : Imports} (h : table.Consistent) {name : String}
    (hname : name ∉ table.aliases.map (·.2)) :
    Consistent { table with reserved := name :: table.reserved } where
  paths := h.paths
  names := h.names
  foreign := h.foreign
  words := h.words
  free := by
    intro entry hentry
    obtain ⟨hpre, hown, hres⟩ := h.free entry hentry
    refine ⟨hpre, hown, ?_⟩
    intro hmem
    rcases List.mem_cons.mp hmem with heq | hmem
    · exact hname (heq ▸ List.mem_map_of_mem hentry)
    · exact hres hmem

theorem Consistent.bind {table : Imports} (h : table.Consistent) {path name : String}
    (hpath : table.Foreign path) (hnew : table.aliases.lookup path = none)
    (hword : Naming.IsWord name) (hkey : name ∉ Naming.keywords) : (table.bind path name).Consistent := by
  obtain ⟨i, hbound, hfree, _⟩ := firstFree_spec _ table.used (numbered_injective name)
  obtain ⟨hpre, hown, hres, halias⟩ := (not_mem_used_iff table _).mp hfree
  rw [← hbound] at hpre hown hres halias
  -- the search leaves the new name outside of all names in use, whichever table they come from
  constructor
  · simp only [Imports.bind, List.map_append, List.map_cons, List.map_nil]
    exact List.nodup_append.mpr ⟨h.paths, by simp, by
      rintro p hp q hq rfl
      rw [List.mem_singleton] at hq
      exact not_mem_of_lookup_eq_none hnew (hq ▸ hp)⟩
  · simp only [Imports.bind, List.map_append, List.map_cons, List.map_nil]
    exact List.nodup_append.mpr ⟨h.names, by simp, by
      rintro a ha b hb rfl
      rw [List.mem_singleton] at hb
      exact halias (hb ▸ ha)⟩
  · intro entry hentry
    rcases (mem_bind_aliases table path name entry).mp hentry with hentry | rfl
    · exact h.foreign entry hentry
    · exact hpath
  · intro entry hentry
    rcases (mem_bind_aliases table path name entry).mp hentry with hentry | rfl
    · exact h.free entry hentry
    · exact ⟨hpre, hown, hres⟩
  · intro entry hentry
    rcases (mem_bind_aliases table path name entry).mp hentry with hentry | rfl
    · exact h.words entry hentry
    · simp only [hbound]
      exact ⟨Naming.numbered_word hword i, Naming.numbered_not_keyword hkey i⟩

theorem wanted_word {call : Call} {path name : String} (h : call.wanted = some (path, name)) :
    Naming.IsWord name ∧ name ∉ Naming.keywords := by
  have hmade : ∃ preferred, name = wantedName path preferred := by
    cases call with
    | reserve _ => cases h
    | aliasOf p preferred => cases h; exact ⟨preferred, rfl⟩
    | qualified ident => cases h; exact ⟨none, rfl⟩
  obtain ⟨preferred, rfl⟩ := hmade
  obtain ⟨text, htext⟩ := Naming.wantedName_eq_sanitized path preferred
  rw [htext]
  exact ⟨Naming.sanitized_word text, Naming.sanitized_not_keyword text⟩

theorem Consistent.perform {table : Imports} (h : table.Consistent) (call : Call) :
    (call.perform table).2.Consistent := by
  rcases perform_cases call table with
    ⟨_, hcall⟩ | ⟨name, _, hname, hcall⟩ | ⟨_, hcall⟩ | ⟨path, name, _, hwanted, hpath, hnew, hcall⟩
  · rw [hcall]; exact h
  · rw [hcall]; exact h.reserve hname
  · rw [hcall]; exact h
  · rw [hcall]
    obtain ⟨hword, hkey⟩ := wanted_word hwanted
    exact h.bind hpath hnew hword hkey

theorem Consistent.after {table : Imports} (h : table.Consistent) (calls : List Call) :
    (table.after calls).Consistent := by
  induction calls generalizing table with
  | nil => exact h
  | cons call calls ih => exact ih (h.perform call)

/-- A run of calls leads to the table from a new one. -/
def Reached (table : Imports) : Prop :=
  ∃ path name calls, table = ({ importPath := path, packageName := name } : Imports).after calls

theorem Reached.consistent {table : Imports} (h : table.Reached) : table.Consistent := by
  obtain ⟨path, name, calls, rfl⟩ := h
  exact (consistent_of_no_aliases rfl).after calls

theorem Consistent.path_eq_iff {table : Imports} (h : table.Consistent) {p a q b : String}
    (hp : (p, a) ∈ table.aliases) (hq : (q, b) ∈ table.aliases) : p = q ↔ a = b := by
  constructor
  · intro heq
    have := List.inj_on_of_nodup_map h.paths hp hq heq
    exact congrArg Prod.snd this
  · intro heq
    have := List.inj_on_of_nodup_map h.names hp hq heq
    exact congrArg Prod.fst this

/-! ## The run invariant -/

/-- The alias is the name if that is unused, else the name with the least number after it, from 1 on,
that makes it unused. -/
def FirstUnused (used : List String) (name bound : String) : Prop :=
  (name ∉ used ∧ bound = name) ∨
  (name ∈ used ∧ ∃ k, 1 ≤ k ∧ bound = name ++ toString k ∧ bound ∉ used ∧
    ∀ j, 1 ≤ j → j < k → name ++ toString j ∈ used)

theorem firstUnused_numbered (name : String) (used : List String) :
    FirstUnused used name (firstFree (numbered name) used) := by
  obtain ⟨i, hbound, hfree, hbefore⟩ := firstFree_spec _ used (numbered_injective name)
  rw [hbound]
  cases i with
  | zero => exact Or.inl ⟨hfree, rfl⟩
  | succ k =>
    refine Or.inr ⟨hbefore 0 (by omega), k + 1, by omega, rfl, hfree, ?_⟩
    intro j hj hlt
    obtain ⟨l, rfl⟩ : ∃ l, j = l + 1 := ⟨j - 1, by omega⟩
    exact hbefore (l + 1) hlt

theorem perform_failed {call : Call} {table : Imports} {failure : Failure}
    (h : (call.perform table).1 = .error failure) : (call.perform table).2 = table := by
  rcases perform_cases call table with ⟨_, hcall⟩ | ⟨_, _, _, hcall⟩ | ⟨_, hcall⟩ | ⟨_, _, _, _, _, _, hcall⟩
  · rw [hcall]
  · rw [hcall] at h; cases h
  · rw [hcall] at h; cases h
  · rw [hcall] at h; cases h

theorem new_alias {call : Call} {table : Imports} {path bound : String}
    (hold : (path, bound) ∉ table.aliases) (hnew : (path, bound) ∈ (call.perform table).2.aliases) :
    ∃ name, call.wanted = some (path, name) ∧ FirstUnused table.used name bound := by
  rcases perform_cases call table with
    ⟨_, hcall⟩ | ⟨_, _, _, hcall⟩ | ⟨_, hcall⟩ | ⟨p, name, _, hwanted, _, _, hcall⟩
  · rw [hcall] at hnew; exact absurd hnew hold
  · rw [hcall] at hnew; exact absurd hnew hold
  · rw [hcall] at hnew; exact absurd hnew hold
  · rw [hcall, mem_bind_aliases] at hnew
    rcases hnew with hnew | hnew
    · exact absurd hnew hold
    · cases hnew
      exact ⟨name, hwanted, firstUnused_numbered name table.used⟩

theorem mem_of_lookup_eq_some {entries : List (String × String)} {path bound : String}
    (h : entries.lookup path = some bound) : (path, bound) ∈ entries := by
  obtain ⟨before, rest, rfl, _⟩ := List.lookup_eq_some_iff.mp h
  simp

theorem aliasOf_foreign {table : Imports} {path : String} (h : table.Foreign path)
    (preferred : Option String) :
    ∃ bound, ((Call.aliasOf path preferred).perform table).1 = .ok (some bound) ∧
      (path, bound) ∈ ((Call.aliasOf path preferred).perform table).2.aliases := by
  rw [perform_aliasOf]
  rcases aliasOf_cases table path preferred with ⟨_, hnot, _⟩ | ⟨bound, _, hlookup, hok⟩ | ⟨_, _, hok⟩
  · exact absurd h hnot
  · rw [hok]
    exact ⟨bound, rfl, mem_of_lookup_eq_some hlookup⟩
  · rw [hok]
    exact ⟨_, rfl, by simp [mem_bind_aliases]⟩

/-- After any run of calls from a new table, failed ones included: paths and aliases match one to one;
an alias is no predeclared identifier, no keyword, not the file's package and no reserved name; neither
the file's own path nor the empty one is bound; what is bound stays bound; a call that fails changes
nothing; a new alias is the first unused one; and every other path gets one. -/
theorem run_invariant (path name : String) (calls : List Call) :
    let start : Imports := { importPath := path, packageName := name }
    let table := start.after calls
    (∀ p a q b, (p, a) ∈ table.aliases → (q, b) ∈ table.aliases → (p = q ↔ a = b)) ∧
    (∀ p a, (p, a) ∈ table.aliases →
      a ∉ Naming.predeclared ∧ a ∉ Naming.keywords ∧ a ≠ name ∧ ∀ r, start.Reserves calls r → a ≠ r) ∧
    (∀ p a, (p, a) ∈ table.aliases → p ≠ path ∧ p ≠ "") ∧
    (∀ more p a, (p, a) ∈ table.aliases → (p, a) ∈ (table.after more).aliases) ∧
    (∀ call failure, (Call.perform call table).1 = .error failure → (Call.perform call table).2 = table) ∧
    (∀ call p a, (p, a) ∉ table.aliases → (p, a) ∈ (Call.perform call table).2.aliases →
      ∃ base, call.wanted = some (p, base) ∧ FirstUnused table.used base a) ∧
    (∀ p preferred, p ≠ "" → p ≠ path → ∃ a,
      ((Call.aliasOf p preferred).perform table).1 = .ok (some a) ∧
      (p, a) ∈ ((Call.aliasOf p preferred).perform table).2.aliases) := by
  intro start table
  have hcons : table.Consistent := Consistent.after (consistent_of_no_aliases rfl) calls
  have hext : start.Extends table := after_extends start calls
  refine ⟨?_, ?_, ?_, ?_, ?_, ?_, ?_⟩
  · intro p a q b hp hq
    exact hcons.path_eq_iff hp hq
  · intro p a hp
    obtain ⟨hpre, hown, hres⟩ := hcons.free _ hp
    refine ⟨hpre, (hcons.words _ hp).2, ?_, ?_⟩
    · rw [hext.packageName] at hown
      exact hown
    · rintro r hr rfl
      exact hres (mem_reserved_of_reserves hr)
  · intro p a hp
    obtain ⟨hempty, hown⟩ := hcons.foreign _ hp
    rw [hext.importPath] at hown
    exact ⟨hown, hempty⟩
  · intro more p a hp
    exact (after_extends table more).aliases.subset hp
  · intro call failure h
    exact perform_failed h
  · intro call p a hold hnew
    exact new_alias hold hnew
  · intro p preferred hempty hown
    apply aliasOf_foreign
    refine ⟨hempty, ?_⟩
    rw [hext.importPath]
    exact hown

/-- Three packages called `v1`, with a name reserved in vain after the second one and another one that
the third alias has to avoid. -/
def threeVersions : List Call :=
  [.aliasOf "a/v1" none, .qualified ⟨"T", "b/v1"⟩, .reserve "v11", .reserve "v12", .aliasOf "c/v1" none]

theorem run_invariant_threeVersions :
    (({ importPath := "own", packageName := "own" } : Imports).after threeVersions).aliases =
      [("a/v1", "v1"), ("b/v1", "v11"), ("c/v1", "v13")] ∧
    ∀ r, ({ importPath := "own", packageName := "own" } : Imports).Reserves threeVersions r → "v13" ≠ r := by
  have haliases : (({ importPath := "own", packageName := "own" } : Imports).after threeVersions).aliases =
      [("a/v1", "v1"), ("b/v1", "v11"), ("c/v1", "v13")] := by decide +kernel
  obtain ⟨_, hfree, _⟩ := run_invariant "own" "own" threeVersions
  exact ⟨haliases, (hfree "c/v1" "v13" (by rw [haliases]; simp)).2.2.2⟩

end RpcClients.Imports
