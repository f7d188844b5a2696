import RpcClients.Proofs.Flattening

/-! # Which alias a package has

What a file calls a package is settled when it first refers to it. A name without a number goes to the
first package that wants it. -/

namespace RpcClients.Imports

/-! ## References as a later table has them -/

theorem Consistent.lookup_eq_some_iff {table : Imports} (h : table.Consistent) {path bound : String} :
    table.aliases.lookup path = some bound ↔ (path, bound) ∈ table.aliases := lookup_eq_some_iff_of_nodup h.paths

/-- What the file calls the package of an identifier, none for its own package. -/
def aliasFor (table : Imports) (ident : Ident) : Option String :=
  if ident.importPath = table.importPath then none else table.aliases.lookup ident.importPath

/-- How the file refers to an identifier. -/
def referenceTo (table : Imports) (ident : Ident) : String :=
  match table.aliasFor ident with
  | none => ident.name
  | some bound => bound ++ "." ++ ident.name

theorem Consistent.aliasFor_eq_some_iff {table : Imports} (h : table.Consistent) {ident : Ident}
    {bound : String} : table.aliasFor ident = some bound ↔ (ident.importPath, bound) ∈ table.aliases := by
  unfold aliasFor
  split_ifs with hown
  · simp only [false_iff]
    intro hmem
    exact (h.foreign _ hmem).2 hown
  · exact h.lookup_eq_some_iff

theorem referenceTo_of_qualified {table middle final : Imports} {ident : Ident} {text : String}
    (h : table.qualified ident = .ok (text, middle)) (hext : middle.Extends final)
    (hcons : final.Consistent) : text = final.referenceTo ident := by
  have hown : final.importPath = table.importPath := by
    rw [hext.importPath, eq_resolved_of_qualified h, resolved_importPath]
  unfold referenceTo
  rcases qualified_cases h with ⟨hpath, htext⟩ | ⟨_, bound, hbound, htext⟩
  · have hnone : final.aliasFor ident = none := by simp [aliasFor, hpath, hown]
    rw [hnone, htext]
  · rw [hcons.aliasFor_eq_some_iff.mpr (hext.aliases.subset hbound), htext]

theorem mem_aliases_resolved_iff {table : Imports} (h : table.aliases = []) {idents : List Ident}
    {bound : String} :
    bound ∈ (table.resolved idents).aliases.map (·.2) ↔
      ∃ ident ∈ idents, (table.resolved idents).aliasFor ident = some bound := by
  have hcons := (consistent_of_no_aliases h).resolved idents
  constructor
  · intro hbound
    obtain ⟨entry, hentry, rfl⟩ := List.mem_map.mp hbound
    rcases mem_resolved hentry with hold | hpath
    · simp [h] at hold
    · obtain ⟨ident, hident, heq⟩ := List.mem_map.mp hpath
      refine ⟨ident, hident, hcons.aliasFor_eq_some_iff.mpr ?_⟩
      rw [heq]
      exact hentry
  · rintro ⟨ident, _, hbound⟩
    exact List.mem_map_of_mem (hcons.aliasFor_eq_some_iff.mp hbound)

/-! ## Names without a number -/

/-- The name does not end in a digit. -/
def Unnumbered (name : String) : Prop := ∀ c ∈ name.toList.getLast?, c.isDigit = false

instance (name : String) : Decidable (Unnumbered name) :=
  decidable_of_iff (name.toList.getLast?.all fun c => !c.isDigit) (by simp [Unnumbered, Option.all_eq_true])

theorem numbered_eq {base name : String} (hname : Unnumbered name) {i : Nat}
    (h : numbered base i = name) : i = 0 ∧ base = name := by
  cases i with
  | zero => exact ⟨rfl, h⟩
  | succ i =>
    obtain ⟨c, hlast, hdigit⟩ := Naming.last_numbered base i
    have := hname c (h ▸ hlast)
    rw [hdigit] at this
    exact absurd this (by decide)

theorem firstFree_numbered_eq_iff {base name : String} (hname : Unnumbered name) (used : List String) :
    firstFree (numbered base) used = name ↔ base = name ∧ name ∉ used := by
  obtain ⟨i, hbound, hfree, hbefore⟩ := firstFree_spec _ used (numbered_injective base)
  rw [hbound]
  constructor
  · intro h
    exact ⟨(numbered_eq hname h).2, h ▸ hfree⟩
  · rintro ⟨rfl, hunused⟩
    rcases Nat.eq_zero_or_pos i with rfl | hpos
    · rfl
    · exact absurd (hbefore 0 hpos) hunused

/-- The identifier makes a file with the import path `own` look for an alias made from the name. -/
def Wants (own name : String) (ident : Ident) : Prop :=
  ident.name ≠ "" ∧ (ident.importPath ≠ "" ∧ ident.importPath ≠ own) ∧
    Naming.packageNameOf ident.importPath = name

instance (own name : String) (ident : Ident) : Decidable (Wants own name ident) :=
  inferInstanceAs (Decidable (_ ∧ _ ∧ _))

/-- The path of the first identifier that wants the name. -/
def firstWanting (own name : String) (idents : List Ident) : Option String :=
  (idents.find? fun ident => Wants own name ident).map (·.importPath)

theorem resolved_cons (table : Imports) (ident : Ident) (rest : List Ident) :
    table.resolved (ident :: rest) = (table.resolved [ident]).resolved rest := resolved_append _ [ident] rest

instance (table : Imports) (path : String) : Decidable (table.Foreign path) :=
  inferInstanceAs (Decidable (_ ∧ _))

theorem resolved_singleton (table : Imports) (ident : Ident) :
    table.resolved [ident] =
      if ident.name ≠ "" ∧ table.Foreign ident.importPath ∧ table.aliases.lookup ident.importPath = none then
        table.bind ident.importPath (Naming.packageNameOf ident.importPath)
      else table := by
  unfold resolved
  rw [List.map_singleton, after_cons, after_nil, perform_qualified]
  unfold qualified
  by_cases hname : ident.name = ""
  · simp [hname]
  · by_cases hown : ident.importPath = table.importPath
    · simp [hname, hown, Foreign]
    · rw [if_neg hname, if_neg hown]
      rcases aliasOf_cases table ident.importPath none with
        ⟨_, hnot, hno⟩ | ⟨_, hfor, hlookup, hok⟩ | ⟨hfor, hlookup, hok⟩
      · rw [hno, if_neg fun h => hnot h.2.1]
        rfl
      · rw [hok, if_neg (by simp [hlookup])]
        rfl
      · rw [hok, if_pos ⟨hname, hfor, hlookup⟩]
        rfl

/-- No bound path wants the name, and none has it. -/
def Avoids (table : Imports) (name : String) : Prop :=
  ∀ entry ∈ table.aliases, Naming.packageNameOf entry.1 ≠ name ∧ entry.2 ≠ name

theorem mem_used_bind_iff (table : Imports) (path base name : String) :
    name ∈ (table.bind path base).used ↔ name ∈ table.used ∨ name = firstFree (numbered base) table.used := by
  simp only [used, bind, List.map_append, List.map_cons, List.map_nil, List.mem_append, List.mem_cons,
    List.not_mem_nil, or_false]
  tauto

theorem Avoids.kept {table : Imports} {ident : Ident} {name : String} (h : table.Avoids name)
    (hname : Unnumbered name) (hwants : ¬ Wants table.importPath name ident) :
    (table.resolved [ident]).Avoids name ∧ (name ∈ (table.resolved [ident]).used ↔ name ∈ table.used) := by
  rw [resolved_singleton]
  split_ifs with hbinds
  · obtain ⟨hident, hforeign, _⟩ := hbinds
    have hbase : Naming.packageNameOf ident.importPath ≠ name := fun heq => hwants ⟨hident, hforeign, heq⟩
    have hbound : firstFree (numbered (Naming.packageNameOf ident.importPath)) table.used ≠ name := by
      intro heq
      exact hbase ((firstFree_numbered_eq_iff hname _).mp heq).1
    constructor
    · intro entry hentry
      rcases (mem_bind_aliases _ _ _ _).mp hentry with hentry | rfl
      · exact h entry hentry
      · exact ⟨hbase, hbound⟩
    · rw [mem_used_bind_iff]
      exact or_iff_left (Ne.symm hbound)
  · exact ⟨h, Iff.rfl⟩

theorem not_mem_resolved_of_used {table : Imports} (hcons : table.Consistent) {name : String}
    (h : table.Avoids name) (hused : name ∈ table.used) (idents : List Ident) (path : String) :
    (path, name) ∉ (table.resolved idents).aliases := by
  intro hmem
  obtain ⟨hpre, hpackage, hreserved⟩ := (hcons.resolved idents).free _ hmem
  have hext := table.resolved_extends idents
  have halias : name ∉ table.aliases.map (·.2) := by
    intro hname
    obtain ⟨entry, hentry, heq⟩ := List.mem_map.mp hname
    exact (h entry hentry).2 heq
  rw [hext.packageName] at hpackage
  exact (not_mem_used_iff table name).mpr
    ⟨hpre, hpackage, fun hmem => hreserved (hext.reserved.subset hmem), halias⟩ hused

theorem Avoids.mem_resolved_iff {table : Imports} (hcons : table.Consistent) {name : String}
    (hname : Unnumbered name) (h : table.Avoids name) (idents : List Ident) (path : String) :
    (path, name) ∈ (table.resolved idents).aliases ↔
      name ∉ table.used ∧ firstWanting table.importPath name idents = some path := by
  by_cases hused : name ∈ table.used
  · simp [hused, not_mem_resolved_of_used hcons h hused]
  induction idents generalizing table with
  | nil =>
    simp only [resolved_nil, firstWanting, List.find?_nil, Option.map_none, reduceCtorEq, and_false, iff_false]
    intro hmem
    exact (h _ hmem).2 rfl
  | cons ident rest ih =>
    rw [resolved_cons, firstWanting, List.find?_cons]
    by_cases hwants : Wants table.importPath name ident
    · -- the path is not bound yet, so it takes the name, and no other path has it afterwards
      obtain ⟨hident, hforeign, hbase⟩ := hwants
      have hnew : table.aliases.lookup ident.importPath = none := by
        cases hlookup : table.aliases.lookup ident.importPath with
        | none => rfl
        | some bound => exact absurd hbase (h _ (mem_of_lookup_eq_some hlookup)).1
      have hbound : (ident.importPath, name) ∈ (table.resolved [ident]).aliases := by
        rw [resolved_singleton, if_pos ⟨hident, hforeign, hnew⟩, mem_bind_aliases]
        right
        rw [(firstFree_numbered_eq_iff hname _).mpr ⟨hbase, hused⟩]
      have hlater := ((table.resolved [ident]).resolved_extends rest).aliases.subset hbound
      have hwants : Wants table.importPath name ident := ⟨hident, hforeign, hbase⟩
      simp only [hwants, decide_true, Option.map_some, Option.some.injEq, hused, not_false_eq_true, true_and]
      constructor
      · intro hmem
        exact (((hcons.resolved _).resolved rest).path_eq_iff hlater hmem).mpr rfl
      · rintro rfl
        exact hlater
    · obtain ⟨havoids, hsame⟩ := h.kept hname hwants
      rw [ih (hcons.resolved _) havoids (fun hmem => hused (hsame.mp hmem)), hsame, resolved_importPath]
      simp [hwants, firstWanting]

/-- From a table without aliases, a name without a number becomes the alias of the first path that wants
it, unless it is in use for something else. -/
theorem mem_resolved_unnumbered_iff {table : Imports} (h : table.aliases = []) {name : String}
    (hname : Unnumbered name) (idents : List Ident) (path : String) :
    (path, name) ∈ (table.resolved idents).aliases ↔
      name ∉ table.used ∧ firstWanting table.importPath name idents = some path :=
  Avoids.mem_resolved_iff (consistent_of_no_aliases h) hname (by simp [Avoids, h]) idents path

/-- A file that starts from the table and refers to the identifiers calls the package at the path by one
of the names: it is the first path to want a name that is not in use. -/
def CallsByOneOf (table : Imports) (names : List String) (idents : List Ident) (path : String) : Prop :=
  ∃ name ∈ names, name ∉ table.used ∧ firstWanting table.importPath name idents = some path

instance (table : Imports) (names : List String) (idents : List Ident) (path : String) :
    Decidable (table.CallsByOneOf names idents path) := inferInstanceAs (Decidable (∃ name ∈ names, _))

theorem callsByOneOf_iff {table : Imports} (h : table.aliases = []) {names : List String}
    (hnames : ∀ name ∈ names, Unnumbered name) (idents : List Ident) (ident : Ident) :
    table.CallsByOneOf names idents ident.importPath ↔
      ∃ bound ∈ (table.resolved idents).aliasFor ident, bound ∈ names := by
  have hcons := (consistent_of_no_aliases h).resolved idents
  constructor
  · rintro ⟨name, hname, hfirst⟩
    have hmem := (mem_resolved_unnumbered_iff h (hnames name hname) idents _).mpr hfirst
    exact ⟨name, hcons.aliasFor_eq_some_iff.mpr hmem, hname⟩
  · rintro ⟨bound, hbound, hname⟩
    have hmem := hcons.aliasFor_eq_some_iff.mp hbound
    exact ⟨bound, hname, (mem_resolved_unnumbered_iff h (hnames bound hname) idents _).mp hmem⟩

end RpcClients.Imports
