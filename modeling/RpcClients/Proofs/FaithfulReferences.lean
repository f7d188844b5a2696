import RpcClients.Proofs.AliasChoice
import RpcClients.Proofs.ParameterNames

/-! # References of a whole run

All references that a file makes while its table grows can be read in its last table. So two of them are
written alike exactly if they are to the same identifier. -/

namespace RpcClients.Imports

/-! ## References in one table -/

/-- The file can refer to the package of an identifier: it is its own, or it has an alias. -/
def Reaches (table : Imports) (ident : Ident) : Prop :=
  ident.importPath = table.importPath ∨ ident.importPath ∈ table.aliases.map (·.1)

theorem Consistent.aliasFor_eq_none_iff {table : Imports} (h : table.Consistent) {ident : Ident}
    (hident : table.Reaches ident) : table.aliasFor ident = none ↔ ident.importPath = table.importPath := by
  constructor
  · intro hnone
    rcases hident with hown | hbound
    · exact hown
    · obtain ⟨⟨path, bound⟩, hentry, rfl⟩ := List.mem_map.mp hbound
      rw [h.aliasFor_eq_some_iff.mpr hentry] at hnone
      cases hnone
  · intro hown
    rw [aliasFor, if_pos hown]

theorem Consistent.importPath_eq {table : Imports} (h : table.Consistent) {ident other : Ident}
    (hident : table.Reaches ident) (hother : table.Reaches other)
    (heq : table.aliasFor ident = table.aliasFor other) : ident.importPath = other.importPath := by
  cases hbound : table.aliasFor ident with
  | none =>
    have hown := (h.aliasFor_eq_none_iff hident).mp hbound
    have hown' := (h.aliasFor_eq_none_iff hother).mp (heq ▸ hbound)
    exact hown.trans hown'.symm
  | some bound =>
    have hentry := h.aliasFor_eq_some_iff.mp hbound
    have hentry' := h.aliasFor_eq_some_iff.mp (heq ▸ hbound)
    exact (h.path_eq_iff hentry hentry').mpr rfl

/-- A reference shows both of its parts: a name without an alias has no dot, and an alias stands before the last
dot. -/
theorem aliasFor_of_referenceTo_eq {table : Imports} {ident other : Ident} (hdot : '.' ∉ ident.name.toList)
    (hdot' : '.' ∉ other.name.toList) (heq : table.referenceTo ident = table.referenceTo other) :
    table.aliasFor ident = table.aliasFor other ∧ ident.name = other.name := by
  have hqualified : ∀ bound name : String, '.' ∈ (bound ++ "." ++ name).toList := by simp
  unfold referenceTo at heq
  cases hbound : table.aliasFor ident with
  | none =>
    cases hbound' : table.aliasFor other with
    | none =>
      simp only [hbound, hbound'] at heq
      exact ⟨rfl, heq⟩
    | some bound' =>
      simp only [hbound, hbound'] at heq
      rw [heq] at hdot
      exact absurd (hqualified _ _) hdot
  | some bound =>
    cases hbound' : table.aliasFor other with
    | none =>
      simp only [hbound, hbound'] at heq
      rw [← heq] at hdot'
      exact absurd (hqualified _ _) hdot'
    | some bound' =>
      simp only [hbound, hbound'] at heq
      have hsame : bound = bound' := by
        have hlast := congrArg qualifier? heq
        rw [qualifier?_eq hdot, qualifier?_eq hdot'] at hlast
        exact Option.some.inj hlast
      subst hsame
      exact ⟨rfl, by simpa using heq⟩

theorem Consistent.referenceTo_eq_iff {table : Imports} (h : table.Consistent) {ident other : Ident}
    (hident : table.Reaches ident) (hother : table.Reaches other) (hdot : '.' ∉ ident.name.toList)
    (hdot' : '.' ∉ other.name.toList) : table.referenceTo ident = table.referenceTo other ↔ ident = other := by
  constructor
  · intro heq
    obtain ⟨hbound, hname⟩ := aliasFor_of_referenceTo_eq hdot hdot' heq
    have hpath := h.importPath_eq hident hother hbound
    cases ident
    cases other
    simp only at hname hpath
    rw [hname, hpath]
  · rintro rfl
    rfl

/-! ## References of a run -/

/-- One of the calls asks for a reference to the identifier, and the text is the answer. -/
def Qualifies (table : Imports) (calls : List Call) (ident : Ident) (text : String) : Prop :=
  ∃ before rest, calls = before ++ Call.qualified ident :: rest ∧
    ((Call.qualified ident).perform (table.after before)).1 = .ok (some text)

/-- Whatever happens before and after it, a reference is the one that the last table gives. -/
theorem Consistent.referenceTo_of_qualifies {table : Imports} (h : table.Consistent) {calls : List Call}
    {ident : Ident} {text : String} (hcall : table.Qualifies calls ident text) :
    text = (table.after calls).referenceTo ident ∧ (table.after calls).Reaches ident := by
  obtain ⟨before, rest, rfl, hanswer⟩ := hcall
  have hcons := h.after (before ++ Call.qualified ident :: rest)
  rw [after_append, after_cons] at hcons ⊢
  rw [perform_qualified] at hcons hanswer ⊢
  cases hok : (table.after before).qualified ident with
  | error problem =>
    simp only [hok] at hanswer
    cases hanswer
  | ok answer =>
    obtain ⟨given, next⟩ := answer
    simp only [hok] at hanswer hcons ⊢
    cases hanswer
    have hext := after_extends next rest
    refine ⟨referenceTo_of_qualified hok hext hcons, ?_⟩
    rcases qualified_cases hok with ⟨hown, _⟩ | ⟨_, bound, hbound, _⟩
    · left
      rw [hown, hext.importPath, eq_resolved_of_qualified hok, resolved_importPath]
    · right
      exact List.mem_map_of_mem (hext.aliases.subset hbound)

/-- In a run of calls from a new table, failed ones included, let two calls at any moments answer with
references to identifiers whose names have no dots. The references are equal exactly if the identifiers are. -/
theorem qualified_faithful (path name : String) (calls : List Call) {ident other : Ident} {text text' : String}
    (hcall : ({ importPath := path, packageName := name } : Imports).Qualifies calls ident text)
    (hcall' : ({ importPath := path, packageName := name } : Imports).Qualifies calls other text')
    (hdot : '.' ∉ ident.name.toList) (hdot' : '.' ∉ other.name.toList) : text = text' ↔ ident = other := by
  have hcons : ({ importPath := path, packageName := name } : Imports).Consistent := consistent_of_no_aliases rfl
  obtain ⟨rfl, hreaches⟩ := hcons.referenceTo_of_qualifies hcall
  obtain ⟨rfl, hreaches'⟩ := hcons.referenceTo_of_qualifies hcall'
  exact (hcons.after calls).referenceTo_eq_iff hreaches hreaches' hdot hdot'

/-- References to types of one name in three packages, one of them the file's own. The alias that the second
package would have had next is reserved in between, and a call fails. -/
def sameNamedTypes : List Call :=
  [.qualified ⟨"T", "a/v1"⟩, .reserve "v11", .reserve "v1", .qualified ⟨"T", "b/v1"⟩, .qualified ⟨"T", "own"⟩,
   .qualified ⟨"T", "a/v1"⟩]

theorem qualified_faithful_sameNamedTypes :
    ({ importPath := "own", packageName := "v" } : Imports).Qualifies sameNamedTypes ⟨"T", "a/v1"⟩ "v1.T" ∧
    ({ importPath := "own", packageName := "v" } : Imports).Qualifies sameNamedTypes ⟨"T", "b/v1"⟩ "v12.T" ∧
    ("v1.T" = "v12.T" ↔ (⟨"T", "a/v1"⟩ : Ident) = ⟨"T", "b/v1"⟩) := by
  have hfirst : ({ importPath := "own", packageName := "v" } : Imports).Qualifies sameNamedTypes ⟨"T", "a/v1"⟩
      "v1.T" := ⟨[], _, rfl, by decide⟩
  have hsecond : ({ importPath := "own", packageName := "v" } : Imports).Qualifies sameNamedTypes ⟨"T", "b/v1"⟩
      "v12.T" := ⟨[.qualified ⟨"T", "a/v1"⟩, .reserve "v11", .reserve "v1"], _, rfl, by decide⟩
  exact ⟨hfirst, hsecond, qualified_faithful "own" "v" sameNamedTypes hfirst hsecond (by decide) (by decide)⟩

end RpcClients.Imports
