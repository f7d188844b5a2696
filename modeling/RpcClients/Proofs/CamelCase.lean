import RpcClients.Proofs.GoText

/-! # Camel case

Camel case takes the dots out of a name and makes an exported Go identifier of an identifier. -/

namespace RpcClients.Naming

/-- An identifier as schema files have them: it does not start with a digit. -/
def IsSchemaName (name : String) : Prop :=
  IsIdentifier name ∧ name.toList.head?.any (fun c => !c.isDigit) = true

/-- An identifier that starts with a capital, as Go wants it of what other packages refer to. -/
def IsExported (name : String) : Prop := IsIdentifier name ∧ name.toList.head?.any Char.isUpper = true

instance (name : String) : Decidable (IsSchemaName name) := inferInstanceAs (Decidable (_ ∧ _))

instance (name : String) : Decidable (IsExported name) := inferInstanceAs (Decidable (_ ∧ _))

theorem isIdentifierChar_of_isLower {c : Char} (h : c.isLower = true) : isIdentifierChar c = true := by
  unfold isIdentifierChar Char.isAlphanum Char.isAlpha
  simp [h]

theorem toUpper_of_isLower {c : Char} (h : c.isLower = true) :
    c.toUpper ≠ '.' ∧ c.toUpper.isUpper = true ∧ isIdentifierChar c.toUpper = true := by
  have := of_isIdentifierChar
    (fun c => !c.isLower || (c.toUpper != '.' && c.toUpper.isUpper && isIdentifierChar c.toUpper))
    (by decide) (isIdentifierChar_of_isLower h)
  simpa [h, and_assoc] using this

/-! ## Dots -/

theorem dot_not_mem_camelChar (before : Option Char) (c : Char) (after : Option Char) :
    '.' ∉ camelChar before c after := by
  unfold camelChar
  split_ifs with hdot _ _ _ _ hlower
  · simp
  · simp
  · simp
  · simp
  · simp
  · rw [Bool.and_eq_true] at hlower
    simpa using (toUpper_of_isLower hlower.1).1.symm
  · simpa using Ne.symm hdot

theorem dot_not_mem_camelCase (name : String) : '.' ∉ (camelCase name).toList := by
  have hfrom : ∀ (cs : List Char) (before : Option Char), '.' ∉ camelFrom before cs := by
    intro cs
    induction cs with
    | nil => simp [camelFrom]
    | cons c rest ih =>
      intro before
      rw [camelFrom, List.mem_append, not_or]
      exact ⟨dot_not_mem_camelChar _ _ _, ih _⟩
  rw [camelCase, String.toList_ofList]
  exact hfrom _ _

/-! ## Identifiers -/

theorem camelChar_identifier {c : Char} (h : isIdentifierChar c = true) (before after : Option Char) :
    (camelChar before c after).all isIdentifierChar = true := by
  unfold camelChar
  split_ifs with _ _ _ _ _ hlower
  · rfl
  · simp [isIdentifierChar]
  · simp [isIdentifierChar]
  · rfl
  · simp [isIdentifierChar]
  · rw [Bool.and_eq_true] at hlower
    simpa using (toUpper_of_isLower hlower.1).2.2
  · simpa using h

theorem camelFrom_identifier {cs : List Char} (h : cs.all isIdentifierChar = true) (before : Option Char) :
    (camelFrom before cs).all isIdentifierChar = true := by
  induction cs generalizing before with
  | nil => rfl
  | cons c rest ih =>
    rw [List.all_cons, Bool.and_eq_true] at h
    rw [camelFrom, List.all_append, camelChar_identifier h.1, ih h.2]
    rfl

theorem camelChar_first {c : Char} (h : isIdentifierChar c = true) (hdigit : c.isDigit = false)
    (after : Option Char) : ∃ first, camelChar none c after = [first] ∧ first.isUpper = true := by
  unfold camelChar
  split_ifs with hdot hafter hunder hnone hafter hlower
  · rw [hdot] at h
    exact absurd h (by decide)
  · rw [hdot] at h
    exact absurd h (by decide)
  · exact ⟨'X', rfl, by decide⟩
  · exact absurd (Or.inl rfl) hnone
  · exact absurd (Or.inl rfl) hnone
  · rw [Bool.and_eq_true] at hlower
    exact ⟨_, rfl, (toUpper_of_isLower hlower.1).2.1⟩
  · refine ⟨c, rfl, ?_⟩
    have hlow : c.isLower = false := by simpa [startsWord] using hlower
    unfold isIdentifierChar Char.isAlphanum Char.isAlpha at h
    simpa [hdigit, hlow, hunder] using h

theorem camelCase_exported {name : String} (h : IsSchemaName name) : IsExported (camelCase name) := by
  obtain ⟨⟨hne, hall⟩, hfirst⟩ := h
  cases hlist : name.toList with
  | nil => exact absurd (by simpa using hlist) hne
  | cons c rest =>
    rw [hlist, List.all_cons, Bool.and_eq_true] at hall
    have hdigit : c.isDigit = false := by simpa [hlist] using hfirst
    obtain ⟨first, hchar, hupper⟩ := camelChar_first hall.1 hdigit rest.head?
    have hcase : (camelCase name).toList = first :: camelFrom (some c) rest := by
      rw [camelCase, String.toList_ofList, hlist, camelFrom, hchar]
      rfl
    refine ⟨⟨?_, ?_⟩, by simp [hcase, hupper]⟩
    · intro hempty
      rw [hempty] at hcase
      simp at hcase
    · have hfrom := @camelFrom_identifier (c :: rest) (by simp [hall.1, hall.2]) none
      rwa [camelFrom, hchar, List.singleton_append, ← hcase] at hfrom

theorem IsExported.append {name other : String} (h : IsExported name)
    (hother : other.toList.all isIdentifierChar = true) : IsExported (name ++ other) := by
  refine ⟨h.1.append hother, ?_⟩
  have hne : name.toList ≠ [] := by simpa using h.1.1
  obtain ⟨c, rest, hlist⟩ := List.exists_cons_of_ne_nil hne
  simpa [hlist] using h.2

theorem IsExported.nest {outer inner : String} (h : IsExported outer) (h' : IsExported inner) :
    IsExported (outer ++ "_" ++ inner) := (h.append (by decide)).append h'.1.2

end RpcClients.Naming
