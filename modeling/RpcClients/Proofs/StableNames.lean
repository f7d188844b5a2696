import Mathlib.Data.List.Chain
import RpcClients.Proofs.CollapsedNames

/-! # Go names are stable

In the Go name of an identifier a small letter never starts a word. Camel case changes nothing in such a name, so a
name that is in camel case already stays as it is. -/

namespace RpcClients.Naming

/-- Every small letter stands directly behind a letter. -/
def Joined (name : String) : Prop :=
  ∀ before c after, name.toList = before ++ c :: after → c.isLower = true → ∃ b ∈ before.getLast?, b.isAlpha = true

/-- What may stand behind what. -/
def Follows (b c : Char) : Prop := c.isLower = true → b.isAlpha = true

variable {b c : Char} {cs : List Char} {name : String}

theorem ne_of_isUpper (h : c.isUpper = true) : c ≠ '.' ∧ c ≠ '_' ∧ c.isLower = false ∧ c.isAlpha = true := by
  have hchar : isIdentifierChar c = true := by
    unfold isIdentifierChar Char.isAlphanum Char.isAlpha
    simp [h]
  have := of_isIdentifierChar (fun c => !c.isUpper || (c != '.' && c != '_' && !c.isLower && c.isAlpha)) (by decide)
    hchar
  simpa [h, and_assoc] using this

theorem joined_iff (h : name.toList.head?.any Char.isUpper = true) : Joined name ↔ name.toList.IsChain Follows := by
  rw [List.isChain_iff_forall_rel_of_append_cons_cons]
  constructor
  · intro hjoined b c before after hname hc
    obtain ⟨letter, hletter, halpha⟩ := hjoined (before ++ [b]) c after (by simpa using hname) hc
    rw [List.getLast?_concat, Option.mem_some_iff] at hletter
    rwa [hletter]
  · intro hchain before c after hname hc
    rcases List.eq_nil_or_concat before with rfl | ⟨front, b, rfl⟩
    · -- the first letter is a capital
      rw [hname] at h
      have hupper : c.isUpper = true := by simpa using h
      exact absurd hc (by simp [(ne_of_isUpper hupper).2.2.1])
    · rw [List.concat_eq_append] at hname ⊢
      exact ⟨b, by simp, hchain (by simpa using hname) hc⟩

theorem isAlpha_of_not_startsWord (h : isIdentifierChar c = true) (hword : startsWord (some c) = false) :
    c.isAlpha = true := by
  have := of_isIdentifierChar (fun c => startsWord (some c) || c.isAlpha) (by decide) h
  simpa [hword] using this

theorem startsWord_of_isAlpha (h : b.isAlpha = true) : startsWord (some b) = false := by
  have hchar : isIdentifierChar b = true := by
    unfold isIdentifierChar Char.isAlphanum
    simp [h]
  have := of_isIdentifierChar (fun c => !c.isAlpha || !startsWord (some c)) (by decide) hchar
  simpa [h] using this

/-- One character of an identifier gives at most one of the Go name, and that may stand behind `last`, if `last` is a
letter wherever no word starts. -/
theorem camelChar_follows (hc : isIdentifierChar c = true) {last : Char}
    (hlast : startsWord (some b) = false → last.isAlpha = true) (after : Option Char) :
    (camelChar (some b) c after = [] ∧ startsWord (some c) = true) ∨
    ∃ d, camelChar (some b) c after = [d] ∧ Follows last d ∧ (startsWord (some c) = false → d.isAlpha = true) := by
  unfold camelChar
  split_ifs with hdot hafter hunder hfirst hafter hlower
  · exact Or.inl ⟨rfl, by rw [hdot]; rfl⟩
  · exact Or.inr ⟨'_', rfl, fun h => absurd h (by decide), fun h => absurd h (by rw [hdot]; decide)⟩
  · exact Or.inr ⟨'X', rfl, fun h => absurd h (by decide), fun _ => by decide⟩
  · exact Or.inl ⟨rfl, by rw [hunder]; rfl⟩
  · exact Or.inr ⟨'_', rfl, fun h => absurd h (by decide), fun h => absurd h (by rw [hunder]; decide)⟩
  · rw [Bool.and_eq_true] at hlower
    refine Or.inr ⟨c.toUpper, rfl, fun h => absurd h (by simp [(raised_of_isLower hlower.1).2.2.1]), fun _ => ?_⟩
    exact isAlpha_of_not_startsWord (toUpper_of_isLower hlower.1).2.2 (startsWord_letter hlower.1).2
  · refine Or.inr ⟨c, rfl, fun h => hlast ?_, isAlpha_of_not_startsWord hc⟩
    simpa [h] using hlower

theorem isChain_camelFrom (hcs : cs.all isIdentifierChar = true) {last : Char}
    (hlast : startsWord (some b) = false → last.isAlpha = true) : (last :: camelFrom (some b) cs).IsChain Follows := by
  induction cs generalizing b last with
  | nil => exact .singleton _
  | cons c rest ih =>
    rw [List.all_cons, Bool.and_eq_true] at hcs
    rw [camelFrom]
    rcases camelChar_follows hcs.1 hlast rest.head? with ⟨hchar, hword⟩ | ⟨d, hchar, hfollows, hd⟩
    · rw [hchar, List.nil_append]
      exact ih hcs.2 fun h => absurd h (by simp [hword])
    · rw [hchar, List.singleton_append, List.isChain_cons_cons]
      exact ⟨hfollows, ih hcs.2 hd⟩

theorem joined_camelCase (h : IsSchemaName name) : Joined (camelCase name) := by
  rw [joined_iff (camelCase_exported h).2, camelCase, String.toList_ofList]
  obtain ⟨⟨_, hall⟩, hfirst⟩ := h
  cases hname : name.toList with
  | nil => exact .nil
  | cons c rest =>
    rw [hname, List.all_cons, Bool.and_eq_true] at hall
    obtain ⟨first, hchar, hupper⟩ := camelChar_first hall.1 (by simpa [hname] using hfirst) rest.head?
    rw [camelFrom, hchar]
    exact isChain_camelFrom hall.2 fun _ => (ne_of_isUpper hupper).2.2.2

/-! ## Names that stay as they are -/

theorem camelFrom_eq_self (hcs : cs.all isIdentifierChar = true) (hb : b ≠ '.') (h : (b :: cs).IsChain Follows) :
    camelFrom (some b) cs = cs := by
  induction cs generalizing b with
  | nil => rfl
  | cons c rest ih =>
    rw [List.all_cons, Bool.and_eq_true] at hcs
    rw [List.isChain_cons_cons] at h
    have hdot : c ≠ '.' := by
      rintro rfl
      exact absurd hcs.1 (by decide)
    rw [camelFrom, ih hcs.2 hdot h.2]
    by_cases hunder : c = '_'
    · subst hunder
      -- no small letter stands behind the underscore
      have hafter : rest.head?.any Char.isLower = false := by
        cases rest with
        | nil => rfl
        | cons d more => exact Bool.eq_false_iff.mpr fun hd => absurd ((List.isChain_cons_cons.mp h.2).1 hd) (by decide)
      rw [camelChar_underscore hb, hafter]
      rfl
    · rw [camelChar_kept hdot hunder]
      · rfl
      · cases hlower : c.isLower with
        | false => rfl
        | true => rw [startsWord_of_isAlpha (h.1 hlower), Bool.and_false]

theorem camelCase_eq_self (h : IsExported name) (hjoined : Joined name) : camelCase name = name := by
  rw [joined_iff h.2] at hjoined
  obtain ⟨⟨_, hall⟩, hfirst⟩ := h
  rw [camelCase, ← String.toList_inj, String.toList_ofList]
  cases hname : name.toList with
  | nil => rfl
  | cons c rest =>
    rw [hname] at hall hfirst hjoined
    rw [List.all_cons, Bool.and_eq_true] at hall
    obtain ⟨hdot, hunder, hlower, _⟩ := ne_of_isUpper (by simpa using hfirst)
    rw [camelFrom_kept hdot hunder (by simp [hlower]), camelFrom_eq_self hall.2 hdot hjoined]

/-- The Go name of an identifier is an exported identifier in which every small letter stands directly behind a letter.
These are the names that camel case leaves as they are, so the Go name of a Go name is that name. -/
theorem camelCase_stable (h : IsSchemaName name) :
    IsExported (camelCase name) ∧ Joined (camelCase name) ∧ camelCase (camelCase name) = camelCase name ∧
    (camelCase name = name ↔ IsExported name ∧ Joined name) := by
  have hexported := camelCase_exported h
  have hjoined := joined_camelCase h
  refine ⟨hexported, hjoined, camelCase_eq_self hexported hjoined, ?_, fun hname => camelCase_eq_self hname.1 hname.2⟩
  intro heq
  exact ⟨heq ▸ hexported, heq ▸ hjoined⟩

theorem camelCase_stable_foo :
    IsSchemaName "__foo_1bar__Baz_" ∧ camelCase "__foo_1bar__Baz_" = "XFoo_1Bar__Baz_" ∧ Joined "XFoo_1Bar__Baz_" ∧
      camelCase "XFoo_1Bar__Baz_" = "XFoo_1Bar__Baz_" := by
  have hname : IsSchemaName "__foo_1bar__Baz_" := by decide
  have hcase : camelCase "__foo_1bar__Baz_" = "XFoo_1Bar__Baz_" := by decide
  obtain ⟨_, hjoined, hagain, _⟩ := camelCase_stable hname
  rw [hcase] at hjoined hagain
  exact ⟨hname, hcase, hjoined, hagain⟩

end RpcClients.Naming
