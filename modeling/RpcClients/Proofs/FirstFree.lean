import Mathlib.Data.List.Nodup
import Mathlib.Data.List.Perm.Subperm
import RpcClients.Source.Parameter

/-! # The first free name

Candidates that differ from each other cannot all be taken, so the search for a free one ends. -/

namespace RpcClients

theorem exists_free (candidate : Nat → String) (taken : List String)
    (hinj : Function.Injective candidate) : ∃ i, i < taken.length + 1 ∧ candidate i ∉ taken := by
  by_contra h
  have hmem : ∀ i, i < taken.length + 1 → candidate i ∈ taken := by
    intro i hi
    by_contra hfree
    exact h ⟨i, hi, hfree⟩
  have hsub : (List.range (taken.length + 1)).map candidate ⊆ taken := by
    intro name hname
    obtain ⟨i, hi, rfl⟩ := List.mem_map.mp hname
    exact hmem i (List.mem_range.mp hi)
  -- all different, these are more names than are taken
  have hnodup : ((List.range (taken.length + 1)).map candidate).Nodup := List.nodup_range.map hinj
  have := (hnodup.subperm hsub).length_le
  simp only [List.length_map, List.length_range] at this
  omega

/-- The candidate that is chosen is not taken, and all before it are. -/
theorem firstFree_spec (candidate : Nat → String) (taken : List String)
    (hinj : Function.Injective candidate) :
    ∃ i, firstFree candidate taken = candidate i ∧ candidate i ∉ taken ∧
      ∀ j, j < i → candidate j ∈ taken := by
  unfold firstFree
  cases h : (List.range (taken.length + 1)).find? fun i => candidate i ∉ taken with
  | none =>
    obtain ⟨i, hi, hfree⟩ := exists_free candidate taken hinj
    rw [List.find?_range_eq_none] at h
    have := h i hi
    simp [hfree] at this
  | some i =>
    rw [List.find?_range_eq_some] at h
    obtain ⟨hfree, _, hbefore⟩ := h
    refine ⟨i, rfl, by simpa using hfree, ?_⟩
    intro j hj
    simpa using hbefore j hj

theorem toString_injective : Function.Injective (toString : Nat → String) := by
  intro m n h
  have hdigits : Nat.toDigits 10 m = Nat.toDigits 10 n := by
    simpa using congrArg String.toList h
  simpa using congrArg (fun ds => Nat.ofDigitChars 10 ds 0) hdigits

theorem numbered_injective (name : String) : Function.Injective (Imports.numbered name) := by
  intro i j h
  have happ : ∀ k, name ≠ name ++ toString (k + 1) := by
    intro k hk
    have := congrArg String.toList hk
    simp at this
  cases i with
  | zero =>
    cases j with
    | zero => rfl
    | succ j => exact absurd h (happ j)
  | succ i =>
    cases j with
    | zero => exact absurd h.symm (happ i)
    | succ j => exact toString_injective (String.append_right_inj name |>.mp h)

theorem underscored_injective (name : String) : Function.Injective (underscored name) := by
  intro i j h
  have := congrArg (fun s => s.toList.length) h
  simpa [underscored] using this

end RpcClients
