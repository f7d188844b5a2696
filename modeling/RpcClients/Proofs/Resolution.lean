import Mathlib.Data.List.Forall2
import RpcClients.Entries
import RpcClients.Proofs.GoName

/-! # Steps of resolution

A step that succeeds gives a value and leaves a table. Longer steps come apart into shorter ones. -/

namespace RpcClients.Resolving

variable {α β : Type}

/-- What a step answers in a table, and the table that it leaves. -/
def outcome (step : Resolving α) (table : Imports) : Except Failure α × Imports := step.run.run table

theorem outcome_lift (step : Imports → Except ResolutionProblem (String × Imports)) (table : Imports) :
    (lift step).outcome table =
      match step table with
      | .error problem => (.error (.resolution problem), table)
      | .ok (text, next) => (.ok text, next) := by
  change (match step table with
    | .error problem => throw (Failure.resolution problem)
    | .ok (text, next) => do set next; return text : Resolving String).outcome table = _
  cases step table <;> rfl

theorem outcome_bind (step : Resolving α) (rest : α → Resolving β) (table : Imports) :
    (step >>= rest).outcome table =
      match step.outcome table with
      | (.error failure, left) => (.error failure, left)
      | (.ok value, left) => (rest value).outcome left := by
  unfold outcome
  simp only [ExceptT.run_bind, StateT.run_bind]
  rcases step.run.run table with ⟨_ | _, left⟩ <;> rfl

/-- In `table` the step gives `value`, and it leaves `next`. -/
def Gives (step : Resolving α) (table : Imports) (value : α) (next : Imports) : Prop :=
  step.outcome table = (.ok value, next)

instance [DecidableEq α] (step : Resolving α) (table : Imports) (value : α) (next : Imports) :
    Decidable (Gives step table value next) := inferInstanceAs (Decidable (_ = _))

theorem gives_pure {value given : α} {table next : Imports} :
    Gives (pure value) table given next ↔ given = value ∧ next = table := by
  constructor
  · intro h
    cases h
    exact ⟨rfl, rfl⟩
  · rintro ⟨rfl, rfl⟩
    rfl

theorem not_gives_throw {failure : Failure} {table next : Imports} {given : α} :
    ¬ Gives (throw failure) table given next := by
  intro h
  cases h

theorem gives_bind {step : Resolving α} {rest : α → Resolving β} {table next : Imports} {given : β} :
    Gives (step >>= rest) table given next ↔
      ∃ value middle, Gives step table value middle ∧ Gives (rest value) middle given next := by
  unfold Gives
  rw [outcome_bind]
  constructor
  · intro h
    rcases hstep : step.outcome table with ⟨failure | value, middle⟩
    · rw [hstep] at h
      cases h
    · rw [hstep] at h
      exact ⟨value, middle, rfl, h⟩
  · rintro ⟨value, middle, hstep, hrest⟩
    rw [hstep]
    exact hrest

theorem gives_ofExcept {result : Except Failure α} {table next : Imports} {given : α} :
    Gives (ofExcept result) table given next ↔ result = .ok given ∧ next = table := by
  cases result with
  | error failure => simp [ofExcept, not_gives_throw]
  | ok value => simp [ofExcept, gives_pure, eq_comm]

theorem gives_lift {step : Imports → Except ResolutionProblem (String × Imports)}
    {table next : Imports} {text : String} :
    Gives (lift step) table text next ↔ step table = .ok (text, next) := by
  unfold Gives
  rw [outcome_lift]
  rcases step table with problem | ⟨answer, left⟩
  · constructor <;>
    · intro h
      cases h
  · constructor <;>
    · intro h
      cases h
      rfl

theorem gives_qualified {ident : Ident} {table next : Imports} {text : String} :
    Gives (qualified ident) table text next ↔ table.qualified ident = .ok (text, next) := gives_lift

theorem gives_member {path : Option String} {name text : String} {table next : Imports} :
    Gives (member path name) table text next ↔
      ∃ known, path = some known ∧ table.qualified ⟨name, known⟩ = .ok (text, next) := by
  cases path with
  | none => simp [member, not_gives_throw]
  | some known => simp [member, gives_qualified]

theorem gives_mapM_nil {step : α → Resolving β} {table next : Imports} {given : List β} :
    Gives ([].mapM step) table given next ↔ given = [] ∧ next = table := by
  rw [List.mapM_nil]
  exact gives_pure

theorem gives_mapM_cons {step : α → Resolving β} {item : α} {rest : List α} {table next : Imports}
    {given : List β} :
    Gives ((item :: rest).mapM step) table given next ↔
      ∃ value middle values, Gives (step item) table value middle ∧
        Gives (rest.mapM step) middle values next ∧ given = value :: values := by
  rw [List.mapM_cons]
  simp only [gives_bind, gives_pure]
  constructor
  · rintro ⟨value, middle, hvalue, values, last, hvalues, rfl, rfl⟩
    exact ⟨value, middle, values, hvalue, hvalues, rfl⟩
  · rintro ⟨value, middle, values, hvalue, hvalues, rfl⟩
    exact ⟨value, middle, hvalue, values, next, hvalues, rfl, rfl⟩

theorem forall₂_of_gives_mapM {step : α → Resolving β} {items : List α} {table next : Imports}
    {given : List β} {kept : Imports → Prop} {related : α → β → Prop}
    (h : Gives (items.mapM step) table given next) (hkept : kept table)
    (hstep : ∀ item ∈ items, ∀ before value left, kept before → Gives (step item) before value left →
      kept left ∧ related item value) :
    List.Forall₂ related items given := by
  induction items generalizing table given with
  | nil =>
    obtain ⟨rfl, _⟩ := gives_mapM_nil.mp h
    exact .nil
  | cons item rest ih =>
    obtain ⟨value, middle, values, hvalue, hvalues, rfl⟩ := gives_mapM_cons.mp h
    obtain ⟨hmiddle, hrelated⟩ := hstep item List.mem_cons_self _ _ _ hkept hvalue
    refine .cons hrelated (ih hvalues hmiddle ?_)
    intro other hother
    exact hstep other (List.mem_cons_of_mem _ hother)

end RpcClients.Resolving

namespace RpcClients

variable {α β ε : Type}

theorem except_bind_ok_iff {step : Except ε α} {rest : α → Except ε β} {given : β} :
    (step >>= rest) = .ok given ↔ ∃ value, step = .ok value ∧ rest value = .ok given := by
  cases step with
  | error problem => simp [bind, Except.bind]
  | ok value => simp [bind, Except.bind]

theorem except_bind_error_iff {step : Except ε α} {rest : α → Except ε β} {problem : ε} :
    (step >>= rest) = .error problem ↔
      step = .error problem ∨ ∃ value, step = .ok value ∧ rest value = .error problem := by
  cases step with
  | error first => simp [bind, Except.bind]
  | ok value => simp [bind, Except.bind]

theorem except_pure_ok_iff {value given : α} : (pure value : Except ε α) = .ok given ↔ given = value := by
  simp [pure, Except.pure, eq_comm]

theorem except_mapM_ok_iff {step : α → Except ε β} {items : List α} {given : List β} :
    items.mapM step = .ok given ↔ List.Forall₂ (fun item value => step item = .ok value) items given := by
  induction items generalizing given with
  | nil =>
    rw [List.mapM_nil, except_pure_ok_iff, List.forall₂_nil_left_iff]
  | cons item rest ih =>
    rw [List.mapM_cons]
    simp only [except_bind_ok_iff, except_pure_ok_iff, ih, List.forall₂_cons_left_iff]
    constructor
    · rintro ⟨value, hvalue, values, hvalues, rfl⟩
      exact ⟨value, values, hvalue, hvalues, rfl⟩
    · rintro ⟨value, values, hvalue, hvalues, rfl⟩
      exact ⟨value, hvalue, values, hvalues, rfl⟩

/-- Steps over a list fail with the first step that fails. -/
theorem except_mapM_error {step : α → Except ε β} {before after : List α} {item : α} {problem : ε}
    (hbefore : ∀ other ∈ before, ∃ value, step other = .ok value) (hitem : step item = .error problem) :
    (before ++ item :: after).mapM step = .error problem := by
  induction before with
  | nil => rw [List.nil_append, List.mapM_cons, hitem]; rfl
  | cons other rest ih =>
    rw [List.forall_mem_cons] at hbefore
    obtain ⟨value, hvalue⟩ := hbefore.1
    rw [List.cons_append, List.mapM_cons, hvalue, ih hbefore.2]
    rfl

theorem except_mapM_error_iff {step : α → Except ε β} {items : List α} {problem : ε} :
    items.mapM step = .error problem ↔ ∃ before item after, items = before ++ item :: after ∧
      (∀ other ∈ before, ∃ value, step other = .ok value) ∧ step item = .error problem := by
  constructor
  · intro h
    induction items with
    | nil => cases h
    | cons item rest ih =>
      rw [List.mapM_cons, except_bind_error_iff] at h
      rcases h with hitem | ⟨value, hvalue, h⟩
      · exact ⟨[], item, rest, rfl, by simp, hitem⟩
      · rcases except_bind_error_iff.mp h with hrest | ⟨_, _, hpure⟩
        · obtain ⟨before, other, after, rfl, hbefore, hother⟩ := ih hrest
          refine ⟨item :: before, other, after, rfl, ?_, hother⟩
          rw [List.forall_mem_cons]
          exact ⟨⟨value, hvalue⟩, hbefore⟩
        · cases hpure
  · rintro ⟨before, item, after, rfl, hbefore, hitem⟩
    exact except_mapM_error hbefore hitem

theorem except_mapM_of_forall {step : α → Except ε β} {items : List α}
    (h : ∀ item ∈ items, ∃ value, step item = .ok value) : ∃ values, items.mapM step = .ok values := by
  induction items with
  | nil => exact ⟨[], rfl⟩
  | cons item rest ih =>
    rw [List.forall_mem_cons] at h
    obtain ⟨value, hvalue⟩ := h.1
    obtain ⟨values, hvalues⟩ := ih h.2
    exact ⟨value :: values, by rw [List.mapM_cons, hvalue, hvalues]; rfl⟩

theorem exists_of_forall₂_right {r : α → β → Prop} {items : List α} {values : List β}
    (h : List.Forall₂ r items values) {value : β} (hvalue : value ∈ values) : ∃ item ∈ items, r item value := by
  induction h with
  | nil => cases hvalue
  | cons hr _ ih =>
    rcases List.mem_cons.mp hvalue with rfl | hvalue
    · exact ⟨_, List.mem_cons_self, hr⟩
    · obtain ⟨item, hitem, hrelated⟩ := ih hvalue
      exact ⟨item, List.mem_cons_of_mem _ hitem, hrelated⟩

theorem exists_of_forall₂_left {r : α → β → Prop} {items : List α} {values : List β}
    (h : List.Forall₂ r items values) {item : α} (hitem : item ∈ items) : ∃ value ∈ values, r item value :=
  exists_of_forall₂_right (List.Forall₂.flip h) hitem

theorem map_eq_map_of_forall₂ {γ : Type} {f : α → γ} {g : β → γ} {items : List α} {values : List β}
    (h : List.Forall₂ (fun item value => f item = g value) items values) : items.map f = values.map g := by
  induction h with
  | nil => rfl
  | cons heq _ ih => rw [List.map_cons, List.map_cons, heq, ih]

theorem lookup_eq_some_iff_of_nodup [BEq α] [LawfulBEq α] {entries : List (α × β)} (h : (entries.map (·.1)).Nodup)
    {key : α} {value : β} : entries.lookup key = some value ↔ (key, value) ∈ entries := by
  rw [List.lookup_eq_some_iff]
  constructor
  · rintro ⟨before, after, rfl, _⟩
    simp
  · intro hmem
    obtain ⟨before, after, rfl⟩ := List.append_of_mem hmem
    refine ⟨before, after, rfl, fun entry hentry => bne_iff_ne.mpr fun heq => ?_⟩
    rw [List.map_append, List.nodup_append] at h
    exact h.2.2 _ (List.mem_map_of_mem hentry) key (by simp) heq.symm

theorem lookup_cons_ite [BEq α] [LawfulBEq α] [DecidableEq α] (key : α) (entry : α × β) (rest : List (α × β)) :
    (entry :: rest).lookup key = if key = entry.1 then some entry.2 else rest.lookup key := by
  rw [List.lookup_cons]
  split_ifs with h
  · rw [beq_iff_eq.mpr h]
  · rw [beq_eq_false_iff_ne.mpr h]

theorem lookup_putEntry [BEq α] [LawfulBEq α] [DecidableEq α] (key : α) (value : β) (other : α)
    (entries : List (α × β)) :
    (putEntry key value entries).lookup other = if other = key then some value else entries.lookup other := by
  induction entries with
  | nil => rw [putEntry, lookup_cons_ite]
  | cons entry rest ih =>
    rw [putEntry]
    split_ifs with hentry hother hother
    · rw [lookup_cons_ite, if_pos hother]
    · rw [lookup_cons_ite, if_neg hother, lookup_cons_ite, if_neg (hentry ▸ hother)]
    · rw [lookup_cons_ite, ih, if_pos hother, if_neg fun heq : other = entry.1 => hentry (heq ▸ hother)]
    · rw [lookup_cons_ite, ih, if_neg hother, lookup_cons_ite]

theorem forall_mem_flatten {r : α → List β → Prop} {p : β → Prop} {items : List α} {texts : List (List β)}
    (h : List.Forall₂ r items texts) (hp : ∀ item text, r item text → ∀ line ∈ text, p line) :
    ∀ line ∈ texts.flatten, p line := by
  intro line hline
  obtain ⟨text, htext, hmem⟩ := List.mem_flatten.mp hline
  obtain ⟨item, _, hitem⟩ := exists_of_forall₂_right h htext
  exact hp item text hitem line hmem

theorem suffix_flatten {r : α → List β → Prop} {items : List α} {texts : List (List β)} {ending : List β}
    (h : List.Forall₂ r items texts) (hne : items ≠ []) (hr : ∀ item text, r item text → ending <:+ text) :
    ending <:+ texts.flatten := by
  rcases List.eq_nil_or_concat texts with rfl | ⟨before, last, rfl⟩
  · exact absurd (List.forall₂_nil_right_iff.mp h) hne
  · obtain ⟨item, _, hlast⟩ := exists_of_forall₂_right h (by simp : last ∈ before.concat last)
    rw [List.concat_eq_append, List.flatten_append]
    apply List.suffix_append_of_suffix
    simpa using hr item last hlast

theorem forall₂_imp_of_mem {r r' : α → β → Prop} {items : List α} {values : List β}
    (himp : ∀ item ∈ items, ∀ value, r item value → r' item value) (h : List.Forall₂ r items values) :
    List.Forall₂ r' items values := by
  induction h with
  | nil => exact .nil
  | cons hr _ ih =>
    rw [List.forall_mem_cons] at himp
    exact .cons (himp.1 _ hr) (ih himp.2)

theorem forall₂_eq_map_iff {p : α → Prop} {f : α → β} {items : List α} {given : List β} :
    List.Forall₂ (fun item value => p item ∧ value = f item) items given ↔
      (∀ item ∈ items, p item) ∧ given = items.map f := by
  induction items generalizing given with
  | nil => simp
  | cons item rest ih =>
    rw [List.forall₂_cons_left_iff]
    simp only [ih, List.forall_mem_cons, List.map_cons]
    constructor
    · rintro ⟨_, _, ⟨hitem, rfl⟩, ⟨hrest, rfl⟩, rfl⟩
      exact ⟨⟨hitem, hrest⟩, rfl⟩
    · rintro ⟨⟨hitem, hrest⟩, rfl⟩
      exact ⟨_, _, ⟨hitem, rfl⟩, ⟨hrest, rfl⟩, rfl⟩

end RpcClients
