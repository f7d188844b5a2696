import RpcClients.Logging
import RpcClients.Proofs.Resolution

/-! # What logged steps answer

A step can log, but what it answers does not depend on what was logged before. So answers can be followed
without the log. -/

namespace RpcClients.Logged

variable {α β : Type}

/-- What the step answers, apart from what it logs. -/
def answer (step : Logged α) : Except Failure α := (step.run.run []).1

/-- The step answers the same whatever was logged before. -/
def Steady (step : Logged α) : Prop := ∀ log, (step.run.run log).1 = step.answer

theorem steady_pure (value : α) : Steady (pure value) := fun _ => rfl

theorem steady_throw (failure : Failure) : Steady (throw failure : Logged α) := fun _ => rfl

theorem steady_lines (added : List LogLine) : Steady (lines added) := fun _ => rfl

theorem steady_debug (message : String) : Steady (debug message) := steady_lines _

theorem steady_ofExcept (result : Except Failure α) : Steady (ofExcept result) := by
  cases result with
  | error failure => exact steady_throw failure
  | ok value => exact steady_pure value

theorem fst_run_bind (step : Logged α) {rest : α → Logged β} (hrest : ∀ value, Steady (rest value))
    (log : List LogLine) :
    ((step >>= rest).run.run log).1 = (step.run.run log).1 >>= fun value => (rest value).answer := by
  simp only [ExceptT.run_bind, StateT.run_bind]
  rcases step.run.run log with ⟨failure | value, left⟩
  · rfl
  · exact hrest value left

theorem Steady.bind {step : Logged α} {rest : α → Logged β} (hstep : Steady step)
    (hrest : ∀ value, Steady (rest value)) : Steady (step >>= rest) := by
  intro log
  rw [fst_run_bind step hrest, hstep log]
  exact (fst_run_bind step hrest []).symm

theorem steady_foldlM {step : α → β → Logged α} (h : ∀ value item, Steady (step value item)) (value : α)
    (items : List β) : Steady (items.foldlM step value) := by
  induction items generalizing value with
  | nil => exact steady_pure _
  | cons item rest ih => exact (h value item).bind ih

theorem answer_bind (step : Logged α) {rest : α → Logged β} (hrest : ∀ value, Steady (rest value)) :
    (step >>= rest).answer = step.answer >>= fun value => (rest value).answer :=
  fst_run_bind step hrest []

@[simp] theorem answer_lines (added : List LogLine) : (lines added).answer = .ok () := rfl

@[simp] theorem answer_debug (message : String) : (debug message).answer = .ok () := rfl

@[simp] theorem answer_ofExcept (result : Except Failure α) : (ofExcept result).answer = result := by
  cases result <;> rfl

end RpcClients.Logged
