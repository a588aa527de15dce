import AceSamples.ScriptedRun
import Mathlib.Algebra.Group.Units.Basic
import Mathlib.Algebra.Order.Monoid.Defs

/-!
# Conservation and amortisation along a run

Something flows through a system: each action brings an `income`, the state keeps a `stock`, and a step may lose a
part of both.  Amounts are added in any commutative monoid in which only `0 + 0` is `0`, so they may be numbers
or multisets.

* `collected` — the income of a script;
* `run_conserves` — **conservation rule**: if each step is balanced up to a loss that is `0` exactly when the step
  meets a condition, then so is a run, and nothing has been lost exactly when every step met the condition;
* `spent`, `run_amortized` — **amortisation rule**: if each step pays its cost out of its income and of what it takes
  from a potential, then so does a run.

Nothing here refers to a particular system.
-/

set_option autoImplicit false

namespace AceSamples.Conservation

open AceSamples.ScriptedRun

variable {σ α M : Type*} [AddCommMonoid M] {step : σ → α → Option σ}

/-- The income of the actions of a script. -/
def collected (income : α → M) : List α → M
  | [] => 0
  | a :: as => income a + collected income as

@[simp] theorem collected_nil (income : α → M) : collected income [] = 0 := rfl

theorem collected_cons (income : α → M) (a : α) (as : List α) :
    collected income (a :: as) = income a + collected income as := rfl

theorem collected_zero (as : List α) : collected (fun _ => (0 : M)) as = 0 := by
  induction as with
  | nil => rfl
  | cons a as ih => rw [collected_cons, ih, add_zero]

/-- **Conservation rule.** -/
theorem run_conserves [Subsingleton (AddUnits M)] {I : σ → Prop} {P : σ → α → Prop} {stock : σ → M}
    {income : α → M}
    (hstep : ∀ s a s', I s → step s a = some s' →
      I s' ∧ ∃ loss, stock s' + loss = stock s + income a ∧ (loss = 0 ↔ P s a))
    {as : List α} {s t : σ} (hs : I s) (h : run step s as = some t) :
    ∃ loss, stock t + loss = stock s + collected income as ∧ (loss = 0 ↔ Along step P s as) := by
  induction as generalizing s with
  | nil =>
    rw [run_nil, Option.some.injEq] at h
    exact ⟨0, by rw [h, collected_nil], iff_of_true rfl trivial⟩
  | cons a as ih =>
    obtain ⟨s₁, hs₁, htail⟩ := run_cons_eq_some.mp h
    obtain ⟨hI, now, hnow, hP⟩ := hstep s a s₁ hs hs₁
    obtain ⟨later, hlater, hAlong⟩ := ih hI htail
    refine ⟨now + later, ?_, ?_⟩
    · calc stock t + (now + later) = stock t + later + now := by rw [add_comm now, add_assoc]
        _ = stock s₁ + now + collected income as := by rw [hlater, add_right_comm]
        _ = stock s + collected income (a :: as) := by rw [hnow, collected_cons, add_assoc]
    · rw [add_eq_zero, hP, hAlong]
      show _ ↔ P s a ∧ ∀ s', step s a = some s' → Along step P s' as
      rw [hs₁]
      simp only [Option.some.injEq, forall_eq']

/-- The cost of the actions of a script, each in the state in which it is carried out. -/
def spent (step : σ → α → Option σ) (cost : σ → α → M) : σ → List α → M
  | _, [] => 0
  | s, a :: as =>
    cost s a +
      match step s a with
      | none => 0
      | some s' => spent step cost s' as

theorem spent_cons {cost : σ → α → M} {s s' : σ} {a : α} (h : step s a = some s') (as : List α) :
    spent step cost s (a :: as) = cost s a + spent step cost s' as := by
  simp only [spent, h]

/-- **Amortisation rule.** -/
theorem run_amortized [PartialOrder M] [IsOrderedAddMonoid M] {I : σ → Prop} {potential : σ → M}
    {cost : σ → α → M} {income : α → M}
    (hstep : ∀ s a s', I s → step s a = some s' →
      I s' ∧ cost s a + potential s' ≤ potential s + income a)
    {as : List α} {s t : σ} (hs : I s) (h : run step s as = some t) :
    spent step cost s as + potential t ≤ potential s + collected income as := by
  induction as generalizing s with
  | nil =>
    rw [run_nil, Option.some.injEq] at h
    rw [h, collected_nil, add_zero]
    exact le_of_eq (zero_add _)
  | cons a as ih =>
    obtain ⟨s₁, hs₁, htail⟩ := run_cons_eq_some.mp h
    obtain ⟨hI, hnow⟩ := hstep s a s₁ hs hs₁
    have hlater := ih hI htail
    rw [spent_cons hs₁, collected_cons]
    calc cost s a + spent step cost s₁ as + potential t
        = cost s a + (spent step cost s₁ as + potential t) := add_assoc _ _ _
      _ ≤ cost s a + (potential s₁ + collected income as) := add_le_add_right hlater _
      _ = cost s a + potential s₁ + collected income as := (add_assoc _ _ _).symm
      _ ≤ potential s + income a + collected income as := add_le_add_left hnow _
      _ = potential s + (income a + collected income as) := add_assoc _ _ _

end AceSamples.Conservation
