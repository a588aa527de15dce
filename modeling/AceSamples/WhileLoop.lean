import Mathlib.Data.Nat.Notation
import Mathlib.Tactic.TypeStar

/-!
# While loops with a pass function

A `while` loop is given by what one trip to its condition does: `pass s` either goes round `again` with a
new state or `leave`s with the loop's result (the condition failed, or the body broke out).  `iterate pass n`
allows `n` trips and is `none` when they do not suffice, so "the loop ends" is a statement and not a
convention of the model.

`iterate_ends` is **the variant rule**: an invariant that every trip keeps, with a measure that every `again`
lowers, makes the loop end within the measure, in a result that satisfies the postcondition.  `iterate_sound`
is the rule without the measure: if the loop ends, then in such a result.
-/

set_option autoImplicit false

namespace AceSamples.WhileLoop

variable {σ ρ : Type*}

/-- The outcome of one trip to the loop's condition. -/
inductive Pass (σ ρ : Type*) where
  | again : σ → Pass σ ρ
  | leave : ρ → Pass σ ρ

/-- Run the loop for at most `n` trips. -/
def iterate (pass : σ → Pass σ ρ) : ℕ → σ → Option ρ
  | 0, _ => none
  | n + 1, s =>
    match pass s with
    | .again s' => iterate pass n s'
    | .leave r => some r

theorem iterate_again {pass : σ → Pass σ ρ} {s s' : σ} (h : pass s = .again s') (n : ℕ) :
    iterate pass (n + 1) s = iterate pass n s' := by
  simp only [iterate, h]

theorem iterate_leave {pass : σ → Pass σ ρ} {s : σ} {r : ρ} (h : pass s = .leave r) (n : ℕ) :
    iterate pass (n + 1) s = some r := by
  simp only [iterate, h]

/-- **The variant rule.**  If every trip from a state with the invariant `I` either goes round again to a
state with `I` and a smaller measure, or leaves with a result satisfying `Q`, then the loop ends within the
measure and its result satisfies `Q`. -/
theorem iterate_ends (pass : σ → Pass σ ρ) {I : σ → Prop} {Q : ρ → Prop} (μ : σ → ℕ)
    (hagain : ∀ s s', I s → pass s = .again s' → I s' ∧ μ s' < μ s)
    (hleave : ∀ s r, I s → pass s = .leave r → Q r) :
    ∀ {n : ℕ} {s : σ}, I s → μ s < n → ∃ r, iterate pass n s = some r ∧ Q r := by
  intro n
  induction n with
  | zero => intro s _ hn; omega
  | succ n ih =>
    intro s hs hn
    cases hp : pass s with
    | leave r => exact ⟨r, iterate_leave hp n, hleave s r hs hp⟩
    | again s' =>
      obtain ⟨hs', hlt⟩ := hagain s s' hs hp
      rw [iterate_again hp]
      exact ih hs' (by omega)

/-- **The rule of partial correctness.**  What every trip keeps holds when the loop leaves. -/
theorem iterate_sound {pass : σ → Pass σ ρ} {I : σ → Prop} {Q : ρ → Prop}
    (hagain : ∀ s s', I s → pass s = .again s' → I s') (hleave : ∀ s r, I s → pass s = .leave r → Q r) :
    ∀ {n : ℕ} {s : σ} {r : ρ}, I s → iterate pass n s = some r → Q r := by
  intro n
  induction n with
  | zero => intro s r _ h; cases h
  | succ n ih =>
    intro s r hs h
    cases hp : pass s with
    | leave r' =>
      rw [iterate_leave hp, Option.some.injEq] at h
      exact h ▸ hleave s r' hs hp
    | again s' =>
      rw [iterate_again hp] at h
      exact ih (hagain s s' hs hp) h

end AceSamples.WhileLoop
