import AceSamples.LogManager

/-!
# Installing and restoring the log callback

`RedirectToCallback` returns the callback it replaces, so that the caller can put it back, and sets or clears
the `MSG_CALLBACK` flag.  The flag is decided by the callback that has been replaced, not by the new one.

* `InStep` — the flag is set exactly when a callback is installed;
* `nested` — callbacks installed one inside the other and put back in the reverse order;
* `callback_in_step_iff` — when flag and callback agree and are restored, for any depth of nesting;
* `callback_without_flag` — the first callback installed is never called.
-/

set_option autoImplicit false

namespace AceSamples.LogManager

variable {σ κ : Type*}

/-- The flag is set if and only if a callback is installed. -/
def InStep (l : LogMsg σ κ) : Prop := .msgCallback ∈ l.flags ↔ l.msgCallback.isSome = true

/-- Install the callbacks one inside the other, the first of the list outermost, and put back in the reverse
order what each call returned. -/
def nested : List (Option κ) → LogMsg σ κ → LogMsg σ κ
  | [], l => l
  | c :: cs, l =>
    let (previous, l') := redirectToCallback c l
    (redirectToCallback previous (nested cs l')).2

/-- After the nest the callback and the flag are what they were. -/
def Restores (cs : List (Option κ)) (l : LogMsg σ κ) : Prop :=
  (nested cs l).msgCallback = l.msgCallback
    ∧ (.msgCallback ∈ (nested cs l).flags ↔ .msgCallback ∈ l.flags)

theorem nested_cons (c : Option κ) (cs : List (Option κ)) (l : LogMsg σ κ) :
    nested (c :: cs) l
      = (redirectToCallback (redirectToCallback c l).1 (nested cs (redirectToCallback c l).2)).2 := rfl

/-- Whatever the depth, the callback itself is put back. -/
theorem nested_msgCallback (cs : List (Option κ)) (l : LogMsg σ κ) :
    (nested cs l).msgCallback = l.msgCallback := by
  cases cs with
  | nil => rfl
  | cons c cs => rw [nested_cons, redirectToCallback_msgCallback, redirectToCallback_fst]

/-- The flag follows the outermost of the callbacks that were installed in between. -/
theorem nested_flag (c : Option κ) (cs : List (Option κ)) (l : LogMsg σ κ) :
    .msgCallback ∈ (nested (c :: cs) l).flags ↔ c.isSome = true := by
  rw [nested_cons, redirectToCallback_flag, nested_msgCallback, redirectToCallback_msgCallback]

theorem restores_iff (cs : List (Option κ)) (l : LogMsg σ κ) :
    Restores cs l ↔ ∀ c ∈ cs.head?, (c.isSome = true ↔ .msgCallback ∈ l.flags) := by
  rw [Restores, and_iff_right (nested_msgCallback cs l)]
  cases cs with
  | nil => simp [nested]
  | cons c cs => simp [nested_flag]

/-- **When the callback and its flag are in step and can be restored**: the callback installed last, the one
before it and the outermost one of the nest are all null or all non-null. -/
theorem callback_in_step_iff (calls : List (Call σ κ)) (cs : List (Option κ)) :
    InStep (logAfter calls) ∧ Restores cs (logAfter calls)
      ↔ (historyOf calls).previous.isSome = (historyOf calls).current.isSome
        ∧ ∀ c ∈ cs.head?, c.isSome = (historyOf calls).current.isSome := by
  have hl := logAfter_recorded calls
  have hstep : InStep (logAfter calls)
      ↔ (historyOf calls).previous.isSome = (historyOf calls).current.isSome := by
    rw [InStep, hl.callbackFlag, hl.msgCallback]
    exact Bool.eq_iff_iff.symm
  rw [hstep, restores_iff, hl.callbackFlag]
  apply and_congr_right
  intro heq
  rw [heq]
  exact forall₂_congr fun c _ => Bool.eq_iff_iff.symm

/-- The first callback of a process is installed with its flag clear, and taking it away again, as a caller
does that puts back what the call returned, sets the flag with no callback installed. -/
theorem callback_without_flag :
    ¬ (InStep (logAfter [.callback (some 0)] : LogMsg ℕ ℕ)
        ∧ Restores [] (logAfter [.callback (some 0)] : LogMsg ℕ ℕ))
      ∧ ¬ (InStep (logAfter [] : LogMsg ℕ ℕ) ∧ Restores [some 0] (logAfter [] : LogMsg ℕ ℕ)) := by
  constructor
  · intro h
    exact absurd (h.1.mpr rfl) (by decide)
  · intro h
    exact absurd (h.2.2.mp (by decide)) (by decide)

end AceSamples.LogManager
