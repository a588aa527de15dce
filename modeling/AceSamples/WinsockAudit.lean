import AceSamples.ResourceLedger
import AceSamples.ScriptedRun
import AceSamples.Winsock

/-!
# What a Winsock program releases and returns

A Winsock program acquires, uses and releases resources with its calls, and it returns a value that should say whether
one of them has failed.  Both are followed through the run of any such program.

* `Audited`, `auditStep` — a point of the program with the log of what its calls have done with the resources;
* `run_ledger` — **ledger rule**: what every call keeps of the answers so far, the point and the ledger holds at the
  end of every run;
* `Verdict` — how a program comes to its value: the points from which it can only return `E_FAIL`, and the answers
  after which it does;
* `Verdict.exit_value` — **exit rule**: the value is `E_FAIL` or `0`, and `0` exactly when the program did not start on
  its way to `E_FAIL` and no answer has sent it there; `Verdict.exit_value_of_argc` is the rule for a program that
  checks the number of its arguments first.

Nothing here refers to a particular program.
-/

set_option autoImplicit false

namespace AceSamples.Winsock

open AceSamples.ResourceLedger AceSamples.ScriptedRun

variable {π κ : Type}

/-! ### Audited programs -/

/-- A point of a program with the log of what has been done with the resources. -/
structure Audited (π κ : Type) where
  point : π
  log : List (Action κ)

/-- The program is entered at a point. -/
def auditFrom (p : π) : Audited π κ := ⟨p, []⟩

/-- The program goes on with the answer to its call; `actions` is what the call does with the resources. -/
def auditStep (P : Program π) (actions : π → Answer → List (Action κ)) (s : Audited π κ) (a : Answer) :
    Option (Audited π κ) :=
  (P.resume s.point a).map fun p => ⟨p, s.log ++ actions s.point a⟩

theorem auditStep_eq_some {P : Program π} {actions : π → Answer → List (Action κ)} {s s' : Audited π κ} {a : Answer} :
    auditStep P actions s a = some s' ↔
      ∃ p, P.resume s.point a = some p ∧ s' = ⟨p, s.log ++ actions s.point a⟩ := by
  rw [auditStep, Option.map_eq_some_iff]
  simp only [eq_comm]

/-- **Ledger rule.** -/
theorem run_ledger [DecidableEq κ] {P : Program π} {actions : π → Answer → List (Action κ)}
    {I : List Answer → π → Ledger κ → Prop} {p₀ : π} (h0 : I [] p₀ (audit []))
    (hcall : ∀ as p p' a l, I as p l → P.resume p a = some p' → I (as ++ [a]) p' ((actions p a).foldl enter l))
    {as : List Answer} {s : Audited π κ} (hrun : run (auditStep P actions) (auditFrom p₀) as = some s) :
    I as s.point (audit s.log) := by
  refine run_history (I := fun as s => I as s.point (audit s.log)) h0 ?_ hrun
  intro as s a s' hs h
  obtain ⟨p, hp, rfl⟩ := auditStep_eq_some.mp h
  show I (as ++ [a]) p (audit (s.log ++ actions s.point a))
  rw [audit_append]
  exact hcall as s.point p a _ hs hp

/-! ### The returned value -/

/-- A program that is on its way out leaves with `0` or with `E_FAIL`. -/
def ZeroOrFail : Option ℤ → Prop
  | none => True
  | some hr => hr = 0 ∨ hr = eFail

/-- How a program comes to the value it returns.  `value` is the value with which a program leaves that is on its way
out, `Fails` says of a point that the program is on its way to `E_FAIL`, and `Reported` of an answer that it sends the
program there.  `call` is the law of a single call. -/
structure Verdict (P : Program π) where
  value : π → Option ℤ
  Fails : π → Prop
  Reported : π → Answer → Prop
  fails_iff : ∀ {p hr}, value p = some hr → (Fails p ↔ hr = eFail)
  call : ∀ {p p' a}, P.resume p a = some p' →
    (ZeroOrFail (value p) → ZeroOrFail (value p')) ∧ (Fails p' ↔ Fails p ∨ Reported p a)

namespace Verdict

variable {P : Program π}

/-- The law of a call after which the program goes on. -/
theorem goes_on {F F' R : Prop} (hF : ¬F) (hR : ¬R) (hF' : ¬F') : F' ↔ F ∨ R :=
  iff_of_false hF' (not_or.mpr ⟨hF, hR⟩)

/-- The law of a call whose failure is reported. -/
theorem reports {F F' R : Prop} (hR : R) (hF' : F') : F' ↔ F ∨ R := iff_of_true hF' (Or.inr hR)

/-- No failure has been reported so far. -/
def NoneReported (V : Verdict P) (actions : π → Answer → List (Action κ)) (p₀ : π) (as : List Answer) : Prop :=
  Along (auditStep P actions) (fun s a => ¬V.Reported s.point a) (auditFrom p₀) as

/-- **Exit rule.** -/
theorem exit_value {V : Verdict P} {actions : π → Answer → List (Action κ)} {p₀ : π} {as : List Answer}
    {s : Audited π κ} {hr : ℤ} (h0 : ZeroOrFail (V.value p₀))
    (hrun : run (auditStep P actions) (auditFrom p₀) as = some s) (hvalue : V.value s.point = some hr) :
    (hr = 0 ∨ hr = eFail) ∧ (hr = 0 ↔ ¬V.Fails p₀ ∧ V.NoneReported actions p₀ as) := by
  have hstep : ∀ (s : Audited π κ) (a : Answer) (s' : Audited π κ), ZeroOrFail (V.value s.point) →
      auditStep P actions s a = some s' →
        ZeroOrFail (V.value s'.point) ∧ (V.Fails s'.point ↔ V.Fails s.point ∨ V.Reported s.point a) := by
    intro s a s' hd h
    obtain ⟨p, hp, rfl⟩ := auditStep_eq_some.mp h
    obtain ⟨hd', hfails⟩ := V.call hp
    exact ⟨hd' hd, hfails⟩
  obtain ⟨hd, hfails⟩ := run_latch hstep (s := auditFrom p₀) h0 hrun
  rw [hvalue] at hd
  rw [V.fails_iff hvalue] at hfails
  refine ⟨hd, return_zero_iff hd ?_⟩
  rw [hfails, not_and_or, not_not]
  rfl

/-- The exit rule for a program that checks the number of its arguments first. -/
theorem exit_value_of_argc (V : Verdict P) {actions : π → Answer → List (Action κ)} {leave start : π} {argc : ℕ}
    {as : List Answer} {s : Audited π κ} {hr : ℤ} (hleave : V.value leave = some eFail)
    (hstart : V.value start = none) (hgoes : ¬V.Fails start)
    (hrun : run (auditStep P actions) (auditFrom (if argc ≠ 2 then leave else start)) as = some s)
    (hvalue : V.value s.point = some hr) :
    (hr = 0 ∨ hr = eFail) ∧
      (hr = 0 ↔ argc = 2 ∧ V.NoneReported actions (if argc ≠ 2 then leave else start) as) := by
  by_cases hargc : argc ≠ 2
  · rw [if_pos hargc] at hrun ⊢
    have hexit := exit_value (by rw [hleave]; exact Or.inr rfl) hrun hvalue
    refine ⟨hexit.1, hexit.2.trans (iff_of_false ?_ fun h => hargc h.1)⟩
    exact fun h => h.1 ((V.fails_iff hleave).mpr rfl)
  · rw [if_neg hargc] at hrun ⊢
    have hexit := exit_value (by rw [hstart]; trivial) hrun hvalue
    rw [and_iff_right hgoes] at hexit
    rw [and_iff_right (not_not.mp hargc)]
    exact hexit

end Verdict

end AceSamples.Winsock
