import Mathlib.Data.List.Basic

/-!
# Scripted runs of a partial transition function

A system is given by `step : σ → α → Option σ`: carrying out the action `a` in the state `s` leads to
`step s a`, and the value `none` says that `a` is not enabled in `s`.  A *script* is a list of actions;
whatever the surroundings decide (the result of a call, the order of events) stands in the actions, so that
"for every run" is a quantifier over scripts.

* `run` carries out a script; `Along` says that every action of a script meets a condition in the state it
  is taken in;
* `run_simulates` — an abstract machine that reads only the script keeps in step with the system, and
  `along_iff_of_simulates` — so that conditions along a run can be read off the script;
* `run_invariant`, `run_invariant_along` — what every (admissible) action preserves holds at the end;
* `run_history`, `run_history_along` — the same for a property of the state together with the script carried
  out so far, and `run_history_reached` — where the step may use that the state has been reached;
* `run_latch` — a flag that is never taken back is up at the end exactly when something has raised it.

Nothing here refers to a particular system.
-/

set_option autoImplicit false

namespace AceSamples.ScriptedRun

variable {σ α τ : Type*} {step : σ → α → Option σ}

/-- Carry out a script of actions from `s`; `none` as soon as an action is not enabled. -/
def run (step : σ → α → Option σ) (s : σ) (as : List α) : Option σ := as.foldlM step s

@[simp] theorem run_nil (s : σ) : run step s [] = some s := rfl

theorem run_cons (s : σ) (a : α) (as : List α) :
    run step s (a :: as) = (step s a).bind fun s' => run step s' as := by
  simp only [run, List.foldlM_cons]
  rfl

/-- A run of `a :: as` is a step followed by a run of `as`. -/
theorem run_cons_eq_some {s t : σ} {a : α} {as : List α} :
    run step s (a :: as) = some t ↔ ∃ s', step s a = some s' ∧ run step s' as = some t := by
  rw [run_cons, Option.bind_eq_some_iff]

/-- A script is carried out in two parts. -/
theorem run_append {s t : σ} {as bs : List α} (h : run step s as = some t) :
    run step s (as ++ bs) = run step t bs := by
  show List.foldlM step s (as ++ bs) = run step t bs
  rw [List.foldlM_append, show List.foldlM step s as = some t from h]
  rfl

theorem run_append_eq_some {s t : σ} {as bs : List α} :
    run step s (as ++ bs) = some t ↔ ∃ u, run step s as = some u ∧ run step u bs = some t := by
  show List.foldlM step s (as ++ bs) = some t ↔ _
  rw [List.foldlM_append]
  exact Option.bind_eq_some_iff

/-- One more action. -/
theorem run_snoc {s t u : σ} {as : List α} {a : α} (h : run step s as = some t) (ha : step t a = some u) :
    run step s (as ++ [a]) = some u :=
  run_append_eq_some.mpr ⟨t, h, run_cons_eq_some.mpr ⟨u, ha, rfl⟩⟩

/-- Every action of the script meets the condition `P` in the state it is taken in. -/
def Along (step : σ → α → Option σ) (P : σ → α → Prop) : σ → List α → Prop
  | _, [] => True
  | s, a :: as => P s a ∧ ∀ s', step s a = some s' → Along step P s' as

theorem along_of_forall {P : σ → α → Prop} (h : ∀ s a, P s a) :
    ∀ (as : List α) (s : σ), Along step P s as := by
  intro as
  induction as with
  | nil => exact fun _ => trivial
  | cons a as ih => exact fun s => ⟨h s a, fun s' _ => ih s'⟩

/-- A condition on the actions alone. -/
theorem along_of_mem {P : α → Prop} {as : List α} (h : ∀ a ∈ as, P a) (s : σ) :
    Along step (fun _ a => P a) s as := by
  induction as generalizing s with
  | nil => trivial
  | cons a as ih =>
    exact ⟨h a List.mem_cons_self, fun s' _ => ih (fun b hb => h b (List.mem_cons_of_mem a hb)) s'⟩

/-- One more action. -/
theorem along_snoc {P : σ → α → Prop} {as : List α} {a : α} {s t : σ} (h : run step s as = some t) :
    Along step P s (as ++ [a]) ↔ Along step P s as ∧ P t a := by
  induction as generalizing s with
  | nil =>
    rw [run_nil, Option.some.injEq] at h
    subst h
    show P s a ∧ (∀ s', step s a = some s' → True) ↔ True ∧ P s a
    simp only [implies_true, and_true, true_and]
  | cons b as ih =>
    obtain ⟨s₁, hs₁, htail⟩ := run_cons_eq_some.mp h
    show P s b ∧ (∀ s', step s b = some s' → Along step P s' (as ++ [a]))
      ↔ (P s b ∧ ∀ s', step s b = some s' → Along step P s' as) ∧ P t a
    rw [hs₁]
    simp only [Option.some.injEq, forall_eq']
    rw [ih htail, and_assoc]

/-- **Simulation rule.**  An abstract machine that is driven by the actions alone, and that every
admissible step of the system keeps related to it, is related to the system at the end. -/
theorem run_simulates {R : σ → τ → Prop} {P : σ → α → Prop} {f : τ → α → τ}
    (hstep : ∀ s a s' t, R s t → P s a → step s a = some s' → R s' (f t a)) :
    ∀ {as : List α} {s s' : σ} {t : τ}, R s t → Along step P s as → run step s as = some s' →
      R s' (as.foldl f t) := by
  intro as
  induction as with
  | nil =>
    intro s s' t hR _ h
    rw [run_nil, Option.some.injEq] at h
    exact h ▸ hR
  | cons a as ih =>
    intro s s' t hR hP h
    obtain ⟨s₁, hs₁, h'⟩ := run_cons_eq_some.mp h
    exact ih (hstep s a s₁ t hR hP.1 hs₁) (hP.2 s₁ hs₁) h'

/-- **Transfer rule.**  If the machine that reads only the script meets `Q` exactly where the system meets `P`,
then a script that the system can carry out meets `P` along the system exactly when it meets `Q` along the
machine. -/
theorem along_iff_of_simulates {R : σ → τ → Prop} {A : α → Prop} {P : σ → α → Prop} {Q : τ → α → Prop}
    {f : τ → α → τ}
    (hstep : ∀ s a s' t, R s t → A a → step s a = some s' → R s' (f t a) ∧ (P s a ↔ Q t a)) :
    ∀ {as : List α} {s s' : σ} {t : τ}, R s t → (∀ a ∈ as, A a) → run step s as = some s' →
      (Along step P s as ↔ Along (fun t a => some (f t a)) Q t as) := by
  intro as
  induction as with
  | nil => exact fun _ _ _ => Iff.rfl
  | cons a as ih =>
    intro s s' t hR hA h
    obtain ⟨s₁, hs₁, h'⟩ := run_cons_eq_some.mp h
    obtain ⟨hR₁, hPQ⟩ := hstep s a s₁ t hR (hA a List.mem_cons_self) hs₁
    have htail := ih hR₁ (fun b hb => hA b (List.mem_cons_of_mem a hb)) h'
    show (P s a ∧ ∀ s', step s a = some s' → Along step P s' as)
      ↔ Q t a ∧ ∀ t', some (f t a) = some t' → Along (fun t a => some (f t a)) Q t' as
    rw [hPQ, hs₁]
    simp only [Option.some.injEq, forall_eq']
    rw [htail]

/-- **Invariant rule for admissible scripts.**  Only the steps whose action meets `P` need to preserve
the invariant. -/
theorem run_invariant_along {I : σ → Prop} {P : σ → α → Prop}
    (hstep : ∀ s a s', I s → P s a → step s a = some s' → I s') {as : List α} {s t : σ} (hs : I s)
    (hP : Along step P s as) (h : run step s as = some t) : I t :=
  run_simulates (R := fun s (_ : Unit) => I s) (f := fun _ _ => ()) (t := ())
    (fun s a s' _ hs ha h => hstep s a s' hs ha h) hs hP h

/-- **Invariant rule.**  What holds at the start and is preserved by every step holds at the end. -/
theorem run_invariant {I : σ → Prop} (hstep : ∀ s a s', I s → step s a = some s' → I s')
    {as : List α} {s t : σ} (hs : I s) (h : run step s as = some t) : I t :=
  run_invariant_along (P := fun _ _ => True) (fun s a s' hs _ h => hstep s a s' hs h) hs
    (along_of_forall (fun _ _ => trivial) as s) h

theorem foldl_snoc (as bs : List α) : as.foldl (fun bs a => bs ++ [a]) bs = bs ++ as := by
  induction as generalizing bs with
  | nil => simp
  | cons a as ih => rw [List.foldl_cons, ih, List.append_assoc, List.singleton_append]

/-- **History rule.**  The invariant may speak of the script carried out so far. -/
theorem run_history_along {I : List α → σ → Prop} {P : σ → α → Prop} {s₀ : σ} (h0 : I [] s₀)
    (hstep : ∀ as s a s', I as s → P s a → step s a = some s' → I (as ++ [a]) s') {as : List α} {t : σ}
    (hP : Along step P s₀ as) (h : run step s₀ as = some t) : I as t := by
  have hsim := run_simulates (R := fun s bs => I bs s) (f := fun bs a => bs ++ [a])
    (fun s a s' bs hs ha h => hstep bs s a s' hs ha h) h0 hP h
  rw [foldl_snoc] at hsim
  exact hsim

/-- The history rule when every action is admissible. -/
theorem run_history {I : List α → σ → Prop} {s₀ : σ} (h0 : I [] s₀)
    (hstep : ∀ as s a s', I as s → step s a = some s' → I (as ++ [a]) s') {as : List α} {t : σ}
    (h : run step s₀ as = some t) : I as t :=
  run_history_along (P := fun _ _ => True) h0 (fun as s a s' hs _ h => hstep as s a s' hs h)
    (along_of_forall (fun _ _ => trivial) as s₀) h

/-- The history rule with the run at hand. -/
theorem run_history_reached {I : List α → σ → Prop} {s₀ : σ} (h0 : I [] s₀)
    (hstep : ∀ as s a s', run step s₀ as = some s → I as s → step s a = some s' → I (as ++ [a]) s')
    {as : List α} {t : σ} (h : run step s₀ as = some t) : I as t := by
  have hinv := run_history (I := fun as s => run step s₀ as = some s ∧ I as s) ⟨rfl, h0⟩
    (fun as s a s' hI ha => ⟨run_snoc hI.1 ha, hstep as s a s' hI.1 hI.2 ha⟩) h
  exact hinv.2

/-- **Latch rule.**  Let `F` hold after a step exactly when it held before or the action raises it.  Then it holds
at the end exactly when it held at the start or not every action left it alone. -/
theorem run_latch {I F : σ → Prop} {R : σ → α → Prop}
    (hstep : ∀ s a s', I s → step s a = some s' → I s' ∧ (F s' ↔ F s ∨ R s a)) {as : List α} {s t : σ}
    (hs : I s) (h : run step s as = some t) :
    I t ∧ (F t ↔ F s ∨ ¬Along step (fun s a => ¬R s a) s as) := by
  induction as generalizing s with
  | nil =>
    rw [run_nil, Option.some.injEq] at h
    subst h
    exact ⟨hs, (or_iff_left (not_not_intro trivial)).symm⟩
  | cons a as ih =>
    obtain ⟨s₁, hs₁, htail⟩ := run_cons_eq_some.mp h
    obtain ⟨hI, hF⟩ := hstep s a s₁ hs hs₁
    obtain ⟨hIt, hFt⟩ := ih hI htail
    refine ⟨hIt, ?_⟩
    show F t ↔ F s ∨ ¬(¬R s a ∧ ∀ s', step s a = some s' → Along step (fun s a => ¬R s a) s' as)
    rw [hFt, hF, hs₁]
    simp only [Option.some.injEq, forall_eq']
    tauto

end AceSamples.ScriptedRun
