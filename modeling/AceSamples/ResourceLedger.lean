import Mathlib.Data.List.Basic
import Mathlib.Data.Nat.Notation
import Mathlib.Logic.Function.Basic

/-!
# Resources that are acquired, used and released

A program acquires resources, uses them and releases them; its calls leave a log of such actions.

* `WellUsed` — what a log should look like at the end: every resource either does not occur, or has been
  acquired, then used any number of times, then released, and nothing else;
* `Status`, `audit` — the same checked action by action: each resource has a status, and an action that does
  not fit the status (a second acquisition, a use of what is not held, a second release) leaves it broken for
  good;
* `settled_audit_iff` — at the end no resource is held or broken exactly when the log is `WellUsed`.

Nothing here refers to a particular program.
-/

set_option autoImplicit false

namespace AceSamples.ResourceLedger

variable {κ : Type*}

/-! ### Logs -/

inductive Kind where
  | acquire
  | use
  | release
  deriving DecidableEq, Repr

/-- An action on the resource `key`. -/
structure Action (κ : Type*) where
  kind : Kind
  key : κ
  deriving DecidableEq, Repr

def acquire (k : κ) : Action κ := ⟨.acquire, k⟩

def use (k : κ) : Action κ := ⟨.use, k⟩

def release (k : κ) : Action κ := ⟨.release, k⟩

/-- What has been done with the resource `k`. -/
def kinds [DecidableEq κ] (k : κ) (log : List (Action κ)) : List Kind :=
  (log.filter fun a => a.key = k).map Action.kind

/-- Never acquired and never touched, or acquired, used, and released once at the end. -/
def Lifecycle (ks : List Kind) : Prop := ks = [] ∨ ∃ n, ks = .acquire :: (List.replicate n .use ++ [.release])

/-- Every resource has been released exactly once if it has been acquired, and not been used afterwards. -/
def WellUsed [DecidableEq κ] (log : List (Action κ)) : Prop := ∀ k, Lifecycle (kinds k log)

/-! ### Statuses -/

inductive Status where
  | unused
  | held
  | released
  | broken
  deriving DecidableEq, Repr

namespace Status

/-- The status after an action. -/
def after : Status → Kind → Status
  | .unused, .acquire => .held
  | .held, .use => .held
  | .held, .release => .released
  | _, _ => .broken

theorem foldl_broken (ks : List Kind) : ks.foldl after .broken = .broken := by
  induction ks with
  | nil => rfl
  | cons kind ks ih => exact ih

/-- A released resource stays released only if it is left alone. -/
theorem foldl_released_iff (ks : List Kind) : ks.foldl after .released = .released ↔ ks = [] := by
  cases ks with
  | nil => exact iff_of_true rfl rfl
  | cons kind ks =>
    refine iff_of_false ?_ (List.cons_ne_nil _ _)
    show ks.foldl after .broken ≠ .released
    rw [foldl_broken]
    decide

theorem foldl_released_ne_unused (ks : List Kind) : ks.foldl after .released ≠ .unused := by
  cases ks with
  | nil => decide
  | cons kind ks =>
    show ks.foldl after .broken ≠ .unused
    rw [foldl_broken]
    decide

theorem foldl_held_ne_unused (ks : List Kind) : ks.foldl after .held ≠ .unused := by
  induction ks with
  | nil => decide
  | cons kind ks ih =>
    cases kind with
    | acquire =>
      show ks.foldl after .broken ≠ .unused
      rw [foldl_broken]
      decide
    | use => exact ih
    | release => exact foldl_released_ne_unused ks

theorem foldl_held_iff (ks : List Kind) :
    ks.foldl after .held = .released ↔ ∃ n, ks = List.replicate n .use ++ [.release] := by
  induction ks with
  | nil =>
    refine iff_of_false (by decide) ?_
    intro hexists
    obtain ⟨n, h⟩ := hexists
    exact List.append_ne_nil_of_right_ne_nil _ (List.cons_ne_nil _ _) h.symm
  | cons kind ks ih =>
    cases kind with
    | acquire =>
      refine iff_of_false ?_ ?_
      · show ks.foldl after .broken ≠ .released
        rw [foldl_broken]
        decide
      · intro hexists
        obtain ⟨n, h⟩ := hexists
        cases n <;> cases h
    | use =>
      show ks.foldl after .held = .released ↔ _
      rw [ih]
      constructor
      · intro hexists
        obtain ⟨n, rfl⟩ := hexists
        exact ⟨n + 1, rfl⟩
      · intro hexists
        obtain ⟨n, h⟩ := hexists
        cases n with
        | zero => cases h
        | succ n => exact ⟨n, (List.cons.inj h).2⟩
    | release =>
      show ks.foldl after .released = .released ↔ _
      rw [foldl_released_iff]
      constructor
      · intro heq
        subst heq
        exact ⟨0, rfl⟩
      · intro hexists
        obtain ⟨n, h⟩ := hexists
        cases n with
        | zero => exact (List.cons.inj h).2
        | succ n => cases h

/-- Followed from the beginning, a resource ends unused or released exactly when its log is a `Lifecycle`. -/
theorem foldl_unused_iff (ks : List Kind) :
    ks.foldl after .unused = .unused ∨ ks.foldl after .unused = .released ↔ Lifecycle ks := by
  cases ks with
  | nil => exact iff_of_true (Or.inl rfl) (Or.inl rfl)
  | cons kind ks =>
    have hbroken : kind ≠ .acquire → (kind :: ks).foldl after .unused = .broken := by
      intro hkind
      cases kind with
      | acquire => exact absurd rfl hkind
      | use => exact foldl_broken ks
      | release => exact foldl_broken ks
    by_cases hkind : kind = .acquire
    · subst hkind
      show ks.foldl after .held = .unused ∨ ks.foldl after .held = .released ↔ _
      rw [or_iff_right (foldl_held_ne_unused ks), foldl_held_iff]
      constructor
      · intro hexists
        obtain ⟨n, rfl⟩ := hexists
        exact Or.inr ⟨n, rfl⟩
      · intro hcases
        obtain h | ⟨n, h⟩ := hcases
        · cases h
        · exact ⟨n, (List.cons.inj h).2⟩
    · rw [hbroken hkind]
      refine iff_of_false (by decide) ?_
      intro hcases
      obtain h | ⟨n, h⟩ := hcases
      · cases h
      · exact hkind (List.cons.inj h).1

end Status

/-! ### Ledgers -/

/-- The status of every resource. -/
abbrev Ledger (κ : Type*) := κ → Status

variable [DecidableEq κ]

/-- Enter an action. -/
def enter (l : Ledger κ) (a : Action κ) : Ledger κ := Function.update l a.key ((l a.key).after a.kind)

/-- The ledger of a log. -/
def audit (log : List (Action κ)) : Ledger κ := log.foldl enter fun _ => .unused

/-- No resource is held or broken. -/
def Settled (l : Ledger κ) : Prop := ∀ k, l k = .unused ∨ l k = .released

theorem audit_append (log log' : List (Action κ)) : audit (log ++ log') = log'.foldl enter (audit log) :=
  List.foldl_append

/-- The ledger after some calls, of each of which `actions` says what it does. -/
def enterAll {ρ : Type*} (actions : ρ → List (Action κ)) (todo : List ρ) (l : Ledger κ) : Ledger κ :=
  (todo.flatMap actions).foldl enter l

theorem enterAll_cons {ρ : Type*} (actions : ρ → List (Action κ)) (r : ρ) (todo : List ρ) (l : Ledger κ) :
    enterAll actions (r :: todo) l = enterAll actions todo ((actions r).foldl enter l) :=
  List.foldl_append

/-- Each resource is followed on its own. -/
theorem foldl_enter (log : List (Action κ)) (l : Ledger κ) (k : κ) :
    log.foldl enter l k = (kinds k log).foldl Status.after (l k) := by
  induction log generalizing l with
  | nil => rfl
  | cons a log ih =>
    rw [List.foldl_cons, ih]
    by_cases hk : a.key = k
    · subst hk
      simp [enter, kinds]
    · have hother : enter l a k = l k := Function.update_of_ne (Ne.symm hk) _ _
      rw [hother]
      simp [kinds, hk]

/-- **The ledger checks the log.** -/
theorem settled_audit_iff (log : List (Action κ)) : Settled (audit log) ↔ WellUsed log := by
  apply forall_congr'
  intro k
  rw [audit, foldl_enter]
  exact Status.foldl_unused_iff (kinds k log)

end AceSamples.ResourceLedger
