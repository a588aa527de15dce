import AceSamples.ScriptedRun
import Mathlib.Data.Int.Notation
import Mathlib.Data.Nat.Notation

/-!
# The signal handler `LogSwitcher` of Server3-ace and Server4-ace

Two signals switch the log output on and off.  `handle_signal` only saves the request and notifies the
reactor, which later calls `handle_exception` to act on what is saved then; several signals may share one such
call, and `notify` may fail when a call is pending already.

* `Switcher` — the handler with the notifications pending for it and the `SILENT` flag of the log;
* `handleSignal`, `handleException`, `step` — the member functions and what the surroundings may do;
* `log_follows_last_request` — once nothing is pending, the flag is what the last request asked for.

The invariant `Following` says that the saved state is the last request of the script, and that the flag
agrees with it unless a notification is pending.
-/

set_option autoImplicit false

namespace AceSamples.LogSwitcher

open AceSamples.ScriptedRun

/-! ### The handler -/

/-- A `LogSwitcher`: its two signals, the saved request (`none` while `m_switch` is uninitialised), the number
of notifications pending for it, and the `SILENT` flag.  `misused` says that an uninitialised `m_switch` has
been read. -/
structure Switcher where
  mOn : ℤ
  mOff : ℤ
  mSwitch : Option Bool
  pending : ℕ
  silent : Bool
  misused : Bool
  deriving DecidableEq, Repr

namespace Switcher

/-- `LogSwitcher::LogSwitcher`, which leaves `m_switch` alone; `silent` is how the flag happens to be. -/
def create (on off : ℤ) (silent : Bool) : Switcher := ⟨on, off, none, 0, silent, false⟩

/-- `m_switch = b` -/
def save (b : Bool) (s : Switcher) : Switcher := { s with mSwitch := some b }

/-- `reactor->notify(this)`; `queued` says whether the reactor has queued the notification. -/
def notify (queued : Bool) (s : Switcher) : Switcher :=
  if queued then { s with pending := s.pending + 1 } else s

/-- `set_flags(SILENT)` or `clr_flags(SILENT)` -/
def setSilent (b : Bool) (s : Switcher) : Switcher := { s with silent := b }

/-- A pending notification is taken from the reactor. -/
def takeNotification (s : Switcher) : Switcher := { s with pending := s.pending - 1 }

end Switcher

/-- `LogSwitcher::handle_signal`, which returns `0` on every path. -/
def handleSignal (signal : ℤ) (queued : Bool) (s : Switcher) : Switcher :=
  if signal = s.mOn ∨ signal = s.mOff then (s.save (signal = s.mOn)).notify queued else s

/-- `LogSwitcher::handle_exception`, which returns `0` on every path. -/
def handleException (s : Switcher) : Switcher :=
  match s.mSwitch with
  | some true => s.setSilent false
  | some false => s.setSilent true
  | none => { s with misused := true }

/-- A signal, with the outcome of the `notify` it leads to, or the dispatch of a notification. -/
inductive Event where
  | signal (signal : ℤ) (queued : Bool)
  | dispatch
  deriving DecidableEq, Repr

/-- One event; `none` when it cannot happen: `notify` fails only when a notification for the handler is
pending already, and only a pending notification is dispatched. -/
def step (s : Switcher) : Event → Option Switcher
  | .signal signal queued =>
    if (signal = s.mOn ∨ signal = s.mOff) ∧ queued = false ∧ s.pending = 0 then none
    else some (handleSignal signal queued s)
  | .dispatch => if s.pending = 0 then none else some (handleException s.takeNotification)

/-! ### Requests -/

/-- The request that an event makes: the signal, if it is one of the two. -/
def request (on off : ℤ) : Event → Option ℤ
  | .signal signal _ => if signal = on ∨ signal = off then some signal else none
  | .dispatch => none

/-- The last request of a script. -/
def lastRequest (on off : ℤ) (es : List Event) : Option ℤ := (es.filterMap (request on off)).getLast?

theorem lastRequest_snoc_none {on off : ℤ} {e : Event} (he : request on off e = none) (es : List Event) :
    lastRequest on off (es ++ [e]) = lastRequest on off es := by
  simp [lastRequest, List.filterMap_append, he]

theorem lastRequest_snoc_some {on off sig : ℤ} {e : Event} (he : request on off e = some sig)
    (es : List Event) : lastRequest on off (es ++ [e]) = some sig := by
  simp [lastRequest, List.filterMap_append, he]

/-! ### The invariant -/

/-- The handler after the script `es`. -/
structure Following (on off : ℤ) (es : List Event) (s : Switcher) : Prop where
  mOn : s.mOn = on
  mOff : s.mOff = off
  misused : s.misused = false
  saved : s.mSwitch = (lastRequest on off es).map fun sig => decide (sig = on)
  idle : s.mSwitch = none → s.pending = 0
  agrees : ∀ b, s.mSwitch = some b → s.pending = 0 → s.silent = !b

theorem create_following (on off : ℤ) (silent : Bool) :
    Following on off [] (.create on off silent) :=
  ⟨rfl, rfl, rfl, rfl, fun _ => rfl, fun _ h => nomatch h⟩

/-- A signal other than the two leaves the handler alone. -/
theorem handleSignal_unrelated {s : Switcher} {sig : ℤ} (hon : sig ≠ s.mOn) (hoff : sig ≠ s.mOff)
    (queued : Bool) : handleSignal sig queued s = s := by
  unfold handleSignal
  rw [if_neg]
  rintro (h | h)
  · exact hon h
  · exact hoff h

/-- **The step lemma for a signal.**  A request is saved, and a notification is pending afterwards. -/
theorem step_signal_following {on off sig : ℤ} {queued : Bool} {es : List Event} {s s' : Switcher}
    (hs : Following on off es s) (h : step s (.signal sig queued) = some s') :
    Following on off (es ++ [.signal sig queued]) s' := by
  simp only [step, hs.mOn, hs.mOff] at h
  split at h
  · cases h
  rename_i hen
  have hs' : s' = handleSignal sig queued s := (Option.some.inj h).symm
  subst hs'
  by_cases hsig : sig = on ∨ sig = off
  · have hreq : request on off (.signal sig queued) = some sig := if_pos hsig
    have heq : handleSignal sig queued s = (s.save (decide (sig = on))).notify queued := by
      unfold handleSignal
      rw [hs.mOn, hs.mOff, if_pos hsig]
    have hpending : ((s.save (decide (sig = on))).notify queued).pending ≠ 0 := by
      cases hqueued : queued with
      | true => exact Nat.succ_ne_zero _
      | false => exact fun h0 => hen ⟨hsig, hqueued, h0⟩
    rw [heq]
    refine ⟨?_, ?_, ?_, ?_, ?_, ?_⟩
    · cases queued <;> exact hs.mOn
    · cases queued <;> exact hs.mOff
    · cases queued <;> exact hs.misused
    · rw [lastRequest_snoc_some hreq]
      cases queued <;> rfl
    · intro hnone
      cases queued <;> cases hnone
    · exact fun _ _ h0 => absurd h0 hpending
  · have hreq : request on off (.signal sig queued) = none := if_neg hsig
    rw [not_or] at hsig
    rw [handleSignal_unrelated (by rw [hs.mOn]; exact hsig.1) (by rw [hs.mOff]; exact hsig.2)]
    exact ⟨hs.mOn, hs.mOff, hs.misused, (lastRequest_snoc_none hreq es).symm ▸ hs.saved, hs.idle, hs.agrees⟩

/-- A notification is only dispatched after a request has been saved. -/
theorem Following.saved_of_pending {on off : ℤ} {es : List Event} {s : Switcher}
    (hs : Following on off es s) (hpending : s.pending ≠ 0) : ∃ b, s.mSwitch = some b := by
  cases hm : s.mSwitch with
  | none => exact absurd (hs.idle hm) hpending
  | some b => exact ⟨b, rfl⟩

theorem handleException_eq {s : Switcher} {b : Bool} (h : s.mSwitch = some b) :
    handleException s = s.setSilent (!b) := by
  unfold handleException
  rw [h]
  cases b <;> rfl

/-- **The step lemma for a dispatch.**  The flag is set from the saved request. -/
theorem step_dispatch_following {on off : ℤ} {es : List Event} {s s' : Switcher}
    (hs : Following on off es s) (h : step s .dispatch = some s') :
    Following on off (es ++ [.dispatch]) s' := by
  simp only [step] at h
  split at h
  · cases h
  rename_i hpending
  obtain ⟨b, hb⟩ := hs.saved_of_pending hpending
  have hs' : s' = s.takeNotification.setSilent (!b) := by
    rw [← handleException_eq (show s.takeNotification.mSwitch = some b from hb)]
    exact (Option.some.inj h).symm
  subst hs'
  have hsome : ∀ b', s.mSwitch = some b' → b' = b := fun b' h' => Option.some.inj (h'.symm.trans hb)
  refine ⟨hs.mOn, hs.mOff, hs.misused, ?_, ?_, ?_⟩
  · rw [lastRequest_snoc_none rfl]
    exact hs.saved
  · intro hnone
    rw [show s.mSwitch = none from hnone] at hb
    cases hb
  · intro b' h' _
    rw [hsome b' h']
    rfl

/-- **The run lemma.** -/
theorem run_following {on off : ℤ} {silent : Bool} {es : List Event} {s : Switcher}
    (hrun : run step (.create on off silent) es = some s) : Following on off es s := by
  refine run_history (I := Following on off) (create_following on off silent) ?_ hrun
  intro es s e s' hs h
  cases e with
  | signal sig queued => exact step_signal_following hs h
  | dispatch => exact step_dispatch_following hs h

/-- **The log follows the last request.**  Let `on` and `off` be distinct, and let any signals arrive in any
order between the dispatches.

* Whenever a request has been made and no notification is pending, the `SILENT` flag is cleared if the last
  request was `on` and set if it was `off`.
* Any other signal is possible at any time and changes nothing.
* `handle_exception` is only called when `m_switch` has been assigned. -/
theorem log_follows_last_request (on off : ℤ) (hne : on ≠ off) (silent : Bool) (es : List Event)
    (s : Switcher) (hrun : run step (.create on off silent) es = some s) :
    (∀ sig, lastRequest on off es = some sig → s.pending = 0 →
        (sig = on → s.silent = false) ∧ (sig = off → s.silent = true)) ∧
      (∀ sig queued, sig ≠ on → sig ≠ off → step s (.signal sig queued) = some s) ∧
      (∀ s', step s .dispatch = some s' → ∃ b, s.mSwitch = some b) ∧ s.misused = false := by
  have hs := run_following hrun
  refine ⟨?_, ?_, ?_, hs.misused⟩
  · intro sig hlast hpending
    have hsaved : s.mSwitch = some (decide (sig = on)) := by
      rw [hs.saved, hlast]
      rfl
    have hsilent := hs.agrees _ hsaved hpending
    constructor
    · rintro rfl
      simpa using hsilent
    · rintro rfl
      simpa [hne.symm] using hsilent
  · intro sig queued hon hoff
    rw [← hs.mOn] at hon
    rw [← hs.mOff] at hoff
    simp only [step, hon, hoff, or_self, false_and, if_false, handleSignal_unrelated hon hoff]
  · intro s' h
    refine hs.saved_of_pending fun h0 => ?_
    simp only [step, h0, if_true, reduceCtorEq] at h

/-- Signal `1` switches on and signal `2` off: an off request, an on request whose `notify` fails because the
first is pending, another signal, and the dispatch. -/
def coalesced : List Event := [.signal 2 true, .signal 1 false, .signal 9 true, .dispatch]

theorem log_follows_last_request_coalesced :
    ∃ s, run step (.create 1 2 true) coalesced = some s ∧ s.pending = 0 ∧ s.silent = false ∧
      (∀ sig, lastRequest 1 2 coalesced = some sig → s.pending = 0 →
        (sig = 1 → s.silent = false) ∧ (sig = 2 → s.silent = true)) ∧
      (∀ sig queued, sig ≠ 1 → sig ≠ 2 → step s (.signal sig queued) = some s) ∧
      (∀ s', step s .dispatch = some s' → ∃ b, s.mSwitch = some b) ∧ s.misused = false :=
  ⟨_, rfl, rfl, rfl, log_follows_last_request 1 2 (by decide) true coalesced _ rfl⟩

end AceSamples.LogSwitcher
