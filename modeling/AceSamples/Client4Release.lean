import AceSamples.Client4
import AceSamples.WinsockAudit

/-!
# What Client4-msdn-client releases and returns

`main` holds up to three resources: Winsock itself, the address list and its socket.  When `connect` fails, the
socket is closed before the address list is freed, and `connectSocket` remembers that it is gone.

* `Resource`, `actions` — what the calls of `main` do with the resources;
* `expected`, `Sound` — what is held at each point, and at an exit that its calls release all of it;
* `resume_sound`, `run_sound` — every call keeps it;
* `client_releases_everything` — **on every return** each resource that was acquired has been released once, and was
  not used afterwards;
* `Reported`, `verdict`, `exit_code_iff` — `main` returns `0` exactly when no call has failed whose failure it
  reports, and those of `recv` are not among them.
-/

set_option autoImplicit false

namespace AceSamples.Client4

open AceSamples.AceSocket AceSamples.ResourceLedger AceSamples.ScriptedRun AceSamples.Winsock

variable {data : List UInt8}

/-! ### The resources -/

inductive Resource where
  | winsock
  | addresses
  | connectSocket
  deriving DecidableEq, Repr

/-- What a releasing call does with the resources. -/
def Release.actions : Release → List (Action Resource)
  | .freeAddresses => [use .winsock, release .addresses]
  | .closeConnectSocket => [use .winsock, release .connectSocket]
  | .wsaCleanup => [release .winsock]

/-- What the call at a point does with the resources, when it gives this answer.  Every call uses Winsock; the
`WSAGetLastError` that prints why a call has failed counts with that call. -/
def actions : Point → Answer → List (Action Resource)
  | .wsaStartup, .ok => [acquire .winsock]
  | .wsaStartup, _ => []
  | .getaddrinfo, .ok => [use .winsock, acquire .addresses]
  | .getaddrinfo, _ => [use .winsock]
  | .socket, .ok => [use .winsock, use .addresses, acquire .connectSocket]
  | .socket, _ => [use .winsock, use .addresses]
  | .connect, _ => [use .winsock, use .connectSocket, use .addresses]
  | .closeUnconnected, _ => [use .winsock, release .connectSocket]
  | .freeaddrinfo _, _ => [use .winsock, release .addresses]
  | .send, _ => [use .winsock, use .connectSocket]
  | .shutdown, _ => [use .winsock, use .connectSocket]
  | .recv, _ => [use .winsock, use .connectSocket]
  | .shutdownAgain, _ => [use .winsock, use .connectSocket]
  | .exiting (r :: _) _, _ => r.actions
  | .exiting [] _, _ => []

/-! ### What is held at each point -/

/-- A ledger by its three entries. -/
def ledger (winsock addresses connectSocket : Status) : Ledger Resource
  | .winsock => winsock
  | .addresses => addresses
  | .connectSocket => connectSocket

/-- What is held when `main` is at a point before its exits. -/
def expected : Point → Ledger Resource
  | .wsaStartup => ledger .unused .unused .unused
  | .getaddrinfo => ledger .held .unused .unused
  | .socket => ledger .held .held .unused
  | .connect => ledger .held .held .held
  | .closeUnconnected => ledger .held .held .held
  | .freeaddrinfo connected => ledger .held .held (if connected then .held else .released)
  | _ => ledger .held .released .held

/-- At an exit, its calls release all that is held; elsewhere what is held is what is expected. -/
def Sound : Point → Ledger Resource → Prop
  | .exiting todo _, l => Settled (enterAll Release.actions todo l)
  | p, l => l = expected p

/-- **The invariant holds after a call.** -/
theorem resume_sound {p p' : Point} {a : Answer} {l : Ledger Resource} (hl : Sound p l)
    (hp : resume data p a = some p') : Sound p' ((actions p a).foldl enter l) := by
  -- a call at a point before the exits, with the ledger that is expected there
  have hledger : ∀ {l l' : Ledger Resource} (as : List (Action Resource)), l = l' →
      (∀ k, as.foldl enter l' k = expected p' k) → as.foldl enter l = expected p' := by
    intro l l' as hl h
    rw [hl]
    funext k
    exact h k
  cases p with
  | exiting todo hr =>
    cases todo with
    | nil => cases a <;> cases hp
    | cons r todo =>
      have hsettled : Settled (enterAll Release.actions (r :: todo) l) := hl
      rw [enterAll_cons] at hsettled
      cases a with
      | ok => cases hp; exact hsettled
      | error => cases hp; exact hsettled
      | _ => cases hp
  | recv =>
    cases a with
    | received r =>
      simp only [resume] at hp
      split at hp
      · cases hp
        exact hledger _ hl (by intro k; cases k <;> rfl)
      · cases hp
        exact hledger _ hl (by intro k; cases k <;> rfl)
    | _ => cases hp
  | send =>
    cases a with
    | sent r =>
      simp only [resume] at hp
      split at hp
      · cases hp
        rw [show l = expected .send from hl]
        show Settled (enterAll Release.actions _ ([use .winsock, use .connectSocket].foldl enter (expected .send)))
        intro k
        cases k <;> decide
      · cases hp
        exact hledger _ hl (by intro k; cases k <;> rfl)
    | _ => cases hp
  | freeaddrinfo connected =>
    rw [show l = expected (.freeaddrinfo connected) from hl]
    cases a with
    | ok =>
      cases connected with
      | true =>
        cases hp
        exact hledger _ rfl (by intro k; cases k <;> rfl)
      | false =>
        cases hp
        intro k
        cases k <;> decide
    | _ => cases hp
  | _ =>
    rw [show l = expected _ from hl]
    cases a with
    | ok =>
      cases hp
      first
        | exact hledger _ rfl (by intro k; cases k <;> rfl)
        | (intro k; cases k <;> decide)
    | error =>
      cases hp
      first
        | exact hledger _ rfl (by intro k; cases k <;> rfl)
        | (intro k; cases k <;> decide)
    | _ => cases hp

/-- **The run lemma.** -/
theorem run_sound {argc : ℕ} {as : List Answer} {s : Audited Point Resource}
    (hrun : run (auditStep (program data) actions) (auditFrom (main argc)) as = some s) :
    Sound s.point (audit s.log) := by
  refine run_ledger (I := fun _ => Sound) ?_ (fun _ _ _ _ _ hs hp => resume_sound hs hp) hrun
  by_cases hargc : argc ≠ 2
  · rw [main, if_pos hargc]
    exact fun k => Or.inl rfl
  · rw [main, if_neg hargc]
    show audit [] = expected .wsaStartup
    funext k
    cases k <;> rfl

/-- **Everything is released on every return.**  For every text, every number of arguments and every sequence of
answers with which `main` returns: each resource that has been acquired has been released exactly once and not been
used afterwards, and no other has been touched. -/
theorem client_releases_everything (data : List UInt8) (argc : ℕ) (as : List Answer) (s : Audited Point Resource)
    (hr : ℤ) (hrun : run (auditStep (program data) actions) (auditFrom (main argc)) as = some s)
    (hreturn : s.point = .exiting [] hr) : WellUsed s.log := by
  have hsound := run_sound hrun
  rw [hreturn] at hsound
  exact (settled_audit_iff s.log).mp hsound

/-- `connect` fails, and so does closing the socket. -/
def refusedConnection : List Answer := [.ok, .ok, .ok, .error, .error, .ok, .ok]

theorem client_releases_everything_refused :
    ∃ s, run (auditStep (program []) actions) (auditFrom (main 2)) refusedConnection = some s ∧
      s.point = .exiting [] eFail ∧ kinds .connectSocket s.log = [.acquire, .use, .release] ∧
      kinds .winsock s.log = [.acquire, .use, .use, .use, .use, .use, .release] ∧ WellUsed s.log :=
  ⟨_, rfl, rfl, rfl, rfl, client_releases_everything [] 2 refusedConnection _ eFail rfl rfl⟩

/-! ### The returned value -/

/-- The value with which an exit returns. -/
def value : Point → Option ℤ
  | .exiting _ hr => some hr
  | _ => none

/-- The answer to the call at a point is a failure that makes `main` return `E_FAIL`. -/
def Reported (data : List UInt8) : Point → Answer → Prop
  | .send, .sent r => r.returned (payload data).length = -1
  | .closeUnconnected, _ => False
  | .exiting _ _, _ => False
  | _, .error => True
  | _, _ => False

/-- Whether `main` is on its way to the return value `E_FAIL`. -/
def Fails : Point → Prop
  | .closeUnconnected => True
  | .freeaddrinfo connected => connected = false
  | .exiting _ hr => hr = eFail
  | _ => False

/-- A call leads to the return value `E_FAIL` exactly when its failure is reported, or that was decided before. -/
theorem resume_fails {p p' : Point} {a : Answer} (hp : resume data p a = some p') :
    (ZeroOrFail (value p) → ZeroOrFail (value p')) ∧ (Fails p' ↔ Fails p ∨ Reported data p a) := by
  cases p with
  | exiting todo hr =>
    cases todo with
    | nil => cases a <;> cases hp
    | cons r todo =>
      cases a with
      | ok => cases hp; exact ⟨id, (or_iff_left id).symm⟩
      | error => cases hp; exact ⟨id, (or_iff_left id).symm⟩
      | _ => cases hp
  | recv =>
    cases a with
    | received r =>
      simp only [resume] at hp
      split at hp
      · cases hp; exact ⟨id, Verdict.goes_on id id id⟩
      · cases hp; exact ⟨id, Verdict.goes_on id id id⟩
    | _ => cases hp
  | send =>
    cases a with
    | sent r =>
      simp only [resume] at hp
      split at hp
      · rename_i hfailed
        cases hp
        exact ⟨fun _ => Or.inr rfl, Verdict.reports hfailed rfl⟩
      · rename_i hsent
        cases hp
        exact ⟨id, Verdict.goes_on id hsent id⟩
    | _ => cases hp
  | closeUnconnected =>
    -- the failure of `connect` has been reported before
    cases a with
    | ok => cases hp; exact ⟨id, iff_of_true rfl (Or.inl trivial)⟩
    | error => cases hp; exact ⟨id, iff_of_true rfl (Or.inl trivial)⟩
    | _ => cases hp
  | freeaddrinfo connected =>
    cases a with
    | ok =>
      cases connected with
      | true => cases hp; exact ⟨id, Verdict.goes_on Bool.noConfusion id id⟩
      | false => cases hp; exact ⟨fun _ => Or.inr rfl, iff_of_true rfl (Or.inl rfl)⟩
    | _ => cases hp
  | connect =>
    cases a with
    | ok => cases hp; exact ⟨id, Verdict.goes_on id id Bool.noConfusion⟩
    | error => cases hp; exact ⟨id, Verdict.reports trivial trivial⟩
    | _ => cases hp
  | shutdownAgain =>
    cases a with
    | ok => cases hp; exact ⟨fun _ => Or.inl rfl, Verdict.goes_on id id (show ¬(0 : ℤ) = eFail by decide)⟩
    | error => cases hp; exact ⟨fun _ => Or.inr rfl, Verdict.reports trivial rfl⟩
    | _ => cases hp
  | _ =>
    cases a with
    | ok => cases hp; exact ⟨id, Verdict.goes_on id id id⟩
    | error => cases hp; exact ⟨fun _ => Or.inr rfl, Verdict.reports trivial rfl⟩
    | _ => cases hp

/-- How `main` comes to its value. -/
def verdict (data : List UInt8) : Verdict (program data) where
  value := value
  Fails := Fails
  Reported := Reported data
  fails_iff := by
    intro p hr hvalue
    cases p with
    | exiting todo hr' => rw [← Option.some.inj hvalue]; exact Iff.rfl
    | _ => cases hvalue
  call := resume_fails

/-- No failure has been reported so far. -/
def NoneReported (data : List UInt8) (argc : ℕ) (as : List Answer) : Prop :=
  (verdict data).NoneReported actions (main argc) as

/-- **What `main` returns.**  Whenever it returns, the value is `E_FAIL` or `0`; and it is `0` exactly when `main` was
given one argument and none of `WSAStartup`, `getaddrinfo`, `socket`, `connect`, `send` and the two `shutdown` calls
has failed.  A failed `recv` is not reported. -/
theorem exit_code_iff (data : List UInt8) (argc : ℕ) (as : List Answer) (s : Audited Point Resource) (hr : ℤ)
    (hrun : run (auditStep (program data) actions) (auditFrom (main argc)) as = some s)
    (hreturn : s.point = .exiting [] hr) :
    (hr = 0 ∨ hr = eFail) ∧ (hr = 0 ↔ argc = 2 ∧ NoneReported data argc as) := by
  have hvalue : (verdict data).value s.point = some hr := by
    rw [hreturn]
    rfl
  exact (verdict data).exit_value_of_argc rfl rfl id hrun hvalue

/-- The connection breaks while the client receives, and the socket can still be shut down. -/
def brokenConnection : List Answer := [.ok, .ok, .ok, .ok, .ok, .sent .all, .ok, .received .failed, .ok, .ok, .ok]

theorem exit_code_brokenConnection :
    ∃ s, run (auditStep (program []) actions) (auditFrom (main 2)) brokenConnection = some s ∧
      s.point = .exiting [] 0 ∧
      ((0 : ℤ) = 0 ∨ (0 : ℤ) = eFail) ∧ ((0 : ℤ) = 0 ↔ 2 = 2 ∧ NoneReported [] 2 brokenConnection) :=
  ⟨_, rfl, rfl, exit_code_iff [] 2 brokenConnection _ 0 rfl rfl⟩

end AceSamples.Client4
