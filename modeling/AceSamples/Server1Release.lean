import AceSamples.Server1
import AceSamples.WinsockAudit

/-!
# What Server1-msdn releases and returns

`main` holds up to four resources: Winsock itself, the address list, the listening socket and the socket of the
client.  Each of its exits releases a list of them that is written out in the source.

* `Resource`, `actions` — what the calls of `main` do with the resources;
* `expected` — what is held at each point before an exit;
* `Finishing` — at an exit, what will be left when its calls have been made;
* `Tracked`, `resume_tracked`, `run_tracked` — **the invariant**;
* `releases_everything_iff` — everything has been released on return, and once, exactly when no client has been
  accepted: the exits after `accept` forget the listening socket;
* `Reported`, `verdict`, `server_exit_code_iff` — `main` returns `0` exactly when no call has failed, and those of
  `recv` are among them here.
-/

set_option autoImplicit false

namespace AceSamples.Server1

open AceSamples.AceSocket AceSamples.ResourceLedger AceSamples.ScriptedRun AceSamples.Winsock

/-! ### The resources -/

inductive Resource where
  | winsock
  | addresses
  | listenSocket
  | clientSocket
  deriving DecidableEq, Repr

/-- What a releasing call does with the resources. -/
def Release.actions : Release → List (Action Resource)
  | .freeAddresses => [use .winsock, release .addresses]
  | .closeListenSocket => [use .winsock, release .listenSocket]
  | .closeClientSocket => [use .winsock, release .clientSocket]
  | .wsaCleanup => [release .winsock]

/-- What the call at a point does with the resources, when it gives this answer.  Every call uses Winsock; the
`WSAGetLastError` that prints why a call has failed counts with that call. -/
def actions : Point → Answer → List (Action Resource)
  | .wsaStartup, .ok => [acquire .winsock]
  | .wsaStartup, _ => []
  | .getaddrinfo, .ok => [use .winsock, acquire .addresses]
  | .getaddrinfo, _ => [use .winsock]
  | .socket, .ok => [use .winsock, use .addresses, acquire .listenSocket]
  | .socket, _ => [use .winsock, use .addresses]
  | .bind, _ => [use .winsock, use .listenSocket, use .addresses]
  | .freeaddrinfo, _ => [use .winsock, release .addresses]
  | .listen, _ => [use .winsock, use .listenSocket]
  | .accept, .ok => [use .winsock, use .listenSocket, acquire .clientSocket]
  | .accept, _ => [use .winsock, use .listenSocket]
  | .recv, _ => [use .winsock, use .clientSocket]
  | .send _, _ => [use .winsock, use .clientSocket]
  | .shutdown, _ => [use .winsock, use .clientSocket]
  | .exiting (r :: _) _, _ => r.actions
  | .exiting [] _, _ => []

/-! ### What is held at each point -/

/-- A ledger by its four entries. -/
def ledger (winsock addresses listenSocket clientSocket : Status) : Ledger Resource
  | .winsock => winsock
  | .addresses => addresses
  | .listenSocket => listenSocket
  | .clientSocket => clientSocket

/-- The number of calls that have succeeded when `main` is at a point of its setup. -/
def succeeded : Point → ℕ
  | .wsaStartup => 0
  | .getaddrinfo => 1
  | .socket => 2
  | .bind => 3
  | .freeaddrinfo => 4
  | .listen => 5
  | .accept => 6
  | _ => 7

/-- What is held when `main` is at a point before its exits. -/
def expected : Point → Ledger Resource
  | .wsaStartup => ledger .unused .unused .unused .unused
  | .getaddrinfo => ledger .held .unused .unused .unused
  | .socket => ledger .held .held .unused .unused
  | .bind => ledger .held .held .held .unused
  | .freeaddrinfo => ledger .held .held .held .unused
  | .listen => ledger .held .released .held .unused
  | .accept => ledger .held .released .held .unused
  | _ => ledger .held .released .held .held

/-- All calls up to and including `accept` have succeeded. -/
def Accepted (as : List Answer) : Prop := List.replicate 7 .ok <+: as

/-- One of these calls has failed. -/
def SetupFailed (as : List Answer) : Prop := ∃ k < 7, as[k]? = some .error

/-- `main` is at an exit: with the calls `todo` made, nothing will be held, or only the listening socket if a
client has been accepted. -/
def Finishing (as : List Answer) (todo : List Release) (l : Ledger Resource) : Prop :=
  Accepted as ∧ enterAll Release.actions todo l .listenSocket = .held
    ∨ (SetupFailed as ∨ as = [] ∧ todo = []) ∧ Settled (enterAll Release.actions todo l)

/-- `main` has come to a point before which `k` calls have succeeded, not counting those of the echo loop. -/
def Reached (as : List Answer) (k : ℕ) : Prop := if k < 7 then as = List.replicate k .ok else Accepted as

/-- **The invariant.** -/
def Tracked (as : List Answer) : Point → Ledger Resource → Prop
  | .exiting todo _, l => Finishing as todo l
  | p, l => Reached as (succeeded p) ∧ l = expected p

theorem Accepted.snoc {as : List Answer} (h : Accepted as) (a : Answer) : Accepted (as ++ [a]) :=
  h.trans (List.prefix_append as [a])

theorem SetupFailed.snoc {as : List Answer} (h : SetupFailed as) (a : Answer) : SetupFailed (as ++ [a]) := by
  obtain ⟨k, hk, herror⟩ := h
  refine ⟨k, hk, ?_⟩
  have hlt : k < as.length := (List.getElem?_eq_some_iff.mp herror).1
  rw [List.getElem?_append_left hlt]
  exact herror

/-- A call of the setup has failed, so `accept` has not succeeded. -/
theorem SetupFailed.not_accepted {as : List Answer} (h : SetupFailed as) : ¬Accepted as := by
  obtain ⟨k, hk, herror⟩ := h
  intro hexists
  obtain ⟨rest, rfl⟩ := hexists
  have hlen : k < (List.replicate 7 Answer.ok).length := by
    rw [List.length_replicate]
    exact hk
  rw [List.getElem?_append_left hlen, List.getElem?_replicate, if_pos hk] at herror
  cases herror

theorem setupFailed_replicate {k : ℕ} (hk : k < 7) :
    SetupFailed (List.replicate k .ok ++ [.error]) := by
  refine ⟨k, hk, ?_⟩
  have hle : (List.replicate k Answer.ok).length ≤ k := Nat.le_of_eq List.length_replicate
  rw [List.getElem?_append_right hle, List.length_replicate, Nat.sub_self]
  rfl

/-! ### The setup -/

/-- A call of the setup succeeds and `main` goes on to the next one, or it fails and `main` goes to an exit that
releases what is held. -/
theorem resume_setup {p p' : Point} {a : Answer} (hsetup : succeeded p < 7) (hp : resume p a = some p') :
    (a = .ok ∧ succeeded p' = succeeded p + 1 ∧ (∀ todo hr, p' ≠ .exiting todo hr)
        ∧ (actions p a).foldl enter (expected p) = expected p')
      ∨ a = .error ∧ ∃ todo hr, p' = .exiting todo hr
        ∧ Settled (enterAll Release.actions todo ((actions p a).foldl enter (expected p))) := by
  cases p with
  | recv => exact absurd hsetup (by decide)
  | send buffer => exact absurd hsetup (Nat.lt_irrefl 7)
  | shutdown => exact absurd hsetup (by decide)
  | exiting todo hr => exact absurd hsetup (Nat.lt_irrefl 7)
  | freeaddrinfo =>
    cases a with
    | ok =>
      cases hp
      exact Or.inl ⟨rfl, rfl, nofun, by funext k; cases k <;> rfl⟩
    | _ => cases hp
  | _ =>
    cases a with
    | ok =>
      cases hp
      exact Or.inl ⟨rfl, rfl, nofun, by funext k; cases k <;> rfl⟩
    | error =>
      cases hp
      exact Or.inr ⟨rfl, _, _, rfl, by intro k; cases k <;> decide⟩
    | _ => cases hp

theorem tracked_of_ne {as : List Answer} {p : Point} {l : Ledger Resource} (hp : ∀ todo hr, p ≠ .exiting todo hr)
    (has : Reached as (succeeded p)) (hl : l = expected p) : Tracked as p l := by
  cases p with
  | exiting todo hr => exact absurd rfl (hp todo hr)
  | _ => exact ⟨has, hl⟩

/-- **The step lemma for the setup.** -/
theorem setup_tracked {p p' : Point} {as : List Answer} {l : Ledger Resource} {a : Answer}
    (hsetup : succeeded p < 7) (hs : Reached as (succeeded p) ∧ l = expected p) (hp : resume p a = some p') :
    Tracked (as ++ [a]) p' ((actions p a).foldl enter l) := by
  obtain ⟨has, rfl⟩ := hs
  rw [Reached, if_pos hsetup] at has
  obtain ⟨rfl, hnext, hne, hledger⟩ | ⟨rfl, todo, hr, rfl, hledger⟩ := resume_setup hsetup hp
  · have hok : as ++ [.ok] = List.replicate (succeeded p') .ok := by
      rw [has, hnext, List.replicate_succ']
    refine tracked_of_ne hne ?_ hledger
    by_cases hlt : succeeded p' < 7
    · rw [Reached, if_pos hlt]
      exact hok
    · rw [Reached, if_neg hlt, hok, show succeeded p' = 7 by omega]
      exact List.prefix_rfl
  · rw [has]
    exact Or.inr ⟨Or.inl (setupFailed_replicate hsetup), hledger⟩

/-! ### The echo loop and the exits -/

/-- What a call does while the client is served. -/
def serving : List (Action Resource) := [use .winsock, use .clientSocket]

/-- While the client is served, its socket is used and nothing changes hands. -/
theorem serving_ledger : serving.foldl enter (expected .recv) = expected .recv := by
  funext k
  cases k <;> rfl

/-- The exits of the loop and the regular one leave the listening socket. -/
theorem serving_exit {as : List Answer} (has : Accepted as) (a : Answer) :
    Finishing (as ++ [a]) [.closeClientSocket, .wsaCleanup] (serving.foldl enter (expected .recv)) := by
  refine Or.inl ⟨has.snoc a, ?_⟩
  rw [serving_ledger]
  rfl

/-- An exit makes one of its calls. -/
theorem Finishing.pay {as : List Answer} {r : Release} {todo : List Release} {l : Ledger Resource}
    (h : Finishing as (r :: todo) l) (a : Answer) : Finishing (as ++ [a]) todo (r.actions.foldl enter l) := by
  rw [Finishing, enterAll_cons] at h
  obtain ⟨has, hheld⟩ | ⟨has, hsettled⟩ := h
  · exact Or.inl ⟨has.snoc a, hheld⟩
  · refine Or.inr ⟨Or.inl ?_, hsettled⟩
    obtain hfailed | ⟨_, hnil⟩ := has
    · exact hfailed.snoc a
    · cases hnil

/-- **The step lemma.** -/
theorem resume_tracked {as : List Answer} {p p' : Point} {l : Ledger Resource} {a : Answer} (hs : Tracked as p l)
    (hp : resume p a = some p') : Tracked (as ++ [a]) p' ((actions p a).foldl enter l) := by
  cases p with
  | recv =>
    obtain ⟨has, rfl⟩ : Accepted as ∧ l = expected .recv := hs
    cases a with
    | received r =>
      simp only [resume] at hp
      split at hp
      · cases hp
        exact ⟨has.snoc _, serving_ledger⟩
      · split at hp
        · cases hp
          exact ⟨has.snoc _, serving_ledger⟩
        · cases hp
          exact serving_exit has _
    | _ => cases hp
  | send buffer =>
    obtain ⟨has, rfl⟩ : Accepted as ∧ l = expected .recv := hs
    cases a with
    | sent r =>
      simp only [resume] at hp
      split at hp
      · cases hp
        exact serving_exit has _
      · cases hp
        exact ⟨has.snoc _, serving_ledger⟩
    | _ => cases hp
  | shutdown =>
    obtain ⟨has, rfl⟩ : Accepted as ∧ l = expected .recv := hs
    cases a with
    | ok =>
      cases hp
      exact serving_exit has _
    | error =>
      cases hp
      exact serving_exit has _
    | _ => cases hp
  | exiting todo hr =>
    have hfinishing : Finishing as todo l := hs
    cases todo with
    | nil => cases hp
    | cons r todo =>
      cases a with
      | ok =>
        cases hp
        exact hfinishing.pay _
      | error =>
        cases hp
        exact hfinishing.pay _
      | _ => cases hp
  | _ => exact setup_tracked (by decide) hs hp

/-! ### Whole runs -/

/-- **The run lemma.** -/
theorem run_tracked {argc : ℕ} {as : List Answer} {s : Audited Point Resource}
    (hrun : run (auditStep program actions) (auditFrom (main argc)) as = some s) :
    Tracked as s.point (audit s.log) := by
  refine run_ledger (I := Tracked) ?_ (fun _ _ _ _ _ hs hp => resume_tracked hs hp) hrun
  by_cases hargc : argc ≠ 2
  · rw [main, if_pos hargc]
    exact Or.inr ⟨Or.inr ⟨rfl, rfl⟩, fun k => Or.inl rfl⟩
  · rw [main, if_neg hargc]
    exact ⟨rfl, by funext k; cases k <;> rfl⟩

/-- **What is released on return.**  For every number of arguments and every sequence of answers with which
`main` returns: each resource that has been acquired has been released exactly once and not been used
afterwards, and no other has been used or released, if and only if the calls up to and including `accept` have not all
succeeded. -/
theorem releases_everything_iff (argc : ℕ) (as : List Answer) (s : Audited Point Resource) (hr : ℤ)
    (hrun : run (auditStep program actions) (auditFrom (main argc)) as = some s)
    (hreturn : s.point = .exiting [] hr) : WellUsed s.log ↔ ¬List.replicate 7 .ok <+: as := by
  have htracked := run_tracked hrun
  have hfinishing : Finishing as [] (audit s.log) := by
    rw [hreturn] at htracked
    exact htracked
  rw [← settled_audit_iff]
  obtain ⟨has, hheld⟩ | ⟨has, hsettled⟩ := hfinishing
  · refine iff_of_false (fun hsettled => ?_) (not_not_intro has)
    have hheld' : audit s.log .listenSocket = .held := hheld
    have hlisten := hsettled .listenSocket
    rw [hheld'] at hlisten
    obtain h | h := hlisten <;> cases h
  · refine iff_of_true hsettled ?_
    obtain hfailed | ⟨rfl, _⟩ := has
    · exact hfailed.not_accepted
    · exact fun h => nomatch List.prefix_nil.mp h

/-- `bind` fails when Winsock, the address list and the listening socket are held. -/
def portTaken : List Answer := [.ok, .ok, .ok, .error, .ok, .ok, .ok]

theorem releases_everything_portTaken :
    ∃ s, run (auditStep program actions) (auditFrom (main 2)) portTaken = some s ∧ s.point = .exiting [] eFail ∧
      kinds .winsock s.log = [.acquire, .use, .use, .use, .use, .use, .release] ∧
      kinds .addresses s.log = [.acquire, .use, .use, .release] ∧
      kinds .listenSocket s.log = [.acquire, .use, .release] ∧ kinds .clientSocket s.log = [] ∧ WellUsed s.log := by
  have hfailed : SetupFailed portTaken := ⟨3, by decide, rfl⟩
  exact ⟨_, rfl, rfl, rfl, rfl, rfl, rfl,
    (releases_everything_iff 2 portTaken _ eFail rfl rfl).mpr hfailed.not_accepted⟩

/-- A client that closes the connection at once: every call succeeds, and the listening socket is left open. -/
theorem listenSocket_leaked :
    ∃ s, run (auditStep program actions) (auditFrom (main 2))
        (List.replicate 7 .ok ++ [.received .closed, .ok, .ok, .ok]) = some s
      ∧ s.point = .exiting [] 0 ∧ kinds .listenSocket s.log = [.acquire, .use, .use, .use]
      ∧ ¬WellUsed s.log := by
  refine ⟨_, rfl, rfl, rfl, ?_⟩
  intro hused
  have hlisten := (settled_audit_iff _).mpr hused .listenSocket
  obtain h | h := hlisten <;> cases h

/-! ### The returned value -/

/-- The value with which an exit returns. -/
def value : Point → Option ℤ
  | .exiting _ hr => some hr
  | _ => none

/-- The answer to the call at a point is a failure that makes `main` return `E_FAIL`. -/
def Reported : Point → Answer → Prop
  | .recv, .received r => r.returned < 0
  | .send buffer, .sent r => r.returned buffer.length = -1
  | .exiting _ _, _ => False
  | _, .error => True
  | _, _ => False

/-- `main` is on its way to the return value `E_FAIL`. -/
def Fails : Point → Prop
  | .exiting _ hr => hr = eFail
  | _ => False

/-- A call leads to the return value `E_FAIL` exactly when its failure is reported, or that was decided before. -/
theorem resume_fails {p p' : Point} {a : Answer} (hp : resume p a = some p') :
    (ZeroOrFail (value p) → ZeroOrFail (value p')) ∧ (Fails p' ↔ Fails p ∨ Reported p a) := by
  cases p with
  | exiting todo hr =>
    cases todo with
    | nil => cases a <;> cases hp
    | cons r todo =>
      cases a with
      | ok => cases hp; exact ⟨id, (or_iff_left id).symm⟩
      | error => cases hp; exact ⟨id, (or_iff_left id).symm⟩
      | _ => cases hp
  | recv =>
    cases a with
    | received r =>
      simp only [resume] at hp
      split at hp
      · rename_i hpos
        cases hp
        exact ⟨id, Verdict.goes_on id (show ¬r.returned < 0 by omega) id⟩
      · split at hp
        · rename_i hclosed
          cases hp
          exact ⟨id, Verdict.goes_on id (show ¬r.returned < 0 by omega) id⟩
        · cases hp
          exact ⟨fun _ => Or.inr rfl, Verdict.reports (show r.returned < 0 by omega) rfl⟩
    | _ => cases hp
  | send buffer =>
    cases a with
    | sent r =>
      simp only [resume] at hp
      split at hp
      · rename_i hfailed
        cases hp
        exact ⟨fun _ => Or.inr rfl, Verdict.reports hfailed rfl⟩
      · rename_i hsent
        cases hp
        exact ⟨id, Verdict.goes_on id hsent id⟩
    | _ => cases hp
  | shutdown =>
    cases a with
    | ok => cases hp; exact ⟨fun _ => Or.inl rfl, Verdict.goes_on id id (show ¬(0 : ℤ) = eFail by decide)⟩
    | error => cases hp; exact ⟨fun _ => Or.inr rfl, Verdict.reports trivial rfl⟩
    | _ => cases hp
  | freeaddrinfo =>
    cases a with
    | ok => cases hp; exact ⟨id, Verdict.goes_on id id id⟩
    | _ => cases hp
  | _ =>
    cases a with
    | ok => cases hp; exact ⟨id, Verdict.goes_on id id id⟩
    | error => cases hp; exact ⟨fun _ => Or.inr rfl, Verdict.reports trivial rfl⟩
    | _ => cases hp

/-- How `main` comes to its value. -/
def verdict : Verdict program where
  value := value
  Fails := Fails
  Reported := Reported
  fails_iff := by
    intro p hr hvalue
    cases p with
    | exiting todo hr' => rw [← Option.some.inj hvalue]; exact Iff.rfl
    | _ => cases hvalue
  call := resume_fails

/-- No failure has been reported so far. -/
def NoneReported (argc : ℕ) (as : List Answer) : Prop := verdict.NoneReported actions (main argc) as

/-- **What `main` returns.**  Whenever it returns, the value is `E_FAIL` or `0`; and it is `0` exactly when `main` was
given one argument and no call up to and including `shutdown` has failed, whichever trip through the echo loop it
belongs to. -/
theorem server_exit_code_iff (argc : ℕ) (as : List Answer) (s : Audited Point Resource) (hr : ℤ)
    (hrun : run (auditStep program actions) (auditFrom (main argc)) as = some s)
    (hreturn : s.point = .exiting [] hr) :
    (hr = 0 ∨ hr = eFail) ∧ (hr = 0 ↔ argc = 2 ∧ NoneReported argc as) := by
  have hvalue : verdict.value s.point = some hr := by
    rw [hreturn]
    rfl
  exact verdict.exit_value_of_argc rfl rfl id hrun hvalue

/-- A client that sends one byte, to which the echo does not come through. -/
def lostEcho : List Answer :=
  List.replicate 7 .ok ++ [.received (.data ⟨[117], by decide, by decide⟩), .sent .failed, .ok, .ok]

theorem server_exit_code_lostEcho :
    ∃ s, run (auditStep program actions) (auditFrom (main 2)) lostEcho = some s ∧ s.point = .exiting [] eFail ∧
      (eFail = 0 ∨ eFail = eFail) ∧ (eFail = 0 ↔ 2 = 2 ∧ NoneReported 2 lostEcho) :=
  ⟨_, rfl, rfl, server_exit_code_iff 2 lostEcho _ eFail rfl rfl⟩

end AceSamples.Server1
