import AceSamples.Winsock

/-!
# The program Server1-msdn

`main` sets up a listening socket, accepts one connection and echoes it until the peer shuts down.  The points
of the program are its calls in the order of the source; each exit releases a list of resources of its own,
which the points `exiting` carry out one call at a time.  Log output is left out, and so are the arguments
that no later step reads.
-/

set_option autoImplicit false

namespace AceSamples.Server1

open AceSamples.AceSocket AceSamples.Winsock

/-- A call that releases something. -/
inductive Release where
  | freeAddresses
  | closeListenSocket
  | closeClientSocket
  | wsaCleanup
  deriving DecidableEq, Repr

/-- The calls of `main`.  `exiting todo hr` makes the calls `todo` and then returns `hr`. -/
inductive Point where
  | wsaStartup
  | getaddrinfo
  | socket
  | bind
  | freeaddrinfo
  | listen
  | accept
  | recv
  | send (buffer : List UInt8)
  | shutdown
  | exiting (todo : List Release) (hr : ℤ)
  deriving DecidableEq, Repr

/-- The beginning of `main`, which checks the number of its arguments. -/
def main (argc : ℕ) : Point := if argc ≠ 2 then .exiting [] eFail else .wsaStartup

/-- The call that `main` makes at a point, as far as the connection is concerned. -/
def request : Point → Option Request
  | .recv => some .recv
  | .send buffer => some (.send buffer)
  | .shutdown => some .shutdown
  | .exiting [] _ => none
  | _ => some .other

/-- Where `main` goes with the answer to its call. -/
def resume : Point → Answer → Option Point
  | .wsaStartup, .ok => some .getaddrinfo
  | .wsaStartup, .error => some (.exiting [] eFail)
  | .getaddrinfo, .ok => some .socket
  | .getaddrinfo, .error => some (.exiting [.wsaCleanup] eFail)
  | .socket, .ok => some .bind
  | .socket, .error => some (.exiting [.freeAddresses, .wsaCleanup] eFail)
  | .bind, .ok => some .freeaddrinfo
  | .bind, .error => some (.exiting [.freeAddresses, .closeListenSocket, .wsaCleanup] eFail)
  | .freeaddrinfo, .ok => some .listen
  | .listen, .ok => some .accept
  | .listen, .error => some (.exiting [.closeListenSocket, .wsaCleanup] eFail)
  | .accept, .ok => some .recv
  | .accept, .error => some (.exiting [.closeListenSocket, .wsaCleanup] eFail)
  | .recv, .received r =>
    let received := r.returned
    if received > 0 then some (.send r.bytes)
    else if received = 0 then some .shutdown
    else some (.exiting [.closeClientSocket, .wsaCleanup] eFail)
  | .send buffer, .sent r =>
    let sendResult := r.returned buffer.length
    if sendResult = -1 then some (.exiting [.closeClientSocket, .wsaCleanup] eFail)
    -- the loop goes on, since the last `recv` returned a positive number
    else some .recv
  | .shutdown, .ok => some (.exiting [.closeClientSocket, .wsaCleanup] 0)
  | .shutdown, .error => some (.exiting [.closeClientSocket, .wsaCleanup] eFail)
  -- what these calls return is not looked at
  | .exiting (_ :: todo) hr, .ok => some (.exiting todo hr)
  | .exiting (_ :: todo) hr, .error => some (.exiting todo hr)
  | _, _ => none

theorem resume_total {p : Point} {req : Request} {a : Answer} (hreq : request p = some req)
    (ha : Succeeds req a) : ∃ p', resume p a = some p' := by
  cases p with
  | recv =>
    cases hreq
    cases ha with
    | recv r =>
      simp only [resume]
      split
      · exact ⟨_, rfl⟩
      · split <;> exact ⟨_, rfl⟩
  | send buffer =>
    cases hreq
    cases ha
    simp only [resume]
    split <;> exact ⟨_, rfl⟩
  | exiting todo hr =>
    cases todo with
    | nil => cases hreq
    | cons r todo => cases hreq; cases ha; exact ⟨_, rfl⟩
  | _ => cases hreq; cases ha; exact ⟨_, rfl⟩

/-- `main` of Server1-msdn. -/
def program : Program Point := ⟨request, resume, resume_total⟩

/-! ### The points of the calls -/

theorem eq_recv {p : Point} (h : request p = some .recv) : p = .recv := by
  cases p with
  | recv => rfl
  | exiting todo hr => cases todo <;> cases h
  | _ => cases h

theorem eq_send {p : Point} {buffer : List UInt8} (h : request p = some (.send buffer)) :
    p = .send buffer := by
  cases p with
  | send _ => cases h; rfl
  | exiting todo hr => cases todo <;> cases h
  | _ => cases h

theorem eq_shutdown {p : Point} (h : request p = some .shutdown) : p = .shutdown := by
  cases p with
  | shutdown => rfl
  | exiting todo hr => cases todo <;> cases h
  | _ => cases h

/-! ### The echo loop -/

/-- The bytes in the buffer of `main` that wait to be sent. -/
def waiting : Point → List UInt8
  | .send buffer => buffer
  | _ => []

/-- A chunk that has been received is sent next. -/
theorem resume_data (c : Chunk UInt8 bufferSize) :
    resume .recv (.received (.data c)) = some (.send c.bytes) :=
  if_pos (RecvResult.returned_data_pos c)

/-- After sending a whole chunk the loop goes on. -/
theorem resume_sent (buffer : List UInt8) : resume (.send buffer) (.sent .all) = some .recv := by
  have hne : SendResult.all.returned buffer.length ≠ -1 := by
    rw [SendResult.returned_all]
    omega
  simp only [resume, if_neg hne]

theorem waiting_other {p p' : Point} (hreq : request p = some .other) (hp : resume p .ok = some p') :
    waiting p' = waiting p := by
  cases p with
  | recv => cases hreq
  | send _ => cases hreq
  | shutdown => cases hreq
  | exiting todo hr =>
    cases todo with
    | nil => cases hreq
    | cons r todo => cases hp; rfl
  | _ => cases hp; rfl

/-- What is in the buffer after a call is what was there before it and has not been sent, followed by what
has been received. -/
theorem put_append_waiting {p : Point} {input output : Stream} {m : Moved Point}
    (h : MoveEffect program p input output m) : m.put ++ waiting m.point = waiting p ++ m.got := by
  cases h with
  | data c p' _ hreq hp _ _ =>
    obtain rfl := eq_recv hreq
    obtain rfl : .send c.bytes = p' := Option.some.inj ((resume_data c).symm.trans hp)
    rfl
  | closed p' hreq hp _ =>
    obtain rfl := eq_recv hreq
    cases hp
    rfl
  | send buffer p' hreq hp =>
    obtain rfl := eq_send hreq
    obtain rfl : .recv = p' := Option.some.inj ((resume_sent buffer).symm.trans hp)
    rfl
  | shutdown p' hreq hp =>
    obtain rfl := eq_shutdown hreq
    cases hp
    rfl
  | other p' hreq hp =>
    show [] ++ waiting p' = waiting p ++ []
    rw [waiting_other hreq hp, List.append_nil]
    rfl

end AceSamples.Server1
