import AceSamples.Winsock

/-!
# The program Client4-msdn-client

`main` connects, sends a text, shuts down its sending side and receives until the server closes the
connection.  The text is the literal `"this is a test."` in the source and any C string here; `payload` is what
`strnlen_s` selects of it.
-/

set_option autoImplicit false

namespace AceSamples.Client4

open AceSamples.AceSocket AceSamples.Winsock

/-! ### The text -/

/-- `strnlen_s(data, size)`: the number of bytes before the terminating zero, at most `size`. -/
def strnlenS (data : List UInt8) (size : ℕ) : ℕ := min (data.takeWhile (· ≠ 0)).length size

/-- The bytes that `main` passes to `send`. -/
def payload (data : List UInt8) : List UInt8 := data.take (strnlenS data bufferSize)

/-- Every text of at most `bufferSize` bytes without a zero is the payload of a C string. -/
theorem payload_terminated {text : List UInt8} (hzero : 0 ∉ text) (hlen : text.length ≤ bufferSize)
    (rest : List UInt8) : payload (text ++ 0 :: rest) = text := by
  have hall : ∀ b ∈ text, (decide (b ≠ 0)) = true := by
    intro b hb
    rw [decide_eq_true_eq]
    rintro rfl
    exact hzero hb
  have htext : (text ++ 0 :: rest).takeWhile (· ≠ 0) = text := by
    rw [List.takeWhile_append_of_pos hall]
    simp
  have hnlen : strnlenS (text ++ 0 :: rest) bufferSize = text.length := by
    unfold strnlenS
    rw [htext]
    exact Nat.min_eq_left hlen
  unfold payload
  rw [hnlen, List.take_left]

/-! ### The program -/

/-- A call that releases something. -/
inductive Release where
  | freeAddresses
  | closeConnectSocket
  | wsaCleanup
  deriving DecidableEq, Repr

/-- The calls of `main`.  `freeaddrinfo connected` knows whether `connectSocket` is a socket still, and
`exiting todo hr` makes the calls `todo` and then returns `hr`. -/
inductive Point where
  | wsaStartup
  | getaddrinfo
  | socket
  | connect
  | closeUnconnected
  | freeaddrinfo (connected : Bool)
  | send
  | shutdown
  | recv
  | shutdownAgain
  | exiting (todo : List Release) (hr : ℤ)
  deriving DecidableEq, Repr

/-- The beginning of `main`, which checks the number of its arguments. -/
def main (argc : ℕ) : Point := if argc ≠ 2 then .exiting [] eFail else .wsaStartup

/-- The call that `main` makes at a point, as far as the connection is concerned. -/
def request (data : List UInt8) : Point → Option Request
  | .send => some (.send (payload data))
  | .shutdown => some .shutdown
  | .recv => some .recv
  | .shutdownAgain => some .shutdown
  | .exiting [] _ => none
  | _ => some .other

/-- Where `main` goes with the answer to its call. -/
def resume (data : List UInt8) : Point → Answer → Option Point
  | .wsaStartup, .ok => some .getaddrinfo
  | .wsaStartup, .error => some (.exiting [] eFail)
  | .getaddrinfo, .ok => some .socket
  | .getaddrinfo, .error => some (.exiting [.wsaCleanup] eFail)
  | .socket, .ok => some .connect
  | .socket, .error => some (.exiting [.freeAddresses, .wsaCleanup] eFail)
  | .connect, .ok => some (.freeaddrinfo true)
  | .connect, .error => some .closeUnconnected
  | .closeUnconnected, .ok => some (.freeaddrinfo false)
  | .closeUnconnected, .error => some (.freeaddrinfo false)
  | .freeaddrinfo connected, .ok =>
    if connected then some .send else some (.exiting [.wsaCleanup] eFail)
  | .send, .sent r =>
    let bytesSent := r.returned (payload data).length
    if bytesSent = -1 then some (.exiting [.closeConnectSocket, .wsaCleanup] eFail)
    else some .shutdown
  | .shutdown, .ok => some .recv
  | .shutdown, .error => some (.exiting [.closeConnectSocket, .wsaCleanup] eFail)
  | .recv, .received r =>
    let bytesReceived := r.returned
    if bytesReceived > 0 then some .recv else some .shutdownAgain
  | .shutdownAgain, .ok => some (.exiting [.closeConnectSocket, .wsaCleanup] 0)
  | .shutdownAgain, .error => some (.exiting [.closeConnectSocket, .wsaCleanup] eFail)
  -- what these calls return is not looked at
  | .exiting (_ :: todo) hr, .ok => some (.exiting todo hr)
  | .exiting (_ :: todo) hr, .error => some (.exiting todo hr)
  | _, _ => none

theorem resume_total {data : List UInt8} {p : Point} {req : Request} {a : Answer}
    (hreq : request data p = some req) (ha : Succeeds req a) : ∃ p', resume data p a = some p' := by
  cases p with
  | recv =>
    cases hreq
    cases ha
    simp only [resume]
    split <;> exact ⟨_, rfl⟩
  | send =>
    cases hreq
    cases ha
    simp only [resume]
    split <;> exact ⟨_, rfl⟩
  | freeaddrinfo connected =>
    cases hreq
    cases ha
    simp only [resume]
    split <;> exact ⟨_, rfl⟩
  | exiting todo hr =>
    cases todo with
    | nil => cases hreq
    | cons r todo => cases hreq; cases ha; exact ⟨_, rfl⟩
  | _ => cases hreq; cases ha; exact ⟨_, rfl⟩

/-- `main` of Client4-msdn-client with the text `data`. -/
def program (data : List UInt8) : Program Point := ⟨request data, resume data, resume_total⟩

/-! ### The points of the calls -/

variable {data : List UInt8}

theorem eq_recv {p : Point} (h : request data p = some .recv) : p = .recv := by
  cases p with
  | recv => rfl
  | exiting todo hr => cases todo <;> cases h
  | _ => cases h

theorem eq_send {p : Point} {buffer : List UInt8} (h : request data p = some (.send buffer)) :
    p = .send ∧ buffer = payload data := by
  cases p with
  | send => cases h; exact ⟨rfl, rfl⟩
  | exiting todo hr => cases todo <;> cases h
  | _ => cases h

theorem eq_shutdown {p : Point} (h : request data p = some .shutdown) :
    p = .shutdown ∨ p = .shutdownAgain := by
  cases p with
  | shutdown => exact Or.inl rfl
  | shutdownAgain => exact Or.inr rfl
  | exiting todo hr => cases todo <;> cases h
  | _ => cases h

/-- A chunk keeps the receive loop going. -/
theorem resume_data (data : List UInt8) (c : Chunk UInt8 bufferSize) :
    resume data .recv (.received (.data c)) = some .recv :=
  if_pos (RecvResult.returned_data_pos c)

/-- After sending the whole text `main` shuts down. -/
theorem resume_sent (data : List UInt8) : resume data .send (.sent .all) = some .shutdown := by
  have hne : SendResult.all.returned (payload data).length ≠ -1 := by
    rw [SendResult.returned_all]
    omega
  simp only [resume, if_neg hne]

/-- Whether `main` has left its receive loop. -/
def loopEnded : Point → Bool
  | .shutdownAgain => true
  | .exiting _ _ => true
  | _ => false

end AceSamples.Client4
