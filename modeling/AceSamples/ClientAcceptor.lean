import AceSamples.ClientService

/-!
# The acceptor of Server3-ace and the connections it creates

A `ClientAcceptor` is registered for `ACCEPT_MASK` and creates one `ClientService` for each connection.  Until
the connection has been accepted the new object belongs to an `auto_ptr`, which deletes it when `accept` fails;
after that it belongs to the reactor, and only its own `handle_close` deletes it.

* `Acceptor` with `openAcceptor`, `handleInput`, `handleClose` — the acceptor and its member functions;
* `System` — the acceptor and every `ClientService` that it has allocated, destroyed ones included;
* `step` — a callback by the reactor, or the end of its event loop, after which `main` destroys the acceptor.

A handler's registrations concern that handler only: `register_handler` and `remove_handler` are called with
`this`.
-/

set_option autoImplicit false

namespace AceSamples.ClientAcceptor

open AceSamples.AceSocket
open AceSamples.ClientService (Service Dispatch openService)

variable {β : Type*}

/-! ### The acceptor -/

/-- A `ClientAcceptor`: the events the reactor has it registered for, whether `m_acceptor` has a handle, and
how often that handle has been closed. -/
structure Acceptor where
  mask : Mask
  listening : Bool
  closes : ℕ
  deriving DecidableEq, Repr

namespace Acceptor

def fresh : Acceptor := ⟨.null, false, 0⟩

/-- `reactor()->register_handler(this, mask)` -/
def registerHandler (ok : Bool) (m : Mask) (a : Acceptor) : ℤ × Acceptor :=
  if ok then (0, { a with mask := a.mask.union m }) else (-1, a)

/-- `reactor()->remove_handler(this, mask)` -/
def removeHandler (m : Mask) (a : Acceptor) : Acceptor := { a with mask := a.mask.remove m }

/-- `m_acceptor.close()` -/
def closeSocket (a : Acceptor) : Acceptor := { a with listening := false, closes := a.closes + 1 }

end Acceptor

/-- `ClientAcceptor::open`: whether `m_acceptor.open` succeeds, and whether `register_handler` does. -/
def openAcceptor (bound registered : Bool) (a : Acceptor) : ℤ × Acceptor :=
  if bound = false then (-1, a)
  else { a with listening := true }.registerHandler registered .acceptMask

/-- `ClientAcceptor::handle_close`, which returns `0` on every path. -/
def handleClose (a : Acceptor) : Acceptor :=
  if a.listening then (a.removeHandler (Mask.acceptMask.union .dontCallMask)).closeSocket else a

/-- The results of the calls that one `handle_input` makes: the allocation of the `ClientService`, `accept`,
and the `register_handler` of `client->open()`. -/
structure AcceptResults where
  allocated : Bool
  accepted : Bool
  registered : Bool
  deriving DecidableEq, Repr

/-- `ClientAcceptor::handle_input`: the returned value and the `ClientService` it has allocated. -/
def handleInput (env : AcceptResults) : ℤ × Option (Service β) :=
  if env.allocated = false then (-1, none)
  else
    let client : Service β := .fresh
    -- the `auto_ptr` deletes the client
    if env.accepted = false then (-1, some client.delete)
    else
      let (rc, client) := openService .server3 env.registered client.acceptPeer
      if rc = -1 then (0, some (ClientService.handleClose .server3 .null client))
      else (0, some client)

/-! ### The acceptor with its connections -/

/-- A `ClientService` allocated by the acceptor, with what has happened to it: whether its `accept` failed,
its `open` failed, or one of its `handle_input` calls returned `-1`. -/
structure Client (β : Type*) where
  service : Service β
  acceptFailed : Bool
  openFailed : Bool
  inputFailed : Bool

/-- The server: `running` until the event loop has ended. -/
structure System (β : Type*) where
  acceptor : Acceptor
  clients : List (Client β)
  running : Bool

/-- What the reactor does next. -/
inductive Event (β : Type*) where
  | accept (env : AcceptResults)
  | client (i : ℕ) (d : Dispatch β)
  | endLoop

/-- `handle_input` of the acceptor is called for `ACCEPT_MASK`. -/
def dispatchAccept (env : AcceptResults) (a : Acceptor) : Acceptor :=
  if (handleInput (β := β) env).1 = -1 then handleClose (a.removeHandler .acceptMask) else a

/-- The clients after `handle_input` of the acceptor. -/
def addClient (env : AcceptResults) (clients : List (Client β)) : List (Client β) :=
  match (handleInput env).2 with
  | none => clients
  | some s => clients ++ [⟨s, !env.accepted, env.accepted && !env.registered, false⟩]

/-- Whether a dispatch makes `handle_input` return `-1`. -/
def inputFails (s : Service β) : Dispatch β → Bool
  | .input env => (ClientService.handleInput .server3 env s).1 = -1
  | .output _ => false

/-- A dispatch to one client; `none` when it is not registered for the event. -/
def dispatchClient (d : Dispatch β) (c : Client β) : Option (Client β) :=
  match ClientService.step .server3 c.service d with
  | none => none
  | some s => some { c with service := s, inputFailed := c.inputFailed || inputFails c.service d }

/-- One event; `none` when it cannot happen. -/
def step (sys : System β) : Event β → Option (System β)
  | .accept env =>
    if sys.running && sys.acceptor.mask.accept then
      some { sys with
        acceptor := dispatchAccept (β := β) env sys.acceptor, clients := addClient env sys.clients }
    else none
  | .client i d =>
    if sys.running then
      match sys.clients[i]? with
      | none => none
      | some c =>
        match dispatchClient d c with
        | none => none
        | some c' => some { sys with clients := sys.clients.set i c' }
    else none
  | .endLoop =>
    if sys.running then some { sys with acceptor := handleClose sys.acceptor, running := false }
    else none

/-- The server after a successful `open`. -/
def started : System β := ⟨(openAcceptor true true .fresh).2, [], true⟩

end AceSamples.ClientAcceptor
