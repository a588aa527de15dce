import Mathlib.Data.Finset.Basic
import Mathlib.Data.Nat.Notation

/-!
# The class `LogManager` of Trace6-Redirect

`LogManager` chooses where ACE's log messages go.  Each redirection sets and clears some flags of the
process-wide `ACE_Log_Msg`; a message is written to every sink whose flag is set.

* `LogMsg` — what the redirections use of `ACE_Log_Msg`: the flags, the registered stream and the callback;
* `LogMsg.writes` — the destinations that a message goes to;
* `redirectToDaemon`, …, `redirectToCallback` — the member functions, and `redirect` — one call of them;
* `History` — what the caller asked for: the destinations chosen with success, and the callbacks;
* `logAfter_recorded` — after every sequence of calls, each part of the log state is a function of the history.

The names given to the daemon and to syslog go into the messages and are left out.
-/

set_option autoImplicit false

namespace AceSamples.LogManager

variable {σ κ : Type*}

/-! ### ACE's log state -/

/-- The flags of `ACE_Log_Msg` that the redirections set and clear. -/
inductive Flag where
  | stderr
  | logger
  | syslog
  | ostream
  | msgCallback
  deriving DecidableEq, Repr

/-- Where a message can go to: the streams of the caller are named by `σ`. -/
inductive Destination (σ : Type*) where
  | stderr
  | stream (s : σ)
  | file (name : String)
  | syslog
  | daemon
  deriving DecidableEq, Repr

namespace Destination

/-- The two destinations that are written to through `msg_ostream`. -/
def isStream : Destination σ → Bool
  | .stream _ => true
  | .file _ => true
  | _ => false

def isFile : Destination σ → Bool
  | .file _ => true
  | _ => false

end Destination

/-- An output stream: one of the caller's, which stay open, or the `ofstream` that `RedirectToFile` has on
its stack. -/
inductive Stream (σ : Type*) where
  | caller (s : σ)
  | file (name : String) (isOpen : Bool)
  deriving DecidableEq, Repr

namespace Stream

def isOpen : Stream σ → Bool
  | .caller _ => true
  | .file _ b => b

/-- `close()` -/
def close : Stream σ → Stream σ
  | .caller s => .caller s
  | .file name _ => .file name false

/-- What is written to the stream goes to this destination. -/
def destination : Stream σ → Destination σ
  | .caller s => .stream s
  | .file name _ => .file name

end Stream

/-- The state of `ACE_Log_Msg`: its flags, the stream that `msg_ostream` points to and the callback; the
callbacks are named by `κ`, and `none` is the null pointer. -/
structure LogMsg (σ κ : Type*) where
  flags : Finset Flag
  msgOstream : Option (Stream σ)
  msgCallback : Option κ
  deriving DecidableEq

/-- What `ACE_Log_Msg::open` comes to.  When it fails, it leaves the log as it was or falls back to
`STDERR`. -/
inductive Opening where
  | opened
  | failed
  | fellBack
  deriving DecidableEq, Repr

namespace LogMsg

/-- The state in which a process starts: `STDERR` alone. -/
def start : LogMsg σ κ := ⟨{.stderr}, none, none⟩

def setFlags (fs : Finset Flag) (l : LogMsg σ κ) : LogMsg σ κ := { l with flags := l.flags ∪ fs }

def clrFlags (fs : Finset Flag) (l : LogMsg σ κ) : LogMsg σ κ := { l with flags := l.flags \ fs }

/-- `msg_ostream(output)` -/
def setMsgOstream (output : Stream σ) (l : LogMsg σ κ) : LogMsg σ κ := { l with msgOstream := some output }

/-- `close()` of the stream that `msg_ostream` points to. -/
def closeMsgOstream (l : LogMsg σ κ) : LogMsg σ κ := { l with msgOstream := l.msgOstream.map Stream.close }

/-- `msg_callback(callback)`, which returns the callback installed before. -/
def setMsgCallback (callback : Option κ) (l : LogMsg σ κ) : Option κ × LogMsg σ κ :=
  (l.msgCallback, { l with msgCallback := callback })

/-- `open(name, sink, key)` -/
def openLog (sink : Flag) : Opening → LogMsg σ κ → LogMsg σ κ
  | .opened, l => (l.setFlags {sink}).clrFlags {.stderr}
  | .failed, l => l
  | .fellBack, l => l.setFlags {.stderr}

/-- A message is written to every sink whose flag is set. -/
def writes (l : LogMsg σ κ) : Destination σ → Prop
  | .stderr => .stderr ∈ l.flags
  | .syslog => .syslog ∈ l.flags
  | .daemon => .logger ∈ l.flags
  | .stream s => .ostream ∈ l.flags ∧ l.msgOstream.map Stream.destination = some (.stream s)
  | .file name => .ostream ∈ l.flags ∧ l.msgOstream.map Stream.destination = some (.file name)

instance [DecidableEq σ] (l : LogMsg σ κ) (d : Destination σ) : Decidable (l.writes d) :=
  match d with
  | .stderr => inferInstanceAs (Decidable (_ ∈ _))
  | .syslog => inferInstanceAs (Decidable (_ ∈ _))
  | .daemon => inferInstanceAs (Decidable (_ ∈ _))
  | .stream _ => inferInstanceAs (Decidable (_ ∧ _))
  | .file _ => inferInstanceAs (Decidable (_ ∧ _))

/-- The stream that `msg_ostream` points to is open. -/
def streamOpen (l : LogMsg σ κ) : Bool := l.msgOstream.any Stream.isOpen

@[simp] theorem mem_setFlags {f : Flag} {fs : Finset Flag} {l : LogMsg σ κ} :
    f ∈ (l.setFlags fs).flags ↔ f ∈ l.flags ∨ f ∈ fs := Finset.mem_union

@[simp] theorem mem_clrFlags {f : Flag} {fs : Finset Flag} {l : LogMsg σ κ} :
    f ∈ (l.clrFlags fs).flags ↔ f ∈ l.flags ∧ f ∉ fs := Finset.mem_sdiff

end LogMsg

/-! ### The member functions -/

/-- `LogManager::RedirectToDaemon` -/
def redirectToDaemon (opening : Opening) (l : LogMsg σ κ) : LogMsg σ κ := l.openLog .logger opening

/-- `LogManager::RedirectToSyslog` -/
def redirectToSyslog (opening : Opening) (l : LogMsg σ κ) : LogMsg σ κ := l.openLog .syslog opening

/-- `LogManager::RedirectToOStream` -/
def redirectToOStream (output : Stream σ) (l : LogMsg σ κ) : LogMsg σ κ :=
  ((l.setMsgOstream output).clrFlags {.stderr, .logger}).setFlags {.ostream}

/-- `LogManager::RedirectToFile`; `isOpen` says whether the file could be opened.  The `ofstream` it registers
is closed before it returns. -/
def redirectToFile (name : String) (isOpen : Bool) (l : LogMsg σ κ) : LogMsg σ κ :=
  if isOpen then (redirectToOStream (.file name true) l).closeMsgOstream else l

/-- `LogManager::RedirectToStderr` -/
def redirectToStderr (l : LogMsg σ κ) : LogMsg σ κ := (l.clrFlags {.ostream, .logger}).setFlags {.stderr}

/-- `LogManager::RedirectToCallback`, which decides on the flag by the *previous* callback. -/
def redirectToCallback (callback : Option κ) (l : LogMsg σ κ) : Option κ × LogMsg σ κ :=
  let (previous, l) := l.setMsgCallback callback
  match previous with
  | none => (previous, l.clrFlags {.msgCallback})
  | some _ => (previous, l.setFlags {.msgCallback})

/-- A call of a member function, with what its environment decides. -/
inductive Call (σ κ : Type*) where
  | stderr
  | oStream (s : σ)
  | file (name : String) (isOpen : Bool)
  | syslog (opening : Opening)
  | daemon (opening : Opening)
  | callback (c : Option κ)
  deriving DecidableEq, Repr

/-- Carry out one call. -/
def redirect (l : LogMsg σ κ) : Call σ κ → LogMsg σ κ
  | .stderr => redirectToStderr l
  | .oStream s => redirectToOStream (.caller s) l
  | .file name isOpen => redirectToFile name isOpen l
  | .syslog opening => redirectToSyslog opening l
  | .daemon opening => redirectToDaemon opening l
  | .callback c => (redirectToCallback c l).2

/-- The log state after a sequence of calls. -/
def logAfter (calls : List (Call σ κ)) : LogMsg σ κ := calls.foldl redirect .start

/-! ### What the caller asked for -/

/-- The destinations chosen with success and the callbacks installed, the newest first; `fellBack` says that
an `open` has fallen back to `STDERR` since the last success. -/
structure History (σ κ : Type*) where
  chosen : List (Destination σ)
  fellBack : Bool
  callbacks : List (Option κ)
  deriving DecidableEq, Repr

namespace History

def start : History σ κ := ⟨[], false, []⟩

/-- A redirection has succeeded. -/
def choose (d : Destination σ) (h : History σ κ) : History σ κ :=
  { h with chosen := d :: h.chosen, fellBack := false }

/-- An `open` for the destination `d` has come to `opening`. -/
def chooseOpened (d : Destination σ) (opening : Opening) (h : History σ κ) : History σ κ :=
  match opening with
  | .opened => h.choose d
  | .failed => h
  | .fellBack => { h with fellBack := true }

def note (h : History σ κ) : Call σ κ → History σ κ
  | .stderr => h.choose .stderr
  | .oStream s => h.choose (.stream s)
  | .file name isOpen => if isOpen then h.choose (.file name) else h
  | .syslog opening => h.chooseOpened .syslog opening
  | .daemon opening => h.chooseOpened .daemon opening
  | .callback c => { h with callbacks := c :: h.callbacks }

/-- The callback installed last. -/
def current (h : History σ κ) : Option κ := h.callbacks.headD none

/-- The callback installed before the last one. -/
def previous (h : History σ κ) : Option κ := h.callbacks.tail.headD none

end History

/-- The history of a sequence of calls. -/
def historyOf (calls : List (Call σ κ)) : History σ κ := calls.foldl History.note .start

/-- The destinations chosen since the last `RedirectToStderr`. -/
def sinceStderr : List (Destination σ) → List (Destination σ)
  | [] => []
  | .stderr :: _ => []
  | d :: ds => d :: sinceStderr ds

/-- The daemon has been chosen, and since then nothing but syslog. -/
def daemonLast : List (Destination σ) → Bool
  | .daemon :: _ => true
  | .syslog :: ds => daemonLast ds
  | _ => false

/-- The stream registered last, which is closed already when it is that of a file. -/
def registered : List (Destination σ) → Option (Stream σ)
  | [] => none
  | .stream s :: _ => some (.caller s)
  | .file name :: _ => some (.file name false)
  | _ :: ds => registered ds

/-! ### The log state as a function of the history -/

/-- The log state `l` is the one that the history `h` leads to. -/
structure Recorded (h : History σ κ) (l : LogMsg σ κ) : Prop where
  stderr : .stderr ∈ l.flags ↔ h.fellBack = true ∨ h.chosen.headD .stderr = .stderr
  logger : .logger ∈ l.flags ↔ daemonLast h.chosen = true
  syslog : .syslog ∈ l.flags ↔ .syslog ∈ h.chosen
  ostream : .ostream ∈ l.flags ↔ ∃ d ∈ sinceStderr h.chosen, d.isStream = true
  msgOstream : l.msgOstream = registered h.chosen
  msgCallback : l.msgCallback = h.current
  callbackFlag : .msgCallback ∈ l.flags ↔ h.previous.isSome = true

theorem start_recorded : Recorded (.start : History σ κ) .start := by
  refine ⟨?_, ?_, ?_, ?_, rfl, rfl, ?_⟩
    <;> simp [LogMsg.start, History.start, daemonLast, sinceStderr, History.previous]

theorem redirectToStderr_recorded {h : History σ κ} {l : LogMsg σ κ} (hl : Recorded h l) :
    Recorded (h.choose .stderr) (redirectToStderr l) := by
  refine ⟨?_, ?_, ?_, ?_, hl.msgOstream, hl.msgCallback, ?_⟩
  · simp [redirectToStderr, History.choose]
  · simp [redirectToStderr, History.choose, daemonLast]
  · simp [redirectToStderr, History.choose, hl.syslog]
  · simp [redirectToStderr, History.choose, sinceStderr]
  · rw [← show h.previous = (h.choose .stderr).previous from rfl, ← hl.callbackFlag]
    simp [redirectToStderr]

theorem daemonLast_stream {d : Destination σ} (hd : d.isStream = true) (ds : List (Destination σ)) :
    daemonLast (d :: ds) = false := by
  cases d <;> first | rfl | cases hd

theorem sinceStderr_cons {d : Destination σ} (hd : d ≠ .stderr) (ds : List (Destination σ)) :
    sinceStderr (d :: ds) = d :: sinceStderr ds := by
  cases d <;> first | rfl | exact absurd rfl hd

/-- The registered stream may be closed right away; for a stream of the caller this says nothing. -/
theorem redirectToOStream_recorded {h : History σ κ} {l : LogMsg σ κ} (hl : Recorded h l)
    (output : Stream σ) :
    Recorded (h.choose output.destination) (redirectToOStream output l).closeMsgOstream := by
  have hstream : output.destination.isStream = true := by cases output <;> rfl
  have hstderr : output.destination ≠ .stderr := by cases output <;> nofun
  have hsyslog : .syslog ≠ output.destination := by cases output <;> nofun
  have hflags : (redirectToOStream output l).closeMsgOstream.flags = (redirectToOStream output l).flags := rfl
  refine ⟨?_, ?_, ?_, ?_, ?_, hl.msgCallback, ?_⟩
  · rw [hflags]
    simp [redirectToOStream, History.choose, hstderr]
  · rw [hflags, show daemonLast (h.choose output.destination).chosen = false from daemonLast_stream hstream _]
    simp [redirectToOStream]
  · rw [hflags, show (h.choose output.destination).chosen = output.destination :: h.chosen from rfl,
      List.mem_cons]
    simp [redirectToOStream, LogMsg.setMsgOstream, hl.syslog, hsyslog]
  · rw [hflags, show sinceStderr (h.choose output.destination).chosen
      = output.destination :: sinceStderr h.chosen from sinceStderr_cons hstderr _]
    simp [redirectToOStream, hstream]
  · cases output <;> rfl
  · rw [hflags, ← show h.previous = (h.choose output.destination).previous from rfl, ← hl.callbackFlag]
    simp [redirectToOStream, LogMsg.setMsgOstream]

theorem redirectToFile_recorded {h : History σ κ} {l : LogMsg σ κ} (hl : Recorded h l) (name : String)
    (isOpen : Bool) : Recorded (h.note (.file name isOpen)) (redirectToFile name isOpen l) := by
  cases isOpen with
  | false => exact hl
  | true => exact redirectToOStream_recorded hl (.file name true)

/-- An `open`, whatever it comes to, changes no flag but its own and `STDERR`. -/
theorem mem_openLog_other (sink f : Flag) (hsink : f ≠ sink) (hstderr : f ≠ .stderr)
    (opening : Opening) (l : LogMsg σ κ) : f ∈ (l.openLog sink opening).flags ↔ f ∈ l.flags := by
  cases opening <;> simp [LogMsg.openLog, hsink, hstderr]

theorem openLog_fellBack_recorded {h : History σ κ} {l : LogMsg σ κ} (hl : Recorded h l) (sink : Flag) :
    Recorded { h with fellBack := true } (l.openLog sink .fellBack) := by
  have hother : ∀ f, f ≠ .stderr → (f ∈ (l.openLog sink .fellBack).flags ↔ f ∈ l.flags) := by
    intro f hf
    simp [LogMsg.openLog, hf]
  refine ⟨?_, ?_, ?_, ?_, hl.msgOstream, hl.msgCallback, ?_⟩
  · simp [LogMsg.openLog]
  · exact (hother .logger nofun).trans hl.logger
  · exact (hother .syslog nofun).trans hl.syslog
  · exact (hother .ostream nofun).trans hl.ostream
  · exact (hother .msgCallback nofun).trans hl.callbackFlag

theorem redirectToSyslog_recorded {h : History σ κ} {l : LogMsg σ κ} (hl : Recorded h l)
    (opening : Opening) : Recorded (h.note (.syslog opening)) (redirectToSyslog opening l) := by
  cases opening with
  | failed => exact hl
  | fellBack => exact openLog_fellBack_recorded hl _
  | opened =>
    refine ⟨?_, ?_, ?_, ?_, hl.msgOstream, hl.msgCallback, ?_⟩
    · simp [redirectToSyslog, LogMsg.openLog, History.note, History.chooseOpened, History.choose]
    · exact (mem_openLog_other .syslog .logger nofun nofun .opened l).trans hl.logger
    · simp [redirectToSyslog, LogMsg.openLog, History.note, History.chooseOpened, History.choose]
    · rw [show sinceStderr (h.note (.syslog .opened)).chosen = .syslog :: sinceStderr h.chosen from rfl,
        redirectToSyslog, mem_openLog_other .syslog .ostream nofun nofun, hl.ostream]
      simp [Destination.isStream]
    · exact (mem_openLog_other .syslog .msgCallback nofun nofun .opened l).trans hl.callbackFlag

theorem redirectToDaemon_recorded {h : History σ κ} {l : LogMsg σ κ} (hl : Recorded h l)
    (opening : Opening) : Recorded (h.note (.daemon opening)) (redirectToDaemon opening l) := by
  cases opening with
  | failed => exact hl
  | fellBack => exact openLog_fellBack_recorded hl _
  | opened =>
    refine ⟨?_, ?_, ?_, ?_, hl.msgOstream, hl.msgCallback, ?_⟩
    · simp [redirectToDaemon, LogMsg.openLog, History.note, History.chooseOpened, History.choose]
    · simp [redirectToDaemon, LogMsg.openLog, History.note, History.chooseOpened, History.choose, daemonLast]
    · rw [redirectToDaemon, mem_openLog_other .logger .syslog nofun nofun, hl.syslog]
      simp [History.note, History.chooseOpened, History.choose]
    · rw [show sinceStderr (h.note (.daemon .opened)).chosen = .daemon :: sinceStderr h.chosen from rfl,
        redirectToDaemon, mem_openLog_other .logger .ostream nofun nofun, hl.ostream]
      simp [Destination.isStream]
    · exact (mem_openLog_other .logger .msgCallback nofun nofun .opened l).trans hl.callbackFlag

/-- The flag is set from the callback that has been replaced. -/
theorem redirectToCallback_flag (c : Option κ) (l : LogMsg σ κ) :
    .msgCallback ∈ (redirectToCallback c l).2.flags ↔ l.msgCallback.isSome = true := by
  cases hp : l.msgCallback <;> simp [redirectToCallback, LogMsg.setMsgCallback, hp]

theorem redirectToCallback_other (f : Flag) (hf : f ≠ .msgCallback) (c : Option κ) (l : LogMsg σ κ) :
    f ∈ (redirectToCallback c l).2.flags ↔ f ∈ l.flags := by
  cases hp : l.msgCallback <;> simp [redirectToCallback, LogMsg.setMsgCallback, hp, hf]

@[simp] theorem redirectToCallback_fst (c : Option κ) (l : LogMsg σ κ) :
    (redirectToCallback c l).1 = l.msgCallback := by
  cases hp : l.msgCallback <;> simp [redirectToCallback, LogMsg.setMsgCallback, hp]

@[simp] theorem redirectToCallback_msgCallback (c : Option κ) (l : LogMsg σ κ) :
    (redirectToCallback c l).2.msgCallback = c := by
  cases hp : l.msgCallback <;> simp [redirectToCallback, LogMsg.setMsgCallback, LogMsg.clrFlags,
    LogMsg.setFlags, hp]

@[simp] theorem redirectToCallback_msgOstream (c : Option κ) (l : LogMsg σ κ) :
    (redirectToCallback c l).2.msgOstream = l.msgOstream := by
  cases hp : l.msgCallback <;> simp [redirectToCallback, LogMsg.setMsgCallback, LogMsg.clrFlags,
    LogMsg.setFlags, hp]

theorem redirectToCallback_recorded {h : History σ κ} {l : LogMsg σ κ} (hl : Recorded h l)
    (c : Option κ) : Recorded (h.note (.callback c)) (redirectToCallback c l).2 := by
  refine ⟨?_, ?_, ?_, ?_, ?_, ?_, ?_⟩
  · exact (redirectToCallback_other .stderr nofun c l).trans hl.stderr
  · exact (redirectToCallback_other .logger nofun c l).trans hl.logger
  · exact (redirectToCallback_other .syslog nofun c l).trans hl.syslog
  · exact (redirectToCallback_other .ostream nofun c l).trans hl.ostream
  · exact (redirectToCallback_msgOstream c l).trans hl.msgOstream
  · exact redirectToCallback_msgCallback c l
  · rw [redirectToCallback_flag, hl.msgCallback]
    rfl

/-- **The step lemma.** -/
theorem redirect_recorded {h : History σ κ} {l : LogMsg σ κ} (hl : Recorded h l) (call : Call σ κ) :
    Recorded (h.note call) (redirect l call) := by
  cases call with
  | stderr => exact redirectToStderr_recorded hl
  | oStream s => exact redirectToOStream_recorded hl (.caller s)
  | file name isOpen => exact redirectToFile_recorded hl name isOpen
  | syslog opening => exact redirectToSyslog_recorded hl opening
  | daemon opening => exact redirectToDaemon_recorded hl opening
  | callback c => exact redirectToCallback_recorded hl c

/-- **The run lemma.**  After every sequence of calls the log is in the state that its history leads to. -/
theorem logAfter_recorded (calls : List (Call σ κ)) : Recorded (historyOf calls) (logAfter calls) := by
  induction calls using List.reverseRecOn with
  | nil => exact start_recorded
  | append_singleton calls call ih =>
    rw [historyOf, logAfter, List.foldl_concat, List.foldl_concat]
    exact redirect_recorded ih call

end AceSamples.LogManager
