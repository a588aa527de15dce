import AceSamples.LogManager

/-!
# Exclusive redirection

A redirection should replace the one before it.  Each member function clears the flags of some of the other
sinks only, and `RedirectToFile` leaves a closed stream behind.

* `ExclusiveAndLive` — a message goes to the destination chosen last and to no other chosen before;
* `NothingLeft` — the histories after which no earlier redirection, and no failed `open`, is still in effect;
* `exclusive_and_live_iff` — redirection is exclusive and live exactly after these histories;
* `main_not_exclusive` — the history of Trace6-Redirect itself is not one of them.

The proof compares, for each destination, what its flag says about the history with `NothingLeft`.
-/

set_option autoImplicit false

namespace AceSamples.LogManager

variable {σ κ : Type*}

/-- A message goes to the destination chosen last and to no other that was chosen earlier, and the stream or
file chosen last is open. -/
def ExclusiveAndLive (l : LogMsg σ κ) : List (Destination σ) → Prop
  | [] => True
  | last :: earlier =>
    l.writes last ∧ (∀ d ∈ earlier, d ≠ last → ¬l.writes d)
      ∧ (last.isStream = true → l.streamOpen = true)

/-- After `earlier`, the choice of `last` leaves no other destination in effect. -/
structure Replaces (fellBack : Bool) (last : Destination σ) (earlier : List (Destination σ)) : Prop where
  notFile : last.isFile = false
  syslog : .syslog ∈ earlier → last = .syslog
  opened : last = .syslog ∨ last = .daemon → ∀ d ∈ sinceStderr earlier, d = last
  fellBack : fellBack = true → .stderr ∈ earlier → last = .stderr

/-- No earlier redirection, and no failed `open`, is still in effect. -/
def NothingLeft (fellBack : Bool) : List (Destination σ) → Prop
  | [] => True
  | last :: earlier => Replaces fellBack last earlier

/-! ### What has been chosen since the last `RedirectToStderr` -/

theorem mem_of_mem_sinceStderr {d : Destination σ} {ds : List (Destination σ)} (hd : d ∈ sinceStderr ds) :
    d ∈ ds ∧ d ≠ .stderr := by
  induction ds with
  | nil => cases hd
  | cons e ds ih =>
    by_cases he : e = .stderr
    · subst he
      cases hd
    · rw [sinceStderr_cons he, List.mem_cons] at hd
      obtain rfl | hd := hd
      · exact ⟨List.mem_cons_self, he⟩
      · exact ⟨List.mem_cons_of_mem e (ih hd).1, (ih hd).2⟩

/-- The stream registered last is one of those chosen since then, if there are any. -/
theorem exists_registered {ds : List (Destination σ)} (h : ∃ d ∈ sinceStderr ds, d.isStream = true) :
    ∃ d ∈ sinceStderr ds, d.isStream = true ∧ (registered ds).map Stream.destination = some d := by
  induction ds with
  | nil =>
    obtain ⟨d, hd, _⟩ := h
    cases hd
  | cons e ds ih =>
    have htail : e.isStream = false → e ≠ .stderr → registered (e :: ds) = registered ds →
        ∃ d ∈ sinceStderr (e :: ds), d.isStream = true
          ∧ (registered (e :: ds)).map Stream.destination = some d := by
      intro he hne hreg
      rw [sinceStderr_cons hne] at h ⊢
      obtain ⟨d, hd, hstream⟩ := h
      have hds : d ∈ sinceStderr ds := by
        obtain rfl | hds := List.mem_cons.mp hd
        · rw [he] at hstream
          cases hstream
        · exact hds
      obtain ⟨d', hd', hstream', heq⟩ := ih ⟨d, hds, hstream⟩
      exact ⟨d', List.mem_cons_of_mem e hd', hstream', hreg ▸ heq⟩
    cases e with
    | stderr =>
      obtain ⟨d, hd, _⟩ := h
      cases hd
    | stream s => exact ⟨.stream s, List.mem_cons_self, rfl, rfl⟩
    | file name => exact ⟨.file name, List.mem_cons_self, rfl, rfl⟩
    | syslog => exact htail rfl nofun rfl
    | daemon => exact htail rfl nofun rfl

theorem mem_of_daemonLast {ds : List (Destination σ)} (h : daemonLast ds = true) :
    .daemon ∈ sinceStderr ds := by
  induction ds with
  | nil => cases h
  | cons e ds ih =>
    cases e with
    | daemon => exact List.mem_cons_self
    | syslog => exact List.mem_cons_of_mem _ (ih h)
    | stderr => cases h
    | stream s => cases h
    | file name => cases h

/-- Only a stream or a file takes the daemon's place. -/
theorem daemonLast_of_mem {ds : List (Destination σ)} (h : .daemon ∈ sinceStderr ds)
    (hnone : ∀ d ∈ sinceStderr ds, d.isStream = false) : daemonLast ds = true := by
  induction ds with
  | nil => cases h
  | cons e ds ih =>
    cases e with
    | daemon => rfl
    | syslog =>
      refine ih ?_ fun d hd => hnone d (List.mem_cons_of_mem _ hd)
      exact (List.mem_cons.mp h).resolve_left nofun
    | stderr => cases h
    | stream s => exact nomatch hnone _ List.mem_cons_self
    | file name => exact nomatch hnone _ List.mem_cons_self

/-! ### What a message is written to -/

theorem writes_stream {d : Destination σ} (hd : d.isStream = true) (l : LogMsg σ κ) :
    l.writes d ↔ .ostream ∈ l.flags ∧ l.msgOstream.map Stream.destination = some d := by
  cases d with
  | stream s => exact Iff.rfl
  | file name => exact Iff.rfl
  | stderr => cases hd
  | syslog => cases hd
  | daemon => cases hd

/-- While the `OSTREAM` flag is set, some stream or file chosen since the last `RedirectToStderr` is written
to. -/
theorem exists_writes_stream {h : History σ κ} {l : LogMsg σ κ} (hl : Recorded h l)
    (hstream : ∃ d ∈ sinceStderr h.chosen, d.isStream = true) :
    ∃ d ∈ sinceStderr h.chosen, d.isStream = true ∧ l.writes d := by
  obtain ⟨d, hd, hds, heq⟩ := exists_registered hstream
  exact ⟨d, hd, hds, (writes_stream hds l).mpr ⟨hl.ostream.mpr hstream, hl.msgOstream ▸ heq⟩⟩

/-- The destination chosen last is written to. -/
theorem writes_last {h : History σ κ} {l : LogMsg σ κ} (hl : Recorded h l) {last : Destination σ}
    {earlier : List (Destination σ)} (hc : h.chosen = last :: earlier) : l.writes last := by
  have hostream : last.isStream = true → .ostream ∈ l.flags := by
    intro hlast
    rw [hl.ostream, hc, sinceStderr_cons (by rintro rfl; cases hlast)]
    exact ⟨last, List.mem_cons_self, hlast⟩
  cases last with
  | stderr => exact hl.stderr.mpr (Or.inr (by rw [hc]; rfl))
  | syslog => exact hl.syslog.mpr (hc ▸ List.mem_cons_self)
  | daemon => exact hl.logger.mpr (by rw [hc]; rfl)
  | stream s => exact ⟨hostream rfl, by rw [hl.msgOstream, hc]; rfl⟩
  | file name => exact ⟨hostream rfl, by rw [hl.msgOstream, hc]; rfl⟩

/-- The registered stream is open unless it is the one that `RedirectToFile` has left behind. -/
theorem streamOpen_last {h : History σ κ} {l : LogMsg σ κ} (hl : Recorded h l) {last : Destination σ}
    {earlier : List (Destination σ)} (hc : h.chosen = last :: earlier) (hlast : last.isStream = true) :
    l.streamOpen = !last.isFile := by
  rw [LogMsg.streamOpen, hl.msgOstream, hc]
  cases last with
  | stream s => rfl
  | file name => rfl
  | stderr => cases hlast
  | syslog => cases hlast
  | daemon => cases hlast

/-! ### When redirection is exclusive -/

/-- After `Replaces` no stream chosen earlier is written to. -/
theorem Replaces.not_writes_stream {h : History σ κ} {l : LogMsg σ κ} (hl : Recorded h l)
    {last : Destination σ} {earlier : List (Destination σ)} (hc : h.chosen = last :: earlier)
    (hr : Replaces h.fellBack last earlier) {d : Destination σ} (hne : d ≠ last)
    (hd : d.isStream = true) : ¬l.writes d := by
  intro hw
  obtain ⟨hflag, hreg⟩ := (writes_stream hd l).mp hw
  rw [hl.msgOstream, hc] at hreg
  obtain ⟨e, he, hes⟩ := hl.ostream.mp hflag
  rw [hc] at he
  -- a stream behind syslog or the daemon contradicts `opened`
  have hopened : last = .syslog ∨ last = .daemon → False := by
    intro hlast
    rw [sinceStderr_cons (by obtain rfl | rfl := hlast <;> nofun)] at he
    have hel : e = last := (List.mem_cons.mp he).elim id (hr.opened hlast e)
    subst hel
    obtain rfl | rfl := hlast <;> cases hes
  cases last with
  | stderr => cases he
  | stream s => exact hne (Option.some.inj hreg).symm
  | file name => exact nomatch hr.notFile
  | syslog => exact hopened (Or.inl rfl)
  | daemon => exact hopened (Or.inr rfl)

/-- After `Replaces` nothing chosen earlier is written to. -/
theorem Replaces.not_writes {h : History σ κ} {l : LogMsg σ κ} (hl : Recorded h l) {last : Destination σ}
    {earlier : List (Destination σ)} (hc : h.chosen = last :: earlier)
    (hr : Replaces h.fellBack last earlier) {d : Destination σ} (hd : d ∈ earlier) (hne : d ≠ last) :
    ¬l.writes d := by
  intro hw
  cases d with
  | stderr =>
    have hstderr := hl.stderr.mp hw
    rw [hc] at hstderr
    exact hne.symm (hstderr.elim (fun hf => hr.fellBack hf hd) id)
  | syslog => exact hne.symm (hr.syslog hd)
  | daemon =>
    have hdaemon := hl.logger.mp hw
    rw [hc] at hdaemon
    cases last with
    | syslog => exact nomatch hr.opened (Or.inl rfl) _ (mem_of_daemonLast hdaemon)
    | daemon => exact hne rfl
    | stderr => cases hdaemon
    | stream s => cases hdaemon
    | file name => cases hdaemon
  | stream s => exact hr.not_writes_stream hl hc hne rfl hw
  | file name => exact hr.not_writes_stream hl hc hne rfl hw

/-- Behind syslog or the daemon, a stream chosen since the last `RedirectToStderr` would be written to. -/
theorem notStream_of_not_writes {h : History σ κ} {l : LogMsg σ κ} (hl : Recorded h l)
    {last : Destination σ} {earlier : List (Destination σ)} (hc : h.chosen = last :: earlier)
    (hlast : last = .syslog ∨ last = .daemon) (hnone : ∀ d ∈ earlier, d ≠ last → ¬l.writes d) :
    ∀ d ∈ sinceStderr earlier, d.isStream = false := by
  have hchosen : sinceStderr h.chosen = last :: sinceStderr earlier := by
    rw [hc, sinceStderr_cons (by obtain rfl | rfl := hlast <;> nofun)]
  intro d hd
  rw [← Bool.not_eq_true]
  intro hds
  obtain ⟨e, he, hes, hw⟩ := exists_writes_stream hl ⟨d, hchosen ▸ List.mem_cons_of_mem _ hd, hds⟩
  have hne : e ≠ last := by
    intro heq
    subst heq
    obtain rfl | rfl := hlast <;> cases hes
  rw [hchosen] at he
  exact hnone e (mem_of_mem_sinceStderr ((List.mem_cons.mp he).resolve_left hne)).1 hne hw

/-- If no earlier destination is written to, nothing of them is left in effect. -/
theorem replaces_of_not_writes {h : History σ κ} {l : LogMsg σ κ} (hl : Recorded h l)
    {last : Destination σ} {earlier : List (Destination σ)} (hc : h.chosen = last :: earlier)
    (hfile : last.isFile = false) (hnone : ∀ d ∈ earlier, d ≠ last → ¬l.writes d) :
    Replaces h.fellBack last earlier := by
  have hsyslog : .syslog ∈ earlier → last = .syslog := by
    intro hmem
    by_contra hne
    refine hnone .syslog hmem (Ne.symm hne) (hl.syslog.mpr ?_)
    rw [hc]
    exact List.mem_cons_of_mem _ hmem
  refine ⟨hfile, hsyslog, ?_, ?_⟩
  · intro hlast d hd
    have hnotStream := notStream_of_not_writes hl hc hlast hnone
    obtain ⟨hmem, hne⟩ := mem_of_mem_sinceStderr hd
    cases d with
    | stderr => exact absurd rfl hne
    | stream s => exact nomatch hnotStream _ hd
    | file name => exact nomatch hnotStream _ hd
    | syslog => exact (hsyslog hmem).symm
    | daemon =>
      obtain rfl | rfl := hlast
      · -- the flag of the daemon is still set behind syslog
        refine absurd (hl.logger.mpr ?_) (hnone .daemon hmem nofun)
        rw [hc]
        show daemonLast earlier = true
        exact daemonLast_of_mem hd hnotStream
      · rfl
  · intro hfell hmem
    by_contra hne
    exact hnone .stderr hmem (Ne.symm hne) (hl.stderr.mpr (Or.inl hfell))

theorem exclusiveAndLive_cons {h : History σ κ} {l : LogMsg σ κ} (hl : Recorded h l)
    {last : Destination σ} {earlier : List (Destination σ)} (hc : h.chosen = last :: earlier) :
    ExclusiveAndLive l (last :: earlier) ↔ Replaces h.fellBack last earlier := by
  constructor
  · intro hboth
    obtain ⟨_, hnone, hopen⟩ := hboth
    refine replaces_of_not_writes hl hc ?_ hnone
    rw [← Bool.not_eq_true]
    intro hfile
    have hstream : last.isStream = true := by
      cases last <;> first | rfl | cases hfile
    have hclosed := streamOpen_last hl hc hstream
    rw [hopen hstream, hfile] at hclosed
    cases hclosed
  · intro hr
    refine ⟨writes_last hl hc, fun d hd hne => hr.not_writes hl hc hd hne, ?_⟩
    intro hstream
    rw [streamOpen_last hl hc hstream, hr.notFile]
    rfl

/-- **Redirection is exclusive and live exactly when nothing is left of what was chosen before**: after every
sequence of calls, whose `open`s may fail.  A file that cannot be opened never changes the log. -/
theorem exclusive_and_live_iff (calls : List (Call σ κ)) :
    ExclusiveAndLive (logAfter calls) (historyOf calls).chosen
        ∧ (∀ name, redirectToFile name false (logAfter calls) = logAfter calls)
      ↔ NothingLeft (historyOf calls).fellBack (historyOf calls).chosen := by
  have hunopened : ∀ name, redirectToFile name false (logAfter calls) = logAfter calls := fun _ => rfl
  rw [and_iff_left hunopened]
  have hl := logAfter_recorded calls
  cases hc : (historyOf calls).chosen with
  | nil => exact Iff.rfl
  | cons last earlier => exact exclusiveAndLive_cons hl hc

/-! ### Trace6-Redirect -/

/-- The redirections that `foo` of Trace6-Redirect makes. -/
def foo (isOpen : Bool) : List (Call σ κ) := [.file "log.txt" isOpen]

/-- The redirections that `main` of Trace6-Redirect makes, in order. -/
def main (syslog : Opening) (isOpen : Bool) (daemon : Opening) : List (Call σ κ) :=
  [.stderr, .syslog syslog] ++ foo isOpen ++ [.daemon daemon]

/-- When everything can be opened, the last message of the program goes to the daemon, to syslog and to the
closed file. -/
theorem main_not_exclusive :
    ¬ExclusiveAndLive (logAfter (main .opened true .opened : List (Call ℕ ℕ)))
      (historyOf (main .opened true .opened : List (Call ℕ ℕ))).chosen := by
  intro hboth
  obtain ⟨_, hnone, _⟩ := hboth
  exact hnone .syslog (by decide) (by decide) (by decide)

end AceSamples.LogManager
