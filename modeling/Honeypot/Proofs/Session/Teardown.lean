import Honeypot.Proofs.Registry
import Honeypot.Proofs.Session.Lines
import Honeypot.Proofs.Session.Standing
import Honeypot.Proofs.Session.Telling

/-!
# The teardown of a session

Closing a session calls out to a channel, the registry, a sink, the pool and whoever wants to hear
of the end, all of which may fail. What becomes of the session (`endsAs_ended`) and of what it
shares with others (`loses_ended`) does not depend on that: every step is taken, and once.
-/

namespace Honeypot

/-- Whether a session is what another one comes to by its end. -/
def Session.EndsAs {τ : Type} (s : Session τ) (now : τ) (reason : String) (t : Session τ) :
    Prop :=
  t = { s with
    status := .closed, closing := true, closed := true
    stop? := some now, reason? := some reason
    channel := if s.attached then s.channel.close else s.channel
    workspace? := s.workspace?.map Workspace.cleared
    pending := t.pending }

/-- Whether a station is what another one comes to by the end of a session. -/
def Station.Loses {τ : Type} [Clock τ] (s : Station τ) (session : Session τ) (t : Station τ) :
    Prop :=
  t = { s with
    registry := s.registry.leave session.id
    metrics? := s.metrics?.map fun m =>
      m.ended (Number.roundTo 2 (Clock.seconds (s.now - session.start)))
    notices := s.notices ++ session.callbacks.map fun call => .ended call.label
    sink? := t.sink?, queue := t.queue, jobs := t.jobs, failures := t.failures }

namespace Scene

variable {τ : Type} [Clock τ] {c d e : Scene τ}

/-! ## Telling of an event -/

/-- Work that tells of an event changes nothing of the station but what events go through. -/
theorem station_submit_emit (c : Scene τ) (r : Events.Record) :
    (c.submit (.emit r)).station = { c.station with
      sink? := (c.submit (.emit r)).station.sink?, queue := (c.submit (.emit r)).station.queue
      jobs := (c.submit (.emit r)).station.jobs
      failures := (c.submit (.emit r)).station.failures } := by
  have htell (s : Station τ) : (s.tell r).1 = { s with sink? := (s.tell r).1.sink? } := by
    unfold Station.tell
    split <;> rfl
  unfold submit
  cases c.station.pool with
  | shut => rfl
  | later => rfl
  | atOnce =>
    unfold carryOut perform
    dsimp only
    split
    · show (Station.tell _ r).1 = _
      rw [htell]
      rfl
    · show ({ (Station.tell _ r).1 with failures := _ } : Station τ) = _
      rw [htell]
      rfl

theorem station_emit (c : Scene τ) (kind : Events.Kind) (fields : List (String × Json)) :
    (c.emit kind fields).station = { c.station with
      sink? := (c.emit kind fields).station.sink?, queue := (c.emit kind fields).station.queue
      jobs := (c.emit kind fields).station.jobs
      failures := (c.emit kind fields).station.failures } := by
  unfold emit
  split
  · rfl
  · exact station_submit_emit c _

/-! ## The end -/

theorem session_signOff (c : Scene τ) (reason : String) :
    (c.signOff reason).session =
      { c.session with pending := (c.signOff reason).session.pending } := by
  unfold signOff
  split
  · exact session_emit _ _ _
  · rfl

theorem station_signOff (hadmitted : c.session.admitted = true) (reason : String) :
    (c.signOff reason).station = { c.station with
      registry := c.station.registry.leave c.session.id
      metrics? := c.station.metrics?.map fun m =>
        m.ended (Number.roundTo 2 (Clock.seconds (c.session.duration c.station.now)))
      sink? := (c.signOff reason).station.sink?, queue := (c.signOff reason).station.queue
      jobs := (c.signOff reason).station.jobs
      failures := (c.signOff reason).station.failures } := by
  unfold signOff
  rw [if_pos hadmitted]
  show (Station.measure (Scene.emit _ _ _).station _) = _
  rw [station_emit]
  rfl

/-- **What becomes of a session by its end**, whatever fails. -/
theorem endsAs_ended (h : c.session.closing = false) (reason : String) :
    c.session.EndsAs c.station.now reason (c.ended reason).session := by
  have hsigned := session_signOff (c.beginClosing reason).hangUp reason
  have hhang : (c.beginClosing reason).hangUp.session =
      { (c.beginClosing reason).session with
        channel := if c.session.attached then c.session.channel.close else c.session.channel } := by
    unfold hangUp
    show (if c.session.attached then _ else _ : Scene τ).session = _
    split <;> rfl
  have hcleaned : (c.ended reason).session =
      (((c.beginClosing reason).hangUp.signOff reason).cleanUp).session := by
    rw [ended_eq, if_neg (Bool.eq_false_iff.mp h)]
  unfold Session.EndsAs
  rw [hcleaned]
  show ({ ((c.beginClosing reason).hangUp.signOff reason).session with
      workspace? := _, status := _ } : Session τ) = _
  rw [hsigned, hhang]
  rfl

/-- **What the others lose by the end of an admitted session**, whatever fails. -/
theorem loses_ended (h : c.session.closing = false) (hadmitted : c.session.admitted = true)
    (reason : String) : c.station.Loses c.session (c.ended reason).station := by
  have hhang := hangUp_eq (c.beginClosing reason)
  have hadmitted' : (c.beginClosing reason).hangUp.session.admitted = true := by
    rw [hhang]
    exact hadmitted
  have hsigned := station_signOff hadmitted' reason
  have hkept := session_signOff (c.beginClosing reason).hangUp reason
  have hcleaned : (c.ended reason).station =
      (((c.beginClosing reason).hangUp.signOff reason).cleanUp).station := by
    rw [ended_eq, if_neg (Bool.eq_false_iff.mp h)]
  unfold Station.Loses
  rw [hcleaned]
  show ({ ((c.beginClosing reason).hangUp.signOff reason).station with
      notices := Callback.callAll _ _ } : Station τ) = _
  rw [Callback.callAll_eq, hsigned, hkept, hhang]
  rfl

theorem handed_signOff (hlistening : c.station.Listening)
    (hadmitted : c.session.admitted = true) (reason : String) :
    (c.signOff reason).station.Listening ∧ ∃ last, last.IsEnd reason ∧
      last.fields.lookup "session_id" = some (.text c.session.id) ∧
      (c.signOff reason).station.handed = c.station.handed ++ [last] := by
  have hleft : ({ c.station with
      registry := c.station.registry.leave c.session.id } : Station τ).Listening :=
    hlistening.congr rfl rfl rfl
  have hhands (fields : List (String × Json)) :=
    hands_emit (c := ⟨c.session, _⟩) hleft .disconnect (.inr rfl) fields
  unfold signOff
  rw [if_pos hadmitted]
  dsimp only
  refine ⟨(hhands _).listening.congr rfl rfl rfl, _, ⟨rfl, (lookup_heading _ _).1⟩, ?_,
    (hhands _).handed⟩
  rfl

/-- **The end of an admitted session is told of once**, where events find their way to a sink. -/
theorem handed_ended (hlistening : c.station.Listening) (h : c.session.closing = false)
    (hadmitted : c.session.admitted = true) (reason : String) :
    (c.ended reason).station.Listening ∧ ∃ last, last.IsEnd reason ∧
      last.fields.lookup "session_id" = some (.text c.session.id) ∧
      (c.ended reason).station.handed = c.station.handed ++ [last] := by
  have hhang := hangUp_eq (c.beginClosing reason)
  have hsigned := handed_signOff (c := (c.beginClosing reason).hangUp)
    (by rw [hhang]; exact hlistening) (by rw [hhang]; exact hadmitted) reason
  obtain ⟨hlistening', last, hlast, hid, hhanded⟩ := hsigned
  rw [ended_eq, if_neg (Bool.eq_false_iff.mp h)]
  refine ⟨hlistening'.congr rfl rfl rfl, last, hlast, ?_, hhanded.trans ?_⟩
  · rw [hid, hhang]
    rfl
  · rw [hhang]
    rfl

/-- What a session and its station are after a teardown that left nothing out. -/
structure TornDown (c : Scene τ) (reason : String) (d : Scene τ) : Prop where
  session : c.session.EndsAs c.station.now reason d.session
  cleared : ∀ w, d.session.workspace? = some w →
    w.files.overlay = [] ∧ w.files.removed = [] ∧ w.terminal = .fresh
  /-- The session has no place any more, and everybody else has the one from before. -/
  unregistered : ∀ id, d.station.registry.places.lookup id =
    if id = c.session.id then none else c.station.registry.places.lookup id
  /-- Everybody who wants to hear of the end did so, one after the other. -/
  told : d.station.notices =
    c.station.notices ++ c.session.callbacks.map fun call => .ended call.label

theorem tornDown_ended (h : c.session.closing = false) (hadmitted : c.session.admitted = true)
    (reason : String) : c.TornDown reason (c.ended reason) := by
  have hends := endsAs_ended h reason
  have hloses := loses_ended h hadmitted reason
  refine ⟨hends, ?_, ?_, ?_⟩
  · intro w hw
    rw [hends] at hw
    obtain ⟨_, _, rfl⟩ := Option.map_eq_some_iff.mp hw
    exact ⟨rfl, rfl, rfl⟩
  · intro id
    rw [hloses, ← Assoc.lookup_erase, ← Registry.places_leave]
  · rw [hloses]

/-! ## Sessions that were let in -/

/-- What may become of a session that was let in: it does its deeds, it may even arrive once more,
and everything around it changes, but nobody else lets it in or closes it. -/
inductive Later (c : Scene τ) : Scene τ → Prop
  | now : Later c c
  | deed {d : Scene τ} (before : Later c d) (deed : Deed) : Later c (d.after deed)
  | arrival {d : Scene τ} (before : Later c d) : Later c d.arrive.2
  | elsewhere {d e : Scene τ} (before : Later c d)
      (admitted : e.session.admitted = d.session.admitted)
      (closing : e.session.closing = d.session.closing)
      (closed : e.session.closed = d.session.closed) : Later c e

theorem admitted_after (c : Scene τ) (deed : Deed) :
    (c.after deed).session.admitted = c.session.admitted := by
  show (c.after deed).account.standing.admitted = c.account.standing.admitted
  have hfate := fate_after c deed
  revert hfate
  generalize (c.after deed).account = a
  intro hfate
  cases hfate <;> rfl

theorem admitted_arrive (h : c.session.admitted = true) :
    c.arrive.2.session.admitted = true := by
  show c.arrive.2.account.standing.admitted = true
  obtain ⟨_, verdict, _, haccount⟩ | ⟨_, registry, _, haccount⟩ := arrive_cases c
  · rw [haccount]
    exact h
  · rw [haccount]
    rfl

theorem shut_arrive (h : c.Shut) : c.arrive.2.Shut := by
  obtain ⟨_, verdict, _, haccount⟩ | ⟨_, registry, _, haccount⟩ := arrive_cases c
  · have hstanding := congrArg Account.standing haccount
    exact ⟨(congrArg Standing.closing hstanding).trans h.closing,
      congrArg Standing.closed hstanding⟩
  · have hstanding := congrArg Account.standing haccount
    exact ⟨(congrArg Standing.closing hstanding).trans h.closing,
      (congrArg Standing.closed hstanding).trans h.closed⟩

theorem Later.admitted (h : c.Later d) (hc : c.session.admitted = true) :
    d.session.admitted = true := by
  induction h with
  | now => exact hc
  | deed _ deed ih => exact (admitted_after _ deed).trans ih
  | arrival _ ih => exact admitted_arrive ih
  | elsewhere _ hadmitted _ _ ih => exact hadmitted.trans ih

theorem Later.shut (h : c.Later d) (hc : c.Shut) : d.Shut := by
  induction h with
  | now => exact hc
  | deed _ deed ih => exact shut_after ih deed
  | arrival _ ih => exact shut_arrive ih
  | elsewhere _ _ hclosing hclosed ih =>
    exact ⟨hclosing.trans ih.closing, hclosed.trans ih.closed⟩

/-- A session that was let in is closed once its end has begun. -/
theorem Later.closed_of_closing (h : c.Later d)
    (begun : c.session.closing = true → c.session.closed = true) :
    d.session.closing = true → d.session.closed = true := by
  induction h with
  | now => exact begun
  | @deed d _ deed ih =>
    change (d.after deed).account.standing.closing = true →
      (d.after deed).account.standing.closed = true
    have hfate := fate_after d deed
    revert hfate
    generalize (d.after deed).account = a
    intro hfate
    cases hfate with
    | same => exact ih
    | loggedIn _ => exact ih
    | ended _ => exact fun _ => rfl
  | @arrival d _ ih =>
    change d.arrive.2.account.standing.closing = true → d.arrive.2.account.standing.closed = true
    obtain ⟨_, verdict, _, haccount⟩ | ⟨_, registry, _, haccount⟩ := arrive_cases d
    · rw [haccount]
      exact fun _ => rfl
    · rw [haccount]
      exact ih
  | elsewhere _ _ hclosing hclosed ih =>
    rw [hclosing, hclosed]
    exact ih

theorem admitted_of_arrive (h : c.arrive = (true, d)) : d.session.admitted = true := by
  obtain ⟨hrefused, _⟩ | ⟨_, registry, _, haccount⟩ := arrive_cases c
  · rw [h] at hrefused
    cases hrefused
  · rw [h] at haccount
    exact congrArg (fun a => a.standing.admitted) haccount

/-- **The first closing of a session that was let in takes every step of the teardown**, and none
after it does anything. No step is left out because another one fails: the channel may fail to
close, the sink to keep the event of the end and the pool to take it, and so may any of those who
want to hear of the end. -/
theorem first_close_completes {c₀ c₁ : Scene τ} (admitted : c₀.arrive = (true, c₁))
    (later : c₁.Later c) (first : c.session.closing = false) (reason : String) :
    ∃ d, c.close reason = (true, d) ∧ c.TornDown reason d ∧
      ∀ e, d.Later e → ∀ reason', e.close reason' = (false, e) := by
  have hclose : c.close reason = (true, c.ended reason) := by
    unfold ended close
    rw [if_neg (Bool.eq_false_iff.mp first)]
  refine ⟨c.ended reason, hclose, ?_, ?_⟩
  · exact tornDown_ended first (later.admitted (admitted_of_arrive admitted)) reason
  · intro e he reason'
    exact close_of_closing (he.shut (shut_ended first reason)).closing reason'

/-- A peer that is let in and then meets with every failure there is. -/
def exampleFailing : Scene Int :=
  { exampleArrival.arrive.2 with
    session := { exampleArrival.arrive.2.session with
      attached := true
      channel := { Channel.fresh with failsToSend := true, failsToClose := true }
      callbacks := [⟨"first", true⟩, ⟨"second", false⟩, ⟨"third", true⟩] }
    station := { exampleArrival.arrive.2.station with
      pool := .atOnce, sink? := some ⟨.broken, []⟩ } }

theorem first_close_completes_example :
    exampleArrival.arrive = (true, exampleArrival.arrive.2) ∧
    exampleArrival.arrive.2.Later exampleFailing ∧ exampleFailing.session.closing = false ∧
    ∃ d, exampleFailing.close "disconnect" = (true, d) ∧
      exampleFailing.TornDown "disconnect" d ∧
      d.station.notices = [.ended "first", .ended "second", .ended "third"] := by
  have hlater : exampleArrival.arrive.2.Later exampleFailing := .elsewhere .now rfl rfl rfl
  have hopen : exampleArrival.arrive = (true, exampleArrival.arrive.2) := rfl
  obtain ⟨d, hclose, htorn, _⟩ := first_close_completes hopen hlater rfl "disconnect"
  exact ⟨hopen, hlater, rfl, d, hclose, htorn, htorn.told⟩

end Scene
end Honeypot
