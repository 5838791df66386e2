import Honeypot.Proofs.Session.Handing

/-!
# The events of a session from its admission on

An admitted session is ongoing until it is closed for the first time, and over from then on. What
one move hands on is said by `advance_move`, what one deed hands on by `advance_after`; over a whole
course of deeds the events begin with one of a connection and end, once the session is over, with
one of its end.
-/

namespace Honeypot

open Events (Record)

/-! ## Kinds of events -/

/-- An event between the beginning and the end of a session. -/
def Events.Record.IsBetween (r : Record) : Prop := r.kind ≠ .connection ∧ r.kind ≠ .disconnect

/-- The event of the end of a session for a reason. -/
def Events.Record.IsEnd (r : Record) (reason : String) : Prop :=
  r.kind = .disconnect ∧ r.fields.lookup "reason" = some (.text reason)

namespace Scene

variable {τ : Type} {c d e : Scene τ} {R : String → Prop}

/-! ## Sessions that are ongoing or over -/

/-- An admitted session that nobody has closed. -/
structure Ongoing (c : Scene τ) : Prop where
  listening : c.station.Listening
  admitted : c.session.admitted = true
  closing : c.session.closing = false
  closed : c.session.closed = false

/-- A session that was closed for a reason. -/
structure Over (c : Scene τ) (reason : String) : Prop where
  listening : c.station.Listening
  closing : c.session.closing = true
  closed : c.session.closed = true
  reason : c.session.reason? = some reason

/-- What becomes of a session: an ongoing one goes on with some events or ends with an event of its
end, and one that is over stays so in silence. -/
structure Advance (R : String → Prop) (c d : Scene τ) : Prop where
  ongoing : c.Ongoing →
    (d.Ongoing ∧ ∃ events, (∀ r ∈ events, r.IsBetween) ∧
      d.station.handed = c.station.handed ++ events) ∨
    ∃ reason, R reason ∧ d.Over reason ∧ ∃ events last, (∀ r ∈ events, r.IsBetween) ∧
      last.IsEnd reason ∧ d.station.handed = c.station.handed ++ (events ++ [last])
  finished : ∀ reason, c.Over reason → d.Over reason ∧ d.station.handed = c.station.handed

theorem Advance.refl (c : Scene τ) : Advance R c c where
  ongoing h := .inl ⟨h, [], nofun, (List.append_nil _).symm⟩
  finished _ h := ⟨h, rfl⟩

theorem Advance.trans (hcd : Advance R c d) (hde : Advance R d e) : Advance R c e where
  ongoing h := by
    obtain ⟨hd, first, hfirst, hhanded⟩ |
      ⟨reason, hreason, hd, first, last, hfirst, hlast, hhanded⟩ := hcd.ongoing h
    · obtain ⟨he, more, hmore, hhanded'⟩ |
        ⟨reason, hreason, he, more, last, hmore, hlast, hhanded'⟩ := hde.ongoing hd
      · refine .inl ⟨he, first ++ more, ?_, ?_⟩
        · exact List.forall_mem_append.mpr ⟨hfirst, hmore⟩
        · rw [hhanded', hhanded, List.append_assoc]
      · refine .inr ⟨reason, hreason, he, first ++ more, last, ?_, hlast, ?_⟩
        · exact List.forall_mem_append.mpr ⟨hfirst, hmore⟩
        · rw [hhanded', hhanded, List.append_assoc, List.append_assoc]
    · obtain ⟨he, hhanded'⟩ := hde.finished reason hd
      exact .inr ⟨reason, hreason, he, first, last, hfirst, hlast, hhanded'.trans hhanded⟩
  finished reason h := by
    obtain ⟨hd, hhanded⟩ := hcd.finished reason h
    obtain ⟨he, hhanded'⟩ := hde.finished reason hd
    exact ⟨he, hhanded'.trans hhanded⟩

/-! ## What goes on elsewhere -/

/-- What goes on outside a session, which may be anything as long as events find their way to a
sink and nobody but the session itself closes it. -/
structure Elsewhere (c d : Scene τ) : Prop where
  listening : d.station.Listening
  admitted : d.session.admitted = c.session.admitted
  closing : d.session.closing = c.session.closing
  closed : d.session.closed = c.session.closed
  reason : d.session.reason? = c.session.reason?

theorem Elsewhere.ongoing (h : c.Elsewhere d) (hc : c.Ongoing) : d.Ongoing :=
  ⟨h.listening, h.admitted.trans hc.admitted, h.closing.trans hc.closing,
    h.closed.trans hc.closed⟩

theorem Elsewhere.finished (h : c.Elsewhere d) {reason : String} (hc : c.Over reason) :
    d.Over reason :=
  ⟨h.listening, h.closing.trans hc.closing, h.closed.trans hc.closed, h.reason.trans hc.reason⟩

/-! ## What changes nothing of note -/

/-- What has become of a session that was neither ended nor told of anything. -/
structure Aside (c d : Scene τ) : Prop where
  listening : c.station.Listening → d.station.Listening
  admitted : d.session.admitted = c.session.admitted
  closing : d.session.closing = c.session.closing
  closed : d.session.closed = c.session.closed
  reason : d.session.reason? = c.session.reason?
  handed : d.station.handed = c.station.handed

namespace Aside

theorem refl (c : Scene τ) : c.Aside c := ⟨id, rfl, rfl, rfl, rfl, rfl⟩

theorem trans (hcd : c.Aside d) (hde : d.Aside e) : c.Aside e where
  listening h := hde.listening (hcd.listening h)
  admitted := hde.admitted.trans hcd.admitted
  closing := hde.closing.trans hcd.closing
  closed := hde.closed.trans hcd.closed
  reason := hde.reason.trans hcd.reason
  handed := hde.handed.trans hcd.handed

theorem elsewhere (h : c.Aside d) (hlistening : c.station.Listening) : c.Elsewhere d :=
  ⟨h.listening hlistening, h.admitted, h.closing, h.closed, h.reason⟩

theorem ongoing (h : c.Aside d) (hc : c.Ongoing) : d.Ongoing :=
  (h.elsewhere hc.listening).ongoing hc

theorem ended (h : c.Aside d) {reason : String} (hc : c.Over reason) : d.Over reason :=
  (h.elsewhere hc.listening).finished hc

theorem advance (h : c.Aside d) : Advance R c d where
  ongoing hc := .inl ⟨h.ongoing hc, [], nofun, h.handed.trans (List.append_nil _).symm⟩
  finished _ hc := ⟨h.ended hc, h.handed⟩

end Aside

/-- What has become of a session that was neither ended nor told of anything, and whose lines were
not counted nor its measurements given up. -/
structure Quiet (c d : Scene τ) : Prop where
  aside : c.Aside d
  commands : d.session.commands = c.session.commands
  measured : d.station.metrics?.isSome = c.station.metrics?.isSome

namespace Quiet

theorem refl (c : Scene τ) : c.Quiet c := ⟨.refl c, rfl, rfl⟩

theorem trans (hcd : c.Quiet d) (hde : d.Quiet e) : c.Quiet e :=
  ⟨hcd.aside.trans hde.aside, hde.commands.trans hcd.commands, hde.measured.trans hcd.measured⟩

end Quiet

theorem quiet_session {s : Session τ} (h : c.session.SameBut s)
    (hcommands : s.commands = c.session.commands) : c.Quiet { c with session := s } := by
  refine ⟨⟨id, ?_, ?_, ?_, ?_, rfl⟩, hcommands, rfl⟩
  · rw [h]
  · rw [h]
  · rw [h]
  · rw [h]

theorem quiet_logIn (c : Scene τ) (user : String) : c.Quiet (c.logIn user) := by
  unfold logIn
  split
  · exact .refl c
  · exact ⟨⟨id, rfl, rfl, rfl, rfl, rfl⟩, rfl, rfl⟩

theorem quiet_measure (c : Scene τ) (f : Metrics.Collector → Metrics.Collector) :
    c.Quiet (c.measure f) :=
  ⟨⟨(·.congr rfl rfl rfl), rfl, rfl, rfl, rfl, rfl⟩, rfl, Option.isSome_map⟩

theorem quiet_notePending (c : Scene τ) (number : Nat) : c.Quiet (c.notePending number) :=
  ⟨⟨id, rfl, rfl, rfl, rfl, rfl⟩, rfl, rfl⟩

theorem lookup_heading (s : Session τ) (fields : List (String × Json)) :
    (s.heading ++ fields).lookup "reason" = fields.lookup "reason" ∧
      (s.heading ++ fields).lookup "command_count" = fields.lookup "command_count" := by
  unfold Session.heading
  split <;> exact ⟨rfl, rfl⟩

theorem hangUp_eq (c : Scene τ) :
    c.hangUp = { c with session := { c.session with channel := c.hangUp.session.channel } } := by
  unfold hangUp
  split <;> rfl

/-- The events that were handed on between two moments. -/
def newly (c d : Scene τ) : List Record := d.station.handed.drop c.station.handed.length

theorem newly_eq {events : List Record} (h : d.station.handed = c.station.handed ++ events) :
    c.newly d = events := by
  unfold newly
  rw [h, List.drop_left]

/-! ## Moves -/

variable [Clock τ]

theorem quiet_touch (c : Scene τ) : c.Quiet c.touch := by
  unfold touch
  split
  · exact ⟨⟨id, rfl, rfl, rfl, rfl, rfl⟩, rfl, rfl⟩
  · exact .refl c

omit [Clock τ] in
theorem Hands.ongoing {events : List Record} (h : c.Hands events d) (hc : c.Ongoing) :
    d.Ongoing := by
  refine ⟨h.listening, ?_, ?_, ?_⟩
  · rw [h.session]
    exact hc.admitted
  · rw [h.session]
    exact hc.closing
  · rw [h.session]
    exact hc.closed

theorem advance_emit (c : Scene τ) {kind : Events.Kind} (beginning : kind ≠ .connection)
    (ending : kind ≠ .disconnect) (fields : List (String × Json)) :
    Advance R c (c.emit kind fields) where
  ongoing h := by
    have hhands := hands_emit h.listening kind (.inl h.closing) fields
    refine .inl ⟨hhands.ongoing h, [c.record kind fields], ?_, hhands.handed⟩
    exact List.forall_mem_singleton.mpr ⟨beginning, ending⟩
  finished reason h := by
    rw [emit_of_closing h.closing ending]
    exact ⟨h, rfl⟩

/-- Signing off an admitted session hands on the event of its end, with the number of lines that
were counted until then. -/
theorem over_signOff {reason : String} (h : c.Over reason)
    (hadmitted : c.session.admitted = true) :
    (c.signOff reason).Over reason ∧ ∃ last, last.IsEnd reason ∧
      last.fields.lookup "command_count" = some (.int c.session.commands) ∧
      (c.signOff reason).station.handed = c.station.handed ++ [last] := by
  have hleft : ({ c.station with
      registry := c.station.registry.leave c.session.id } : Station τ).Listening :=
    h.listening.congr rfl rfl rfl
  have hhands (fields : List (String × Json)) :=
    hands_emit (c := ⟨c.session, _⟩) hleft .disconnect (.inr rfl) fields
  unfold signOff
  rw [if_pos hadmitted]
  dsimp only
  refine ⟨⟨(hhands _).listening.congr rfl rfl rfl, ?_, ?_, ?_⟩, _, ⟨rfl, ?_⟩, ?_,
    (hhands _).handed⟩
  · show (Scene.emit _ _ _).session.closing = true
    rw [(hhands _).session]
    exact h.closing
  · show (Scene.emit _ _ _).session.closed = true
    rw [(hhands _).session]
    exact h.closed
  · show (Scene.emit _ _ _).session.reason? = some reason
    rw [(hhands _).session]
    exact h.reason
  · exact (lookup_heading _ _).1
  · exact (lookup_heading _ _).2

/-- Closing an ongoing session ends it and hands on the event of its end, with the number of lines
that were counted until then. -/
theorem over_ended (h : c.Ongoing) (reason : String) :
    (c.ended reason).Over reason ∧ ∃ last, last.IsEnd reason ∧
      last.fields.lookup "command_count" = some (.int c.session.commands) ∧
      (c.ended reason).station.handed = c.station.handed ++ [last] := by
  have hhang : (c.beginClosing reason).hangUp.Over reason := by
    rw [hangUp_eq]
    exact ⟨h.listening, rfl, rfl, rfl⟩
  have hadmitted : (c.beginClosing reason).hangUp.session.admitted = true := by
    rw [hangUp_eq]
    exact h.admitted
  have hstation : (c.beginClosing reason).hangUp.station = c.station := by
    rw [hangUp_eq]
    rfl
  have hcommands : (c.beginClosing reason).hangUp.session.commands = c.session.commands := by
    rw [hangUp_eq]
    rfl
  obtain ⟨hover, last, hlast, hcount, hhanded⟩ := over_signOff hhang hadmitted
  rw [hstation] at hhanded
  rw [hcommands] at hcount
  unfold ended close
  rw [if_neg (by rw [h.closing]; decide)]
  refine ⟨⟨hover.listening.congr rfl rfl rfl, hover.closing, hover.closed, hover.reason⟩, ?_⟩
  exact ⟨last, hlast, hcount, hhanded⟩

theorem advance_ended (c : Scene τ) {reason : String} (hreason : R reason) :
    Advance R c (c.ended reason) where
  ongoing h := by
    obtain ⟨hover, last, hlast, -, hhanded⟩ := over_ended h reason
    exact .inr ⟨reason, hreason, hover, [], last, nofun, hlast, hhanded⟩
  finished reason' h := by
    unfold ended
    rw [close_of_closing h.closing]
    exact ⟨h, rfl⟩

theorem advance_move (h : Move R c d) : Advance R c d := by
  cases h with
  | work hsession hstation _ =>
    have hlistening (h : c.station.Listening) : d.station.Listening := by
      rw [hstation]
      exact h.congr rfl rfl rfl
    refine Aside.advance ⟨hlistening, ?_, ?_, ?_, ?_, ?_⟩
    · rw [hsession]
    · rw [hsession]
    · rw [hsession]
    · rw [hsession]
    · rw [hstation]
      rfl
  | touch => exact (quiet_touch c).aside.advance
  | logIn user => exact (quiet_logIn c user).aside.advance
  | measure f _ _ => exact (quiet_measure c f).aside.advance
  | tell kind fields beginning ending => exact advance_emit c beginning ending fields
  | finish reason hreason => exact advance_ended c hreason

theorem advance_moves (h : Moves R c d) : Advance R c d := by
  induction h with
  | refl => exact .refl c
  | tail _ hmove ih => exact ih.trans (advance_move hmove)

theorem advance_after (c : Scene τ) (deed : Deed) : Advance (c.MayEnd deed) c (c.after deed) :=
  advance_moves (moves_after c deed)

/-! ## Admission -/

theorem lookUp_keeps (s : Station τ) (ip : String) :
    (s.lookUp ip).1.pool = s.pool ∧ (s.lookUp ip).1.queue = s.queue ∧
      (s.lookUp ip).1.sink? = s.sink? ∧ (s.lookUp ip).1.metrics? = s.metrics? := by
  unfold Station.lookUp
  split
  · exact ⟨rfl, rfl, rfl, rfl⟩
  · exact ⟨rfl, rfl, rfl, rfl⟩

theorem quiet_carryOut_lookUp (c : Scene τ) (number : Nat) :
    c.Quiet (c.carryOut number .lookUp) := by
  have hkeeps := lookUp_keeps c.station c.session.peerIp
  unfold carryOut perform
  dsimp only
  revert hkeeps
  rcases c.station.lookUp c.session.peerIp with ⟨station, facts⟩
  rintro ⟨hpool, hqueue, hsink, hmetrics⟩
  have hlistening (h : c.station.Listening) : station.Listening :=
    h.congr (congrArg Option.isSome hsink) hpool hqueue
  have hhanded : station.handed = c.station.handed := by
    unfold Station.handed
    rw [show station.sink? = _ from hsink, show station.queue = _ from hqueue]
  have hmeasured : station.metrics?.isSome = c.station.metrics?.isSome :=
    congrArg Option.isSome hmetrics
  match facts with
  | .ok [] => exact ⟨⟨hlistening, rfl, rfl, rfl, rfl, hhanded⟩, rfl, hmeasured⟩
  | .ok (fact :: facts) => exact ⟨⟨hlistening, rfl, rfl, rfl, rfl, hhanded⟩, rfl, hmeasured⟩
  | .error _ =>
    refine ⟨⟨fun h => ?_, rfl, rfl, rfl, rfl, hhanded⟩, rfl, hmeasured⟩
    exact (hlistening h).congr rfl rfl rfl

theorem quiet_submit_lookUp (c : Scene τ) : c.Quiet (c.submit .lookUp) := by
  unfold submit
  cases hpool : c.station.pool with
  | shut => exact .refl c
  | later =>
    refine ⟨⟨fun h => ⟨h.sink, h.taken, fun hnow => ?_⟩, rfl, rfl, rfl, rfl, ?_⟩, rfl, rfl⟩
    · cases hpool.symm.trans hnow
    · show _ ++ (c.station.queue ++ [_]).filterMap _ = _
      rw [List.filterMap_append]
      exact congrArg _ (List.append_nil _)
  | atOnce =>
    have hcounted : c.Quiet { c with station.jobs := c.station.jobs + 1 } :=
      ⟨⟨(·.congr rfl rfl rfl), rfl, rfl, rfl, rfl, rfl⟩, rfl, rfl⟩
    refine (hcounted.trans (quiet_carryOut_lookUp _ c.station.jobs)).trans ?_
    exact quiet_notePending _ c.station.jobs

theorem quiet_settleIn (c : Scene τ) : c.Quiet c.settleIn := by
  have hasked : c.Quiet (if c.station.lookups?.isSome then c.submit .lookUp else c) := by
    split
    · exact quiet_submit_lookUp c
    · exact .refl c
  unfold settleIn
  dsimp only
  generalize (if c.station.lookups?.isSome then c.submit .lookUp else c) = d at hasked
  refine (hasked.trans (quiet_touch d)).trans ?_
  split
  · exact ⟨⟨id, rfl, rfl, rfl, rfl, rfl⟩, rfl, rfl⟩
  · exact .refl _

/-- Serving a peer hands on the event of its connection. -/
theorem ongoing_serve (hlistening : c.station.Listening) (hclosing : c.session.closing = false)
    (hclosed : c.session.closed = false) (registry : Registry) :
    (c.serve registry).Ongoing ∧ ∃ opening, opening.kind = .connection ∧
      (c.serve registry).station.handed = c.station.handed ++ [opening] := by
  have hplaced : (c.placed registry).station.Listening := hlistening.congr rfl rfl rfl
  have hopened := hands_emit hplaced .connection (.inl hclosing) []
  have hongoing : (c.placed registry).Ongoing := ⟨hplaced, rfl, hclosing, hclosed⟩
  have hsettled := (quiet_settleIn ((c.placed registry).emit .connection [])).aside
  rw [serve_eq]
  refine ⟨hsettled.ongoing (hopened.ongoing hongoing), (c.placed registry).record .connection [],
    rfl, ?_⟩
  rw [hsettled.handed, hopened.handed]
  rfl

/-! ## Whole courses -/

/-- The course of a session from its admission on, with all events that it hands on. -/
inductive Course (c : Scene τ) : List Record → Scene τ → Prop
  | admitted {d : Scene τ} (h : c.arrive = (true, d)) : Course c (c.newly d) d
  | deed {told : List Record} {d : Scene τ} (h : Course c told d) (deed : Deed) :
    Course c (told ++ d.newly (d.after deed)) (d.after deed)
  | elsewhere {told : List Record} {d e : Scene τ} (h : Course c told d) (he : d.Elsewhere e) :
    Course c told e

theorem exists_of_arrive (h : c.arrive = (true, d)) : ∃ registry, d = c.serve registry := by
  unfold arrive at h
  dsimp only at h
  split at h
  · cases h
  · split at h
    · cases h
    · next registry _ => exact ⟨registry, (Prod.mk.inj h).2.symm⟩

/-- The events of a course begin with one of a connection and end with one of the end of the
session, if it is over. -/
theorem told_of_course {told : List Record} (hlistening : c.station.Listening)
    (hclosing : c.session.closing = false) (hclosed : c.session.closed = false)
    (h : Course c told d) :
    ∃ opening events, opening.kind = .connection ∧ (∀ r ∈ events, r.IsBetween) ∧
      (d.Ongoing ∧ told = opening :: events ∨
        ∃ reason last, d.Over reason ∧ last.IsEnd reason ∧
          told = opening :: (events ++ [last])) := by
  induction h with
  | admitted h =>
    obtain ⟨registry, rfl⟩ := exists_of_arrive h
    obtain ⟨hserved, opening, hopening, hhanded⟩ :=
      ongoing_serve hlistening hclosing hclosed registry
    exact ⟨opening, [], hopening, nofun, .inl ⟨hserved, newly_eq hhanded⟩⟩
  | @deed told d h deed ih =>
    obtain ⟨opening, events, hopening, hevents, ⟨hd, rfl⟩ | ⟨reason, last, hd, hlast, rfl⟩⟩ := ih
    · obtain ⟨hafter, more, hmore, hhanded⟩ |
        ⟨reason, _, hafter, more, last, hmore, hlast, hhanded⟩ :=
        (advance_after d deed).ongoing hd
      · refine ⟨opening, events ++ more, hopening, ?_, .inl ⟨hafter, ?_⟩⟩
        · exact List.forall_mem_append.mpr ⟨hevents, hmore⟩
        · rw [newly_eq hhanded]
          rfl
      · refine ⟨opening, events ++ more, hopening, ?_, .inr ⟨reason, last, hafter, hlast, ?_⟩⟩
        · exact List.forall_mem_append.mpr ⟨hevents, hmore⟩
        · rw [newly_eq hhanded, List.append_assoc]
          rfl
    · obtain ⟨hafter, hhanded⟩ := (advance_after d deed).finished reason hd
      refine ⟨opening, events, hopening, hevents, .inr ⟨reason, last, hafter, hlast, ?_⟩⟩
      rw [newly_eq (hhanded.trans (List.append_nil _).symm), List.append_nil]
  | elsewhere _ he ih =>
    obtain ⟨opening, events, hopening, hevents,
      ⟨hd, htold⟩ | ⟨reason, last, hd, hlast, htold⟩⟩ := ih
    · exact ⟨opening, events, hopening, hevents, .inl ⟨he.ongoing hd, htold⟩⟩
    · exact ⟨opening, events, hopening, hevents, .inr ⟨reason, last, he.finished hd, hlast, htold⟩⟩

/-- What a deed hands on is added to what was handed on before. -/
theorem handed_after (h : d.Ongoing ∨ ∃ reason, d.Over reason) (deed : Deed) :
    (d.after deed).station.handed = d.station.handed ++ d.newly (d.after deed) := by
  have hadvance := advance_after d deed
  obtain h | ⟨reason, h⟩ := h
  · obtain ⟨_, events, _, hhanded⟩ | ⟨_, _, _, events, last, _, _, hhanded⟩ := hadvance.ongoing h
    · rw [newly_eq hhanded, hhanded]
    · rw [newly_eq hhanded, hhanded]
  · obtain ⟨_, hhanded⟩ := hadvance.finished reason h
    rw [newly_eq (hhanded.trans (List.append_nil _).symm), hhanded, List.append_nil]

/-- **The events of an admitted session**: one of its connection, then others, then exactly if the
session is closed one of its end, and nothing after that. The reason of the end is that of the
session, which is a reason of the deed that closed it, and no deed changes it any more. -/
theorem events_of_course {told : List Record} (hlistening : c.station.Listening)
    (hclosing : c.session.closing = false) (hclosed : c.session.closed = false)
    (h : Course c told d) :
    (∃ opening events, opening.kind = .connection ∧ (∀ r ∈ events, r.IsBetween) ∧
      (d.session.closed = false ∧ told = opening :: events ∨
        ∃ reason last, d.session.closed = true ∧ d.session.reason? = some reason ∧
          last.IsEnd reason ∧ told = opening :: (events ++ [last]))) ∧
    (∀ deed, (d.after deed).station.handed = d.station.handed ++ d.newly (d.after deed)) ∧
    (d.session.closed = false → ∀ deed, (d.after deed).session.closed = true →
      ∃ reason, d.MayEnd deed reason ∧ (d.after deed).session.reason? = some reason) ∧
    (d.session.closed = true → ∀ deed,
      (d.after deed).session.reason? = d.session.reason?) ∧
    ∀ reason, (d.after (.close reason)).session.closed = true := by
  obtain ⟨opening, events, hopening, hevents, hd⟩ :=
    told_of_course hlistening hclosing hclosed h
  obtain ⟨hd, htold⟩ | ⟨reason, last, hd, hlast, htold⟩ := hd
  · refine ⟨⟨opening, events, hopening, hevents, .inl ⟨hd.closed, htold⟩⟩,
      handed_after (.inl hd), ?_, ?_, ?_⟩
    · intro _ deed hended
      obtain ⟨hgoes, _⟩ | ⟨reason, hreason, hover, _⟩ := (advance_after d deed).ongoing hd
      · rw [hgoes.closed] at hended
        cases hended
      · exact ⟨reason, hreason, hover.reason⟩
    · intro hended
      rw [hd.closed] at hended
      cases hended
    · intro reason
      exact (over_ended hd reason).1.closed
  · refine ⟨⟨opening, events, hopening, hevents, .inr ⟨reason, last, hd.closed, hd.reason, hlast,
      htold⟩⟩, handed_after (.inr ⟨reason, hd⟩), ?_, ?_, ?_⟩
    · intro hopen
      rw [hd.closed] at hopen
      cases hopen
    · intro _ deed
      exact ((advance_after d deed).finished reason hd).1.reason.trans hd.reason.symm
    · intro reason'
      exact ((advance_after d (.close reason')).finished reason hd).1.closed

theorem events_of_course_example :
    exampleArrival.station.Listening ∧ exampleArrival.session.closing = false ∧
    exampleArrival.session.closed = false ∧
    ∃ told d, Course exampleArrival told d ∧ ∃ opening events, opening.kind = .connection ∧
      (∀ r ∈ events, r.IsBetween) ∧
      (d.session.closed = false ∧ told = opening :: events ∨
        ∃ reason last, d.session.closed = true ∧ d.session.reason? = some reason ∧
          last.IsEnd reason ∧ told = opening :: (events ++ [last])) := by
  have hlistening : exampleArrival.station.Listening := ⟨rfl, nofun, nofun⟩
  have hcourse := ((Course.admitted (c := exampleArrival) rfl).deed (.execute "id")).deed
    (.close "disconnect")
  exact ⟨hlistening, rfl, rfl, _, _, hcourse,
    (events_of_course hlistening rfl rfl hcourse).1⟩

end Scene
end Honeypot
