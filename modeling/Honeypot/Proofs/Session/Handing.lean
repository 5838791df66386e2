import Honeypot.Proofs.Session.Moves

/-!
# What a session hands on

The events of a session pass through the work that it hands on: they are told at once or wait to be
told. Where work is taken and there is a sink, `handed` grows by exactly the events that are handed
on, one after the other.
-/

namespace Honeypot

def Task.event? : Task → Option Events.Record
  | .emit r => some r
  | .lookUp => none

namespace Station

variable {τ : Type}

/-- All events that the sink was told of or is going to be told of, the first one first. -/
def handed (s : Station τ) : List Events.Record :=
  (s.sink?.map Sink.told).getD [] ++ s.queue.filterMap fun job => job.task.event?

/-- Whether every event finds its way to a sink. -/
structure Listening (s : Station τ) : Prop where
  sink : s.sink?.isSome = true
  taken : s.pool ≠ .shut
  /-- Nothing waits where work is done at once. -/
  prompt : s.pool = .atOnce → s.queue = []

theorem Listening.congr {s t : Station τ} (h : s.Listening)
    (hsink : t.sink?.isSome = s.sink?.isSome) (hpool : t.pool = s.pool)
    (hqueue : t.queue = s.queue) : t.Listening := by
  refine ⟨hsink.trans h.sink, hpool ▸ h.taken, ?_⟩
  intro hprompt
  rw [hqueue]
  exact h.prompt (hpool ▸ hprompt)

end Station

theorem Sink.told_tell (k : Sink) (now : Calendar.Reading) (r : Events.Record) :
    (k.tell now r).1.told = k.told ++ [r] := by
  unfold Sink.tell
  cases k.medium <;> rfl

/-! ## Events that are handed on -/

namespace Scene

variable {τ : Type} [Clock τ] {c : Scene τ}

/-- What is true of a scene after the session has handed on some events and nothing else. -/
structure Hands (c : Scene τ) (events : List Events.Record) (d : Scene τ) : Prop where
  session : d.session = { c.session with pending := d.session.pending }
  listening : d.station.Listening
  handed : d.station.handed = c.station.handed ++ events

/-- An event that is told at once reaches the sink. -/
theorem handed_carryOut (h : c.station.Listening) (hqueue : c.station.queue = [])
    (number : Nat) (r : Events.Record) :
    (c.carryOut number (.emit r)).station.Listening ∧
      (c.carryOut number (.emit r)).station.handed = c.station.handed ++ [r] := by
  obtain ⟨k, hk⟩ := Option.isSome_iff_exists.mp h.sink
  have htell : c.station.tell r =
      ({ c.station with sink? := some (k.tell c.station.reading r).1 },
        (k.tell c.station.reading r).2) := by
    unfold Station.tell
    rw [hk]
  have hlistening : (c.station.tell r).1.Listening := by
    rw [htell]
    exact h.congr h.sink.symm rfl rfl
  have hhanded : (c.station.tell r).1.handed = c.station.handed ++ [r] := by
    rw [htell]
    unfold Station.handed
    rw [hqueue, hk]
    show (k.tell c.station.reading r).1.told ++ [] = (k.told ++ []) ++ [r]
    rw [Sink.told_tell, List.append_nil, List.append_nil]
  unfold carryOut perform
  dsimp only
  split
  · exact ⟨hlistening, hhanded⟩
  · exact ⟨hlistening.congr rfl rfl rfl, hhanded⟩

/-- **Work that tells of an event hands on just this event.** -/
theorem hands_submit (h : c.station.Listening) (r : Events.Record) :
    c.Hands [r] (c.submit (.emit r)) := by
  have hstation : (c.submit (.emit r)).station.Listening ∧
      (c.submit (.emit r)).station.handed = c.station.handed ++ [r] := by
    unfold submit
    cases hpool : c.station.pool with
    | shut => exact absurd hpool h.taken
    | later =>
      refine ⟨⟨h.sink, h.taken, fun hnow => ?_⟩, ?_⟩
      · cases hpool.symm.trans hnow
      · show _ ++ (c.station.queue ++ [_]).filterMap _ = _
        rw [List.filterMap_append]
        exact (List.append_assoc _ _ _).symm
    | atOnce =>
      have hcounted : ({ c.station with jobs := c.station.jobs + 1 } : Station τ).Listening :=
        h.congr rfl rfl rfl
      exact handed_carryOut (c := { c with station.jobs := c.station.jobs + 1 }) hcounted
        (h.prompt hpool) c.station.jobs r
  exact ⟨session_submit_emit c r, hstation.1, hstation.2⟩

/-- The event of a kind with some values that a session tells of. -/
def record (c : Scene τ) (kind : Events.Kind) (fields : List (String × Json)) : Events.Record :=
  ⟨kind, c.session.heading ++ fields⟩

/-- A session that is open, or that tells of its end, hands on what it tells of. -/
theorem hands_emit (h : c.station.Listening) (kind : Events.Kind)
    (hopen : c.session.closing = false ∨ kind = .disconnect) (fields : List (String × Json)) :
    c.Hands [c.record kind fields] (c.emit kind fields) := by
  unfold emit
  rw [if_neg]
  · exact hands_submit h _
  · rintro hsilent
    rw [Bool.or_eq_true, Bool.and_eq_true, bne_iff_ne] at hsilent
    obtain hsink | ⟨hclosing, hkind⟩ := hsilent
    · rw [Option.isNone_iff_eq_none] at hsink
      have hsome := h.sink
      rw [hsink] at hsome
      cases hsome
    · obtain hopen | hopen := hopen
      · rw [hopen] at hclosing
        cases hclosing
      · exact hkind hopen

theorem emit_of_closing (h : c.session.closing = true) {kind : Events.Kind}
    (hkind : kind ≠ .disconnect) (fields : List (String × Json)) : c.emit kind fields = c := by
  unfold emit
  rw [h, Bool.true_and, bne_iff_ne.mpr hkind, Bool.or_true]
  rfl

end Scene
end Honeypot
