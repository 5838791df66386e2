import Honeypot.Proofs.Session.Downloads
import Honeypot.Proofs.Session.Lines
import Honeypot.Proofs.Session.Telling

/-!
# Attempts to run a line

An attempt to run a line that begins in an open session is counted once: among the lines of the
session, among its events and among the measured outcomes. The one exception is an attempt during
which the session is closed: its line is in the number of lines that the event of the end tells,
and there is no event of the line itself (`Attempt.cases_of_ready`).
-/

namespace Honeypot

open Events (Record)

namespace Scene

variable {τ : Type}

/-! ## Measured sessions -/

/-- An admitted session that nobody has closed and that is measured. -/
structure Ready (c : Scene τ) : Prop where
  ongoing : c.Ongoing
  measured : c.station.metrics?.isSome = true

variable {c d e : Scene τ}

theorem Quiet.ready (h : c.Quiet d) (hc : c.Ready) : d.Ready :=
  ⟨h.aside.ongoing hc.ongoing, h.measured.trans hc.measured⟩

theorem Works.quiet (h : c.Works d) : c.Quiet d := by
  have hlistening (hc : c.station.Listening) : d.station.Listening := by
    rw [h.station]
    exact hc.congr rfl rfl rfl
  refine ⟨⟨hlistening, ?_, ?_, ?_, ?_, ?_⟩, ?_, ?_⟩
  · rw [h.session]
  · rw [h.session]
  · rw [h.session]
  · rw [h.session]
  · rw [h.station]
    rfl
  · rw [h.session]
  · rw [h.station]

variable [Clock τ]

theorem commands_signOff (c : Scene τ) (reason : String) :
    (c.signOff reason).session.commands = c.session.commands := by
  unfold signOff
  split
  · show (Scene.emit _ _ _).session.commands = _
    rw [session_emit]
  · rfl

theorem commands_ended (c : Scene τ) (reason : String) :
    (c.ended reason).session.commands = c.session.commands := by
  rw [ended_eq]
  split
  · rfl
  · show (((c.beginClosing reason).hangUp).signOff reason).session.commands = _
    rw [commands_signOff, hangUp_eq]
    rfl

/-! ## Attempts -/

/-- An attempt to run a line: the scene in which it begins, and the line. -/
structure Attempt (τ : Type) where
  scene : Scene τ
  line : String

def outcomeOf (line : String) (failed : Bool) : String :=
  if failed then Metrics.erroneous
  else if Shell.isKnownLine line then Metrics.known
  else Metrics.unknown

theorem outcomeOf_eq_erroneous_iff (line : String) (failed : Bool) :
    outcomeOf line failed = Metrics.erroneous ↔ failed = true := by
  unfold outcomeOf
  cases failed with
  | true => exact ⟨fun _ => rfl, fun _ => rfl⟩
  | false =>
    refine ⟨fun h => ?_, nofun⟩
    rw [if_neg Bool.false_ne_true] at h
    split at h
    · exact absurd h (by decide)
    · exact absurd h (by decide)

namespace Attempt

variable (a : Attempt τ)

/-- The scene in which the attempt ends. -/
def after : Scene τ := (a.scene.execute a.line).2

def execution : Execution := (a.scene.execute a.line).1

/-- Whether the session is open from the beginning of the attempt to its end. -/
def isWhole : Bool := !a.scene.session.closed && !a.after.session.closed

/-- Whether the session is closed during the attempt. -/
def isCut : Bool := !a.scene.session.closed && a.after.session.closed

/-- The event of a command with the line and its response. -/
def record : Record :=
  a.scene.record .command
    [("input", .text a.line), ("output", .text (outputOf a.execution.response))]

def outcome : String := outcomeOf a.line a.execution.failed

/-- What it is for an attempt to be counted once: among the lines of the session, among its events,
and among the outcomes that are measured. -/
structure CountedOnce : Prop where
  commands : a.after.session.commands = a.scene.session.commands + 1
  event : ∃ downloads : List Record, (∀ r ∈ downloads, r.kind = .download) ∧
    a.after.station.handed = a.scene.station.handed ++ (downloads ++ [a.record])
  outcome : ∃ m m' : Metrics.Collector, a.scene.station.metrics? = some m ∧
    a.after.station.metrics? = some m' ∧ m'.outcomes = m.outcomes.add a.outcome
  failure : a.outcome = Metrics.erroneous ↔
    (a.scene.counted.giveToShell a.line).1 = none

end Attempt

/-! ## Lines that are run -/

theorem outcomes_noteDownloads (ds : List Shell.Download) (c : Scene τ) :
    (ds.foldl noteDownload c).footprint.outcomes? = c.footprint.outcomes? := by
  induction ds generalizing c with
  | nil => rfl
  | cons d ds ih =>
    have hmeasured : (c.measure fun m => m.downloaded d.tool.name).footprint.outcomes? =
        c.footprint.outcomes? := by
      unfold footprint measure Station.measure
      cases c.station.metrics? <;> rfl
    have hnoted : (c.noteDownload d).footprint.outcomes? = c.footprint.outcomes? := by
      unfold noteDownload
      dsimp only
      rw [footprint_emit, hmeasured]
    rw [List.foldl_cons, ih, hnoted]

omit [Clock τ] in
theorem isSome_outcomes (c : Scene τ) :
    c.footprint.outcomes?.isSome = c.station.metrics?.isSome := Option.isSome_map

/-- What a session that runs a line hands on is its downloads, and no outcome is measured yet. -/
theorem ready_of_ran (h : c.Ready) (hran : c.Ran d) :
    d.Ready ∧ (∃ downloads : List Record, (∀ r ∈ downloads, r.kind = .download) ∧
      d.station.handed = c.station.handed ++ downloads) ∧
      d.footprint.outcomes? = c.footprint.outcomes? := by
  obtain ⟨e, ds, hworks, rfl⟩ := hran
  have he : e.Ready := hworks.quiet.ready h
  have hhands := hands_noteDownloads he.ongoing.listening he.ongoing.closing ds
  have houtcomes : (ds.foldl noteDownload e).footprint.outcomes? = c.footprint.outcomes? := by
    rw [outcomes_noteDownloads]
    unfold footprint
    rw [hworks.station]
  refine ⟨⟨hhands.ongoing he.ongoing, ?_⟩, ⟨ds.map e.downloadRecord, ?_, ?_⟩, houtcomes⟩
  · rw [← isSome_outcomes, houtcomes, isSome_outcomes]
    exact h.measured
  · intro r hr
    obtain ⟨d, -, rfl⟩ := List.mem_map.mp hr
    rfl
  · rw [hhands.handed, hworks.quiet.aside.handed]

omit [Clock τ] in
theorem ready_counted (h : c.Ready) : c.counted.Ready := by
  refine ⟨⟨?_, ?_, ?_, ?_⟩, ?_⟩
  · rw [station_counted]
    exact h.ongoing.listening
  · rw [session_counted]
    exact h.ongoing.admitted
  · rw [session_counted]
    exact h.ongoing.closing
  · rw [session_counted]
    exact h.ongoing.closed
  · rw [station_counted]
    exact h.measured

theorem heading_of_counted_ran (hran : c.counted.Ran d) :
    d.session.heading = c.session.heading := by
  unfold Session.heading
  rw [session_of_ran hran, session_counted]

/-- Telling of a line in an open session hands on one event and measures one outcome. -/
theorem noteLine_of_ready (h : c.Ready) (line : String) (response? : Option Shell.Response) :
    (c.noteLine line response?).Ready ∧
    (c.noteLine line response?).station.handed = c.station.handed ++
      [c.record .command [("input", .text line),
        ("output", .text (outputOf (response?.getD (.text (failureText line)))))]] ∧
    ∃ m m' : Metrics.Collector, c.station.metrics? = some m ∧
      (c.noteLine line response?).station.metrics? = some m' ∧
      m'.outcomes = m.outcomes.add (outcomeOf line response?.isNone) := by
  let fields : List (String × Json) := [("input", .text line),
    ("output", .text (outputOf (response?.getD (.text (failureText line)))))]
  have hopen : ¬c.session.closed = true := Bool.eq_false_iff.mp h.ongoing.closed
  have htold := hands_emit h.ongoing.listening .command (.inl h.ongoing.closing) fields
  have hnoted : c.noteLine line response? = (c.emit .command fields).measure fun m =>
      m.ran (outcomeOf line response?.isNone) := if_neg hopen
  obtain ⟨m, hm⟩ := Option.isSome_iff_exists.mp h.measured
  have hmeasured : (c.noteLine line response?).station.metrics? =
      some (m.ran (outcomeOf line response?.isNone)) := by
    rw [hnoted]
    show (c.emit .command fields).station.metrics?.map _ = _
    rw [metrics_emit, hm]
    rfl
  refine ⟨⟨?_, ?_⟩, ?_, m, _, hm, hmeasured, rfl⟩
  · rw [hnoted]
    exact (quiet_measure _ _).aside.ongoing (htold.ongoing h.ongoing)
  · rw [hmeasured]
    rfl
  · rw [hnoted]
    exact htold.handed

/-! ## What becomes of an attempt -/

namespace Attempt

variable {a : Attempt τ}

theorem isWhole_iff :
    a.isWhole = true ↔ a.scene.session.closed = false ∧ a.after.session.closed = false := by
  unfold isWhole
  rw [Bool.and_eq_true, Bool.not_eq_true', Bool.not_eq_true']

theorem of_closed (h : a.scene.session.closed = true) :
    a.isWhole = false ∧ a.isCut = false := by
  unfold isWhole isCut
  rw [h]
  exact ⟨rfl, rfl⟩

theorem of_whole (h : a.isWhole = true) : a.isCut = false := by
  unfold isCut
  rw [(isWhole_iff.mp h).2, Bool.and_false]

theorem after_eq (a : Attempt τ) :
    a.after = (a.scene.counted.giveToShell a.line).2.noteLine a.line
      (a.scene.counted.giveToShell a.line).1 := congrArg Prod.snd (execute_eq a.scene a.line)

theorem execution_eq (a : Attempt τ) :
    a.execution = ⟨(a.scene.counted.giveToShell a.line).1.getD (.text (failureText a.line)),
      (a.scene.counted.giveToShell a.line).1.isNone⟩ :=
  congrArg Prod.fst (execute_eq a.scene a.line)

theorem countedOnce_of_ran (h : a.scene.Ready)
    (hran : a.scene.counted.Ran (a.scene.counted.giveToShell a.line).2) :
    a.after.Ready ∧ a.CountedOnce := by
  obtain ⟨hgiven, ⟨downloads, hkinds, hhanded⟩, houtcomes⟩ :=
    ready_of_ran (ready_counted h) hran
  obtain ⟨hready, htold, m, m', hm, hm', houtcome⟩ :=
    noteLine_of_ready hgiven a.line (a.scene.counted.giveToShell a.line).1
  rw [← after_eq] at hready htold hm'
  obtain ⟨m₀, hm₀⟩ := Option.isSome_iff_exists.mp h.measured
  have hsame : m.outcomes = m₀.outcomes := by
    unfold footprint at houtcomes
    rw [hm, station_counted, hm₀] at houtcomes
    exact Option.some.inj houtcomes
  refine ⟨hready, ?_, ⟨downloads, hkinds, ?_⟩, ⟨m₀, m', hm₀, hm', ?_⟩, ?_⟩
  · rw [after_eq, session_noteLine, session_of_ran hran, session_counted]
  · rw [htold, hhanded, station_counted, List.append_assoc]
    unfold record Scene.record
    rw [heading_of_counted_ran hran, execution_eq]
  · unfold outcome
    rw [houtcome, hsame, execution_eq]
  · unfold outcome
    rw [outcomeOf_eq_erroneous_iff, execution_eq, Option.isNone_iff_eq_none]

/-- **What becomes of an attempt that begins in an open session**: it is counted once, or the
session is closed during it after counting the line. -/
theorem cases_of_ready (h : a.scene.Ready) :
    a.after.Ready ∧ a.CountedOnce ∨
      a.after.session.commands = a.scene.session.commands + 1 ∧
      ∃ reason last, a.after.Over reason ∧ last.IsEnd reason ∧
        last.fields.lookup "command_count" =
          some (.int (a.scene.session.commands + 1 : Nat)) ∧
        a.after.station.handed = a.scene.station.handed ++ [last] := by
  have hcounted := ready_counted h
  obtain hran | ⟨d, reason, hworks, hended⟩ :=
    giveToShell_cases hcounted.ongoing.closed a.line
  · exact .inl (countedOnce_of_ran h hran)
  · -- The end was told while the line was held back, so that the line itself is not.
    have hd : d.Ready := hworks.quiet.ready hcounted
    have hcommands : d.session.commands = a.scene.session.commands + 1 := by
      rw [hworks.quiet.commands, session_counted]
    obtain ⟨hover, last, hlast, hcount, hhanded⟩ := over_ended hd.ongoing reason
    have hsilent (response? : Option Shell.Response) :
        (d.ended reason).noteLine a.line response? = d.ended reason := if_pos hover.closed
    have hafter : a.after = d.ended reason := by
      rw [after_eq, hended, hsilent]
    rw [hcommands] at hcount
    refine .inr ⟨?_, reason, last, hafter ▸ hover, hlast, hcount, ?_⟩
    · rw [hafter, commands_ended, hcommands]
    · rw [hafter, hhanded, hworks.quiet.aside.handed, station_counted]

end Attempt

end Scene
end Honeypot
