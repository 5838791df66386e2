import Honeypot.Proofs.Session.AfterClose

/-!
# What running a line comes to

A line that is given to the shell of an open session makes the shell work and downloads noted, or
its delay is cut short by the end of the session (`giveToShell_cases`). It is counted before that
and told of after it, and a chunk of input enters one line after the other (`feedBytes_cons`).
-/

namespace Honeypot.Scene

variable {τ : Type} {c d e : Scene τ}

/-! ## Parts of deeds -/

/-- The session with a line in its history. -/
def remembering (c : Scene τ) (line : String) : Scene τ :=
  { c with session.history := c.session.history ++ [line] }

/-- The session after its shell has worked, before the downloads are noted. -/
def worked (c : Scene τ) (w : Workspace) (s : Shell.State) : Scene τ where
  session := { c.session with
    workspace? := some { w with files := s.files }
    env := s.env
    history := s.history
    chances := s.chances.session }
  station := { c.station with noise := s.chances.noise }

theorem session_counted (c : Scene τ) :
    c.counted.session = { c.session with
      user? := c.counted.session.user?, env := c.counted.session.env
      workspace? := c.counted.session.workspace?, status := c.counted.session.status
      commands := c.session.commands + 1 } := by
  unfold counted ensureLoggedIn logIn
  split
  · split <;> rfl
  · rfl

theorem station_counted (c : Scene τ) : c.counted.station = c.station := by
  unfold counted ensureLoggedIn logIn
  split
  · split <;> rfl
  · rfl

/-- What has become of a session whose shell has worked: it differs in what the shell keeps, and
made-up files and time were used up. -/
structure Works (c d : Scene τ) : Prop where
  session : d.session = { c.session with
    env := d.session.env, history := d.session.history, chances := d.session.chances
    workspace? := d.session.workspace?, interruption? := d.session.interruption? }
  station : d.station = { c.station with now := d.station.now, noise := d.station.noise }

namespace Works

theorem refl (c : Scene τ) : c.Works c := ⟨rfl, rfl⟩

theorem trans (hcd : c.Works d) (hde : d.Works e) : c.Works e := by
  constructor
  · rw [hde.session, hcd.session]
  · rw [hde.station, hcd.station]

end Works

theorem works_remembering (c : Scene τ) (line : String) : c.Works (c.remembering line) :=
  ⟨rfl, rfl⟩

theorem works_worked (c : Scene τ) (w : Workspace) (s : Shell.State) : c.Works (c.worked w s) :=
  ⟨rfl, rfl⟩

variable [Clock τ]

/-- What running a line in a workspace comes to for the shell. -/
def shellRun (c : Scene τ) (w : Workspace) (line : String) :
    Except Fault Shell.Response × Shell.State :=
  (Shell.runLine ⟨c.session.device, w.user, c.session.id, c.session.peerIp, c.session.peerPort,
      c.station.seconds, none, Shell.callRoom⟩ line).run
    ⟨w.files, c.session.env, c.session.history, ⟨c.session.chances, c.station.noise⟩, []⟩

theorem ended_eq (c : Scene τ) (reason : String) :
    c.ended reason =
      if c.session.closing then c
      else (((c.beginClosing reason).hangUp).signOff reason).cleanUp := by
  unfold ended close
  split <;> rfl

theorem runLine_eq (c : Scene τ) (w : Workspace) (line : String) :
    c.runLine w line =
      ((c.shellRun w line).1.toOption,
        (c.shellRun w line).2.downloads.foldl noteDownload
          (c.worked w (c.shellRun w line).2)) := rfl

theorem runEntered_eq (c : Scene τ) (w : Workspace) (line : String) :
    c.runEntered w line =
      if Clock.span 0 < c.session.delay then
        if ((c.remembering line).wait c.session.delay).1 then
          (some (.text ""), ((c.remembering line).wait c.session.delay).2)
        else ((c.remembering line).wait c.session.delay).2.runLine w line
      else (c.remembering line).runLine w line := by
  have hnoted : { c with session.history := c.session.history ++ [line] } = c.remembering line :=
    rfl
  unfold runEntered
  dsimp only
  refine ite_congr rfl (fun _ => ?_) fun _ => rfl
  rw [hnoted]
  rcases (c.remembering line).wait c.session.delay with ⟨cut, d⟩
  cases cut <;> rfl

theorem runAtTerminal_eq (c : Scene τ) (line : String) :
    c.runAtTerminal line =
      if (c.execute line).2.session.closed then (false, (c.execute line).2)
      else
        match (c.execute line).1.response with
        | .exit => (false, ((c.execute line).2.send "logout\r\n").ended "exit")
        | .text output => (true, ((c.execute line).2.send (Text.crlf output)).sendPrompt) := rfl

/-- A byte of a chunk may make a key, which is reacted to before the rest of the chunk is taken. -/
theorem feedBytes_cons {w : Workspace} (hw : c.session.workspace? = some w) (byte : UInt8)
    (rest : List UInt8) :
    c.feedBytes (byte :: rest) =
      match (w.terminal.step byte).2 with
      | none => (c.typing w (w.terminal.step byte).1).feedBytes rest
      | some key =>
        if ((c.typing w (w.terminal.step byte).1).press key).1 then
          ((c.typing w (w.terminal.step byte).1).press key).2.feedBytes rest
        else (false, ((c.typing w (w.terminal.step byte).1).press key).2) := by
  have htyping (terminal : Terminal.Decoder) :
      { c with session.workspace? := some { w with terminal } } = c.typing w terminal := rfl
  rw [feedBytes, hw]
  dsimp only
  rw [htyping]
  cases (w.terminal.step byte).2 with
  | none => rfl
  | some key =>
    dsimp only
    rcases (c.typing w (w.terminal.step byte).1).press key with ⟨goesOn, d⟩
    cases goesOn <;> rfl

theorem feedBytes_of_none (hw : c.session.workspace? = none) (bytes : List UInt8) :
    c.feedBytes bytes = (!c.session.closed, c) := by
  cases bytes with
  | nil => rfl
  | cons byte rest => rw [feedBytes, hw]

/-! ## What becomes of a line -/

/-- What has become of a session whose shell has run a line: the shell has worked, and some
downloads were noted. -/
def Ran (c d : Scene τ) : Prop :=
  ∃ (e : Scene τ) (ds : List Shell.Download), c.Works e ∧ d = ds.foldl noteDownload e

theorem ran_self (c : Scene τ) : c.Ran c := ⟨c, [], .refl c, rfl⟩

theorem session_of_ran (h : c.Ran d) :
    d.session = { c.session with
      env := d.session.env, history := d.session.history, chances := d.session.chances
      workspace? := d.session.workspace?, interruption? := d.session.interruption?
      pending := d.session.pending } := by
  obtain ⟨e, ds, hworks, rfl⟩ := h
  rw [session_noteDownloads, hworks.session]

theorem ran_runLine (h : c.Works d) (w : Workspace) (line : String) :
    c.Ran (d.runLine w line).2 :=
  ⟨_, _, h.trans (works_worked d w _), rfl⟩

/-- A wait takes time, or it is cut short by the end of the session. -/
theorem wait_cases (hopen : c.session.closed = false) (time : τ) :
    (c.wait time).1 = false ∧ c.Works (c.wait time).2 ∨
      (c.wait time).1 = true ∧ ∃ d reason, c.Works d ∧ (c.wait time).2 = d.ended reason := by
  have hstays : ¬c.session.closed = true := Bool.eq_false_iff.mp hopen
  unfold wait
  rw [if_neg hstays]
  cases c.session.interruption? with
  | none => exact .inl ⟨rfl, rfl, rfl⟩
  | some reason =>
    refine .inr ⟨rfl, _, reason, ?_, rfl⟩
    exact ⟨rfl, rfl⟩

/-- An entered line is run, unless its delay is cut short by the end of the session. -/
theorem runEntered_cases (hopen : c.session.closed = false) (w : Workspace) (line : String) :
    c.Ran (c.runEntered w line).2 ∨
      ∃ d reason, c.Works d ∧ c.runEntered w line = (some (.text ""), d.ended reason) := by
  have hnoted := works_remembering c line
  rw [runEntered_eq]
  split
  · obtain ⟨hwaited, hworks⟩ | ⟨hcut, d, reason, hworks, hended⟩ :=
      wait_cases (c := c.remembering line) hopen c.session.delay
    · rw [hwaited]
      exact .inl (ran_runLine (hnoted.trans hworks) w line)
    · rw [if_pos hcut, hended]
      exact .inr ⟨d, reason, hnoted.trans hworks, rfl⟩
  · exact .inl (ran_runLine hnoted w line)

/-- **What becomes of a line that is given to the shell** of an open session. -/
theorem giveToShell_cases (hopen : c.session.closed = false) (line : String) :
    c.Ran (c.giveToShell line).2 ∨
      ∃ d reason, c.Works d ∧ c.giveToShell line = (some (.text ""), d.ended reason) := by
  unfold giveToShell
  split
  · exact .inl (ran_self c)
  · split
    · exact .inl (ran_self c)
    · split
      · exact .inl (ran_self c)
      · exact runEntered_cases hopen _ _

/-- Telling of a line changes nothing of a session but the work that it waits for. -/
theorem session_noteLine (c : Scene τ) (line : String) (response? : Option Shell.Response) :
    (c.noteLine line response?).session =
      { c.session with pending := (c.noteLine line response?).session.pending } := by
  unfold noteLine
  split
  · rfl
  · exact session_emit c _ _

end Honeypot.Scene
