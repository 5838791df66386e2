import Honeypot.Proofs.Session.Homes
import Honeypot.Proofs.Session.Teardown
import Honeypot.Proofs.Shell.Tails
import Honeypot.Proofs.Shell.Whereabouts

/-!
# The working directory that a session reports

A session reports the variable `PWD` as its working directory, while its shell works in the
directory of its files. The lines that a session is given come down to errands, and it reports its
directory rightly after them exactly if every `export` among them that misleads is followed by an
errand that settles where the session is (`reports_directory_iff`).
-/

namespace Honeypot

/-! ## Sessions that report where they are -/

namespace Session

variable {τ : Type}

/-- The directory that the shell of a session is in, if it has one. -/
def directory? (s : Session τ) : Option Path := s.workspace?.map fun w => w.files.cwd

theorem directory?_of_workspace {s : Session τ} {w : Workspace} (hw : s.workspace? = some w) :
    s.directory? = some w.files.cwd := by
  unfold directory?
  rw [hw]
  rfl

/-- Whether a session reports the directory that its shell is in. -/
def Agrees (s : Session τ) : Prop := s.env.lookup "PWD" = s.directory?.map Path.text

/-- How a session with a shell comes from another by errands, as far as its whereabouts go. -/
structure Led (s : Session τ) (es : List Shell.Errand) (t : Session τ) : Prop where
  shell : t.directory?.isSome = true
  named : (s.env.lookup "PWD").isSome = true → (t.env.lookup "PWD").isSome = true
  agrees : t.Agrees ↔ Shell.Straightens es ∧ (s.Agrees ∨ Shell.SomeSettles es)

namespace Led

variable {s t u : Session τ} {es fs : List Shell.Errand}

theorem still (hs : s.directory?.isSome = true) (hdirectory : t.directory? = s.directory?)
    (henv : t.env = s.env) : s.Led [] t where
  shell := hdirectory ▸ hs
  named h := henv ▸ h
  agrees := by
    unfold Agrees
    rw [hdirectory, henv]
    exact ⟨fun h => ⟨Shell.straightens_nil, .inl h⟩,
      fun h => h.2.resolve_right Shell.not_someSettles_nil⟩

theorem trans (h : s.Led es t) (h' : t.Led fs u) : s.Led (es ++ fs) u where
  shell := h'.shell
  named hs := h'.named (h.named hs)
  agrees := by
    rw [h'.agrees, h.agrees, Shell.straightens_append_iff, Shell.someSettles_append_iff,
      and_or_right, or_assoc, and_assoc]

end Led

end Session

namespace Scene

variable {τ : Type} [Clock τ] {c : Scene τ} {w : Workspace}

/-! ## The errands of lines -/

/-- What the shell of a session knows when it runs a line. -/
def lineContext (c : Scene τ) (w : Workspace) : Shell.Context :=
  ⟨c.session.device, w.user, c.session.id, c.session.peerIp, c.session.peerPort,
    c.station.seconds, none, Shell.callRoom⟩

/-- The state in which a line finds the shell of a session. -/
def lineState (c : Scene τ) (w : Workspace) : Shell.State :=
  ⟨w.files, c.session.env, c.session.history, ⟨c.session.chances, c.station.noise⟩, []⟩

/-- The errands of a line that is run in a workspace. -/
def errandsIn (c : Scene τ) (w : Workspace) (line : String) : List Shell.Errand :=
  Shell.errands (c.lineContext w) (c.lineState w) (.line line)

/-- The errands of an entered line: none if its delay is cut short. -/
def errandsEntered (c : Scene τ) (w : Workspace) (line : String) : List Shell.Errand :=
  if Clock.span 0 < c.session.delay then
    if ((c.remembering line).wait c.session.delay).1 then []
    else ((c.remembering line).wait c.session.delay).2.errandsIn w line
  else (c.remembering line).errandsIn w line

/-- The errands of a line that is given to the shell: none if the shell fails on it or it is
blank. -/
def errandsOf (c : Scene τ) (line : String) : List Shell.Errand :=
  match c.session.workspace? with
  | none => []
  | some w =>
    if w.broken then []
    else
      match Shell.enteredLine? line with
      | none => []
      | some line => c.errandsEntered w line

/-- The session after some lines were given to its shell, one after the other. -/
def afterLines (c : Scene τ) (lines : List String) : Scene τ :=
  lines.foldl (fun c line => (c.giveToShell line).2) c

/-- The errands of some lines that are given to the shell one after the other. -/
def errandsThrough (c : Scene τ) : List String → List Shell.Errand
  | [] => []
  | line :: rest => c.errandsOf line ++ (c.giveToShell line).2.errandsThrough rest

/-! ## What lines leave -/

theorem led_runLine (hw : c.session.workspace? = some w) (line : String) :
    c.session.Led (c.errandsIn w line) (c.runLine w line).2.session := by
  have hfollows : Shell.Follows (c.lineState w) (c.errandsIn w line) (c.shellRun w line).2 :=
    Shell.does_errands (.line line) (c.lineContext w) (c.lineState w)
  have hagrees : c.session.Agrees ↔ (c.lineState w).Agrees := by
    unfold Session.Agrees
    rw [Session.directory?_of_workspace hw]
    rfl
  rw [runLine_eq]
  dsimp only
  rw [session_noteDownloads]
  refine ⟨rfl, hfollows.isSome_variable, ?_⟩
  rw [hagrees]
  exact hfollows.agrees_iff

theorem whereabouts_ended (c : Scene τ) (reason : String) :
    (c.ended reason).session.directory? = c.session.directory? ∧
      (c.ended reason).session.env = c.session.env := by
  cases hclosing : c.session.closing with
  | true =>
    unfold ended
    rw [close_of_closing hclosing]
    exact ⟨rfl, rfl⟩
  | false =>
    rw [endsAs_ended hclosing reason]
    unfold Session.directory?
    rw [Option.map_map]
    exact ⟨rfl, rfl⟩

/-- A wait that is cut short does not move the session, and any other leaves it alone. -/
theorem whereabouts_wait (c : Scene τ) (time : τ) :
    (c.wait time).1 = true ∧ (c.wait time).2.session.directory? = c.session.directory? ∧
        (c.wait time).2.session.env = c.session.env ∨
      (c.wait time).1 = false ∧ (c.wait time).2.session = c.session := by
  unfold wait
  split
  · exact .inl ⟨rfl, rfl, rfl⟩
  · split
    · exact .inl ⟨rfl, whereabouts_ended _ _⟩
    · exact .inr ⟨rfl, rfl⟩

theorem led_runEntered (hw : c.session.workspace? = some w) (line : String) :
    c.session.Led (c.errandsEntered w line) (c.runEntered w line).2.session := by
  have hshell := Option.isSome_of_eq_some (Session.directory?_of_workspace hw)
  -- Taking the line down in the history changes nothing of the whereabouts.
  have hnoted : c.session.Led [] (c.remembering line).session := .still hshell rfl rfl
  have hnotedWorkspace : (c.remembering line).session.workspace? = some w := hw
  rw [runEntered_eq]
  unfold errandsEntered
  split
  · obtain ⟨hcut, hdirectory, henv⟩ | ⟨hwaited, hsame⟩ :=
      whereabouts_wait (c.remembering line) c.session.delay
    · rw [hcut]
      exact .still hshell hdirectory henv
    · rw [hwaited]
      have hline := led_runLine (hsame ▸ hnotedWorkspace) line
      rw [hsame] at hline
      exact hnoted.trans hline
  · exact hnoted.trans (led_runLine hnotedWorkspace line)

theorem led_giveToShell (h : c.session.directory?.isSome = true) (line : String) :
    c.session.Led (c.errandsOf line) (c.giveToShell line).2.session := by
  unfold errandsOf giveToShell
  cases hw : c.session.workspace? with
  | none => exact .still h rfl rfl
  | some w =>
    dsimp only
    split
    · exact .still h rfl rfl
    · cases Shell.enteredLine? line with
      | none => exact .still h rfl rfl
      | some line => exact led_runEntered hw line

theorem led_afterLines (h : c.session.directory?.isSome = true) (lines : List String) :
    c.session.Led (c.errandsThrough lines) (c.afterLines lines).session := by
  induction lines generalizing c with
  | nil => exact .still h rfl rfl
  | cons line rest ih =>
    have hline := led_giveToShell h line
    exact hline.trans (ih hline.shell)

/-! ## From the start -/

theorem lookup_withStartVariables (p : Persona) (fs : FileSystem) (user : String)
    (env : Shell.Env) :
    (Shell.withStartVariables p fs user env).lookup "PWD" = some fs.cwd.text := by
  unfold Shell.withStartVariables Shell.startVariables
  simp [Assoc.lookup_put]

omit [Clock τ] in
theorem agrees_logIn (h : c.session.closed = false) (user : String) :
    (c.logIn user).session.Agrees := by
  unfold logIn
  rw [h]
  exact lookup_withStartVariables c.session.device _ _ c.session.env

/-- **The directory that a session reports** after any lines since its start is the one that its
shell is in, exactly if every `export` among their errands that misleads is followed by an errand
that settles. -/
theorem reports_directory_iff (h : c.session.closed = false) (user : String)
    (lines : List String) :
    ∃ w, ((c.logIn user).afterLines lines).session.workspace? = some w ∧
      ((c.logIn user).afterLines lines).session.env.lookup "PWD" =
        some ((c.logIn user).afterLines lines).session.workingDirectory ∧
      (((c.logIn user).afterLines lines).session.workingDirectory = w.files.cwd.text ↔
        Shell.Straightens ((c.logIn user).errandsThrough lines)) := by
  have hagrees := agrees_logIn h user
  have hshell := Option.isSome_of_eq_some (Session.directory?_of_workspace (workspace_logIn h user))
  have hnamed : ((c.logIn user).session.env.lookup "PWD").isSome = true := by
    rw [hagrees, Option.isSome_map]
    exact hshell
  have hled := led_afterLines hshell lines
  obtain ⟨cwd, hcwd⟩ := Option.isSome_iff_exists.mp hled.shell
  obtain ⟨w, hw, rfl⟩ := Option.map_eq_some_iff.mp hcwd
  obtain ⟨value, hvalue⟩ := Option.isSome_iff_exists.mp (hled.named hnamed)
  have hreported : ((c.logIn user).afterLines lines).session.workingDirectory = value := by
    unfold Session.workingDirectory
    rw [hvalue]
    rfl
  have hiff := hled.agrees.trans (and_iff_left (.inl hagrees))
  refine ⟨w, hw, hvalue.trans (congrArg some hreported.symm), ?_⟩
  rw [hreported, ← hiff]
  unfold Session.Agrees
  rw [hvalue, hcwd]
  exact Option.some_inj.symm

/-! ## Lines of a single errand -/

/-- The errand of a line of a single command. -/
def errandOf (c : Scene τ) (w : Workspace) (line : String) (inv : Shell.Invocation)
    (command : Shell.Command) : Shell.Errand :=
  ⟨{ c.lineContext w with room := Shell.callRoom - 3 }, inv, command,
    (c.remembering line).lineState w⟩

/-- A line of a single command that runs no others comes down to one errand, and leaves what that
leaves. -/
theorem giveToShell_single (line : String) (inv : Shell.Invocation) (command : Shell.Command)
    (hw : c.session.workspace? = some w) (hsound : w.broken = false)
    (hprompt : ¬Clock.span 0 < c.session.delay) (hline : Shell.enteredLine? line = some line)
    (hsplit : Shell.split line = [⟨.start, line⟩])
    (hinv : Shell.Invocation.parse? line = some inv)
    (hname : Text.hasChar inv.name '/' = false)
    (hcommand : Shell.Command.ofName? inv.command = some command)
    (halone : command ≠ .exit ∧ command ≠ .sudo ∧ command ≠ .shell) :
    c.errandsOf line = [c.errandOf w line inv command] ∧
      (c.giveToShell line).2.session.directory? =
        some (c.errandOf w line inv command).after.files.cwd ∧
      (c.giveToShell line).2.session.env = (c.errandOf w line inv command).after.env := by
  have herrands : (c.remembering line).errandsIn w line = [c.errandOf w line inv command] :=
    Shell.errands_of_single rfl hsplit hinv hname hcommand halone _
  have hrun : ((c.remembering line).shellRun w line).2 =
      (c.errandOf w line inv command).after := by
    show ((Shell.runLine ((c.remembering line).lineContext w) line).run
      ((c.remembering line).lineState w)).2 = _
    rw [Shell.runLine_single rfl hsplit hinv, Shell.dispatch_of_alone hname hcommand halone rfl,
      run_bind_pure]
    rfl
  have hgiven : (c.giveToShell line).2 = ((c.remembering line).runLine w line).2 := by
    unfold giveToShell
    rw [hw]
    dsimp only
    rw [hsound, hline, if_neg Bool.false_ne_true]
    dsimp only
    rw [runEntered_eq, if_neg hprompt]
  refine ⟨?_, ?_⟩
  · unfold errandsOf
    rw [hw]
    dsimp only
    rw [hsound, hline, if_neg Bool.false_ne_true]
    dsimp only
    unfold errandsEntered
    rw [if_neg hprompt, herrands]
  · rw [hgiven, runLine_eq]
    dsimp only
    rw [session_noteDownloads, hrun]
    exact ⟨rfl, rfl⟩

/-- A superuser who has just logged in. -/
def exampleLogin : Scene Int := exampleArrival.logIn "root"

/-- Entering a directory does not part the two. -/
theorem reports_directory_example :
    exampleArrival.session.closed = false ∧
    ∃ w, (exampleLogin.afterLines ["cd /tmp"]).session.workspace? = some w ∧
      (exampleLogin.afterLines ["cd /tmp"]).session.workingDirectory = w.files.cwd.text := by
  have hworkspace := workspace_logIn (c := exampleArrival) rfl "root"
  obtain ⟨herrands, _⟩ := giveToShell_single (c := exampleLogin) "cd /tmp"
    ⟨"cd /tmp", "cd", ["/tmp"]⟩ .cd hworkspace rfl (by decide) (by decide) (by decide) (by decide)
    (by decide) (by decide) (by decide)
  have hthrough : exampleLogin.errandsThrough ["cd /tmp"] = _ :=
    (List.append_nil _).trans herrands
  have hstraightens : Shell.Straightens (exampleLogin.errandsThrough ["cd /tmp"]) := by
    rw [hthrough, Shell.straightens_single_iff]
    rintro ⟨value, hvalue, _⟩
    cases hvalue
  obtain ⟨w, hw, _, hiff⟩ := reports_directory_iff (c := exampleArrival) rfl "root" ["cd /tmp"]
  exact ⟨rfl, w, hw, hiff.mpr hstraightens⟩

theorem lastAssigned?_tmp (env : Shell.Env) :
    Shell.lastAssigned? "PWD" env ["PWD=/tmp"] = some "/tmp" := by
  have hcut : Text.cutFirst '=' "PWD=/tmp".toList = some ("PWD".toList, "/tmp".toList) := by
    decide
  have hname : Shell.isVariableName "PWD" = true := by decide
  have hunquote : Shell.unquote "/tmp" = "/tmp" := by decide
  have hexpand : Shell.expand env "/tmp" = "/tmp" := by
    simp [Shell.expand, Shell.expandChars]
  unfold Shell.lastAssigned?
  rw [hcut]
  dsimp only
  rw [String.ofList_toList, String.ofList_toList, if_pos hname, hunquote, hexpand, if_pos rfl]
  rfl

/-- An `export` of the variable moves nobody. -/
theorem export_misreports_directory :
    ∃ w, (exampleLogin.afterLines ["export PWD=/tmp"]).session.workspace? = some w ∧
      w.files.cwd.text = "/root" ∧
      (exampleLogin.afterLines ["export PWD=/tmp"]).session.workingDirectory = "/tmp" := by
  have hworkspace := workspace_logIn (c := exampleArrival) rfl "root"
  obtain ⟨_, hdirectory, henv⟩ := giveToShell_single (c := exampleLogin) "export PWD=/tmp"
    ⟨"export PWD=/tmp", "export", ["PWD=/tmp"]⟩ .export hworkspace rfl (by decide) (by decide)
    (by decide) (by decide) (by decide) (by decide) (by decide)
  obtain ⟨hcwd, hvalue⟩ := Shell.Errand.after_eq (exampleLogin.errandOf _ _ _ _)
  obtain ⟨w, hw, hfiles⟩ := Option.map_eq_some_iff.mp hdirectory
  obtain ⟨_, hhome, _⟩ := Shell.cwd_homeFiles (p := exampleArrival.session.device)
    List.mem_cons_self (exampleArrival.userOf "root")
  have huser : exampleArrival.userOf "root" = "root" := by decide +kernel
  have hroot : Layout.homeOf exampleArrival.session.device "root" = "/root" := rfl
  refine ⟨w, hw, ?_, ?_⟩
  · rw [hfiles, hcwd]
    exact (hhome.trans (congrArg _ huser)).trans hroot
  · show (((exampleLogin.giveToShell "export PWD=/tmp").2.session.env).lookup "PWD").getD "/" = _
    rw [henv, hvalue]
    show ((Shell.lastAssigned? "PWD" exampleLogin.session.env ["PWD=/tmp"]).or
      (exampleLogin.session.env.lookup "PWD")).getD "/" = _
    rw [lastAssigned?_tmp]
    rfl

end Scene
end Honeypot
