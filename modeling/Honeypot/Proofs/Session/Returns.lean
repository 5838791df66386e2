import Honeypot.Proofs.Screen
import Honeypot.Proofs.Session.Chunks
import Honeypot.Proofs.Session.Whereabouts
import Honeypot.Proofs.Shell.Unbroken

/-!
# What reaches a terminal

A terminal needs a return before every line feed. The greeting and what commands print are
translated on their way, whatever they hold (`returned_crlf`); the echo of keys and the prompt are
not, but the keys that are echoed bring their returns with them, and the prompt stays on one line as
long as the names of the user and of the device do. So every line feed of all that a session sends
follows a return, whatever is typed and run (`feeds_follow_returns`), and the output of a line is
sent with nothing added or lost but returns (`sent_runAtTerminal`).
-/

namespace Honeypot

/-! ## Line feeds behind returns -/

namespace Text

/-- Whether every line feed stands directly behind a return. -/
def Returned (cs : List Char) : Prop :=
  ∀ before after, cs = before ++ '\n' :: after → before.getLast? = some '\r'

variable {cs ds : List Char}

theorem returned_of_not_mem (h : '\n' ∉ cs) : Returned cs := by
  rintro before after rfl
  exact absurd List.mem_append_cons_self h

theorem Returned.append (hcs : Returned cs) (hds : Returned ds) : Returned (cs ++ ds) := by
  intro before after heq
  obtain ⟨more, rfl, hrest⟩ | ⟨more, rfl, hrest⟩ := List.append_eq_append_iff.mp heq
  · rw [List.getLast?_append, hds more after hrest]
    rfl
  · cases more with
    | nil =>
      -- The second part would begin with a line feed, with no return of its own.
      have hnone := hds [] after hrest.symm
      cases hnone
    | cons c more =>
      obtain ⟨rfl, -⟩ := List.cons.inj hrest
      exact hcs before more rfl

theorem returned_pair : Returned ['\r', '\n'] := by
  intro before after heq
  match before with
  | [] => cases heq
  | ['\r'] => rfl
  | c :: d :: rest => simp at heq

/-- **The translation** puts a return before every line feed, however they are mixed. -/
theorem returned_crlfChars (cs : List Char) : Returned (crlfChars cs) := by
  fun_induction crlfChars cs with
  | case1 => exact returned_of_not_mem List.not_mem_nil
  | case2 rest ih => exact returned_pair.append ih
  | case3 rest ih => exact returned_pair.append ih
  | case4 c rest hpair hfeed ih =>
    have hc : '\n' ∉ [c] := fun hmem => hfeed (List.mem_singleton.mp hmem).symm
    exact (returned_of_not_mem hc).append ih

theorem filter_crlfChars (cs : List Char) :
    (crlfChars cs).filter (· ≠ '\r') = cs.filter (· ≠ '\r') := by
  fun_induction crlfChars cs with
  | case1 => rfl
  | case2 rest ih => exact congrArg ('\n' :: ·) ih
  | case3 rest ih => exact congrArg ('\n' :: ·) ih
  | case4 c rest _ _ ih => rw [List.filter_cons, List.filter_cons, ih]

theorem returned_crlf (t : String) : Returned (crlf t).toList := by
  unfold crlf
  rw [String.toList_ofList]
  exact returned_crlfChars t.toList

theorem filter_crlf (t : String) :
    (crlf t).toList.filter (· ≠ '\r') = t.toList.filter (· ≠ '\r') := by
  unfold crlf
  rw [String.toList_ofList]
  exact filter_crlfChars t.toList

theorem returned_of_crlfChars_eq (h : crlfChars cs = cs) : Returned cs :=
  h ▸ returned_crlfChars cs

end Text

namespace Terminal

theorem Decoder.Effect.returned {line line' : List Char} {byte : UInt8} {key : Key}
    (h : Decoder.Effect line byte (some key) line') : Text.Returned key.echo.toList := by
  have hend : Text.Returned "\r\n".toList := Text.returned_of_crlfChars_eq (by decide)
  cases h with
  | entered _ => exact hend
  | typed htypable =>
    refine Text.returned_of_not_mem fun hmem => ?_
    rw [Key.echo, String.toList_singleton] at hmem
    rw [← List.mem_singleton.mp hmem] at htypable
    exact absurd htypable.1 (by decide)
  | _ => exact Text.returned_of_crlfChars_eq (by decide)

end Terminal

/-! ## Sessions -/

theorem Channel.sent_close (c : Channel) : c.close.sent = c.sent := by
  unfold close
  split <;> rfl

theorem Channel.sent_of_send? {c d : Channel} {text : String} (h : c.send? text = some d) :
    d.sent = c.sent ++ text := by
  unfold send? at h
  split at h
  · cases h
  · cases h
    rfl

namespace Session

variable {τ : Type} {s t : Session τ}

/-- A session with a shell that has sent no line feed without a return and whose prompt has none. -/
structure EndsLines (s : Session τ) : Prop where
  sent : Text.Returned s.channel.sent.toList
  host : '\n' ∉ s.device.hostname.toList
  shell : ∃ w, s.workspace? = some w ∧ '\n' ∉ w.user.toList ∧ Shell.Unbroken w.files s.env

theorem EndsLines.of_workspace (h : s.EndsLines) {w : Workspace} (hw : s.workspace? = some w) :
    '\n' ∉ w.user.toList ∧ Shell.Unbroken w.files s.env := by
  obtain ⟨other, hother, hshell⟩ := h.shell
  cases hw.symm.trans hother
  exact hshell

theorem EndsLines.congr (h : s.EndsLines) (hsent : t.channel.sent = s.channel.sent)
    (hdevice : t.device = s.device) (henv : t.env = s.env) (hw : t.workspace? = s.workspace?) :
    t.EndsLines where
  sent := by
    rw [hsent]
    exact h.sent
  host := by
    rw [hdevice]
    exact h.host
  shell := by
    rw [hw, henv]
    exact h.shell

end Session

namespace Scene

variable {τ : Type} [Clock τ] {c : Scene τ}

/-! ### The end, sending and waiting -/

theorem endsLines_ended (h : c.session.EndsLines) (reason : String) :
    (c.ended reason).session.EndsLines := by
  cases hclosing : c.session.closing with
  | true =>
    unfold ended
    rw [close_of_closing hclosing]
    exact h
  | false =>
    obtain ⟨w, hw, huser, hshell⟩ := h.shell
    rw [endsAs_ended hclosing reason]
    refine ⟨?_, h.host, w.cleared, congrArg (Option.map Workspace.cleared) hw, huser,
      hshell.home, hshell.cwd, hshell.values⟩
    dsimp only
    split
    · rw [Channel.sent_close]
      exact h.sent
    · exact h.sent

theorem endsLines_send (h : c.session.EndsLines) {text : String}
    (htext : Text.Returned text.toList) : (c.send text).session.EndsLines := by
  unfold send
  split
  · exact h
  · split
    · next channel hchannel =>
      refine ⟨?_, h.host, h.shell⟩
      show Text.Returned channel.sent.toList
      rw [Channel.sent_of_send? hchannel, String.toList_append]
      exact h.sent.append htext
    · exact endsLines_ended h _

theorem endsLines_sendPrompt (h : c.session.EndsLines) : c.sendPrompt.session.EndsLines := by
  unfold sendPrompt
  split
  · next w hw =>
    obtain ⟨huser, hshell⟩ := h.of_workspace hw
    exact endsLines_send h (Text.returned_of_not_mem (hshell.not_mem_prompt h.host huser))
  · exact h

theorem endsLines_wait (h : c.session.EndsLines) (time : τ) :
    (c.wait time).2.session.EndsLines := by
  unfold wait
  split
  · exact h
  · split
    · have hwaited : ({ c with session.interruption? := none } : Scene τ).session.EndsLines :=
        h.congr rfl rfl rfl rfl
      exact endsLines_ended hwaited _
    · exact h

theorem endsLines_touch (h : c.session.EndsLines) : c.touch.session.EndsLines := by
  unfold touch
  split
  · exact h.congr rfl rfl rfl rfl
  · exact h

/-! ### Running lines -/

theorem endsLines_runLine (h : c.session.EndsLines) {w : Workspace}
    (hw : c.session.workspace? = some w) (line : String) :
    (c.runLine w line).2.session.EndsLines := by
  obtain ⟨huser, hshell⟩ := h.of_workspace hw
  have hrun : Shell.Unbroken (c.shellRun w line).2.files (c.shellRun w line).2.env :=
    Shell.unbroken_runLine hshell (c.lineContext w) line
  rw [runLine_eq]
  dsimp only
  rw [session_noteDownloads]
  exact ⟨h.sent, h.host, _, rfl, huser, hrun⟩

theorem endsLines_runEntered (h : c.session.EndsLines) {w : Workspace}
    (hw : c.session.workspace? = some w) (line : String) :
    (c.runEntered w line).2.session.EndsLines := by
  have hnoted : (c.remembering line).session.EndsLines := h.congr rfl rfl rfl rfl
  have hw' : (c.remembering line).session.workspace? = some w := hw
  rw [runEntered_eq]
  split
  · obtain ⟨hcut, -⟩ | ⟨hwaited, hsame⟩ := whereabouts_wait (c.remembering line) c.session.delay
    · rw [if_pos hcut]
      exact endsLines_wait hnoted _
    · -- A wait that is not cut short leaves the session as it is.
      rw [hwaited]
      exact endsLines_runLine (hsame ▸ hnoted) (hsame ▸ hw') line
  · exact endsLines_runLine hnoted hw' line

theorem endsLines_giveToShell (h : c.session.EndsLines) (line : String) :
    (c.giveToShell line).2.session.EndsLines := by
  unfold giveToShell
  split
  · exact h
  · next w hw =>
    split
    · exact h
    · split
      · exact h
      · exact endsLines_runEntered h hw _

omit [Clock τ] in
theorem ensureLoggedIn_of_endsLines (h : c.session.EndsLines) : c.ensureLoggedIn = c := by
  obtain ⟨w, hw, -⟩ := h.shell
  unfold ensureLoggedIn
  rw [hw]
  rfl

theorem endsLines_execute (h : c.session.EndsLines) (line : String) :
    (c.execute line).2.session.EndsLines := by
  have hcounted : c.counted.session.EndsLines := by
    unfold counted
    rw [ensureLoggedIn_of_endsLines h]
    exact h.congr rfl rfl rfl rfl
  have hgiven := endsLines_giveToShell hcounted line
  rw [execute_eq]
  dsimp only
  rw [session_noteLine]
  exact hgiven.congr rfl rfl rfl rfl

/-! ### The terminal -/

theorem endsLines_runAtTerminal (h : c.session.EndsLines) (line : String) :
    (c.runAtTerminal line).2.session.EndsLines := by
  have hexecuted := endsLines_execute h line
  have hlogout : Text.Returned "logout\r\n".toList := Text.returned_of_crlfChars_eq (by decide)
  rw [runAtTerminal_eq]
  split
  · exact hexecuted
  · split
    · exact endsLines_ended (endsLines_send hexecuted hlogout) _
    · exact endsLines_sendPrompt (endsLines_send hexecuted (Text.returned_crlf _))

theorem endsLines_press (h : c.session.EndsLines) {key : Terminal.Key}
    (hkey : Text.Returned key.echo.toList) : (c.press key).2.session.EndsLines := by
  have hecho := endsLines_send h hkey
  unfold press
  dsimp only
  split
  · exact endsLines_ended hecho _
  · exact endsLines_runAtTerminal hecho _
  · split
    · exact endsLines_sendPrompt hecho
    · exact hecho

theorem endsLines_feedBytes (h : c.session.EndsLines) (bytes : List UInt8) :
    (c.feedBytes bytes).2.session.EndsLines := by
  induction bytes generalizing c with
  | nil => exact h
  | cons byte rest ih =>
    obtain ⟨w, hw, huser, hshell⟩ := h.shell
    have htyping : (c.typing w (w.terminal.step byte).1).session.EndsLines :=
      ⟨h.sent, h.host, _, rfl, huser, hshell⟩
    -- Only keys that a byte makes are echoed, not any key.
    have heffect := w.terminal.effect_step byte
    rw [feedBytes_cons hw]
    revert heffect
    cases (w.terminal.step byte).2 with
    | none => exact fun _ => ih htyping
    | some key =>
      intro heffect
      have hpressed := endsLines_press htyping heffect.returned
      dsimp only
      split
      · exact ih hpressed
      · exact hpressed

theorem endsLines_feed (h : c.session.EndsLines) (bytes : List UInt8) :
    (c.feed bytes).2.session.EndsLines := by
  unfold feed
  split
  · exact h
  · exact endsLines_feedBytes (endsLines_touch h) bytes

theorem endsLines_greet (h : c.session.EndsLines) : c.greet.2.session.EndsLines := by
  unfold greet
  rcases (Shell.banner c.session.device c.station.seconds).run c.session.chances
    with ⟨greeting, chances⟩
  have hdrawn : ({ c with session.chances := chances } : Scene τ).session.EndsLines :=
    h.congr rfl rfl rfl rfl
  cases greeting with
  | error fault => exact hdrawn
  | ok text => exact endsLines_sendPrompt (endsLines_send hdrawn (Text.returned_crlf text))

theorem endsLines_attach (h : c.session.EndsLines) : c.attach.2.session.EndsLines := by
  have hseated : c.seated.session.EndsLines := by
    unfold seated
    rw [ensureLoggedIn_of_endsLines h]
    exact h.congr rfl rfl rfl rfl
  rw [attach_eq]
  split
  · exact hseated
  · exact endsLines_greet hseated

/-! ### What is shown of a line -/

theorem exists_send (h : c.Smooth) (hattached : c.session.attached = true) (text : String) :
    ∃ channel : Channel, channel.sent = c.session.channel.sent ++ text ∧
      c.send text = { c with session.channel := channel } := by
  obtain ⟨channel, hsend, -⟩ := (h.carries hattached).exists_send text
  unfold send
  rw [hattached, h.closed, hsend]
  cases hempty : text.isEmpty with
  | true =>
    refine ⟨c.session.channel, ?_, rfl⟩
    rw [String.isEmpty_iff.mp hempty, String.append_empty]
  | false => exact ⟨channel, Channel.sent_of_send? hsend, rfl⟩

/-- **The output of a line** is sent in its translation, and a prompt behind it. -/
theorem sent_runAtTerminal {line output : String} {w : Workspace}
    (houtput : (c.execute line).1.response = .text output) (hsmooth : (c.execute line).2.Smooth)
    (hattached : (c.execute line).2.session.attached = true)
    (hw : (c.execute line).2.session.workspace? = some w) :
    (c.runAtTerminal line).2.session.channel.sent =
      (c.execute line).2.session.channel.sent ++ Text.crlf output ++
        Shell.prompt (c.execute line).2.session.device w.user w.files := by
  have hopen : ¬(c.execute line).2.session.closed = true := Bool.eq_false_iff.mp hsmooth.closed
  obtain ⟨first, hfirst, hsent⟩ := exists_send hsmooth hattached (Text.crlf output)
  have hgoesOn := smooth_send hsmooth (Text.crlf output)
  rw [runAtTerminal_eq, if_neg hopen, houtput]
  dsimp only
  rw [hsent] at hgoesOn ⊢
  obtain ⟨second, hsecond, hprompt⟩ := exists_send hgoesOn hattached
    (Shell.prompt (c.execute line).2.session.device w.user w.files)
  unfold sendPrompt
  rw [show ({ (c.execute line).2 with session.channel := first } : Scene τ).session.workspace? =
    some w from hw]
  dsimp only
  rw [hprompt, hsecond, hfirst]

/-! ### Deeds -/

theorem endsLines_authenticate (h : c.session.EndsLines) (method user : String)
    (password? : Option String) : (c.authenticate method user password?).2.session.EndsLines := by
  have htouched := endsLines_touch h
  have hnamed : (c.touch.named method user).session.EndsLines := by
    unfold named
    split
    · exact htouched.congr rfl rfl rfl rfl
    · exact htouched
  rw [authenticate_eq]
  dsimp only
  rw [session_emit]
  exact hnamed.congr rfl rfl rfl rfl

theorem endsLines_watch (h : c.session.EndsLines) (rounds : Nat) :
    (c.watch rounds).session.EndsLines := by
  induction rounds generalizing c with
  | zero => exact h
  | succ rounds ih =>
    have hwaited := endsLines_wait h c.timeLeft
    rw [watch_succ]
    split
    · exact h
    · split
      · exact endsLines_ended h _
      · revert hwaited
        rcases c.wait c.timeLeft with ⟨cut, d⟩
        intro hwaited
        cases cut with
        | true => exact hwaited
        | false => exact ih hwaited

/-- Whether a deed leaves the session to its terminal: it neither starts another shell nor runs a
single line, the output of which is sent as it is. -/
def Deed.leavesTerminal : Deed → Bool
  | .logIn _ => false
  | .runOnce _ => false
  | _ => true

theorem endsLines_after (h : c.session.EndsLines) {deed : Deed}
    (hdeed : deed.leavesTerminal = true) : (c.after deed).session.EndsLines := by
  cases deed with
  | authenticate method user password? => exact endsLines_authenticate h method user password?
  | logIn user => cases hdeed
  | attach => exact endsLines_attach h
  | feed bytes => exact endsLines_feed h bytes
  | execute line => exact endsLines_execute h line
  | runOnce line => cases hdeed
  | watch rounds => exact endsLines_watch h rounds
  | close reason => exact endsLines_ended h reason

theorem endsLines_deeds {deeds : List Deed} (h : c.session.EndsLines)
    (hdeeds : ∀ deed ∈ deeds, deed.leavesTerminal = true) :
    (deeds.foldl after c).session.EndsLines := by
  induction deeds generalizing c with
  | nil => exact h
  | cons deed rest ih =>
    obtain ⟨hdeed, hrest⟩ := List.forall_mem_cons.mp hdeeds
    exact ih (endsLines_after h hdeed) hrest

omit [Clock τ] in
theorem endsLines_logIn (hopen : c.session.closed = false) (hunsent : c.session.channel.sent = "")
    (hvalues : ∀ entry ∈ c.session.env, '\n' ∉ entry.2.toList)
    (hhost : '\n' ∉ c.session.device.hostname.toList) {user : String}
    (huser : '\n' ∉ (c.userOf user).toList) : (c.logIn user).session.EndsLines := by
  have hshell := Shell.unbroken_start hhost huser hvalues
  have hsent : Text.Returned c.session.channel.sent.toList := by
    rw [hunsent]
    exact Text.returned_of_not_mem List.not_mem_nil
  unfold logIn
  rw [hopen]
  exact ⟨hsent, hhost, _, rfl, huser, hshell⟩

/-- **Every line feed that reaches a terminal follows a return.** A session that has sent nothing
starts a shell, and neither the name of its user nor that of its device holds a line feed. Then
whatever is done at its terminal, however often it is attached and whatever bytes it is fed, and
whatever its commands print: every line feed of all that was sent stands directly behind a return.
This is not for want of output: what the next line prints is shown with nothing added or lost but
returns, as long as its channel carries text, and a prompt follows. -/
theorem feeds_follow_returns (hopen : c.session.closed = false)
    (hunsent : c.session.channel.sent = "")
    (hvalues : ∀ entry ∈ c.session.env, '\n' ∉ entry.2.toList)
    (hhost : '\n' ∉ c.session.device.hostname.toList) {user : String}
    (huser : '\n' ∉ (c.userOf user).toList) {deeds : List Deed}
    (hdeeds : ∀ deed ∈ deeds, deed.leavesTerminal = true) :
    let d := deeds.foldl after (c.logIn user)
    Text.Returned d.session.channel.sent.toList ∧
      ∀ line output, (d.execute line).1.response = .text output → (d.execute line).2.Smooth →
        (d.execute line).2.session.attached = true →
        ∃ w shown, (d.execute line).2.session.workspace? = some w ∧
          shown.toList.filter (· ≠ '\r') = output.toList.filter (· ≠ '\r') ∧
          (d.runAtTerminal line).2.session.channel.sent =
            (d.execute line).2.session.channel.sent ++ shown ++
              Shell.prompt (d.execute line).2.session.device w.user w.files := by
  intro d
  have hd : d.session.EndsLines :=
    endsLines_deeds (endsLines_logIn hopen hunsent hvalues hhost huser) hdeeds
  refine ⟨hd.sent, fun line output houtput hsmooth hattached => ?_⟩
  obtain ⟨w, hw, -⟩ := (endsLines_execute hd line).shell
  have hshown := sent_runAtTerminal houtput hsmooth hattached hw
  exact ⟨w, Text.crlf output, hw, Text.filter_crlf output, hshown⟩

/-- The superuser attaches a terminal, prints a file and logs out. -/
theorem feeds_follow_returns_example :
    let deeds := [Deed.attach, .feed "cat /etc/passwd\r".toUTF8.toList, .feed [0x04]]
    (exampleArrival.session.closed = false ∧ exampleArrival.session.channel.sent = "" ∧
      (∀ entry ∈ exampleArrival.session.env, '\n' ∉ entry.2.toList) ∧
      '\n' ∉ exampleArrival.session.device.hostname.toList ∧
      '\n' ∉ (exampleArrival.userOf "root").toList ∧
      ∀ deed ∈ deeds, deed.leavesTerminal = true) ∧
    Text.Returned
      (deeds.foldl after (exampleArrival.logIn "root")).session.channel.sent.toList := by
  intro deeds
  have hvalues : ∀ entry ∈ exampleArrival.session.env, '\n' ∉ entry.2.toList :=
    List.forall_mem_nil _
  have hhost : '\n' ∉ exampleArrival.session.device.hostname.toList := by decide
  have huser : '\n' ∉ (exampleArrival.userOf "root").toList := by decide
  have hdeeds : ∀ deed ∈ deeds, deed.leavesTerminal = true := by
    simp only [deeds, List.forall_mem_cons]
    exact ⟨rfl, rfl, rfl, List.forall_mem_nil _⟩
  exact ⟨⟨rfl, rfl, hvalues, hhost, huser, hdeeds⟩,
    (feeds_follow_returns rfl rfl hvalues hhost huser hdeeds).1⟩

end Scene
end Honeypot
