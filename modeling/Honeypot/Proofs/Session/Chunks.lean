import Honeypot.Proofs.Session.Lines

/-!
# Input in chunks

It makes no difference to a session how its input is cut into chunks: taking them one after the
other comes to taking all of their bytes at once, but for the deadline (`undated_feed_flatten`).
Nothing that a chunk brings about looks at the deadline (`feedBytes_dated`), and a session stops in
the middle of a chunk only when it is closed (`press_cases`). The latter needs a channel that does
not fail: the rest of the chunk in which a channel fails is still taken.
-/

namespace Honeypot

structure Channel.Carries (c : Channel) : Prop where
  sends : c.failsToSend = false
  lasts : c.lasts? = none
  unclosed : c.closed = false

theorem Channel.Carries.exists_send {c : Channel} (h : c.Carries) (text : String) :
    ∃ d, c.send? text = some d ∧ d.Carries := by
  unfold send?
  rw [h.sends, h.lasts, h.unclosed]
  exact ⟨_, rfl, rfl, rfl, rfl⟩

namespace Scene

variable {τ : Type}

/-! ## Deadlines -/

def dated (c : Scene τ) (t? : Option τ) : Scene τ := { c with session.deadline? := t? }

section Dated

variable (c : Scene τ) (t? : Option τ)

theorem session_dated : (c.dated t?).session = { c.session with deadline? := t? } := rfl

theorem station_dated : (c.dated t?).station = c.station := rfl

theorem measure_dated (f : Metrics.Collector → Metrics.Collector) :
    (c.dated t?).measure f = (c.measure f).dated t? := rfl

theorem hangUp_dated : (c.dated t?).hangUp = c.hangUp.dated t? := by
  unfold hangUp dated
  dsimp only
  split <;> rfl

theorem cleanUp_dated : (c.dated t?).cleanUp = c.cleanUp.dated t? := rfl

theorem beginClosing_dated (reason : String) :
    (c.dated t?).beginClosing reason = (c.beginClosing reason).dated t? := rfl

theorem ensureLoggedIn_dated : (c.dated t?).ensureLoggedIn = c.ensureLoggedIn.dated t? := by
  unfold ensureLoggedIn logIn dated
  dsimp only
  split
  · split <;> rfl
  · rfl

variable [Clock τ]

theorem perform_dated (task : Task) :
    (c.dated t?).perform task = ((c.perform task).1.dated t?, (c.perform task).2) := by
  unfold perform dated
  cases task with
  | emit r => rfl
  | lookUp =>
    dsimp only
    cases (c.station.lookUp c.session.peerIp).2 with
    | error _ => rfl
    | ok facts => cases facts <;> rfl

theorem carryOut_dated (number : Nat) (task : Task) :
    (c.dated t?).carryOut number task = (c.carryOut number task).dated t? := by
  unfold carryOut
  rw [perform_dated]
  dsimp only
  split <;> rfl

theorem submit_dated (task : Task) :
    (c.dated t?).submit task = (c.submit task).dated t? := by
  let taken : Scene τ := { c with station.jobs := c.station.jobs + 1 }
  have hdone : (taken.dated t?).carryOut c.station.jobs task =
      (taken.carryOut c.station.jobs task).dated t? := carryOut_dated taken t? _ task
  unfold submit
  rw [station_dated]
  cases c.station.pool with
  | shut => rfl
  | later => rfl
  | atOnce => exact congrArg (notePending · c.station.jobs) hdone

theorem emit_dated (kind : Events.Kind) (fields : List (String × Json)) :
    (c.dated t?).emit kind fields = (c.emit kind fields).dated t? := by
  have hheading : (c.dated t?).session.heading = c.session.heading := rfl
  unfold emit
  rw [submit_dated, hheading, apply_ite (dated · t?)]
  rfl

theorem signOff_dated (reason : String) :
    (c.dated t?).signOff reason = (c.signOff reason).dated t? := by
  let left : Scene τ := { c with station.registry := c.station.registry.leave c.session.id }
  have htold (kind : Events.Kind) (fields : List (String × Json)) :
      (left.dated t?).emit kind fields = (left.emit kind fields).dated t? :=
    emit_dated left t? kind fields
  unfold signOff
  rw [apply_ite (dated · t?)]
  exact ite_congr rfl (fun _ => congrArg (measure · _) (htold _ _)) fun _ => rfl

theorem ended_dated (reason : String) :
    (c.dated t?).ended reason = (c.ended reason).dated t? := by
  rw [ended_eq, ended_eq, beginClosing_dated, hangUp_dated, signOff_dated, cleanUp_dated,
    apply_ite (dated · t?)]
  rfl

theorem send_dated (text : String) : (c.dated t?).send text = (c.send text).dated t? := by
  unfold send
  rw [ended_dated, apply_ite (dated · t?)]
  refine ite_congr rfl (fun _ => rfl) fun _ => ?_
  rw [session_dated]
  dsimp only
  cases c.session.channel.send? text <;> rfl

theorem sendPrompt_dated : (c.dated t?).sendPrompt = c.sendPrompt.dated t? := by
  unfold sendPrompt
  rw [session_dated]
  dsimp only
  cases c.session.workspace? with
  | none => rfl
  | some w => exact send_dated c t? _

theorem wait_dated (time : τ) :
    (c.dated t?).wait time = ((c.wait time).1, (c.wait time).2.dated t?) := by
  have hended (reason : String) := ended_dated { c with session.interruption? := none } t? reason
  have hclosed : (c.dated t?).session.closed = c.session.closed := rfl
  have hinterruption : (c.dated t?).session.interruption? = c.session.interruption? := rfl
  unfold wait
  rw [hclosed, hinterruption]
  split
  · rfl
  · cases c.session.interruption? with
    | none => rfl
    | some reason => exact congrArg (Prod.mk true) (hended reason)

/-! ## Lines -/

theorem noteDownload_dated (d : Shell.Download) :
    (c.dated t?).noteDownload d = (c.noteDownload d).dated t? :=
  emit_dated (c.measure fun m => m.downloaded d.tool.name) t? .download _

theorem noteDownloads_dated (ds : List Shell.Download) :
    ds.foldl noteDownload (c.dated t?) = (ds.foldl noteDownload c).dated t? := by
  induction ds generalizing c with
  | nil => rfl
  | cons d ds ih => rw [List.foldl_cons, List.foldl_cons, noteDownload_dated, ih]

theorem runLine_dated (w : Workspace) (line : String) :
    (c.dated t?).runLine w line = ((c.runLine w line).1, (c.runLine w line).2.dated t?) := by
  have hrun : (c.dated t?).shellRun w line = c.shellRun w line := rfl
  have hworked (s : Shell.State) : (c.dated t?).worked w s = (c.worked w s).dated t? := rfl
  rw [runLine_eq, runLine_eq, hrun, hworked, noteDownloads_dated]

theorem runEntered_dated (w : Workspace) (line : String) :
    (c.dated t?).runEntered w line =
      ((c.runEntered w line).1, (c.runEntered w line).2.dated t?) := by
  have hnoted : (c.dated t?).remembering line = (c.remembering line).dated t? := rfl
  have hdelay : (c.dated t?).session.delay = c.session.delay := rfl
  rw [runEntered_eq, runEntered_eq, hnoted, hdelay, wait_dated]
  split
  · dsimp only
    split
    · rfl
    · exact runLine_dated _ t? w line
  · exact runLine_dated _ t? w line

theorem giveToShell_dated (line : String) :
    (c.dated t?).giveToShell line = ((c.giveToShell line).1, (c.giveToShell line).2.dated t?) := by
  unfold giveToShell
  rw [session_dated]
  dsimp only
  cases c.session.workspace? with
  | none => rfl
  | some w =>
    dsimp only
    split
    · rfl
    · split
      · rfl
      · exact runEntered_dated c t? w _

omit [Clock τ] in
theorem counted_dated : (c.dated t?).counted = c.counted.dated t? := by
  unfold counted
  rw [ensureLoggedIn_dated]
  rfl

theorem noteLine_dated (line : String) (response? : Option Shell.Response) :
    (c.dated t?).noteLine line response? = (c.noteLine line response?).dated t? := by
  unfold noteLine
  rw [emit_dated, measure_dated, apply_ite (dated · t?)]
  rfl

theorem execute_dated (line : String) :
    (c.dated t?).execute line = ((c.execute line).1, (c.execute line).2.dated t?) := by
  rw [execute_eq, execute_eq, counted_dated, giveToShell_dated, noteLine_dated]

theorem runAtTerminal_dated (line : String) :
    (c.dated t?).runAtTerminal line =
      ((c.runAtTerminal line).1, (c.runAtTerminal line).2.dated t?) := by
  have hclosed (d : Scene τ) : (d.dated t?).session.closed = d.session.closed := rfl
  rw [runAtTerminal_eq, runAtTerminal_eq, execute_dated]
  dsimp only
  rw [hclosed]
  split
  · rfl
  · cases (c.execute line).1.response with
    | exit => exact congrArg (Prod.mk false) (by rw [send_dated, ended_dated])
    | text output => exact congrArg (Prod.mk true) (by rw [send_dated, sendPrompt_dated])

theorem press_dated (key : Terminal.Key) :
    (c.dated t?).press key = ((c.press key).1, (c.press key).2.dated t?) := by
  unfold press
  rw [send_dated]
  cases key with
  | entered line => exact runAtTerminal_dated _ t? line
  | loggedOut => exact congrArg (Prod.mk false) (ended_dated _ t? "logout")
  | enteredBlank => exact congrArg (Prod.mk true) (sendPrompt_dated _ t?)
  | interrupted => exact congrArg (Prod.mk true) (sendPrompt_dated _ t?)
  | erased => rfl
  | tab => rfl
  | typed _ => rfl

/-- **A chunk is taken alike** whenever the session would have done nothing for too long. -/
theorem feedBytes_dated (bytes : List UInt8) :
    (c.dated t?).feedBytes bytes = ((c.feedBytes bytes).1, (c.feedBytes bytes).2.dated t?) := by
  induction bytes generalizing c with
  | nil => rfl
  | cons byte rest ih =>
    cases hw : c.session.workspace? with
    | none =>
      have hw' : (c.dated t?).session.workspace? = none := hw
      rw [feedBytes_of_none hw, feedBytes_of_none hw']
      rfl
    | some w =>
      have hw' : (c.dated t?).session.workspace? = some w := hw
      have htyping (terminal : Terminal.Decoder) :
          (c.dated t?).typing w terminal = (c.typing w terminal).dated t? := rfl
      rw [feedBytes_cons hw, feedBytes_cons hw', htyping]
      cases (w.terminal.step byte).2 with
      | none => exact ih _
      | some key =>
        dsimp only
        rw [press_dated]
        dsimp only
        split
        · exact ih _
        · rfl

end Dated

/-! ## Sessions whose channel carries -/

variable [Clock τ] {c d : Scene τ}

/-- An open session whose channel, if it uses one, carries all text. -/
structure Smooth (c : Scene τ) : Prop where
  closing : c.session.closing = false
  closed : c.session.closed = false
  carries : c.session.attached = true → c.session.channel.Carries

omit [Clock τ] in
/-- What neither closes a session nor uses its channel leaves it smooth. -/
theorem Smooth.congr (h : c.Smooth) (hclosing : d.session.closing = c.session.closing)
    (hclosed : d.session.closed = c.session.closed)
    (hattached : d.session.attached = c.session.attached)
    (hchannel : d.session.channel = c.session.channel) : d.Smooth where
  closing := hclosing.trans h.closing
  closed := hclosed.trans h.closed
  carries hat := hchannel ▸ h.carries (hattached ▸ hat)

theorem smooth_send (h : c.Smooth) (text : String) : (c.send text).Smooth := by
  unfold send
  split
  · exact h
  · next hsends =>
    have hattached : c.session.attached = true := by
      cases hcase : c.session.attached with
      | true => rfl
      | false => exact absurd (by rw [hcase]; rfl) hsends
    obtain ⟨channel, hsent, hcarries⟩ := (h.carries hattached).exists_send text
    rw [hsent]
    exact ⟨h.closing, h.closed, fun _ => hcarries⟩

theorem smooth_sendPrompt (h : c.Smooth) : c.sendPrompt.Smooth := by
  unfold sendPrompt
  split
  · exact smooth_send h _
  · exact h

/-- A line that is run leaves the session open and its channel alone, or closed. -/
theorem smooth_execute (h : c.Smooth) (line : String) :
    (c.execute line).2.Smooth ∨ (c.execute line).2.Shut := by
  have hcounted : c.counted.Smooth := by
    apply h.congr <;> rw [session_counted]
  rw [execute_eq]
  dsimp only
  obtain hran | ⟨d, reason, hworks, hended⟩ := giveToShell_cases hcounted.closed line
  · have hgiven : (c.counted.giveToShell line).2.Smooth := by
      apply hcounted.congr <;> rw [session_of_ran hran]
    refine .inl ?_
    apply hgiven.congr <;> rw [session_noteLine]
  · have hclosing : d.session.closing = false := by
      rw [hworks.session]
      exact hcounted.closing
    have hshut : (d.ended reason).Shut := shut_ended hclosing reason
    have hsilent (response? : Option Shell.Response) :
        (d.ended reason).noteLine line response? = d.ended reason := if_pos hshut.closed
    rw [hended]
    exact .inr (by rwa [hsilent])

/-- **A key leaves the session open exactly if it goes on.** -/
theorem press_cases (h : c.Smooth) (key : Terminal.Key) :
    (c.press key).1 = true ∧ (c.press key).2.Smooth ∨
      (c.press key).1 = false ∧ (c.press key).2.Shut := by
  have hsent := smooth_send h key.echo
  unfold press
  dsimp only
  generalize c.send key.echo = c at hsent
  cases key with
  | loggedOut => exact .inr ⟨rfl, shut_ended hsent.closing "logout"⟩
  | entered line =>
    dsimp only
    rw [runAtTerminal_eq]
    obtain hsmooth | hshut := smooth_execute hsent line
    · have hopen : ¬(c.execute line).2.session.closed = true :=
        Bool.eq_false_iff.mp hsmooth.closed
      rw [if_neg hopen]
      cases (c.execute line).1.response with
      | exit => exact .inr ⟨rfl, shut_ended (smooth_send hsmooth _).closing "exit"⟩
      | text output => exact .inl ⟨rfl, smooth_sendPrompt (smooth_send hsmooth _)⟩
    · rw [if_pos hshut.closed]
      exact .inr ⟨rfl, hshut⟩
  | enteredBlank => exact .inl ⟨rfl, smooth_sendPrompt hsent⟩
  | interrupted => exact .inl ⟨rfl, smooth_sendPrompt hsent⟩
  | erased => exact .inl ⟨rfl, hsent⟩
  | tab => exact .inl ⟨rfl, hsent⟩
  | typed _ => exact .inl ⟨rfl, hsent⟩

/-! ## Chunks after one another -/

/-- **Bytes after one another** are taken as a whole, unless the session is closed before the last
of them. -/
theorem feedBytes_append (h : c.Smooth) (first second : List UInt8) :
    (c.feedBytes first).2.Smooth ∧
        c.feedBytes (first ++ second) = (c.feedBytes first).2.feedBytes second ∨
      (c.feedBytes first).2.Shut ∧ c.feedBytes (first ++ second) = c.feedBytes first := by
  induction first generalizing c with
  | nil => exact .inl ⟨h, rfl⟩
  | cons byte rest ih =>
    cases hw : c.session.workspace? with
    | none =>
      rw [feedBytes_of_none hw, feedBytes_of_none hw]
      exact .inl ⟨h, (feedBytes_of_none hw second).symm⟩
    | some w =>
      have htyping : (c.typing w (w.terminal.step byte).1).Smooth := h.congr rfl rfl rfl rfl
      rw [List.cons_append, feedBytes_cons hw, feedBytes_cons hw]
      cases (w.terminal.step byte).2 with
      | none => exact ih htyping
      | some key =>
        dsimp only
        obtain ⟨hgoes, hsmooth⟩ | ⟨hstops, hshut⟩ := press_cases htyping key
        · rw [if_pos hgoes, if_pos hgoes]
          exact ih hsmooth
        · -- The rest of the first bytes is dropped, and so are the second ones behind it.
          rw [if_neg (Bool.eq_false_iff.mp hstops), if_neg (Bool.eq_false_iff.mp hstops)]
          exact .inr ⟨hshut, rfl⟩

def undated (c : Scene τ) : Scene τ := c.dated none

omit [Clock τ] in
theorem undated_dated (c : Scene τ) (t? : Option τ) : (c.dated t?).undated = c.undated := rfl

theorem touch_eq (c : Scene τ) : ∃ t?, c.touch = c.dated t? := by
  unfold touch
  split
  · exact ⟨_, rfl⟩
  · exact ⟨c.session.deadline?, rfl⟩

theorem feed_eq (h : c.Smooth) (bytes : List UInt8) :
    ∃ t?, (c.feed bytes).2 = (c.feedBytes bytes).2.dated t? := by
  cases hw : c.session.workspace? with
  | none =>
    refine ⟨c.session.deadline?, ?_⟩
    unfold feed
    rw [feedBytes_of_none hw, h.closed, hw]
    rfl
  | some w =>
    obtain ⟨t?, htouch⟩ := touch_eq c
    refine ⟨t?, ?_⟩
    rw [feed_eq_goOn h.closed hw, htouch]
    exact congrArg Prod.snd (feedBytes_dated c t? bytes)

theorem undated_feed (h : c.Smooth) (bytes : List UInt8) :
    (c.feed bytes).2.undated = (c.feedBytes bytes).2.undated := by
  obtain ⟨t?, hfed⟩ := feed_eq h bytes
  rw [hfed, undated_dated]

/-- **Two chunks** are taken as one, but for the deadline. -/
theorem undated_feed_append (h : c.Shut ∨ c.Smooth) (first second : List UInt8) :
    ((c.feed first).2.Shut ∨ (c.feed first).2.Smooth) ∧
      (c.feed (first ++ second)).2.undated = ((c.feed first).2.feed second).2.undated := by
  obtain h | h := h
  · rw [feed_of_shut h, feed_of_shut h, feed_of_shut h]
    exact ⟨.inl h, rfl⟩
  · obtain ⟨t?, hfed⟩ := feed_eq h first
    rw [undated_feed h, hfed]
    obtain ⟨hsmooth, happend⟩ | ⟨hshut, happend⟩ := feedBytes_append h first second
    · have hdated : ((c.feedBytes first).2.dated t?).Smooth := hsmooth.congr rfl rfl rfl rfl
      refine ⟨.inr hdated, ?_⟩
      rw [undated_feed hdated, feedBytes_dated, undated_dated, happend]
    · have hdated : ((c.feedBytes first).2.dated t?).Shut := ⟨hshut.closing, hshut.closed⟩
      refine ⟨.inl hdated, ?_⟩
      rw [feed_of_shut hdated, undated_dated, happend]

/-- **Chunks after one another** come to the same as all of their bytes at once: the whole scene,
with all that was sent and told of, is the same but for the deadline of the session. This holds of
a closed session and of an open one whose channel, if it uses one, carries all text. -/
theorem undated_feed_flatten (h : c.Shut ∨ c.Smooth) (chunks : List (List UInt8)) :
    (chunks.foldl (fun c chunk => (c.feed chunk).2) c).undated =
      (c.feed chunks.flatten).2.undated := by
  induction chunks generalizing c with
  | nil =>
    obtain h | h := h
    · rw [List.foldl_nil, feed_of_shut h]
    · rw [List.flatten_nil, undated_feed h]
      rfl
  | cons chunk rest ih =>
    obtain ⟨hfed, happend⟩ := undated_feed_append h chunk rest.flatten
    rw [List.foldl_cons, List.flatten_cons, ih hfed, happend]

/-- A user at the terminal of a channel that carries everything. -/
def exampleTypist : Scene Int :=
  { exampleUser with session.channel := .fresh }

/-- The cuts fall into an escape sequence, between a return and a line feed, and behind the byte
that ends the session. -/
theorem undated_feed_flatten_example :
    exampleTypist.Smooth ∧
    ([[0x1B, 0x5B], [0x41, 0x6C, 0x73, 0x0D], [], [0x0A, 0x04], [0x78]].foldl
        (fun c chunk => (c.feed chunk).2) exampleTypist).undated =
      (exampleTypist.feed [0x1B, 0x5B, 0x41, 0x6C, 0x73, 0x0D, 0x0A, 0x04, 0x78]).2.undated := by
  have hsmooth : exampleTypist.Smooth := ⟨rfl, rfl, fun _ => ⟨rfl, rfl, rfl⟩⟩
  exact ⟨hsmooth, undated_feed_flatten (.inr hsmooth)
    [[0x1B, 0x5B], [0x41, 0x6C, 0x73, 0x0D], [], [0x0A, 0x04], [0x78]]⟩

end Scene
end Honeypot
