import Mathlib.Data.List.Chain
import Honeypot.Proofs.Shell.Segments

/-!
# Outputs behind bars

A line that ends in a text takes a course: each of its commands is passed over, or runs with some
input and prints something (`run_runSegments_eq_text_iff`). A command behind a bar always runs and
takes the latest output that is left. That is the output of the command directly before it if this
one has run; if it was passed over, it is an earlier output, which is then not printed
(`bars_hand_on_iff`).
-/

namespace Honeypot.Shell

/-! ## Courses -/

/-- What becomes of a command of a line. -/
inductive Outcome where
  | passedOver
  | ran (input? : Option String) (output : String)
  deriving Repr, DecidableEq

def Outcome.output? : Outcome → Option String
  | .passedOver => none
  | .ran _ output => some output

/-- A command of a line and what became of it. -/
structure Turn where
  segment : Segment
  outcome : Outcome
  deriving Repr, DecidableEq

/-- The course that the commands of a line take, from the outputs so far and from whether the
latest command has failed. -/
inductive Course (c : Context) :
    List String → Bool → State → List Segment → List Turn → String → State → Prop where
  | finish {outputs : List String} {failed : Bool} {s : State} :
    Course c outputs failed s [] [] (String.join outputs.reverse) s
  | passOver {outputs : List String} {failed : Bool} {s s' : State} {segment : Segment}
      {segments : List Segment} {turns : List Turn} {out : String}
      (hpassed : segment.isPassedOver failed = true)
      (rest : Course c outputs failed s segments turns out s') :
    Course c outputs failed s (segment :: segments) (⟨segment, .passedOver⟩ :: turns) out s'
  | run {outputs : List String} {failed : Bool} {s s₁ s' : State} {segment : Segment}
      {segments : List Segment} {inv : Invocation} {output : String} {turns : List Turn}
      {out : String} (hruns : segment.isPassedOver failed = false)
      (hinv : Invocation.parse? segment.text = some inv)
      (hrun : (dispatch { c with input? := segment.takes? c.input? outputs } inv).run s =
        (.ok (.text output), s₁))
      (rest : Course c (output :: segment.leaves outputs) (inv.failed output) s₁ segments turns
        out s') :
    Course c outputs failed s (segment :: segments)
      (⟨segment, .ran (segment.takes? c.input? outputs) output⟩ :: turns) out s'

variable {c : Context} {outputs : List String} {failed : Bool} {s s' : State}
  {segments : List Segment} {turns : List Turn} {out : String}

theorem Course.run_eq (h : Course c outputs failed s segments turns out s') :
    (runSegments c outputs failed segments).run s = (.ok (.text out), s') := by
  induction h with
  | finish => rw [runSegments_nil, run_pure]
  | passOver hpassed _ ih =>
    rw [runSegments_of_passedOver hpassed]
    exact ih
  | run hruns hinv hrun _ ih =>
    rw [runSegments_of_runs hruns hinv, run_bind_of_ok hrun]
    exact ih

/-- **Commands end in a text** exactly if they take a course to it. -/
theorem run_runSegments_eq_text_iff
    (hnamed : ∀ g ∈ segments, (Invocation.parse? g.text).isSome = true) :
    (runSegments c outputs failed segments).run s = (.ok (.text out), s') ↔
      ∃ turns, Course c outputs failed s segments turns out s' := by
  refine ⟨fun h => ?_, fun ⟨_, h⟩ => h.run_eq⟩
  induction segments generalizing outputs failed s with
  | nil =>
    rw [runSegments_nil, run_pure] at h
    cases h
    exact ⟨[], .finish⟩
  | cons segment segments ih =>
    obtain ⟨hname, hnamed⟩ := List.forall_mem_cons.mp hnamed
    cases hpassed : segment.isPassedOver failed with
    | true =>
      rw [runSegments_of_passedOver hpassed] at h
      obtain ⟨turns, hrest⟩ := ih hnamed h
      exact ⟨_, .passOver hpassed hrest⟩
    | false =>
      obtain ⟨inv, hinv⟩ := Option.isSome_iff_exists.mp hname
      rw [runSegments_of_runs hpassed hinv] at h
      rcases hrun : (dispatch { c with input? := segment.takes? c.input? outputs } inv).run s with
        ⟨e | (output | _), s₁⟩
      · rw [run_bind_of_error hrun] at h
        cases h
      · rw [run_bind_of_ok hrun] at h
        obtain ⟨turns, hrest⟩ := ih hnamed h
        exact ⟨_, .run hpassed hinv hrun hrest⟩
      · rw [run_bind_of_ok hrun] at h
        cases h

theorem Course.map_segment (h : Course c outputs failed s segments turns out s') :
    turns.map Turn.segment = segments := by
  induction h with
  | finish => rfl
  | passOver _ _ ih => exact congrArg _ ih
  | run _ _ _ _ ih => exact congrArg _ ih

/-! ## What stands behind a bar -/

namespace Turn

/-- Before the first command of a line nothing has run. -/
def start : Turn := ⟨⟨.start, ""⟩, .passedOver⟩

/-- The rule for a command and the one directly before it: behind a bar it runs exactly if that
one has run, and its input is what that one printed. -/
def HandsOn (before after : Turn) : Prop :=
  after.segment.joint = .pipe →
    (after.outcome = .passedOver ↔ before.outcome = .passedOver) ∧
    ∀ input? output, after.outcome = .ran input? output → input? = before.outcome.output?

/-- What lines keep to in place of the rule: a command behind a bar runs, and its input is what
the one directly before it printed if that one has run. -/
def Takes (before after : Turn) : Prop :=
  after.segment.joint = .pipe →
    ∃ input? output, after.outcome = .ran input? output ∧
      ∀ printed, before.outcome.output? = some printed → input? = some printed

/-- A command behind a bar has one directly before it that has run. -/
def Joins (before after : Turn) : Prop :=
  after.segment.joint = .pipe → before.outcome ≠ .passedOver

/-- Where what a command takes is settled, the rule asks for nothing but that the command before
the bar has run. -/
theorem handsOn_iff {before after : Turn} (h : before.Takes after) :
    before.HandsOn after ↔ before.Joins after := by
  refine forall_congr' fun hpipe => ?_
  obtain ⟨input?, output, hran, htakes⟩ := h hpipe
  rw [hran]
  cases hbefore : before.outcome with
  | passedOver =>
    refine ⟨fun hrule => ?_, fun hne => absurd rfl hne⟩
    cases hrule.1.mpr rfl
  | ran given printed =>
    rw [hbefore] at htakes
    have hran : Outcome.ran input? output = .passedOver ↔ Outcome.ran given printed = .passedOver :=
      iff_of_false nofun nofun
    refine ⟨fun _ => nofun, fun _ => ⟨hran, ?_⟩⟩
    rintro _ _ ⟨⟩
    exact htakes printed rfl

theorem chain_handsOn_iff {turns : List Turn} (h : turns.IsChain Takes) :
    turns.IsChain HandsOn ↔ turns.IsChain Joins := by
  induction h with
  | nil => exact iff_of_true .nil .nil
  | singleton turn => exact iff_of_true (.singleton _) (.singleton _)
  | cons_cons htakes _ ih =>
    rw [List.isChain_cons_cons, List.isChain_cons_cons, handsOn_iff htakes, ih]

end Turn

/-- The outputs that no command behind a bar stands directly after. -/
def printed : List Turn → List String
  | [] => []
  | turn :: rest =>
    if rest.head?.any (·.segment.joint = .pipe) then printed rest
    else turn.outcome.output?.toList ++ printed rest

theorem printed_start (turns : List Turn) : printed (Turn.start :: turns) = printed turns := by
  rw [printed]
  exact ite_self _

theorem printed_singleton (turn : Turn) : printed [turn] = turn.outcome.output?.toList :=
  List.append_nil _

theorem printed_of_pipe {before after : Turn} (h : after.segment.joint = .pipe)
    (turns : List Turn) : printed (before :: after :: turns) = printed (after :: turns) :=
  if_pos (decide_eq_true h)

theorem printed_of_not_pipe {before after : Turn} (h : after.segment.joint ≠ .pipe)
    (turns : List Turn) :
    printed (before :: after :: turns) =
      before.outcome.output?.toList ++ printed (after :: turns) :=
  if_neg (mt of_decide_eq_true h)

theorem not_pipe_of_isPassedOver {segment : Segment} (h : segment.isPassedOver failed = true) :
    segment.joint ≠ .pipe := by
  intro hpipe
  unfold Segment.isPassedOver at h
  rw [hpipe] at h
  cases h

/-- **A command behind a bar takes the output directly before it**, if there is one. -/
theorem Course.takes (h : Course c outputs failed s segments turns out s') (before : Turn)
    (hbefore : ∀ printed, before.outcome.output? = some printed →
      outputs.head? = some printed) : (before :: turns).IsChain Turn.Takes := by
  induction h generalizing before with
  | finish => exact .singleton _
  | passOver hpassed _ ih =>
    exact .cons_cons (fun hpipe => absurd hpipe (not_pipe_of_isPassedOver hpassed)) (ih _ nofun)
  | run _ _ _ _ ih =>
    refine .cons_cons (fun hpipe => ⟨_, _, rfl, fun printed hprinted => ?_⟩) (ih _ fun _ h => h)
    unfold Segment.takes?
    rw [if_pos hpipe, List.headD_eq_head?_getD, hbefore printed hprinted]
    rfl

theorem join_reverse_append (x? : Option String) (earlier : List String) :
    String.join (x?.toList ++ earlier).reverse =
      String.join earlier.reverse ++ String.join x?.toList := by
  have hreverse : x?.toList.reverse = x?.toList := by cases x? <;> rfl
  rw [List.reverse_append, String.join_append, hreverse]

/-- Where every bar stands behind a command that has run, what is printed is what no command
behind a bar has taken. -/
theorem Course.out_eq (h : Course c outputs failed s segments turns out s') {before : Turn}
    {earlier : List String} (houtputs : outputs = before.outcome.output?.toList ++ earlier)
    (hjoins : (before :: turns).IsChain Turn.Joins) :
    out = String.join earlier.reverse ++ String.join (printed (before :: turns)) := by
  -- The output of the command before lies on top of the earlier ones, until a bar takes it.
  induction h generalizing before earlier with
  | finish => rw [houtputs, join_reverse_append, printed_singleton]
  | passOver hpassed _ ih =>
    rw [ih rfl (List.isChain_cons_cons.mp hjoins).2, houtputs, join_reverse_append,
      printed_of_not_pipe (not_pipe_of_isPassedOver hpassed), String.join_append,
      String.append_assoc]
  | @run outputs _ _ _ _ segment _ _ output _ _ _ _ _ _ ih =>
    have hnext : output :: segment.leaves outputs =
        (Outcome.ran (segment.takes? c.input? outputs) output).output?.toList ++
          segment.leaves outputs := rfl
    obtain ⟨hjoin, hjoins⟩ := List.isChain_cons_cons.mp hjoins
    rw [ih hnext hjoins, houtputs]
    by_cases hpipe : segment.joint = .pipe
    · rw [printed_of_pipe hpipe]
      cases hbefore : before.outcome with
      | passedOver => exact absurd hbefore (hjoin hpipe)
      | ran given taken =>
        have hleaves : segment.leaves (taken :: earlier) = earlier := if_pos hpipe
        exact congrArg (fun left => String.join left.reverse ++ _) hleaves
    · have hleaves : segment.leaves (before.outcome.output?.toList ++ earlier) =
          before.outcome.output?.toList ++ earlier := if_neg hpipe
      rw [hleaves, join_reverse_append, printed_of_not_pipe hpipe, String.join_append,
        String.append_assoc]

/-! ## Courses of plain commands -/

section Plain

variable {room : Nat} {segment : Segment} {rest : List Segment} (hroom : c.room = room + 2)
  (hruns : segment.isPassedOver failed = false)

include hroom hruns

theorem course_whoami (hinv : Invocation.parse? segment.text = some (.ofWords "whoami" []))
    (hrest : Course c ((c.user ++ "\n") :: segment.leaves outputs)
      ((Invocation.ofWords "whoami" []).failed (c.user ++ "\n")) s rest turns out s') :
    Course c outputs failed s (segment :: rest)
      (⟨segment, .ran (segment.takes? c.input? outputs) (c.user ++ "\n")⟩ :: turns) out s' := by
  have hcalls : ({ c with input? := segment.takes? c.input? outputs } : Context).room = room + 2 :=
    hroom
  exact .run hruns hinv (run_dispatch_whoami (by decide) (by decide) hcalls s) hrest

theorem course_sleep (hinv : Invocation.parse? segment.text = some (.ofWords "sleep" ["0"]))
    (hrest : Course c ("" :: segment.leaves outputs)
      ((Invocation.ofWords "sleep" ["0"]).failed "") s rest turns out s') :
    Course c outputs failed s (segment :: rest)
      (⟨segment, .ran (segment.takes? c.input? outputs) ""⟩ :: turns) out s' := by
  have hcalls : ({ c with input? := segment.takes? c.input? outputs } : Context).room = room + 2 :=
    hroom
  have hcommand : Command.ofName? (Invocation.ofWords "sleep" ["0"]).command = some .sleep := by
    decide
  refine .run hruns hinv ?_ hrest
  rw [dispatch_of_alone (by decide) hcommand (by decide) hcalls]
  rfl

end Plain

/-! ## Lines -/

/-- The course that a line takes. -/
def Goes (c : Context) (line : String) (s : State) (turns : List Turn) (out : String)
    (s' : State) : Prop :=
  ∃ called, c.call = .ok called ∧ Course called [] false s (split line) turns out s'

/-- **A line ends in a text** exactly if it takes a course to it. -/
theorem run_runLine_eq_text_iff {line : String} :
    (runLine c line).run s = (.ok (.text out), s') ↔ ∃ turns, Goes c line s turns out s' := by
  rw [runLine]
  cases hroom : c.room with
  | zero =>
    unfold Goes
    rw [Context.call_of_no_room hroom]
    refine ⟨fun h => ?_, fun ⟨_, _, h, _⟩ => by cases h⟩
    rw [run_bind, run_lift] at h
    cases h
  | succ room =>
    unfold Goes
    rw [call_bind hroom, Context.call_of_room hroom,
      run_runSegments_eq_text_iff fun _ => isSome_parse?_of_mem_split]
    constructor
    · rintro ⟨turns, h⟩
      exact ⟨turns, _, rfl, h⟩
    · rintro ⟨turns, _, ⟨⟩, h⟩
      exact ⟨turns, h⟩

/-- **What bars do.** A line ends in a text exactly if its commands take a course to it. On this
course every command behind a bar runs, and takes what the command directly before it printed if
that one has run. All bars keep to the rule that a command behind a bar runs exactly if the one
directly before it does, and with its output, and the line prints the outputs that stand before no
bar, exactly if no bar stands at the beginning of the line or behind a command that was passed
over. -/
theorem bars_hand_on_iff (c : Context) (line : String) (s : State) :
    (∀ out s', (runLine c line).run s = (.ok (.text out), s') ↔
      ∃ turns, Goes c line s turns out s') ∧
    ∀ turns out s', Goes c line s turns out s' →
      turns.map Turn.segment = split line ∧ (Turn.start :: turns).IsChain Turn.Takes ∧
      ((Turn.start :: turns).IsChain Turn.HandsOn ∧ out = String.join (printed turns) ↔
        (Turn.start :: turns).IsChain Turn.Joins) := by
  refine ⟨fun _ _ => run_runLine_eq_text_iff, fun turns out s' ⟨called, _, h⟩ => ?_⟩
  have htakes := h.takes Turn.start nofun
  have hrule := Turn.chain_handsOn_iff htakes
  refine ⟨h.map_segment, htakes, fun hkept => hrule.mp hkept.1, fun hjoins => ?_⟩
  refine ⟨hrule.mpr hjoins, ?_⟩
  have hnone : ([] : List String) = Turn.start.outcome.output?.toList ++ [] := rfl
  have hout := h.out_eq hnone hjoins
  rw [printed_start] at hout
  exact hout.trans String.empty_append

/-- The course of a line whose bar stands behind a command that has run. -/
def joinedTurns : List Turn := [
  ⟨⟨.start, "whoami"⟩, .ran none "pi\n"⟩, ⟨⟨.always, "whoami"⟩, .ran none "pi\n"⟩,
  ⟨⟨.pipe, "sleep 0"⟩, .ran (some "pi\n") ""⟩]

theorem bars_hand_on_example :
    Goes guest "whoami; whoami | sleep 0" bare joinedTurns "pi\n" bare ∧
    (Turn.start :: joinedTurns).IsChain Turn.HandsOn ∧
    "pi\n" = String.join (printed joinedTurns) := by
  have hsplit : split "whoami; whoami | sleep 0" =
      [⟨.start, "whoami"⟩, ⟨.always, "whoami"⟩, ⟨.pipe, "sleep 0"⟩] := by decide
  have hgoes : Goes guest "whoami; whoami | sleep 0" bare joinedTurns "pi\n" bare := by
    have hline : guest.room = 985 + 1 := rfl
    have hroom : ({ guest with room := 985 } : Context).room = 983 + 2 := rfl
    refine ⟨_, Context.call_of_room hline, ?_⟩
    rw [hsplit]
    refine course_whoami hroom rfl (by decide) ?_
    refine course_whoami hroom rfl (by decide) ?_
    exact course_sleep hroom rfl (by decide) .finish
  have hjoins : (Turn.start :: joinedTurns).IsChain Turn.Joins :=
    .cons_cons nofun (.cons_cons nofun (.cons_cons nofun (.singleton _)))
  have h := bars_hand_on_iff guest "whoami; whoami | sleep 0" bare
  exact ⟨hgoes, (h.2 _ _ _ hgoes).2.2.mpr hjoins⟩

/-- The course of a line whose bar stands behind a command that was passed over. -/
def brokenTurns : List Turn := [
  ⟨⟨.start, "whoami"⟩, .ran none "pi\n"⟩, ⟨⟨.onFailure, "hostname"⟩, .passedOver⟩,
  ⟨⟨.pipe, "sleep 0"⟩, .ran (some "pi\n") ""⟩]

/-- A bar behind a command that was passed over takes an earlier output away. -/
theorem bar_takes_earlier_output :
    (runLine guest "whoami || hostname | sleep 0").run bare = (.ok (.text ""), bare) ∧
    Goes guest "whoami || hostname | sleep 0" bare brokenTurns "" bare ∧
    ¬(Turn.start :: brokenTurns).IsChain Turn.HandsOn ∧
    String.join (printed brokenTurns) = "pi\n" := by
  have hsplit : split "whoami || hostname | sleep 0" =
      [⟨.start, "whoami"⟩, ⟨.onFailure, "hostname"⟩, ⟨.pipe, "sleep 0"⟩] := by decide
  have hgoes : Goes guest "whoami || hostname | sleep 0" bare brokenTurns "" bare := by
    have hline : guest.room = 985 + 1 := rfl
    have hroom : ({ guest with room := 985 } : Context).room = 983 + 2 := rfl
    refine ⟨_, Context.call_of_room hline, ?_⟩
    rw [hsplit]
    refine course_whoami hroom rfl (by decide) (.passOver (by decide) ?_)
    exact course_sleep hroom rfl (by decide) .finish
  refine ⟨run_runLine_eq_text_iff.mpr ⟨_, hgoes⟩, hgoes, fun hrule => ?_, by decide⟩
  obtain ⟨_, hrule⟩ := List.isChain_cons_cons.mp hrule
  obtain ⟨_, hrule⟩ := List.isChain_cons_cons.mp hrule
  cases ((List.isChain_cons_cons.mp hrule).1 rfl).1.mpr rfl

end Honeypot.Shell
