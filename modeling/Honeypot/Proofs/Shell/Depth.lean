import Mathlib.Logic.Function.Iterate
import Mathlib.Logic.Relation
import Honeypot.Proofs.FileSystem.Reading
import Honeypot.Proofs.Shell.Room

/-!
# How deep calls go

Running a line or a command runs others: the commands of the line, the words after the options of
`sudo`, the script of a shell. Each of these jobs is given strictly less text than the job that
starts it (`Job.Starts.length_lt`), and a job runs no others (`jobBy_congr`). So the jobs lie in one
another no deeper than the text is long (`iterate_jobBy`), and a line with room for their calls
gives up only where a command does by itself, which searches files or reads a pattern
(`runLine_ends`).
-/

namespace Honeypot.Shell

/-! ## Jobs -/

/-- What is run: a line, or one command. -/
inductive Job where
  | line (text : String)
  | command (inv : Invocation)

namespace Job

/-- The text that a job can hand on: a line, and the words after the name of a command. -/
def text : Job → String
  | .line text => text
  | .command inv => Text.join " " inv.tokens

/-- The jobs that a job has the shell run: a line its commands, `sudo` the words after its options,
and a shell its script. -/
inductive Starts : Job → Job → Prop where
  | segment {line : String} {segment : Segment} {inv : Invocation} (hmem : segment ∈ split line)
      (hinv : Invocation.parse? segment.text = some inv) : Starts (.line line) (.command inv)
  | words {inv sub : Invocation}
      (hsub : Invocation.parse? (Text.join " " (afterSudoOptions inv.tokens)) = some sub) :
      Starts (.command inv) (.command sub)
  | script {inv : Invocation} (hmem : "-c" ∈ inv.tokens) :
      Starts (.command inv) (.line (unquote (Text.join " " (afterWord "-c" inv.tokens))))

end Job

/-! ## Less and less text -/

theorem length_join (tokens : List String) :
    (Text.join " " tokens).length = tokensSize tokens - 1 := by
  induction tokens with
  | nil => rfl
  | cons t rest ih =>
    cases rest with
    | nil =>
      rw [Text.join_singleton]
      rfl
    | cons u more =>
      have hblank : (" " : String).length = 1 := rfl
      rw [Text.join_cons_cons, String.length_append, String.length_append, ih]
      simp only [tokensSize, List.map_cons, Number.sum_cons]
      omega

theorem length_lt_segmentsSize {segments : List Segment} {segment : Segment}
    (h : segment ∈ segments) : segment.text.length < segmentsSize segments := by
  induction segments with
  | nil => cases h
  | cons first rest ih =>
    simp only [segmentsSize, List.map_cons, Number.sum_cons] at ih ⊢
    obtain rfl | h := List.mem_cons.mp h
    · omega
    · have := ih h
      omega

namespace Job

/-- The characters of a job, with one more for each of the words of a command. -/
def size : Job → Nat
  | .line text => text.length
  | .command inv => tokensSize inv.tokens

/-- How many calls a job makes before it starts another one: a line one, and a command one for the
look-up, one for a program at a path and one for itself. -/
def calls : Job → Nat
  | .line _ => 1
  | .command _ => 3

theorem Starts.size_lt_of_line {line : String} {started : Job} (h : Starts (.line line) started) :
    started.size < line.length := by
  cases h with
  | segment hmem hinv =>
    have hline := segmentsSize_split line
    have hsegment := length_lt_segmentsSize hmem
    have hwords := tokensSize_of_parse? hinv
    simp only [size]
    omega

theorem Starts.size_lt_of_command {inv : Invocation} {started : Job}
    (h : Starts (.command inv) started) : started.size + 1 < tokensSize inv.tokens := by
  cases h with
  | words hsub =>
    have hwords := tokensSize_of_parse? hsub
    have hoptions := tokensSize_afterSudoOptions inv.tokens
    rw [length_join] at hwords
    simp only [size]
    omega
  | script hmem =>
    have hscript := length_unquote_le (Text.join " " (afterWord "-c" inv.tokens))
    have hword := tokensSize_afterWord hmem
    have htwo : ("-c" : String).length = 2 := rfl
    rw [length_join] at hscript
    simp only [size]
    omega

theorem Starts.size_lt {job started : Job} (h : Starts job started) : started.size < job.size := by
  cases job with
  | line text => exact h.size_lt_of_line
  | command inv => exact Nat.lt_of_succ_lt h.size_lt_of_command

theorem length_text_le (job : Job) : job.text.length ≤ job.size := by
  cases job with
  | line text => exact Nat.le_refl _
  | command inv => exact length_join_le inv.tokens

/-- **A job is given strictly less text** than the one that starts it. -/
theorem Starts.length_lt {job started : Job} (h : Starts job started) :
    started.text.length < job.text.length := by
  have hstarted := length_text_le started
  cases job with
  | line text => exact Nat.lt_of_le_of_lt hstarted h.size_lt_of_line
  | command inv =>
    have hsize := h.size_lt_of_command
    show started.text.length < (Text.join " " inv.tokens).length
    rw [length_join]
    omega

end Job

/-! ## One job at a time -/

/-- A way to run jobs. -/
abbrev Runner := Context → Job → Action Response

def runJob : Runner
  | c, .line text => runLine c text
  | c, .command inv => dispatch c inv

section By

variable (run : Runner)

/-- Runs the commands of a line in order, each of them by `run`. -/
def segmentsBy (c : Context) (outputs : List String) (failed : Bool) :
    List Segment → Action Response
  | [] => pure (.text (String.join outputs.reverse))
  | segment :: rest =>
    if segment.isPassedOver failed then segmentsBy c outputs failed rest
    else
      match Invocation.parse? segment.text with
      | none => segmentsBy c outputs failed rest
      | some inv => do
        match ← run { c with input? := segment.takes? c.input? outputs } (.command inv) with
        | .exit => pure .exit
        | .text output =>
          segmentsBy c (output :: segment.leaves outputs) (inv.failed output) rest

/-- Runs a command of the table, and what it starts by `run`. -/
def commandBy (c : Context) (inv : Invocation) (command : Command) : Action Response := do
  let c ← c.call
  match command with
  | .exit => pure .exit
  | .sudo =>
    if inv.tokens.isEmpty then pure (.text sudoUsage)
    else if inv.hasFlag "-l" || inv.hasFlag "--list" then pure (.text (sudoRights c))
    else
      match Invocation.parse? (Text.join " " (afterSudoOptions inv.tokens)) with
      | none => pure (.text "")
      | some sub =>
        if !Text.hasChar sub.name '/' && (Command.ofName? sub.command).isNone then
          pure (.text ("sudo: " ++ sub.name ++ ": command not found\n"))
        else run { c with user := "root" } (.command sub)
  | .shell =>
    if "-c" ∈ inv.tokens then
      run { c with input? := none } (.line (unquote (Text.join " " (afterWord "-c" inv.tokens))))
    else do
      match missingTarget? (← Action.files) inv.args with
      | some target =>
        pure (.text (inv.name ++ ": " ++ target ++ ": No such file or directory\n"))
      | none => pure (.text "")
  | other => do pure (.text (← runAlone c inv other))

/-- Runs a job, and the jobs that it starts by `run`. -/
def jobBy (c : Context) : Job → Action Response
  | .line text => do segmentsBy run (← c.call) [] false (split text)
  | .command inv => do
    let c ← c.call
    if Text.hasChar inv.name '/' then
      let c ← c.call
      match ← Action.look fun s => executableAt c s.files inv.name with
      | .text answer => pure (.text answer)
      | .program name =>
        match Command.ofName? name with
        | none => pure (.text "")
        | some command => commandBy run c { inv with name := name } command
    else
      match Command.ofName? inv.command with
      | none => pure (.text (commandNotFound inv.name))
      | some command => commandBy run c inv command

end By

/-! ### The jobs that a job starts -/

/-- What a command starts is decided by the words after its name. -/
theorem Job.Starts.of_tokens {inv other : Invocation} {job : Job}
    (h : Starts (.command other) job) (htokens : other.tokens = inv.tokens) :
    Starts (.command inv) job := by
  cases h with
  | words hsub =>
    rw [htokens] at hsub
    exact .words hsub
  | script hmem =>
    rw [htokens] at hmem ⊢
    exact .script hmem

section Congr

variable {run run' : Runner}

theorem segmentsBy_congr {segments : List Segment}
    (h : ∀ segment ∈ segments, ∀ inv, Invocation.parse? segment.text = some inv →
      ∀ c, run c (.command inv) = run' c (.command inv))
    (c : Context) (outputs : List String) (failed : Bool) :
    segmentsBy run c outputs failed segments = segmentsBy run' c outputs failed segments := by
  induction segments generalizing outputs failed with
  | nil => rfl
  | cons segment rest ih =>
    obtain ⟨hsegment, hrest⟩ := List.forall_mem_cons.mp h
    unfold segmentsBy
    split
    · exact ih hrest _ _
    · split
      · exact ih hrest _ _
      · next inv hinv =>
        rw [hsegment inv hinv]
        refine bind_congr fun response => ?_
        cases response with
        | exit => rfl
        | text output => exact ih hrest _ _

theorem commandBy_congr {inv : Invocation}
    (h : ∀ job, Job.Starts (.command inv) job → ∀ c, run c job = run' c job)
    (c : Context) (command : Command) :
    commandBy run c inv command = commandBy run' c inv command := by
  refine bind_congr fun c => ?_
  cases command with
  | «sudo» =>
    dsimp only
    split
    · rfl
    · split
      · rfl
      · split
        · rfl
        · next sub hsub => rw [h _ (.words hsub)]
  | shell =>
    dsimp only
    split
    · next hmem => rw [h _ (.script hmem)]
    · rfl
  | _ => rfl

/-- **A job runs no other jobs** than those that it starts. -/
theorem jobBy_congr {job : Job} (h : ∀ started, Job.Starts job started →
    ∀ c, run c started = run' c started) (c : Context) : jobBy run c job = jobBy run' c job := by
  cases job with
  | line text =>
    have hsegment (segment : Segment) (hmem : segment ∈ split text) (inv : Invocation)
        (hinv : Invocation.parse? segment.text = some inv) := h _ (.segment hmem hinv)
    exact bind_congr fun c => segmentsBy_congr hsegment c [] false
  | command inv =>
    have hcommand (name : String) (c : Context) (command : Command) :
        commandBy run c { inv with name := name } command =
          commandBy run' c { inv with name := name } command := by
      refine commandBy_congr ?_ c command
      exact fun started hstarted => h started (hstarted.of_tokens rfl)
    unfold jobBy
    simp only [hcommand]

end Congr

/-! ### What running comes to -/

theorem segmentsBy_runJob (c : Context) (outputs : List String) (failed : Bool)
    (segments : List Segment) :
    segmentsBy runJob c outputs failed segments = runSegments c outputs failed segments := by
  induction segments generalizing outputs failed with
  | nil => rw [runSegments_nil, segmentsBy]
  | cons segment rest ih =>
    unfold segmentsBy
    split
    · next hpassed => rw [runSegments_of_passedOver hpassed, ih]
    · next hruns =>
      split
      · next hnone => rw [runSegments_of_nameless hnone, ih]
      · next inv hinv =>
        rw [runSegments_of_runs (Bool.eq_false_iff.mpr hruns) hinv]
        refine bind_congr fun response => ?_
        cases response with
        | exit => rfl
        | text output => exact ih _ _

theorem commandBy_runJob (c : Context) (inv : Invocation) (command : Command) :
    commandBy runJob c inv command = runCommand c inv command := by
  rw [runCommand]
  refine bind_congr fun c => ?_
  cases command with
  | «sudo» =>
    dsimp only
    split
    · rfl
    · split
      · rfl
      · cases Invocation.parse? (Text.join " " (afterSudoOptions inv.tokens)) <;> rfl
  | shell =>
    dsimp only
    split <;> rfl
  | _ => rfl

/-- **Running a job is running the jobs that it starts.** -/
theorem jobBy_runJob (c : Context) (job : Job) : jobBy runJob c job = runJob c job := by
  cases job with
  | line text =>
    show _ = runLine c text
    rw [runLine]
    exact bind_congr fun c => segmentsBy_runJob c [] false (split text)
  | command inv =>
    show _ = dispatch c inv
    unfold dispatch jobBy
    refine bind_congr fun c => ?_
    split
    · refine bind_congr fun c => bind_congr fun found => ?_
      cases found with
      | text answer => rfl
      | program name =>
        dsimp only
        cases Command.ofName? name with
        | none => rfl
        | some command => exact commandBy_runJob c _ command
    · cases Command.ofName? inv.command with
      | none => rfl
      | some command => exact commandBy_runJob c inv command

/-! ## What gives up -/

/-- A computation that gives up for want of room only where it leaves a state with a property. -/
def GivesUpOnly {α : Type} (P : State → Prop) (m : Action α) : Prop :=
  ∀ s s', m.run s = (.error .tooDeep, s') → P s'

namespace GivesUpOnly

variable {α β : Type} {P Q : State → Prop} {m n : Action α}

theorem of_faultsWithin (h : FaultsWithin Fault.IsShallow m) : GivesUpOnly P m :=
  fun s s' hrun => absurd rfl (h s _ s' hrun)

theorem pure (a : α) : GivesUpOnly P (pure a) := of_faultsWithin (.pure a)

theorem mono (h : GivesUpOnly P m) (hPQ : ∀ s, P s → Q s) : GivesUpOnly Q m :=
  fun s s' hrun => hPQ s' (h s s' hrun)

theorem bind {f : α → Action β} (hm : GivesUpOnly P m) (hf : ∀ a, GivesUpOnly P (f a)) :
    GivesUpOnly P (m >>= f) := by
  intro s s' h
  rw [run_bind] at h
  rcases hr : m.run s with ⟨e | a, t⟩
  · rw [hr] at h
    cases h
    exact hm s s' hr
  · rw [hr] at h
    exact hf a t s' h

theorem ite {p : Prop} [Decidable p] (hm : GivesUpOnly P m) (hn : GivesUpOnly P n) :
    GivesUpOnly P (if p then m else n) := by
  split
  · exact hm
  · exact hn

theorem call {c : Context} {f : Context → Action α} {room : Nat} (h : c.room = room + 1)
    (hf : GivesUpOnly P (f { c with room })) : GivesUpOnly P (liftM c.call >>= f) := by
  rwa [call_bind h]

end GivesUpOnly

/-- The name that an invocation runs under and the command of that name: its own, or the name of a
program if it is named by a path. -/
inductive Invocation.RunsAs (inv : Invocation) : String → Command → Prop where
  | bare {command : Command} (hbare : Text.hasChar inv.name '/' = false)
      (hcommand : Command.ofName? inv.command = some command) : RunsAs inv inv.name command
  | program {name : String} {command : Command} (hpath : Text.hasChar inv.name '/' = true)
      (hcommand : Command.ofName? name = some command) : RunsAs inv name command

/-- Whether a command that runs no others gives up by itself, though it has a given room, and leaves
a given state. It is one of those that a job has the shell run, be it through other jobs. -/
def GivesUpAlone (c : Context) (job : Job) (room : Nat) (s : State) : Prop :=
  ∃ inv name command user input? left before, Relation.ReflTransGen Job.Starts job (.command inv) ∧
    inv.RunsAs name command ∧ room ≤ left ∧
    (runAlone { c with user, input?, room := left } { inv with name } command).run before =
      (.error .tooDeep, s)

/-! ## Rooms -/

namespace Job

/-- The room that the calls of a job take. -/
def need (job : Job) : Nat := 3 * job.size + job.calls

theorem Starts.need_le {job started : Job} (h : Starts job started) :
    started.need + job.calls ≤ job.need := by
  have hsize := h.size_lt
  have hcalls : started.calls ≤ 3 := by cases started <;> simp [calls]
  unfold need
  omega

end Job

theorem faultsWithin_executableAt (c : Context) (fs : FileSystem) (path : String) :
    FaultsWithin Fault.IsShallow (executableAt c fs path) := by
  unfold executableAt
  dsimp only
  split
  · exact .pure _
  · refine .ite (.pure _) (.ite (.pure _) (.ite (.pure _) ?_))
    exact .bind (Action.faultsWithin_noise (faultsWithin_read _ _ _)) fun _ =>
      .ite (.pure _) (.pure _)

section Rooms

variable {run : Runner} {c : Context} {room : Nat}

theorem givesUpOnly_segmentsBy {P : State → Prop} {segments : List Segment}
    (h : ∀ segment ∈ segments, ∀ inv, Invocation.parse? segment.text = some inv →
      ∀ input?, GivesUpOnly P (run { c with input? } (.command inv)))
    (outputs : List String) (failed : Bool) :
    GivesUpOnly P (segmentsBy run c outputs failed segments) := by
  induction segments generalizing outputs failed with
  | nil => exact .pure _
  | cons segment rest ih =>
    obtain ⟨hsegment, hrest⟩ := List.forall_mem_cons.mp h
    unfold segmentsBy
    refine .ite (ih hrest _ _) ?_
    split
    · exact ih hrest _ _
    · next inv hinv =>
      refine .bind (hsegment inv hinv _) fun response => ?_
      cases response with
      | exit => exact .pure _
      | text output => exact ih hrest _ _

/-- That `run` gives up only where a command does by itself, in the jobs that a job starts and with
the room that they need. -/
def StartedGiveUpOnly (run : Runner) (c : Context) (room : Nat) (job : Job) : Prop :=
  ∀ started, Job.Starts job started → ∀ user input? left, room + started.need ≤ left →
    GivesUpOnly (GivesUpAlone c job room) (run { c with user, input?, room := left } started)

/-- A command makes the last of its calls itself. -/
theorem givesUpOnly_commandBy {inv : Invocation} {name : String} {command : Command}
    (hruns : inv.RunsAs name command) (h : StartedGiveUpOnly run c room (.command inv)) {left : Nat}
    (hroom : room + 3 * tokensSize inv.tokens + 1 ≤ left) :
    GivesUpOnly (GivesUpAlone c (.command inv) room)
      (commandBy run { c with room := left } { inv with name } command) := by
  obtain ⟨left, rfl⟩ : ∃ less, left = less + 1 := ⟨left - 1, by omega⟩
  have hstarted {started : Job} (hstarts : Job.Starts (.command inv) started) :
      room + started.need ≤ left := by
    have hneed := hstarts.need_le
    simp only [Job.need, Job.size, Job.calls] at hneed ⊢
    omega
  have halone : GivesUpOnly (GivesUpAlone c (.command inv) room)
      (runAlone { c with room := left } { inv with name } command) := fun before s' hrun =>
    ⟨inv, name, command, c.user, c.input?, left, before, .refl, hruns, by omega, hrun⟩
  refine .call rfl ?_
  cases command with
  | exit => exact .pure _
  | «sudo» =>
    refine .ite (.pure _) (.ite (.pure _) ?_)
    split
    · exact .pure _
    · next sub hsub =>
      have hstarts : Job.Starts (.command inv) (.command sub) := .words hsub
      exact .ite (.pure _) (h _ hstarts "root" c.input? left (hstarted hstarts))
  | shell =>
    dsimp only
    split
    · next hmem => exact h _ (.script hmem) c.user none left (hstarted (.script hmem))
    · refine .bind (.of_faultsWithin fun s e s' hrun => ?_) fun files => ?_
      · cases hrun
      · split <;> exact .pure _
  | _ => exact .bind halone fun output => .pure _

/-- **A job that is given the room it needs** gives up only where a command does by itself, if the
jobs that it starts do so. -/
theorem givesUpOnly_jobBy {job : Job} (h : StartedGiveUpOnly run c room job)
    (hroom : room + job.need ≤ c.room) :
    GivesUpOnly (GivesUpAlone c job room) (jobBy run c job) := by
  cases job with
  | line text =>
    have hneed : room + (3 * text.length + 1) ≤ c.room := hroom
    obtain ⟨left, hleft⟩ : ∃ left, c.room = left + 1 := ⟨c.room - 1, by omega⟩
    refine .call hleft (givesUpOnly_segmentsBy (fun segment hmem inv hinv input? => ?_) _ _)
    have hstarts : Job.Starts (.line text) (.command inv) := .segment hmem hinv
    have hless : 3 * tokensSize inv.tokens + 3 + 1 ≤ 3 * text.length + 1 := hstarts.need_le
    exact h _ hstarts c.user input? left
      (show room + (3 * tokensSize inv.tokens + 3) ≤ left by omega)
  | command inv =>
    have hneed : room + (3 * tokensSize inv.tokens + 3) ≤ c.room := hroom
    -- There is room for both calls before the one of the command, whether or not a path is named.
    obtain ⟨left, hleft⟩ : ∃ left, c.room = left + 1 + 1 := ⟨c.room - 2, by omega⟩
    refine .call hleft ?_
    split
    · next hpath =>
      refine .call rfl (.bind (.of_faultsWithin (Action.faultsWithin_look fun s =>
        faultsWithin_executableAt _ _ _)) fun found => ?_)
      cases found with
      | text answer => exact .pure _
      | program name =>
        dsimp only
        split
        · exact .pure _
        · next command hcommand =>
          exact givesUpOnly_commandBy (.program hpath hcommand) h (by omega)
    · next hbare =>
      split
      · exact .pure _
      · next command hcommand =>
        exact givesUpOnly_commandBy (.bare (Bool.eq_false_iff.mpr hbare) hcommand) h (by omega)

/-- **The room that a job takes** is no more than it needs, but for what commands do by themselves
that run no others. -/
theorem givesUpOnly_runJob {job : Job} (hroom : room + job.need ≤ c.room) :
    GivesUpOnly (GivesUpAlone c job room) (runJob c job) := by
  -- By the text of the job, of which those that it starts have less.
  induction hlength : job.text.length using Nat.strong_induction_on generalizing job c with
  | _ n ih =>
    rw [← jobBy_runJob]
    refine givesUpOnly_jobBy (fun started hstarts user input? left hleft => ?_) hroom
    refine (ih _ (hlength ▸ hstarts.length_lt) hleft rfl).mono ?_
    rintro s ⟨inv, name, command, user, input?, left, before, hnested, hruns, hleft, hrun⟩
    exact ⟨inv, name, command, user, input?, left, before, .head hstarts hnested, hruns, hleft,
      hrun⟩

end Rooms

/-! ## Ends -/

/-- **Jobs lie in one another no deeper than the text is long**: where running is cut off behind so
many, it makes no difference what is done there. -/
theorem iterate_jobBy {n : Nat} {job : Job} (h : job.text.length < n) (run : Runner) (c : Context) :
    (jobBy^[n] run) c job = runJob c job := by
  induction n generalizing job c with
  | zero => cases h
  | succ n ih =>
    rw [Function.iterate_succ_apply', ← jobBy_runJob]
    exact jobBy_congr (fun started hstarts c =>
      ih (Nat.lt_of_lt_of_le hstarts.length_lt (Nat.le_of_lt_succ h)) c) c

/-- **Running a line ends.** A job is run through jobs of strictly less text alone, so that a line
is run by no more jobs in one another than it has characters, and one. The calls that this takes are
no more than three for each character, and one: a line with room for them gives up only where a
command does by itself, and with less room it ends in the same way or gives up. -/
theorem runLine_ends (c : Context) (line : String) :
    (∀ (c : Context) (job : Job), runJob c job = jobBy runJob c job) ∧
      (∀ (run run' : Runner) (job : Job),
        (∀ less : Job, less.text.length < job.text.length → ∀ c, run c less = run' c less) →
          ∀ c, jobBy run c job = jobBy run' c job) ∧
      (∀ run : Runner, (jobBy^[line.length + 1] run) c (.line line) = runLine c line) ∧
      (3 * line.length + 1 ≤ c.room → ∀ s : State,
        ((runLine c line).run s).1 ≠ .error .tooDeep ∨
          GivesUpAlone c (.line line) (c.room - (3 * line.length + 1))
            ((runLine c line).run s).2) ∧
      ∀ more : Nat, AgreesUnless .tooDeep (runLine c line) (runLine (c.roomier more) line) := by
  refine ⟨fun c job => (jobBy_runJob c job).symm, fun run run' job h => ?_, fun run => ?_,
    fun hroom s => ?_, fun more => (agrees_runs more).1 c line⟩
  · exact jobBy_congr fun started hstarts => h started hstarts.length_lt
  · have hless : (Job.line line).text.length < line.length + 1 := Nat.lt_succ_self _
    exact iterate_jobBy hless run c
  · have hleft : c.room - (3 * line.length + 1) + Job.need (.line line) ≤ c.room :=
      Nat.le_of_eq (Nat.sub_add_cancel hroom)
    refine or_iff_not_imp_left.mpr fun hdeep => ?_
    exact givesUpOnly_runJob hleft s _ (Prod.ext (not_not.mp hdeep) rfl)

theorem runLine_ends_example :
    jobBy (jobBy runJob) guest (.line "sudo bash -c whoami") =
        jobBy runJob guest (.line "sudo bash -c whoami") ∧
      3 * "sudo bash -c whoami".length + 1 ≤ guest.room ∧
      (((runLine guest "sudo bash -c whoami").run bare).1 ≠ .error .tooDeep ∨
        GivesUpAlone guest (.line "sudo bash -c whoami")
          (guest.room - (3 * "sudo bash -c whoami".length + 1))
          ((runLine guest "sudo bash -c whoami").run bare).2) := by
  have hends := runLine_ends guest "sudo bash -c whoami"
  have hroom : 3 * "sudo bash -c whoami".length + 1 ≤ guest.room := by decide
  exact ⟨hends.2.1 _ _ _ (fun less _ c => (hends.1 c less).symm) guest, hroom,
    hends.2.2.2.1 hroom bare⟩

end Honeypot.Shell
