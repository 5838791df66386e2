import Honeypot.Proofs.Shell.Depth
import Honeypot.Proofs.Shell.Looking

/-!
# The errands of a job

A job comes down to commands that run no others, which are its errands: those of a line in their
order, those that `sudo` or a shell hands on, and the program behind a path. Between two errands
nothing that lasts changes, so that what a job leaves is what its errands leave, one after the
other, whatever the job ends in (`does_errands`).
-/

namespace Honeypot.Shell

/-! ## Errands -/

/-- A command that runs no others, with what it knows and the state that it finds. -/
structure Errand where
  context : Context
  invocation : Invocation
  command : Command
  before : State

def Errand.after (e : Errand) : State :=
  ((runAlone e.context e.invocation e.command).run e.before).2

/-- The command of the table that dispatching comes to, if any: where it runs, the name that it runs
under, and the state that is left by looking at its path. -/
def found? (c : Context) (inv : Invocation) (s : State) :
    Option (Context × String × Command × State) :=
  match c.call with
  | .error _ => none
  | .ok c =>
    if Text.hasChar inv.name '/' then
      match c.call with
      | .error _ => none
      | .ok c =>
        match (Action.look fun s => executableAt c s.files inv.name).run s with
        | (.ok (.program name), s) =>
          (Command.ofName? name).map fun command => (c, name, command, s)
        | _ => none
    else (Command.ofName? inv.command).map fun command => (c, inv.name, command, s)

/-- The command that `sudo` runs, unless it only answers. -/
def handedOn? (inv : Invocation) : Option Invocation :=
  if inv.tokens.isEmpty || inv.hasFlag "-l" || inv.hasFlag "--list" then none
  else
    (Invocation.parse? (Text.join " " (afterSudoOptions inv.tokens))).filter fun sub =>
      Text.hasChar sub.name '/' || (Command.ofName? sub.command).isSome

theorem starts_of_handedOn? {inv sub : Invocation} (h : handedOn? inv = some sub) :
    Job.Starts (.command inv) (.command sub) := by
  unfold handedOn? at h
  split at h
  · cases h
  · exact .words (Option.filter_eq_some_iff.mp h).1

/-- A bound for the errands of a job: a line goes through its commands one by one. -/
def Job.weight : Job → Nat
  | .line text => 4 * text.length + 5
  | .command inv => 4 * tokensSize inv.tokens + 3

theorem Job.Starts.weight_lt {inv : Invocation} {job : Job} (h : Starts (.command inv) job) :
    job.weight < 4 * tokensSize inv.tokens + 3 := by
  have hsize := h.size_lt_of_command
  cases job with
  | line text =>
    simp only [size, weight] at hsize ⊢
    omega
  | command sub =>
    simp only [size, weight] at hsize ⊢
    omega

mutual

def errands (c : Context) (s : State) : Job → List Errand
  | .line line =>
    match c.call with
    | .error _ => []
    | .ok c => segmentErrands c s [] false (split line)
  | .command inv =>
    match found? c inv s with
    | none => []
    | some (c, name, command, s) =>
      match c.call with
      | .error _ => []
      | .ok c =>
        match command with
        | .exit => []
        | .sudo =>
          match _h : handedOn? inv with
          | none => []
          | some sub => errands { c with user := "root" } s (.command sub)
        | .shell =>
          if _h : "-c" ∈ inv.tokens then
            errands { c with input? := none } s
              (.line (unquote (Text.join " " (afterWord "-c" inv.tokens))))
          else []
        | other => [⟨c, { inv with name }, other, s⟩]
  termination_by job => job.weight
  decreasing_by
    · have := segmentsSize_split line
      simp only [Job.weight]
      omega
    · exact (starts_of_handedOn? _h).weight_lt
    · exact (Job.Starts.script _h).weight_lt

/-- The errands of the commands of a line. -/
def segmentErrands (c : Context) (s : State) (outputs : List String) (failed : Bool) :
    List Segment → List Errand
  | [] => []
  | segment :: rest =>
    if segment.isPassedOver failed then segmentErrands c s outputs failed rest
    else
      match _h : Invocation.parse? segment.text with
      | none => segmentErrands c s outputs failed rest
      | some inv =>
        let c' : Context := { c with input? := segment.takes? c.input? outputs }
        errands c' s (.command inv) ++
          match (dispatch c' inv).run s with
          | (.error _, _) => []
          | (.ok .exit, _) => []
          | (.ok (.text output), s) =>
            segmentErrands c s (output :: segment.leaves outputs) (inv.failed output) rest
  termination_by segments => 4 * segmentsSize segments
  decreasing_by
    · simp only [segmentsSize, List.map_cons, Number.sum_cons]
      omega
    · simp only [segmentsSize, List.map_cons, Number.sum_cons]
      omega
    · have := tokensSize_of_parse? _h
      simp only [Job.weight, segmentsSize, List.map_cons, Number.sum_cons]
      omega
    · simp only [segmentsSize, List.map_cons, Number.sum_cons]
      omega

end

/-! ## Where errands come from -/

/-- An errand of some commands is an errand of one of them. -/
theorem exists_of_mem_segmentErrands {e : Errand} {segments : List Segment} {c : Context}
    {s : State} {outputs : List String} {failed : Bool}
    (h : e ∈ segmentErrands c s outputs failed segments) :
    ∃ segment ∈ segments, ∃ inv, Invocation.parse? segment.text = some inv ∧
      ∃ c' s', e ∈ errands c' s' (.command inv) := by
  induction segments generalizing s outputs failed with
  | nil =>
    rw [segmentErrands] at h
    cases h
  | cons segment rest ih =>
    have hlater {s : State} {outputs : List String} {failed : Bool}
        (h : e ∈ segmentErrands c s outputs failed rest) : ∃ other ∈ segment :: rest, ∃ inv,
          Invocation.parse? other.text = some inv ∧ ∃ c' s', e ∈ errands c' s' (.command inv) := by
      obtain ⟨other, hmem, hother⟩ := ih h
      exact ⟨other, List.mem_cons_of_mem _ hmem, hother⟩
    rw [segmentErrands] at h
    split at h
    · exact hlater h
    · split at h
      · exact hlater h
      · next inv hinv =>
        obtain hfirst | hrest := List.mem_append.mp h
        · exact ⟨segment, List.mem_cons_self, inv, hinv, _, _, hfirst⟩
        · split at hrest
          · cases hrest
          · cases hrest
          · exact hlater hrest

/-- **An errand of a job** is what the job is itself, or an errand of a job that it starts. -/
theorem errand_cases {e : Errand} {job : Job} {c : Context} {s : State} (h : e ∈ errands c s job) :
    (∃ inv, job = .command inv ∧ e.invocation.tokens = inv.tokens) ∨
      ∃ started, Job.Starts job started ∧ ∃ c' s', e ∈ errands c' s' started := by
  cases job with
  | line line =>
    rw [errands] at h
    split at h
    · cases h
    · obtain ⟨segment, hmem, inv, hinv, hlater⟩ := exists_of_mem_segmentErrands h
      exact .inr ⟨_, .segment hmem hinv, hlater⟩
  | command inv =>
    rw [errands] at h
    split at h
    · cases h
    · split at h
      · cases h
      · split at h
        · cases h
        · split at h
          · cases h
          · next sub hsub => exact .inr ⟨_, starts_of_handedOn? hsub, _, _, h⟩
        · split at h
          · next hmem => exact .inr ⟨_, .script hmem, _, _, h⟩
          · cases h
        · obtain rfl := List.mem_singleton.mp h
          exact .inl ⟨inv, rfl, rfl⟩

/-- A line of a single command that runs no others is one errand. -/
theorem errands_of_single {c : Context} {room : Nat} {line text : String} {inv : Invocation}
    {command : Command} (hroom : c.room = room + 3) (hsplit : split line = [⟨.start, text⟩])
    (hinv : Invocation.parse? text = some inv) (hname : Text.hasChar inv.name '/' = false)
    (hcommand : Command.ofName? inv.command = some command)
    (halone : command ≠ .exit ∧ command ≠ .sudo ∧ command ≠ .shell) (s : State) :
    errands c s (.line line) = [⟨{ c with room }, inv, command, s⟩] := by
  have hcall (room' : Nat) :
      ({ c with room := room' + 1 } : Context).call = .ok { c with room := room' } :=
    Context.call_of_room rfl
  have hfound : found? { c with room := room + 2 } inv s =
      some ({ c with room := room + 1 }, inv.name, command, s) := by
    unfold found?
    rw [hcall, hname, hcommand]
    rfl
  have hfirst : errands { c with room := room + 2 } s (.command inv) =
      [⟨{ c with room }, inv, command, s⟩] := by
    obtain ⟨hexit, hsudo, hshell⟩ := halone
    rw [errands, hfound]
    dsimp only
    rw [hcall]
    cases command with
    | exit => exact absurd rfl hexit
    | «sudo» => exact absurd rfl hsudo
    | shell => exact absurd rfl hshell
    | _ => rfl
  rw [errands, Context.call_of_room hroom]
  dsimp only
  have hruns : ¬Segment.isPassedOver ⟨.start, text⟩ false = true := Bool.false_ne_true
  rw [hsplit, segmentErrands, if_neg hruns]
  split
  · next hnone => cases hinv.symm.trans hnone
  · next other hother =>
    cases hinv.symm.trans hother
    show errands { c with room := room + 2 } s (.command inv) ++ _ = _
    rw [hfirst]
    dsimp only
    -- No command is left for what the errand prints.
    rcases (dispatch { c with
        room := room + 2, input? := Segment.takes? ⟨.start, text⟩ c.input? [] } inv).run s
      with ⟨e | response, t⟩
    · rfl
    · cases response with
      | exit => rfl
      | text output =>
        dsimp only
        rw [segmentErrands]
        rfl

/-! ## One errand after the other -/

/-- What becomes of a state while errands are run one after the other. Every errand finds what the
one before it has left; only the generators are used in between. -/
inductive Follows (s : State) : List Errand → State → Prop where
  | still {t : State} (h : t.lasting = s.lasting) : Follows s [] t
  | errand {es : List Errand} {t u : State} {e : Errand} (h : Follows s es t)
      (finds : e.before.lasting = t.lasting) (leaves : u.lasting = e.after.lasting) :
      Follows s (es ++ [e]) u

namespace Follows

variable {s t u : State} {es fs : List Errand}

theorem congr (h : Follows s es t) (hu : u.lasting = t.lasting) : Follows s es u := by
  cases h with
  | still h => exact .still (hu.trans h)
  | errand h finds leaves => exact .errand h finds (hu.trans leaves)

theorem trans (h : Follows s es t) (h' : Follows t fs u) : Follows s (es ++ fs) u := by
  induction h' with
  | still hu =>
    rw [List.append_nil]
    exact h.congr hu
  | errand _ finds leaves ih =>
    rw [← List.append_assoc]
    exact ih.errand finds leaves

theorem of_lasting (hs : t.lasting = s.lasting) (h : Follows t es u) : Follows s es u :=
  trans (.still hs) h

theorem single (e : Errand) (hs : e.before.lasting = s.lasting) : Follows s [e] e.after :=
  .errand (.still rfl) hs rfl

end Follows

/-- Whether a computation comes down to errands, which depend on the state that it finds. -/
def Does {α : Type} (m : Action α) (es : State → List Errand) : Prop :=
  ∀ s, Follows s (es s) (m.run s).2

/-! ## The errands of what is run -/

variable {c : Context} {inv : Invocation} {s : State}

/-- **Dispatching** runs the command of the table that is found, or it leaves everything that
lasts. -/
theorem run_dispatch (c : Context) (inv : Invocation) (s : State) :
    match found? c inv s with
    | none => ((dispatch c inv).run s).2.lasting = s.lasting
    | some (c', name, command, s') => s'.lasting = s.lasting ∧
        (dispatch c inv).run s = (runCommand c' { inv with name } command).run s' := by
  unfold found? dispatch
  rw [run_bind, run_lift]
  cases c.call with
  | error e => rfl
  | ok c =>
    dsimp only
    cases Text.hasChar inv.name '/' with
    | false =>
      rw [if_neg Bool.false_ne_true, if_neg Bool.false_ne_true]
      cases Command.ofName? inv.command with
      | none => rfl
      | some command => exact ⟨rfl, rfl⟩
    | true =>
      rw [if_pos rfl, if_pos rfl, run_bind, run_lift]
      cases c.call with
      | error e => rfl
      | ok c =>
        dsimp only
        have hlasting := keeps_lasting_look (fun s => executableAt c s.files inv.name) s
        rw [run_bind]
        revert hlasting
        rcases (Action.look fun s => executableAt c s.files inv.name).run s with ⟨found, t⟩
        intro hlasting
        cases found with
        | error e => exact hlasting
        | ok found =>
          cases found with
          | text answer => exact hlasting
          | program name =>
            dsimp only
            cases Command.ofName? name with
            | none => exact hlasting
            | some command => exact ⟨hlasting, rfl⟩

/-- `sudo` answers, or it runs the command that it hands on. -/
theorem runCommand_sudo_cases {c' : Context} (hcall : c.call = .ok c') (inv : Invocation) :
    (handedOn? inv = none ∧ ∃ answer, runCommand c inv .sudo = pure (.text answer)) ∨
    ∃ sub, handedOn? inv = some sub ∧
      runCommand c inv .sudo = dispatch { c' with user := "root" } sub := by
  rw [← commandBy_runJob]
  unfold commandBy handedOn?
  rw [hcall]
  show (_ ∧ ∃ answer, (if inv.tokens.isEmpty then _ else _ : Action Response) = _) ∨
    ∃ sub, _ ∧ (if inv.tokens.isEmpty then _ else _ : Action Response) = _
  by_cases hasks : (inv.tokens.isEmpty || inv.hasFlag "-l" || inv.hasFlag "--list") = true
  · rw [if_pos hasks]
    refine .inl ⟨rfl, ?_⟩
    by_cases hempty : inv.tokens.isEmpty = true
    · rw [if_pos hempty]
      exact ⟨_, rfl⟩
    · rw [if_neg hempty, if_pos (by simpa [hempty] using hasks)]
      exact ⟨_, rfl⟩
  · have hnot := hasks
    rw [Bool.or_assoc, Bool.or_eq_true, not_or] at hnot
    rw [if_neg hasks, if_neg hnot.1, if_neg hnot.2]
    cases hparse : Invocation.parse? (Text.join " " (afterSudoOptions inv.tokens)) with
    | none => exact .inl ⟨rfl, _, rfl⟩
    | some sub =>
      have hunknown : (!Text.hasChar sub.name '/' && (Command.ofName? sub.command).isNone) =
          !(Text.hasChar sub.name '/' || (Command.ofName? sub.command).isSome) := by
        rw [Bool.not_or, Option.not_isSome]
      dsimp only
      rw [hunknown]
      by_cases hknown : (Text.hasChar sub.name '/' || (Command.ofName? sub.command).isSome) = true
      · refine .inr ⟨sub, Option.filter_eq_some_iff.mpr ⟨rfl, hknown⟩, if_neg ?_⟩
        rw [hknown]
        exact Bool.false_ne_true
      · refine .inl ⟨Option.filter_eq_none_iff.mpr fun other hother => ?_, _, if_pos ?_⟩
        · cases hother
          exact hknown
        · rw [Bool.eq_false_iff.mpr hknown]
          rfl

theorem bind_of_call {α : Type} {c' : Context} (hcall : c.call = .ok c') (f : Context → Action α) :
    liftM c.call >>= f = f c' := by
  rw [hcall]
  rfl

theorem runCommand_of_alone {c' : Context} {command : Command}
    (halone : command ≠ .exit ∧ command ≠ .sudo ∧ command ≠ .shell) (hcall : c.call = .ok c') :
    runCommand c inv command =
      runAlone c' inv command >>= fun output => pure (.text output) := by
  obtain ⟨hexit, hsudo, hshell⟩ := halone
  unfold runCommand
  cases command with
  | exit => exact absurd rfl hexit
  | «sudo» => exact absurd rfl hsudo
  | shell => exact absurd rfl hshell
  | _ => exact bind_of_call hcall _

/-- **A command** comes down to its errands if what it starts does. -/
theorem does_command (h : ∀ started, Job.Starts (.command inv) started →
    ∀ c, Does (runJob c started) fun s => errands c s started) (c : Context) :
    Does (runJob c (.command inv)) fun s => errands c s (.command inv) := by
  intro s
  have hdispatch := run_dispatch c inv s
  dsimp only
  rw [errands]
  rcases hfound : found? c inv s with _ | ⟨c, name, command, t⟩
  · rw [hfound] at hdispatch
    exact .still hdispatch
  · rw [hfound] at hdispatch
    obtain ⟨hlasting, hrun⟩ := hdispatch
    show Follows s _ ((dispatch _ inv).run s).2
    rw [hrun]
    refine .of_lasting hlasting ?_
    dsimp only
    cases hcall : c.call with
    | error e =>
      rw [runCommand, run_bind, run_lift, hcall]
      exact .still rfl
    | ok c =>
      dsimp only
      split
      · rw [runCommand, run_bind, run_lift, hcall]
        exact .still rfl
      · obtain ⟨hnone, answer, heq⟩ | ⟨sub, hsub, heq⟩ :=
          runCommand_sudo_cases hcall { inv with name }
        · rw [heq]
          split
          · exact .still rfl
          · next sub hsub => cases hnone.symm.trans hsub
        · rw [heq]
          split
          · next hnone => cases hsub.symm.trans hnone
          · next other hother =>
            cases hsub.symm.trans hother
            exact h _ (starts_of_handedOn? hother) _ t
      · rw [runCommand, run_bind, run_lift, hcall]
        dsimp only
        by_cases hmem : "-c" ∈ inv.tokens
        · rw [dif_pos hmem, dif_pos hmem]
          exact h _ (.script hmem) _ t
        · rw [dif_neg hmem, dif_neg hmem]
          have hkeeps {m : FileSystem → Action Response}
              (hm : ∀ files, Keeps State.lasting (m files)) :
              Keeps State.lasting (Action.files >>= m) := .bind (fun _ => rfl) hm
          refine .still (hkeeps (fun files => ?_) t)
          split <;> exact .pure _
      · next hexit hsudo hshell =>
        rw [runCommand_of_alone ⟨hexit, hsudo, hshell⟩ hcall, run_bind_pure]
        exact .single ⟨c, { inv with name }, command, t⟩ rfl

/-- **A line** comes down to the errands of its commands. -/
theorem does_segments {segments : List Segment} (h : ∀ segment ∈ segments, ∀ inv,
      Invocation.parse? segment.text = some inv →
        ∀ c, Does (runJob c (.command inv)) fun s => errands c s (.command inv))
    (c : Context) (outputs : List String) (failed : Bool) :
    Does (runSegments c outputs failed segments) fun s =>
      segmentErrands c s outputs failed segments := by
  induction segments generalizing outputs failed with
  | nil =>
    intro s
    dsimp only
    rw [runSegments_nil, segmentErrands]
    exact .still rfl
  | cons segment rest ih =>
    obtain ⟨hsegment, hrest⟩ := List.forall_mem_cons.mp h
    intro s
    dsimp only
    rw [segmentErrands]
    cases hpassed : segment.isPassedOver failed with
    | true =>
      rw [runSegments_of_passedOver hpassed, if_pos rfl]
      exact ih hrest outputs failed s
    | false =>
      rw [if_neg Bool.false_ne_true]
      cases hinv : Invocation.parse? segment.text with
      | none =>
        rw [runSegments_of_nameless hinv]
        exact ih hrest outputs failed s
      | some inv =>
        rw [runSegments_of_runs hpassed hinv, run_bind]
        have hfirst := hsegment inv hinv { c with input? := segment.takes? c.input? outputs } s
        change Follows s _ ((dispatch _ inv).run s).2 at hfirst
        dsimp only at hfirst ⊢
        revert hfirst
        rcases (dispatch { c with input? := segment.takes? c.input? outputs } inv).run s with
          ⟨e | response, t⟩
        · intro hfirst
          rw [List.append_nil]
          exact hfirst
        · intro hfirst
          cases response with
          | exit =>
            rw [List.append_nil]
            exact hfirst
          | text output => exact hfirst.trans (ih hrest _ (inv.failed output) t)

/-- **What a job leaves** is what its errands leave, one after the other. -/
theorem does_errands (job : Job) (c : Context) : Does (runJob c job) fun s => errands c s job := by
  induction hsize : job.size using Nat.strong_induction_on generalizing job c with
  | h size ih =>
    subst hsize
    have hstarts : ∀ started, Job.Starts job started →
        ∀ c, Does (runJob c started) fun s => errands c s started :=
      fun started hstarted c => ih _ hstarted.size_lt started c rfl
    cases job with
    | command inv => exact does_command hstarts c
    | line text =>
      intro s
      show Follows s _ ((runLine c text).run s).2
      dsimp only
      rw [runLine, errands, run_bind, run_lift]
      cases c.call with
      | error e => exact .still rfl
      | ok c =>
        refine does_segments (fun segment hmem inv hinv => ?_) c [] false s
        exact hstarts _ (.segment hmem hinv)

end Honeypot.Shell
