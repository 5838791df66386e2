import Honeypot.Proofs.Shell.Segments

/-!
# Commands that only look

Most commands tell something and change nothing. Besides the commands that act on the session there
are those that run others; every other name, known or not, leaves all but the generators as it was
(`dispatch_only_draws`), and so does a line of such names (`runLine_only_draws`).
-/

namespace Honeypot.Shell

variable {c : Context} {inv : Invocation} {command : Command} {name : String}

/-! ## The commands -/

/-- The names of the commands that act on a session or run others, which may. -/
def actingNames : List String :=
  ["echo", "touch", "mkdir", "rm", "chmod", "wget", "curl", "cd", "export", "history", "sudo",
    "sh", "bash"]

/-- Whether a command neither acts on a session nor runs others. -/
def Command.onlyLooks : Command → Bool
  | .echo | .touch | .mkdir | .rm | .chmod | .wget | .curl | .cd | .export | .history => false
  | .sudo | .shell => false
  | _ => true

theorem onlyLooks_of_not_mem (hname : name ∉ actingNames)
    (hcommand : Command.ofName? name = some command) : command.onlyLooks = true := by
  have htable : ∀ entry ∈ Command.table, entry.1 ∈ actingNames ∨ entry.2.onlyLooks = true := by
    decide
  have hkeys : (Command.table.map (·.1)).Nodup := by decide
  have hmem : (name, command) ∈ Command.table := (Assoc.lookup_eq_some_iff_mem hkeys).mp hcommand
  exact (htable _ hmem).resolve_left hname

/-! ## What they leave -/

/-- What lasts of a state: everything but the generators. -/
def State.lasting (s : State) : FileSystem × Env × List String × List Download :=
  (s.files, s.env, s.history, s.downloads)

theorem State.eq_of_lasting {s t : State} (h : t.lasting = s.lasting) :
    t = { s with chances := t.chances } := by
  cases s
  cases t
  cases h
  rfl

theorem keeps_lasting_look {α : Type} (m : State → Look α) :
    Keeps State.lasting (Action.look m) := Action.keeps_look (fun _ _ => rfl) m

theorem keeps_lasting_runAlone (hlooks : command.onlyLooks = true) :
    Keeps State.lasting (runAlone c inv command) := by
  unfold runAlone
  split
  case h_11 =>
    refine .bind (fun _ => rfl) fun s => ?_
    split
    · exact keeps_lasting_look _
    · exact .pure _
  all_goals cases hlooks

theorem keeps_lasting_runCommand (hlooks : command.onlyLooks = true) :
    Keeps State.lasting (runCommand c inv command) := by
  unfold runCommand
  refine .bind (.lift _) fun c => ?_
  have halone : Keeps State.lasting (runAlone c inv command) := keeps_lasting_runAlone hlooks
  cases command with
  | exit => exact .pure _
  | «sudo» => cases hlooks
  | shell => cases hlooks
  | _ => exact .bind halone fun _ => .pure _

/-- A bare name that is not one of those that act leaves all that lasts, whether or not it is a
command and whatever it ends in. -/
theorem keeps_lasting_dispatch (hname : Text.hasChar inv.name '/' = false)
    (hacting : inv.command ∉ actingNames) : Keeps State.lasting (dispatch c inv) := by
  unfold dispatch
  refine .bind (.lift _) fun c => ?_
  rw [hname]
  cases hcommand : Command.ofName? inv.command with
  | none => exact .pure _
  | some command => exact keeps_lasting_runCommand (onlyLooks_of_not_mem hacting hcommand)

/-- **Commands that only look** change nothing but the generators, also where they fail: the files
with all that was made and removed in them, the working directory, the variables and the history
stay, and nothing is reported. -/
theorem dispatch_only_draws (c : Context) (s : State) {inv : Invocation}
    (hname : Text.hasChar inv.name '/' = false) (hacting : inv.command ∉ actingNames) :
    ((dispatch c inv).run s).2 = { s with chances := ((dispatch c inv).run s).2.chances } :=
  State.eq_of_lasting (keeps_lasting_dispatch hname hacting s)

theorem dispatch_only_draws_example :
    (Text.hasChar (Invocation.ofWords "uptime" []).name '/' = false ∧
      (Invocation.ofWords "uptime" []).command ∉ actingNames) ∧
    ((dispatch guest (.ofWords "uptime" [])).run bare).2 =
      { bare with chances := ((dispatch guest (.ofWords "uptime" [])).run bare).2.chances } := by
  have hname : Text.hasChar (Invocation.ofWords "uptime" []).name '/' = false := by decide
  have hacting : (Invocation.ofWords "uptime" []).command ∉ actingNames := by decide
  exact ⟨⟨hname, hacting⟩, dispatch_only_draws guest bare hname hacting⟩

/-! ## Lines of them -/

/-- Whether the name of a command of a line is bare and not one of those that act. -/
def Segment.OnlyLooks (segment : Segment) : Prop :=
  ∀ inv, Invocation.parse? segment.text = some inv →
    Text.hasChar inv.name '/' = false ∧ inv.command ∉ actingNames

theorem keeps_lasting_runSegments {segments : List Segment}
    (h : ∀ segment ∈ segments, segment.OnlyLooks) (outputs : List String) (failed : Bool) :
    Keeps State.lasting (runSegments c outputs failed segments) := by
  refine runSegments_induction .pure (fun _ _ => .bind) (fun segment hsegment inv hinv _ => ?_)
    outputs failed
  obtain ⟨hname, hacting⟩ := h segment hsegment inv hinv
  exact keeps_lasting_dispatch hname hacting

/-- **A line of commands that only look** changes nothing but the generators, however its commands
are joined. -/
theorem runLine_only_draws (c : Context) (s : State) {line : String}
    (h : ∀ segment ∈ split line, segment.OnlyLooks) :
    ((runLine c line).run s).2 = { s with chances := ((runLine c line).run s).2.chances } := by
  have hkeeps : Keeps State.lasting (runLine c line) := by
    rw [runLine]
    exact .bind (.lift _) fun c => keeps_lasting_runSegments h [] false
  exact State.eq_of_lasting (hkeeps s)

end Honeypot.Shell
