import Honeypot.Persona.Catalogue
import Honeypot.Proofs.Runs
import Honeypot.Proofs.Words
import Honeypot.Shell.Interpreter

/-!
# Calls

A command that is looked up by its name is run where there is room for two more calls. Words are
an invocation whose name is the first of them.
-/

namespace Honeypot.Shell

variable {α : Type} {c : Context} {inv : Invocation} {command : Command} {room : Nat}

/-! ## Room -/

theorem Context.call_of_room (h : c.room = room + 1) : c.call = .ok { c with room } := by
  unfold Context.call
  rw [h]

theorem Context.call_of_no_room (h : c.room = 0) : c.call = .error .tooDeep := by
  unfold Context.call
  rw [h]

theorem call_bind (h : c.room = room + 1) (f : Context → Action α) :
    liftM c.call >>= f = f { c with room } := by
  rw [Context.call_of_room h]
  rfl

/-! ## Commands by name -/

theorem dispatch_of_command (hname : Text.hasChar inv.name '/' = false)
    (hcommand : Command.ofName? inv.command = some command) :
    dispatch c inv = liftM c.call >>= fun c => runCommand c inv command := by
  unfold dispatch
  rw [hname, hcommand]
  rfl

/-- Where calls have no room, dispatching fails before anything is done. -/
theorem run_dispatch_of_room_lt (hname : Text.hasChar inv.name '/' = false)
    (hcommand : Command.ofName? inv.command = some command) (hroom : c.room < 2) (s : State) :
    (dispatch c inv).run s = (.error .tooDeep, s) := by
  rw [dispatch_of_command hname hcommand]
  match hc : c.room, hroom with
  | 0, _ =>
    rw [Context.call_of_no_room hc]
    rfl
  | 1, _ =>
    rw [call_bind hc]
    unfold runCommand
    rfl

/-- What dispatching a command comes to that runs no others and does not end the session. -/
theorem dispatch_of_alone (hname : Text.hasChar inv.name '/' = false)
    (hcommand : Command.ofName? inv.command = some command)
    (halone : command ≠ .exit ∧ command ≠ .sudo ∧ command ≠ .shell) (hroom : c.room = room + 2) :
    dispatch c inv =
      runAlone { c with room } inv command >>= fun output => pure (.text output) := by
  obtain ⟨hexit, hsudo, hshell⟩ := halone
  rw [dispatch_of_command hname hcommand, call_bind hroom]
  unfold runCommand
  cases command with
  | exit => exact absurd rfl hexit
  | «sudo» => exact absurd rfl hsudo
  | shell => exact absurd rfl hshell
  | _ => exact call_bind rfl _

theorem run_dispatch_whoami (hname : Text.hasChar inv.name '/' = false)
    (hcommand : Command.ofName? inv.command = some .whoami) (hroom : c.room = room + 2)
    (s : State) : (dispatch c inv).run s = (.ok (.text (c.user ++ "\n")), s) := by
  rw [dispatch_of_alone hname hcommand (by decide) hroom]
  rfl

/-! ## Invocations by words -/

/-- The invocation that a name and the words after it make. -/
def Invocation.ofWords (name : String) (words : List String) : Invocation :=
  ⟨Text.join " " (name :: words), name, words⟩

theorem parse?_join {name : String} {words : List String}
    (h : ∀ t ∈ name :: words, Text.IsWord t) :
    Invocation.parse? (Text.join " " (name :: words)) = some (.ofWords name words) := by
  unfold Invocation.parse?
  rw [Text.words_join h, Text.strip_join h]
  rfl

/-! ## A plain shell -/

/-- A user on a standard device. -/
def guest : Context :=
  ⟨Persona.standard, "pi", "", "203.0.113.9", 40000, 1700000000, none, callRoom⟩

/-- A shell on no files. -/
def bare : State := ⟨FileSystem.fresh [] "/" "/", [], [], ⟨.ofSeed 0, .ofSeed 0⟩, []⟩

end Honeypot.Shell
