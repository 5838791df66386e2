import Honeypot.Proofs.Shell.Room

/-!
# Commands of the superuser

What `sudo` does with a command behind it. It looks for a question about rights among all of its
words, those of the command included; without one it runs the command as the superuser, two calls
deeper than the command would run by itself (`sudo_runs_as_superuser`).
-/

namespace Honeypot.Shell

variable {c : Context} {inv : Invocation} {name : String} {words : List String} {room : Nat}

/-! ## The words of sudo -/

/-- Whether some words ask `sudo` what the user may do. -/
def AsksForRights (tokens : List String) : Prop := "-l" ∈ tokens ∨ "--list" ∈ tokens

instance (tokens : List String) : Decidable (AsksForRights tokens) :=
  inferInstanceAs (Decidable ("-l" ∈ tokens ∨ "--list" ∈ tokens))

theorem hasFlag_iff {flag : String} (h : isFlag flag = true) :
    inv.hasFlag flag = true ↔ flag ∈ inv.tokens := by
  unfold Invocation.hasFlag
  rw [h, Bool.true_and, List.contains_iff_mem]

theorem asksForRights_iff :
    (inv.hasFlag "-l" || inv.hasFlag "--list") = true ↔ AsksForRights inv.tokens := by
  rw [Bool.or_eq_true, hasFlag_iff (by decide), hasFlag_iff (by decide)]
  rfl

theorem afterSudoOptions_of_not_isFlag (h : isFlag name = false) :
    afterSudoOptions (name :: words) = name :: words := by
  unfold afterSudoOptions
  rw [h]
  rfl

/-! ## The command -/

theorem runCommand_sudo_of_asks (hasks : AsksForRights inv.tokens) (hroom : c.room = room + 1) :
    runCommand c inv .sudo = pure (.text (sudoRights c)) := by
  have hsome : ¬inv.tokens.isEmpty = true := by
    intro hempty
    rw [List.isEmpty_iff.mp hempty] at hasks
    exact hasks.elim List.not_mem_nil List.not_mem_nil
  unfold runCommand
  rw [call_bind hroom]
  exact (if_neg hsome).trans (if_pos (asksForRights_iff.mpr hasks))

/-- Without a question about rights `sudo` runs the words after its options, if they name
something. -/
theorem runCommand_sudo (hafter : afterSudoOptions inv.tokens = name :: words)
    (hwords : ∀ t ∈ name :: words, Text.IsWord t) (hasks : ¬AsksForRights inv.tokens)
    (hroom : c.room = room + 1) :
    runCommand c inv .sudo =
      if !Text.hasChar name '/' && (Command.ofName? (Text.lower name)).isNone then
        pure (.text ("sudo: " ++ name ++ ": command not found\n"))
      else dispatch { c with user := "root", room } (.ofWords name words) := by
  have hsome : ¬inv.tokens.isEmpty = true := by
    intro hempty
    rw [List.isEmpty_iff.mp hempty] at hafter
    cases hafter
  have hparse : Invocation.parse? (Text.join " " (afterSudoOptions inv.tokens)) =
      some (.ofWords name words) := by
    rw [hafter, parse?_join hwords]
  unfold runCommand
  rw [call_bind hroom]
  refine (if_neg hsome).trans ((if_neg (mt asksForRights_iff.mp hasks)).trans ?_)
  split
  · next hnone =>
    rw [hparse] at hnone
    cases hnone
  · next sub hsub =>
    cases hparse.symm.trans hsub
    rfl

theorem runCommand_sudo_of_words (htokens : inv.tokens = name :: words)
    (hwords : ∀ t ∈ name :: words, Text.IsWord t) (hflag : isFlag name = false)
    (hknown : Text.hasChar name '/' = true ∨ (Command.ofName? (Text.lower name)).isSome = true)
    (hasks : ¬AsksForRights inv.tokens) (hroom : c.room = room + 1) :
    runCommand c inv .sudo = dispatch { c with user := "root", room } (.ofWords name words) := by
  have hafter : afterSudoOptions inv.tokens = name :: words := by
    rw [htokens, afterSudoOptions_of_not_isFlag hflag]
  have hfound : ¬(!Text.hasChar name '/' && (Command.ofName? (Text.lower name)).isNone) = true := by
    rw [Bool.and_eq_true, Bool.not_eq_true', Option.isNone_iff_eq_none]
    rintro ⟨hslash, hnone⟩
    rw [hslash, hnone] at hknown
    exact hknown.elim nofun nofun
  rw [runCommand_sudo hafter hwords hasks hroom, if_neg hfound]

section Dispatch

variable (hname : Text.hasChar inv.name '/' = false)
  (hcommand : Command.ofName? inv.command = some .sudo)

include hname hcommand

theorem dispatch_sudo_of_asks (hasks : AsksForRights inv.tokens) (hroom : c.room = room + 2) :
    dispatch c inv = pure (.text (sudoRights c)) := by
  rw [dispatch_of_command hname hcommand, call_bind hroom]
  exact runCommand_sudo_of_asks hasks rfl

variable (htokens : inv.tokens = name :: words) (hwords : ∀ t ∈ name :: words, Text.IsWord t)
  (hflag : isFlag name = false)
  (hknown : Text.hasChar name '/' = true ∨ (Command.ofName? (Text.lower name)).isSome = true)
  (hasks : ¬AsksForRights inv.tokens)

include htokens hwords hflag hknown hasks

theorem dispatch_sudo_of_words (hroom : c.room = room + 2) :
    dispatch c inv = dispatch { c with user := "root", room } (.ofWords name words) := by
  rw [dispatch_of_command hname hcommand, call_bind hroom]
  exact runCommand_sudo_of_words htokens hwords hflag hknown hasks rfl

/-- What `sudo` runs, it runs as the superuser would, unless the two calls of `sudo` itself are
the ones that there is no room for. -/
theorem agrees_dispatch_sudo :
    AgreesUnless .tooDeep (dispatch c inv)
      (dispatch { c with user := "root" } (.ofWords name words)) := by
  intro s
  by_cases hroom : c.room < 2
  · rw [run_dispatch_of_room_lt hname hcommand hroom s]
    exact .inl rfl
  · obtain ⟨room, hroom⟩ : ∃ room, c.room = room + 2 := ⟨c.room - 2, by omega⟩
    rw [dispatch_sudo_of_words hname hcommand htokens hwords hflag hknown hasks hroom]
    -- The command runs two calls deeper than by itself.
    have hmore := agrees_dispatch { c with user := "root", room } 2 (.ofWords name words) s
    have hsame : ({ c with user := "root", room } : Context).roomier 2 =
        { c with user := "root" } := by
      show { c with user := "root", room := room + 2 } = _
      rw [← hroom]
    rw [hsame] at hmore
    exact hmore

end Dispatch

/-- **What `sudo` does with a command** that is in the table or is named by its path. If there is a
question about rights among the words, also among those of the command, it prints the rights and
changes nothing. Otherwise it does what the command does for the superuser: exactly so with room
for the two calls that `sudo` takes itself, and in the same context too unless there is no room for
them. -/
theorem sudo_runs_as_superuser (c : Context) (s : State) {inv : Invocation} {name : String}
    {words : List String} (hname : Text.hasChar inv.name '/' = false)
    (hcommand : Command.ofName? inv.command = some .sudo) (htokens : inv.tokens = name :: words)
    (hwords : ∀ t ∈ name :: words, Text.IsWord t) (hflag : isFlag name = false)
    (hknown : Text.hasChar name '/' = true ∨
      (Command.ofName? (Text.lower name)).isSome = true) :
    (AsksForRights (name :: words) →
      (dispatch (c.roomier 2) inv).run s = (.ok (.text (sudoRights c)), s)) ∧
    (¬AsksForRights (name :: words) →
      (dispatch (c.roomier 2) inv).run s =
        (dispatch { c with user := "root" } (.ofWords name words)).run s ∧
      (((dispatch c inv).run s).1 = .error .tooDeep ∨
        (dispatch c inv).run s =
          (dispatch { c with user := "root" } (.ofWords name words)).run s)) := by
  rw [← htokens]
  refine ⟨fun hasks => ?_, fun hasks => ⟨?_, ?_⟩⟩
  · rw [dispatch_sudo_of_asks hname hcommand hasks rfl]
    rfl
  · rw [dispatch_sudo_of_words hname hcommand htokens hwords hflag hknown hasks rfl]
    rfl
  · exact (agrees_dispatch_sudo hname hcommand htokens hwords hflag hknown hasks s).imp id Eq.symm

theorem sudo_runs_as_superuser_example :
    (Text.hasChar (Invocation.ofWords "sudo" ["sudo", "whoami"]).name '/' = false ∧
      Command.ofName? (Invocation.ofWords "sudo" ["sudo", "whoami"]).command = some .sudo ∧
      (∀ t ∈ ["sudo", "whoami"], Text.IsWord t) ∧ isFlag "sudo" = false ∧
      (Command.ofName? (Text.lower "sudo")).isSome = true ∧ ¬AsksForRights ["sudo", "whoami"]) ∧
    (dispatch (guest.roomier 2) (.ofWords "sudo" ["sudo", "whoami"])).run bare =
      (.ok (.text "root\n"), bare) := by
  have hname (words : List String) :
      Text.hasChar (Invocation.ofWords "sudo" words).name '/' = false := by
    show Text.hasChar "sudo" '/' = false
    decide
  have hcommand (words : List String) :
      Command.ofName? (Invocation.ofWords "sudo" words).command = some .sudo := by
    show Command.ofName? (Text.lower "sudo") = some .sudo
    decide
  have hwords : ∀ t ∈ ["sudo", "whoami"], Text.IsWord t := by decide
  have hknown : (Command.ofName? (Text.lower "sudo")).isSome = true := by decide
  have hasks : ¬AsksForRights ["sudo", "whoami"] := by decide
  have hroot : (dispatch { guest with user := "root" } (.ofWords "sudo" ["whoami"])).run bare =
      (.ok (.text "root\n"), bare) := by
    have hroom : ({ guest with user := "root" } : Context).room = 984 + 2 := rfl
    have hinner : ({ guest with user := "root", room := 984 } : Context).room = 982 + 2 := rfl
    rw [dispatch_sudo_of_words (hname _) (hcommand _) rfl (by decide) (by decide)
      (.inr (by decide)) (by decide) hroom]
    exact run_dispatch_whoami (by decide) (by decide) hinner bare
  have h := sudo_runs_as_superuser guest bare (hname _) (hcommand _) rfl hwords rfl (.inr hknown)
  exact ⟨⟨hname _, hcommand _, hwords, rfl, hknown, hasks⟩, (h.2 hasks).1.trans hroot⟩

/-- A flag of the command keeps `sudo` from running it. -/
theorem sudo_takes_flag_of_command :
    (dispatch guest (.ofWords "sudo" ["whoami", "-l"])).run bare =
      (.ok (.text (sudoRights guest)), bare) ∧
    (dispatch { guest with user := "root" } (.ofWords "whoami" ["-l"])).run bare =
      (.ok (.text "root\n"), bare) ∧
    sudoRights guest ≠ "root\n" := by
  refine ⟨?_, ?_, by decide⟩
  · have hname : Text.hasChar (Invocation.ofWords "sudo" ["whoami", "-l"]).name '/' = false := by
      decide
    have hcommand :
        Command.ofName? (Invocation.ofWords "sudo" ["whoami", "-l"]).command = some .sudo := by
      decide
    have hasks : AsksForRights (Invocation.ofWords "sudo" ["whoami", "-l"]).tokens := by decide
    have hroom : guest.room = 984 + 2 := rfl
    rw [dispatch_sudo_of_asks hname hcommand hasks hroom]
    rfl
  · have hroom : ({ guest with user := "root" } : Context).room = 984 + 2 := rfl
    exact run_dispatch_whoami (by decide) (by decide) hroom bare

end Honeypot.Shell
