import Honeypot.Proofs.Shell.Superuser
import Honeypot.Proofs.Shell.Tails

/-!
# Programs that are not there

On a device without a PCI bus `lspci` and `dmidecode` complain like a name that is unknown. They
are commands all the same, and `sudo` looks for these: it complains itself about a name that is
unknown, but hands on to the two (`alike_iff`).
-/

namespace Honeypot.Shell

variable {c : Context} {s : State} {opts words : List String} {groups : List (List String)}
  {word other flag : String}

/-! ## Texts up to a name -/

/-- Whether two texts are the same up to a name: the same pieces, joined by the one name and by the
other. -/
def SameUpTo (name name' out out' : String) : Prop :=
  ∃ pieces, out = Text.join name pieces ∧ out' = Text.join name' pieces

/-- Whether two lines end in the same way up to a name. -/
def Alike (name name' : String) : Except Fault Response → Except Fault Response → Prop
  | .ok (.text out), .ok (.text out') => SameUpTo name name' out out'
  | result, result' => result = result'

/-- What `sudo` prints for a name that it does not know. -/
def sudoNotFound (name : String) : String := "sudo: " ++ name ++ ": command not found\n"

theorem sameUpTo_refl (name name' out : String) : SameUpTo name name' out out :=
  ⟨[out], (Text.join_singleton name out).symm, (Text.join_singleton name' out).symm⟩

theorem sameUpTo_commandNotFound (name name' : String) :
    SameUpTo name name' (commandNotFound name) (commandNotFound name') := by
  have hpieces (name : String) :
      commandNotFound name = Text.join name ["bash: ", ": command not found\n"] := by
    rw [Text.join_cons_cons, Text.join_singleton]
    rfl
  exact ⟨_, hpieces name, hpieces name'⟩

/-- The two complaints have no beginning in common, and that of the shell does not begin with the
name. -/
theorem not_sameUpTo (hword : word = "lspci" ∨ word = "dmidecode") (other : String) :
    ¬SameUpTo word other (commandNotFound word) (sudoNotFound other) := by
  rintro ⟨pieces, hshell, hsudo⟩
  have hb : (commandNotFound word).toList.head? = some 'b' := by
    unfold commandNotFound
    rw [String.toList_append, String.toList_append]
    rfl
  have hs : (sudoNotFound other).toList.head? = some 's' := by
    unfold sudoNotFound
    rw [String.toList_append, String.toList_append]
    rfl
  -- The first piece begins both texts, unless it is empty and the name begins the first one.
  match pieces with
  | [] =>
    rw [hshell] at hb
    cases hb
  | [piece] =>
    rw [hshell, Text.join_singleton] at hb
    rw [hsudo, Text.join_singleton, hb] at hs
    cases hs
  | first :: second :: rest =>
    rw [hshell, Text.join_cons_cons, String.toList_append, String.toList_append] at hb
    rw [hsudo, Text.join_cons_cons, String.toList_append, String.toList_append] at hs
    cases hfirst : first.toList with
    | nil =>
      rw [hfirst] at hb
      obtain rfl | rfl := hword
      · cases hb
      · cases hb
    | cons d tail =>
      rw [hfirst] at hb hs
      cases hb
      cases hs

/-! ## The options of sudo -/

/-- Words that are options of `sudo`: flags, and one more word behind the flags for a user and for
a group. -/
inductive SudoOptions : List String → Prop where
  | nil : SudoOptions []
  | flag {option : String} {rest : List String} (hflag : isFlag option = true)
      (halone : option ≠ "-u" ∧ option ≠ "-g") (hrest : SudoOptions rest) :
      SudoOptions (option :: rest)
  | valued {option value : String} {rest : List String} (hoption : option = "-u" ∨ option = "-g")
      (hrest : SudoOptions rest) : SudoOptions (option :: value :: rest)

theorem SudoOptions.after (h : SudoOptions opts) {name : String} (hname : isFlag name = false)
    (words : List String) : afterSudoOptions (opts ++ name :: words) = name :: words := by
  induction h with
  | nil => exact afterSudoOptions_of_not_isFlag hname
  | flag hflag halone _ ih =>
    rw [List.cons_append]
    unfold afterSudoOptions
    rw [if_pos hflag, if_neg (not_or.mpr halone)]
    exact ih
  | valued hoption _ ih =>
    have hflag : isFlag "-u" = true ∧ isFlag "-g" = true := by decide
    rw [List.cons_append, List.cons_append]
    unfold afterSudoOptions
    rw [if_pos (hoption.elim (fun h => h ▸ hflag.1) fun h => h ▸ hflag.2), if_pos hoption]
    exact ih

/-! ## Commands behind sudo -/

/-- A command behind some words `sudo`, each with options of its own. -/
def sudoed (groups : List (List String)) (inv : Invocation) : Invocation :=
  groups.foldr (fun opts inv => .ofWords "sudo" (opts ++ inv.name :: inv.tokens)) inv

theorem mem_sudoed_iff {inv : Invocation} (hsudo : flag ≠ "sudo") :
    flag ∈ (sudoed groups inv).name :: (sudoed groups inv).tokens ↔
      flag ∈ groups.flatten ++ inv.name :: inv.tokens := by
  induction groups with
  | nil => rfl
  | cons opts groups ih =>
    show flag ∈ "sudo" :: (opts ++ (sudoed groups inv).name :: (sudoed groups inv).tokens) ↔ _
    rw [List.mem_cons, or_iff_right hsudo, List.mem_append, ih, List.flatten_cons,
      List.append_assoc, List.mem_append (s := opts)]

section Sudoed

variable {inv : Invocation} (hflag : isFlag inv.name = false)

theorem sudoed_known : Text.hasChar (sudoed (opts :: groups) inv).name '/' = false ∧
    Command.ofName? (sudoed (opts :: groups) inv).command = some .sudo := by
  constructor
  · show Text.hasChar "sudo" '/' = false
    decide
  · show Command.ofName? (Text.lower "sudo") = some .sudo
    decide

include hflag

theorem isFlag_sudoed : isFlag (sudoed groups inv).name = false := by
  cases groups with
  | nil => exact hflag
  | cons opts groups =>
    show isFlag "sudo" = false
    decide

theorem asksForRights_sudoed_iff :
    AsksForRights (sudoed groups inv).tokens ↔ AsksForRights (groups.flatten ++ inv.tokens) := by
  have hmem (flag : String) (hf : isFlag flag = true) :
      flag ∈ (sudoed groups inv).tokens ↔ flag ∈ groups.flatten ++ inv.tokens := by
    have hne {name : String} (hname : isFlag name = false) : flag ≠ name := by
      rintro rfl
      rw [hf] at hname
      cases hname
    have hiff : flag ∈ (sudoed groups inv).name :: (sudoed groups inv).tokens ↔
        flag ∈ groups.flatten ++ inv.name :: inv.tokens := mem_sudoed_iff (hne (by decide))
    rw [List.mem_cons, or_iff_right (hne (isFlag_sudoed hflag)), List.mem_append, List.mem_cons,
      or_iff_right (hne hflag)] at hiff
    rw [hiff, List.mem_append]
  unfold AsksForRights
  rw [hmem "-l" (by decide), hmem "--list" (by decide)]

omit hflag in
theorem isWord_sudoed (hwords : ∀ t ∈ groups.flatten ++ inv.name :: inv.tokens, Text.IsWord t) :
    ∀ t ∈ (sudoed groups inv).name :: (sudoed groups inv).tokens, Text.IsWord t := by
  intro t ht
  by_cases hsudo : t = "sudo"
  · rw [hsudo]
    decide
  · exact hwords t ((mem_sudoed_iff hsudo).mp ht)

/-- Behind a `sudo` a command is dispatched for the superuser, if it has a name that is known. -/
theorem dispatch_sudoed (hopts : SudoOptions opts)
    (hwords : ∀ t ∈ groups.flatten ++ inv.name :: inv.tokens, Text.IsWord t)
    (hasks : ¬AsksForRights ((opts :: groups).flatten ++ inv.tokens)) {room : Nat}
    (hroom : c.room = room + 2) :
    dispatch c (sudoed (opts :: groups) inv) =
      if !Text.hasChar (sudoed groups inv).name '/' &&
          (Command.ofName? (sudoed groups inv).command).isNone then
        pure (.text (sudoNotFound (sudoed groups inv).name))
      else dispatch { c with user := "root", room } (sudoed groups inv) := by
  have hnot : ¬AsksForRights (sudoed (opts :: groups) inv).tokens :=
    mt (asksForRights_sudoed_iff hflag).mp hasks
  have hraw : dispatch { c with user := "root", room }
      (.ofWords (sudoed groups inv).name (sudoed groups inv).tokens) =
      dispatch { c with user := "root", room } (sudoed groups inv) := dispatch_raw _ _ _ _ _
  rw [dispatch_of_command sudoed_known.1 sudoed_known.2, call_bind hroom,
    runCommand_sudo (hopts.after (isFlag_sudoed hflag) _) (isWord_sudoed hwords) hnot rfl, hraw]
  rfl

/-! ## Commands behind any number of sudos -/

/-- What stands behind `sudo` and is no question about rights. -/
structure Behind (groups : List (List String)) (inv : Invocation) : Prop where
  options : ∀ opts ∈ groups, SudoOptions opts
  words : ∀ t ∈ groups.flatten ++ inv.name :: inv.tokens, Text.IsWord t
  noQuestion : groups ≠ [] → ¬AsksForRights (groups.flatten ++ inv.tokens)

omit hflag in
theorem Behind.tail (h : Behind (opts :: groups) inv) : Behind groups inv where
  options := fun opts hopts => h.options opts (List.mem_cons_of_mem _ hopts)
  words := fun t ht => h.words t (by
    rw [List.flatten_cons, List.append_assoc]
    exact List.mem_append_right _ ht)
  noQuestion := fun _ hasks => h.noQuestion (List.cons_ne_nil _ _) (by
    rw [List.flatten_cons, List.append_assoc]
    exact hasks.imp (List.mem_append_right _) (List.mem_append_right _))

/-- **Every `sudo` takes two calls**, and then the command is run for the superuser. -/
theorem run_sudoed_of_known (hcommand : (Command.ofName? inv.command).isSome = true)
    (h : Behind groups inv) (c : Context) (s : State) :
    (dispatch c (sudoed groups inv)).run s =
      if c.room < 2 * groups.length then (.error .tooDeep, s)
      else (dispatch { c with
        user := if groups = [] then c.user else "root",
        room := c.room - 2 * groups.length } inv).run s := by
  induction groups generalizing c with
  | nil => exact (if_neg (Nat.not_lt_zero _)).symm
  | cons opts groups ih =>
    by_cases hlow : c.room < 2
    · have hshort : c.room < 2 * (opts :: groups).length := by
        rw [List.length_cons]
        omega
      rw [run_dispatch_of_room_lt sudoed_known.1 sudoed_known.2 hlow, if_pos hshort]
    · obtain ⟨room, hroom⟩ := Nat.exists_eq_add_of_le' (Nat.not_lt.mp hlow)
      have hfound : ¬(!Text.hasChar (sudoed groups inv).name '/' &&
          (Command.ofName? (sudoed groups inv).command).isNone) = true := by
        have hsome : (Command.ofName? (sudoed groups inv).command).isSome = true := by
          cases groups with
          | nil => exact hcommand
          | cons opts groups => exact Option.isSome_of_eq_some sudoed_known.2
        obtain ⟨command, hsome⟩ := Option.isSome_iff_exists.mp hsome
        rw [hsome, Option.isNone_some, Bool.and_false]
        nofun
      rw [dispatch_sudoed hflag (h.options opts List.mem_cons_self) h.tail.words
        (h.noQuestion (List.cons_ne_nil _ _)) hroom, if_neg hfound, ih h.tail]
      have hlength : (opts :: groups).length = groups.length + 1 := rfl
      have hrest : c.room - 2 * (opts :: groups).length = room - 2 * groups.length := by omega
      have hiff : c.room < 2 * (opts :: groups).length ↔ room < 2 * groups.length := by omega
      simp only [hrest, hiff, ite_self, List.cons_ne_nil, if_false]

/-- A name that is unknown is what the last `sudo` complains about. -/
theorem run_sudoed_of_unknown (hslash : Text.hasChar inv.name '/' = false)
    (hcommand : Command.ofName? inv.command = none) (h : Behind groups inv) (hsome : groups ≠ [])
    (c : Context) (s : State) :
    (dispatch c (sudoed groups inv)).run s =
      if c.room < 2 * groups.length then (.error .tooDeep, s)
      else (.ok (.text (sudoNotFound inv.name)), s) := by
  induction groups generalizing c with
  | nil => exact absurd rfl hsome
  | cons opts groups ih =>
    have hlength : (opts :: groups).length = groups.length + 1 := rfl
    by_cases hlow : c.room < 2
    · have hshort : c.room < 2 * (opts :: groups).length := by omega
      rw [run_dispatch_of_room_lt sudoed_known.1 sudoed_known.2 hlow, if_pos hshort]
    · obtain ⟨room, hroom⟩ := Nat.exists_eq_add_of_le' (Nat.not_lt.mp hlow)
      rw [dispatch_sudoed hflag (h.options opts List.mem_cons_self) h.tail.words
        (h.noQuestion (List.cons_ne_nil _ _)) hroom]
      cases groups with
      | nil =>
        have hunknown : (!Text.hasChar (sudoed [] inv).name '/' &&
            (Command.ofName? (sudoed [] inv).command).isNone) = true := by
          show (!Text.hasChar inv.name '/' && (Command.ofName? inv.command).isNone) = true
          rw [hslash, hcommand]
          rfl
        have hroomy : ¬c.room < 2 * [opts].length := by
          show ¬c.room < 2 * 1
          omega
        rw [if_pos hunknown, if_neg hroomy]
        rfl
      | cons next groups =>
        have hfound : ¬(!Text.hasChar (sudoed (next :: groups) inv).name '/' &&
            (Command.ofName? (sudoed (next :: groups) inv).command).isNone) = true := by
          rw [sudoed_known.2, Option.isNone_some, Bool.and_false]
          nofun
        have hiff : c.room < 2 * (opts :: next :: groups).length ↔
            room < 2 * (next :: groups).length := by omega
        rw [if_neg hfound, ih h.tail (List.cons_ne_nil _ _)]
        simp only [hiff]

end Sudoed

/-! ## Names -/

/-- A plain word that is no command, no path and no flag. -/
structure IsUnknown (word : String) : Prop where
  plain : IsPlain word
  noPath : Text.hasChar word '/' = false
  noFlag : isFlag word = false
  noCommand : Command.ofName? (Text.lower word) = none

/-- The programs that read what a PCI bus tells. -/
def IsBusReader (word : String) : Prop := word = "lspci" ∨ word = "dmidecode"

/-- Without a bus the programs that read it are not found. -/
theorem run_busReader (hword : IsBusReader word) (hbus : c.device.hasPciBus = false) (raw : String)
    (words : List String) (s : State) :
    (dispatch c ⟨raw, word, words⟩).run s =
      if c.room < 2 then (.error .tooDeep, s) else (.ok (.text (commandNotFound word)), s) := by
  have hnames : Text.hasChar word '/' = false ∧ ∃ command,
      Command.ofName? (Text.lower word) = some command ∧
      (command ≠ .exit ∧ command ≠ .sudo ∧ command ≠ .shell) ∧
      ∀ room, (runAlone { c with room } ⟨raw, word, words⟩ command).run s =
        (.ok (commandNotFound word), s) := by
    obtain rfl | rfl := hword
    · refine ⟨by decide, .lspci, by decide, by decide, fun room => ?_⟩
      have hnone : lspci { c with room } ⟨raw, "lspci", words⟩ = commandNotFound "lspci" :=
        if_neg (Bool.eq_false_iff.mp hbus)
      rw [← hnone]
      rfl
    · refine ⟨by decide, .dmidecode, by decide, by decide, fun room => ?_⟩
      have hnone : dmidecode { c with room } ⟨raw, "dmidecode", words⟩ =
          commandNotFound "dmidecode" := by
        unfold dmidecode
        exact if_pos (congrArg not hbus)
      rw [← hnone]
      rfl
  obtain ⟨hslash, command, hfound, halone, hrun⟩ := hnames
  have hname : Text.hasChar (Invocation.mk raw word words).name '/' = false := hslash
  have hcommand : Command.ofName? (Invocation.mk raw word words).command = some command := hfound
  by_cases hlow : c.room < 2
  · rw [if_pos hlow]
    exact run_dispatch_of_room_lt hname hcommand hlow s
  · obtain ⟨room, hroom⟩ := Nat.exists_eq_add_of_le' (Nat.not_lt.mp hlow)
    rw [if_neg hlow, dispatch_of_alone hname hcommand halone hroom, run_bind_of_ok (hrun room)]
    rfl

theorem run_unknown {inv : Invocation} (hslash : Text.hasChar inv.name '/' = false)
    (hcommand : Command.ofName? inv.command = none) {room : Nat} (hroom : c.room = room + 1)
    (s : State) : (dispatch c inv).run s = (.ok (.text (commandNotFound inv.name)), s) := by
  unfold dispatch
  rw [call_bind hroom, hslash, hcommand]
  rfl

/-! ## Lines -/

/-- The line of a command behind some words `sudo`, each with options of its own. -/
def sudoLine (groups : List (List String)) (word t : String) : String :=
  Text.join " " (groups.flatMap ("sudo" :: ·) ++ [word]) ++ t

/-- The words behind the name of the first command of a line. -/
def argumentsOf (line : String) : List String :=
  match (split line).head?.bind fun g => Invocation.parse? g.text with
  | some inv => inv.tokens
  | none => []

theorem words_sudoed (groups : List (List String)) (inv : Invocation) :
    (sudoed groups inv).name :: (sudoed groups inv).tokens =
      groups.flatMap ("sudo" :: ·) ++ inv.name :: inv.tokens := by
  induction groups with
  | nil => rfl
  | cons opts groups ih =>
    show "sudo" :: (opts ++ (sudoed groups inv).name :: (sudoed groups inv).tokens) = _
    rw [ih, List.flatMap_cons, List.cons_append, List.cons_append, List.append_assoc]

/-- **A line of one command behind some words `sudo`** is the command behind these words, and its
arguments are the same whatever the command is. -/
theorem exists_runLine_sudoLine {t : String} (ht : Trails t) :
    ∃ args later, (∀ word ∈ args, Text.IsWord word) ∧ ∀ word, IsPlain word →
      argumentsOf (word ++ t) = args ∧ (split (word ++ t)).tail = later ∧
      ∀ groups : List (List String), (∀ option ∈ groups.flatten, IsPlain option) → later = [] →
        ∀ (c : Context) (room : Nat), c.room = room + 1 →
          runLine c (sudoLine groups word t) =
            dispatch { c with room } (sudoed groups (.ofWords word args)) := by
  obtain ⟨args, later, hargs, hsplit⟩ := exists_split_join ht
  refine ⟨args, later, hargs, fun word hword => ?_⟩
  obtain ⟨text, raw, hone, hinv⟩ := hsplit word [] (List.forall_mem_singleton.mpr hword)
  rw [Text.join_singleton] at hone
  refine ⟨?_, ?_, fun groups hgroups hlast c room hroom => ?_⟩
  · unfold argumentsOf
    rw [hone, List.head?_cons, Option.bind_some, hinv]
    rfl
  · rw [hone, List.tail_cons]
  · let first := sudoed groups (.ofWords word [])
    have hfirst : first.name :: first.tokens = groups.flatMap ("sudo" :: ·) ++ [word] :=
      words_sudoed groups _
    have hplain : ∀ w ∈ first.name :: first.tokens, IsPlain w := by
      intro w hw
      by_cases hsudo : w = "sudo"
      · rw [hsudo]
        decide
      · obtain hw | hw := List.mem_append.mp ((mem_sudoed_iff hsudo).mp hw)
        · exact hgroups w hw
        · rw [List.mem_singleton.mp hw]
          exact hword
    obtain ⟨text, raw, hline, hinv⟩ := hsplit first.name first.tokens hplain
    rw [hfirst, hlast] at hline
    rw [sudoLine, runLine_single hroom hline hinv]
    let whole := sudoed groups (.ofWords word args)
    have hwhole : whole.name :: whole.tokens = groups.flatMap ("sudo" :: ·) ++ word :: args :=
      words_sudoed groups _
    have hsame : first.name :: (first.tokens ++ args) = whole.name :: whole.tokens := by
      rw [hwhole, ← List.cons_append, hfirst, List.append_assoc, List.singleton_append]
    obtain ⟨hname, htokens⟩ := List.cons.inj hsame
    rw [hname, htokens]
    exact dispatch_raw _ _ _ _ _

section Ends

variable (hbus : c.device.hasPciBus = false) (hword : IsBusReader word) (hother : IsUnknown other)

theorem IsBusReader.known (hword : IsBusReader word) : IsPlain word ∧ isFlag word = false ∧
    (Command.ofName? (Text.lower word)).isSome = true := by
  obtain rfl | rfl := hword
  · decide
  · decide

include hbus hword hother

/-- Without a `sudo` both are not found by the shell, which takes one call more for the one that is
a command. -/
theorem alike_alone (args : List String) (s : State) :
    ∃ result result', (dispatch c (.ofWords word args)).run s = (result, s) ∧
      (dispatch c (.ofWords other args)).run s = (result', s) ∧
      (Alike word other result result' ↔ c.room ≠ 1) := by
  have hreads := run_busReader hword hbus (Invocation.ofWords word args).raw args s
  have hslash : Text.hasChar (Invocation.ofWords other args).name '/' = false := hother.noPath
  have hcommand : Command.ofName? (Invocation.ofWords other args).command = none :=
    hother.noCommand
  cases hroom : c.room with
  | zero =>
    rw [hroom, if_pos (by decide)] at hreads
    have hstrange : (dispatch c (.ofWords other args)).run s = (.error .tooDeep, s) := by
      rw [dispatch, Context.call_of_no_room hroom]
      rfl
    exact ⟨_, _, hreads, hstrange, iff_of_true rfl (by decide)⟩
  | succ room =>
    have hstrange := run_unknown hslash hcommand hroom s
    by_cases hlow : c.room < 2
    · rw [if_pos hlow] at hreads
      have hdiffer : ¬Alike word other (.error .tooDeep) (.ok (.text (commandNotFound other))) := by
        intro hsame
        cases hsame
      exact ⟨_, _, hreads, hstrange, iff_of_false hdiffer (by omega)⟩
    · rw [if_neg hlow] at hreads
      exact ⟨_, _, hreads, hstrange, iff_of_true (sameUpTo_commandNotFound word other) (by omega)⟩

omit hbus in
/-- Where the rights are asked for, `sudo` shows them whatever the command is. -/
theorem alike_of_asks {args : List String}
    (hasks : AsksForRights ((opts :: groups).flatten ++ args)) (s : State) :
    ∃ result result',
      (dispatch c (sudoed (opts :: groups) (.ofWords word args))).run s = (result, s) ∧
      (dispatch c (sudoed (opts :: groups) (.ofWords other args))).run s = (result', s) ∧
      Alike word other result result' := by
  by_cases hlow : c.room < 2
  · exact ⟨_, _, run_dispatch_of_room_lt sudoed_known.1 sudoed_known.2 hlow s,
      run_dispatch_of_room_lt sudoed_known.1 sudoed_known.2 hlow s, rfl⟩
  · obtain ⟨room, hroom⟩ := Nat.exists_eq_add_of_le' (Nat.not_lt.mp hlow)
    have hrights {name : String} (hflag : isFlag name = false) :
        (dispatch c (sudoed (opts :: groups) (.ofWords name args))).run s =
          (.ok (.text (sudoRights c)), s) := by
      have hflagged : isFlag (Invocation.ofWords name args).name = false := hflag
      rw [dispatch_sudo_of_asks sudoed_known.1 sudoed_known.2
        ((asksForRights_sudoed_iff hflagged).mpr hasks) hroom]
      rfl
    exact ⟨_, _, hrights hword.known.2.1, hrights hother.noFlag, sameUpTo_refl _ _ _⟩

/-- Otherwise the two differ, unless there is no room for the `sudo`s. -/
theorem alike_iff_of_behind {args : List String} (hreads : Behind groups (.ofWords word args))
    (hstrange : Behind groups (.ofWords other args)) (hsome : groups ≠ []) (s : State) :
    ∃ result result', (dispatch c (sudoed groups (.ofWords word args))).run s = (result, s) ∧
      (dispatch c (sudoed groups (.ofWords other args))).run s = (result', s) ∧
      (Alike word other result result' ↔ c.room < 2 * groups.length) := by
  have hflag : isFlag (Invocation.ofWords word args).name = false := hword.known.2.1
  have hknown : (Command.ofName? (Invocation.ofWords word args).command).isSome = true :=
    hword.known.2.2
  have hrun := run_sudoed_of_known hflag hknown hreads c s
  have hotherFlag : isFlag (Invocation.ofWords other args).name = false := hother.noFlag
  have hslash : Text.hasChar (Invocation.ofWords other args).name '/' = false := hother.noPath
  have hcommand : Command.ofName? (Invocation.ofWords other args).command = none :=
    hother.noCommand
  have hotherRun := run_sudoed_of_unknown hotherFlag hslash hcommand hstrange hsome c s
  by_cases hlow : c.room < 2 * groups.length
  · rw [if_pos hlow] at hrun hotherRun
    exact ⟨_, _, hrun, hotherRun, iff_of_true rfl hlow⟩
  · rw [if_neg hlow, if_neg hsome] at hrun
    rw [if_neg hlow] at hotherRun
    let deep : Context := { c with user := "root", room := c.room - 2 * groups.length }
    have hdeepBus : deep.device.hasPciBus = false := hbus
    have hdeep : (dispatch deep (.ofWords word args)).run s =
        if deep.room < 2 then (.error .tooDeep, s) else (.ok (.text (commandNotFound word)), s) :=
      run_busReader hword hdeepBus _ args s
    by_cases hcalls : deep.room < 2
    · rw [if_pos hcalls] at hdeep
      exact ⟨_, _, hrun.trans hdeep, hotherRun, iff_of_false nofun hlow⟩
    · rw [if_neg hcalls] at hdeep
      exact ⟨_, _, hrun.trans hdeep, hotherRun, iff_of_false (not_sameUpTo hword other) hlow⟩

end Ends

/-- **How two programs give themselves away.** On a device without a PCI bus a line with `lspci` or
`dmidecode` in it, behind any number of words `sudo` with their options, leaves everything as it is,
and so does the line with a name in its place that is unknown. Without a `sudo` the two print the
same up to the name, unless the one call is too deep that only a command takes. Behind a `sudo` they
print the same exactly if the rights are asked for, or if there is no room for what the `sudo`s
take. -/
theorem alike_iff (c : Context) (s : State) {groups : List (List String)} {word other t : String}
    (hbus : c.device.hasPciBus = false) (hword : IsBusReader word)
    (hother : IsUnknown other) (hoptions : ∀ opts ∈ groups, SudoOptions opts)
    (hplain : ∀ option ∈ groups.flatten, IsPlain option) (ht : Trails t)
    (hone : (split (word ++ t)).tail = []) :
    ∃ result result', (runLine c (sudoLine groups word t)).run s = (result, s) ∧
      (runLine c (sudoLine groups other t)).run s = (result', s) ∧
      (Alike word other result result' ↔
        groups = [] ∧ c.room ≠ 2 ∨
        groups ≠ [] ∧ (AsksForRights (groups.flatten ++ argumentsOf (word ++ t)) ∨
          c.room ≤ 2 * groups.length)) := by
  obtain ⟨args, later, hargs, hlines⟩ := exists_runLine_sudoLine ht
  obtain ⟨harguments, hlater, hline⟩ := hlines word hword.known.1
  obtain ⟨-, -, hotherLine⟩ := hlines other hother.plain
  have hlast : later = [] := hlater.symm.trans hone
  cases hcalls : c.room with
  | zero =>
    have hdeep (line : String) : (runLine c line).run s = (.error .tooDeep, s) := by
      rw [runLine, Context.call_of_no_room hcalls]
      rfl
    refine ⟨_, _, hdeep _, hdeep _, iff_of_true rfl ?_⟩
    cases groups with
    | nil => exact .inl ⟨rfl, by decide⟩
    | cons opts groups => exact .inr ⟨List.cons_ne_nil _ _, .inr (Nat.zero_le _)⟩
  | succ room =>
    rw [hline groups hplain hlast c _ hcalls, hotherLine groups hplain hlast c _ hcalls, harguments]
    cases groups with
    | nil =>
      obtain ⟨result, result', hrun, hrun', hiff⟩ :=
        alike_alone (c := { c with room }) hbus hword hother args s
      refine ⟨result, result', hrun, hrun', hiff.trans ?_⟩
      simp
    | cons opts groups =>
      simp only [reduceCtorEq, false_and, false_or, ne_eq, not_false_eq_true, true_and]
      by_cases hasks : AsksForRights ((opts :: groups).flatten ++ args)
      · obtain ⟨result, result', hrun, hrun', halike⟩ :=
          alike_of_asks (c := { c with room }) hword hother hasks s
        exact ⟨result, result', hrun, hrun', iff_of_true halike (.inl hasks)⟩
      · have hbehind {name : String} (hname : IsPlain name) :
            Behind (opts :: groups) (.ofWords name args) := by
          refine ⟨hoptions, fun t ht => ?_, fun _ => hasks⟩
          obtain ht | ht := List.mem_append.mp ht
          · exact (hplain t ht).1
          · obtain rfl | ht := List.mem_cons.mp ht
            · exact hname.1
            · exact hargs t ht
        obtain ⟨result, result', hrun, hrun', hiff⟩ := alike_iff_of_behind
          (c := { c with room }) hbus hword hother (hbehind hword.known.1)
          (hbehind hother.plain) (List.cons_ne_nil _ _) s
        refine ⟨result, result', hrun, hrun', hiff.trans ?_⟩
        rw [or_iff_right hasks]
        exact Nat.lt_iff_add_one_le

theorem isUnknown_xyzzy : IsUnknown "xyzzy" where
  plain := by decide
  noPath := by decide
  noFlag := by decide
  noCommand := by decide

/-- Where the rights are asked for, nothing shows which of the two is a command. -/
theorem alike_iff_example :
    (guest.device.hasPciBus = false ∧ IsBusReader "lspci" ∧ IsUnknown "xyzzy" ∧
      (∀ opts ∈ [["-u", "root"]], SudoOptions opts) ∧
      (∀ option ∈ [["-u", "root"]].flatten, IsPlain option) ∧ Trails " -l" ∧
      (split ("lspci" ++ " -l")).tail = []) ∧
    ∃ result result', (runLine guest (sudoLine [["-u", "root"]] "lspci" " -l")).run bare =
        (result, bare) ∧
      (runLine guest (sudoLine [["-u", "root"]] "xyzzy" " -l")).run bare = (result', bare) ∧
      Alike "lspci" "xyzzy" result result' := by
  have hoptions : ∀ opts ∈ [["-u", "root"]], SudoOptions opts := by
    intro opts hopts
    rw [List.mem_singleton.mp hopts]
    exact .valued (.inl rfl) .nil
  have hplain : ∀ option ∈ [["-u", "root"]].flatten, IsPlain option := by decide
  have htrails : Trails " -l" := by decide
  have hone : (split ("lspci" ++ " -l")).tail = [] := by decide
  have hasks : AsksForRights ([["-u", "root"]].flatten ++ argumentsOf ("lspci" ++ " -l")) := by
    decide
  obtain ⟨result, result', hrun, hrun', hiff⟩ := alike_iff guest bare rfl (.inl rfl)
    isUnknown_xyzzy hoptions hplain htrails hone
  exact ⟨⟨rfl, .inl rfl, isUnknown_xyzzy, hoptions, hplain, htrails, hone⟩,
    result, result', hrun, hrun', hiff.mpr (.inr ⟨List.cons_ne_nil _ _, .inl hasks⟩)⟩

/-- Behind `sudo` the shell complains about the one and `sudo` about the other. -/
theorem sudo_tells_apart :
    guest.device.hasPciBus = false ∧ IsUnknown "xyzzy" ∧
    (runLine guest "sudo lspci").run bare = (.ok (.text (commandNotFound "lspci")), bare) ∧
    (runLine guest "sudo xyzzy").run bare = (.ok (.text (sudoNotFound "xyzzy")), bare) ∧
    ¬SameUpTo "lspci" "xyzzy" (commandNotFound "lspci") (sudoNotFound "xyzzy") := by
  have hroom : guest.room = 985 + 1 := rfl
  have hbehind {name : String} (hword : Text.IsWord name) : Behind [[]] (.ofWords name []) := by
    have hnone : ¬AsksForRights [] := by decide
    refine ⟨fun opts hopts => ?_, fun t ht => ?_, fun _ => hnone⟩
    · rw [List.mem_singleton.mp hopts]
      exact .nil
    · rw [List.mem_singleton.mp ht]
      exact hword
  refine ⟨rfl, isUnknown_xyzzy, ?_, ?_, not_sameUpTo (.inl rfl) "xyzzy"⟩
  · have hsplit : split "sudo lspci" = [⟨.start, "sudo lspci"⟩] := by decide
    have hinv : Invocation.parse? "sudo lspci" = some (sudoed [[]] (.ofWords "lspci" [])) := by
      decide
    have hknown : (Command.ofName? (Invocation.ofWords "lspci" []).command).isSome = true := by
      decide
    rw [runLine_single hroom hsplit hinv,
      run_sudoed_of_known (by decide) hknown (hbehind (by decide)), if_neg (by decide)]
    exact (run_busReader (.inl rfl) rfl _ [] bare).trans (if_neg (by decide))
  · have hsplit : split "sudo xyzzy" = [⟨.start, "sudo xyzzy"⟩] := by decide
    have hinv : Invocation.parse? "sudo xyzzy" = some (sudoed [[]] (.ofWords "xyzzy" [])) := by
      decide
    have hunknown : Command.ofName? (Invocation.ofWords "xyzzy" []).command = none := by decide
    rw [runLine_single hroom hsplit hinv, run_sudoed_of_unknown (by decide) (by decide) hunknown
      (hbehind (by decide)) (List.cons_ne_nil _ _), if_neg (by decide)]
    rfl

end Honeypot.Shell
