import Honeypot.Proofs.FileSystem.Removal
import Honeypot.Proofs.FileSystem.Storing
import Honeypot.Proofs.Shell.Programs
import Honeypot.Proofs.Shell.Scripts

/-!
# Redirections

Words that `echo` sends to a file are the lines of the file: the first line takes the place of
whatever was there, every other one is put behind those before it (`run_sending_behind`), and in
the end the user who sent them can read all of them (`cat_shows_sent`), whoever the file belonged
to and whatever it showed before.
-/

namespace Honeypot.Shell

/-! ## Literal words -/

/-- Whether a text is a word that the shell takes as it stands. -/
def IsLiteral (t : String) : Prop := IsPlain t ∧ '$' ∉ t.toList ∧ '>' ∉ t.toList

instance : DecidablePred IsLiteral := fun _ => inferInstanceAs (Decidable (_ ∧ _))

/-- Whether words are literal and begin with no option of `echo`. -/
def AreSent (words : List String) : Prop :=
  (∀ word ∈ words, IsLiteral word) ∧ ∀ word ∈ words.head?, word ∉ echoFlags

instance : DecidablePred AreSent := fun words =>
  decidable_of_iff ((∀ word ∈ words, IsLiteral word) ∧ ∀ word ∈ words.take 1, word ∉ echoFlags)
    (and_congr_right fun _ => by cases words <;> simp)

/-- Whether text goes behind what a file has. -/
inductive Sign where
  | instead
  | behind
  deriving DecidableEq

def Sign.word : Sign → String
  | .instead => ">"
  | .behind => ">>"

def Sign.redirection (sign : Sign) (t : String) : Redirection := ⟨t, sign = .behind⟩

theorem Sign.isPlain_word (sign : Sign) : IsPlain sign.word := by
  cases sign <;> decide

section Words

variable {words : List String} {t : String}

theorem expandChars_of_not_mem {cs : List Char} (h : '$' ∉ cs) (env : Env) :
    expandChars env cs = cs := by
  induction cs with
  | nil => rw [expandChars]
  | cons c rest ih =>
    obtain ⟨hc, hrest⟩ := List.ne_and_not_mem_of_not_mem_cons h
    rw [expandChars, if_neg hc.symm, ih hrest]

theorem not_mem_join {c : Char} (hblank : c ≠ ' ') (h : ∀ word ∈ words, c ∉ word.toList) :
    c ∉ (Text.join " " words).toList := by
  induction words with
  | nil => exact List.not_mem_nil
  | cons word rest ih =>
    obtain ⟨hword, hrest⟩ := List.forall_mem_cons.mp h
    cases rest with
    | nil =>
      rw [Text.join_singleton]
      exact hword
    | cons next more =>
      rw [Text.toList_join_cons_cons, List.mem_append, List.mem_cons, not_or, not_or]
      exact ⟨hword, hblank, ih hrest⟩

/-- Literal words stand for themselves, with a blank between neighbours and a line feed behind
them. -/
theorem echoText_of_literal (h : ∀ word ∈ words, IsLiteral word) (env : Env) :
    echoText ⟨true, false⟩ env words = Text.join " " words ++ "\n" := by
  have hunquoted : unquote (Text.join " " words) = Text.join " " words :=
    unquote_of_inner fun _ => isInner_of_mem_join fun word hword => (h word hword).1
  have hexpanded : expand env (Text.join " " words) = Text.join " " words := by
    have hvariable : '$' ∉ (Text.join " " words).toList :=
      not_mem_join (by decide) fun word hword => (h word hword).2.1
    unfold expand
    rw [expandChars_of_not_mem hvariable, String.ofList_toList]
  unfold echoText
  rw [hunquoted, hexpanded]
  rfl

theorem readEchoOptions_of_not_option (h : ∀ word ∈ words.head?, word ∉ echoFlags)
    (options : EchoOptions) : readEchoOptions options words = (options, words) := by
  cases words with
  | nil => rfl
  | cons word rest =>
    have hno : ¬echoFlags.contains word = true := mt List.contains_iff_mem.mp (h word rfl)
    rw [readEchoOptions, if_neg hno]

theorem startsWith_angle_of_not_mem {word : String} (h : '>' ∉ word.toList) :
    Text.startsWith word ">" = false := by
  rw [Bool.eq_false_iff]
  intro hstarts
  obtain ⟨rest, hrest⟩ := List.isPrefixOf_iff_prefix.mp hstarts
  exact h (hrest ▸ List.mem_cons_self)

/-- The words in front of a redirection are those without the sign in them. -/
theorem splitRedirection_append (h : ∀ word ∈ words, '>' ∉ word.toList) (sign : Sign) (t : String) :
    splitRedirection (words ++ [sign.word, t]) = some (words, some (sign.redirection t)) := by
  induction words with
  | nil => cases sign <;> rfl
  | cons word rest ih =>
    obtain ⟨hword, hrest⟩ := List.forall_mem_cons.mp h
    rw [List.cons_append, splitRedirection, startsWith_angle_of_not_mem hword,
      if_neg Bool.false_ne_true, ih hrest]
    rfl

theorem AreSent.head?_append (h : AreSent words) (sign : Sign) (t : String) :
    ∀ word ∈ (words ++ [sign.word, t]).head?, word ∉ echoFlags := by
  cases words with
  | nil =>
    intro word hword
    cases hword
    cases sign <;> decide
  | cons first rest => exact h.2

end Words

/-! ## Lines that send words to a file -/

/-- The line that sends words to a file. -/
def sending (sign : Sign) (words : List String) (t : String) : String :=
  Text.join " " ("echo" :: (words ++ [sign.word, t]))

/-- The line that shows a file. -/
def showing (t : String) : String := Text.join " " ["cat", t]

variable {c : Context} {s : State} {t : String} {words : List String} {room : Nat}

/-- A line of plain words whose first one names a command that runs no others does what that
command does. -/
theorem runLine_of_alone {name : String} {command : Command}
    (hplain : ∀ word ∈ name :: words, IsPlain word) (hslash : Text.hasChar name '/' = false)
    (hcommand : Command.ofName? (Text.lower name) = some command)
    (halone : command ≠ .exit ∧ command ≠ .sudo ∧ command ≠ .shell) (hroom : c.room = room + 3) :
    runLine c (Text.join " " (name :: words)) =
      runAlone { c with room } (.ofWords name words) command >>= fun output =>
        pure (.text output) := by
  have hinv := parse?_join fun word hword => (hplain word hword).1
  have hname : Text.hasChar (Invocation.ofWords name words).name '/' = false := hslash
  rw [runLine_single hroom (split_join hplain) hinv, dispatch_of_alone hname hcommand halone rfl]

theorem isPlain_of_mem_sending (hsent : AreSent words) (ht : IsLiteral t) (sign : Sign) :
    ∀ word ∈ "echo" :: (words ++ [sign.word, t]), IsPlain word := by
  refine List.forall_mem_cons.mpr ⟨by decide, List.forall_mem_append.mpr ⟨?_, ?_⟩⟩
  · exact fun word hword => (hsent.1 word hword).1
  · exact List.forall_mem_cons.mpr ⟨sign.isPlain_word, List.forall_mem_singleton.mpr ht.1⟩

/-- What `echo` is given to write is all that it does. -/
theorem run_echo_redirected {inv : Invocation} {r : Redirection} {s' : State}
    (hread : readEchoOptions ⟨true, false⟩ inv.tokens = (⟨true, false⟩, inv.tokens))
    (hsplit : splitRedirection inv.tokens = some (words, some r))
    (hwrite : (writeRedirected c r (echoText ⟨true, false⟩ s.env words)).run s = (.ok none, s')) :
    (echo c inv).run s = (.ok "", s') := by
  unfold echo
  rw [hread]
  dsimp only
  rw [hsplit]
  dsimp only
  rw [run_bind_of_ok (show (get : Action State).run s = (.ok s, s) from rfl),
    run_bind_of_ok hwrite]
  rfl

/-- Words that are sent to a file are written to it as one line. -/
theorem run_sending (hsent : AreSent words) (ht : IsLiteral t) (hroom : 3 ≤ c.room) (sign : Sign)
    {s' : State} (hwrite : ∀ room, (writeRedirected { c with room } (sign.redirection t)
      (Text.join " " words ++ "\n")).run s = (.ok none, s')) :
    (runLine c (sending sign words t)).run s = (.ok (.text ""), s') := by
  obtain ⟨room, hroom⟩ : ∃ room, c.room = room + 3 := ⟨c.room - 3, by omega⟩
  let inv := Invocation.ofWords "echo" (words ++ [sign.word, t])
  have hread : readEchoOptions ⟨true, false⟩ inv.tokens = (⟨true, false⟩, inv.tokens) :=
    readEchoOptions_of_not_option (hsent.head?_append sign t) _
  have hsplit : splitRedirection inv.tokens = some (words, some (sign.redirection t)) :=
    splitRedirection_append (fun word hword => (hsent.1 word hword).2.2) sign t
  have hecho : (runAlone { c with room } inv .echo).run s = (.ok "", s') := by
    refine run_echo_redirected hread hsplit ?_
    rw [echoText_of_literal hsent.1]
    exact hwrite room
  have hcommand : Command.ofName? (Text.lower "echo") = some .echo := by decide
  have hline := runLine_of_alone (isPlain_of_mem_sending hsent ht sign) (by decide) hcommand
    (by decide) hroom
  unfold sending
  rw [hline]
  exact run_bind_of_ok hecho _

/-! ## What a file holds -/

/-- Whether a user's own file with a text is at the place that a text names. -/
def Holds (fs : FileSystem) (t user text : String) : Prop :=
  fs.HasRoom (fs.resolve t) ∧
    ∃ now, fs.lookup (fs.resolve t) =
      some (FileSystem.fileNode (fs.resolve t) text newFileMode user now)

/-- The files after a text was written to one of them. -/
def State.writing (s : State) (t user text : String) (now : Float) : State :=
  let p := s.files.resolve t
  { s with files := s.files.store p (FileSystem.fileNode p text newFileMode user now) }

/-- A file that was written where there is room is held there. -/
theorem holds_writing (hroom : s.files.HasRoom (s.files.resolve t))
    (hfile : ∀ node ∈ s.files.lookup (s.files.resolve t), node.isDirectory = false)
    (user text : String) (now : Float) :
    Holds (s.writing t user text now).files t user text :=
  ⟨hroom.store (hroom.ne_root hfile) _, now, FileSystem.lookup_store_self s.files _ _⟩

theorem Holds.isFile {fs : FileSystem} {user text : String} (h : Holds fs t user text) :
    ∀ node ∈ fs.lookup (fs.resolve t), node.isDirectory = false := by
  obtain ⟨_, now, hfound⟩ := h
  intro node hnode
  cases hfound.symm.trans hnode
  rfl

/-! ## Writing -/

theorem run_writeRedirected_instead (hroom : s.files.HasRoom (s.files.resolve t))
    (hfile : ∀ node ∈ s.files.lookup (s.files.resolve t), node.isDirectory = false)
    (c : Context) (text : String) :
    (writeRedirected c ⟨t, false⟩ text).run s = (.ok none, s.writing t c.user text c.now) := by
  have hwrite := FileSystem.write_of_hasRoom hroom hfile text newFileMode c.user c.now
  show (Action.attempt fun fs => fs.write t text newFileMode c.user c.now).run s = _
  rw [Action.run_attempt, hwrite]
  rfl

theorem run_writeRedirected_behind {before : String} (h : Holds s.files t c.user before)
    (text : String) :
    (writeRedirected c ⟨t, true⟩ text).run s =
      (.ok none, s.writing t c.user (before ++ text) c.now) := by
  obtain ⟨hroom, earlier, hfound⟩ := h
  have happend := FileSystem.run_append_of_fixed hroom hfound rfl c.device text newFileMode c.user
    c.now s.chances.noise
  have hlook : (Action.look fun s => Look.noise
      (s.files.append c.device t text newFileMode c.user c.now)).run s =
        (.ok (.ok (s.writing t c.user (before ++ text) c.now).files), s) := by
    rw [Action.run_look]
    show (((s.files.append c.device t text newFileMode c.user c.now).run s.chances.noise).1,
      { s with chances := { s.chances with noise :=
        ((s.files.append c.device t text newFileMode c.user c.now).run s.chances.noise).2 } }) = _
    rw [happend]
    rfl
  unfold writeRedirected
  rw [if_pos rfl, run_bind_of_ok hlook]
  rfl

/-- **The first line** takes the place of whatever was there. -/
theorem run_sending_instead (hsent : AreSent words) (ht : IsLiteral t) (hroom : 3 ≤ c.room)
    (hparent : s.files.HasRoom (s.files.resolve t))
    (hfile : ∀ node ∈ s.files.lookup (s.files.resolve t), node.isDirectory = false) :
    (runLine c (sending .instead words t)).run s =
      (.ok (.text ""), s.writing t c.user (Text.join " " words ++ "\n") c.now) :=
  run_sending hsent ht hroom .instead fun room =>
    run_writeRedirected_instead hparent hfile { c with room } _

/-- **Every other line** is put behind those before it. -/
theorem run_sending_behind {before : String} (hsent : AreSent words) (ht : IsLiteral t)
    (hroom : 3 ≤ c.room) (h : Holds s.files t c.user before) :
    (runLine c (sending .behind words t)).run s =
      (.ok (.text ""), s.writing t c.user (before ++ (Text.join " " words ++ "\n")) c.now) :=
  run_sending hsent ht hroom .behind fun room =>
    run_writeRedirected_behind (c := { c with room }) h _

/-! ## Reading -/

theorem mayRead_fileNode (c : Context) (p : Path) (text : String) (now : Float) :
    c.mayRead (FileSystem.fileNode p text newFileMode c.user now) = true := by
  have hbits : (FileSystem.fileNode p text newFileMode c.user now).bits.testBit 8 = true := by
    show (modeBits newFileMode).testBit 8 = true
    decide
  unfold Context.mayRead Context.may
  rw [show (FileSystem.fileNode p text newFileMode c.user now).owner = c.user from rfl,
    if_pos rfl, hbits, Bool.or_true]

theorem run_showing {text : String} (ht : IsLiteral t) (hflag : isFlag t = false)
    (hroom : 3 ≤ c.room) (h : Holds s.files t c.user text) :
    (runLine c (showing t)).run s = (.ok (.text text), s) := by
  obtain ⟨room, hroom⟩ : ∃ room, c.room = room + 3 := ⟨c.room - 3, by omega⟩
  obtain ⟨-, earlier, hfound⟩ := h
  have hplain : ∀ word ∈ ["cat", t], IsPlain word :=
    List.forall_mem_cons.mpr ⟨by decide, List.forall_mem_singleton.mpr ht.1⟩
  have hargs : (Invocation.ofWords "cat" [t]).args = [t] :=
    List.filter_cons_of_pos (by rw [hflag]; rfl)
  have htarget : catTarget { c with room } s.files t = pure text := by
    have hread := mayRead_fileNode { c with room } (s.files.resolve t) text earlier
    unfold catTarget
    rw [FileSystem.get_eq_ok_iff.mpr hfound]
    exact (if_neg Bool.false_ne_true).trans (if_pos hread)
  have hcat : cat { c with room } s (.ofWords "cat" [t]) = pure text := by
    unfold cat
    rw [hargs, List.mapM_cons, htarget]
    rfl
  have hshown : (runAlone { c with room } (.ofWords "cat" [t]) .cat).run s = (.ok text, s) := by
    show (Action.look fun _ => cat { c with room } s (.ofWords "cat" [t])).run s = _
    rw [hcat]
    rfl
  have hcommand : Command.ofName? (Text.lower "cat") = some .cat := by decide
  have hline := runLine_of_alone hplain (by decide) hcommand (by decide) hroom
  unfold showing
  rw [hline]
  exact run_bind_of_ok hshown _

/-! ## Lines after one another -/

/-- Words with the moment at which they are sent. -/
structure Timed where
  now : Float
  words : List String

/-- The line that words make in a file. -/
def Timed.line (timed : Timed) : String := Text.join " " timed.words

/-- Runs the lines that send words to a file, each at its own moment. -/
def send (c : Context) (sign : Sign) (t : String) (lines : List Timed) : Action (List Response) :=
  lines.mapM fun timed => runLine { c with now := timed.now } (sending sign timed.words t)

/-- **All other lines** are put behind those before them in order. -/
theorem run_send_behind {before : String} {later : List Timed}
    (hsent : ∀ timed ∈ later, AreSent timed.words) (ht : IsLiteral t) (hroom : 3 ≤ c.room)
    (h : Holds s.files t c.user before) :
    ∃ s', (send c .behind t later).run s =
        (.ok (List.replicate later.length (.text "")), s') ∧
      Holds s'.files t c.user (before ++ Text.block (later.map Timed.line)) := by
  induction later generalizing s before with
  | nil =>
    refine ⟨s, rfl, ?_⟩
    have hnone : before ++ Text.block ([].map Timed.line) = before := String.append_empty
    rw [hnone]
    exact h
  | cons timed later ih =>
    obtain ⟨hfirst, hrest⟩ := List.forall_mem_cons.mp hsent
    have hrun := run_sending_behind (c := { c with now := timed.now }) hfirst ht hroom h
    have hnext := holds_writing h.1 h.isFile c.user (before ++ (timed.line ++ "\n")) timed.now
    obtain ⟨s', hmore, hholds⟩ := ih hrest hnext
    refine ⟨s', ?_, ?_⟩
    · unfold send at hmore ⊢
      rw [List.mapM_cons, run_bind_of_ok hrun]
      exact run_bind_of_ok hmore _
    · rw [List.map_cons, Text.block_cons, ← String.append_assoc]
      exact hholds

/-- **Words that are sent to a file** print nothing, and in the end the file shows each of their
lines, in the order in which they were sent and nothing else: the first line takes the place of
whatever was there, be it a file of somebody else, one that is made up, or nothing. -/
theorem cat_shows_sent {c : Context} {s : State} {t : String} (hroom : 3 ≤ c.room)
    (ht : IsLiteral t) (hflag : isFlag t = false)
    (hparent : s.files.HasRoom (s.files.resolve t))
    (hfile : ∀ node ∈ s.files.lookup (s.files.resolve t), node.isDirectory = false)
    (first : Timed) (later : List Timed) (hsent : ∀ timed ∈ first :: later, AreSent timed.words)
    (now : Float) :
    ∃ s₁ s₂, (send c .instead t [first]).run s = (.ok [.text ""], s₁) ∧
      (send c .behind t later).run s₁ = (.ok (List.replicate later.length (.text "")), s₂) ∧
      (runLine { c with now } (showing t)).run s₂ =
        (.ok (.text (Text.block ((first :: later).map Timed.line))), s₂) := by
  obtain ⟨hfirst, hrest⟩ := List.forall_mem_cons.mp hsent
  have hover := run_sending_instead (c := { c with now := first.now }) hfirst ht hroom hparent hfile
  have hheld := holds_writing hparent hfile c.user (first.line ++ "\n") first.now
  obtain ⟨s₂, hbehind, hholds⟩ := run_send_behind hrest ht hroom hheld
  refine ⟨_, s₂, ?_, hbehind, ?_⟩
  · unfold send
    rw [List.mapM_cons, run_bind_of_ok hover]
    rfl
  · rw [List.map_cons, Text.block_cons]
    exact run_showing (c := { c with now }) ht hflag hroom hholds

theorem exists_users_file :
    ∃ node, desk.files.lookup ["etc", "passwd"] = some node ∧ node.isDirectory = false := by
  have hentry : Layout.file ["etc", "passwd"] (.madeUp .passwd) 0o644 ∈
      Layout.entries Persona.standard := by
    simp [Layout.entries, Layout.settings]
  obtain ⟨node, hnode⟩ := Option.isSome_iff_exists.mp (Layout.isSome_lookup_tree hentry)
  refine ⟨node, (lookup_fresh _ "/home/pi" "" _).trans hnode, ?_⟩
  have honly : ∀ e ∈ Layout.entries Persona.standard,
      e.path = ["etc", "passwd"] → e.content?.isSome = true := by
    simp only [Layout.entries, Layout.userBinNames, Layout.userSbinNames, List.mem_append,
      Layout.mem_programs_sort]
    simp only [← List.mem_append]
    decide +kernel
  exact Tree.isFile_of_lookup (Layout.plantable_entries _ List.mem_cons_self) (by decide) honly
    hnode

/-- Some words, none at all, and some that look like options and settings. -/
def threeLines : List Timed := [⟨0, ["hello", "world"]⟩, ⟨1, []⟩, ⟨2, ["a=b", "-n"]⟩]

/-- A user who is not the superuser replaces a file of the superuser. -/
theorem cat_shows_sent_example :
    (3 ≤ guest.room ∧ IsLiteral "/etc/passwd" ∧ isFlag "/etc/passwd" = false ∧
      desk.files.HasRoom (desk.files.resolve "/etc/passwd") ∧
      (∀ node ∈ desk.files.lookup (desk.files.resolve "/etc/passwd"), node.isDirectory = false) ∧
      ∀ timed ∈ threeLines, AreSent timed.words) ∧
    ∃ s₁ s₂,
      (send guest .instead "/etc/passwd" (threeLines.take 1)).run desk = (.ok [.text ""], s₁) ∧
      (send guest .behind "/etc/passwd" (threeLines.drop 1)).run s₁ =
        (.ok [.text "", .text ""], s₂) ∧
      (runLine { guest with now := 3 } (showing "/etc/passwd")).run s₂ =
        (.ok (.text "hello world\n\na=b -n\n"), s₂) := by
  have hplace : desk.files.resolve "/etc/passwd" = ["etc", "passwd"] :=
    FileSystem.resolve_text (show Path.IsCanonical ["etc", "passwd"] by decide)
  obtain ⟨node, hnode, hfile⟩ := exists_users_file
  have hroom : desk.files.HasRoom (desk.files.resolve "/etc/passwd") := by
    have hshaped : (Layout.tree Persona.standard).Shaped := Layout.shaped_tree List.mem_cons_self
    obtain ⟨dir, hdir, hdirectory, -⟩ :=
      hshaped.hangs ["etc"] "passwd" (Option.isSome_of_eq_some hnode)
    rw [hplace]
    exact ⟨dir, hdir, hdirectory⟩
  have hfiles : ∀ node ∈ desk.files.lookup (desk.files.resolve "/etc/passwd"),
      node.isDirectory = false := by
    rw [hplace, hnode]
    exact fun _ hsame => Option.some.inj hsame ▸ hfile
  have hsent : ∀ timed ∈ threeLines, AreSent timed.words := by decide
  have hcalls : 3 ≤ guest.room := by decide
  refine ⟨⟨hcalls, by decide, by decide, hroom, hfiles, hsent⟩, ?_⟩
  obtain ⟨s₁, s₂, hover, hbehind, hshown⟩ := cat_shows_sent hcalls (by decide) (by decide) hroom
    hfiles ⟨0, ["hello", "world"]⟩ (threeLines.drop 1) hsent 3
  have hlines : Text.block (threeLines.map Timed.line) = "hello world\n\na=b -n\n" := by decide
  exact ⟨s₁, s₂, hover, hbehind, hshown.trans (by rw [← hlines]; rfl)⟩

end Honeypot.Shell
