import Honeypot.Proofs.FileSystem.Absence
import Honeypot.Proofs.Shell.Errands

/-!
# The working directory and its variable

The working directory is kept twice: by the files of a session and by the variable `PWD`. Two
commands change one of them: `cd` sets both to the directory that it enters, and `export` gives the
variable any value. So they agree after some errands exactly if each `export` that misleads is
followed by an errand that settles where the session is (`Follows.agrees_iff`).
-/

namespace Honeypot

namespace FileSystem

variable {fs fs' : FileSystem}

/-! ## Changes that stay where they are -/

/-- Where a view stands: its working directory, and its home directory. -/
def standpoint (fs : FileSystem) : Path × String := (fs.cwd, fs.home)

theorem Effect.standpoint_eq {p : Path} (h : Effect fs (some p) fs') :
    fs'.standpoint = fs.standpoint := by
  cases h <;> rfl

theorem standpoint_write {path text : String} {mode : Int} {owner : String} {now : Float}
    (h : fs.write path text mode owner now = .ok fs') : fs'.standpoint = fs.standpoint := by
  have heffect : Effect fs _ (fs.settled (fs.write path text mode owner now)) :=
    effect_write path text mode owner now
  rw [h] at heffect
  exact heffect.standpoint_eq

theorem standpoint_append {device : Persona} {path text : String} {mode : Int} {owner : String}
    {now : Float} {chances : Random}
    (h : ((fs.append device path text mode owner now).run chances).1 = .ok (.ok fs')) :
    fs'.standpoint = fs.standpoint := by
  have heffect : Effect fs _ (fs.drawn ((fs.append device path text mode owner now).run chances)) :=
    effect_append device path text mode owner now chances
  revert h heffect
  rcases (fs.append device path text mode owner now).run chances with ⟨result, after⟩
  rintro rfl heffect
  exact heffect.standpoint_eq

theorem standpoint_makeDirectory {path owner : String} {now : Float}
    (h : fs.makeDirectory path owner now = .ok fs') : fs'.standpoint = fs.standpoint := by
  have heffect : Effect fs _ (fs.settled (fs.makeDirectory path owner now)) :=
    effect_makeDirectory path owner now
  rw [h] at heffect
  exact heffect.standpoint_eq

theorem standpoint_remove {path : String} {recursive : Bool}
    (h : fs.remove path recursive = .ok fs') : fs'.standpoint = fs.standpoint := by
  rw [eq_clear_of_remove h]
  rfl

theorem standpoint_changeMode {path : String} {mode : Int} {now : Float}
    (h : fs.changeMode path mode now = .ok fs') : fs'.standpoint = fs.standpoint := by
  obtain ⟨_, _, rfl⟩ := exists_cover_of_changeMode h
  rfl

end FileSystem

/-! ## Commands that stay where they are -/

theorem Keeps.mapM {ε σ α β γ : Type} {view : σ → γ} {f : α → ExceptT ε (StateM σ) β}
    (hf : ∀ a, Keeps view (f a)) (as : List α) : Keeps view (as.mapM f) := by
  induction as with
  | nil => exact .pure _
  | cons a as ih =>
    rw [List.mapM_cons]
    exact .bind (hf a) fun b => .bind ih fun bs => .pure _

namespace Shell

variable {c : Context} {inv : Invocation}

/-- The working directory and the variables. -/
def State.whereabouts (s : State) : Path × Env := (s.files.cwd, s.env)

/-- Where the files stand, and the variables. -/
def State.bearings (s : State) : (Path × String) × Env := (s.files.standpoint, s.env)

theorem bearings_of_lasting {s t : State} (h : t.lasting = s.lasting) :
    t.bearings = s.bearings := by
  rw [State.eq_of_lasting h]
  rfl

theorem keeps_bearings_of_lasting {α : Type} {m : Action α} (h : Keeps State.lasting m) :
    Keeps State.bearings m := fun s => bearings_of_lasting (h s)

theorem keeps_bearings_chance {α : Type} (m : Draws α) :
    Keeps State.bearings (Action.chance m) := Action.keeps_look (fun _ _ => rfl) _

theorem keeps_bearings_files : Keeps State.bearings Action.files := fun _ => rfl

theorem keeps_bearings_attempt {change : FileSystem → Except PathError FileSystem}
    (h : ∀ fs fs', change fs = .ok fs' → fs'.standpoint = fs.standpoint) :
    Keeps State.bearings (Action.attempt change) := by
  intro s
  rw [Action.run_attempt]
  cases hchange : change s.files with
  | error e => rfl
  | ok files =>
    show (files.standpoint, s.env) = (s.files.standpoint, s.env)
    rw [h _ _ hchange]

theorem keeps_bearings_complaints (targets : List String) {act : String → Action (List String)}
    (h : ∀ target, Keeps State.bearings (act target)) :
    Keeps State.bearings (complaints targets act) :=
  .bind (.mapM h targets) fun _ => .pure _

theorem keeps_bearings_touch : Keeps State.bearings (touch c inv) := by
  refine .ite (.pure _) (keeps_bearings_complaints _ fun target => ?_)
  refine .bind keeps_bearings_files fun files => .ite (.pure _) ?_
  refine .bind (keeps_bearings_attempt fun _ _ => FileSystem.standpoint_write) fun failure => ?_
  cases failure <;> exact .pure _

theorem keeps_bearings_makeMissing (paths : List String) :
    Keeps State.bearings (makeMissing c paths) := by
  induction paths with
  | nil => exact .pure _
  | cons path rest ih =>
    unfold makeMissing
    refine .bind keeps_bearings_files fun files => .ite ih ?_
    refine .bind (keeps_bearings_attempt fun _ _ => FileSystem.standpoint_makeDirectory)
      fun failure => ?_
    cases failure with
    | none => exact ih
    | some cause => exact .pure _

theorem keeps_bearings_mkdir : Keeps State.bearings (mkdir c inv) := by
  refine .ite (.pure _) (keeps_bearings_complaints _ fun target => ?_)
  unfold mkdirTarget
  split
  · refine .bind keeps_bearings_files fun files => ?_
    exact .bind (keeps_bearings_makeMissing _) fun _ => .pure _
  · exact .bind (keeps_bearings_attempt fun _ _ => FileSystem.standpoint_makeDirectory)
      fun _ => .pure _

theorem keeps_bearings_rm : Keeps State.bearings (rm inv) := by
  refine .ite (.pure _) (keeps_bearings_complaints _ fun target => ?_)
  refine .bind (keeps_bearings_attempt fun _ _ => FileSystem.standpoint_remove) fun failure => ?_
  split
  · exact .pure _
  · exact .ite (.pure _) (.ite (.pure _) (.pure _))
  · exact .pure _
  · exact .pure _

theorem keeps_bearings_chmodTargets (change : String) (done targets : List String) :
    Keeps State.bearings (chmodTargets c change done targets) := by
  induction targets generalizing done with
  | nil => exact .pure _
  | cons target rest ih =>
    unfold chmodTargets
    refine .bind keeps_bearings_files fun files => ?_
    split
    · exact ih _
    · split
      · exact .pure _
      · refine .ite (.bind (keeps_bearings_attempt fun _ _ => FileSystem.standpoint_changeMode)
          fun _ => ih _) (ih _)

theorem keeps_bearings_chmod : Keeps State.bearings (chmod c inv) := by
  unfold chmod
  split
  · exact .pure _
  · exact .pure _
  · exact keeps_bearings_chmodTargets _ _ _

theorem keeps_bearings_savePayload (name : String) (size : Int) :
    Keeps State.bearings (savePayload c name size) :=
  .bind (keeps_bearings_attempt fun _ _ => FileSystem.standpoint_write) fun _ => .pure _

theorem keeps_bearings_wgetOne (style : WgetStyle) (url : String) :
    Keeps State.bearings (wgetOne c style url) := by
  refine .bind (fun _ => rfl) fun _ => .bind (.lift _) fun u => .bind (.lift _) fun place => ?_
  refine .bind (keeps_bearings_chance _) fun address => ?_
  refine .bind (keeps_bearings_chance _) fun size => ?_
  refine .bind keeps_bearings_files fun files => .bind (.lift _) fun started => ?_
  refine .ite (.bind (.pure _) fun saved => ?_)
    (.bind (keeps_bearings_savePayload _ _) fun saved => ?_)
  all_goals exact .ite (.pure _) (.ite (.pure _) (keeps_bearings_chance _))

theorem keeps_bearings_wget : Keeps State.bearings (wget c inv) :=
  .ite (.pure _) (.bind (.mapM (keeps_bearings_wgetOne _) _) fun _ => .pure _)

theorem keeps_bearings_curlOne (style : CurlStyle) (url : String) :
    Keeps State.bearings (curlOne c style url) := by
  refine .bind (fun _ => rfl) fun _ => ?_
  refine .bind (keeps_bearings_chance _) fun size => .ite (.pure _) ?_
  have written (name : String) : Keeps State.bearings (do
      if name.isEmpty then pure ["curl: Remote file name has no length!"]
      else if ← savePayload c name size then
        if style.silent then pure [] else Action.chance (progressLines size)
      else
        pure ["curl: (23) Failed writing body (0 != " ++ Text.ofInt (min size 16384) ++ ")"]) := by
    refine .ite (.pure _) (.bind (keeps_bearings_savePayload _ _) fun saved => ?_)
    exact .ite (.ite (.pure _) (keeps_bearings_chance _)) (.pure _)
  cases style.output? with
  | some name => exact .bind (.pure name) written
  | none => exact .bind (.lift _) fun u => .bind (.pure _) written

theorem keeps_bearings_curl : Keeps State.bearings (curl c inv) := by
  unfold curl
  refine .ite ?_ (.bind (.mapM (keeps_bearings_curlOne _) _) fun _ => .pure _)
  split <;> exact .pure _

theorem keeps_bearings_writeRedirected (r : Redirection) (text : String) :
    Keeps State.bearings (writeRedirected c r text) := by
  unfold writeRedirected
  split
  · intro s
    rw [run_bind, Action.run_look]
    cases hresult : ((Look.noise (s.files.append c.device r.target text newFileMode c.user
        c.now)).run s.chances).1 with
    | error e => rfl
    | ok result =>
      cases result with
      | error e => rfl
      | ok files =>
        show (files.standpoint, s.env) = (s.files.standpoint, s.env)
        rw [FileSystem.standpoint_append hresult]
  · exact keeps_bearings_attempt fun _ _ => FileSystem.standpoint_write

theorem keeps_bearings_echo : Keeps State.bearings (echo c inv) := by
  unfold echo
  dsimp only
  split
  · exact .pure _
  · refine .bind (fun _ => rfl) fun s => ?_
    split
    · exact .pure _
    · refine .bind (keeps_bearings_writeRedirected _ _) fun failure => ?_
      split <;> exact .pure _

theorem keeps_bearings_history : Keeps State.bearings (history inv) :=
  .ite (.bind (fun _ => rfl) fun _ => .pure _) (.bind (fun _ => rfl) fun _ => .pure _)

/-- **Only two commands** change where the files stand or the variables. -/
theorem keeps_bearings_runAlone {command : Command} (hcd : command ≠ .cd)
    (hexport : command ≠ .export) : Keeps State.bearings (runAlone c inv command) := by
  unfold runAlone
  split
  · exact absurd rfl hcd
  · exact keeps_bearings_echo
  · exact keeps_bearings_touch
  · exact keeps_bearings_mkdir
  · exact keeps_bearings_rm
  · exact keeps_bearings_chmod
  · exact keeps_bearings_wget
  · exact keeps_bearings_curl
  · exact keeps_bearings_history
  · exact absurd rfl hexport
  · refine .bind (fun _ => rfl) fun s => ?_
    split
    · exact keeps_bearings_of_lasting (keeps_lasting_look _)
    · exact .pure _

/-! ## Entering a directory -/

/-- The text of the directory that `cd` is asked for. -/
def cdTarget? (s : State) (inv : Invocation) : Option String :=
  match inv.args with
  | _ :: _ :: _ => none
  | [target] => some target
  | [] =>
    if inv.hasFlag "-" then (s.env.lookup "OLDPWD").filter fun before => !before.isEmpty
    else some s.files.home

/-- The place that a text names, if it is a directory that the user may enter. -/
def enterable? (c : Context) (fs : FileSystem) (target : String) : Option Path :=
  match fs.get target with
  | .error _ => none
  | .ok node => if node.isDirectory && c.mayEnter node then some (fs.resolve target) else none

/-- The state in a directory that was entered. -/
def State.entering (s : State) (p : Path) : State :=
  { s with
    files := { s.files with cwd := p }
    env := Assoc.put "PWD" p.text (Assoc.put "OLDPWD" s.files.cwd.text s.env) }

def cdComplaint (target what : String) : String := "bash: cd: " ++ target ++ ": " ++ what ++ "\n"

/-- What going to a target comes to. -/
theorem run_enterDirectory_eq (c : Context) (target : String) (echo : Bool) (s : State) :
    (enterDirectory c target echo).run s =
      match s.files.get target with
      | .error _ => (.ok (cdComplaint target "No such file or directory"), s)
      | .ok node =>
        if node.isDirectory then
          if c.mayEnter node then
            (.ok (if echo then (s.files.resolve target).text ++ "\n" else ""),
              s.entering (s.files.resolve target))
          else (.ok (cdComplaint target "Permission denied"), s)
        else (.ok (cdComplaint target "Not a directory"), s) := by
  unfold enterDirectory
  rw [run_bind]
  show (match s.files.get target with | .error _ => _ | .ok _ => _ : Action String).run s = _
  cases hget : s.files.get target with
  | error e => rfl
  | ok node =>
    have hchange : s.files.changeDirectory target =
        if node.isDirectory then .ok { s.files with cwd := s.files.resolve target }
        else .error ⟨.notDirectory, target⟩ := by
      unfold FileSystem.changeDirectory
      dsimp only
      rw [FileSystem.get_eq_ok_iff.mp hget]
    dsimp only
    rw [hchange]
    cases node.isDirectory with
    | false => rfl
    | true =>
      cases c.mayEnter node with
      | false => rfl
      | true => cases echo <;> rfl

theorem run_enterDirectory (c : Context) (target : String) (echo : Bool) (s : State) :
    ((enterDirectory c target echo).run s).2 =
      ((enterable? c s.files target).map s.entering).getD s := by
  rw [run_enterDirectory_eq]
  unfold enterable?
  cases s.files.get target with
  | error e => rfl
  | ok node =>
    dsimp only
    cases node.isDirectory with
    | false => rfl
    | true =>
      cases c.mayEnter node with
      | false => rfl
      | true => rfl

/-- Whether an invocation asks for the directory before. -/
def Invocation.goesBack (inv : Invocation) : Bool := inv.args.isEmpty && inv.hasFlag "-"

/-- Without a target `cd` complains; otherwise it goes there. -/
theorem run_cd_eq (c : Context) (inv : Invocation) (s : State) :
    (cd c inv).run s =
      match cdTarget? s inv with
      | some target => (enterDirectory c target inv.goesBack).run s
      | none =>
        (.ok (if inv.goesBack then "bash: cd: OLDPWD not set\n"
          else "bash: cd: too many arguments\n"), s) := by
  unfold cd cdTarget? Invocation.goesBack
  rw [run_bind]
  show (match inv.args with | _ :: _ :: _ => _ | [_] => _ | [] => _ : Action String).run s = _
  split
  · next hargs =>
    rw [hargs]
    rfl
  · next hargs =>
    rw [hargs]
    rfl
  · next hargs =>
    rw [hargs, List.isEmpty_nil, Bool.true_and]
    cases inv.hasFlag "-" with
    | false => rfl
    | true =>
      cases hbefore : s.env.lookup "OLDPWD" with
      | none => rfl
      | some before =>
        dsimp only [Option.getD_some]
        cases hempty : before.isEmpty with
        | true =>
          rw [if_pos rfl, if_pos rfl, Option.filter_some, hempty]
          rfl
        | false =>
          rw [if_pos rfl, if_neg Bool.false_ne_true, if_pos rfl, Option.filter_some, hempty]
          rfl

theorem run_cd (c : Context) (inv : Invocation) (s : State) :
    ((cd c inv).run s).2 =
      (((cdTarget? s inv).bind (enterable? c s.files)).map s.entering).getD s := by
  rw [run_cd_eq]
  cases cdTarget? s inv with
  | none => rfl
  | some target => exact run_enterDirectory c target _ s

/-! ## Assigning values -/

/-- The last value that some assignments give a variable; each is expanded by those before it, and
the first name that is not valid ends them. -/
def lastAssigned? (name : String) (env : Env) : List String → Option String
  | [] => none
  | assignment :: rest =>
    match Text.cutFirst '=' assignment.toList with
    | none => lastAssigned? name env rest
    | some (left, right) =>
      if isVariableName (String.ofList left) then
        let value := expand env (unquote (String.ofList right))
        (lastAssigned? name (Assoc.put (String.ofList left) value env) rest).or
          (if String.ofList left = name then some value else none)
      else none

theorem run_assign (name : String) (assignments : List String) (s : State) :
    ((assign assignments).run s).2.files = s.files ∧
      ((assign assignments).run s).2.env.lookup name =
        (lastAssigned? name s.env assignments).or (s.env.lookup name) := by
  induction assignments generalizing s with
  | nil => exact ⟨rfl, rfl⟩
  | cons assignment rest ih =>
    unfold assign lastAssigned?
    cases Text.cutFirst '=' assignment.toList with
    | none => exact ih s
    | some parts =>
      obtain ⟨left, right⟩ := parts
      dsimp only
      by_cases hname : isVariableName (String.ofList left) = true
      · rw [if_pos hname, if_pos hname]
        obtain ⟨hfiles, hvalue⟩ := ih { s with
          env := Assoc.put (String.ofList left)
            (expand s.env (unquote (String.ofList right))) s.env }
        refine ⟨hfiles, hvalue.trans ?_⟩
        -- An assignment to another variable leaves the value as it was.
        rw [Assoc.lookup_put, Option.or_assoc]
        congr 1
        by_cases heq : String.ofList left = name
        · rw [if_pos heq.symm, if_pos heq]
          rfl
        · rw [if_neg (Ne.symm heq), if_neg heq]
          rfl
      · rw [if_neg hname, if_neg hname]
        exact ⟨rfl, rfl⟩

/-! ## What an errand does to them -/

/-- Whether the variable of the working directory is right. -/
def State.Agrees (s : State) : Prop := s.env.lookup "PWD" = some s.files.cwd.text

theorem State.agrees_congr {s t : State} (h : t.lasting = s.lasting) : t.Agrees ↔ s.Agrees := by
  rw [State.eq_of_lasting h]
  exact Iff.rfl

namespace Errand

/-- The directory that an errand enters, if it is a `cd` that does. -/
def entered? (e : Errand) : Option Path :=
  if e.command = .cd then
    (cdTarget? e.before e.invocation).bind (enterable? e.context e.before.files)
  else none

/-- The value that an errand gives the variable, if it is an `export` that does. -/
def assigned? (e : Errand) : Option String :=
  if e.command = .export then lastAssigned? "PWD" e.before.env e.invocation.args else none

/-- Where an errand leaves the session, and what the variable says of it then. -/
theorem after_eq (e : Errand) :
    e.after.files.cwd = e.entered?.getD e.before.files.cwd ∧
      e.after.env.lookup "PWD" =
        (e.entered?.map Path.text).or (e.assigned?.or (e.before.env.lookup "PWD")) := by
  obtain ⟨c, inv, command, s⟩ := e
  unfold after entered? assigned?
  dsimp only
  by_cases hcd : command = .cd
  · subst hcd
    rw [if_pos rfl, if_neg (by decide)]
    show ((cd c inv).run s).2.files.cwd = _ ∧ ((cd c inv).run s).2.env.lookup "PWD" = _
    rw [run_cd]
    cases (cdTarget? s inv).bind (enterable? c s.files) with
    | none => exact ⟨rfl, rfl⟩
    | some p => exact ⟨rfl, (Assoc.lookup_put _ _ _ _).trans (if_pos rfl)⟩
  · rw [if_neg hcd]
    by_cases hexport : command = .export
    · subst hexport
      rw [if_pos rfl]
      show ((exportVariables inv).run s).2.files.cwd = _ ∧
        ((exportVariables inv).run s).2.env.lookup "PWD" = _
      unfold exportVariables
      cases hargs : inv.args with
      | nil => exact ⟨rfl, rfl⟩
      | cons assignment rest =>
        obtain ⟨hfiles, hvalue⟩ := run_assign "PWD" (assignment :: rest) s
        exact ⟨congrArg FileSystem.cwd hfiles, hvalue⟩
    · rw [if_neg hexport]
      have hkeeps : Keeps State.bearings (runAlone c inv command) :=
        keeps_bearings_runAlone hcd hexport
      obtain ⟨hstands, henv⟩ := Prod.mk.inj (hkeeps s)
      exact ⟨congrArg Prod.fst hstands, congrArg (List.lookup "PWD") henv⟩

/-- An errand that makes the two agree, whatever was before. -/
def Settles (e : Errand) : Prop :=
  e.entered?.isSome = true ∨ e.assigned? = some e.before.files.cwd.text

/-- An errand that gives the variable another value than the working directory. -/
def Misleads (e : Errand) : Prop :=
  ∃ value, e.assigned? = some value ∧ value ≠ e.before.files.cwd.text

theorem assigned?_eq_none_of_entered? {e : Errand} {p : Path} (h : e.entered? = some p) :
    e.assigned? = none := by
  have hcd : e.command = .cd := Classical.byContradiction fun hcd => by
    unfold entered? at h
    rw [if_neg hcd] at h
    cases h
  unfold assigned?
  rw [hcd]
  rfl

/-- **One errand**: the two agree after it unless it misleads, if they agreed before or it
settles. -/
theorem agrees_after_iff (e : Errand) :
    e.after.Agrees ↔ ¬e.Misleads ∧ (e.before.Agrees ∨ e.Settles) := by
  obtain ⟨hcwd, hvariable⟩ := e.after_eq
  unfold State.Agrees Misleads Settles
  rw [hcwd, hvariable]
  cases hentered : e.entered? with
  | some p =>
    have hnone := assigned?_eq_none_of_entered? hentered
    refine iff_of_true rfl ⟨?_, .inr (.inl rfl)⟩
    rintro ⟨value, hvalue, _⟩
    cases hnone.symm.trans hvalue
  | none =>
    cases e.assigned? with
    | none => simp
    | some value =>
      have hsame : value = e.before.files.cwd.text →
          e.before.env.lookup "PWD" = some e.before.files.cwd.text ∨
            value = e.before.files.cwd.text := .inr
      simpa using hsame

end Errand

/-! ## What errands do one after the other -/

/-- Whether some errand settles where the session is. -/
def SomeSettles (es : List Errand) : Prop := ∃ e ∈ es, e.Settles

/-- Whether every errand that misleads is followed by one that settles. -/
def Straightens : List Errand → Prop
  | [] => True
  | e :: rest => (e.Misleads → SomeSettles rest) ∧ Straightens rest

theorem not_someSettles_nil : ¬SomeSettles [] := by
  rintro ⟨e, hmem, _⟩
  cases hmem

theorem straightens_nil : Straightens [] := trivial

theorem someSettles_append_iff {es fs : List Errand} :
    SomeSettles (es ++ fs) ↔ SomeSettles es ∨ SomeSettles fs := by
  unfold SomeSettles
  simp only [List.mem_append, or_and_right, exists_or]

theorem someSettles_single_iff {e : Errand} : SomeSettles [e] ↔ e.Settles := by
  unfold SomeSettles
  simp only [List.mem_singleton, exists_eq_left]

theorem straightens_single_iff {e : Errand} : Straightens [e] ↔ ¬e.Misleads := by
  unfold Straightens Straightens
  rw [and_true]
  exact ⟨fun h hmisleads => not_someSettles_nil (h hmisleads),
    fun h hmisleads => absurd hmisleads h⟩

theorem straightens_append_iff {es fs : List Errand} : Straightens (es ++ fs) ↔
    Straightens fs ∧ (Straightens es ∨ SomeSettles fs) := by
  induction es with
  | nil => exact ⟨fun h => ⟨h, .inl straightens_nil⟩, And.left⟩
  | cons e es ih =>
    show (e.Misleads → SomeSettles (es ++ fs)) ∧ Straightens (es ++ fs) ↔
      Straightens fs ∧ ((e.Misleads → SomeSettles es) ∧ Straightens es ∨ SomeSettles fs)
    rw [ih, someSettles_append_iff]
    by_cases hlater : SomeSettles fs
    · simp only [hlater, or_true, implies_true, true_and, and_true]
    · simp only [hlater, or_false]
      exact and_left_comm

/-- **Errands** leave the two agreeing exactly if every one that misleads is followed by one that
settles, and one of them settles unless they agreed before. -/
theorem Follows.agrees_iff {s t : State} {es : List Errand} (h : Follows s es t) :
    t.Agrees ↔ Straightens es ∧ (s.Agrees ∨ SomeSettles es) := by
  induction h with
  | still h =>
    rw [State.agrees_congr h]
    exact ⟨fun hs => ⟨straightens_nil, .inl hs⟩, fun h => h.2.resolve_right not_someSettles_nil⟩
  | @errand es t u e _ finds leaves ih =>
    rw [State.agrees_congr leaves, e.agrees_after_iff, State.agrees_congr finds, ih,
      straightens_append_iff, straightens_single_iff, someSettles_append_iff,
      someSettles_single_iff, and_or_right, or_assoc, and_assoc]

theorem Follows.isSome_variable {s t : State} {es : List Errand} (h : Follows s es t)
    (hs : (s.env.lookup "PWD").isSome = true) : (t.env.lookup "PWD").isSome = true := by
  have henv {s t : State} (h : t.lasting = s.lasting) : t.env = s.env := congrArg (·.2.1) h
  induction h with
  | still h => rwa [henv h]
  | @errand es t u e _ finds leaves ih =>
    rw [henv leaves, e.after_eq.2, henv finds, Option.isSome_or, Option.isSome_or, ih, Bool.or_true,
      Bool.or_true]

end Shell
end Honeypot
