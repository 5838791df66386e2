import Honeypot.Proofs.FileSystem.Removal
import Honeypot.Proofs.Resolution
import Honeypot.Proofs.Shell.Whereabouts

/-!
# Entering directories and coming back

An invocation of `cd` either stays where it is, for one of five reasons that it complains of, or
enters a directory (`stays_or_enters`). What it enters it can leave again: going back leads to the
directory before it as long as the user may enter that, and going back once more undoes the first
(`entering_entering`), since the text of a place is resolved to the place from anywhere.
-/

namespace Honeypot

/-! ## The working directory is a place -/

namespace FileSystem

variable {fs : FileSystem}

theorem cwd_after {change : Change} (h : ∀ path, change ≠ .changeDirectory path) :
    (fs.after change).cwd = fs.cwd := by
  refine congrArg Prod.fst (?_ : (fs.after change).standpoint = fs.standpoint)
  cases change with
  | write path text mode owner now => exact (effect_write path text mode owner now).standpoint_eq
  | append device path text mode owner now chances =>
    exact (effect_append device path text mode owner now chances).standpoint_eq
  | makeDirectory path owner now => exact (effect_makeDirectory path owner now).standpoint_eq
  | remove path recursive =>
    show (fs.settled (fs.remove path recursive)).standpoint = fs.standpoint
    cases hresult : fs.remove path recursive with
    | error e => rfl
    | ok fs' => exact standpoint_remove hresult
  | changeMode path mode now =>
    show (fs.settled (fs.changeMode path mode now)).standpoint = fs.standpoint
    cases hresult : fs.changeMode path mode now with
    | error e => rfl
    | ok fs' => exact standpoint_changeMode hresult
  | changeDirectory path => exact absurd rfl (h path)
  | discard => rfl

theorem isCanonical_cwd_after (h : fs.cwd.IsCanonical) (change : Change) :
    (fs.after change).cwd.IsCanonical := by
  by_cases hmoves : ∃ path, change = .changeDirectory path
  · obtain ⟨path, rfl⟩ := hmoves
    show (fs.settled (fs.changeDirectory path)).cwd.IsCanonical
    unfold changeDirectory
    dsimp only
    split
    · exact h
    · split
      · exact Path.isCanonical_resolve _ _ _
      · exact h
  · rw [cwd_after fun path hpath => hmoves ⟨path, hpath⟩]
    exact h

/-- The views that a session of any device can come to. -/
def Arises (fs : FileSystem) : Prop :=
  ∃ tree home cwd changes, fs = List.foldl after (fresh tree home cwd) changes

theorem Arises.isCanonical_cwd (h : fs.Arises) : fs.cwd.IsCanonical := by
  obtain ⟨tree, home, cwd, changes, rfl⟩ := h
  induction changes using List.reverseRecOn with
  | nil => exact Path.isCanonical_resolve _ _ _
  | append_singleton changes change ih =>
    rw [List.foldl_append]
    exact isCanonical_cwd_after ih change

end FileSystem

namespace Shell

variable {c : Context} {inv : Invocation} {s t : State} {p : Path}

/-! ## What an invocation comes to -/

/-- Whether a place is a directory that the user may enter. -/
def CanEnter (c : Context) (fs : FileSystem) (p : Path) : Prop :=
  ∃ node, fs.lookup p = some node ∧ node.isDirectory = true ∧ c.mayEnter node = true

/-- Why an invocation stays where it is, with the complaint that it prints. -/
inductive Stays (c : Context) (inv : Invocation) (s : State) : String → Prop where
  | crowded (h : 1 < inv.args.length) : Stays c inv s "bash: cd: too many arguments\n"
  | nowhere (hback : inv.goesBack = true) (h : (s.env.lookup "OLDPWD").getD "" = "") :
      Stays c inv s "bash: cd: OLDPWD not set\n"
  | missing {target : String} (htarget : cdTarget? s inv = some target)
      (h : s.files.has target = false) :
      Stays c inv s (cdComplaint target "No such file or directory")
  | notDirectory {target : String} {node : Node} (htarget : cdTarget? s inv = some target)
      (hnode : s.files.get target = .ok node) (h : node.isDirectory = false) :
      Stays c inv s (cdComplaint target "Not a directory")
  | barred {target : String} {node : Node} (htarget : cdTarget? s inv = some target)
      (hnode : s.files.get target = .ok node) (hdirectory : node.isDirectory = true)
      (h : c.mayEnter node = false) :
      Stays c inv s (cdComplaint target "Permission denied")

/-- Whether an invocation enters a place: what its target is resolved to, which the user may
enter. -/
def Enters (c : Context) (inv : Invocation) (s : State) (p : Path) : Prop :=
  ∃ target, cdTarget? s inv = some target ∧ s.files.resolve target = p ∧ CanEnter c s.files p

/-- What is different in a place that was entered, and what is not. -/
structure Moved (s : State) (p : Path) (t : State) : Prop where
  files : t.files = { s.files with cwd := p }
  here : t.env.lookup "PWD" = some p.text
  before : t.env.lookup "OLDPWD" = some s.files.cwd.text
  others : ∀ name, name ≠ "PWD" → name ≠ "OLDPWD" → t.env.lookup name = s.env.lookup name
  rest : t = { s with files := t.files, env := t.env }

theorem moved_entering (s : State) (p : Path) : Moved s p (s.entering p) where
  files := rfl
  here := (Assoc.lookup_put _ _ _ _).trans (if_pos rfl)
  before := by
    show (Assoc.put "PWD" p.text (Assoc.put "OLDPWD" _ s.env)).lookup "OLDPWD" = _
    rw [Assoc.lookup_put, if_neg (by decide), Assoc.lookup_put, if_pos rfl]
  others name hhere hbefore := by
    show (Assoc.put "PWD" p.text (Assoc.put "OLDPWD" _ s.env)).lookup name = _
    rw [Assoc.lookup_put, if_neg hhere, Assoc.lookup_put, if_neg hbefore]
  rest := rfl

theorem enters_iff {target : String} (htarget : cdTarget? s inv = some target) :
    Enters c inv s p ↔ s.files.resolve target = p ∧ CanEnter c s.files p := by
  unfold Enters
  rw [htarget]
  simp only [Option.some.injEq, exists_eq_left']

theorem cdTarget?_of_crowded (h : 1 < inv.args.length) : cdTarget? s inv = none := by
  unfold cdTarget?
  split
  · rfl
  · next hargs =>
    rw [hargs] at h
    exact absurd h (lt_irrefl 1)
  · next hargs =>
    rw [hargs] at h
    exact absurd h (Nat.not_lt_zero 1)

theorem cdTarget?_of_goesBack (h : inv.goesBack = true) :
    cdTarget? s inv = (s.env.lookup "OLDPWD").filter fun before => !before.isEmpty := by
  obtain ⟨hargs, hdash⟩ := Bool.and_eq_true_iff.mp h
  unfold cdTarget?
  rw [List.isEmpty_iff.mp hargs]
  exact if_pos hdash

theorem filter_isEmpty_eq_none_iff {value? : Option String} :
    (value?.filter fun value => !value.isEmpty) = none ↔ value?.getD "" = "" := by
  cases value? with
  | none => simp
  | some value => simp [Option.filter_some]

/-- An invocation has no target for two reasons. -/
theorem stays_of_no_target (h : cdTarget? s inv = none) :
    Stays c inv s (if inv.goesBack then "bash: cd: OLDPWD not set\n"
      else "bash: cd: too many arguments\n") := by
  cases hback : inv.goesBack with
  | true =>
    rw [cdTarget?_of_goesBack hback] at h
    exact .nowhere hback (filter_isEmpty_eq_none_iff.mp h)
  | false =>
    refine .crowded ?_
    unfold cdTarget? at h
    unfold Invocation.goesBack at hback
    split at h
    · next hargs =>
      rw [hargs, List.length_cons, List.length_cons]
      omega
    · cases h
    · next hargs =>
      rw [hargs, List.isEmpty_nil, Bool.true_and] at hback
      rw [hback] at h
      cases h

theorem Stays.not_enters {message : String} (h : Stays c inv s message) : ¬Enters c inv s p := by
  rintro ⟨target, htarget, rfl, node, hnode, hdirectory, henter⟩
  have hget : s.files.get target = .ok node := FileSystem.get_eq_ok_iff.mpr hnode
  cases h with
  | crowded h => cases htarget.symm.trans (cdTarget?_of_crowded h)
  | nowhere hback h =>
    rw [cdTarget?_of_goesBack hback, filter_isEmpty_eq_none_iff.mpr h] at htarget
    cases htarget
  | missing htarget' h =>
    cases htarget.symm.trans htarget'
    unfold FileSystem.has at h
    rw [hnode] at h
    cases h
  | notDirectory htarget' hnode' h =>
    cases htarget.symm.trans htarget'
    cases hget.symm.trans hnode'
    cases hdirectory.symm.trans h
  | barred htarget' hnode' _ h =>
    cases htarget.symm.trans htarget'
    cases hget.symm.trans hnode'
    cases henter.symm.trans h

/-- **An invocation stays or enters.** -/
theorem stays_or_enters (c : Context) (inv : Invocation) (s : State) :
    (∃ message, Stays c inv s message) ∨ ∃ p, Enters c inv s p := by
  cases htarget : cdTarget? s inv with
  | none => exact .inl ⟨_, stays_of_no_target htarget⟩
  | some target =>
    cases hnode : s.files.lookup (s.files.resolve target) with
    | none =>
      refine .inl ⟨_, .missing htarget ?_⟩
      unfold FileSystem.has
      rw [hnode]
      rfl
    | some node =>
      have hget : s.files.get target = .ok node := FileSystem.get_eq_ok_iff.mpr hnode
      cases hdirectory : node.isDirectory with
      | false => exact .inl ⟨_, .notDirectory htarget hget hdirectory⟩
      | true =>
        cases henter : c.mayEnter node with
        | false => exact .inl ⟨_, .barred htarget hget hdirectory henter⟩
        | true => exact .inr ⟨_, target, htarget, rfl, node, hnode, hdirectory, henter⟩

theorem run_cd_of_stays {message : String} (h : Stays c inv s message) :
    (cd c inv).run s = (.ok message, s) := by
  rw [run_cd_eq]
  cases h with
  | crowded h =>
    have hback : inv.goesBack = false := by
      unfold Invocation.goesBack
      rw [Bool.and_eq_false_iff, List.isEmpty_eq_false_iff, ← List.length_pos_iff]
      exact .inl (Nat.zero_lt_of_lt h)
    rw [cdTarget?_of_crowded h, hback]
    rfl
  | nowhere hback h =>
    rw [cdTarget?_of_goesBack hback, filter_isEmpty_eq_none_iff.mpr h, hback]
    rfl
  | missing htarget h =>
    have hget (target : String) (h : s.files.has target = false) :
        s.files.get target = .error ⟨.notFound, target⟩ := by
      unfold FileSystem.has at h
      unfold FileSystem.get
      rw [Option.not_isSome_iff_eq_none.mp (Bool.eq_false_iff.mp h)]
    rw [htarget]
    dsimp only
    rw [run_enterDirectory_eq, hget _ h]
  | notDirectory htarget hnode h =>
    rw [htarget]
    dsimp only
    rw [run_enterDirectory_eq, hnode]
    dsimp only
    rw [h, if_neg Bool.false_ne_true]
  | barred htarget hnode hdirectory h =>
    rw [htarget]
    dsimp only
    rw [run_enterDirectory_eq, hnode]
    dsimp only
    rw [hdirectory, if_pos rfl, h, if_neg Bool.false_ne_true]

/-- An invocation that enters a place moves the session there. -/
theorem run_cd_of_enters (h : Enters c inv s p) :
    (cd c inv).run s =
      (.ok (if inv.goesBack then p.text ++ "\n" else ""), s.entering p) := by
  obtain ⟨target, htarget, rfl, node, hnode, hdirectory, henter⟩ := h
  rw [run_cd_eq, htarget]
  dsimp only
  rw [run_enterDirectory_eq, FileSystem.get_eq_ok_iff.mpr hnode]
  dsimp only
  rw [hdirectory, if_pos rfl, henter, if_pos rfl]

/-! ## Going back -/

theorem enters_of_goesBack (hback : inv.goesBack = true) (hp : p.IsCanonical)
    (hbefore : s.env.lookup "OLDPWD" = some p.text) (hcan : CanEnter c s.files p) :
    Enters c inv s p := by
  have htext : p.text.isEmpty = false := by
    rw [Bool.eq_false_iff, ne_eq, String.isEmpty_iff]
    intro hempty
    have hhead := Path.head?_text p
    rw [hempty] at hhead
    cases hhead
  have htarget : cdTarget? s inv = some p.text := by
    rw [cdTarget?_of_goesBack hback, hbefore, Option.filter_some, htext]
    rfl
  exact (enters_iff htarget).mpr ⟨FileSystem.resolve_text hp, hcan⟩

/-- **Back and forth** between two places leaves the variables as they were. -/
theorem entering_entering {q : Path} (hmoved : t.whereabouts = (s.entering p).whereabouts)
    (hq : s.files.cwd = q) : (t.entering q).entering p = t := by
  obtain ⟨hcwd, henv⟩ := Prod.mk.inj hmoved
  have hcwd' : t.files.cwd = p := hcwd
  have hmove := moved_entering s p
  have hhere : t.env.lookup "PWD" = some p.text := henv ▸ hmove.here
  have hbefore : t.env.lookup "OLDPWD" = some q.text := by
    rw [← hq]
    exact henv ▸ hmove.before
  have hkey : "OLDPWD" ∈ (Assoc.put "OLDPWD" p.text t.env).map (·.1) :=
    (Assoc.isSome_lookup_iff _ _).mp (Option.isSome_of_eq_some
      ((Assoc.lookup_put _ _ _ _).trans (if_pos rfl)))
  have hvariables : ((t.entering q).entering p).env = t.env :=
    calc Assoc.put "PWD" p.text (Assoc.put "OLDPWD" q.text
          (Assoc.put "PWD" q.text (Assoc.put "OLDPWD" t.files.cwd.text t.env)))
        = Assoc.put "PWD" p.text (Assoc.put "PWD" q.text
            (Assoc.put "OLDPWD" q.text (Assoc.put "OLDPWD" p.text t.env))) := by
          rw [hcwd', Assoc.put_comm (by decide) _ _ hkey]
      _ = Assoc.put "PWD" p.text (Assoc.put "OLDPWD" q.text t.env) := by
          rw [Assoc.put_put, Assoc.put_put]
      _ = t.env := by
          rw [Assoc.put_of_lookup hbefore, Assoc.put_of_lookup hhere]
  have hfiles : ((t.entering q).entering p).files = t.files := by
    show { t.files with cwd := p } = t.files
    rw [← hcwd']
  calc (t.entering q).entering p
      = { t with files := ((t.entering q).entering p).files,
                 env := ((t.entering q).entering p).env } := rfl
    _ = t := by rw [hfiles, hvariables]

/-- **What `cd` does.** It complains for one of five reasons and changes nothing, or it enters what
its target is resolved to, a directory that the user may enter, and changes nothing but the working
directory and its two variables. After it has gone from one directory to another, and whatever was
done to the files since, going back leads to the first one and prints it if that is still a
directory that the user may enter, and going back once more undoes it if the other one is. -/
theorem cd_moves_and_comes_back (c : Context) (inv : Invocation) {s : State}
    (h : s.files.Arises) :
    ((∃ message, Stays c inv s message) ↔ ¬∃ p, Enters c inv s p) ∧
    (∀ message, Stays c inv s message → (cd c inv).run s = (.ok message, s)) ∧
    ∀ p, Enters c inv s p →
      (cd c inv).run s =
        (.ok (if inv.goesBack then p.text ++ "\n" else ""), s.entering p) ∧
      Moved s p (s.entering p) ∧ CanEnter c (s.entering p).files p ∧
      ∀ t, t.whereabouts = (s.entering p).whereabouts → CanEnter c t.files s.files.cwd →
        ∀ back again : Invocation, back.goesBack = true → again.goesBack = true →
          (cd c back).run t = (.ok (s.files.cwd.text ++ "\n"), t.entering s.files.cwd) ∧
          (CanEnter c t.files p →
            (cd c again).run (t.entering s.files.cwd) = (.ok (p.text ++ "\n"), t)) := by
  refine ⟨⟨?_, (stays_or_enters c inv s).resolve_right⟩, fun _ => run_cd_of_stays, ?_⟩
  · rintro ⟨message, hstays⟩ ⟨p, henters⟩
    exact hstays.not_enters henters
  · intro p henters
    have hrun := run_cd_of_enters henters
    obtain ⟨target, _, rfl, hcan⟩ := henters
    refine ⟨hrun, moved_entering s _, hcan, fun t hmoved hfirst back again hback hagain => ?_⟩
    obtain ⟨hcwd, henv⟩ := Prod.mk.inj hmoved
    have hcwd' : t.files.cwd = s.files.resolve target := hcwd
    have hplace : (s.files.resolve target).IsCanonical := Path.isCanonical_resolve _ _ _
    have hbefore : t.env.lookup "OLDPWD" = some s.files.cwd.text :=
      henv ▸ (moved_entering s _).before
    refine ⟨?_, fun hsecond => ?_⟩
    · rw [run_cd_of_enters (enters_of_goesBack hback h.isCanonical_cwd hbefore hfirst), hback,
        if_pos rfl]
    · have hother : (t.entering s.files.cwd).env.lookup "OLDPWD" =
          some (s.files.resolve target).text := hcwd' ▸ (moved_entering t s.files.cwd).before
      rw [run_cd_of_enters (enters_of_goesBack hagain hplace hother hsecond), hagain, if_pos rfl,
        entering_entering hmoved rfl]

/-- A shell in the root of a new session, and the superuser in it. -/
def exampleShell : State :=
  ⟨FileSystem.fresh (Layout.tree Persona.raspberryPi) "/root" "/", [], [],
    ⟨.ofSeed 0, .ofSeed 0⟩, []⟩

def superuser : Context := { guest with user := "root" }

/-- To the log files and back, and there again. -/
theorem cd_moves_and_comes_back_example :
    exampleShell.files.Arises ∧ exampleShell.files.cwd = [] ∧
    (cd superuser (.ofWords "cd" ["var/log/"])).run exampleShell =
      (.ok "", exampleShell.entering ["var", "log"]) ∧
    (cd superuser (.ofWords "cd" ["-"])).run (exampleShell.entering ["var", "log"]) =
      (.ok "/\n", (exampleShell.entering ["var", "log"]).entering []) ∧
    (cd superuser (.ofWords "cd" ["-"])).run ((exampleShell.entering ["var", "log"]).entering []) =
      (.ok "/var/log\n", exampleShell.entering ["var", "log"]) := by
  have hshaped : (Layout.tree Persona.raspberryPi).Shaped := Layout.shaped_tree List.mem_cons_self
  have harises : exampleShell.files.Arises := ⟨_, _, _, [], rfl⟩
  have hcwd : exampleShell.files.cwd = [] := by decide +kernel
  have hroot : CanEnter superuser exampleShell.files [] := by
    obtain ⟨root, hroot, hdirectory⟩ := FileSystem.hasRoot_fresh hshaped "/root" "/"
    exact ⟨root, hroot, hdirectory, rfl⟩
  have hlogs : CanEnter superuser exampleShell.files ["var", "log"] := by
    obtain ⟨logs, hlogs, hdirectory, _⟩ := hshaped.hangs FileSystem.logDirectory "auth.log"
      FileSystem.isSome_lookup_loginLog
    exact ⟨logs, hlogs, hdirectory, rfl⟩
  have henters : Enters superuser (.ofWords "cd" ["var/log/"]) exampleShell ["var", "log"] :=
    ⟨"var/log/", by decide, by decide +kernel, hlogs⟩
  obtain ⟨hrun, _, _, hback⟩ :=
    (cd_moves_and_comes_back superuser (.ofWords "cd" ["var/log/"]) harises).2.2 _ henters
  rw [hcwd] at hback
  obtain ⟨hfirst, hsecond⟩ := hback _ rfl hroot (.ofWords "cd" ["-"]) (.ofWords "cd" ["-"])
    (by decide) (by decide)
  exact ⟨harises, hcwd, hrun, hfirst, hsecond hlogs⟩

end Shell
end Honeypot
