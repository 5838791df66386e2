import Honeypot.Proofs.Resolution
import Honeypot.Proofs.Shell.Whereabouts
import Honeypot.Shell.Login

/-!
# What a prompt is made of

A prompt shows where the shell stands, and no line feed ever gets there. What the shell runs is made
of words, whether they come from the line, from `sudo` or from a script (`isWord_of_mem_errands`),
and neither resolving a path nor expanding a variable makes up a character. So a shell whose home
directory, working directory and variables are free of line feeds stays so, whatever it runs
(`unbroken_runLine`), and its prompt stays on one line (`Unbroken.not_mem_prompt`).
-/

namespace Honeypot

/-! ## Characters that are not made up -/

namespace Path

variable {x : Char}

theorem not_mem_within {dir cs : List Char} (hslash : x ≠ '/') (hdir : x ∉ dir) (h : x ∉ cs) :
    x ∉ within dir cs := by
  unfold within
  split
  · exact h
  · exact List.not_mem_append hdir (List.not_mem_cons_of_ne_of_not_mem hslash h)

theorem not_mem_expanded {cwd home path : List Char} (hslash : x ≠ '/') (hcwd : x ∉ cwd)
    (hhome : x ∉ home) (hpath : x ∉ path) : x ∉ expanded cwd home path := by
  have hnamed (cs : List Char) (h : x ∉ cs) :
      x ∉ if startsAtHome cs then home ++ cs.drop 1 else cs := by
    split
    · exact List.not_mem_append hhome (mt List.mem_of_mem_drop h)
    · exact h
  refine not_mem_within hslash hcwd (hnamed _ ?_)
  split
  · exact hcwd
  · exact hpath

/-- What holds of the parts of a text holds of the names that they lead to. -/
theorem forall_foldl_step {P : String → Prop} {parts : List String} {p : Path}
    (hparts : ∀ part ∈ parts, P part) (hp : ∀ name ∈ p, P name) :
    ∀ name ∈ parts.foldl step p, P name := by
  induction parts generalizing p with
  | nil => exact hp
  | cons part rest ih =>
    obtain ⟨hpart, hrest⟩ := List.forall_mem_cons.mp hparts
    refine ih hrest ?_
    unfold step
    split
    · exact hp
    · split
      · exact fun name hname => hp name (List.mem_of_mem_dropLast hname)
      · exact List.forall_mem_append.mpr ⟨hp, List.forall_mem_singleton.mpr hpart⟩

theorem not_mem_text (hslash : x ≠ '/') {p : Path} (h : ∀ name ∈ p, x ∉ name.toList) :
    x ∉ p.text.toList := by
  by_cases hroot : p = []
  · rw [hroot]
    exact mt List.mem_singleton.mp hslash
  · rw [toList_text hroot]
    unfold chars
    simp only [List.mem_flatMap, List.mem_cons, not_exists, not_and, not_or]
    exact fun name hname => ⟨hslash, h name hname⟩

/-- **Resolving a text makes up no characters** but slashes. -/
theorem not_mem_text_resolve {cwd home path : String} (hslash : x ≠ '/') (hcwd : x ∉ cwd.toList)
    (hhome : x ∉ home.toList) (hpath : x ∉ path.toList) :
    x ∉ (resolve cwd home path).text.toList := by
  refine not_mem_text hslash (forall_foldl_step (fun part hpart => ?_) (List.forall_mem_nil _))
  obtain ⟨piece, hpiece, rfl⟩ := List.mem_map.mp hpart
  rw [String.toList_ofList]
  exact fun hx => not_mem_expanded hslash hcwd hhome hpath (Text.mem_of_mem_splitOn hpiece hx)

end Path

namespace Shell

section Characters

variable {x : Char}

theorem not_mem_unquote {text : String} (h : x ∉ text.toList) : x ∉ (unquote text).toList := by
  unfold unquote
  split
  · next first second rest htext =>
    split
    · rw [String.toList_ofList]
      rw [htext] at h
      exact fun hx => h (List.mem_cons_of_mem _ (List.mem_of_mem_dropLast hx))
    · exact h
  · exact h

theorem not_mem_of_cutFirst {sep : Char} {cs left right : List Char}
    (h : Text.cutFirst sep cs = some (left, right)) (hx : x ∉ cs) : x ∉ right := by
  induction cs generalizing left with
  | nil => cases h
  | cons c rest ih =>
    have hrest := List.not_mem_of_not_mem_cons hx
    unfold Text.cutFirst at h
    split at h
    · cases h
      exact hrest
    · obtain ⟨⟨front, back⟩, hcut, heq⟩ := Option.map_eq_some_iff.mp h
      cases heq
      exact ih hcut hrest

theorem not_mem_of_reference? {cs name rest : List Char} (h : reference? cs = some (name, rest))
    (hx : x ∉ cs) : x ∉ rest := by
  unfold reference? at h
  split at h
  · next inside =>
    dsimp only at h
    split at h
    · next more hclosed =>
      split at h
      · cases h
      · cases h
        have hinside : x ∉ '\x7d' :: rest := hclosed ▸ fun hmem =>
          List.not_mem_of_not_mem_cons hx (List.mem_of_mem_drop hmem)
        exact List.not_mem_of_not_mem_cons hinside
    · cases h
  · cases h
    exact List.not_mem_of_not_mem_cons hx
  · dsimp only at h
    split at h
    · cases h
    · cases h
      exact mt List.mem_of_mem_drop hx

theorem not_mem_valueOf {env : Env} (hzero : x ≠ '0') (h : ∀ entry ∈ env, x ∉ entry.2.toList)
    (name : String) : x ∉ (valueOf env name).toList := by
  unfold valueOf
  split
  · exact mt List.mem_singleton.mp hzero
  · cases hvalue : env.lookup name with
    | none => exact List.not_mem_nil
    | some value =>
      obtain ⟨before, after, rfl, -⟩ := List.lookup_eq_some_iff.mp hvalue
      exact h (name, value) List.mem_append_cons_self

theorem not_mem_expandChars {env : Env} (hzero : x ≠ '0') (henv : ∀ entry ∈ env, x ∉ entry.2.toList)
    {cs : List Char} (h : x ∉ cs) : x ∉ expandChars env cs := by
  fun_induction expandChars env cs with
  | case1 => exact h
  | case2 rest name more href ih =>
    have hrest := List.not_mem_of_not_mem_cons h
    exact List.not_mem_append (not_mem_valueOf hzero henv _) (ih (not_mem_of_reference? href hrest))
  | case3 rest href ih =>
    obtain ⟨hc, hrest⟩ := List.ne_and_not_mem_of_not_mem_cons h
    exact List.not_mem_cons_of_ne_of_not_mem hc (ih hrest)
  | case4 c rest hdollar ih =>
    obtain ⟨hc, hrest⟩ := List.ne_and_not_mem_of_not_mem_cons h
    exact List.not_mem_cons_of_ne_of_not_mem hc (ih hrest)

/-- **Expanding makes up no characters** but the last exit status. -/
theorem not_mem_expand {env : Env} (hzero : x ≠ '0') (henv : ∀ entry ∈ env, x ∉ entry.2.toList)
    {text : String} (h : x ∉ text.toList) : x ∉ (expand env text).toList := by
  unfold expand
  rw [String.toList_ofList]
  exact not_mem_expandChars hzero henv h

end Characters

/-! ## The words of errands -/

/-- Whether the words behind the name of a command are words indeed; a line is any text. -/
def Job.Worded : Job → Prop
  | .line _ => True
  | .command inv => ∀ token ∈ inv.tokens, Text.IsWord token

theorem isWord_of_parse? {text : String} {inv : Invocation}
    (h : Invocation.parse? text = some inv) : ∀ token ∈ inv.tokens, Text.IsWord token := by
  unfold Invocation.parse? at h
  cases hwords : Text.words text with
  | nil =>
    rw [hwords] at h
    cases h
  | cons name tokens =>
    rw [hwords] at h
    cases h
    intro token htoken
    refine Text.isWord_of_mem_words (s := text) ?_
    rw [hwords]
    exact List.mem_cons_of_mem _ htoken

theorem Job.Starts.worded {job started : Job} (h : Job.Starts job started) : started.Worded := by
  cases h with
  | segment _ hinv => exact isWord_of_parse? hinv
  | words hsub => exact isWord_of_parse? hsub
  | script _ => trivial

/-- **Whatever a job comes down to** is made of words. -/
theorem isWord_of_mem_errands {e : Errand} {job : Job} (hjob : job.Worded) {c : Context}
    {s : State} (h : e ∈ errands c s job) : ∀ token ∈ e.invocation.tokens, Text.IsWord token := by
  induction hsize : job.size using Nat.strong_induction_on generalizing job c s with
  | h size ih =>
    subst hsize
    obtain ⟨inv, rfl, htokens⟩ | ⟨started, hstarts, c', s', hmem⟩ := errand_cases h
    · rw [htokens]
      exact hjob
    · exact ih _ hstarts.size_lt hstarts.worded hmem rfl

/-! ## Where the shell stands -/

/-- Whether no line feed is in what the shell keeps of where it stands. -/
structure Unbroken (files : FileSystem) (env : Env) : Prop where
  home : '\n' ∉ files.home.toList
  cwd : '\n' ∉ files.cwd.text.toList
  values : ∀ entry ∈ env, '\n' ∉ entry.2.toList

theorem unbroken_of_bearings {s t : State} (hs : Unbroken s.files s.env)
    (heq : t.bearings = s.bearings) : Unbroken t.files t.env := by
  obtain ⟨hstands, henv⟩ := Prod.mk.inj heq
  obtain ⟨hcwd, hhome⟩ := Prod.mk.inj hstands
  constructor
  · rw [hhome]
    exact hs.home
  · rw [hcwd]
    exact hs.cwd
  · rw [henv]
    exact hs.values

namespace Unbroken

variable {files : FileSystem} {env : Env}

theorem put (h : Unbroken files env) (name : String) {value : String}
    (hvalue : '\n' ∉ value.toList) : Unbroken files (Assoc.put name value env) where
  home := h.home
  cwd := h.cwd
  values entry hentry := by
    obtain rfl | hold := Assoc.mem_of_mem_put hentry
    · exact hvalue
    · exact h.values entry hold

theorem putAll (h : Unbroken files env) {entries : List (String × String)}
    (hentries : ∀ entry ∈ entries, '\n' ∉ entry.2.toList) :
    Unbroken files (entries.foldl (fun env (name, value) => Assoc.put name value env) env) := by
  induction entries generalizing env with
  | nil => exact h
  | cons entry rest ih =>
    obtain ⟨hentry, hrest⟩ := List.forall_mem_cons.mp hentries
    exact ih (h.put entry.1 hentry) hrest

/-! ### What is run -/

section Run

variable {s : State} (h : Unbroken s.files s.env)
include h

theorem entering {target : String} (htarget : '\n' ∉ target.toList) :
    Unbroken (s.entering (s.files.resolve target)).files
      (s.entering (s.files.resolve target)).env := by
  have hplace : '\n' ∉ (s.files.resolve target).text.toList :=
    Path.not_mem_text_resolve (by decide) h.cwd h.home htarget
  exact ⟨h.home, hplace, ((h.put "OLDPWD" h.cwd).put "PWD" hplace).values⟩

theorem assign {assignments : List String}
    (hassignments : ∀ assignment ∈ assignments, Text.IsWord assignment) :
    Unbroken ((Shell.assign assignments).run s).2.files
      ((Shell.assign assignments).run s).2.env := by
  induction assignments generalizing s with
  | nil => exact h
  | cons assignment rest ih =>
    obtain ⟨hword, hrest⟩ := List.forall_mem_cons.mp hassignments
    unfold Shell.assign
    cases hcut : Text.cutFirst '=' assignment.toList with
    | none => exact ih h hrest
    | some parts =>
      obtain ⟨left, right⟩ := parts
      have hright : '\n' ∉ (String.ofList right).toList := by
        rw [String.toList_ofList]
        exact not_mem_of_cutFirst hcut hword.not_mem_feed
      have hvalue := not_mem_expand (by decide) h.values (not_mem_unquote hright)
      dsimp only
      split
      · exact ih (h.put (String.ofList left) hvalue) hrest
      · exact h

variable {inv : Invocation} (hwords : ∀ token ∈ inv.tokens, Text.IsWord token)
include hwords

theorem not_mem_cdTarget? {target : String} (htarget : cdTarget? s inv = some target) :
    '\n' ∉ target.toList := by
  unfold cdTarget? at htarget
  split at htarget
  · cases htarget
  · next hargs =>
    cases htarget
    have hmem : target ∈ inv.args := hargs ▸ List.mem_cons_self
    exact (hwords target (List.mem_filter.mp hmem).1).not_mem_feed
  · split at htarget
    · obtain ⟨hbefore, -⟩ := Option.filter_eq_some_iff.mp htarget
      obtain ⟨_, _, henv, -⟩ := List.lookup_eq_some_iff.mp hbefore
      exact h.values ("OLDPWD", target) (henv ▸ List.mem_append_cons_self)
    · cases htarget
      exact h.home

theorem cd (c : Context) :
    Unbroken ((Shell.cd c inv).run s).2.files ((Shell.cd c inv).run s).2.env := by
  rw [run_cd]
  cases htarget : cdTarget? s inv with
  | none => exact h
  | some target =>
    have hentered := h.entering (h.not_mem_cdTarget? hwords htarget)
    dsimp only [Option.bind_some]
    unfold enterable?
    split
    · exact h
    · split
      · exact hentered
      · exact h

theorem exportVariables :
    Unbroken ((Shell.exportVariables inv).run s).2.files
      ((Shell.exportVariables inv).run s).2.env := by
  unfold Shell.exportVariables
  split
  · exact h
  · exact h.assign fun token htoken => hwords token (List.mem_filter.mp htoken).1

end Run

/-- **One errand** that is made of words. -/
theorem after {e : Errand} (h : Unbroken e.before.files e.before.env)
    (hwords : ∀ token ∈ e.invocation.tokens, Text.IsWord token) :
    Unbroken e.after.files e.after.env := by
  obtain ⟨c, inv, command, s⟩ := e
  by_cases hcd : command = .cd
  · subst hcd
    exact h.cd hwords c
  · by_cases hexport : command = .export
    · subst hexport
      exact h.exportVariables hwords
    · exact unbroken_of_bearings h (keeps_bearings_runAlone hcd hexport s)

end Unbroken

/-- **Errands that are made of words** bring no line feed with them. -/
theorem Follows.unbroken {s t : State} {es : List Errand} (h : Follows s es t)
    (hwords : ∀ e ∈ es, ∀ token ∈ e.invocation.tokens, Text.IsWord token)
    (hs : Unbroken s.files s.env) : Unbroken t.files t.env := by
  induction h with
  | still h => exact unbroken_of_bearings hs (bearings_of_lasting h)
  | errand _ finds leaves ih =>
    obtain ⟨hbefore, hlast⟩ := List.forall_mem_append.mp hwords
    have hfound := unbroken_of_bearings (ih hbefore) (bearings_of_lasting finds)
    have hdone := hfound.after (List.forall_mem_singleton.mp hlast)
    exact unbroken_of_bearings hdone (bearings_of_lasting leaves)

/-- **Any line**, whatever it holds, leaves no line feed in what the prompt is made of. -/
theorem unbroken_runLine {s : State} (h : Unbroken s.files s.env) (c : Context) (line : String) :
    Unbroken ((runLine c line).run s).2.files ((runLine c line).run s).2.env := by
  have hfollows : Follows s (errands c s (.line line)) ((runLine c line).run s).2 :=
    does_errands (.line line) c s
  have hline : Job.Worded (.line line) := trivial
  exact hfollows.unbroken (fun e he => isWord_of_mem_errands hline he) h

/-! ## From login to the prompt -/

theorem not_mem_homeOf (device : Persona) {user : String} (huser : '\n' ∉ user.toList) :
    '\n' ∉ (Layout.homeOf device user).toList := by
  have hroot : '\n' ∉ "/root".toList := by decide
  unfold Layout.homeOf
  split
  · exact hroot
  · split
    · exact Text.not_mem_append (by decide) huser
    · exact hroot

/-- A shell starts where no line feed is, if there is none in the names of its user and its
device. -/
theorem unbroken_start {device : Persona} {user : String} {env : Env}
    (hhost : '\n' ∉ device.hostname.toList) (huser : '\n' ∉ user.toList)
    (henv : ∀ entry ∈ env, '\n' ∉ entry.2.toList) :
    Unbroken (homeFiles device user)
      (withStartVariables device (homeFiles device user) user env) := by
  have hhome : '\n' ∉ (homeFiles device user).home.toList := not_mem_homeOf device huser
  have hcwd : '\n' ∉ (homeFiles device user).cwd.text.toList := by
    refine Path.not_mem_text_resolve (by decide) (by decide) (by decide) ?_
    split
    · exact hhome
    · decide
  refine Unbroken.putAll ⟨hhome, hcwd, henv⟩ ?_
  unfold startVariables
  simp only [List.forall_mem_cons]
  exact ⟨hhome, huser, huser, by decide, by decide, hcwd, by decide, by decide, hhost,
    List.forall_mem_nil _⟩

theorem Unbroken.not_mem_shownDirectory {files : FileSystem} {env : Env}
    (h : Unbroken files env) : '\n' ∉ (shownDirectory files).toList := by
  have htilde : '\n' ∉ "~".toList := by decide
  unfold shownDirectory
  dsimp only
  split
  · exact htilde
  · split
    · refine Text.not_mem_append htilde ?_
      unfold Text.drop
      rw [String.toList_ofList]
      exact mt List.mem_of_mem_drop h.cwd
    · exact h.cwd

/-- **The prompt** of such a shell stays on one line. -/
theorem Unbroken.not_mem_prompt {files : FileSystem} {env : Env} (h : Unbroken files env)
    {device : Persona} (hhost : '\n' ∉ device.hostname.toList) {user : String}
    (huser : '\n' ∉ user.toList) : '\n' ∉ (prompt device user files).toList := by
  have hwho : '\n' ∉ (user ++ "@" ++ device.hostname).toList :=
    Text.not_mem_append (Text.not_mem_append huser (by decide)) hhost
  have hplace : '\n' ∉ (user ++ "@" ++ device.hostname ++ ":" ++ shownDirectory files).toList :=
    Text.not_mem_append (Text.not_mem_append hwho (by decide)) h.not_mem_shownDirectory
  have hsign : '\n' ∉ (if user = "root" then "#" else "$").toList := by split <;> decide
  exact Text.not_mem_append (Text.not_mem_append hplace hsign) (by decide)

end Shell
end Honeypot
