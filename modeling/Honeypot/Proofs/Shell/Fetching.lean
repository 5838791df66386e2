import Honeypot.Proofs.Shell.Calls

/-!
# What fetching reports

The two programs that fetch files report every locator before they look at it. Whatever is wrong
with a locator ends the whole command, so that the locators behind it are not reported:
`downloads_dispatch` counts the reports of a command, `Steady` is what it takes for all of them to
be made, and `accepts` says which locators a program can work with.
-/

namespace Honeypot.Shell

/-! ## The programs -/

/-- The command of a program that fetches files. -/
def Tool.command : Tool → Command
  | .wget => .wget
  | .curl => .curl

/-- What a program that fetches files does with one locator. -/
def Tool.fetch (c : Context) (inv : Invocation) : Tool → String → Action (List String)
  | .wget => wgetOne c (readWgetOptions ⟨false, none⟩ inv.tokens)
  | .curl => curlOne c (CurlStyle.of inv)

/-- Whether a program can read what it needs off a locator: `wget` takes the host and the port of
every locator, `curl` takes a name for the file if it is asked to and was given none. -/
def Tool.accepts (inv : Invocation) : Tool → String → Bool
  | .wget, url => ((cutLocator url).bind hostAndPort).isOk
  | .curl, url =>
    (CurlStyle.of inv).output?.isSome || !(CurlStyle.of inv).remoteName || (cutLocator url).isOk

def reports (tool : Tool) (urls : List String) : List Download := urls.map (⟨·, tool⟩)

/-! ## One locator -/

theorem keeps_downloads_chance {α : Type} (m : Draws α) :
    Keeps State.downloads (Action.chance m) :=
  Action.keeps_look (fun _ _ => rfl) _

theorem keeps_downloads_savePayload (c : Context) (name : String) (size : Int) :
    Keeps State.downloads (savePayload c name size) :=
  .bind (Action.keeps_attempt (fun _ _ => rfl) _) fun _ => .pure _

/-- A computation that begins with a report and makes no other. -/
theorem downloads_report {α : Type} {m : Action α} (hm : Keeps State.downloads m) (url : String)
    (tool : Tool) (s : State) :
    ((Action.report url tool >>= fun _ => m).run s).2.downloads =
      s.downloads ++ [⟨url, tool⟩] := by
  rw [run_bind_of_ok (Action.run_report url tool s)]
  exact hm _

theorem downloads_wgetOne (c : Context) (style : WgetStyle) (url : String) (s : State) :
    ((wgetOne c style url).run s).2.downloads = s.downloads ++ [⟨url, .wget⟩] := by
  unfold wgetOne
  apply downloads_report
  refine .bind (.lift _) fun u => .bind (.lift _) fun place => ?_
  refine .bind (keeps_downloads_chance _) fun address => ?_
  refine .bind (keeps_downloads_chance _) fun size => ?_
  refine .bind (fun _ => rfl) fun files => .bind (.lift _) fun started => ?_
  refine .ite (.bind (.pure _) fun saved => ?_)
    (.bind (keeps_downloads_savePayload _ _ _) fun saved => ?_)
  all_goals exact .ite (.pure _) (.ite (.pure _) (keeps_downloads_chance _))

theorem downloads_curlOne (c : Context) (style : CurlStyle) (url : String) (s : State) :
    ((curlOne c style url).run s).2.downloads = s.downloads ++ [⟨url, .curl⟩] := by
  unfold curlOne
  apply downloads_report
  refine .bind (keeps_downloads_chance _) fun size => .ite (.pure _) ?_
  have written (name : String) : Keeps State.downloads (do
      if name.isEmpty then pure ["curl: Remote file name has no length!"]
      else if ← savePayload c name size then
        if style.silent then pure [] else Action.chance (progressLines size)
      else
        pure ["curl: (23) Failed writing body (0 != " ++ Text.ofInt (min size 16384) ++ ")"]) := by
    refine .ite (.pure _) (.bind (keeps_downloads_savePayload _ _ _) fun saved => ?_)
    exact .ite (.ite (.pure _) (keeps_downloads_chance _)) (.pure _)
  cases style.output? with
  | some name => exact .bind (.pure name) written
  | none => exact .bind (.lift _) fun u => .bind (.pure _) written

/-- **Every fetch reports its locator**, once and with the name of the program, whatever becomes
of it. -/
theorem downloads_fetch (c : Context) (inv : Invocation) (tool : Tool) (url : String) (s : State) :
    ((tool.fetch c inv url).run s).2.downloads = s.downloads ++ [⟨url, tool⟩] := by
  cases tool with
  | wget => exact downloads_wgetOne c _ url s
  | curl => exact downloads_curlOne c _ url s

/-! ## What a fetch may fail for -/

/-- A fault of a moment that has no date. -/
def IsUndated (e : Fault) : Prop := ∃ cause, e = .noDate cause

theorem isUndated_ofDate {α : Type} {r : Except Calendar.Fault α} {e : Fault}
    (h : Fault.ofDate r = .error e) : IsUndated e := by
  cases r with
  | ok a => cases h
  | error cause =>
    cases h
    exact ⟨cause, rfl⟩

theorem faultsWithin_addressOf {P : Fault → Prop} (host : String) :
    FaultsWithin P (addressOf host) := by
  unfold addressOf Draws.dotted
  cases Address.parse? host with
  | some address => exact .pure _
  | none =>
    exact .bind (faultsWithin_between _ _) fun _ => .bind (faultsWithin_between _ _) fun _ =>
      .bind (faultsWithin_between _ _) fun _ => .bind (faultsWithin_between _ _) fun _ => .pure _

theorem faultsWithin_transferLines (started : Calendar.Instant) (url host address : String)
    (port : Nat) (size : Int) (name : String) :
    FaultsWithin IsUndated (transferLines started url host address port size name) := by
  unfold transferLines
  refine .bind (faultsWithin_uniform _ _) fun _ => ?_
  refine .bind (.lift fun _ => isUndated_ofDate) fun _ => ?_
  exact .bind (faultsWithin_uniform _ _) fun _ => .bind (faultsWithin_between _ _) fun _ => .pure _

theorem faultsWithin_savePayload {P : Fault → Prop} (c : Context) (name : String) (size : Int) :
    FaultsWithin P (savePayload c name size) :=
  .bind (Action.faultsWithin_attempt _) fun _ => .pure _

theorem badUrl_of_cutLocator {url : String} {e : Fault} (h : cutLocator url = .error e) :
    ∃ cause, e = .badUrl cause := by
  unfold cutLocator at h
  cases hu : Url.parse url with
  | ok u => rw [hu] at h; cases h
  | error cause => rw [hu] at h; cases h; exact ⟨cause, rfl⟩

theorem badUrl_of_hostAndPort {u : Url} {e : Fault} (h : hostAndPort u = .error e) :
    ∃ cause, e = .badUrl cause := by
  unfold hostAndPort at h
  cases hp : u.port? with
  | ok port => rw [hp] at h; cases h
  | error cause => rw [hp] at h; cases h; exact ⟨cause, rfl⟩

theorem accepts_wget {inv : Invocation} {url : String} :
    Tool.accepts inv .wget url = true ↔
      ∃ u place, cutLocator url = .ok u ∧ hostAndPort u = .ok place := by
  show ((cutLocator url).bind hostAndPort).isOk = true ↔ _
  cases cutLocator url with
  | error e => exact ⟨nofun, nofun⟩
  | ok u =>
    show (hostAndPort u).isOk = true ↔ _
    cases hplace : hostAndPort u with
    | error e =>
      refine ⟨nofun, ?_⟩
      rintro ⟨_, _, hu, h⟩
      cases hu
      rw [hplace] at h
      cases h
    | ok place => exact ⟨fun _ => ⟨u, place, rfl, hplace⟩, fun _ => rfl⟩

/-- A locator that `wget` accepts fails for nothing but the clock. -/
theorem faultsWithin_wgetOne {c : Context} {inv : Invocation} {url : String}
    (h : Tool.accepts inv .wget url = true) (style : WgetStyle) :
    FaultsWithin IsUndated (wgetOne c style url) := by
  obtain ⟨u, place, hu, hplace⟩ := accepts_wget.mp h
  unfold wgetOne
  refine .bind (fun s e s' h => by cases h) fun _ => ?_
  refine .bind_lift hu (.bind_lift hplace ?_)
  refine .bind (Action.faultsWithin_chance (faultsWithin_addressOf _)) fun address => ?_
  refine .bind (Action.faultsWithin_chance (faultsWithin_between _ _)) fun size => ?_
  refine .bind (fun s e s' h => by cases h) fun files => ?_
  refine .bind (.lift fun e he => ?_) fun started => ?_
  · exact isUndated_ofDate he
  refine .ite (.bind (.pure _) fun saved => ?_)
    (.bind (faultsWithin_savePayload _ _ _) fun saved => ?_)
  all_goals
    exact .ite (.pure _) (.ite (.pure _)
      (Action.faultsWithin_chance (faultsWithin_transferLines _ _ _ _ _ _ _)))

/-- A locator that `wget` does not accept fails right after its report. -/
theorem run_wgetOne_of_not_accepts {inv : Invocation} {url : String}
    (h : Tool.accepts inv .wget url = false) (c : Context) (style : WgetStyle) (s : State) :
    ∃ cause s', (wgetOne c style url).run s = (.error (.badUrl cause), s') := by
  unfold wgetOne
  rw [run_bind_of_ok (Action.run_report url .wget s)]
  generalize { s with downloads := _ } = s
  cases hu : cutLocator url with
  | error e =>
    obtain ⟨cause, rfl⟩ := badUrl_of_cutLocator hu
    exact ⟨cause, s, run_bind_of_error (run_lift _ s) _⟩
  | ok u =>
    rw [run_bind_of_ok (run_lift _ s)]
    cases hplace : hostAndPort u with
    | error e =>
      obtain ⟨cause, rfl⟩ := badUrl_of_hostAndPort hplace
      exact ⟨cause, s, run_bind_of_error (run_lift _ s) _⟩
    | ok place =>
      rw [accepts_wget.mpr ⟨u, place, hu, hplace⟩] at h
      cases h

theorem faultsWithin_curlOne {P : Fault → Prop} {c : Context} {inv : Invocation} {url : String}
    (h : Tool.accepts inv .curl url = true) :
    FaultsWithin P (curlOne c (CurlStyle.of inv) url) := by
  have written (name : String) (size : Int) : FaultsWithin P (do
      if name.isEmpty then pure ["curl: Remote file name has no length!"]
      else if ← savePayload c name size then
        if (CurlStyle.of inv).silent then pure [] else Action.chance (progressLines size)
      else
        pure ["curl: (23) Failed writing body (0 != " ++ Text.ofInt (min size 16384) ++ ")"]) := by
    refine .ite (.pure _) (.bind (faultsWithin_savePayload _ _ _) fun saved => ?_)
    refine .ite (.ite (.pure _) ?_) (.pure _)
    exact Action.faultsWithin_chance (.bind (faultsWithin_between _ _) fun _ => .pure _)
  unfold curlOne
  refine .bind (fun s e s' h => by cases h) fun _ => ?_
  refine .bind (Action.faultsWithin_chance (faultsWithin_between _ _)) fun size => ?_
  split
  · exact .pure _
  · next hnamed =>
    cases hout : (CurlStyle.of inv).output? with
    | some name => exact .bind (.pure name) fun name => written name size
    | none =>
      have hcut : (cutLocator url).isOk = true := by
        simp only [hout, Option.isSome_none, Bool.or_false] at hnamed
        have hremote : (CurlStyle.of inv).remoteName = true := by
          simpa using hnamed
        simpa only [Tool.accepts, hout, hremote, Option.isSome_none, Bool.not_true,
          Bool.false_or] using h
      cases hu : cutLocator url with
      | error e => rw [hu] at hcut; cases hcut
      | ok u => exact .bind_lift rfl (.bind (.pure _) fun name => written name size)

/-- A locator that `curl` does not accept fails right after the draw of a size. -/
theorem run_curlOne_of_not_accepts {inv : Invocation} {url : String}
    (h : Tool.accepts inv .curl url = false) (c : Context) (s : State) :
    ∃ cause s', (curlOne c (CurlStyle.of inv) url).run s = (.error (.badUrl cause), s') := by
  have h' : ((CurlStyle.of inv).output?.isSome || !(CurlStyle.of inv).remoteName ||
      (cutLocator url).isOk) = false := h
  simp only [Bool.or_eq_false_iff, Bool.not_eq_false'] at h'
  obtain ⟨⟨hout, hremote⟩, hcut⟩ := h'
  rw [Option.isSome_eq_false_iff, Option.isNone_iff_eq_none] at hout
  unfold curlOne
  rw [run_bind_of_ok (Action.run_report url .curl s)]
  generalize { s with downloads := _ } = s
  rw [run_bind_of_ok (Action.run_chance (Draws.between 8000 64000) s)]
  generalize { s with chances := _ } = s
  rw [hout, hremote, if_neg (by simp)]
  cases hu : cutLocator url with
  | ok u => rw [hu] at hcut; cases hcut
  | error e =>
    obtain ⟨cause, rfl⟩ := badUrl_of_cutLocator hu
    exact ⟨cause, s, run_bind_of_error (run_lift _ s) _⟩

section Rows

variable {c : Context} {inv : Invocation} {tool : Tool}

theorem faultsWithin_fetch {url : String} (h : tool.accepts inv url = true) :
    FaultsWithin IsUndated (tool.fetch c inv url) := by
  cases tool with
  | wget => exact faultsWithin_wgetOne h _
  | curl => exact faultsWithin_curlOne h

theorem run_fetch_of_not_accepts {url : String} (h : tool.accepts inv url = false) (s : State) :
    ∃ cause s', (tool.fetch c inv url).run s = (.error (.badUrl cause), s') := by
  cases tool with
  | wget => exact run_wgetOne_of_not_accepts h c _ s
  | curl => exact run_curlOne_of_not_accepts h c s

/-! ## A row of locators -/

/-- Whether every fetch of a row but the last one ends without a fault. -/
def Steady (fetch : String → Action (List String)) (s : State) : List String → Prop
  | [] => True
  | [_] => True
  | url :: next :: rest =>
    ∃ lines s', (fetch url).run s = (.ok lines, s') ∧ Steady fetch s' (next :: rest)

theorem reports_cons (url : String) (urls : List String) :
    reports tool (url :: urls) = ⟨url, tool⟩ :: reports tool urls := rfl

theorem length_reports (urls : List String) : (reports tool urls).length = urls.length :=
  List.length_map _

/-- The run of a row of fetches, taken apart at its first fetch. -/
theorem run_mapM_cons (fetch : String → Action (List String)) (url : String) (urls : List String)
    (s : State) :
    ((url :: urls).mapM fetch).run s =
      match (fetch url).run s with
      | (.error e, s') => (.error e, s')
      | (.ok lines, s') =>
        match (urls.mapM fetch).run s' with
        | (.error e, s'') => (.error e, s'')
        | (.ok more, s'') => (.ok (lines :: more), s'') := by
  rw [List.mapM_cons, run_bind]
  rcases (fetch url).run s with ⟨e | lines, s'⟩
  · rfl
  · dsimp only
    rw [run_bind]
    rcases (urls.mapM fetch).run s' with ⟨e | more, s''⟩ <;> rfl

theorem snd_run_mapM_of_ok {fetch : String → Action (List String)} {url : String} {s s' : State}
    {lines : List String} (h : (fetch url).run s = (.ok lines, s')) (urls : List String) :
    (((url :: urls).mapM fetch).run s).2 = ((urls.mapM fetch).run s').2 := by
  rw [run_mapM_cons, h]
  dsimp only
  rcases (urls.mapM fetch).run s' with ⟨e | more, s''⟩ <;> rfl

/-- A row of fetches reports its locators in order up to the first one that fails. -/
theorem downloads_mapM_fetch (urls : List String) (s : State) :
    ∃ n, ((urls.mapM (tool.fetch c inv)).run s).2.downloads =
      s.downloads ++ reports tool (urls.take n) := by
  induction urls generalizing s with
  | nil => exact ⟨0, (List.append_nil _).symm⟩
  | cons url urls ih =>
    have hreport := downloads_fetch c inv tool url s
    rcases hrun : (tool.fetch c inv url).run s with ⟨e | lines, s'⟩
    · refine ⟨1, ?_⟩
      rw [run_mapM_cons, hrun]
      rw [hrun] at hreport
      exact hreport
    · obtain ⟨n, hn⟩ := ih s'
      rw [hrun] at hreport
      refine ⟨n + 1, ?_⟩
      rw [snd_run_mapM_of_ok hrun, hn, show s'.downloads = _ from hreport, List.take_succ_cons,
        reports_cons, List.append_assoc, List.singleton_append]

/-- All locators of a row are reported exactly if no fetch but the last one fails. -/
theorem downloads_mapM_fetch_eq_iff (urls : List String) (s : State) :
    ((urls.mapM (tool.fetch c inv)).run s).2.downloads = s.downloads ++ reports tool urls ↔
      Steady (tool.fetch c inv) s urls := by
  induction urls generalizing s with
  | nil => exact ⟨fun _ => trivial, fun _ => (List.append_nil _).symm⟩
  | cons url urls ih =>
    have hreport := downloads_fetch c inv tool url s
    rcases hrun : (tool.fetch c inv url).run s with ⟨e | lines, s'⟩
    · rw [hrun] at hreport
      rw [run_mapM_cons, hrun]
      cases urls with
      | nil => exact ⟨fun _ => trivial, fun _ => hreport⟩
      | cons next rest =>
        constructor
        · intro h
          have hlen := congrArg List.length ((show s'.downloads = _ from hreport).symm.trans h)
          simp only [List.length_append, length_reports, List.length_cons, List.length_nil] at hlen
          omega
        · rintro ⟨lines, s'', hok, _⟩
          rw [hrun] at hok
          cases hok
    · rw [hrun] at hreport
      rw [snd_run_mapM_of_ok hrun, reports_cons, List.append_cons,
        ← show s'.downloads = s.downloads ++ [⟨url, tool⟩] from hreport, ih s']
      cases urls with
      | nil => exact ⟨fun _ => trivial, fun _ => trivial⟩
      | cons next rest =>
        constructor
        · intro h
          exact ⟨lines, s', hrun, h⟩
        · rintro ⟨lines', s'', hok, h⟩
          rw [hrun] at hok
          cases hok
          exact h

/-- Where no date is missing, a row is steady exactly if the program accepts all of its locators
but the last one. -/
theorem steady_iff_accepts (urls : List String) (s : State)
    (hdate : ∀ cause, ((urls.mapM (tool.fetch c inv)).run s).1 ≠ .error (.noDate cause)) :
    Steady (tool.fetch c inv) s urls ↔ ∀ url ∈ urls.dropLast, tool.accepts inv url = true := by
  induction urls generalizing s with
  | nil => exact ⟨nofun, fun _ => trivial⟩
  | cons url urls ih =>
    cases urls with
    | nil => exact ⟨nofun, fun _ => trivial⟩
    | cons next rest =>
      rw [List.dropLast_cons_cons, List.forall_mem_cons]
      cases hacc : tool.accepts inv url with
      | false =>
        obtain ⟨cause, s', hrun⟩ := run_fetch_of_not_accepts (c := c) hacc s
        constructor
        · rintro ⟨lines, s'', hok, _⟩
          rw [hrun] at hok
          cases hok
        · rintro ⟨h, _⟩
          cases h
      | true =>
        rw [run_mapM_cons] at hdate
        rcases hrun : (tool.fetch c inv url).run s with ⟨e | lines, s'⟩
        · obtain ⟨cause, rfl⟩ := faultsWithin_fetch hacc s e s' hrun
          rw [hrun] at hdate
          exact absurd rfl (hdate cause)
        · rw [hrun] at hdate
          have hrest := ih s' fun cause herr => by
            dsimp only at hdate
            rcases hmore : ((next :: rest).mapM (tool.fetch c inv)).run s' with ⟨e | more, s''⟩
            · rw [hmore] at hdate herr
              exact hdate cause herr
            · rw [hmore] at herr
              cases herr
          rw [← hrest]
          constructor
          · rintro ⟨lines', s'', hok, h⟩
            rw [hrun] at hok
            cases hok
            exact ⟨rfl, h⟩
          · rintro ⟨_, h⟩
            exact ⟨lines, s', hrun, h⟩

end Rows

/-! ## Whole commands -/

/-- The whole command of a program that fetches files. -/
def Tool.run (c : Context) (inv : Invocation) : Tool → Action String
  | .wget => Shell.wget c inv
  | .curl => Shell.curl c inv

section Commands

variable {c : Context} {inv : Invocation} {tool : Tool}

theorem fetch_room (room : Nat) : tool.fetch { c with room } inv = tool.fetch c inv := by
  cases tool <;> rfl

theorem tool_run_of_nil (c : Context) (tool : Tool) (hurls : locators inv.tokens = []) :
    ∃ answer, tool.run c inv = pure answer := by
  cases tool with
  | wget =>
    refine ⟨"wget: missing URL\nUsage: wget [OPTION]... [URL]...\n\n" ++
      "Try \u0060wget --help' for more options.\n", ?_⟩
    unfold Tool.run wget
    rw [hurls]
    rfl
  | curl =>
    unfold Tool.run curl
    rw [hurls]
    cases inv.args.getLast? with
    | some host => exact ⟨_, rfl⟩
    | none => exact ⟨_, rfl⟩

theorem tool_run_eq (c : Context) (inv : Invocation) (tool : Tool) :
    ∃ text : List (List String) → String, tool.run c inv =
      (locators inv.tokens).mapM (tool.fetch c inv) >>= fun lines => pure (text lines) := by
  cases hurls : locators inv.tokens with
  | nil =>
    obtain ⟨answer, hanswer⟩ := tool_run_of_nil c tool hurls
    refine ⟨fun _ => answer, ?_⟩
    rw [hanswer, List.mapM_nil]
    rfl
  | cons url urls =>
    refine ⟨fun lines => Text.block lines.flatten, ?_⟩
    have hsome : ¬(url :: urls).isEmpty = true := nofun
    cases tool with
    | wget =>
      unfold Tool.run wget
      rw [hurls]
      exact if_neg hsome
    | curl =>
      unfold Tool.run curl
      rw [hurls]
      exact if_neg hsome

theorem run_runCommand_tool {room : Nat} (hroom : c.room = room + 1) (s : State) :
    (runCommand c inv tool.command).run s =
      (tool.run { c with room } inv >>= fun text => pure (.text text)).run s := by
  unfold runCommand
  rw [call_bind hroom]
  cases tool <;> rfl

variable (hname : Text.hasChar inv.name '/' = false)
  (hcommand : Command.ofName? inv.command = some tool.command)

include hname hcommand

/-- Where calls have room, dispatching a program that fetches files comes to fetching a row of
locators. -/
theorem run_dispatch_tool (hroom : 2 ≤ c.room) (s : State) :
    ∃ answer : List (List String) → Response, (dispatch c inv).run s =
      ((((locators inv.tokens).mapM (tool.fetch c inv)).run s).1.map answer,
        (((locators inv.tokens).mapM (tool.fetch c inv)).run s).2) := by
  obtain ⟨room, hroom⟩ : ∃ room, c.room = room + 2 := ⟨c.room - 2, by omega⟩
  obtain ⟨text, htext⟩ := tool_run_eq { c with room } inv tool
  refine ⟨fun lines => .text (text lines), ?_⟩
  rw [dispatch_of_command hname hcommand, call_bind hroom, run_runCommand_tool rfl, run_bind_pure]
  show (((tool.run { c with room } inv).run s).1.map _,
    ((tool.run { c with room } inv).run s).2) = _
  rw [htext, run_bind_pure, fetch_room]
  rcases ((locators inv.tokens).mapM (tool.fetch c inv)).run s with ⟨e | lines, s'⟩ <;> rfl

/-- **Dispatching reports locators in order**, and no others, up to the first one that fails. -/
theorem downloads_dispatch (s : State) :
    ∃ n, ((dispatch c inv).run s).2.downloads =
      s.downloads ++ reports tool ((locators inv.tokens).take n) := by
  by_cases hroom : 2 ≤ c.room
  · obtain ⟨answer, hrun⟩ := run_dispatch_tool hname hcommand hroom s
    rw [hrun]
    exact downloads_mapM_fetch _ s
  · refine ⟨0, ?_⟩
    rw [run_dispatch_of_room_lt hname hcommand (by omega) s]
    exact (List.append_nil _).symm

/-- **Dispatching reports every locator** exactly if none but the last one fails. -/
theorem downloads_dispatch_eq_iff (s : State) :
    ((dispatch c inv).run s).2.downloads = s.downloads ++ reports tool (locators inv.tokens) ↔
      locators inv.tokens = [] ∨
        2 ≤ c.room ∧ Steady (tool.fetch c inv) s (locators inv.tokens) := by
  by_cases hroom : 2 ≤ c.room
  · obtain ⟨answer, hrun⟩ := run_dispatch_tool hname hcommand hroom s
    rw [hrun, downloads_mapM_fetch_eq_iff]
    constructor
    · intro h
      exact .inr ⟨hroom, h⟩
    · rintro (h | ⟨_, h⟩)
      · rw [h]
        trivial
      · exact h
  · rw [run_dispatch_of_room_lt hname hcommand (by omega) s, List.self_eq_append_right]
    constructor
    · intro h
      exact .inl (List.map_eq_nil_iff.mp h)
    · rintro (h | ⟨h, _⟩)
      · exact List.map_eq_nil_iff.mpr h
      · exact absurd h hroom

/-- Where calls have room and no date is missing, the locators that a program cannot work with are
the only ones that fail. -/
theorem steady_iff_of_dispatch (s : State) (hroom : 2 ≤ c.room)
    (hdate : ∀ cause, ((dispatch c inv).run s).1 ≠ .error (.noDate cause)) :
    Steady (tool.fetch c inv) s (locators inv.tokens) ↔
      ∀ url ∈ (locators inv.tokens).dropLast, tool.accepts inv url = true := by
  obtain ⟨answer, hrun⟩ := run_dispatch_tool hname hcommand hroom s
  apply steady_iff_accepts
  intro cause herr
  apply hdate cause
  rw [hrun, herr]
  rfl

end Commands

end Honeypot.Shell
