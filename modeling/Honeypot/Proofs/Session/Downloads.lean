import Honeypot.Persona.Catalogue
import Honeypot.Proofs.Session.Handing
import Honeypot.Proofs.Shell.Fetching

/-!
# Events of downloads

A line that fetches files makes its reports in the shell, and the session hands on one event for
each of them. `dispatch_reports_iff` puts both together.
-/

namespace Honeypot

namespace Shell

variable {c : Context} {inv : Invocation} {tool : Tool}

/-- A row whose first locator the program cannot work with is not reported any further. -/
theorem downloads_dispatch_of_not_accepts
    (hname : Text.hasChar inv.name '/' = false)
    (hcommand : Command.ofName? inv.command = some tool.command) (hroom : 2 ≤ c.room)
    {url : String} {rest : List String} (hurls : locators inv.tokens = url :: rest)
    (hacc : tool.accepts inv url = false) (s : State) :
    ((dispatch c inv).run s).2.downloads = s.downloads ++ [⟨url, tool⟩] := by
  obtain ⟨answer, hrun⟩ := run_dispatch_tool (c := c) hname hcommand hroom s
  obtain ⟨cause, s', hfetch⟩ := run_fetch_of_not_accepts (c := c) hacc s
  have hreport := downloads_fetch c inv tool url s
  rw [hfetch] at hreport
  rw [hrun, hurls, run_mapM_cons, hfetch]
  exact hreport

end Shell

namespace Scene

variable {τ : Type} [Clock τ] {c : Scene τ}

def downloadRecord (c : Scene τ) (d : Shell.Download) : Events.Record :=
  c.record .download
    [("url", .text d.url), ("tool", .text d.tool.name),
      ("username", (c.session.user?.map Json.text).getD .null)]

theorem hands_noteDownload (h : c.station.Listening) (hopen : c.session.closing = false)
    (d : Shell.Download) : c.Hands [c.downloadRecord d] (c.noteDownload d) := by
  have hmeasured : (c.measure fun m => m.downloaded d.tool.name).station.Listening :=
    h.congr rfl rfl rfl
  have hemitted := hands_emit hmeasured .download (.inl hopen)
    [("url", .text d.url), ("tool", .text d.tool.name),
      ("username", (c.session.user?.map Json.text).getD .null)]
  exact ⟨hemitted.session, hemitted.listening, hemitted.handed⟩

/-- **An open session hands on one event for each download**, in the order of the downloads. -/
theorem hands_noteDownloads (h : c.station.Listening) (hopen : c.session.closing = false)
    (ds : List Shell.Download) :
    c.Hands (ds.map c.downloadRecord) (ds.foldl noteDownload c) := by
  induction ds generalizing c with
  | nil => exact ⟨rfl, h, (List.append_nil _).symm⟩
  | cons d ds ih =>
    have hfirst := hands_noteDownload h hopen d
    have hopen' : (c.noteDownload d).session.closing = false := by
      rw [hfirst.session]
      exact hopen
    have hrecord : (c.noteDownload d).downloadRecord = c.downloadRecord := by
      unfold downloadRecord record Session.heading
      rw [hfirst.session]
    have hrest := ih hfirst.listening hopen'
    refine ⟨?_, hrest.listening, ?_⟩
    · rw [List.foldl_cons, hrest.session, hfirst.session]
    · rw [List.foldl_cons, hrest.handed, hfirst.handed, hrecord, List.append_assoc]
      rfl

/-- The state in which a line leaves the shell of a session. -/
def shellAfter (c : Scene τ) (w : Workspace) (line : String) : Shell.State :=
  ((Shell.runLine ⟨c.session.device, w.user, c.session.id, c.session.peerIp, c.session.peerPort,
      c.station.seconds, none, Shell.callRoom⟩ line).run
    ⟨w.files, c.session.env, c.session.history, ⟨c.session.chances, c.station.noise⟩, []⟩).2

/-- A line that an open session runs hands on the events of its downloads. -/
theorem handed_runLine (h : c.station.Listening) (hopen : c.session.closing = false)
    (w : Workspace) (line : String) :
    (c.runLine w line).2.station.handed =
      c.station.handed ++ (c.shellAfter w line).downloads.map c.downloadRecord := by
  unfold runLine shellAfter
  dsimp only
  generalize (Shell.runLine _ line).run _ = run
  obtain ⟨result, after⟩ := run
  dsimp only
  rw [(hands_noteDownloads _ _ after.downloads).handed]
  · rfl
  · exact h.congr rfl rfl rfl
  · exact hopen

end Scene

open Shell in
/-- **What is reported and told of.** A dispatched `wget` or `curl` reports the locators among its
words in order and without gaps. It reports all of them exactly if none but the last one fails,
which is to say, as long as no date is missing, that the program can work with all locators but the
last one. For every report of a line an open session hands on one event. -/
theorem dispatch_reports_iff {τ : Type} [Clock τ] (tool : Tool) (c : Context) (inv : Invocation)
    (s : State) (hname : Text.hasChar inv.name '/' = false)
    (hcommand : Command.ofName? inv.command = some tool.command) :
    (∃ n, ((dispatch c inv).run s).2.downloads =
      s.downloads ++ reports tool ((locators inv.tokens).take n)) ∧
    (((dispatch c inv).run s).2.downloads = s.downloads ++ reports tool (locators inv.tokens) ↔
      locators inv.tokens = [] ∨
        2 ≤ c.room ∧ Steady (tool.fetch c inv) s (locators inv.tokens)) ∧
    (2 ≤ c.room → (∀ cause, ((dispatch c inv).run s).1 ≠ .error (.noDate cause)) →
      (Steady (tool.fetch c inv) s (locators inv.tokens) ↔
        ∀ url ∈ (locators inv.tokens).dropLast, tool.accepts inv url = true)) ∧
    ∀ (d : Scene τ) (w : Workspace) (line : String), d.station.Listening →
      d.session.closing = false →
      (d.runLine w line).2.station.handed =
        d.station.handed ++ (d.shellAfter w line).downloads.map d.downloadRecord :=
  ⟨downloads_dispatch hname hcommand s, downloads_dispatch_eq_iff hname hcommand s,
    steady_iff_of_dispatch hname hcommand s,
    fun _ w line h hopen => Scene.handed_runLine h hopen w line⟩

namespace Shell

/-- A superuser on a standard device. -/
def exampleContext : Context :=
  ⟨Persona.standard, "root", "", "203.0.113.9", 40000, 1700000000, none, callRoom⟩

/-- A shell on no files. -/
def exampleState : State := ⟨FileSystem.fresh [] "/" "/", [], [], ⟨.ofSeed 0, .ofSeed 0⟩, []⟩

/-- The command that fetches two locators, the first of them with a broken port. -/
def exampleCommand : Invocation := ⟨"", "wget", ["http://a:x/1", "http://b/2"]⟩

theorem dispatch_reports_example :
    (Text.hasChar exampleCommand.name '/' = false ∧
      Command.ofName? exampleCommand.command = some Tool.wget.command) ∧
    ∃ n, ((dispatch exampleContext exampleCommand).run exampleState).2.downloads =
      exampleState.downloads ++ reports .wget ((locators exampleCommand.tokens).take n) := by
  have hname : Text.hasChar exampleCommand.name '/' = false := by decide
  have hcommand : Command.ofName? exampleCommand.command = some Tool.wget.command := by decide
  have h := dispatch_reports_iff (τ := Int) .wget exampleContext exampleCommand exampleState
    hname hcommand
  exact ⟨⟨hname, hcommand⟩, h.1⟩

/-- A locator with a broken port takes the locator behind it along. -/
theorem dispatch_loses_locator :
    locators exampleCommand.tokens = ["http://a:x/1", "http://b/2"] ∧
    ((dispatch exampleContext exampleCommand).run exampleState).2.downloads =
      [⟨"http://a:x/1", .wget⟩] := by
  have hname : Text.hasChar exampleCommand.name '/' = false := by decide
  have hcommand : Command.ofName? exampleCommand.command = some Tool.wget.command := by decide
  have hurls : locators exampleCommand.tokens = ["http://a:x/1", "http://b/2"] := by decide
  have hacc : Tool.wget.accepts exampleCommand "http://a:x/1" = false := by decide
  have hroom : 2 ≤ exampleContext.room := by decide
  exact ⟨hurls, downloads_dispatch_of_not_accepts hname hcommand hroom hurls hacc exampleState⟩

end Shell

end Honeypot
