import Honeypot.Proofs.Session.Moves

/-!
# Where a session stands

What the sessions of a service have to do with one another is little: where each of them stands, the
registry, and the numbers of sessions and connections that are measured. This is the `account` of a
scene. Moves change it in two ways only, by logging in and by ending the session (`fate_moves`), and
an arrival by turning the peer away or letting it in (`arrive_cases`).
-/

namespace Honeypot

/-- Who a session is and how far it has come. -/
structure Standing where
  number : Nat
  id : String
  peerIp : String
  status : Status
  admitted : Bool
  closing : Bool
  closed : Bool

def Standing.fresh (number : Nat) (id peerIp : String) : Standing :=
  ⟨number, id, peerIp, .connecting, false, false, false⟩

/-- Whether nothing has become of a session yet. -/
structure Standing.Untouched (a : Standing) : Prop where
  status : a.status = .connecting
  admitted : a.admitted = false
  closing : a.closing = false
  closed : a.closed = false

theorem Standing.untouched_fresh (number : Nat) (id peerIp : String) :
    (fresh number id peerIp).Untouched := ⟨rfl, rfl, rfl, rfl⟩

def Session.standing {τ : Type} (s : Session τ) : Standing where
  number := s.number
  id := s.id
  peerIp := s.peerIp
  status := s.status
  admitted := s.admitted
  closing := s.closing
  closed := s.closed

namespace Metrics

structure Heads where
  active : Nat
  gauge : Int
  connections : Tally

def Collector.heads (c : Collector) : Heads := ⟨c.active, c.gauge, c.connections⟩

namespace Heads

def connected (h : Heads) (verdict : String) : Heads :=
  { h with connections := h.connections.add verdict }

def started (h : Heads) : Heads := { h with active := h.active + 1, gauge := h.gauge + 1 }

def left (h : Heads) : Heads := { h with active := h.active - 1, gauge := h.gauge - 1 }

end Heads

end Metrics

/-- What is kept about all sessions together. -/
structure Books where
  registry : Registry
  heads? : Option Metrics.Heads

def Station.books {τ : Type} (s : Station τ) : Books :=
  ⟨s.registry, s.metrics?.map Metrics.Collector.heads⟩

/-- A session as the others see it. -/
structure Account where
  standing : Standing
  books : Books

namespace Account

def loggedIn (a : Account) : Account := { a with standing.status := .interactive }

def signedOff (a : Account) : Account where
  standing := a.standing
  books :=
    if a.standing.admitted then
      ⟨a.books.registry.leave a.standing.id, a.books.heads?.map Metrics.Heads.left⟩
    else a.books

def ended (a : Account) : Account :=
  { a.signedOff with
    standing := { a.standing with status := .closed, closing := true, closed := true } }

def turnedAway (a : Account) (verdict : String) : Account where
  standing := { a.standing with status := .closed, closed := true }
  books := { a.books with heads? := a.books.heads?.map fun h => h.connected verdict }

def letIn (a : Account) (registry : Registry) : Account where
  standing := { a.standing with status := .authenticating, admitted := true }
  books := ⟨registry, a.books.heads?.map fun h => (h.connected Metrics.accepted).started⟩

/-- What may become of a session that has arrived. -/
inductive Fate (a : Account) : Account → Prop
  | same : Fate a a
  | loggedIn (hopen : a.standing.closed = false) : Fate a a.loggedIn
  | ended (hopen : a.standing.closing = false) : Fate a a.ended

theorem Fate.trans {a b c : Account} (hab : Fate a b) (hbc : Fate b c) : Fate a c := by
  cases hab with
  | same => exact hbc
  | loggedIn hopen =>
    -- the end of a session forgets whether somebody was logged in
    cases hbc with
    | same => exact .loggedIn hopen
    | loggedIn _ => exact .loggedIn hopen
    | ended hopen => exact .ended hopen
  | ended hopen =>
    cases hbc with
    | same => exact .ended hopen
    | loggedIn hnever => cases hnever
    | ended hnever => cases hnever

end Account

namespace Scene

variable {τ : Type} {c d : Scene τ} {R : String → Prop}

def account (c : Scene τ) : Account := ⟨c.session.standing, c.station.books⟩

/-! ## Parts of moves -/

theorem account_hangUp (c : Scene τ) : c.hangUp.account = c.account := by
  unfold hangUp
  split
  · rfl
  · rfl

/-- What is measured changes the numbers of sessions and connections as it changes the heads. -/
theorem account_measure (c : Scene τ) {f : Metrics.Collector → Metrics.Collector}
    {g : Metrics.Heads → Metrics.Heads} (h : ∀ m, (f m).heads = g m.heads) :
    (c.measure f).account =
      { c.account with books.heads? := c.account.books.heads?.map g } := by
  unfold account measure Station.measure Station.books
  rw [Option.map_map, Option.map_map]
  congr 3
  funext m
  exact h m

theorem account_reject (c : Scene τ) (verdict : String) :
    (c.reject verdict).account = c.account.turnedAway verdict := by
  unfold reject
  dsimp only
  rw [account_measure (g := fun h => h.connected verdict) _ fun _ => rfl]
  rfl

variable [Clock τ]

theorem account_perform (c : Scene τ) (task : Task) : (c.perform task).1.account = c.account := by
  cases task with
  | emit r =>
    unfold perform Station.tell
    dsimp only
    split
    · rfl
    · rfl
  | lookUp =>
    have hbooks : (c.station.lookUp c.session.peerIp).1.books = c.station.books := by
      unfold Station.lookUp
      split
      · rfl
      · rfl
    unfold perform
    dsimp only
    split
    · exact congrArg (Account.mk c.session.standing) hbooks
    · exact congrArg (Account.mk c.session.standing) hbooks
    · exact congrArg (Account.mk c.session.standing) hbooks

theorem account_carryOut (c : Scene τ) (number : Nat) (task : Task) :
    (c.carryOut number task).account = c.account := by
  have hperformed := account_perform c task
  unfold carryOut
  dsimp only
  split
  · exact hperformed
  · exact hperformed

theorem account_submit (c : Scene τ) (task : Task) : (c.submit task).account = c.account := by
  unfold submit
  cases c.station.pool with
  | shut => rfl
  | later => rfl
  | atOnce => exact account_carryOut _ c.station.jobs task

theorem account_emit (c : Scene τ) (kind : Events.Kind) (fields : List (String × Json)) :
    (c.emit kind fields).account = c.account := by
  unfold emit
  split
  · rfl
  · exact account_submit c _

theorem account_touch (c : Scene τ) : c.touch.account = c.account := by
  unfold touch
  split
  · rfl
  · rfl

theorem account_signOff (c : Scene τ) (reason : String) :
    (c.signOff reason).account = c.account.signedOff := by
  unfold signOff Account.signedOff
  change _ = Account.mk c.session.standing (if c.session.admitted then _ else _)
  split
  · dsimp only
    rw [account_measure (g := Metrics.Heads.left) _ fun _ => rfl, account_emit]
    rfl
  · rfl

/-! ## Moves -/

theorem account_ended (h : c.session.closing = false) (reason : String) :
    (c.ended reason).account = c.account.ended := by
  have hsigned : ((c.beginClosing reason).hangUp.signOff reason).account =
      (c.beginClosing reason).account.signedOff := by
    rw [account_signOff, account_hangUp]
  have hclosed : (c.ended reason).account =
      { ((c.beginClosing reason).hangUp.signOff reason).account with
        standing.status := .closed } := by
    unfold ended close
    rw [if_neg (Bool.eq_false_iff.mp h)]
    rfl
  rw [hclosed, hsigned]
  rfl

theorem fate_move (h : Move R c d) : Account.Fate c.account d.account := by
  cases h with
  | work hsession hstation _ =>
    have hsame : d.account = c.account := by
      unfold account
      rw [hsession, hstation]
      rfl
    rw [hsame]
    exact .same
  | touch =>
    rw [account_touch]
    exact .same
  | logIn user =>
    unfold logIn
    split
    · exact .same
    · next hopen => exact .loggedIn (Bool.eq_false_iff.mpr hopen)
  | measure f hsessions hconnections =>
    have hheads (m : Metrics.Collector) : (f m).heads = id m.heads := by
      unfold Metrics.Collector.heads
      rw [(hsessions m).1, (hsessions m).2, hconnections m]
      rfl
    rw [account_measure c hheads, Option.map_id]
    exact .same
  | tell kind fields _ _ =>
    rw [account_emit]
    exact .same
  | finish reason _ =>
    cases hclosing : c.session.closing with
    | true =>
      unfold ended
      rw [close_of_closing hclosing]
      exact .same
    | false =>
      rw [account_ended hclosing]
      exact .ended hclosing

theorem fate_moves (h : Moves R c d) : Account.Fate c.account d.account := by
  induction h with
  | refl => exact .same
  | tail _ hmove ih => exact ih.trans (fate_move hmove)

/-- **No deed does more than to log in or to end the session.** -/
theorem fate_after (c : Scene τ) (deed : Deed) : Account.Fate c.account (c.after deed).account :=
  fate_moves (moves_after c deed)

/-! ## Arrival -/

theorem account_settleIn (c : Scene τ) : c.settleIn.account = c.account := by
  have hasked : (if c.station.lookups?.isSome then c.submit .lookUp else c).account =
      c.account := by
    split
    · exact account_submit c .lookUp
    · rfl
  unfold settleIn
  dsimp only
  generalize (if c.station.lookups?.isSome then c.submit .lookUp else c) = d at hasked
  have htouched : d.touch.account = c.account := (account_touch d).trans hasked
  split
  · exact htouched
  · exact htouched

theorem account_serve (c : Scene τ) (registry : Registry) :
    (c.serve registry).account = c.account.letIn registry := by
  rw [serve_eq, account_settleIn, account_emit]
  unfold placed
  rw [account_measure (g := fun h => (h.connected Metrics.accepted).started) _ fun _ => rfl]
  rfl

/-- **An arrival turns the peer away or lets it in**, and only in the second case takes a place. -/
theorem arrive_cases (c : Scene τ) :
    (c.arrive.1 = false ∧ ∃ verdict, verdict ≠ Metrics.accepted ∧
      c.arrive.2.account = c.account.turnedAway verdict) ∨
    (c.arrive.1 = true ∧ ∃ registry,
      c.station.registry.enter c.session.id ⟨c.session.peerIp, .session c.session.number⟩ =
        .ok registry ∧ c.arrive.2.account = c.account.letIn registry) := by
  unfold arrive
  dsimp only
  split
  · exact .inl ⟨rfl, _, by decide, account_reject c _⟩
  · split
    · exact .inl ⟨rfl, _, by decide, account_reject c _⟩
    · next registry hok => exact .inr ⟨rfl, registry, hok, account_serve c registry⟩

end Scene
end Honeypot
