import Honeypot.Service
import Honeypot.Proofs.Session.Standing

/-!
# Runs of a service

A service is asked to do one thing after another: sessions begin, arrive and do their deeds, work
that was put off is done, places are given to others and taken away, everybody is sent away. In
between, the surroundings change: time passes, channels and the pool fail, replies and sinks differ.
Of all this the `roll` keeps where the sessions stand and what is kept about them together.
`change_after` says how an act changes it; a shutdown is a row of closings (`shutDown_induction`).
-/

namespace Honeypot

/-- The session with other equipment, which is anything but who it is and how far it has come. -/
def Session.equipped {τ : Type} (s t : Session τ) : Session τ :=
  { t with
    number := s.number, id := s.id, peerIp := s.peerIp, status := s.status
    admitted := s.admitted, closing := s.closing, closed := s.closed }

/-- The station in other surroundings, which are anything but the registry and the measurements. -/
def Station.surrounded {τ : Type} (s t : Station τ) : Station τ :=
  { t with registry := s.registry, metrics? := s.metrics? }

namespace Service

/-- What may happen to a service. -/
inductive Act (τ : Type) where
  /-- A session begins, which has not arrived yet. -/
  | begin (id peerIp : String) (peerPort : Int) (device : Persona) (idleTimeout delay : τ)
      (servesLoopback : Bool) (chances : Random)
  | arrive (number : Nat)
  | deed (number : Nat) (deed : Scene.Deed)
  /-- A channel or the shell begins to fail, somebody wants to hear of the end, a wait is going to
  be cut short. -/
  | equip (number : Nat) (change : Session τ → Session τ)
  /-- Time passes, or the pool, the sink or the replies of the services are different ones. -/
  | surround (change : Station τ → Station τ)
  | runQueue
  | admitObserver (id ip : String)
  | remove (id : String)
  | shutDown (grace : τ)

variable {τ : Type}

/-- The session that does an act by itself. -/
def Act.actor? : Act τ → Option Nat
  | .arrive number => some number
  | .deed number _ => some number
  | _ => none

/-- The identifier of the session that an act begins. -/
def Act.newId? : Act τ → Option String
  | .begin id _ _ _ _ _ _ _ => some id
  | _ => none

def actors (acts : List (Act τ)) : List Nat := acts.filterMap Act.actor?

/-- The identifiers of the sessions that begin, the first one first. -/
def newIds (acts : List (Act τ)) : List String := acts.filterMap Act.newId?

/-- Whether a session arrives at most once, and before it does anything else. -/
def ArrivesFirst (acts : List (Act τ)) (number : Nat) : Prop :=
  acts.Pairwise fun earlier later => later = .arrive number → earlier.actor? ≠ some number

def opened (station : Station τ) (limit peerLimit : Int) : Service τ :=
  ⟨{ station with registry := .empty limit peerLimit }, []⟩

variable [Clock τ]

def after (s : Service τ) : Act τ → Service τ
  | .begin id peerIp peerPort device idleTimeout delay servesLoopback chances =>
    s.begin fun number now =>
      .fresh number id peerIp peerPort device idleTimeout delay servesLoopback now chances
  | .arrive number => (s.act number Scene.arrive).2
  | .deed number deed => (s.act number fun c => ((), c.after deed)).2
  | .equip number change =>
    (s.act number fun c => ((), { c with session := c.session.equipped (change c.session) })).2
  | .surround change => { s with station := s.station.surrounded (change s.station) }
  | .runQueue => s.runQueue.2
  | .admitObserver id ip => (s.admitObserver id ip).2
  | .remove id => (s.remove id).2
  | .shutDown grace => (s.shutDown grace).2

def run (s : Service τ) (acts : List (Act τ)) : Service τ := acts.foldl after s

end Service

/-! ## The roll -/

/-- All sessions as they see one another. -/
structure Roll where
  standings : List Standing
  books : Books

namespace Roll

def joined (r : Roll) (id peerIp : String) : Roll :=
  { r with standings := r.standings ++ [.fresh r.standings.length id peerIp] }

def entered (r : Roll) (number : Nat) (a : Account) : Roll :=
  ⟨r.standings.set number a.standing, a.books⟩

/-- How an act that is no shutdown changes a roll. -/
inductive Change {τ : Type} (r : Roll) : Service.Act τ → Roll → Prop
  | idle {act : Service.Act τ} (old : act.newId? = none) : Change r act r
  | begins {id peerIp peerPort device idleTimeout delay servesLoopback chances} :
    Change r (.begin id peerIp peerPort device idleTimeout delay servesLoopback chances)
      (r.joined id peerIp)
  | turnsAway {number : Nat} {a : Standing} (found : r.standings[number]? = some a)
      {verdict : String} (refused : verdict ≠ Metrics.accepted) :
    Change r (.arrive number) (r.entered number (Account.turnedAway ⟨a, r.books⟩ verdict))
  | letsIn {number : Nat} {a : Standing} (found : r.standings[number]? = some a)
      {registry : Registry}
      (room : r.books.registry.enter a.id ⟨a.peerIp, .session a.number⟩ = .ok registry) :
    Change r (.arrive number) (r.entered number (Account.letIn ⟨a, r.books⟩ registry))
  | fares {number : Nat} {a : Standing} (found : r.standings[number]? = some a)
      {deed : Scene.Deed} {b : Account} (fate : Account.Fate ⟨a, r.books⟩ b) :
    Change r (.deed number deed) (r.entered number b)
  | admits {id ip : String} {registry : Registry}
      (room : r.books.registry.enter id ⟨ip, .observer⟩ = .ok registry) :
    Change r (.admitObserver id ip) { r with books.registry := registry }
  | removes {id : String} {registry : Registry}
      (taken : r.books.registry.leave? id = some registry) :
    Change r (.remove id) { r with books.registry := registry }

theorem entered_self {r : Roll} {number : Nat} {a : Standing}
    (found : r.standings[number]? = some a) : r.entered number ⟨a, r.books⟩ = r := by
  obtain ⟨hlt, rfl⟩ := List.getElem?_eq_some_iff.mp found
  unfold entered
  rw [List.set_getElem_self]

theorem map_entered {r : Roll} {number : Nat} {a : Standing}
    (found : r.standings[number]? = some a) {β : Type} {f : Standing → β} {b : Account}
    (hsame : f b.standing = f a) :
    (r.entered number b).standings.map f = r.standings.map f := by
  obtain ⟨hlt, rfl⟩ := List.getElem?_eq_some_iff.mp found
  have hlt' : number < (r.standings.map f).length := by rwa [List.length_map]
  have hat : (r.standings.map f)[number] = f r.standings[number] := List.getElem_map f
  unfold entered
  rw [List.map_set, hsame, ← hat, List.set_getElem_self]

theorem getElem?_entered {r : Roll} {number : Nat} {a : Standing}
    (found : r.standings[number]? = some a) (b : Account) (i : Nat) :
    (r.entered number b).standings[i]? =
      if i = number then some b.standing else r.standings[i]? := by
  have hlt := (List.getElem?_eq_some_iff.mp found).1
  unfold entered
  rw [List.getElem?_set, if_pos hlt]
  simp only [eq_comm]

theorem getElem?_joined {r : Roll} {id peerIp : String} {i : Nat} {a : Standing}
    (found : (r.joined id peerIp).standings[i]? = some a) :
    r.standings[i]? = some a ∨
      i = r.standings.length ∧ a = .fresh r.standings.length id peerIp := by
  unfold joined at found
  rw [List.getElem?_append] at found
  split at found
  · exact .inl found
  · obtain ⟨hi, rfl⟩ := List.getElem?_eq_some_iff.mp found
    rw [List.length_singleton] at hi
    exact .inr ⟨by omega, List.getElem_singleton _⟩

/-- A roll on which every session stands at its number. -/
def Numbered (r : Roll) : Prop := ∀ i (a : Standing), r.standings[i]? = some a → a.number = i

theorem Numbered.joined {r : Roll} (h : r.Numbered) (id peerIp : String) :
    (r.joined id peerIp).Numbered := by
  intro i a ha
  obtain ha | ⟨rfl, rfl⟩ := getElem?_joined ha
  · exact h i a ha
  · rfl

theorem Numbered.entered {r : Roll} (h : r.Numbered) {number : Nat} {a : Standing}
    (found : r.standings[number]? = some a) {b : Account}
    (same : b.standing.number = a.number) : (r.entered number b).Numbered := by
  intro i c hc
  rw [getElem?_entered found] at hc
  split at hc
  · next hi =>
    cases hc
    rw [same, hi]
    exact h number a found
  · exact h i c hc

theorem Change.ids {τ : Type} {r r' : Roll} {act : Service.Act τ} (h : r.Change act r') :
    r'.standings.map Standing.id = r.standings.map Standing.id ++ act.newId?.toList := by
  cases h with
  | idle old =>
    rw [old]
    exact (List.append_nil _).symm
  | begins => exact List.map_append
  | turnsAway found _ => exact (map_entered found rfl).trans (List.append_nil _).symm
  | letsIn found _ => exact (map_entered found rfl).trans (List.append_nil _).symm
  | fares found fate =>
    refine (map_entered found ?_).trans (List.append_nil _).symm
    cases fate <;> rfl
  | admits _ => exact (List.append_nil _).symm
  | removes _ => exact (List.append_nil _).symm

end Roll

namespace Service

variable {τ : Type}

def roll (s : Service τ) : Roll := ⟨s.sessions.map Session.standing, s.station.books⟩

variable {s : Service τ}

/-! ## Acts of one session -/

theorem act_of_none {number : Nat} (h : s.sessions[number]? = none) {α : Type}
    (f : Scene τ → α × Scene τ) : (s.act number f).2 = s := by
  unfold act
  rw [h]

theorem roll_act {number : Nat} {session : Session τ} (h : s.sessions[number]? = some session)
    {α : Type} (f : Scene τ → α × Scene τ) :
    (s.act number f).2.roll = s.roll.entered number (f ⟨session, s.station⟩).2.account := by
  unfold act
  rw [h]
  show Roll.mk ((s.sessions.set number _).map Session.standing) _ = _
  rw [List.map_set]
  rfl

theorem standings_of_session {number : Nat} {session : Session τ}
    (h : s.sessions[number]? = some session) :
    s.roll.standings[number]? = some session.standing := by
  show (s.sessions.map Session.standing)[number]? = _
  rw [List.getElem?_map, h]
  rfl

theorem roll_act_of_account {number : Nat} {α : Type} {f : Scene τ → α × Scene τ}
    (h : ∀ c, (f c).2.account = c.account) : (s.act number f).2.roll = s.roll := by
  cases hfound : s.sessions[number]? with
  | none => rw [act_of_none hfound]
  | some session =>
    rw [roll_act hfound, h]
    exact Roll.entered_self (standings_of_session hfound)

variable [Clock τ]

theorem roll_runQueue (s : Service τ) : s.runQueue.2.roll = s.roll := by
  show (s.station.queue.foldl carryOut { s with station.queue := [] }).roll = s.roll
  have hcleared : ({ s with station.queue := [] } : Service τ).roll = s.roll := rfl
  rw [← hcleared]
  generalize ({ s with station.queue := [] } : Service τ) = t
  induction s.station.queue generalizing t with
  | nil => rfl
  | cons job jobs ih =>
    rw [List.foldl_cons, ih]
    exact roll_act_of_account fun c => Scene.account_carryOut c job.number job.task

/-- **How an act changes the roll**, if it is no shutdown. -/
theorem change_after (s : Service τ) {act : Act τ} (hact : ∀ grace, act ≠ .shutDown grace) :
    s.roll.Change act (s.after act).roll := by
  cases act with
  | begin id peerIp peerPort device idleTimeout delay servesLoopback chances =>
    have hjoined : (s.after (.begin id peerIp peerPort device idleTimeout delay servesLoopback
        chances)).roll = s.roll.joined id peerIp := by
      unfold after begin roll Roll.joined
      rw [List.map_append, List.length_map]
      rfl
    rw [hjoined]
    exact .begins
  | arrive number =>
    cases hfound : s.sessions[number]? with
    | none =>
      unfold after
      dsimp only
      rw [act_of_none hfound]
      exact .idle rfl
    | some session =>
      have hstanding := standings_of_session hfound
      unfold after
      dsimp only
      rw [roll_act hfound]
      obtain ⟨_, verdict, hrefused, haccount⟩ | ⟨_, registry, hroom, haccount⟩ :=
        Scene.arrive_cases ⟨session, s.station⟩
      · rw [haccount]
        exact .turnsAway hstanding hrefused
      · rw [haccount]
        exact .letsIn hstanding hroom
  | deed number deed =>
    cases hfound : s.sessions[number]? with
    | none =>
      unfold after
      dsimp only
      rw [act_of_none hfound]
      exact .idle rfl
    | some session =>
      unfold after
      dsimp only
      rw [roll_act hfound]
      exact .fares (standings_of_session hfound) (Scene.fate_after ⟨session, s.station⟩ deed)
  | equip number change =>
    unfold after
    dsimp only
    rw [roll_act_of_account fun _ => rfl]
    exact .idle rfl
  | surround change => exact .idle rfl
  | runQueue =>
    unfold after
    dsimp only
    rw [roll_runQueue]
    exact .idle rfl
  | admitObserver id ip =>
    unfold after admitObserver
    dsimp only
    split
    · next registry hroom => exact .admits hroom
    · exact .idle rfl
  | remove id =>
    unfold after remove
    dsimp only
    split
    · next registry htaken => exact .removes htaken
    · exact .idle rfl
  | shutDown grace => exact absurd rfl (hact grace)

/-! ## Shutdown -/

/-- What is done to the holder of a place when everybody is sent away. -/
def dismissal (entry : String × Place) : Act τ :=
  match entry.2.holder with
  | .session number => .deed number (.close "shutdown")
  | .observer => .surround fun t =>
    { t with notices := t.notices ++ [.told entry.1 "shutdown"] }

theorem dismiss_eq (s : Service τ) (entry : String × Place) :
    s.dismiss entry = s.after (dismissal entry) := by
  obtain ⟨id, ip, holder⟩ := entry
  cases holder with
  | session number =>
    show (s.act number fun c => c.close "shutdown").2 =
      (s.act number fun c => ((), (c.close "shutdown").2)).2
    unfold act
    cases s.sessions[number]? with
    | none => rfl
    | some session => rfl
  | observer => rfl

theorem books_waitUntil (s : Station τ) (time : τ) (rounds : Nat) :
    (s.waitUntil time rounds).books = s.books := by
  induction rounds generalizing s with
  | zero => rfl
  | succ rounds ih =>
    unfold Station.waitUntil
    dsimp only
    split
    · rfl
    · rw [ih]
      rfl

theorem roll_shutDown (s : Service τ) (grace : τ) :
    (s.shutDown grace).2.roll = (s.station.registry.places.foldl dismiss s).roll := by
  unfold shutDown
  dsimp only
  split
  · rfl
  · show Roll.mk _ (Station.waitUntil _ _ _).books = _
    rw [books_waitUntil]
    rfl

/-- **A shutdown closes the sessions that hold a place**, one after the other, and does no more. -/
theorem shutDown_induction {P : Roll → Prop} (h : P s.roll) (grace : τ)
    (hclose : ∀ id place number, (id, place) ∈ s.station.registry.places →
      place.holder = .session number → ∀ r r',
      r.Change (.deed number (.close "shutdown") : Act τ) r' → P r → P r') :
    P (s.after (.shutDown grace)).roll := by
  have hall (entries : List (String × Place)) (hentries : entries ⊆ s.station.registry.places)
      (t : Service τ) (ht : P t.roll) : P (entries.foldl dismiss t).roll := by
    induction entries generalizing t with
    | nil => exact ht
    | cons entry entries ih =>
      obtain ⟨id, ip, holder⟩ := entry
      obtain ⟨hentry, hrest⟩ := List.cons_subset.mp hentries
      refine ih hrest _ ?_
      rw [dismiss_eq]
      cases holder with
      | session number =>
        exact hclose id _ number hentry rfl _ _ (change_after t nofun) ht
      | observer => exact ht
  show P (s.shutDown grace).2.roll
  rw [roll_shutDown]
  exact hall _ (List.Subset.refl _) s h

/-! ## Runs -/

theorem run_concat (s : Service τ) (acts : List (Act τ)) (act : Act τ) :
    s.run (acts ++ [act]) = (s.run acts).after act := List.foldl_append

theorem filterMap_concat {α β : Type} (f : α → Option β) (l : List α) (a : α) :
    (l ++ [a]).filterMap f = l.filterMap f ++ (f a).toList := by
  rw [List.filterMap_append]
  cases ha : f a <;> simp [ha]

omit [Clock τ] in
theorem actors_concat (acts : List (Act τ)) (act : Act τ) :
    actors (acts ++ [act]) = actors acts ++ act.actor?.toList := filterMap_concat ..

omit [Clock τ] in
theorem newIds_concat (acts : List (Act τ)) (act : Act τ) :
    newIds (acts ++ [act]) = newIds acts ++ act.newId?.toList := filterMap_concat ..

omit [Clock τ] in
theorem arrivesFirst_concat_iff {acts : List (Act τ)} {act : Act τ} {number : Nat} :
    ArrivesFirst (acts ++ [act]) number ↔
      ArrivesFirst acts number ∧ (act = .arrive number → number ∉ actors acts) := by
  unfold ArrivesFirst actors
  rw [List.pairwise_append, List.mem_filterMap]
  simp only [List.pairwise_singleton, List.mem_singleton, forall_eq, true_and]
  grind

/-- Two peers arrive from one address, and the first one leaves. -/
def exampleActs : List (Act Int) :=
  [.begin "a" "203.0.113.9" 40000 Persona.standard 300 0 true (.ofSeed 7), .arrive 0,
    .begin "b" "203.0.113.9" 40001 Persona.standard 300 0 true (.ofSeed 8), .arrive 1,
    .deed 0 (.close "disconnect")]

theorem arrivesFirst_exampleActs (number : Nat) : ArrivesFirst exampleActs number := by
  simp [ArrivesFirst, exampleActs, Act.actor?]
  omega

end Service
end Honeypot
