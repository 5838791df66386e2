import Honeypot.Shell.Context

/-!
# How computations run

Commands, looks and draws are computations on a state that may end in a fault. `run_bind` says what
a computation in two steps comes to. From it follow the facts that the proofs about commands are
made of: a computation `Keeps` a view of the state if each of its steps does, its faults lie
`FaultsWithin` a kind of fault if those of each of its steps do, and it `Gives` a result with a
property if each of its steps gives what the next one needs.
-/

namespace Honeypot

variable {ε σ α β γ : Type}

/-! ## Runs in steps -/

@[simp] theorem run_pure (a : α) (s : σ) :
    (pure a : ExceptT ε (StateM σ) α).run s = (.ok a, s) := rfl

@[simp] theorem run_lift (r : Except ε α) (s : σ) :
    (liftM r : ExceptT ε (StateM σ) α).run s = (r, s) := by
  cases r <;> rfl

theorem run_bind (m : ExceptT ε (StateM σ) α) (f : α → ExceptT ε (StateM σ) β) (s : σ) :
    (m >>= f).run s =
      match m.run s with
      | (.ok a, s) => (f a).run s
      | (.error e, s) => (.error e, s) := by
  rw [ExceptT.run_bind]
  show StateT.bind m.run _ s = _
  unfold StateT.bind
  rcases m.run s with ⟨r | r, s'⟩ <;> rfl

theorem run_bind_of_ok {m : ExceptT ε (StateM σ) α} {s s' : σ} {a : α}
    (h : m.run s = (.ok a, s')) (f : α → ExceptT ε (StateM σ) β) :
    (m >>= f).run s = (f a).run s' := by
  rw [run_bind, h]

theorem run_bind_of_error {m : ExceptT ε (StateM σ) α} {s s' : σ} {e : ε}
    (h : m.run s = (.error e, s')) (f : α → ExceptT ε (StateM σ) β) :
    (m >>= f).run s = (.error e, s') := by
  rw [run_bind, h]

theorem run_bind_pure (m : ExceptT ε (StateM σ) α) (f : α → β) (s : σ) :
    (m >>= fun a => pure (f a)).run s = ((m.run s).1.map f, (m.run s).2) := by
  rw [run_bind]
  rcases m.run s with ⟨e | a, s'⟩ <;> rfl

/-! ## What a run leaves alone -/

/-- A computation that does not change what a view shows of the state. -/
def Keeps (view : σ → γ) (m : ExceptT ε (StateM σ) α) : Prop :=
  ∀ s, view (m.run s).2 = view s

namespace Keeps

variable {view : σ → γ}

theorem pure (a : α) : Keeps view (pure a : ExceptT ε (StateM σ) α) := fun _ => rfl

theorem lift (r : Except ε α) : Keeps view (liftM r : ExceptT ε (StateM σ) α) := by
  intro s
  rw [run_lift]

theorem bind {m : ExceptT ε (StateM σ) α} {f : α → ExceptT ε (StateM σ) β}
    (hm : Keeps view m) (hf : ∀ a, Keeps view (f a)) : Keeps view (m >>= f) := by
  intro s
  have h := hm s
  rw [run_bind]
  rcases hr : m.run s with ⟨e | a, s'⟩
  · rw [hr] at h
    exact h
  · rw [hr] at h
    exact (hf a s').trans h

theorem ite {p : Prop} [Decidable p] {m n : ExceptT ε (StateM σ) α}
    (hm : Keeps view m) (hn : Keeps view n) : Keeps view (if p then m else n) := by
  split
  · exact hm
  · exact hn

/-- What holds of a view after a first step that keeps it, whether it is the last one or not. -/
theorem bind_view {P : γ → Prop} {m : ExceptT ε (StateM σ) α} (hm : Keeps view m)
    {f : α → ExceptT ε (StateM σ) β} {s : σ} {shown : γ} (hs : view s = shown) (hstop : P shown)
    (hf : ∀ a s', view s' = shown → P (view ((f a).run s').2)) :
    P (view ((m >>= f).run s).2) := by
  have hsame := (hm s).trans hs
  rw [run_bind]
  rcases hr : m.run s with ⟨e | a, s'⟩
  · rw [hr] at hsame
    exact hsame ▸ hstop
  · rw [hr] at hsame
    exact hf a s' hsame

/-- What a view shows after steps of which only the first one does not keep it. -/
theorem view_bind {m : ExceptT ε (StateM σ) α} {f : α → ExceptT ε (StateM σ) β}
    (hf : ∀ a, Keeps view (f a)) (s : σ) : view ((m >>= f).run s).2 = view (m.run s).2 := by
  rw [run_bind]
  rcases m.run s with ⟨e | a, s'⟩
  · rfl
  · exact hf a s'

end Keeps

/-! ## What a run may end in -/

/-- A computation all of whose faults have a property. -/
def FaultsWithin (P : ε → Prop) (m : ExceptT ε (StateM σ) α) : Prop :=
  ∀ s e s', m.run s = (.error e, s') → P e

namespace FaultsWithin

variable {P : ε → Prop}

theorem pure (a : α) : FaultsWithin P (pure a : ExceptT ε (StateM σ) α) := by
  intro s e s' h
  rw [run_pure] at h
  cases h

theorem lift {r : Except ε α} (hr : ∀ e, r = .error e → P e) :
    FaultsWithin P (liftM r : ExceptT ε (StateM σ) α) := by
  intro s e s' h
  rw [run_lift] at h
  exact hr e (Prod.ext_iff.mp h).1

theorem bind {m : ExceptT ε (StateM σ) α} {f : α → ExceptT ε (StateM σ) β}
    (hm : FaultsWithin P m) (hf : ∀ a, FaultsWithin P (f a)) : FaultsWithin P (m >>= f) := by
  intro s e s' h
  rw [run_bind] at h
  rcases hr : m.run s with ⟨e' | a, s''⟩
  · rw [hr] at h
    cases h
    exact hm s e s' hr
  · rw [hr] at h
    exact hf a s'' e s' h

theorem bind_lift {r : Except ε α} {a : α} (hr : r = .ok a)
    {f : α → ExceptT ε (StateM σ) β} (hf : FaultsWithin P (f a)) :
    FaultsWithin P (liftM r >>= f) := by
  intro s e s' h
  rw [run_bind, run_lift, hr] at h
  exact hf s e s' h

theorem ite {p : Prop} [Decidable p] {m n : ExceptT ε (StateM σ) α}
    (hm : FaultsWithin P m) (hn : FaultsWithin P n) : FaultsWithin P (if p then m else n) := by
  split
  · exact hm
  · exact hn

end FaultsWithin

/-! ### Draws -/

theorem faultsWithin_draw {P : Fault → Prop} : FaultsWithin P Draws.draw := by
  intro g e g' h
  cases h

theorem faultsWithin_between {P : Fault → Prop} (low high : Int) :
    FaultsWithin P (Draws.between low high) := .bind faultsWithin_draw fun _ => .pure _

theorem faultsWithin_uniform {P : Fault → Prop} (low high : Float) :
    FaultsWithin P (Draws.uniform low high) := .bind faultsWithin_draw fun _ => .pure _

/-! ## What a run gives -/

/-- A computation that always has a result, and one with a property. -/
def Gives (P : α → Prop) (m : ExceptT ε (StateM σ) α) : Prop :=
  ∀ s, ∃ a s', m.run s = (.ok a, s') ∧ P a

namespace Gives

variable {P : α → Prop} {Q : β → Prop}

theorem pure {a : α} (h : P a) : Gives P (pure a : ExceptT ε (StateM σ) α) := fun s =>
  ⟨a, s, rfl, h⟩

theorem bind {m : ExceptT ε (StateM σ) α} {f : α → ExceptT ε (StateM σ) β} (hm : Gives P m)
    (hf : ∀ a, P a → Gives Q (f a)) : Gives Q (m >>= f) := by
  intro s
  obtain ⟨a, s', hrun, ha⟩ := hm s
  rw [run_bind_of_ok hrun]
  exact hf a ha s'

theorem ite {p : Prop} [Decidable p] {m n : ExceptT ε (StateM σ) α}
    (hm : Gives P m) (hn : Gives P n) : Gives P (if p then m else n) := by
  split
  · exact hm
  · exact hn

theorem faultsWithin {m : ExceptT ε (StateM σ) α} (h : Gives P m) {Q : ε → Prop} :
    FaultsWithin Q m := by
  intro s e s' hfault
  obtain ⟨a, s'', hrun, _⟩ := h s
  cases hfault.symm.trans hrun

end Gives

theorem gives_between {low high : Int} (h : low ≤ high) :
    Gives (fun n => low ≤ n ∧ n ≤ high) (Draws.between low high) := by
  intro g
  refine ⟨Random.between low high g.next.bits, g.next, rfl, ?_⟩
  unfold Random.between
  have hspan : 0 < high - low + 1 := by omega
  have hlow := Int.emod_nonneg (g.next.bits : Int) (Int.ne_of_gt hspan)
  have hhigh := Int.emod_lt_of_pos (g.next.bits : Int) hspan
  omega

theorem gives_unit : Gives (fun _ => True) Draws.unit := fun g => ⟨_, g.next, rfl, trivial⟩

theorem gives_pick (first : α) (rest : List α) : Gives (fun _ => True) (Draws.pick first rest) :=
  fun g => ⟨_, g.next, rfl, trivial⟩

/-! ## Runs that agree -/

/-- A computation that another one agrees with, unless it ends in a given fault. -/
def AgreesUnless (e : ε) (m m' : ExceptT ε (StateM σ) α) : Prop :=
  ∀ s, (m.run s).1 = .error e ∨ m'.run s = m.run s

namespace AgreesUnless

variable {e : ε}

theorem refl (m : ExceptT ε (StateM σ) α) : AgreesUnless e m m := fun _ => .inr rfl

theorem of_eq {m m' : ExceptT ε (StateM σ) α} (h : m' = m) : AgreesUnless e m m' := fun _ =>
  .inr (by rw [h])

theorem lift {r r' : Except ε α} (h : r = .error e ∨ r' = r) :
    AgreesUnless e (liftM r : ExceptT ε (StateM σ) α) (liftM r') := by
  intro s
  rw [run_lift, run_lift]
  exact h.imp id fun heq => by rw [heq]

theorem bind {m m' : ExceptT ε (StateM σ) α} {f f' : α → ExceptT ε (StateM σ) β}
    (hm : AgreesUnless e m m') (hf : ∀ a, AgreesUnless e (f a) (f' a)) :
    AgreesUnless e (m >>= f) (m' >>= f') := by
  intro s
  obtain hfault | hrun := hm s
  · refine .inl ?_
    rw [run_bind]
    rcases hr : m.run s with ⟨e' | a, s'⟩
    · rw [hr] at hfault
      cases hfault
      rfl
    · rw [hr] at hfault
      cases hfault
  · rw [run_bind, run_bind, hrun]
    rcases m.run s with ⟨e' | a, s'⟩
    · exact .inr rfl
    · exact hf a s'

theorem ite {p : Prop} [Decidable p] {m m' n n' : ExceptT ε (StateM σ) α}
    (hm : AgreesUnless e m m') (hn : AgreesUnless e n n') :
    AgreesUnless e (if p then m else n) (if p then m' else n') := by
  split
  · exact hm
  · exact hn

end AgreesUnless

/-! ## Steps of commands -/

namespace Shell.Action

@[simp] theorem run_report (url : String) (tool : Tool) (s : State) :
    (report url tool).run s =
      (.ok (), { s with downloads := s.downloads ++ [⟨url, tool⟩] }) := rfl

@[simp] theorem run_files (s : State) : files.run s = (.ok s.files, s) := rfl

theorem run_look (m : State → Look α) (s : State) :
    (look m).run s =
      (((m s).run s.chances).1, { s with chances := ((m s).run s.chances).2 }) := rfl

theorem run_chance (m : Draws α) (s : State) :
    (chance m).run s =
      ((m.run s.chances.session).1,
        { s with chances := { s.chances with session := (m.run s.chances.session).2 } }) := rfl

theorem run_attempt (change : FileSystem → Except PathError FileSystem) (s : State) :
    (attempt change).run s =
      match change s.files with
      | .ok files => (.ok none, { s with files })
      | .error e => (.ok (some e.cause), s) := by
  unfold attempt files
  rw [run_bind]
  show (match change s.files with | .ok _ => _ | .error _ => _ : Action _).run s = _
  cases change s.files <;> rfl

theorem keeps_look {view : State → γ} (hview : ∀ s g, view { s with chances := g } = view s)
    (m : State → Look α) : Keeps view (look m) := by
  intro s
  rw [run_look]
  exact hview s _

theorem keeps_attempt {view : State → γ} (hview : ∀ s files, view { s with files } = view s)
    (change : FileSystem → Except PathError FileSystem) : Keeps view (attempt change) := by
  intro s
  rw [run_attempt]
  cases change s.files with
  | ok files => exact hview s files
  | error e => rfl

theorem faultsWithin_attempt {P : Fault → Prop}
    (change : FileSystem → Except PathError FileSystem) : FaultsWithin P (attempt change) := by
  intro s e s' h
  rw [run_attempt] at h
  cases hc : change s.files with
  | ok files => rw [hc] at h; cases h
  | error e => rw [hc] at h; cases h

theorem faultsWithin_look {P : Fault → Prop} {m : State → Look α}
    (hm : ∀ s, FaultsWithin P (m s)) : FaultsWithin P (look m) := by
  intro s e s' h
  rw [run_look] at h
  exact hm s s.chances e _ (Prod.ext (Prod.ext_iff.mp h).1 rfl)

theorem faultsWithin_noise {P : Fault → Prop} {m : Draws α} (hm : FaultsWithin P m) :
    FaultsWithin P (Look.noise m) := by
  intro g e g' h
  exact hm g.noise e _ (Prod.ext (Prod.ext_iff.mp h).1 rfl)

theorem faultsWithin_chance {P : Fault → Prop} {m : Draws α} (hm : FaultsWithin P m) :
    FaultsWithin P (chance m) := by
  intro s e s' h
  rw [run_chance] at h
  exact hm s.chances.session e _ (Prod.ext (Prod.ext_iff.mp h).1 rfl)

end Shell.Action

end Honeypot
