import Honeypot.Regex.Parser

/-!
# Room for groups

How much room there is for groups to lie in one another decides nothing but whether reading a
pattern gives up. Two readings are `Alike` if the second one does with more room what the first one
does, unless the first one lacks room. Every step of reading is alike to itself, and so is the whole
(`parse_add`).
-/

namespace Honeypot.Regex

variable {α β : Type} {more : Nat}

def Progress.roomier (p : Progress) (more : Nat) : Progress := { p with room := p.room + more }

@[simp] theorem rest_roomier (p : Progress) : (p.roomier more).rest = p.rest := rfl

@[simp] theorem names_roomier (p : Progress) : (p.roomier more).names = p.names := rfl

@[simp] theorem behindFrom_roomier (p : Progress) :
    (p.roomier more).behindFrom = p.behindFrom := rfl

@[simp] theorem flags_roomier (p : Progress) : (p.roomier more).flags = p.flags := rfl

/-- A reading does with more room what another one does, unless that one lacks room. -/
def Alike (more : Nat) (m m' : Read α) : Prop :=
  ∀ p, m.run p = .error .tooDeep ∨
    m'.run (p.roomier more) = (m.run p).map fun (a, q) => (a, q.roomier more)

namespace Alike

/-! ## Steps -/

theorem pure (a : α) : Alike more (pure a) (pure a) := fun _ => .inr rfl

theorem throw (e : Fault) : Alike more (throw e : Read α) (throw e) := fun _ => .inr rfl

theorem refuse : Alike more (refuse : Read α) refuse := throw _

theorem bind {m m' : Read α} {f f' : α → Read β} (hm : Alike more m m')
    (hf : ∀ a, Alike more (f a) (f' a)) : Alike more (m >>= f) (m' >>= f') := by
  intro p
  obtain hdeep | hrun := hm p
  · refine .inl ?_
    rw [StateT.run_bind, hdeep]
    rfl
  · rw [StateT.run_bind, StateT.run_bind, hrun]
    rcases m.run p with e | ⟨a, q⟩
    · exact .inr rfl
    · exact hf a q

/-- A step that looks at the progress may not look at the room. -/
theorem get_bind {f f' : Progress → Read β} (h : ∀ p, Alike more (f p) (f' (p.roomier more))) :
    Alike more (get >>= f) (get >>= f') := fun p => h p p

theorem set (p : Progress) : Alike more (set p) (set (p.roomier more)) := fun _ => .inr rfl

theorem modify {g : Progress → Progress} (h : ∀ p, g (p.roomier more) = (g p).roomier more) :
    Alike more (modify g) (modify g) := by
  intro p
  refine .inr ?_
  show Except.ok ((), g (p.roomier more)) = .ok ((), (g p).roomier more)
  rw [h]

theorem ite {p : Prop} [Decidable p] {m m' n n' : Read α} (hm : Alike more m m')
    (hn : Alike more n n') : Alike more (if p then m else n) (if p then m' else n') := by
  split
  · exact hm
  · exact hn

theorem ite_bind {p : Prop} [Decidable p] {m m' n n' : Read α} {f f' : α → Read β}
    (hm : Alike more m m') (hn : Alike more n n') (hf : ∀ a, Alike more (f a) (f' a)) :
    Alike more (if p then m >>= f else n >>= f) (if p then m' >>= f' else n' >>= f') :=
  ite (bind hm hf) (bind hn hf)

theorem when_bind {p : Prop} [Decidable p] {m m' : Read Unit} {f f' : Unit → Read β}
    (hm : Alike more m m') (hf : ∀ a, Alike more (f a) (f' a)) :
    Alike more (if p then m >>= f else f ()) (if p then m' >>= f' else f' ()) :=
  ite (bind hm hf) (hf ())

/-! ## Characters -/

theorem spoil : Alike more spoil spoil := modify fun _ => rfl

theorem peek : Alike more peek peek := get_bind fun _ => pure _

theorem take? : Alike more take? take? := by
  refine get_bind fun p => ?_
  simp only [rest_roomier]
  cases p.rest with
  | nil => exact pure _
  | cons c rest => exact bind (set _) fun _ => pure _

theorem accept (c : Char) : Alike more (accept c) (accept c) := by
  refine get_bind fun p => ?_
  simp only [rest_roomier]
  cases p.rest with
  | nil => exact pure _
  | cons d rest => exact ite (bind (set _) fun _ => pure _) (pure _)

theorem takeWhile (most : Nat) (holds : Char → Bool) :
    Alike more (takeWhile most holds) (takeWhile most holds) :=
  get_bind fun _ => bind (set _) fun _ => pure _

theorem takeUntil (sign : Char) : Alike more (takeUntil sign) (takeUntil sign) := by
  refine get_bind fun p => ?_
  simp only [rest_roomier]
  cases Text.cutFirst sign p.rest with
  | none => exact refuse
  | some cut => exact ite refuse (bind (set _) fun _ => pure _)

theorem skipComment (sign : Char) : Alike more (skipComment sign) (skipComment sign) := by
  refine get_bind fun p => ?_
  simp only [rest_roomier]
  cases fromSign? sign p.rest with
  | none => exact refuse
  | some rest => exact set _

theorem closing : Alike more closing closing := bind (accept _) fun _ => ite (pure _) refuse

/-! ## Groups -/

/-- What reading deeper comes to, by what is read. -/
theorem run_deeper (steps : Nat) (inside : Read α) (p : Progress) :
    (Regex.deeper steps inside).run p =
      if p.room < steps then .error .tooDeep
      else (inside.run { p with room := p.room - steps }).map
        fun (a, q) => (a, { q with room := p.room }) := by
  show StateT.run (if p.room < steps then _ else _) p = _
  by_cases hroom : p.room < steps
  · rw [if_pos hroom, if_pos hroom]
    rfl
  · rw [if_neg hroom, if_neg hroom]
    simp only [StateT.run_bind, StateT.run_set, pure_bind]
    rcases inside.run { p with room := p.room - steps } with e | ⟨a, q⟩ <;> rfl

theorem deeper {steps : Nat} {inside inside' : Read α} (h : Alike more inside inside') :
    Alike more (deeper steps inside) (deeper steps inside') := by
  intro p
  rw [run_deeper, run_deeper]
  by_cases hroom : p.room < steps
  · exact .inl (if_pos hroom)
  · have hroom' : ¬(p.roomier more).room < steps := fun hlt =>
      hroom (Nat.lt_of_le_of_lt (Nat.le_add_right _ _) hlt)
    have hleft : { p.roomier more with room := (p.roomier more).room - steps } =
        ({ p with room := p.room - steps } : Progress).roomier more := by
      have hroom : p.room + more - steps = p.room - steps + more := by omega
      exact congrArg (fun room => { p with room }) hroom
    rw [if_neg hroom, if_neg hroom', hleft]
    obtain hdeep | hrun := h { p with room := p.room - steps }
    · refine .inl ?_
      rw [hdeep]
      rfl
    · refine .inr ?_
      rw [hrun]
      rcases inside.run { p with room := p.room - steps } with e | ⟨a, q⟩ <;> rfl

theorem openGroup (name? : Option String) : Alike more (openGroup name?) (openGroup name?) := by
  refine get_bind fun p => ?_
  cases name? with
  | none => exact bind (set _) fun _ => pure _
  | some name => exact ite refuse (bind (set _) fun _ => pure _)

theorem closeGroup (index : Nat) (body : Node) :
    Alike more (closeGroup index body) (closeGroup index body) := modify fun _ => rfl

theorem checkedGroup (index : Nat) : Alike more (checkedGroup index) (checkedGroup index) :=
  get_bind fun _ => ite (pure _) refuse

theorem checkCondition (index : Nat) :
    Alike more (checkCondition index) (checkCondition index) := by
  refine get_bind fun p => ?_
  simp only [behindFrom_roomier]
  cases p.behindFrom with
  | none => exact pure _
  | some first => exact ite (pure _) refuse

/-! ## Escapes -/

theorem hexDigits (count : Nat) : Alike more (hexDigits count) (hexDigits count) :=
  bind (takeWhile _ _) fun _ => ite refuse (ite (pure _) refuse)

theorem namedCode : Alike more namedCode namedCode := by
  refine bind (accept _) fun _ => ite (bind (takeUntil _) fun name => ?_) refuse
  cases Text.named? (String.ofList name) with
  | none => exact refuse
  | some n => exact pure _

theorem codeOf? (c : Char) : Alike more (codeOf? c) (codeOf? c) := by
  refine ite (bind (hexDigits _) fun _ => pure _) (ite (bind (hexDigits _) fun _ => pure _) ?_)
  exact ite (bind (hexDigits _) fun _ => pure _) (ite (bind namedCode fun _ => pure _) (pure _))

theorem setEscape : Alike more setEscape setEscape := by
  refine bind take? fun c? => ?_
  cases c? with
  | none => exact refuse
  | some c =>
    dsimp only
    split
    · exact pure _
    · exact pure _
    · refine bind (codeOf? c) fun n? => ?_
      cases n? with
      | some n => exact pure _
      | none =>
        refine ite (bind (takeWhile _ _) fun _ => ite (pure _) refuse) ?_
        exact ite refuse (pure _)

theorem numbered (flags : Flags) (c : Char) : Alike more (numbered flags c) (numbered flags c) := by
  refine bind peek fun d? => ?_
  cases d? with
  | none => exact bind (checkedGroup _) fun _ => pure _
  | some d =>
    refine ite (bind take? fun _ => bind peek fun e? => ite ?_ ?_) ?_
    · exact bind take? fun _ => ite (pure _) refuse
    · exact bind (checkedGroup _) fun _ => pure _
    · exact bind (checkedGroup _) fun _ => pure _

theorem escape (flags : Flags) : Alike more (escape flags) (escape flags) := by
  refine bind take? fun c? => ?_
  cases c? with
  | none => exact refuse
  | some c =>
    refine ite (pure _) (ite (pure _) (ite (pure _) (ite (pure _) ?_)))
    split
    · exact pure _
    · exact pure _
    · refine bind (codeOf? c) fun n? => ?_
      cases n? with
      | some n => exact pure _
      | none =>
        refine ite (bind (takeWhile _ _) fun _ => pure _) ?_
        exact ite (bind (numbered flags c) fun _ => pure _) (ite refuse (pure _))

/-! ## Sets and repetitions -/

theorem setItem (c : Char) : Alike more (setItem c) (setItem c) := ite setEscape (pure _)

theorem setItems (steps : Nat) (done : List Item) :
    Alike more (setItems steps done) (setItems steps done) := by
  induction steps generalizing done with
  | zero => exact refuse
  | succ steps ih =>
    refine bind take? fun c? => ?_
    cases c? with
    | none => exact refuse
    | some c =>
      refine ite (pure _) (bind (setItem c) fun first => bind (accept _) fun _ => ite ?_ (ih _))
      refine bind take? fun d? => ?_
      cases d? with
      | none => exact refuse
      | some d =>
        refine ite (pure _) (bind (setItem d) fun last => ?_)
        split
        · exact ite refuse (ih _)
        · exact refuse

theorem bounded (digits : List Char) : Alike more (bounded digits) (bounded digits) :=
  ite (throw _) (ite (pure _) (throw _))

theorem counts? : Alike more counts? counts? := by
  refine get_bind fun before => bind (accept _) fun _ => ite (bind (set _) fun _ => pure _) ?_
  refine bind (takeWhile _ _) fun low => bind (accept _) fun comma => ?_
  refine ite_bind (takeWhile _ _) (pure _) fun high => bind (accept _) fun _ => ite ?_ ?_
  · refine get_bind fun p => when_bind refuse fun _ => ?_
    refine ite_bind (pure _) (bounded _) fun least => ite (pure _) ?_
    exact bind (bounded _) fun most => ite refuse (pure _)
  · exact bind (set _) fun _ => pure _

theorem manner : Alike more manner manner :=
  bind (accept _) fun _ => ite (pure _) (bind (accept _) fun _ => ite (pure _) (pure _))

theorem repeatLast (least : Nat) (most : Option Nat) (done : List (Kind × Node)) :
    Alike more (repeatLast least most done) (repeatLast least most done) := by
  cases done with
  | nil => exact refuse
  | cons last before =>
    obtain ⟨kind, body⟩ := last
    cases kind with
    | anchor => exact refuse
    | repetition => exact refuse
    | other =>
      exact get_bind fun p => when_bind spoil fun _ => bind manner fun _ => pure _

/-! ## Flags and conditions -/

theorem flagGroup (flags : Flags) (first : Char) :
    Alike more (flagGroup flags first) (flagGroup flags first) := by
  refine get_bind fun p => ite (bind (pure _) fun letters => ?_)
    (bind (takeWhile _ _) fun _ => bind (pure _) fun letters => ?_)
  all_goals
    refine ite_bind (pure _) take? fun next => ite refuse ?_
    split
    · exact pure _
    · exact ite refuse (pure _)
    · refine bind (takeWhile _ _) fun cleared => ite refuse ?_
      exact bind (accept _) fun _ => ite (pure _) refuse
    · exact refuse

theorem lookBehind (negated : Bool) (body : Node) :
    Alike more (lookBehind negated body) (lookBehind negated body) :=
  get_bind fun _ => when_bind spoil fun _ => pure _

theorem behind {body body' : Read Node} (h : Alike more body body') :
    Alike more (behind body) (behind body') :=
  get_bind fun _ => bind (modify fun _ => rfl) fun _ => bind h fun _ =>
    bind (modify fun _ => rfl) fun _ => pure _

theorem condition (text : List Char) : Alike more (condition text) (condition text) := by
  refine get_bind fun p => ite ?_ ?_
  · simp only [names_roomier]
    cases p.names.lookup (String.ofList text) with
    | none => exact refuse
    | some index => exact pure _
  · cases Number.readInt? (String.ofList text) with
    | none => exact refuse
    | some n => exact ite (bind (modify fun _ => rfl) fun _ => pure _) refuse

/-! ## Patterns -/

/-- What is known of reading with a number of steps. -/
structure Upto (more steps : Nat) : Prop where
  alternatives : ∀ flags outer,
    Alike more (alternatives steps flags outer) (alternatives steps flags outer)
  moreAlternatives : ∀ flags,
    Alike more (moreAlternatives steps flags) (moreAlternatives steps flags)
  items : ∀ flags outer done,
    Alike more (items steps flags outer done) (items steps flags outer done)
  silent : ∀ flags, Alike more (silent steps flags) (silent steps flags)
  captured : ∀ flags name?,
    Alike more (captured steps flags name?) (captured steps flags name?)

namespace Upto

variable {steps : Nat}

theorem zero : Upto more 0 :=
  ⟨fun _ _ => refuse, fun _ => refuse, fun _ _ _ => refuse, fun _ => refuse, fun _ _ => refuse⟩

theorem alternatives_succ (h : Upto more steps) (flags : Flags) (outer : Bool) :
    Alike more (Regex.alternatives (steps + 1) flags outer)
      (Regex.alternatives (steps + 1) flags outer) := by
  unfold Regex.alternatives
  refine bind (h.items _ _ _) fun first => bind (accept _) fun _ => ite ?_ (pure _)
  refine get_bind fun p => ?_
  exact bind (h.moreAlternatives _) fun _ => pure _

theorem moreAlternatives_succ (h : Upto more steps) (flags : Flags) :
    Alike more (Regex.moreAlternatives (steps + 1) flags)
      (Regex.moreAlternatives (steps + 1) flags) := by
  unfold Regex.moreAlternatives
  refine bind (h.items _ _ _) fun first => bind (accept _) fun _ => ite ?_ (pure _)
  exact bind (h.moreAlternatives _) fun _ => pure _

theorem silent_succ (h : Upto more steps) (flags : Flags) :
    Alike more (Regex.silent (steps + 1) flags) (Regex.silent (steps + 1) flags) := by
  unfold Regex.silent
  exact bind (deeper (h.alternatives _ _)) fun _ => bind closing fun _ => pure _

theorem captured_succ (h : Upto more steps) (flags : Flags) (name? : Option String) :
    Alike more (Regex.captured (steps + 1) flags name?)
      (Regex.captured (steps + 1) flags name?) := by
  unfold Regex.captured
  refine bind (openGroup _) fun index => bind (deeper (h.alternatives _ _)) fun body => ?_
  exact bind closing fun _ => bind (closeGroup _ _) fun _ => pure _

theorem items_succ (h : Upto more steps) (flags : Flags) (outer : Bool)
    (done : List (Kind × Node)) :
    Alike more (Regex.items (steps + 1) flags outer done)
      (Regex.items (steps + 1) flags outer done) := by
  unfold Regex.items
  refine bind peek fun c? => ?_
  cases c? with
  | none => exact pure _
  | some c =>
    refine ite (pure _) (bind take? fun _ => ?_)
    refine ite (h.items _ _ _) (ite (bind (skipComment _) fun _ => h.items _ _ _) ?_)
    refine ite (bind (escape _) fun _ => h.items _ _ _) (ite ?set ?_)
    case set =>
      refine bind (accept _) fun negated => get_bind fun p => ?_
      exact bind (setItems _ _) fun parts => h.items _ _ _
    refine ite (bind (repeatLast _ _ _) fun _ => h.items _ _ _) ?_
    refine ite (bind (repeatLast _ _ _) fun _ => h.items _ _ _) ?_
    refine ite (bind (repeatLast _ _ _) fun _ => h.items _ _ _) (ite ?counts ?_)
    case counts =>
      refine bind counts? fun range? => ?_
      cases range? with
      | none => exact h.items _ _ _
      | some range => exact bind (repeatLast _ _ _) fun _ => h.items _ _ _
    refine ite (h.items _ _ _) (ite (h.items _ _ _) (ite (h.items _ _ _) ?_))
    refine ite (bind (accept _) fun _ => ite ?group ?_) (h.items _ _ _)
    · refine bind take? fun mark? => ?_
      split
      case h_1 => exact refuse
      case h_2 => exact bind (h.silent _) fun _ => h.items _ _ _
      case h_3 => exact bind (h.silent _) fun _ => h.items _ _ _
      case h_4 => exact bind (skipComment _) fun _ => bind closing fun _ => h.items _ _ _
      case h_5 => exact bind (h.silent _) fun _ => h.items _ _ _
      case h_6 => exact bind (h.silent _) fun _ => h.items _ _ _
      case h_7 =>
        refine bind take? fun way? => ?_
        split
        · exact bind (behind (h.silent _)) fun _ => bind (lookBehind _ _) fun _ => h.items _ _ _
        · exact bind (behind (h.silent _)) fun _ => bind (lookBehind _ _) fun _ => h.items _ _ _
        · exact refuse
      case h_8 =>
        refine bind (accept _) fun _ => ite ?name (bind (accept _) fun _ => ite ?again refuse)
        case name =>
          refine bind (takeUntil _) fun name => ite ?_ refuse
          exact bind (h.captured _ _) fun _ => h.items _ _ _
        case again =>
          refine bind (takeUntil _) fun name => get_bind fun p => ?_
          simp only [names_roomier]
          cases p.names.lookup (String.ofList name) with
          | none => exact refuse
          | some index => exact bind (checkedGroup _) fun _ => h.items _ _ _
      case h_9 =>
        refine bind (takeUntil _) fun text => bind (condition _) fun index => ?_
        refine bind (checkCondition _) fun _ => bind (deeper (h.items _ _ _)) fun yes => ?_
        refine bind (accept _) fun _ => ite_bind (deeper (h.items _ _ _)) (pure _) fun no => ?_
        exact bind closing fun _ => h.items _ _ _
      case h_10 =>
        refine ite (bind (flagGroup _ _) fun scope => ?_) refuse
        cases scope with
        | everywhere all => exact ite (bind (modify fun _ => rfl) fun _ => h.items _ _ _) refuse
        | inside own => exact bind (h.silent _) fun _ => h.items _ _ _
    · exact bind (h.captured _ _) fun _ => h.items _ _ _

/-- **Reading is alike to itself**, however many steps it may take. -/
theorem of_steps (more steps : Nat) : Upto more steps := by
  induction steps with
  | zero => exact zero
  | succ steps ih =>
    exact ⟨ih.alternatives_succ, ih.moreAlternatives_succ, ih.items_succ, ih.silent_succ,
      ih.captured_succ⟩

end Upto

end Alike

/-- **A pattern is read with more room as it is with less**, unless there was no room for its
groups. -/
theorem parse_add (room more : Nat) (pattern : String) (anyCase : Bool) :
    parse room pattern anyCase = .error .tooDeep ∨
      parse (room + more) pattern anyCase = parse room pattern anyCase := by
  by_cases hroom : room < ownRoom
  · refine .inl ?_
    unfold parse
    rw [if_pos hroom]
    rfl
  · have hroom' : ¬room + more < ownRoom := fun hlt =>
      hroom (Nat.lt_of_le_of_lt (Nat.le_add_right _ _) hlt)
    have hleft : room + more - ownRoom = room - ownRoom + more := by omega
    have halike := (Alike.Upto.of_steps more (3 * pattern.toList.length + 3)).alternatives
      { Flags.none with anyCase } true
      ⟨pattern.toList, 1, [], [], none, [], { Flags.none with anyCase }, room - ownRoom, false⟩
    unfold parse
    rw [if_neg hroom, if_neg hroom', hleft]
    dsimp only
    obtain hdeep | hrun := halike
    · refine .inl ?_
      rw [hdeep]
      rfl
    · refine .inr ?_
      unfold Progress.roomier at hrun
      dsimp only at hrun
      rw [hrun]
      rcases StateT.run _ _ with e | ⟨node, q⟩
      · rfl
      · rfl

end Honeypot.Regex
