import Honeypot.Proofs.Shell.Sequence

/-!
# The pieces of a line

There is exactly one way to cut a line at its joints. A joint stands where the piece in front of it
is outside quotes, it is the longest that begins there, and none begins earlier in the piece outside
its quotes (`Cuts`). The commands of a line are the pieces of this cut that are not blank, without
the blanks around them, each with the joint in front of its piece (`split_cuts_once`).
-/

namespace Honeypot.Shell

/-! ## Joints -/

/-- Whether a text begins with the sign of a joint. -/
def Begins (joint : Joint) (cs : List Char) : Prop := joint ≠ .start ∧ joint.sign.toList <+: cs

/-- Whether a joint is the longest that a text begins with. -/
def BeginsLongest (joint : Joint) (cs : List Char) : Prop :=
  Begins joint cs ∧ ∀ other, Begins other cs → other.sign.length ≤ joint.sign.length

variable {joint next : Joint} {quote? : Option Char} {c : Char}
  {cs piece rest : List Char} {later pieces pieces' : List (Joint × List Char)}

theorem Begins.cases (h : Begins joint cs) :
    (joint = .always ∧ ∃ tail, cs = ';' :: tail) ∨
    (joint = .onSuccess ∧ ∃ tail, cs = '&' :: '&' :: tail) ∨
    (joint = .onFailure ∧ ∃ tail, cs = '|' :: '|' :: tail) ∨
    joint = .pipe ∧ ∃ tail, cs = '|' :: tail := by
  obtain ⟨hstart, tail, rfl⟩ := h
  cases joint with
  | start => exact absurd rfl hstart
  | always => exact .inl ⟨rfl, tail, rfl⟩
  | onSuccess => exact .inr (.inl ⟨rfl, tail, rfl⟩)
  | onFailure => exact .inr (.inr (.inl ⟨rfl, tail, rfl⟩))
  | pipe => exact .inr (.inr (.inr ⟨rfl, tail, rfl⟩))

theorem not_begins_nil : ¬Begins joint [] := fun h => by
  obtain ⟨-, _, hnil⟩ | ⟨-, _, hnil⟩ | ⟨-, _, hnil⟩ | ⟨-, _, hnil⟩ := h.cases <;> cases hnil

theorem length_sign_le (joint : Joint) : joint.sign.length ≤ 2 := by
  cases joint <;> decide

theorem sign_injective : Function.Injective Joint.sign := by
  intro joint other h
  cases joint <;> cases other <;> first | rfl | exact absurd h (by decide)

/-- Joints with signs of the same length are the same where a text begins with both. -/
theorem Begins.eq_of_length {other : Joint} (h : Begins joint cs) (h' : Begins other cs)
    (hlength : joint.sign.length = other.sign.length) : joint = other := by
  have hlists : joint.sign.toList.length = other.sign.toList.length := by
    rw [String.length_toList, String.length_toList, hlength]
  have hfront := List.prefix_of_prefix_length_le h.2 h'.2 hlists.le
  exact sign_injective (String.toList_injective (hfront.eq_of_length hlists))

theorem BeginsLongest.unique {other : Joint} (h : BeginsLongest joint cs)
    (h' : BeginsLongest other cs) : joint = other :=
  h.1.eq_of_length h'.1 (Nat.le_antisymm (h'.2 joint h.1) (h.2 other h'.1))

/-! ## Cuts -/

/-- Whether no joint begins outside quotes in a piece; one that does may reach into what follows the
piece. -/
def IsClear (quote? : Option Char) (piece rest : List Char) : Prop :=
  ∀ left right, piece = left ++ right → right ≠ [] → quoteAfter quote? left = none →
    ∀ joint, ¬Begins joint (right ++ rest)

/-- How a text is cut into pieces, each with the joint in front of it. The first argument is the
quote that is open at the start of the text; every later piece starts outside quotes. -/
inductive Cuts : Option Char → Joint → List Char → List (Joint × List Char) → Prop
  | last {quote? : Option Char} {joint : Joint} {piece : List Char}
      (hclear : IsClear quote? piece []) : Cuts quote? joint piece [(joint, piece)]
  | joint {quote? : Option Char} {joint next : Joint} {piece rest : List Char}
      {later : List (Joint × List Char)}
      (hclosed : quoteAfter quote? piece = none)
      (hclear : IsClear quote? piece (next.sign.toList ++ rest))
      (hnext : BeginsLongest next (next.sign.toList ++ rest))
      (hlater : Cuts none next rest later) :
      Cuts quote? joint (piece ++ (next.sign.toList ++ rest)) ((joint, piece) :: later)

theorem IsClear.eq_nil {left right : List Char} (h : IsClear quote? (left ++ right) rest)
    (hclosed : quoteAfter quote? left = none) (hnext : Begins next (right ++ rest)) :
    right = [] := by
  by_contra hne
  exact h left right rfl hne hclosed next hnext

theorem IsClear.not_begins {left right : List Char} (h : IsClear quote? (left ++ right) [])
    (hclosed : quoteAfter quote? left = none) : ¬Begins next right := fun hnext => by
  have hnil := h.eq_nil hclosed (by rwa [List.append_nil])
  rw [hnil] at hnext
  exact not_begins_nil hnext

/-- **A text can be cut in one way only.** -/
theorem Cuts.unique (h : Cuts quote? joint cs pieces) (h' : Cuts quote? joint cs pieces') :
    pieces = pieces' := by
  induction h generalizing pieces' with
  | @last quote? joint piece hclear =>
    generalize hcs : piece = cs at h'
    cases h' with
    | last => rfl
    | joint hclosed' _ hnext' _ =>
      rw [hcs] at hclear
      exact absurd hnext'.1 (hclear.not_begins hclosed')
  | @joint quote? joint next piece rest later hclosed hclear hnext hlater ih =>
    generalize hcs : piece ++ (next.sign.toList ++ rest) = cs at h'
    cases h' with
    | last hclear' =>
      rw [← hcs] at hclear'
      exact absurd hnext.1 (hclear'.not_begins hclosed)
    | @joint _ _ next' piece' rest' later' hclosed' hclear' hnext' hlater' =>
      -- Neither of the first pieces goes beyond the joint behind the other one.
      have hpiece : piece = piece' := by
        obtain ⟨between, rfl, htail⟩ | ⟨between, rfl, htail⟩ := List.append_eq_append_iff.mp hcs
        · rw [htail] at hnext
          rw [hclear'.eq_nil hclosed hnext.1, List.append_nil]
        · rw [htail] at hnext'
          rw [hclear.eq_nil hclosed' hnext'.1, List.append_nil]
      rw [hpiece, List.append_cancel_left_eq] at hcs
      have hjoint : next = next' := hnext.unique (hcs ▸ hnext')
      rw [hjoint, List.append_cancel_left_eq] at hcs
      rw [hpiece, ih (hjoint ▸ hcs ▸ hlater')]

/-! ## Cutting -/

theorem quoteAfter_cons (quote? : Option Char) (c : Char) (cs : List Char) :
    quoteAfter quote? (c :: cs) = quoteAfter (quoteAfter quote? [c]) cs := by
  cases quote? <;> rfl

theorem IsClear.cons (h : IsClear (quoteAfter quote? [c]) piece rest)
    (hc : quote? = none → ∀ joint, ¬Begins joint (c :: (piece ++ rest))) :
    IsClear quote? (c :: piece) rest := by
  intro left right hpiece hright hquote
  cases left with
  | nil =>
    have hnone : quote? = none := by
      cases quote? with
      | none => rfl
      | some quote => cases hquote
    rw [List.nil_append] at hpiece
    rw [← hpiece]
    exact hc hnone
  | cons d left =>
    rw [List.cons_append, List.cons.injEq] at hpiece
    obtain ⟨rfl, hpiece⟩ := hpiece
    rw [quoteAfter_cons] at hquote
    exact h left right hpiece hright hquote

theorem Cuts.cons (h : Cuts (quoteAfter quote? [c]) joint cs ((joint, piece) :: later))
    (hc : quote? = none → ∀ joint, ¬Begins joint (c :: cs)) :
    Cuts quote? joint (c :: cs) ((joint, c :: piece) :: later) := by
  cases h with
  | last hclear => exact .last (hclear.cons (by rwa [List.append_nil]))
  | joint hclosed hclear hnext hlater =>
    exact .joint (by rwa [quoteAfter_cons]) (hclear.cons hc) hnext hlater

theorem Cuts.joint_nil (hnext : BeginsLongest next (next.sign.toList ++ rest))
    (h : Cuts none next rest later) :
    Cuts none joint (next.sign.toList ++ rest) ((joint, []) :: later) := by
  have hclear : IsClear none [] (next.sign.toList ++ rest) := fun left right hpiece hright =>
    absurd (List.append_eq_nil_iff.mp hpiece.symm).2 hright
  exact .joint rfl hclear hnext h

theorem cuts_read (hcut : cut quote? joint [] (c :: cs) = cut (quoteAfter quote? [c]) joint [c] cs)
    (hc : quote? = none → ∀ joint, ¬Begins joint (c :: cs))
    (h : Cuts (quoteAfter quote? [c]) joint cs (cut (quoteAfter quote? [c]) joint [] cs)) :
    Cuts quote? joint (c :: cs) (cut quote? joint [] (c :: cs)) := by
  obtain ⟨piece, later, heq, -⟩ := cut_eq (quoteAfter quote? [c]) cs
  rw [heq] at h
  rw [hcut, heq]
  exact h.cons hc

/-- **Cutting a text cuts it at its joints.** -/
theorem cuts_cut (quote? : Option Char) (joint : Joint) (cs : List Char) :
    Cuts quote? joint cs (cut quote? joint [] cs) := by
  -- The recursion is that of a cut from anywhere.
  suffices h : ∀ (_ : Joint) (_ : List Char), ∀ joint, Cuts quote? joint cs (cut quote? joint [] cs)
    from h .start [] joint
  intro front done
  induction quote?, front, done, cs using cut.induct with
  | case1 quote? =>
    intro joint
    rw [cut]
    exact .last fun left right hpiece hright =>
      absurd (List.append_eq_nil_iff.mp hpiece.symm).2 hright
  | case2 quote _ _ c rest ih =>
    intro joint
    exact cuts_read (by rw [cut]; rfl) (absurd · (Option.some_ne_none quote)) (ih joint)
  | case3 _ _ rest ih =>
    intro joint
    have hnext : BeginsLongest .onSuccess ('&' :: '&' :: rest) :=
      ⟨⟨by decide, rest, rfl⟩, fun other _ => length_sign_le other⟩
    rw [cut]
    exact .joint_nil hnext (ih .onSuccess)
  | case4 _ _ rest ih =>
    intro joint
    have hnext : BeginsLongest .onFailure ('|' :: '|' :: rest) :=
      ⟨⟨by decide, rest, rfl⟩, fun other _ => length_sign_le other⟩
    rw [cut]
    exact .joint_nil hnext (ih .onFailure)
  | case5 _ _ rest ih =>
    intro joint
    rw [cut]
    refine .joint_nil ⟨⟨by decide, rest, rfl⟩, fun other hother => ?_⟩ (ih .always)
    obtain ⟨rfl, -⟩ | ⟨-, _, hcs⟩ | ⟨-, _, hcs⟩ | ⟨-, _, hcs⟩ := hother.cases
    · exact Nat.le_refl _
    all_goals cases hcs
  | case6 _ _ rest hrest ih =>
    intro joint
    rw [cut_bar hrest]
    refine .joint_nil ⟨⟨by decide, rest, rfl⟩, fun other hother => ?_⟩ (ih .pipe)
    obtain ⟨-, _, hcs⟩ | ⟨-, _, hcs⟩ | ⟨-, tail, hcs⟩ | ⟨rfl, -⟩ := hother.cases
    · cases hcs
    · cases hcs
    · exact absurd (List.cons.inj hcs).2 fun htail => hrest tail htail
    · exact Nat.le_refl _
  | case7 _ _ c rest hand hor hsemicolon hbar ih =>
    intro joint
    refine cuts_read (cut_plain hand hor hsemicolon hbar) (fun _ other hother => ?_) (ih joint)
    obtain ⟨-, _, hcs⟩ | ⟨-, tail, hcs⟩ | ⟨-, tail, hcs⟩ | ⟨-, _, hcs⟩ := hother.cases
    · exact hsemicolon (List.cons.inj hcs).1
    · exact hand tail (List.cons.inj hcs).1 (List.cons.inj hcs).2
    · exact hor tail (List.cons.inj hcs).1 (List.cons.inj hcs).2
    · exact hbar (List.cons.inj hcs).1

/-! ## Commands -/

theorem segment?_eq (p : Joint × List Char) :
    segment? p = if !p.2.all Text.isBlank then some ⟨p.1, Text.strip (String.ofList p.2)⟩
      else none := by
  have hempty : (Text.dropEnds Text.isBlank p.2).isEmpty = p.2.all Text.isBlank := by
    rw [Bool.eq_iff_iff, List.isEmpty_iff, Text.dropEnds_eq_nil_iff, List.all_eq_true]
  unfold segment? Text.strip Text.trim
  dsimp only
  rw [String.toList_ofList, hempty]
  cases p.2.all Text.isBlank <;> rfl

/-- **The commands of a line are the pieces of its only cut** that are not blank, in order, without
the blanks around them, each with the joint in front of its piece. -/
theorem split_cuts_once (line : String) :
    ∃ pieces, Cuts none .start line.toList pieces ∧
      (∀ others, Cuts none .start line.toList others → others = pieces) ∧
      split line = (pieces.filter fun p => !p.2.all Text.isBlank).map
        fun p => ⟨p.1, Text.strip (String.ofList p.2)⟩ := by
  have hcuts := cuts_cut none .start line.toList
  refine ⟨_, hcuts, fun others hothers => hothers.unique hcuts, ?_⟩
  unfold split
  rw [← List.filterMap_eq_map, List.filterMap_filter]
  exact congrArg (List.filterMap · _) (funext segment?_eq)

example : split "a&&&b;;'c|d' |||\"e" =
    [⟨.start, "a"⟩, ⟨.onSuccess, "&b"⟩, ⟨.always, "'c|d'"⟩, ⟨.pipe, "\"e"⟩] := by
  decide

end Honeypot.Shell
