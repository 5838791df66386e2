import Honeypot.Proofs.Shell.Segments

/-!
# Lines after one another

A semicolon outside quotes puts two lines after one another (`runLine_semicolon`). Cutting the
whole gives the commands of the first line and those of the second (`split_semicolon`), and no
command of the second line sees what those of the first one printed (`runSegments_beneath`).
-/

namespace Honeypot.Shell

/-! ## Quotes -/

/-- The quote that is open behind some characters, given the one that is open before them. -/
def quoteAfter : Option Char → List Char → Option Char
  | quote?, [] => quote?
  | some quote, c :: rest => quoteAfter (if c = quote then none else some quote) rest
  | none, c :: rest => quoteAfter (if isQuote c then some c else none) rest

/-! ## Cutting -/

theorem cut_bar {joint : Joint} {done rest : List Char}
    (h : ∀ tail, rest = '|' :: tail → False) :
    cut none joint done ('|' :: rest) = (joint, done.reverse) :: cut none .pipe [] rest := by
  rw [cut]
  exact h

/-- A character outside quotes that begins no joint belongs to the command. -/
theorem cut_plain {joint : Joint} {done rest : List Char} {c : Char}
    (hand : ∀ tail, c = '&' → rest = '&' :: tail → False)
    (hor : ∀ tail, c = '|' → rest = '|' :: tail → False) (hsemicolon : c = ';' → False)
    (hbar : c = '|' → False) :
    cut none joint done (c :: rest) =
      cut (if isQuote c then some c else none) joint (c :: done) rest := by
  rw [cut]
  · exact hand
  · exact hor
  · exact hsemicolon
  · exact hbar

/-- A semicolon outside quotes is a joint. -/
theorem cut_append {quote? : Option Char} {joint : Joint} {done cs : List Char}
    (h : quoteAfter quote? cs = none) (more : List Char) :
    cut quote? joint done (cs ++ ';' :: more) =
      cut quote? joint done cs ++ cut none .always [] more := by
  induction quote?, joint, done, cs using cut.induct with
  | case1 quote? joint done =>
    cases h
    rw [List.nil_append, cut, cut, List.singleton_append]
  | case2 quote joint done c rest ih =>
    rw [List.cons_append, cut, cut]
    exact ih h
  | case3 joint done rest ih =>
    rw [List.cons_append, List.cons_append, cut, cut, List.cons_append]
    exact congrArg _ (ih h)
  | case4 joint done rest ih =>
    rw [List.cons_append, List.cons_append, cut, cut, List.cons_append]
    exact congrArg _ (ih h)
  | case5 joint done rest ih =>
    rw [List.cons_append, cut, cut, List.cons_append]
    exact congrArg _ (ih h)
  | case6 joint done rest hrest ih =>
    -- No joint of two signs reaches across the semicolon.
    have hmore : ∀ tail, rest ++ ';' :: more = '|' :: tail → False := by
      intro tail htail
      cases rest with
      | nil => cases htail
      | cons d rest =>
        cases htail
        exact hrest rest rfl
    rw [List.cons_append, cut_bar hmore, cut_bar hrest, List.cons_append]
    exact congrArg _ (ih h)
  | case7 joint done c rest hand hor hsemicolon hbar ih =>
    have hmore (d : Char) (hd : d ≠ ';') (hpair : ∀ tail, c = d → rest = d :: tail → False) :
        ∀ tail, c = d → rest ++ ';' :: more = d :: tail → False := by
      intro tail hc htail
      cases rest with
      | nil =>
        cases htail
        exact hd rfl
      | cons e rest =>
        cases htail
        exact hpair rest hc rfl
    rw [List.cons_append, cut_plain (hmore '&' (by decide) hand) (hmore '|' (by decide) hor)
      hsemicolon hbar, cut_plain hand hor hsemicolon hbar]
    exact ih h

/-- The joint in front of a line and what was read before it belong to its first piece only, and no
other piece is the first of a line. -/
theorem cut_eq (quote? : Option Char) (cs : List Char) :
    ∃ piece later,
      (∀ joint done, cut quote? joint done cs = (joint, done.reverse ++ piece) :: later) ∧
      ∀ p ∈ later, p.1 ≠ .start := by
  have jointed (joint : Joint) {rest : List Char} (hjoint : joint ≠ .start)
      (ih : ∃ piece later,
        (∀ joint done, cut none joint done rest = (joint, done.reverse ++ piece) :: later) ∧
        ∀ p ∈ later, p.1 ≠ .start) : ∀ p ∈ cut none joint [] rest, p.1 ≠ .start := by
    obtain ⟨piece, later, hcut, hlater⟩ := ih
    rw [hcut joint]
    exact List.forall_mem_cons.mpr ⟨hjoint, hlater⟩
  have stops (done : List Char) : done.reverse = done.reverse ++ [] := (List.append_nil _).symm
  have goesOn (c : Char) (done piece : List Char) :
      (c :: done).reverse ++ piece = done.reverse ++ c :: piece := by
    rw [List.reverse_cons, List.append_assoc, List.singleton_append]
  -- The recursion is that of a cut from anywhere.
  suffices h : ∀ (_ : Joint) (_ : List Char), ∃ piece later,
      (∀ joint done, cut quote? joint done cs = (joint, done.reverse ++ piece) :: later) ∧
      ∀ p ∈ later, p.1 ≠ .start from h .start []
  intro joint done
  induction quote?, joint, done, cs using cut.induct with
  | case1 quote? => exact ⟨[], [], fun _ done => by rw [cut, ← stops], List.forall_mem_nil _⟩
  | case2 quote _ _ c rest ih =>
    obtain ⟨piece, later, hcut, hlater⟩ := ih
    exact ⟨c :: piece, later, fun _ _ => by rw [cut, hcut, goesOn], hlater⟩
  | case3 _ _ rest ih =>
    exact ⟨[], cut none .onSuccess [] rest, fun _ done => by rw [cut, ← stops],
      jointed .onSuccess (by decide) ih⟩
  | case4 _ _ rest ih =>
    exact ⟨[], cut none .onFailure [] rest, fun _ done => by rw [cut, ← stops],
      jointed .onFailure (by decide) ih⟩
  | case5 _ _ rest ih =>
    exact ⟨[], cut none .always [] rest, fun _ done => by rw [cut, ← stops],
      jointed .always (by decide) ih⟩
  | case6 _ _ rest hrest ih =>
    exact ⟨[], cut none .pipe [] rest, fun _ done => by rw [cut_bar hrest, ← stops],
      jointed .pipe (by decide) ih⟩
  | case7 _ _ c rest hand hor hsemicolon hbar ih =>
    obtain ⟨piece, later, hcut, hlater⟩ := ih
    exact ⟨c :: piece, later, fun _ _ => by
      rw [cut_plain hand hor hsemicolon hbar, hcut, goesOn], hlater⟩

/-- The commands of a line that stands behind a semicolon. -/
def sequel (line : String) : List Segment :=
  (cut none .always [] line.toList).filterMap segment?

theorem split_semicolon {a : String} (h : quoteAfter none a.toList = none) (b : String) :
    split (a ++ ";" ++ b) = split a ++ sequel b := by
  have hline : (a ++ ";" ++ b).toList = a.toList ++ ';' :: b.toList := by
    rw [String.toList_append, String.toList_append, List.append_assoc]
    rfl
  unfold split sequel
  rw [hline, cut_append h, List.filterMap_append]

theorem joint_of_segment? {piece : Joint × List Char} {g : Segment}
    (h : segment? piece = some g) : g.joint = piece.1 := by
  unfold segment? at h
  dsimp only at h
  split at h
  · cases h
  · cases h
    rfl

/-- Behind a semicolon only the joint of the first command of a line is another one. -/
theorem sequel_cases {b : String} (h : ∀ g ∈ (split b).head?, g.joint = .start) :
    split b = [] ∧ sequel b = [] ∨
      ∃ text rest, split b = ⟨.start, text⟩ :: rest ∧ sequel b = ⟨.always, text⟩ :: rest := by
  obtain ⟨piece, later, hcut, hlater⟩ := cut_eq none b.toList
  unfold split sequel at *
  rw [hcut, List.reverse_nil, List.nil_append] at h ⊢
  rw [hcut, List.reverse_nil, List.nil_append]
  cases hempty : (Text.dropEnds Text.isBlank piece).isEmpty with
  | true =>
    have hnone (joint : Joint) : segment? (joint, piece) = none := if_pos hempty
    rw [List.filterMap_cons_none (hnone _)] at h ⊢
    rw [List.filterMap_cons_none (hnone _)]
    refine .inl (and_self_iff.mpr ?_)
    cases hrest : later.filterMap segment? with
    | nil => rfl
    | cons g rest =>
      obtain ⟨p, hp, hg⟩ := List.mem_filterMap.mp (hrest ▸ List.mem_cons_self)
      rw [hrest] at h
      exact absurd ((joint_of_segment? hg).symm.trans (h g rfl)) (hlater p hp)
  | false =>
    have hsome (joint : Joint) : segment? (joint, piece) =
        some ⟨joint, String.ofList (Text.dropEnds Text.isBlank piece)⟩ :=
      if_neg (Bool.eq_false_iff.mp hempty)
    rw [List.filterMap_cons_some (hsome _), List.filterMap_cons_some (hsome _)]
    exact .inr ⟨_, _, rfl, rfl⟩

/-! ## Running -/

/-- What a line ends in when something was printed before it. -/
def Response.after (printed : String) : Response → Response
  | .exit => .exit
  | .text s => .text (printed ++ s)

section Runs

variable {c : Context}

/-- **Outputs beneath the latest one** are printed first and nothing else is done with them. -/
theorem runSegments_beneath (base : List String) {top : List String} (htop : top ≠ [])
    (failed : Bool) (segments : List Segment) :
    runSegments c (top ++ base) failed segments =
      runSegments c top failed segments >>= fun response =>
        pure (response.after (String.join base.reverse)) := by
  -- What a command leaves and its own output keep the top from being empty, so that no bar takes
  -- anything from beneath it.
  induction segments generalizing top failed with
  | nil =>
    rw [runSegments_nil, runSegments_nil, pure_bind, List.reverse_append, String.join_append]
    rfl
  | cons segment rest ih =>
    obtain hleft | ⟨inv, hruns⟩ := runSegments_cons c failed segment
    · rw [hleft, hleft]
      exact ih htop failed
    · obtain ⟨output, more, rfl⟩ := List.exists_cons_of_ne_nil htop
      have hleaves : segment.leaves (output :: more ++ base) =
          segment.leaves (output :: more) ++ base := by
        unfold Segment.leaves
        split
        · rfl
        · rfl
      rw [hruns, hruns, bind_assoc, hleaves]
      refine congrArg _ (funext fun response => ?_)
      cases response with
      | exit => exact (pure_bind _ _).symm
      | text printed => exact ih (List.cons_ne_nil _ _) (inv.failed printed)

/-- The commands behind a semicolon do what they do as a line of their own, and what was printed
before them stays. -/
theorem runSegments_sequel {b : String} (h : ∀ g ∈ (split b).head?, g.joint = .start)
    (outputs : List String) (failed : Bool) :
    runSegments c outputs failed (sequel b) =
      runSegments c [] false (split b) >>= fun response =>
        pure (response.after (String.join outputs.reverse)) := by
  obtain ⟨hsplit, hsequel⟩ | ⟨text, rest, hsplit, hsequel⟩ := sequel_cases h
  · rw [hsplit, hsequel, runSegments_nil, runSegments_nil, pure_bind]
    exact congrArg (fun s => pure (Response.text s)) String.append_empty.symm
  · have hsome := isSome_parse?_of_mem_split (hsplit ▸ List.mem_cons_self)
    obtain ⟨inv, hinv⟩ := Option.isSome_iff_exists.mp hsome
    have hfirst : (⟨.start, text⟩ : Segment).isPassedOver false = false := rfl
    have hsecond : (⟨.always, text⟩ : Segment).isPassedOver failed = false := rfl
    rw [hsplit, hsequel, runSegments_of_runs hfirst hinv, runSegments_of_runs hsecond hinv,
      bind_assoc]
    refine congrArg _ (funext fun response => ?_)
    cases response with
    | exit => exact (pure_bind _ _).symm
    | text printed =>
      exact runSegments_beneath outputs (List.cons_ne_nil printed []) (inv.failed printed) rest

/-- Commands that are put behind others run when these have run. -/
theorem runSegments_append {ys zs : List Segment}
    (hys : ∀ outputs failed, runSegments c outputs failed ys =
      runSegments c [] false zs >>= fun response =>
        pure (response.after (String.join outputs.reverse)))
    (outputs : List String) (failed : Bool) (xs : List Segment) :
    runSegments c outputs failed (xs ++ ys) =
      runSegments c outputs failed xs >>= fun
        | .exit => pure .exit
        | .text printed =>
          runSegments c [] false zs >>= fun response => pure (response.after printed) := by
  induction xs generalizing outputs failed with
  | nil =>
    rw [runSegments_nil, pure_bind]
    exact hys outputs failed
  | cons segment rest ih =>
    rw [List.cons_append]
    obtain hleft | ⟨inv, hruns⟩ := runSegments_cons c failed segment
    · rw [hleft, hleft]
      exact ih outputs failed
    · rw [hruns, hruns, bind_assoc]
      refine congrArg _ (funext fun response => ?_)
      cases response with
      | exit => exact (pure_bind _ _).symm
      | text printed => exact ih _ _

end Runs

/-- **A semicolon puts lines after one another**: behind a line that ends outside quotes, a line
whose first command has nothing in front of it runs in the state that the first one left, and the
whole prints what the one printed and then what the other prints. The session ends where the first
or the second line ends it. -/
theorem runLine_semicolon (c : Context) {a b : String} (ha : quoteAfter none a.toList = none)
    (hb : ∀ g ∈ (split b).head?, g.joint = .start) :
    runLine c (a ++ ";" ++ b) = do
      match ← runLine c a with
      | .exit => pure .exit
      | .text printed => return (← runLine c b).after printed := by
  rw [runLine, runLine, runLine, split_semicolon ha]
  cases hroom : c.room with
  | zero =>
    rw [Context.call_of_no_room hroom]
    rfl
  | succ room =>
    rw [call_bind hroom, call_bind hroom, call_bind hroom]
    exact runSegments_append (runSegments_sequel hb) [] false (split a)

theorem runLine_semicolon_example :
    (quoteAfter none "cd /tmp || exit".toList = none ∧
      ∀ g ∈ (split "echo 'a; b' | cat").head?, g.joint = .start) ∧
    runLine guest ("cd /tmp || exit" ++ ";" ++ "echo 'a; b' | cat") = do
      match ← runLine guest "cd /tmp || exit" with
      | .exit => pure .exit
      | .text printed => return (← runLine guest "echo 'a; b' | cat").after printed := by
  have ha : quoteAfter none "cd /tmp || exit".toList = none := by decide
  have hb : ∀ g ∈ (split "echo 'a; b' | cat").head?, g.joint = .start := by decide
  exact ⟨⟨ha, hb⟩, runLine_semicolon guest ha hb⟩

end Honeypot.Shell
