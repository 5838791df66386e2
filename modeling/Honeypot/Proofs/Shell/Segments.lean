import Honeypot.Proofs.Shell.Calls

/-!
# Commands of a line

What running the commands of a line comes to, one command at a time. Every command that a line is
cut into has a name (`isSome_parse?_of_mem_split`), so that each of them is either passed over or
dispatched.
-/

namespace Honeypot.Shell

/-! ## Names -/

theorem isSome_parse?_of_mem_split {line : String} {segment : Segment}
    (h : segment ∈ split line) : (Invocation.parse? segment.text).isSome = true := by
  obtain ⟨piece, _, hsegment⟩ := List.mem_filterMap.mp h
  unfold segment? at hsegment
  dsimp only at hsegment
  split at hsegment
  · cases hsegment
  · next hbody =>
    cases hsegment
    obtain ⟨c, hmem, hc⟩ :=
      Text.exists_mem_dropEnds fun hnil => hbody (List.isEmpty_iff.mpr hnil)
    obtain ⟨name, tokens, hwords⟩ := List.exists_cons_of_ne_nil (Text.words_ne_nil hc hmem)
    unfold Invocation.parse?
    dsimp only
    rw [hwords]
    rfl

/-! ## One command at a time -/

namespace Segment

/-- Whether a command is passed over, by whether the latest command has failed. -/
def isPassedOver (segment : Segment) (failed : Bool) : Bool :=
  segment.joint = .onSuccess && failed || segment.joint = .onFailure && !failed

/-- What a command after a bar takes from the outputs so far; the others keep the input of the
line. -/
def takes? (segment : Segment) (input? : Option String) (outputs : List String) : Option String :=
  if segment.joint = .pipe then some (outputs.headD "") else input?

/-- What a command leaves of the outputs so far. -/
def leaves (segment : Segment) (outputs : List String) : List String :=
  if segment.joint = .pipe then outputs.drop 1 else outputs

end Segment

variable {c : Context} {outputs : List String} {failed : Bool} {segment : Segment}
  {rest : List Segment}

theorem runSegments_nil :
    runSegments c outputs failed [] = pure (.text (String.join outputs.reverse)) := by
  rw [runSegments]

theorem runSegments_of_passedOver (h : segment.isPassedOver failed = true) :
    runSegments c outputs failed (segment :: rest) = runSegments c outputs failed rest := by
  rw [runSegments]
  exact if_pos h

theorem runSegments_of_nameless (h : Invocation.parse? segment.text = none) :
    runSegments c outputs failed (segment :: rest) = runSegments c outputs failed rest := by
  rw [runSegments]
  split
  · rfl
  · split
    · rfl
    · next inv hinv =>
      rw [h] at hinv
      cases hinv

/-- A command that is not passed over is dispatched with what it takes. -/
theorem runSegments_of_runs {inv : Invocation} (h : segment.isPassedOver failed = false)
    (hinv : Invocation.parse? segment.text = some inv) :
    runSegments c outputs failed (segment :: rest) =
      dispatch { c with input? := segment.takes? c.input? outputs } inv >>= fun
        | .exit => pure .exit
        | .text output =>
          runSegments c (output :: segment.leaves outputs) (inv.failed output) rest := by
  rw [runSegments]
  refine (if_neg (Bool.eq_false_iff.mp h)).trans ?_
  split
  · next hnone =>
    rw [hinv] at hnone
    cases hnone
  · next found hfound =>
    cases hinv.symm.trans hfound
    rfl

/-- **What holds of the commands of a line** holds of the run of the line, if it holds of runs that
do nothing and goes over from steps to what they make up. -/
theorem runSegments_induction {P : Action Response → Prop} {segments : List Segment}
    (hpure : ∀ response, P (pure response))
    (hbind : ∀ (m : Action Response) f, P m → (∀ response, P (f response)) → P (m >>= f))
    (h : ∀ segment ∈ segments, ∀ inv, Invocation.parse? segment.text = some inv →
      ∀ input?, P (dispatch { c with input? } inv))
    (outputs : List String) (failed : Bool) : P (runSegments c outputs failed segments) := by
  induction segments generalizing outputs failed with
  | nil =>
    rw [runSegments_nil]
    exact hpure _
  | cons segment rest ih =>
    obtain ⟨hfirst, hrest⟩ := List.forall_mem_cons.mp h
    cases hpassed : segment.isPassedOver failed with
    | true =>
      rw [runSegments_of_passedOver hpassed]
      exact ih hrest outputs failed
    | false =>
      cases hinv : Invocation.parse? segment.text with
      | none =>
        rw [runSegments_of_nameless hinv]
        exact ih hrest outputs failed
      | some inv =>
        rw [runSegments_of_runs hpassed hinv]
        refine hbind _ _ (hfirst inv hinv _) fun response => ?_
        cases response with
        | exit => exact hpure _
        | text output => exact ih hrest _ (inv.failed output)

/-- A command is either left out, or it is dispatched and the commands behind it run. -/
theorem runSegments_cons (c : Context) (failed : Bool) (segment : Segment) :
    (∀ outputs rest,
      runSegments c outputs failed (segment :: rest) = runSegments c outputs failed rest) ∨
    ∃ inv, ∀ outputs rest, runSegments c outputs failed (segment :: rest) =
      dispatch { c with input? := segment.takes? c.input? outputs } inv >>= fun
        | .exit => pure .exit
        | .text output =>
          runSegments c (output :: segment.leaves outputs) (inv.failed output) rest := by
  cases hpassed : segment.isPassedOver failed with
  | true => exact .inl fun _ _ => runSegments_of_passedOver hpassed
  | false =>
    cases hinv : Invocation.parse? segment.text with
    | none => exact .inl fun _ _ => runSegments_of_nameless hinv
    | some inv => exact .inr ⟨inv, fun _ _ => runSegments_of_runs hpassed hinv⟩

end Honeypot.Shell
