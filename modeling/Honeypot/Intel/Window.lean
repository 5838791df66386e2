import Honeypot.Clock

/-!
# Rolling windows

A list of the times of calls, the oldest first, of which those older than a span of time do not
count any more.
-/

namespace Honeypot.Intel

variable {τ : Type} [Clock τ]

/-- The calls that are younger than the window, up to the first of them. -/
def recent (window now : τ) (calls : List τ) : List τ :=
  calls.dropWhile fun t => window ≤ now - t

/-- Makes a call unless the limit is reached: whether it was made, and the calls that count. -/
def take (limit : Int) (window now : τ) (calls : List τ) : Bool × List τ :=
  let calls := recent window now calls
  if limit ≤ calls.length then (false, calls) else (true, calls ++ [now])

end Honeypot.Intel
