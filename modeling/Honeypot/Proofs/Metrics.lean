import Mathlib.Data.List.Infix
import Mathlib.Data.List.Induction
import Honeypot.Metrics.Collector

/-!
# Sessions that are counted twice

A collector counts the open sessions by a number that stops at zero and by a gauge that does not.
The gauge is always the starts less the ends. The number is ahead of it by the greatest lead that
the ends ever had over the starts, so that the two agree exactly as long as no end comes without a
start before it (`gauge_eq_active_iff`), and never again after that.
-/

namespace Honeypot.Metrics

/-! ## What a collector is told -/

/-- Something that a collector is told of. -/
inductive Call where
  | connection (verdict : String)
  | start
  | finish (duration : Float)
  | attempt (method : String)
  | command (outcome : String)
  | download (tool : String)

def Call.isStart : Call → Bool
  | .start => true
  | _ => false

def Call.isFinish : Call → Bool
  | .finish _ => true
  | _ => false

def starts (calls : List Call) : Nat := calls.countP Call.isStart

def finishes (calls : List Call) : Nat := calls.countP Call.isFinish

namespace Collector

def hear (c : Collector) : Call → Collector
  | .connection verdict => c.connected verdict
  | .start => c.started
  | .finish duration => c.ended duration
  | .attempt method => c.authenticated method
  | .command outcome => c.ran outcome
  | .download tool => c.downloaded tool

/-- The collector after some calls, one after the other. -/
def heard (c : Collector) (calls : List Call) : Collector := calls.foldl hear c

end Collector

variable {calls : List Call} {lead : Nat}

theorem starts_concat (calls : List Call) (call : Call) :
    starts (calls ++ [call]) = starts calls + call.isStart.toNat := by
  unfold starts
  rw [List.countP_append, List.countP_singleton]
  cases call.isStart <;> rfl

theorem finishes_concat (calls : List Call) (call : Call) :
    finishes (calls ++ [call]) = finishes calls + call.isFinish.toNat := by
  unfold finishes
  rw [List.countP_append, List.countP_singleton]
  cases call.isFinish <;> rfl

/-! ## The lead of the ends -/

/-- Whether a number is the greatest lead that the ends had over the starts, after some calls or
before the first of them. -/
structure IsLead (calls : List Call) (lead : Nat) : Prop where
  bound : ∀ before, before <+: calls → finishes before ≤ starts before + lead
  reached : ∃ before, before <+: calls ∧ finishes before = starts before + lead

namespace IsLead

theorem nil : IsLead [] 0 where
  bound before h := by
    rw [List.prefix_nil.mp h]
    exact Nat.le_refl 0
  reached := ⟨[], List.prefix_refl [], rfl⟩

theorem concat (h : IsLead calls lead) {call : Call}
    (hle : finishes (calls ++ [call]) ≤ starts (calls ++ [call]) + lead) :
    IsLead (calls ++ [call]) lead where
  bound before hbefore := by
    obtain rfl | hbefore := List.prefix_concat_iff.mp hbefore
    · exact hle
    · exact h.bound before hbefore
  reached := by
    obtain ⟨before, hbefore, heq⟩ := h.reached
    exact ⟨before, hbefore.trans (List.prefix_append _ _), heq⟩

theorem surpassed (h : IsLead calls lead) {call : Call}
    (heq : finishes (calls ++ [call]) = starts (calls ++ [call]) + (lead + 1)) :
    IsLead (calls ++ [call]) (lead + 1) where
  bound before hbefore := by
    obtain rfl | hbefore := List.prefix_concat_iff.mp hbefore
    · exact Nat.le_of_eq heq
    · exact Nat.le_succ_of_le (h.bound before hbefore)
  reached := ⟨_, List.prefix_refl _, heq⟩

theorem eq_zero_iff (h : IsLead calls lead) :
    lead = 0 ↔ ∀ before, before <+: calls → finishes before ≤ starts before := by
  constructor
  · rintro rfl
    exact h.bound
  · intro hnever
    obtain ⟨before, hbefore, heq⟩ := h.reached
    have := hnever before hbefore
    omega

end IsLead

/-! ## The two counts -/

namespace Collector

/-- What the calls so far say about the two counts of a collector. -/
structure Balances (c : Collector) (calls : List Call) : Prop where
  gauge : c.gauge = starts calls - finishes calls
  active : ∃ lead : Nat, c.active = c.gauge + lead ∧ IsLead calls lead

namespace Balances

variable {c : Collector}

theorem fresh (profile : String) (begun : Float) : (Collector.fresh profile begun).Balances [] where
  gauge := rfl
  active := ⟨0, rfl, .nil⟩

theorem aside (h : c.Balances calls) {call : Call} (hstart : call.isStart = false)
    (hfinish : call.isFinish = false) {d : Collector} (hactive : d.active = c.active)
    (hgauge : d.gauge = c.gauge) : d.Balances (calls ++ [call]) := by
  have hstarts := starts_concat calls call
  have hfinishes := finishes_concat calls call
  rw [hstart] at hstarts
  rw [hfinish] at hfinishes
  obtain ⟨lead, hlead, hmost⟩ := h.active
  constructor
  · rw [hgauge, hstarts, hfinishes]
    exact h.gauge
  · refine ⟨lead, by rw [hactive, hgauge, hlead], hmost.concat ?_⟩
    rw [hstarts, hfinishes]
    exact hmost.bound calls (List.prefix_refl calls)

theorem started (h : c.Balances calls) : c.started.Balances (calls ++ [.start]) := by
  have hstarts : starts (calls ++ [.start]) = starts calls + 1 := starts_concat calls .start
  have hfinishes : finishes (calls ++ [.start]) = finishes calls := finishes_concat calls .start
  obtain ⟨lead, hlead, hmost⟩ := h.active
  have hbound := hmost.bound calls (List.prefix_refl calls)
  have hgauge := h.gauge
  constructor
  · show c.gauge + 1 = _
    rw [hstarts, hfinishes]
    omega
  · refine ⟨lead, ?_, hmost.concat (by omega)⟩
    show ((c.active + 1 : Nat) : Int) = c.gauge + 1 + lead
    omega

theorem ended (h : c.Balances calls) (duration : Float) :
    (c.ended duration).Balances (calls ++ [.finish duration]) := by
  have hstarts : starts (calls ++ [.finish duration]) = starts calls :=
    starts_concat calls (.finish duration)
  have hfinishes : finishes (calls ++ [.finish duration]) = finishes calls + 1 :=
    finishes_concat calls (.finish duration)
  obtain ⟨lead, hlead, hmost⟩ := h.active
  have hgauge := h.gauge
  constructor
  · show c.gauge - 1 = _
    rw [hstarts, hfinishes]
    omega
  · show ∃ lead : Nat, ((c.active - 1 : Nat) : Int) = c.gauge - 1 + lead ∧ _
    by_cases hnone : c.active = 0
    · exact ⟨lead + 1, by omega, hmost.surpassed (by omega)⟩
    · exact ⟨lead, by omega, hmost.concat (by omega)⟩

theorem hear (h : c.Balances calls) (call : Call) : (c.hear call).Balances (calls ++ [call]) := by
  cases call with
  | start => exact h.started
  | finish duration => exact h.ended duration
  | connection verdict => exact h.aside rfl rfl rfl rfl
  | attempt method => exact h.aside rfl rfl rfl rfl
  | command outcome => exact h.aside rfl rfl rfl rfl
  | download tool => exact h.aside rfl rfl rfl rfl

end Balances

theorem balances_heard (profile : String) (begun : Float) (calls : List Call) :
    ((fresh profile begun).heard calls).Balances calls := by
  induction calls using List.reverseRecOn with
  | nil => exact .fresh profile begun
  | append_singleton calls call ih =>
    unfold heard at ih ⊢
    rw [List.foldl_append]
    exact ih.hear call

/-- **The gauge and the number of active sessions** of a collector, after any calls since its
beginning. The gauge is the starts less the ends, and it is what is exposed; the number is ahead of
it by the greatest lead that the ends had over the starts; and the two agree exactly if there never
were more ends than starts. -/
theorem gauge_eq_active_iff (profile : String) (begun : Float) (calls : List Call) :
    let c := (fresh profile begun).heard calls
    (c.gauge = c.active ↔ ∀ before, before <+: calls → finishes before ≤ starts before) ∧
    c.gauge = starts calls - finishes calls ∧
    (∃ lead : Nat, c.active = c.gauge + lead ∧ IsLead calls lead) ∧
    ∀ now, ⟨"sshmon_sessions_active", "Currently active sessions", .gauge,
      [⟨"", [], Float.ofInt c.gauge⟩]⟩ ∈ c.families now := by
  intro c
  have hbalances := balances_heard profile begun calls
  obtain ⟨lead, hactive, hlead⟩ := hbalances.active
  change (c.active : Int) = c.gauge + lead at hactive
  refine ⟨?_, hbalances.gauge, ⟨lead, hactive, hlead⟩, fun now => ?_⟩
  · have hagree : c.gauge = c.active ↔ lead = 0 := by
      rw [hactive]
      omega
    exact hagree.trans hlead.eq_zero_iff
  · unfold families
    exact List.mem_cons_of_mem _ List.mem_cons_self

/-- An end without a start leaves the gauge below zero, and a start after it makes up for it with
one session active. -/
theorem gauge_lags_after_surplus_end :
    let c := (fresh "" 0).heard [.finish 1]
    (c.gauge = -1 ∧ c.active = 0) ∧
    (c.hear .start).gauge = 0 ∧ (c.hear .start).active = 1 :=
  ⟨⟨rfl, rfl⟩, rfl, rfl⟩

end Collector

end Honeypot.Metrics
