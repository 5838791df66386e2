import Honeypot.FileSystem.Reading
import Honeypot.Proofs.FileSystem.Logs

/-!
# What reading a file may fail for

The text of a made-up file tells of the device and of the clock, and reading it fails where these do
not make sense. It makes no calls: nothing lies too deeply for it (`faultsWithin_read`).
-/

namespace Honeypot

/-- Whether a fault has nothing to do with how deep things lie in one another. -/
def Fault.IsShallow (e : Fault) : Prop := e ≠ .tooDeep

/-! ## Results -/

theorem forall_error_bind {ε α β : Type} {P : ε → Prop} {r : Except ε α} {f : α → Except ε β}
    (hr : ∀ e, r = .error e → P e) (hf : ∀ a e, f a = .error e → P e) :
    ∀ e, r >>= f = .error e → P e := by
  intro e h
  cases r with
  | error e' =>
    cases h
    exact hr e rfl
  | ok a => exact hf a e h

theorem isShallow_ofDate {α : Type} (r : Except Calendar.Fault α) :
    ∀ e, Fault.ofDate r = .error e → e.IsShallow := by
  rintro e h rfl
  cases r <;> cases h

theorem isShallow_share (n : Int) (part : Float) :
    ∀ e, Hardware.share n part = .error e → e.IsShallow := by
  rintro e h rfl
  unfold Hardware.share at h
  split at h <;> cases h

theorem isShallow_memory (p : Persona) : ∀ e, Hardware.memory p = .error e → e.IsShallow := by
  have hpart (part : Float) := isShallow_share p.memTotalKb part
  unfold Hardware.memory
  refine forall_error_bind (hpart _) fun _ => forall_error_bind (hpart _) fun _ => ?_
  refine forall_error_bind (hpart _) fun _ => forall_error_bind (hpart _) fun _ => ?_
  exact forall_error_bind (hpart _) fun _ => forall_error_bind (hpart _) fun _ => nofun

theorem isShallow_kernelLine (p : Persona) :
    ∀ e, Hardware.kernelLine p = .error e → e.IsShallow := by
  rintro e h rfl
  unfold Hardware.kernelLine at h
  split at h <;> cases h

theorem isShallow_gateway (p : Persona) : ∀ e, p.gateway = .error e → e.IsShallow := by
  rintro e h rfl
  unfold Persona.gateway Persona.address at h
  split at h <;> cases h

/-! ## Files -/

theorem faultsWithin_source (p : Persona) (now : Float) (source : Source) :
    FaultsWithin Fault.IsShallow (source.read p now) := by
  have hbase (minutes : Int) : FaultsWithin Fault.IsShallow
      (liftM (Logs.base now minutes) : Draws Calendar.Instant) := .lift (isShallow_ofDate _)
  cases source with
  | resolver => exact .bind (.lift (isShallow_gateway p)) fun _ => .pure _
  | memory => exact .lift (isShallow_memory p)
  | kernelVersion => exact .bind (.lift (isShallow_kernelLine p)) fun _ => .pure _
  | logins =>
    refine .bind (hbase _) fun base => .bind ?_ fun _ => .pure _
    exact (Logs.gives_repeated (Logs.gives_loginLine p base) _).faultsWithin
  | systemLog =>
    refine .bind (hbase _) fun base => .bind ?_ fun _ => .pure _
    exact (Logs.gives_repeated (Logs.gives_systemLine p base) _).faultsWithin
  | _ => exact .pure _

/-- **Reading a node** fails for no lack of room. -/
theorem faultsWithin_read (p : Persona) (now : Float) (node : Node) :
    FaultsWithin Fault.IsShallow (node.read p now) := by
  unfold Node.read Content.read
  split
  · split
    · exact .pure _
    · exact faultsWithin_source p now _
  · exact .pure _

end Honeypot
