/-
TaskFlow.Engine.Host — the surroundings of a run.

A run calls functions, asks whether it has been cancelled and looks through the overrides. All three
belong to a host, which may be in any state `W` and changes it with every call.

  §1 Calls  — `Call` says when a call is answered, how, and in which state it leaves the host.
  §2 Limits — `Call.await` waits for an answer up to a limit.
  §3 Hosts  — `Host`.
-/
import TaskFlow.Engine.Message
import TaskFlow.Overrides

namespace TaskFlow

/-! ## §1 Calls -/

/-- A call of a function. -/
structure Call (W : Type) where
  /-- Milliseconds until the answer; nothing for a call that is never answered. -/
  delay : Option Nat
  answer : Except Error Response
  /-- The host once the call is answered. -/
  answered : W
  /-- The host if the caller stops waiting before. -/
  abandoned : W

/-! ## §2 Limits -/

/-- What came of waiting for a call. -/
structure Awaited (W : Type) where
  world : W
  /-- Milliseconds spent waiting. -/
  waited : Nat
  /-- The answer; nothing when the limit came first. -/
  answer : Option (Except Error Response)

/-- Wait for the answer of a call. An answer that is there at once or comes within the limit is taken;
else the call is abandoned at the limit. -/
def Call.await {W : Type} (call : Call W) (limit : Nat) : Awaited W :=
  match call.delay with
  | some delay =>
    if delay = 0 ∨ delay < limit then ⟨call.answered, delay, some call.answer⟩
    else ⟨call.abandoned, limit, none⟩
  | none => ⟨call.abandoned, limit, none⟩

/-! ## §3 Hosts -/

/-- The surroundings of a run. -/
structure Host (W : Type) where
  /-- A call of a route with a request, the caller waiting up to a limit. -/
  dispatch : W → (route : String) → Request → (limit : Nat) → Call W
  /-- The run has been cancelled, asked before the task that follows so many others. -/
  cancelled : Nat → W → Bool
  overrides : W → Overrides

end TaskFlow
