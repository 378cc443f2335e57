import MqttLink.Proofs.Connecting

/-!
# Time

Whoever acts, acts at the present time. Before any time passes the caller's operation and the loop are asked,
and neither of them can go on. Then it passes up to the next time at which one of them wants to be asked again.
-/

namespace MqttLink.Session

variable {ω κ δ φ : Type}

/-- Whoever does something at a time does it now. -/
def Move.IsAt (now : Nat) : Move ω → Prop
  | loop t | call t | connect t .. | disconnect t => t = now
  | operate _ | outside _ | collect | rest => True

variable (b : Backend ω κ δ φ)

/-- Time passes. Whoever wanted to be asked again by now is asked again soon. -/
inductive Passes (now later : Nat) (x z : Session ω κ δ φ) : Prop
  | intro {y : Session ω κ δ φ} (le : now ≤ later) (call : x.stepCall b now = (false, y))
      (loop : y.stepLoop b now = (false, z))
      (callWake : ∀ due, z.callWake b = some due → later ≤ max (now + 1) due)
      (loopWake : ∀ time, z.appointment? b = some time → later ≤ max (now + 1) time.due)

/-- Any moves, each at its time, since a session was `x₀` at a time `t₀` and for as long as `may` holds. -/
inductive Timed (may : Session ω κ δ φ → Prop) (t₀ : Nat) (x₀ : Session ω κ δ φ) :
    Nat → Session ω κ δ φ → Prop
  | start : Timed may t₀ x₀ t₀ x₀
  | move {now : Nat} {x : Session ω κ δ φ} {m : Move ω} (run : Timed may t₀ x₀ now x) (granted : may x)
      (allowed : m.Allowed x) (present : m.IsAt now) : Timed may t₀ x₀ now (m.run b x)
  | pass {now later : Nat} {x z : Session ω κ δ φ} (run : Timed may t₀ x₀ now x) (granted : may x)
      (passes : Passes b now later x z) : Timed may t₀ x₀ later z

variable {b} {x z : Session ω κ δ φ} {now later : Nat}

/-- Whether time can pass is a matter of computation. -/
theorem Passes.of_idle (later : Nat) (le : now ≤ later) (call : (x.stepCall b now).1 = false)
    (loop : ((x.stepCall b now).2.stepLoop b now).1 = false)
    (callWake : (((x.stepCall b now).2.stepLoop b now).2.callWake b).all (later ≤ max (now + 1) ·))
    (loopWake : (((x.stepCall b now).2.stepLoop b now).2.appointment? b).all
      (later ≤ max (now + 1) ·.due)) :
    Passes b now later x ((x.stepCall b now).2.stepLoop b now).2 := by
  refine .intro le (Prod.ext call rfl) (Prod.ext loop rfl) (fun due is => ?_) fun time is => ?_
  · simpa [is] using callWake
  · simpa [is] using loopWake

theorem Passes.reachable (passes : Passes b now later x z) (r : Reachable b x) : Reachable b z := by
  obtain ⟨-, call, loop, -, -⟩ := passes
  have r := r.move (m := .call now) trivial
  rw [Move.run, call] at r
  have r := r.move (m := .loop now) trivial
  rwa [Move.run, loop] at r

theorem Timed.reachable {may : Session ω κ δ φ → Prop} {t₀ : Nat} {x₀ : Session ω κ δ φ}
    (run : Timed b may t₀ x₀ now x) (r : Reachable b x₀) : Reachable b x := by
  induction run with
  | start => exact r
  | move run granted allowed present ih => exact ih.move allowed
  | pass run granted passes ih => exact passes.reachable ih

theorem Timed.trans {may : Session ω κ δ φ → Prop} {t₀ t₁ : Nat} {x₀ x₁ : Session ω κ δ φ}
    (run : Timed b may t₀ x₀ t₁ x₁) (run' : Timed b may t₁ x₁ now x) : Timed b may t₀ x₀ now x := by
  induction run' with
  | start => exact run
  | move _ granted allowed present ih => exact ih.move granted allowed present
  | pass _ granted passes ih => exact ih.pass granted passes

theorem Timed.le {may : Session ω κ δ φ → Prop} {t₀ : Nat} {x₀ : Session ω κ δ φ}
    (run : Timed b may t₀ x₀ now x) : t₀ ≤ now := by
  induction run with
  | start => exact Nat.le_refl _
  | move run granted allowed present ih => exact ih
  | pass run granted passes ih => exact ih.trans (by cases passes; assumption)

end MqttLink.Session
