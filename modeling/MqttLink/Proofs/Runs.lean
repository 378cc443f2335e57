import MqttLink.Session.Operation
import MqttLink.Session.Step

/-!
# Runs of a session

Whoever can act next acts: the loop, the caller or the outside, in any order and at any times. What
one step of the loop or of the caller can do is said once, in `LoopStep` and `CallStep`.
-/

namespace MqttLink

/-- Neither a connect nor a disconnect is under way. -/
def Call.isOver {δ φ : Type} : Call δ φ → Bool
  | idle | finished _ => true
  | stopping _ | leaving .. | joining _ | dialing _ => false

namespace Session

variable {ω κ δ φ : Type}

/-! ## What the parts of a session keep -/

@[simp] theorem update_state (f : State κ → State κ) (x : Session ω κ δ φ) :
    (x.update f).state = f x.state := rfl
@[simp] theorem update_settings (f : State κ → State κ) (x : Session ω κ δ φ) :
    (x.update f).settings = x.settings := rfl
@[simp] theorem update_loop (f : State κ → State κ) (x : Session ω κ δ φ) :
    (x.update f).loop = x.loop := rfl
@[simp] theorem update_call (f : State κ → State κ) (x : Session ω κ δ φ) :
    (x.update f).call = x.call := rfl
@[simp] theorem update_outside (f : State κ → State κ) (x : Session ω κ δ φ) :
    (x.update f).outside = x.outside := rfl

@[simp] theorem act_state (f : State κ → ω → State κ × ω) (x : Session ω κ δ φ) :
    (x.act f).state = (f x.state x.outside).1 := rfl
@[simp] theorem act_settings (f : State κ → ω → State κ × ω) (x : Session ω κ δ φ) :
    (x.act f).settings = x.settings := rfl
@[simp] theorem act_loop (f : State κ → ω → State κ × ω) (x : Session ω κ δ φ) :
    (x.act f).loop = x.loop := rfl
@[simp] theorem act_call (f : State κ → ω → State κ × ω) (x : Session ω κ δ φ) :
    (x.act f).call = x.call := rfl
@[simp] theorem act_outside (f : State κ → ω → State κ × ω) (x : Session ω κ δ φ) :
    (x.act f).outside = (f x.state x.outside).2 := rfl

@[simp] theorem setPhase_state (p : Phase κ δ) (x : Session ω κ δ φ) :
    (x.setPhase p).state = x.state := rfl
@[simp] theorem setPhase_settings (p : Phase κ δ) (x : Session ω κ δ φ) :
    (x.setPhase p).settings = x.settings := rfl
@[simp] theorem setPhase_loop (p : Phase κ δ) (x : Session ω κ δ φ) :
    (x.setPhase p).loop = x.loop.map fun l => { l with phase := p, awake := p.isWork } := rfl
@[simp] theorem setPhase_call (p : Phase κ δ) (x : Session ω κ δ φ) :
    (x.setPhase p).call = x.call := rfl
@[simp] theorem setPhase_outside (p : Phase κ δ) (x : Session ω κ δ φ) :
    (x.setPhase p).outside = x.outside := rfl

@[simp] theorem block_state (x : Session ω κ δ φ) : x.block.state = x.state := rfl
@[simp] theorem block_settings (x : Session ω κ δ φ) : x.block.settings = x.settings := rfl
@[simp] theorem block_loop (x : Session ω κ δ φ) :
    x.block.loop = x.loop.map fun l => { l with awake := false } := rfl
@[simp] theorem block_call (x : Session ω κ δ φ) : x.block.call = x.call := rfl
@[simp] theorem block_outside (x : Session ω κ δ φ) : x.block.outside = x.outside := rfl

variable (b : Backend ω κ δ φ)

@[simp] theorem wait_state (now time : Nat) (p : Appointment → Phase κ δ) (x : Session ω κ δ φ) :
    (x.wait b now time p).state = x.state := by
  unfold wait goOn
  dsimp only
  split <;> rfl

@[simp] theorem wait_settings (now time : Nat) (p : Appointment → Phase κ δ) (x : Session ω κ δ φ) :
    (x.wait b now time p).settings = x.settings := by
  unfold wait goOn
  dsimp only
  split <;> rfl

@[simp] theorem wait_call (now time : Nat) (p : Appointment → Phase κ δ) (x : Session ω κ δ φ) :
    (x.wait b now time p).call = x.call := by
  unfold wait goOn
  dsimp only
  split <;> rfl

/-- Whoever waits has an appointment. -/
theorem wait_loop (now time : Nat) (p : Appointment → Phase κ δ) (x : Session ω κ δ φ) :
    ∃ awake, (x.wait b now time p).loop = x.loop.map fun l =>
      { l with phase := p (b.appoint (Clock.after now time) x.outside).1, awake } := by
  unfold wait goOn
  dsimp only
  split
  · exact ⟨true, by simp [Function.comp_def]⟩
  · exact ⟨_, rfl⟩

@[simp] theorem endLoop_state (x : Session ω κ δ φ) (p : Phase κ δ) :
    (x.endLoop b p).state = x.state := by
  unfold endLoop
  split <;> rfl

@[simp] theorem endLoop_settings (x : Session ω κ δ φ) (p : Phase κ δ) :
    (x.endLoop b p).settings = x.settings := by
  unfold endLoop
  split <;> rfl

@[simp] theorem endLoop_call (x : Session ω κ δ φ) (p : Phase κ δ) :
    (x.endLoop b p).call = x.call := by
  unfold endLoop
  split <;> rfl

theorem endLoop_loop (x : Session ω κ δ φ) (p : Phase κ δ) :
    (x.endLoop b p).loop = x.loop.map fun l => { l with phase := .ended, awake := false } := by
  unfold endLoop
  split <;> rfl

/-! ## Moves -/

/-- Whoever acts next. The times need not be in order. -/
inductive Move (ω : Type) where
  | loop (now : Nat)
  | call (now : Nat)
  | connect (now : Nat) (request : ConnectRequest) (handler : Option Handler)
  | disconnect (now : Nat)
  | operate (op : Operation)
  /-- The outside becomes anything at all. -/
  | outside (w : ω)
  /-- The messages handed over so far are taken away. -/
  | collect
  /-- The caller has seen the result of its operation. -/
  | rest

/-- A caller does one thing at a time, and an operation waits for the shared record. -/
def Move.Allowed (x : Session ω κ δ φ) : Move ω → Prop
  | connect .. | disconnect _ | rest => x.call.isOver = true
  | operate _ => x.call.holdsState = false
  | loop _ | call _ | outside _ | collect => True

def Move.run (x : Session ω κ δ φ) : Move ω → Session ω κ δ φ
  | loop now => (x.stepLoop b now).2
  | call now => (x.stepCall b now).2
  | connect now request handler => x.connect b now request handler
  | disconnect now => x.disconnect b now
  | operate op => (x.operate b op).2
  | outside w => { x with outside := w }
  | collect => { x with delivered := #[] }
  | rest => { x with call := .idle }

inductive Reachable : Session ω κ δ φ → Prop
  | new (settings : Settings) (w : ω) : Reachable { settings, outside := w }
  | move {x : Session ω κ δ φ} {m : Move ω} (reachable : Reachable x) (allowed : m.Allowed x) :
      Reachable (m.run b x)

/-! ## What runs is a run -/

variable {b}

theorem Reachable.loop {x : Session ω κ δ φ} (r : Reachable b x) (now : Nat) :
    Reachable b (x.stepLoop b now).2 :=
  r.move (m := .loop now) trivial

theorem Reachable.outside {x : Session ω κ δ φ} (r : Reachable b x) (w : ω) :
    Reachable b { x with outside := w } :=
  r.move (m := .outside w) trivial

/-- What each step keeps or leaves by going on. -/
theorem firstOf_keeps {P Q : Session ω κ δ φ → Prop}
    {steps : List (Session ω κ δ φ → Bool × Session ω κ δ φ)}
    (each : ∀ f ∈ steps, ∀ y, P y → P (f y).2 ∨ (f y).1 = true ∧ Q (f y).2) {x : Session ω κ δ φ}
    (h : P x) : P (x.firstOf steps).2 ∨ Q (x.firstOf steps).2 := by
  induction steps generalizing x with
  | nil => exact .inl h
  | cons f rest ih =>
    have went := each f List.mem_cons_self x h
    unfold Session.firstOf
    split
    · rename_i y e
      rw [e] at went
      exact went.imp_right And.right
    · rename_i y e
      rw [e] at went
      have next := went.resolve_right fun goesOn => absurd goesOn.1 Bool.false_ne_true
      exact ih (fun g mem => each g (List.mem_cons_of_mem _ mem)) next

theorem Reachable.stepOutside (o : Outside ω) (now : Nat) (before : Option Nat)
    {x : Session ω κ δ φ} (r : Reachable b x) : Reachable b (x.stepOutside o now before).2 := by
  unfold Session.stepOutside
  split
  · exact r.outside _
  · exact r

theorem Reachable.step (o : Outside ω) (now : Nat) {x : Session ω κ δ φ} (r : Reachable b x) :
    Reachable b (x.step b o now).2 := by
  refine (firstOf_keeps (Q := fun _ => False) (fun f hf y ry => .inl ?_) r).resolve_right id
  simp only [List.mem_cons, List.not_mem_nil, or_false] at hf
  rcases hf with rfl | rfl | rfl | rfl | rfl
  · exact ry.move (m := .call now) trivial
  · unfold stepWork
    split
    · exact ry.loop now
    · exact ry
  · exact ry.stepOutside o now _
  · exact ry.loop now
  · exact ry.stepOutside o now none

/-- An instant of a session is part of a run. -/
theorem Reachable.settle (o : Outside ω) (now : Nat) {x : Session ω κ δ φ} (r : Reachable b x) :
    Reachable b (x.settle b o now) := by
  unfold Session.settle
  generalize stepsPerInstant = steps
  induction steps generalizing x with
  | zero => exact r
  | succ steps ih =>
    have h := r.step o now
    unfold settleIn
    split
    · rename_i y e
      rw [e] at h
      exact ih h
    · rename_i y e
      rwa [e] at h

end Session

end MqttLink
