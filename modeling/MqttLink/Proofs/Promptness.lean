import MqttLink.Proofs.Timing

/-!
# Prompt disconnects

A disconnect waits for the loop, which ends at its next turn wherever it stands, and for one farewell, which
has two deadlines. Main statement: nothing else delays it, whatever the peer does.
-/

namespace MqttLink

variable {ω κ δ φ σ : Type}

/-! ## Farewells -/

namespace Farewell

variable {f f' : Farewell} {c c' : Client} {s s' : σ} {now : Nat}

/-- When it is over at the latest. Before the stream is closed there is a second wait to come. -/
def limit (f : Farewell) : Nat :=
  match f.stage with
  | .sending _ | .flushing => f.deadline + patience
  | .closing => f.deadline

theorem deadline_le_limit (f : Farewell) : f.deadline ≤ f.limit := by
  unfold limit
  split <;> omega

theorem limit_of_open {stage : Stage} (isOpen : stage ≠ .closing) (deadline : Nat) :
    limit ⟨deadline, stage⟩ = deadline + patience := by
  cases stage with
  | sending | flushing => rfl
  | closing => exact absurd rfl isOpen

theorem limit_leave (left : c.leave now = (.ok f, c')) :
    f.deadline = now + patience ∧ f.limit = now + 2 * patience := by
  unfold Client.leave at left
  split at left
  · cases left
  · cases left
    exact ⟨rfl, by simp only [limit]; omega⟩

/-- A farewell that has to wait is not late, and if it was not late before it has won no time. -/
structure Waits (now : Nat) (f f' : Farewell) : Prop where
  early : now < f'.deadline
  limit : now ≤ f.deadline → f'.limit ≤ f.limit

theorem waits_block {stage : Stage} {deadline : Nat} (isOpen : stage ≠ .closing)
    (polled : block now ⟨deadline, stage⟩ c s = (.waiting f', c', s')) :
    now < f'.deadline ∧ f'.limit = deadline + patience := by
  unfold block at polled
  split at polled
  · cases polled
  · rename_i early
    cases polled
    exact ⟨Nat.not_le.1 early, limit_of_open isOpen deadline⟩

variable [ByteStream σ]

theorem waits_pollClose {stage : Stage} {deadline : Nat}
    (polled : pollClose now ⟨deadline, stage⟩ c s = (.waiting f', c', s')) :
    now < f'.deadline ∧ f'.limit = deadline := by
  unfold pollClose at polled
  split at polled
  · cases polled
  · split at polled
    · cases polled
    · rename_i early
      cases polled
      exact ⟨Nat.not_le.1 early, rfl⟩

theorem waits_pollFlush {stage : Stage} {deadline : Nat}
    (polled : pollFlush now ⟨deadline, stage⟩ c s = (.waiting f', c', s')) :
    now < f'.deadline ∧ (now ≤ deadline → f'.limit ≤ deadline + patience) := by
  unfold pollFlush at polled
  split at polled
  · cases polled
  · obtain ⟨early, limit⟩ := waits_block (by simp) polled
    exact ⟨early, fun _ => Nat.le_of_eq limit⟩
  · -- The second wait begins no later than the first would have ended.
    obtain ⟨early, limit⟩ := waits_pollClose polled
    exact ⟨early, fun onTime => limit.trans_le (Nat.add_le_add_right onTime _)⟩

theorem waits_poll (polled : f.poll now c s = (.waiting f', c', s')) : Waits now f f' := by
  obtain ⟨deadline, stage⟩ := f
  unfold poll at polled
  cases stage with
  | sending rest =>
    dsimp only at polled
    split at polled
    · cases polled
    · obtain ⟨early, limit⟩ := waits_block (by simp) polled
      exact ⟨early, fun _ => Nat.le_of_eq limit⟩
    · obtain ⟨early, limit⟩ := waits_pollFlush polled
      exact ⟨early, limit⟩
  | flushing =>
    obtain ⟨early, limit⟩ := waits_pollFlush polled
    exact ⟨early, limit⟩
  | closing =>
    obtain ⟨early, limit⟩ := waits_pollClose polled
    exact ⟨early, fun _ => Nat.le_of_eq limit⟩

end Farewell

/-- A backend whose clients take leave of a byte stream each. The far side of a stream may do anything. -/
structure Partings (b : Backend ω κ δ φ) (σ : Type) [ByteStream σ] where
  /-- What is left of a farewell, if there is anything to wait for. -/
  farewell : φ → Option Farewell
  leave : ∀ {now client w f w' g}, b.leave now client w = (f, w') → farewell f = some g →
    ∃ c c' : Client, c.leave now = (.ok g, c')
  goOn : ∀ {now f w f' w'}, b.pollLeave now f w = (.waiting f', w') →
    ∃ g g', farewell f = some g ∧ farewell f' = some g' ∧
      ∃ (c c' : Client) (s s' : σ), g.poll now c s = (.waiting g', c', s')
  wake : ∀ {f g}, farewell f = some g → b.leaveWake f = g.deadline

namespace Partings

variable [ByteStream σ] {b : Backend ω κ δ φ} (P : Partings b σ) {f f' : φ} {w w' : ω}
  {now later limit : Nat}

/-- It is not late, and over by the limit. -/
def InTime (limit now : Nat) (f : φ) : Prop :=
  now ≤ limit ∧ ∀ g, P.farewell f = some g → now ≤ g.deadline ∧ g.limit ≤ limit

variable {P}

theorem inTime_leave {client : κ} (left : b.leave now client w = (f, w')) :
    P.InTime (now + 2 * Farewell.patience) now f := by
  refine ⟨Nat.le_add_right .., fun g is => ?_⟩
  obtain ⟨c, c', went⟩ := P.leave left is
  obtain ⟨deadline, limit⟩ := Farewell.limit_leave went
  exact ⟨by omega, limit.le⟩

theorem InTime.goOn (inTime : P.InTime limit now f)
    (polled : b.pollLeave now f w = (.waiting f', w')) : P.InTime limit now f' ∧ now < limit := by
  obtain ⟨g, g', is, is', c, c', s, s', went⟩ := P.goOn polled
  have waits := Farewell.waits_poll went
  obtain ⟨onTime, bound⟩ := inTime.2 g is
  have bound' := (waits.limit onTime).trans bound
  refine ⟨⟨inTime.1, fun h same => ?_⟩, ?_⟩
  · cases is'.symm.trans same
    exact ⟨waits.early.le, bound'⟩
  · exact waits.early.trans_le (g'.deadline_le_limit.trans bound')

/-- Time passes up to the deadline. -/
theorem InTime.pass (inTime : P.InTime limit now f)
    (polled : b.pollLeave now f w = (.waiting f', w')) (wake : later ≤ max (now + 1) (b.leaveWake f')) :
    P.InTime limit later f' := by
  obtain ⟨g, g', is, is', c, c', s, s', went⟩ := P.goOn polled
  have early := (Farewell.waits_poll went).early
  have bound := (inTime.goOn polled).1.2 g' is'
  rw [P.wake is'] at wake
  have le_limit := g'.deadline_le_limit
  refine ⟨by omega, fun h same => ?_⟩
  cases is'.symm.trans same
  exact ⟨by omega, bound.2⟩

end Partings

/-! ## A disconnect on the clock -/

namespace Session

variable {b : Backend ω κ δ φ} {x y z : Session ω κ δ φ}

theorem stepLoop_state_of_stopping (stopping : ∀ l, x.loop = some l → l.stopping = true) (now : Nat) :
    (x.stepLoop b now).2.state = x.state := by
  unfold stepLoop
  split
  · rfl
  · rename_i l running
    split
    · rfl
    · rw [if_pos (stopping l running)]
      exact endLoop_state b x _

/-- A loop that was told to stop goes on to its end. -/
theorem stepLoop_of_stopping {l : Loop κ δ} (running : x.loop = some l) (stopping : l.stopping = true)
    (alive : l.phase ≠ .ended) (now : Nat) : (x.stepLoop b now).1 = true := by
  unfold stepLoop
  rw [running]
  dsimp only
  split
  · rename_i ended
    exact absurd ended alive
  · rw [if_pos stopping]

theorem LoopOver.stepLoop (ended : x.LoopOver) (now : Nat) : x.stepLoop b now = (false, x) := by
  unfold Session.stepLoop
  split
  · rfl
  · rename_i l running
    simp [ended l running]

theorem LoopOver.appointment? (ended : x.LoopOver) : x.appointment? b = none := by
  unfold Session.appointment?
  cases loop : x.loop with
  | none => rfl
  | some l => simp [ended l loop]

variable [ByteStream σ] (P : Partings b σ) (since limit : Nat)

/-- Where a disconnect stands at a time. Only a session that was connected waits at all. -/
inductive Prompt (now : Nat) (x : Session ω κ δ φ) : Prop
  | begun (call : x.call = .stopping .disconnect) (at_once : now = since)
      (wait : x.state.status = .connected → limit = since + 2 * Farewell.patience)
  | leaving {f : φ} (call : x.call = .leaving .disconnect f)
      (wait : limit = since + 2 * Farewell.patience) (inTime : P.InTime limit now f)
  | joining (call : x.call = .joining .disconnect) (le : now ≤ limit)
  | returned (call : x.call = .finished (.ok ())) (le : now ≤ limit)

variable {P since limit} {now later : Nat}

theorem Prompt.le (prompt : Prompt P since limit now x) (le : since ≤ limit) : now ≤ limit := by
  cases prompt with
  | begun call at_once => rwa [at_once]
  | leaving call wait inTime => exact inTime.1
  | joining call le | returned call le => exact le

/-- As long as the caller's operation and the status stay, it is as prompt as before. -/
theorem Prompt.congr (prompt : Prompt P since limit now x) (call : y.call = x.call)
    (status : y.state.status = .connected → x.state.status = .connected) : Prompt P since limit now y := by
  cases prompt with
  | begun at_ at_once wait => exact .begun (call.trans at_) at_once fun up => wait (status up)
  | leaving at_ wait inTime => exact .leaving (call.trans at_) wait inTime
  | joining at_ le => exact .joining (call.trans at_) le
  | returned at_ le => exact .returned (call.trans at_) le

theorem Prompt.callStep {r : Bool × Session ω κ δ φ} (prompt : Prompt P since limit now x)
    (le : since ≤ limit) (s : CallStep b now x r) : Prompt P since limit now r.2 := by
  cases s with
  | stay => exact prompt
  | @leave goal client call up held =>
    cases prompt with
    | begun call' at_once wait =>
      cases call.symm.trans call'
      rcases left : b.leave now client x.outside with ⟨f, w⟩
      have inTime := Partings.inTime_leave (P := P) left
      have went : x.sayGoodbye b now .disconnect =
          { x with
            outside := w, state := { x.state with client := none }, call := .leaving .disconnect f } := by
        simp only [sayGoodbye, up, held, left]
      rw [at_once, ← wait up] at inTime
      rw [went, at_once]
      exact .leaving rfl (wait up) inTime
    | leaving call' | joining call' | returned call' => cases call.symm.trans call'
  | join call down =>
    cases prompt with
    | begun call' at_once =>
      cases call.symm.trans call'
      exact .joining rfl (at_once ▸ le)
    | leaving call' | joining call' | returned call' => cases call.symm.trans call'
  | leaveOn call polled =>
    cases prompt with
    | leaving call' wait inTime =>
      cases call.symm.trans call'
      exact .leaving rfl wait (inTime.goOn polled).1
    | begun call' | joining call' | returned call' => cases call.symm.trans call'
  | left call polled =>
    cases prompt with
    | leaving call' wait inTime =>
      cases call.symm.trans call'
      exact .joining rfl inTime.1
    | begun call' | joining call' | returned call' => cases call.symm.trans call'
  | clear call past =>
    cases prompt with
    | joining call' le =>
      cases call.symm.trans call'
      exact .returned rfl le
    | begun call' | leaving call' | returned call' => cases call.symm.trans call'
  | dialOn call | dialed call =>
    cases prompt with
    | begun call' | leaving call' | joining call' | returned call' => cases call.symm.trans call'

theorem operate_status (op : Operation) (up : (x.operate b op).2.state.status = .connected) :
    x.state.status = .connected := by
  by_contra down
  rw [operate_of_down b op down] at up
  exact down up

theorem Prompt.move {m : Move ω} (prompt : Prompt P since limit now x) (le : since ≤ limit) (inv : Inv x)
    (busy : x.call.isOver = false) (allowed : m.Allowed x) (present : m.IsAt now) :
    Prompt P since limit now (m.run b x) := by
  have stopping : ∀ l, x.loop = some l → l.stopping = true := by
    intro l loop
    rw [inv.asked l loop, busy]
    rfl
  cases m with
  | loop t =>
    obtain rfl : t = now := present
    refine prompt.congr (Session.loopStep b t x).call fun up => ?_
    rwa [Move.run, stepLoop_state_of_stopping stopping] at up
  | call t =>
    obtain rfl : t = now := present
    exact prompt.callStep le (Session.callStep b t x)
  | operate op => exact prompt.congr (Session.operateStep b op x).call (operate_status op)
  | connect | disconnect | rest => exact absurd allowed (by simp [Move.Allowed, busy])
  | outside | collect => exact prompt.congr rfl id

/-- Time passes for a farewell that waits, and for nothing else. -/
theorem Prompt.pass (prompt : Prompt P since limit now x) (inv : Inv x) (busy : x.call.isOver = false)
    (passes : Passes b now later x z) : Prompt P since limit later z := by
  obtain @⟨y, le, asked, loop, callWake, -⟩ := passes
  cases prompt with
  | begun call at_once wait =>
    rw [stepCall, call] at asked
    cases asked
  | @leaving f call wait inTime =>
    rcases polled : b.pollLeave now f x.outside with ⟨r, w⟩
    cases r with
    | done client => simp [stepCall, call, polled] at asked
    | waiting f' =>
      simp only [stepCall, call, polled, Prod.mk.injEq, true_and] at asked
      subst asked
      have same : z.call = .leaving .disconnect f' := by
        have kept := (Session.loopStep b now { x with outside := w, call := .leaving .disconnect f' }).call
        rwa [loop] at kept
      refine .leaving same wait (inTime.pass polled ?_)
      exact callWake _ (by rw [Session.callWake, same])
  | joining call le_limit =>
    -- The caller waits for a loop that does not have to wait.
    by_cases ended : x.LoopOver
    · rw [stepCall_joining call ended] at asked
      cases asked
    · simp only [LoopOver, not_forall] at ended
      obtain ⟨l, running, alive⟩ := ended
      have stopping : l.stopping = true := by
        rw [inv.asked l running, busy]
        rfl
      have goes := stepLoop_of_stopping (b := b) running stopping alive now
      have same : y = x := by
        simp only [stepCall, call, running, Option.map_some] at asked
        exact (Prod.mk.inj asked).2.symm
      rw [← same, loop] at goes
      cases goes
  | returned call => simp [call, Call.isOver] at busy

theorem prompt_disconnect (now : Nat)
    (wait : x.state.status = .connected → limit = now + 2 * Farewell.patience) (le : now ≤ limit) :
    Prompt P now limit now (x.disconnect b now) := by
  unfold disconnect tearDown
  split
  · exact .returned rfl le
  · exact .begun rfl rfl wait

theorem Timed.prompt (r : Reachable b x)
    (wait : x.state.status = .connected → limit = since + 2 * Farewell.patience) (le : since ≤ limit)
    (free : x.call.isOver = true)
    (run : Timed b (fun y => y.call.isOver = false) since (x.disconnect b since) now y) :
    Prompt P since limit now y := by
  have r' := r.move (m := .disconnect since) free
  induction run with
  | start => exact prompt_disconnect since wait le
  | move run busy allowed present ih => exact ih.move le (run.reachable r').inv busy allowed present
  | pass run busy passes ih => exact ih.pass (run.reachable r').inv busy passes

/-- What is left for a disconnect to do: a turn after the loop's, or to wait for the farewell. -/
theorem Prompt.goesOn (prompt : Prompt P since limit now x) (inv : Inv x) (busy : x.call.isOver = false) :
    let z := (x.stepLoop b now).2
    (z.stepCall b now).2.call.turns < z.call.turns ∨
      z.call.isLeaving = true ∧ limit = since + 2 * Farewell.patience ∧ now < limit := by
  have stopping : ∀ l, x.loop = some l → l.stopping = true := by
    intro l loop
    rw [inv.asked l loop, busy]
    rfl
  have prompt' : Prompt P since limit now (x.stepLoop b now).2 := by
    refine prompt.congr (Session.loopStep b now x).call fun up => ?_
    rwa [stepLoop_state_of_stopping stopping] at up
  refine (inv.advances (b := b) busy now).symm.imp_right fun waits => ?_
  cases waits with
  | farewell call polled =>
    cases prompt' with
    | leaving call' wait inTime =>
      cases call.symm.trans call'
      exact ⟨by rw [call]; rfl, wait, (inTime.goOn polled).2⟩
    | begun call' | joining call' | returned call' => cases call.symm.trans call'
  | dial call polled =>
    cases prompt' with
    | begun call' | leaving call' | joining call' | returned call' => cases call.symm.trans call'

/-- The farewell waits up to its deadline. By then the loop has ended. -/
theorem Passes.ofFarewell {goal : Goal} {f f' : φ} {w : ω} (call : x.call = .leaving goal f)
    (ended : x.LoopOver) (polled : b.pollLeave now f x.outside = (.waiting f', w))
    (early : now ≤ b.leaveWake f') :
    Passes b now (b.leaveWake f') x { x with outside := w, call := .leaving goal f' } := by
  have ended' : ({ x with outside := w, call := .leaving goal f' } : Session ω κ δ φ).LoopOver := ended
  refine .intro early (by simp [stepCall, call, polled]) (ended'.stepLoop now) ?_ ?_
  · rintro due ⟨⟩
    exact Nat.le_max_right ..
  · simp [ended'.appointment?]

/-- It can return, with four turns of the caller, each after one of the loop, and two waits. -/
theorem Prompt.returns {now : Nat} {x : Session ω κ δ φ} (prompt : Prompt P since limit now x)
    (le : since ≤ limit) (r : Reachable b x) :
    ∃ later z, Timed b (fun y => y.call.isOver = false) now x later z ∧
      z.call = .finished (.ok ()) ∧ later ≤ limit := by
  by_cases busy : x.call.isOver = false
  · have stopping : ∀ l, x.loop = some l → l.stopping = true := by
      intro l loop
      rw [r.inv.asked l loop, busy]
      rfl
    -- First the loop has a turn, and then it is over.
    have call := (Session.loopStep b now x).call
    have turn : Timed b (fun y => y.call.isOver = false) now x now (x.stepLoop b now).2 :=
      Timed.start.move (m := .loop now) busy trivial rfl
    have ended := loopOver_of_stopping (b := b) stopping now
    have r₁ := turn.reachable r
    have prompt₁ := prompt.move (m := .loop now) le r.inv busy trivial rfl
    change Prompt P since limit now (x.stepLoop b now).2 at prompt₁
    have waits := r.inv.advances (b := b) busy now
    generalize (x.stepLoop b now).2 = y at call turn ended r₁ prompt₁ waits
    have busy₁ : y.call.isOver = false := call ▸ busy
    rcases waits with waits | fewer
    · cases waits with
      | @farewell goal f f' w at_ polled =>
        obtain ⟨g, g', is, is', c, c', s, s', went⟩ := P.goOn polled
        have early : now < b.leaveWake f' := by
          rw [P.wake is']
          exact (Farewell.waits_poll went).early
        have passes := Passes.ofFarewell at_ ended polled early.le
        have prompt₂ := prompt₁.pass r₁.inv busy₁ passes
        have nearer : limit - b.leaveWake f' < limit - now := by
          have in_ := prompt₂.le le
          omega
        obtain ⟨later, z, run, done, in_⟩ := prompt₂.returns le (passes.reachable r₁)
        exact ⟨later, z, turn.trans ((Timed.start.pass busy₁ passes).trans run), done, in_⟩
      | dial at_ polled =>
        cases prompt₁ with
        | begun call' | leaving call' | joining call' | returned call' => cases at_.symm.trans call'
    · have prompt₂ := prompt₁.move (m := .call now) le r₁.inv busy₁ trivial rfl
      obtain ⟨later, z, run, done, in_⟩ := prompt₂.returns le (r₁.move (m := .call now) trivial)
      exact ⟨later, z, turn.trans ((Timed.start.move (m := .call now) busy₁ trivial rfl).trans run), done, in_⟩
  · cases prompt with
    | returned call le' => exact ⟨now, x, .start, call, le'⟩
    | begun call | leaving call | joining call => simp [call, Call.isOver] at busy
termination_by (x.call.turns, limit - now)
decreasing_by
  · rw [← call, at_]
    exact Prod.Lex.right _ nearer
  · rw [← call]
    exact Prod.Lex.left _ _ fewer

/-- A disconnect returns at once from a session that is not connected, and from any other after two waits at
most. Until then it goes on with its next turn or waits for the farewell, and nothing can keep it from
returning. -/
theorem disconnect_prompt (P : Partings b σ) (r : Reachable b x) (free : x.call.isOver = true)
    (run : Timed b (fun y => y.call.isOver = false) since (x.disconnect b since) now y) :
    now ≤ since + 4000 ∧ (x.state.status ≠ .connected → now = since) ∧
    (y.call.isOver = false → let z := (y.stepLoop b now).2
      (z.stepCall b now).2.call.turns < z.call.turns ∨
        z.call.isLeaving = true ∧ x.state.status = .connected ∧ now < since + 4000) ∧
    ∃ later z, Timed b (fun y => y.call.isOver = false) now y later z ∧
      z.result? = some (.ok ()) ∧ later ≤ since + 4000 := by
  have ry := run.reachable (r.move (m := .disconnect since) free)
  by_cases up : x.state.status = .connected
  · have prompt : Prompt P since (since + 4000) now y := run.prompt r (fun _ => rfl) (by omega) free
    obtain ⟨later, z, onward, done, le⟩ := prompt.returns (by omega) ry
    refine ⟨prompt.le (by omega), fun down => absurd up down, fun busy => ?_, later, z, onward, ?_, le⟩
    · exact (prompt.goesOn ry.inv busy).imp_right fun waits => ⟨waits.1, up, waits.2.2⟩
    · rw [result?, done]
  · have prompt : Prompt P since since now y := run.prompt r (fun up' => absurd up' up) (Nat.le_refl _) free
    have at_once : now = since := Nat.le_antisymm (prompt.le (Nat.le_refl _)) run.le
    obtain ⟨later, z, onward, done, le⟩ := prompt.returns (Nat.le_refl _) ry
    refine ⟨by omega, fun _ => at_once, fun busy => .inl ?_, later, z, onward, ?_, by omega⟩
    · exact (prompt.goesOn ry.inv busy).resolve_right fun waits => Nat.lt_irrefl _ (at_once ▸ waits.2.2)
    · rw [result?, done]

end Session

/-! ## Lines -/

namespace Lines

def partings : Partings backend Link where
  farewell := Leave.farewell
  leave {now s ls f ls' g} left is := by
    rcases went : s.client.leave now with ⟨result, client⟩
    simp only [backend, leave, went] at left
    cases result with
    | ok g' =>
      cases left
      cases is
      exact ⟨_, _, went⟩
    | error e =>
      cases left
      cases is
  goOn {now f ls f' ls'} polled := by
    obtain ⟨farewell, s⟩ := f
    cases farewell with
    | none => cases polled
    | some g =>
      rcases went : g.poll now s.client (ls.links[s.socket]?.getD {}) with ⟨result, client, link⟩
      simp only [backend, pollLeave, onLink, went] at polled
      cases result with
      | waiting g' =>
        cases polled
        exact ⟨g, g', rfl, rfl, _, _, _, _, went⟩
      | done => cases polled
  wake {f g} is := by
    change (f.farewell.map (·.deadline)).getD 0 = _
    rw [show f.farewell = some g from is]
    rfl

end Lines

namespace Session

/-- A broker that reads nothing after the greeting. The farewell waits for as long as it may. -/
theorem disconnect_prompt_stalled :
    ∃ x y : Session Lines Lines.Speaker Lines.Dial Lines.Leave,
      Reachable Lines.backend x ∧ x.state.status = .connected ∧
      Timed Lines.backend (fun y => y.call.isOver = false) 1000 (x.disconnect Lines.backend 1000) 3000 y ∧
      y.result? = some (.ok ()) ∧ 3000 ≤ 1000 + 4000 := by
  let script : List Line := [{ answer := .link [.now (.setRoom (some 14)), .now (.feed [0x20, 2, 0, 0])] }]
  have r := Reachable.new (b := Lines.backend) {} { script }
  have r := r.move (m := .connect 0 { host := "h" } none) rfl
  have r := r.move (m := .call 0) trivial
  have asked : ∀ {x}, Reachable Lines.backend x →
      Timed Lines.backend (fun y => y.call.isOver = false) 1000 (x.disconnect Lines.backend 1000) 1000
        (x.disconnect Lines.backend 1000) := fun _ => .start
  have u := asked r
  have u := u.move (m := .call 1000) (by cbv) trivial rfl
  have u := u.move (m := .loop 1000) (by cbv) trivial rfl
  have u := u.pass (by cbv) (.of_idle 3000 (by decide) (by cbv) (by cbv) (by cbv) (by cbv))
  have u := u.move (m := .call 3000) (by cbv) trivial rfl
  have u := u.move (m := .call 3000) (by cbv) trivial rfl
  exact ⟨_, _, r, by cbv, u, by cbv, (disconnect_prompt Lines.partings r (by cbv) u).1⟩

end Session

end MqttLink
