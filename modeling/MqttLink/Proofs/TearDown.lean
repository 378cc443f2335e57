import Mathlib
import MqttLink.Proofs.Ownership

/-!
# Tearing down

A disconnect may be asked for at any time, and until it returns the loop, the operations and the
outside go on as they like. Main statement: once it has returned nothing is left that a new session
would not have, and until the next connect nothing happens.
-/

namespace MqttLink

variable {ω κ δ φ : Type}

/-- What the caller is after as long as there is something to tear down. -/
def Call.goal? : Call δ φ → Option Goal
  | stopping goal | leaving goal _ | joining goal => some goal
  | idle | dialing _ | finished _ => none

theorem Call.not_isOver_of_goal {c : Call δ φ} {goal : Goal} (h : c.goal? = some goal) :
    c.isOver = false := by
  cases c <;> simp_all [goal?, isOver]

namespace Session

variable {b : Backend ω κ δ φ} {x y : Session ω κ δ φ}

/-! ## What the loop and the operations leave alone -/

theorem pump_call (now : Nat) : (x.pump b now).2.call = x.call := by
  unfold pump
  split
  · rfl
  · dsimp only
    split <;> rfl

theorem Deciding.call {now : Nat} (d : Deciding b now x y) : y.call = x.call := by
  cases d with
  | down => rfl
  | lost up failed =>
    have kept := pump_call (b := b) (x := x) now
    rwa [failed] at kept

theorem LoopStep.call {now : Nat} {r : Bool × Session ω κ δ φ} (s : LoopStep b now x r) :
    r.2.call = x.call := by
  cases s with
  | stop running stopping alive => exact endLoop_call b x _
  | exchange loop free up went =>
    have kept := pump_call (b := b) (x := x) now
    rw [went] at kept
    rw [wait_call, kept]
  | schedule loop free deciding decided planned => rw [wait_call, update_call, deciding.call]
  | unplanned loop free deciding unplanned => exact deciding.call
  | giveUp loop free deciding decided => exact deciding.call
  | @record awake result loop free =>
    cases result with
    | ok client => rfl
    | error e => exact wait_call ..
  | stay | block | rested | redial | dialOn | dialed => rfl

/-- A loop neither comes nor goes by itself. -/
theorem LoopStep.isSome {now : Nat} {r : Bool × Session ω κ δ φ} (s : LoopStep b now x r) :
    r.2.loop.isSome = x.loop.isSome := by
  have waited : ∀ (time : Nat) (p : Appointment → Phase κ δ) (y : Session ω κ δ φ),
      (y.wait b now time p).loop.isSome = y.loop.isSome := by
    intro time p y
    obtain ⟨awake, h⟩ := wait_loop b now time p y
    rw [h, Option.isSome_map]
  cases s with
  | stay => rfl
  | stop running stopping alive => rw [endLoop_loop, Option.isSome_map]
  | exchange loop free up went =>
    have kept := (pump_keeps b now x).2.1
    rw [went] at kept
    rw [waited, kept]
  | schedule loop free deciding decided planned => rw [waited, update_loop, deciding.keeps.2.1]
  | unplanned loop free deciding unplanned =>
    rw [setPhase_loop, Option.isSome_map, update_loop, deciding.keeps.2.1]
  | giveUp loop free deciding decided =>
    rw [setPhase_loop, Option.isSome_map, update_loop, deciding.keeps.2.1]
  | @record awake result loop free =>
    cases result with
    | ok client => exact Option.isSome_map
    | error e => exact waited ..
  | dialOn loop polled => rw [block_loop, setPhase_loop, Option.isSome_map, Option.isSome_map]
  | block | rested | redial | dialed => exact Option.isSome_map

theorem OperateStep.call {op : Operation} {r : Except SessionError Unit × Session ω κ δ φ}
    (s : OperateStep b op x r) : r.2.call = x.call := by
  cases s <;> rfl

/-! ## The record of a session that is not initialized -/

/-- A record that is not initialized is that of a new session. -/
def Unused (x : Session ω κ δ φ) : Prop := x.state.status = .uninitialized → x.state = {}

theorem unused_of_status (initialized : x.state.status ≠ .uninitialized) : Unused x :=
  fun status => absurd status initialized

theorem LoopStep.unused {now : Nat} {r : Bool × Session ω κ δ φ} (s : LoopStep b now x r) (inv : Inv x)
    (unused : Unused x) : Unused r.2 := by
  cases loop : r.2.loop with
  | some l => exact unused_of_status ((inv.loopStep s).looping l loop).1
  | none =>
    -- There was no loop before the step either, and then it changes nothing.
    have none_ : x.loop = none := by
      rw [← Option.not_isSome_iff_eq_none, ← s.isSome, loop]
      simp
    cases s with
    | stay | block => exact unused
    | _ => simp_all

theorem Unused.pursue (unused : Unused x) (now : Nat) (goal : Goal) : Unused (x.pursue b now goal) := by
  cases goal with
  | disconnect => exact unused
  | connect plan handler =>
    exact unused_of_status (by simp [Session.pursue, dialFor, State.begin, State.setStatus])

theorem Unused.tearDown (unused : Unused x) (now : Nat) (goal : Goal) :
    Unused (x.tearDown b now goal) := by
  unfold Session.tearDown
  split
  · exact unused.pursue now goal
  · exact unused

theorem CallStep.unused {now : Nat} {r : Bool × Session ω κ δ φ} (s : CallStep b now x r) (inv : Inv x)
    (unused : Unused x) : Unused r.2 := by
  cases s with
  | stay | join | leaveOn | dialOn => exact unused
  | leave call up held =>
    unfold sayGoodbye
    rw [up, held]
    exact unused_of_status (by simp [up])
  | left call polled =>
    have up := (inv.leaving (by simp [call, Call.isLeaving])).2
    exact unused_of_status (by simp [up])
  | clear call past =>
    have cleared : Unused ({ x with loop := none }.act (State.reset b)) :=
      fun _ => State.reset_fst b x.state x.outside
    exact cleared.pursue now _
  | @dialed dial result w call polled =>
    cases result with
    | ok client => exact unused_of_status (by simp [recordDial, State.install, State.setStatus])
    | error e => exact unused_of_status (by simp [recordDial, State.abandon_fst])

theorem OperateStep.unused {op : Operation} {r : Except SessionError Unit × Session ω κ δ φ}
    (s : OperateStep b op x r) (unused : Unused x) : Unused r.2 := by
  cases s with
  | refuse => exact unused
  | succeed up held ran => exact unused_of_status (by simp [called, up])
  | «break» up held ran broken => exact unused_of_status (by simp [State.markLost_fst])
  | fail up held ran sound => exact unused_of_status (by simp [State.recordError, called, up])

theorem Reachable.unused (r : Reachable b x) : Unused x := by
  induction r with
  | new settings w => exact fun _ => rfl
  | @move x m r allowed ih =>
    cases m with
    | loop now => exact (loopStep b now x).unused r.inv ih
    | call now => exact (callStep b now x).unused r.inv ih
    | connect now request handler =>
      change Unused (x.connect b now request handler)
      unfold Session.connect
      split
      · exact ih
      · exact ih.tearDown now _
    | disconnect now => exact ih.tearDown now _
    | operate op => exact (operateStep b op x).unused ih
    | outside | collect | rest => exact ih

/-! ## On the way -/

/-- Nothing is left that a new session would not have. -/
structure Blank (x : Session ω κ δ φ) : Prop where
  loop : x.loop = none
  state : x.state = {}

/-- The caller tears down to disconnect, or it has done so and nothing is left. -/
def Disconnects (x : Session ω κ δ φ) : Prop :=
  x.call.goal? = some .disconnect ∨ x.call = .finished (.ok ()) ∧ x.Blank

theorem CallStep.disconnects {now : Nat} {r : Bool × Session ω κ δ φ} (s : CallStep b now x r)
    (goal : x.call.goal? = some .disconnect) : r.2.Disconnects := by
  cases s with
  | stay => exact .inl goal
  | leave call up held =>
    rw [call] at goal
    unfold sayGoodbye
    rw [up, held]
    exact .inl goal
  | join call down | leaveOn call polled | left call polled =>
    rw [call] at goal
    exact .inl goal
  | clear call past =>
    rw [call] at goal
    cases goal
    exact .inr ⟨rfl, rfl, State.reset_fst b _ _⟩
  | dialOn call polled | dialed call polled =>
    rw [call] at goal
    cases goal

theorem disconnects_move {m : Move ω} (allowed : m.Allowed x) (goal : x.call.goal? = some .disconnect) :
    (m.run b x).Disconnects := by
  have busy := Call.not_isOver_of_goal goal
  cases m with
  | loop now => exact .inl ((loopStep b now x).call ▸ goal)
  | call now => exact (callStep b now x).disconnects goal
  | connect | disconnect | rest => exact absurd allowed (by simp [Move.Allowed, busy])
  | operate op => exact .inl ((operateStep b op x).call ▸ goal)
  | outside | collect => exact .inl goal

theorem Reachable.disconnects (r : Reachable b x) (now : Nat) : (x.disconnect b now).Disconnects := by
  unfold disconnect tearDown
  split
  · rename_i nothing
    have status : x.state.status = .uninitialized := by
      have told := nothing.1
      rw [Bool.not_eq_true', Status.isInitialized, decide_eq_false_iff_not, Decidable.not_not] at told
      exact r.inv.told ▸ told
    have loop : x.loop = none := by simpa using nothing.2
    exact .inr ⟨rfl, loop, r.unused status⟩
  · exact .inl rfl

/-! ## Getting on -/

/-- Nobody has to wait for the loop any more. -/
def LoopOver (x : Session ω κ δ φ) : Prop := ∀ l, x.loop = some l → l.phase = .ended

/-- A loop that was told to stop ends at its next turn. -/
theorem loopOver_of_stopping (stopping : ∀ l, x.loop = some l → l.stopping = true) (now : Nat) :
    (x.stepLoop b now).2.LoopOver := by
  unfold stepLoop
  split
  · rename_i none_
    exact fun l loop => by simp [none_] at loop
  · rename_i l running
    split
    · rename_i ended
      intro l' loop
      cases running.symm.trans loop
      exact ended
    · rw [if_pos (stopping l running)]
      intro l' loop
      rw [endLoop_loop, running] at loop
      cases loop
      rfl

theorem stepCall_joining {goal : Goal} (call : x.call = .joining goal) (ended : x.LoopOver) (now : Nat) :
    x.stepCall b now = (true, ({ x with loop := none }.act (State.reset b)).pursue b now goal) := by
  unfold stepCall
  rw [call]
  cases loop : x.loop with
  | none => simp
  | some l => simp [ended l loop]

theorem Disconnects.stepLoop (dis : x.Disconnects) (now : Nat) : (x.stepLoop b now).2.Disconnects := by
  rcases dis with goal | done
  · exact .inl ((loopStep b now x).call ▸ goal)
  · unfold Session.stepLoop
    rw [done.2.loop]
    exact .inr done

/-- Once the loop is over, a turn of the caller begins what has not begun. -/
theorem LoopOver.stepCall (ended : x.LoopOver) (dis : x.Disconnects) (now : Nat) :
    (x.stepCall b now).2.LoopOver ∧ (x.stepCall b now).2.Disconnects ∧
      ∀ g, (x.stepCall b now).2.call ≠ .stopping g := by
  rcases dis with goal | done
  · have next := (callStep b now x).disconnects goal
    cases call : x.call with
    | idle | dialing | finished => simp [call, Call.goal?] at goal
    | stopping g =>
      simp only [Session.stepCall, call] at next ⊢
      unfold sayGoodbye at next ⊢
      split at next <;> exact ⟨ended, next, by simp⟩
    | leaving g farewell =>
      simp only [Session.stepCall, call] at next ⊢
      split at next <;> exact ⟨ended, next, by simp⟩
    | joining g =>
      rw [call] at goal
      cases goal
      rw [stepCall_joining call ended] at next ⊢
      exact ⟨by simp [LoopOver, pursue], next, by simp [pursue]⟩
  · rw [stepCall_of_isOver (by rw [done.1]; rfl)]
    exact ⟨ended, .inr done, by simp [done.1]⟩

/-- What has begun ends with the next turn of the caller, unless a farewell is under way. -/
theorem LoopOver.last (ended : x.LoopOver) (dis : x.Disconnects) (begun : ∀ g, x.call ≠ .stopping g)
    (now : Nat) : x.call.isLeaving = true ∨ (x.stepCall b now).2.call.isOver = true := by
  rcases dis with goal | done
  · cases call : x.call with
    | idle | dialing | finished => simp [call, Call.goal?] at goal
    | stopping g => exact absurd call (begun g)
    | leaving g farewell => exact .inl rfl
    | joining g =>
      rw [call] at goal
      cases goal
      rw [stepCall_joining call ended]
      exact .inr rfl
  · have past : x.call.isOver = true := by
      rw [done.1]
      rfl
    rw [stepCall_of_isOver past]
    exact .inr past

theorem Disconnects.stopping (dis : x.Disconnects) (inv : Inv x) :
    ∀ l, x.loop = some l → l.stopping = true := by
  intro l loop
  rcases dis with goal | done
  · rw [inv.asked l loop, Call.not_isOver_of_goal goal]
    rfl
  · simp [done.2.loop] at loop

/-- The caller does not go before the loop. -/
theorem Disconnects.loopOver (dis : x.Disconnects) {m : Move ω} (allowed : m.Allowed x)
    (busy : x.call.isOver = false) (past : (m.run b x).call.isOver = true) : x.LoopOver := by
  have goal : x.call.goal? = some .disconnect :=
    dis.resolve_right fun done => by simp [done.1, Call.isOver] at busy
  have idle : x.call.isOver ≠ true := by simp [busy]
  cases m with
  | loop now => exact absurd ((loopStep b now x).call ▸ past) idle
  | operate op => exact absurd ((operateStep b op x).call ▸ past) idle
  | connect | disconnect | rest => exact absurd allowed idle
  | outside | collect => exact absurd past idle
  | call now =>
    have s := callStep b now x
    change (x.stepCall b now).2.call.isOver = true at past
    generalize x.stepCall b now = r at s past
    cases s with
    | stay => exact absurd past idle
    | clear call ended => exact ended
    | leave call up held =>
      -- No step but the last one of a tear-down returns to the caller.
      unfold sayGoodbye at past
      rw [up, held] at past
      cases past
    | join | leaveOn | left => cases past
    | dialOn call polled | dialed call polled =>
      rw [call] at goal
      cases goal

/-- A disconnect waits for nothing but a farewell. -/
theorem Disconnects.returns (dis : x.Disconnects)
    (stopping : ∀ l, x.loop = some l → l.stopping = true) (now : Nat) :
    let z := [Move.loop now, .call now, .call now].foldl (fun x m => m.run b x) x
    z.call.isLeaving = true ∨ (z.stepCall b now).2.call.isOver = true := by
  -- The loop ends at its turn, then the caller begins, and then it is done or says farewell.
  have ended0 := loopOver_of_stopping (b := b) stopping now
  obtain ⟨ended1, dis1, -⟩ := ended0.stepCall (b := b) (dis.stepLoop now) now
  obtain ⟨ended2, dis2, begun⟩ := ended1.stepCall (b := b) dis1 now
  exact ended2.last dis2 begun now

/-! ## Afterwards -/

def Move.isConnect : Move ω → Bool
  | connect .. => true
  | loop _ | call _ | disconnect _ | operate _ | outside _ | collect | rest => false

/-- What a move makes of a session of which nothing is left. No backend is asked for anything. -/
def Move.alone (x : Session ω κ δ φ) : Move ω → Session ω κ δ φ
  | disconnect _ => { x with call := .finished (.ok ()) }
  | outside w => { x with outside := w }
  | collect => { x with delivered := #[] }
  | rest => { x with call := .idle }
  | loop _ | call _ | connect .. | operate _ => x

theorem Blank.run_eq (blank : x.Blank) (past : x.call.isOver = true) (m : Move ω)
    (unconnected : m.isConnect = false) : m.run b x = m.alone x := by
  cases m with
  | loop now =>
    change (x.stepLoop b now).2 = x
    unfold stepLoop
    rw [blank.loop]
  | call now => exact congrArg Prod.snd (stepCall_of_isOver past now)
  | connect now request handler => cases unconnected
  | disconnect now =>
    change x.disconnect b now = _
    unfold disconnect tearDown
    rw [if_pos (by simp [snapshot, blank.loop, blank.state, Status.isInitialized])]
    rfl
  | operate op => exact operate_of_down b op (by simp [blank.state])
  | outside | collect | rest => rfl

theorem Blank.alone (blank : x.Blank) (past : x.call.isOver = true) (m : Move ω) :
    (m.alone x).Blank ∧ (m.alone x).call.isOver = true := by
  cases m with
  | disconnect | rest => exact ⟨⟨blank.loop, blank.state⟩, rfl⟩
  | outside | collect => exact ⟨⟨blank.loop, blank.state⟩, past⟩
  | loop | call | connect | operate => exact ⟨blank, past⟩

end Session

/-! ## The whole of it -/

namespace Streams

variable {b : Backend ω κ δ φ} {S : Streams b} {x y z : Session ω κ δ φ}

theorem Run.disconnects (run : S.Run (fun y _ => y.call.isOver = false) x y) (dis : x.Disconnects) :
    y.Disconnects := by
  induction run with
  | start => exact dis
  | @move y m run allowed closed busy ih =>
    rcases ih with goal | done
    · exact Session.disconnects_move allowed goal
    · simp [done.1, Call.isOver] at busy

theorem Run.blank (run : S.Run (fun _ m => m.isConnect = false) y z) (blank : y.Blank)
    (past : y.call.isOver = true) : z.Blank ∧ z.call.isOver = true := by
  induction run with
  | start => exact ⟨blank, past⟩
  | @move z m run allowed closed unconnected ih =>
    rw [ih.1.run_eq ih.2 m unconnected]
    exact ih.1.alone ih.2 m

variable (S) in
/-- A session that has, holds and has left open no more than a new one. -/
structure Gone (w : ω) (x : Session ω κ δ φ) : Prop where
  loop : x.loop = none
  state : x.state = {}
  snapshot : x.snapshot = {}
  held : S.held x = ∅
  closed : S.isOpen x.outside ⊆ S.isOpen w

theorem gone_of_blank {w : ω} (blank : x.Blank) (past : x.call.isOver = true)
    (loose : S.loose x ⊆ S.isOpen w) : S.Gone w x := by
  have held : S.held x = ∅ := by
    simp [Streams.held, ofState, ofLoop, blank.loop, blank.state, ofCall_of_isOver past]
  refine ⟨blank.loop, blank.state, ?_, held, ?_⟩
  · simp [Session.snapshot, blank.state]
  · rwa [Streams.loose, held, Set.sdiff_empty] at loose

/-- Nothing happens before the next connect. A backend that counts what it is asked for counts
nothing, and no other backend would make a difference. -/
structure Dormant (b : Backend ω κ δ φ) (x : Session ω κ δ φ) : Prop where
  again : ∀ now, x.disconnect b now = { x with call := .finished (.ok ()) }
  unasked : ∀ (b' : Backend ω κ δ φ) (m : Session.Move ω), m.Allowed x → m.isConnect = false →
    m.run b' x = m.run b x
  untouched : ∀ m : Session.Move ω, m.Allowed x → m.isConnect = false → (∀ w, m ≠ .outside w) →
    (m.run b x).outside = x.outside
  undelivered : ∀ m : Session.Move ω, m.Allowed x → m.isConnect = false → m ≠ .collect →
    (m.run b x).delivered = x.delivered

theorem dormant_of_blank (blank : x.Blank) (past : x.call.isOver = true) : Dormant b x := by
  constructor
  case again => exact fun now => blank.run_eq past (.disconnect now) rfl
  case unasked =>
    intro b' m allowed unconnected
    rw [blank.run_eq past m unconnected, blank.run_eq past m unconnected]
  case untouched =>
    intro m allowed unconnected inside
    rw [blank.run_eq past m unconnected]
    cases m with
    | outside w => exact absurd rfl (inside w)
    | _ => rfl
  case undelivered =>
    intro m allowed unconnected kept
    rw [blank.run_eq past m unconnected]
    cases m with
    | collect => exact absurd rfl kept
    | _ => rfl

/-- A disconnect waits for the loop to end, and for nothing else but a farewell. Once it has returned
nothing is left, and nothing happens until the next connect. -/
theorem disconnect_leaves_nothing {settings : Settings} {w : ω} {now : Nat}
    (reached : S.Run (fun _ _ => True) { settings, outside := w } x) (free : x.call.isOver = true)
    (underway : S.Run (fun y _ => y.call.isOver = false) (x.disconnect b now) y) :
    (∀ t, let z := [Session.Move.loop t, .call t, .call t].foldl (fun x m => m.run b x) y
      z.call.isLeaving = true ∨ (z.stepCall b t).2.call.isOver = true) ∧
    (∀ m : Session.Move ω, m.Allowed y → y.call.isOver = false → (m.run b y).call.isOver = true →
      ∀ l, y.loop = some l → l.phase = .ended) ∧
    (y.call.isOver = true → y.result? = some (.ok ()) ∧
      ∀ z, S.Run (fun _ m => m.isConnect = false) y z → S.Gone w z ∧ Dormant b z) := by
  have r := reached.reachable (.new settings w)
  have r' := r.move (m := .disconnect now) free
  have ry := underway.reachable r'
  have dis := underway.disconnects (r.disconnects now)
  -- What is open at the end and not held was open already before the session was there.
  have loose : S.loose y ⊆ S.isOpen w :=
    calc S.loose y
      _ ⊆ S.loose (x.disconnect b now) := underway.loose r'
      _ ⊆ S.loose x := loose_tearDown now _ (ofCall_of_isOver free)
      _ ⊆ S.loose { settings, outside := w } := reached.loose (.new settings w)
      _ ⊆ S.isOpen w := Set.sdiff_subset
  refine ⟨dis.returns (dis.stopping ry.inv), fun m => dis.loopOver, fun past => ?_⟩
  obtain ⟨call, blank⟩ : y.call = .finished (.ok ()) ∧ y.Blank :=
    dis.resolve_left fun goal => by simp [Call.not_isOver_of_goal goal] at past
  refine ⟨by rw [Session.result?, call], fun z after => ?_⟩
  obtain ⟨blank', past'⟩ := after.blank blank past
  exact ⟨gone_of_blank blank' past' ((after.loose ry).trans loose), dormant_of_blank blank' past'⟩

/-- Just after a reconnect, before the loop has recorded it, two links have been opened and one of them
is still held. -/
theorem disconnect_leaves_nothing_reconnected :
    ∃ (w : Lines) (x y : Session Lines Lines.Speaker Lines.Dial Lines.Leave),
      Lines.streams.Run (fun _ _ => True) { settings := {}, outside := w } x ∧
      (x.loop.map fun l => l.phase matches .redialed (.ok _)) = some true ∧
      x.outside.links.map (·.closed) = #[true, false] ∧
      Lines.streams.Run (fun y _ => y.call.isOver = false) (x.disconnect Lines.backend 1000) y ∧
      y.call.isOver = true ∧ y.outside.links.map (·.closed) = #[true, true] ∧
      Lines.streams.Gone w y ∧ Dormant Lines.backend y := by
  have r : Lines.streams.Run (fun _ _ => True) { settings := {}, outside := { script :=
      [{ answer := .link [.now (.feed [0x20, 2, 0, 0]), .now .finish] },
        { answer := .link [.now (.feed [0x20, 2, 0, 0])] }] } } _ := .start
  have r := r.move (m := .connect 0 { host := "h" } none) rfl trivial trivial
  have r := r.move (m := .call 0) trivial trivial trivial
  have r := r.move (m := .loop 0) trivial trivial trivial
  have r := r.move (m := .loop 1000) trivial trivial trivial
  have r := r.move (m := .loop 1000) trivial trivial trivial
  have asked : ∀ {w : Lines} {x}, Lines.streams.Run (fun _ _ => True) { settings := {}, outside := w } x →
      Lines.streams.Run (fun y _ => y.call.isOver = false) (x.disconnect Lines.backend 1000)
        (x.disconnect Lines.backend 1000) := fun _ => .start
  have u := asked r
  have u := u.move (m := .call 1000) trivial trivial (by cbv)
  have u := u.move (m := .loop 1000) trivial trivial (by cbv)
  have u := u.move (m := .call 1000) trivial trivial (by cbv)
  have returned := (disconnect_leaves_nothing r (by cbv) u).2.2
  have gone := (returned (by cbv)).2 _ .start
  exact ⟨_, _, _, r, by cbv, by cbv, u, by cbv, by cbv, gone⟩

end Streams

end MqttLink
