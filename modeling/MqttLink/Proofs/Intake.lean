import MqttLink.Proofs.Tracking

/-!
# What comes in

A client gets to the packets that it has read one by one, up to the first that it fails at. Besides the
queue and the exchanges they touch two things: messages are handed over, and a ping is answered.
-/

namespace MqttLink

namespace Engine

variable {α β : Type} {e e' e'' : Engine} {ps qs : List Packet}

/-- How an operation leaves the engine, whether it succeeds or not. -/
def left : EStateM.Result Fault Engine α → Engine
  | .ok _ e | .error _ e => e

/-! ## What some packets leave behind -/

/-- Apart from the queue, the exchanges and a fault, `e'` is what these packets make of `e`. -/
structure Took (ps : List Packet) (e e' : Engine) : Prop where
  connected : e'.connected = e.connected
  keepAlive : e'.keepAlive = e.keepAlive
  lastSent : e'.lastSent = e.lastSent
  listening : e'.listening = e.listening
  handed : e'.handed = e.handedAfter ps
  pingSent : e'.pingSent = if .pingresp ∈ ps then none else e.pingSent

theorem handedAfter_append (listening : e'.listening = e.listening)
    (handed : e'.handed = e.handedAfter ps) : e'.handedAfter qs = e.handedAfter (ps ++ qs) := by
  unfold handedAfter at handed ⊢
  rw [listening, handed]
  split
  · apply Array.ext'
    simp
  · rfl

theorem Took.refl (e : Engine) : Took [] e e where
  connected := rfl
  keepAlive := rfl
  lastSent := rfl
  listening := rfl
  handed := e.handedAfter_nil.symm
  pingSent := by simp

theorem Took.trans (h : Took ps e e') (h' : Took qs e' e'') : Took (ps ++ qs) e e'' where
  connected := h'.connected.trans h.connected
  keepAlive := h'.keepAlive.trans h.keepAlive
  lastSent := h'.lastSent.trans h.lastSent
  listening := h'.listening.trans h.listening
  handed := h'.handed.trans (handedAfter_append h.listening h.handed)
  pingSent := by
    rw [h'.pingSent, h.pingSent]
    by_cases late : Packet.pingresp ∈ qs
    · simp [late]
    · simp [late]

theorem Took.fail (h : Took ps e e') (f : Fault) : Took ps e { e' with fault := some f } :=
  { h with }

/-- An operation that leaves behind what these packets do. -/
def Takes (ps : List Packet) (op : EngineM α) : Prop := ∀ e, Took ps e (left (op e))

/-- Only the queue and the exchanges are touched. -/
abbrev Quiet (op : EngineM α) : Prop := Takes [] op

theorem Quiet.bind {op : EngineM α} {next : α → EngineM β} (first : Quiet op)
    (rest : ∀ a, Quiet (next a)) : Quiet (op >>= next) := by
  intro e
  have before := first e
  rw [run_bind]
  cases ran : op e with
  | ok a e' =>
    rw [ran] at before
    exact before.trans (rest a e')
  | error f e' => rwa [ran] at before

theorem quiet_pure (a : α) : Quiet (pure a) := fun e => .refl e

theorem quiet_fail (f : Fault) : Quiet (fail f : EngineM α) := fun e => (Took.refl e).fail f

theorem quiet_ready : Quiet ready := by
  intro e
  rw [ready_eq]
  split
  · exact .refl e
  · split <;> exact .refl e

theorem quiet_takeId : Quiet takeId := by
  intro e
  rw [takeId_eq]
  split
  · exact quiet_fail (α := UInt16) _ e
  · split
    · exact { Took.refl e with }
    · exact quiet_fail (α := UInt16) _ e

theorem quiet_queue (p : Packet) : Quiet (queue p) := by
  intro e
  unfold queue
  split
  · exact .refl e
  · split
    · exact quiet_fail (α := Unit) _ e
    · exact { Took.refl e with }

theorem quiet_queueTracked (p : Packet) (id : UInt16) (awaited : Awaited) :
    Quiet (queueTracked p id awaited) := by
  intro e
  have queued := quiet_queue p { e with pending := e.pending.insert id awaited }
  unfold queueTracked
  split
  all_goals
    rename_i ran
    rw [ran] at queued
    exact { queued with }

theorem quiet_started (p : UInt16 → Packet) (awaited : Awaited) :
    Quiet (do let id ← takeId; queueTracked (p id) id awaited) :=
  quiet_takeId.bind fun id => quiet_queueTracked (p id) id awaited

theorem quiet_publish (m : Message) (qos : QoS) (retain : Bool) : Quiet (publish m qos retain) := by
  apply quiet_ready.bind
  intro _
  cases qos with
  | atMostOnce => exact quiet_queue _
  | atLeastOnce =>
    exact quiet_started (fun id => .publish { m with qos := .atLeastOnce, retain, id }) .puback
  | exactlyOnce =>
    exact quiet_started (fun id => .publish { m with qos := .exactlyOnce, retain, id }) .pubrec

theorem quiet_subscribe (topic : String) (qos : QoS) : Quiet (subscribe topic qos) :=
  quiet_ready.bind fun _ => quiet_started (.subscribe · topic qos) .suback

theorem quiet_unsubscribe (topic : String) : Quiet (unsubscribe topic) :=
  quiet_ready.bind fun _ => quiet_started (.unsubscribe · topic) .unsuback

/-! ## Packets -/

theorem quiet_goesOn (p : Packet) : Quiet p.goesOn := by
  cases p with
  | pubrec id => exact quiet_queueTracked _ _ _
  | suback id grants =>
    intro e
    dsimp only [Packet.goesOn]
    split
    · exact quiet_fail (α := Unit) _ e
    · exact .refl e
  | _ => exact quiet_pure ()

theorem Took.mute {p : Packet} (h : Took [] e e') (mute : p.message? = none) (other : p ≠ .pingresp) :
    Took [p] e e' where
  connected := h.connected
  keepAlive := h.keepAlive
  lastSent := h.lastSent
  listening := h.listening
  handed := by simpa [handedAfter, mute] using h.handed
  pingSent := by simpa [other.symm] using h.pingSent

theorem takes_takePacket (p : Packet) : Takes [p] (takePacket p) := by
  -- A packet of somebody else's exchange hands its message over and is answered.
  have unasked : p.Unasked → Takes [p] (takePacket p) := by
    intro h e
    have given : Took [p] e { e with handed := e.handedAfter [p] } := by
      constructor
      case pingSent => cases h <;> simp
      all_goals rfl
    rw [takePacket_unasked h]
    split
    · exact given.trans (quiet_queue _ _)
    · exact given
  cases settles : p.settles? with
  | some x =>
    obtain ⟨id, w⟩ := x
    intro e
    have before : Took [p] e { e with pending := e.pending.erase id } := by
      have still : Took [] e { e with pending := e.pending.erase id } := { Took.refl e with }
      apply still.mute
      · cases p <;> first | rfl | cases settles
      · rintro rfl
        cases settles
    rw [takePacket_of_settles settles]
    split
    · exact before.trans (quiet_goesOn p _)
    · exact { before with }
  | none =>
    cases p with
    | publish p => exact unasked (.publish p)
    | pubrel id => exact unasked (.pubrel id)
    | pingresp =>
      intro e
      constructor
      case handed => simp [takePacket, run_modify, left, handedAfter, Packet.message?, List.filterMap_cons]
      case pingSent => simp [takePacket, run_modify, left]
      all_goals rfl
    | connack present reply =>
      intro e
      exact (quiet_pure () e).mute rfl (by simp)
    | disconnect | connect | subscribe | unsubscribe | pingreq =>
      intro e
      exact (quiet_fail (α := Unit) _ e).mute rfl (by simp)
    | puback | pubrec | pubcomp | suback | unsuback => cases settles

/-- The packets that the engine gets to: the first that it fails at is the last. -/
def intake : List Packet → Engine → List Packet
  | [], _ => []
  | p :: ps, e => p ::
    match takePacket p e with
    | .ok () e => intake ps e
    | .error .. => []

theorem took_takePackets (ps : List Packet) (e : Engine) :
    Took (intake ps e) e (left (takePackets ps e)) := by
  induction ps generalizing e with
  | nil => exact .refl e
  | cons p ps ih =>
    have first := takes_takePacket p e
    rw [takePackets_cons, intake]
    cases ran : takePacket p e with
    | ok _ e' =>
      rw [ran] at first
      exact first.trans (ih e')
    | error f e' =>
      rw [ran] at first
      exact first

theorem took_takeContents (contents : Contents) (e : Engine) :
    Took (intake contents.packets e) e (left (takeContents contents e)) := by
  have took := took_takePackets contents.packets e
  rw [takeContents_eq]
  cases ran : takePackets contents.packets e with
  | ok _ e' =>
    rw [ran] at took
    cases contents.fault with
    | none => exact took
    | some f => exact took.fail f
  | error f e' => rwa [ran] at took

theorem intake_of_ok (h : takePackets ps e = .ok () e') : intake ps e = ps := by
  induction ps generalizing e with
  | nil => rfl
  | cons p ps ih =>
    rw [takePackets_cons] at h
    rw [intake]
    cases ran : takePacket p e with
    | ok _ e₁ =>
      rw [ran] at h
      exact congrArg (p :: ·) (ih h)
    | error f e₁ =>
      rw [ran] at h
      cases h

end Engine

namespace Client

variable {σ : Type} [ByteStream σ] {c : Client} {s : σ}

theorem took_takeInput (c : Client) (s : σ) :
    Engine.Took (c.engine.intake (c.readable s)) c.engine (c.takeInput s).2.1.engine := by
  have read := takeInput_eq c s
  have took := Engine.took_takeContents
    (Contents.of c.recvCapacity (c.received ++ (ByteStream.readAll s).1.flatten)) c.engine
  have all := Engine.takeAll_eq c.recvCapacity (c.received ++ (ByteStream.readAll s).1.flatten) c.engine
  unfold readable
  generalize ByteStream.readAll s = reads at read took all ⊢
  obtain ⟨chunks, last, s'⟩ := reads
  dsimp only at read took all ⊢
  cases ran : Engine.takeContents (.of c.recvCapacity (c.received ++ chunks.flatten)) c.engine with
  | error f e =>
    rw [ran] at took all
    obtain ⟨rest, all⟩ := all
    rw [all] at read
    rwa [← read.2] at took
  | ok _ e =>
    rw [ran] at took all
    rw [show c.engine.takeAll _ _ = _ from all] at read
    dsimp only at read
    rw [read, stopReading]
    split
    · exact took.fail _
    · exact took

theorem takeAll_ok_of_takeInput (h : (c.takeInput s).1 = .ok ()) : (c.engine.takeAll c.recvCapacity
    (c.received ++ (ByteStream.readAll s).1.flatten)).1 = .ok () := by
  have read := takeInput_eq c s
  generalize ByteStream.readAll s = reads at read ⊢
  obtain ⟨chunks, last, s'⟩ := reads
  dsimp only at read ⊢
  rcases took : c.engine.takeAll c.recvCapacity (c.received ++ chunks.flatten) with ⟨_ | _, rest, e⟩
  · rw [took] at read
    rw [h] at read
    cases read.1
  · rfl

/-- A client that gets through all there is to read gets to all packets. -/
theorem intake_eq_readable (ok : (c.takeInput s).1 = .ok ()) :
    c.engine.intake (c.readable s) = c.readable s := by
  have all := takeAll_ok_of_takeInput ok
  have took := Engine.takeAll_eq c.recvCapacity
    (c.received ++ (ByteStream.readAll s).1.flatten) c.engine
  rw [Engine.takeContents_eq] at took
  cases ran : Engine.takePackets (c.readable s) c.engine with
  | ok _ e => exact Engine.intake_of_ok ran
  | error f e =>
    rw [show Engine.takePackets (Contents.of _ _).packets _ = _ from ran] at took
    obtain ⟨rest, failed⟩ := took
    rw [failed] at all
    cases all

/-- The packets that a client gets to when it reads. -/
def intake (c : Client) (s : σ) : List Packet :=
  match lift Engine.ready c with
  | (.error _, _) => []
  | (.ok (), c) => c.engine.intake (c.readable s)

theorem Ready.intake_eq (ready : c.Ready) (s : σ) : c.intake s = c.engine.intake (c.readable s) := by
  rw [intake, lift_ready ready.whole ready.connected]

theorem engine_lift (op : EngineM Unit) (c : Client) :
    (lift op c).2.engine = Engine.left (op c.engine) := by
  unfold lift
  cases op c.engine <;> rfl

theorem took_lift {op : EngineM Unit} {ps : List Packet} (takes : Engine.Takes ps op) (c : Client) :
    Engine.Took ps c.engine (lift op c).2.engine := by
  rw [engine_lift]
  exact takes c.engine

theorem took_greet (whole : c.fault = none) (now : Nat) (options : ConnectOptions) (timeout : Nat) :
    Engine.Took [] { c.engine with keepAlive := options.keepAliveSecs.toNat * 1000 }
      (c.greet now options timeout).2.engine := by
  have queued := took_lift (Engine.quiet_queue (.connect options.greeting)) (c.asked options)
  refine c.greet_keeps now timeout
    (motive := fun c' => Engine.Took [] (c.asked options).engine c'.engine) ?_ (.refl _) queued
  intro f broken
  rw [whole] at broken
  cases broken

/-- A client that leaves counts as not connected. -/
theorem engine_leave (now : Nat) (c : Client) : ∃ e connected, Engine.Took [] c.engine e ∧
    (c.leave now).2.engine = { e with connected } ∧
      (c.engine.connected = false → connected = false) := by
  have queued := took_lift (Engine.quiet_ready.bind fun _ => Engine.quiet_queue .disconnect) c
  unfold leave
  split
  all_goals
    rename_i ran
    rw [ran] at queued
  · exact ⟨_, _, queued, rfl, queued.connected.trans⟩
  · exact ⟨_, _, queued, rfl, fun _ => rfl⟩

theorem engine_writeOutput (now : Nat) (c : Client) (s : σ) : ∃ outgoing lastSent fault,
    (c.writeOutput now s).2.1.engine = { c.engine with outgoing, lastSent, fault } := by
  unfold writeOutput
  rcases drain s c.engine.outgoing.toList false with ⟨result, left, wrote, s'⟩
  cases result with
  | error f => exact ⟨_, _, _, rfl⟩
  | ok _ =>
    dsimp only
    split <;> exact ⟨_, _, _, rfl⟩

/-- Neither keep-alive nor output has anything to do with messages. -/
theorem engine_finish (now : Nat) (c : Client) (s : σ) : ∃ outgoing lastSent pingSent fault,
    (c.finish now s).2.1.engine = { c.engine with outgoing, lastSent, pingSent, fault } := by
  have alive : ∃ outgoing pingSent fault, (lift (Engine.serviceKeepAlive now) c).2.engine =
      { c.engine with outgoing, pingSent, fault } := by
    rw [engine_lift, Engine.serviceKeepAlive_eq]
    split
    · exact ⟨_, _, _, rfl⟩
    · split
      · split <;> exact ⟨_, _, _, rfl⟩
      · split
        · obtain ⟨frame, encoded⟩ : ∃ frame, Packet.pingreq.encode = some frame := ⟨_, rfl⟩
          by_cases room : c.engine.outgoing.size + frame.length ≤ c.engine.sendCapacity
          · rw [Engine.queue_of_room encoded room]
            exact ⟨_, _, _, rfl⟩
          · rw [Engine.queue_of_full encoded (Nat.not_le.1 room)]
            exact ⟨_, _, _, rfl⟩
        · exact ⟨_, _, _, rfl⟩
  unfold finish
  split
  all_goals
    rename_i ran
    rw [ran] at alive
    obtain ⟨outgoing, pingSent, fault, same⟩ := alive
  · exact ⟨_, _, _, _, same⟩
  · rename_i c'
    obtain ⟨outgoing, lastSent, fault, wrote⟩ := engine_writeOutput now c' s
    rw [wrote, same]
    exact ⟨_, _, _, _, rfl⟩

end Client

/-! ## Waits -/

/-- All of an engine but what a wait may touch. -/
def Engine.core (e : Engine) : Engine :=
  { e with outgoing := #[], fault := none, connected := false, lastSent := 0 }

section

variable {σ : Type} {c : Client} {s : σ} (now : Nat) (h : Handshake) (f : Farewell)

theorem Handshake.core_block : (h.block now c s).2.1.engine.core = c.engine.core := by
  unfold block
  split <;> rfl

theorem Farewell.core_block : (f.block now c s).2.1.engine.core = c.engine.core := by
  unfold block
  split <;> rfl

variable [ByteStream σ]

theorem Client.core_awaitReply : (c.awaitReply s).2.1.engine.core = c.engine.core := by
  fun_induction awaitReply c s with
  | case1 => rfl
  | case2 c s p received found verdict c' judged =>
    unfold judge at judged
    split at judged <;> cases judged <;> rfl
  | case3 c s found bytes s' read ih => exact ih
  | case4 | case5 | case6 => rfl

theorem Handshake.core_pollReply : (h.pollReply now c s).2.1.engine.core = c.engine.core := by
  have same := Client.core_awaitReply (c := c) (s := s)
  unfold pollReply
  split
  all_goals
    rename_i ran
    rw [ran] at same
  · exact same
  · rw [core_block]
    exact same

theorem Handshake.core_pollFlush : (h.pollFlush now c s).2.1.engine.core = c.engine.core := by
  unfold pollFlush
  split
  · rfl
  · exact core_block ..
  · exact core_pollReply ..

theorem Handshake.core_poll : (h.poll now c s).2.1.engine.core = c.engine.core := by
  unfold poll
  split
  · split
    · rfl
    · exact core_block ..
    · exact core_pollFlush ..
  · exact core_pollFlush ..
  · exact core_pollReply ..

theorem Farewell.core_pollClose : (f.pollClose now c s).2.1.engine.core = c.engine.core := by
  unfold pollClose
  split
  · rfl
  · split <;> rfl

theorem Farewell.core_pollFlush : (f.pollFlush now c s).2.1.engine.core = c.engine.core := by
  unfold pollFlush
  split
  · rfl
  · exact core_block ..
  · exact core_pollClose ..

theorem Farewell.core_poll : (f.poll now c s).2.1.engine.core = c.engine.core := by
  unfold poll
  split
  · split
    · rfl
    · exact core_block ..
    · exact core_pollFlush ..
  · exact core_pollFlush ..
  · exact core_pollClose ..

end

theorem Talk.core_poll {σ : Type} [ByteStream σ] (t : Talk σ) (now : Nat) :
    ((Move.poll now).run t).client.engine.core = t.client.engine.core := by
  obtain ⟨c, s, w⟩ := t
  cases w with
  | idle => rfl
  | greeting h => exact h.core_poll now
  | leaving f => exact f.core_poll now

end MqttLink
