import MqttLink.Client.Farewell
import MqttLink.Link
import MqttLink.Proofs.Input

/-!
# What a stream gets

A client talks on a stream that takes what it likes and whose far side does what it likes. The stream
gets the frames of the packets that were queued, in their order, each byte once and no others.
-/

namespace MqttLink

/-! ## Writing -/

/-- What is left of a text that is on its way. -/
def Sending.left? : Sending → Option Bytes
  | all => some []
  | rest bytes => some bytes
  | failed => none

namespace ByteStream

variable {σ : Type} [ByteStream σ]

theorem sent_write {s s' : σ} {bytes : Bytes} {n : Nat} (h : write s bytes = (.accepted n, s')) :
    sent s' ++ bytes.drop n = sent s ++ bytes := by
  rw [sent_accepted h, List.append_assoc, List.take_append_drop]

/-- What is left continues what was sent. -/
theorem sent_sendAll (s : σ) (bytes : Bytes) :
    sent (sendAll s bytes).2 <+: sent s ++ bytes ∧
      ∀ left, (sendAll s bytes).1.left? = some left →
        sent (sendAll s bytes).2 ++ left = sent s ++ bytes := by
  fun_induction sendAll s bytes with
  | case1 s bytes empty => simp_all [Sending.left?]
  | case2 s bytes some_ s' taken =>
    refine ⟨?_, by simp [Sending.left?]⟩
    rw [sent_accepted taken]
    simp
  | case3 s bytes some_ n s' taken pos ih => rwa [sent_write taken] at ih
  | case4 s bytes some_ s' taken =>
    rw [sent_refused taken (by simp)]
    exact ⟨List.prefix_append .., by simp [Sending.left?]⟩
  | case5 s bytes some_ s' taken =>
    rw [sent_refused taken (by simp)]
    exact ⟨List.prefix_append .., by simp [Sending.left?]⟩

end ByteStream

namespace Client

variable {σ : Type} [ByteStream σ]

theorem sent_drain (s : σ) (bytes : Bytes) (wrote : Bool) :
    ByteStream.sent (drain s bytes wrote).2.2.2 ++ (drain s bytes wrote).2.1 =
      ByteStream.sent s ++ bytes := by
  fun_induction drain s bytes wrote with
  | case1 s bytes wrote empty => simp_all
  | case2 s bytes wrote some_ s' taken =>
    rw [ByteStream.sent_accepted taken]
    simp
  | case3 s bytes wrote some_ n s' taken pos ih => rwa [ByteStream.sent_write taken] at ih
  | case4 s bytes wrote some_ s' taken => rw [ByteStream.sent_refused taken (by simp)]
  | case5 s bytes wrote some_ s' taken => rw [ByteStream.sent_refused taken (by simp)]

theorem length_drain_le (s : σ) (bytes : Bytes) (wrote : Bool) :
    (drain s bytes wrote).2.1.length ≤ bytes.length := by
  fun_induction drain s bytes wrote with
  | case3 s bytes wrote some_ n s' taken pos ih =>
    rw [List.length_drop] at ih
    omega
  | case1 | case2 | case4 | case5 => simp

/-! ## One operation of a client -/

/-- The packets queued by an operation that has succeeded. -/
def onSuccess {α : Type} (r : Except Fault α × Client) (ps : Engine → List Packet) : List Packet :=
  match r with
  | (.ok _, c) => ps c.engine
  | (.error _, _) => []

theorem queued_lift {op : EngineM Unit} {ps : Engine → List Packet} {c : Client}
    (h : Engine.Ends ps c.engine (op c.engine)) :
    Engine.Queued (onSuccess (lift op c) ps) c.engine (lift op c).2.engine := by
  unfold lift
  cases ran : op c.engine with
  | ok _ e =>
    rw [ran] at h
    exact h
  | error f e =>
    rw [ran] at h
    exact h

/-- The packets taken out of all that there is to read. -/
def taken (c : Client) (s : σ) : List Packet :=
  c.engine.taken c.recvCapacity c.received ++
  match c.engine.takeAll c.recvCapacity c.received with
  | (.error _, _, _) => []
  | (.ok (), received, engine) =>
    match _read : ByteStream.read s with
    | (.data bytes, s') => taken { c with engine, received := received ++ bytes } s'
    | (.ended, _) | (.failed, _) | (.blocked, _) => []
termination_by ByteStream.backlog s
decreasing_by exact ByteStream.backlog_read _read

theorem taken_of_data {c : Client} {s s' : σ} {received bytes : Bytes} {engine : Engine}
    (h : c.engine.takeAll c.recvCapacity c.received = (.ok (), received, engine))
    (read : ByteStream.read s = (.data bytes, s')) :
    c.taken s = c.engine.taken c.recvCapacity c.received ++
      taken { c with engine, received := received ++ bytes } s' := by
  rw [taken, h]
  dsimp only
  split <;> simp_all

theorem taken_of_not_data {c : Client} {s : σ}
    (h : (c.engine.takeAll c.recvCapacity c.received).1 = .ok () →
      ∀ bytes, (ByteStream.read s).1 ≠ .data bytes) :
    c.taken s = c.engine.taken c.recvCapacity c.received := by
  rw [taken]
  split
  · simp
  · rename_i taken_
    rw [taken_] at h
    split <;> simp_all

theorem queued_takeInput (c : Client) (s : σ) :
    Engine.Queued ((c.taken s).filterMap Packet.answer?) c.engine (c.takeInput s).2.1.engine := by
  fun_induction takeInput c s with
  | case1 c s f received e h =>
    have first := Engine.queued_takeAll c.recvCapacity c.received c.engine
    rw [h] at first
    rw [taken_of_not_data (by simp [h])]
    exact first
  | case2 c s received e h bytes s' read ih =>
    have first := Engine.queued_takeAll c.recvCapacity c.received c.engine
    rw [h] at first
    rw [taken_of_data h read, List.filterMap_append]
    exact first.trans ih
  | case3 c s received e h s' read | case4 c s received e h s' read | case5 c s received e h s' read =>
    have first := Engine.queued_takeAll c.recvCapacity c.received c.engine
    rw [h] at first
    rw [taken_of_not_data (by simp [read])]
    exact ⟨first.outgoing, first.capacity, first.fits, first.encoded⟩

/-- The answers to what came in, and a ping if it is time for one. -/
def syncQueued (now : Nat) (c : Client) (s : σ) : List Packet :=
  match lift Engine.ready c with
  | (.error _, _) => []
  | (.ok (), c) =>
    (c.taken s).filterMap Packet.answer? ++
    match c.takeInput s with
    | (.error _, _, _) => []
    | (.ok (), c, _) =>
      onSuccess (lift (Engine.serviceKeepAlive now) c) fun _ => (c.engine.ping? now).toList

/-- A client has queued these packets, and perhaps sent some of all that was queued. -/
structure Passes (ps : List Packet) (c : Client) (s : σ) (c' : Client) (s' : σ) : Prop where
  balance : ByteStream.sent s' ++ c'.engine.outgoing.toList =
    ByteStream.sent s ++ c.engine.outgoing.toList ++ Packet.wire ps
  capacity : c'.engine.sendCapacity = c.engine.sendCapacity
  fits : c.engine.outgoing.size ≤ c.engine.sendCapacity →
    c'.engine.outgoing.size ≤ c.engine.sendCapacity
  encoded : ∀ p ∈ ps, p.encode.isSome = true

theorem Passes.ofQueued {ps : List Packet} {c c' : Client} {s s' : σ}
    (h : Engine.Queued ps c.engine c'.engine) (sent : ByteStream.sent s' = ByteStream.sent s) :
    Passes ps c s c' s' where
  balance := by rw [sent, h.outgoing, List.append_assoc]
  capacity := h.capacity
  fits := h.fits
  encoded := h.encoded

theorem Passes.trans {ps qs : List Packet} {c c' c'' : Client} {s s' s'' : σ}
    (h : Passes ps c s c' s') (h' : Passes qs c' s' c'' s'') : Passes (ps ++ qs) c s c'' s'' where
  balance := by rw [h'.balance, h.balance, Packet.wire_append, List.append_assoc _ (Packet.wire ps)]
  capacity := h'.capacity.trans h.capacity
  fits room := by
    have := h'.fits
    rw [h.capacity] at this
    exact this (h.fits room)
  encoded p hp := (List.mem_append.1 hp).elim (h.encoded p) (h'.encoded p)

theorem passes_writeOutput (now : Nat) (c : Client) (s : σ) :
    Passes [] c s (c.writeOutput now s).2.1 (c.writeOutput now s).2.2 := by
  have sent := sent_drain s c.engine.outgoing.toList false
  have length := length_drain_le s c.engine.outgoing.toList false
  unfold writeOutput
  rcases drained : drain s c.engine.outgoing.toList false with ⟨result, left, wrote, s'⟩
  rw [drained] at sent length
  have kept : ∀ {c' : Client} {s2 : σ}, c'.engine.outgoing = left.toArray →
      c'.engine.sendCapacity = c.engine.sendCapacity → ByteStream.sent s2 = ByteStream.sent s' →
      Passes [] c s c' s2 := by
    intro c' s2 outgoing capacity same
    refine ⟨by simpa [outgoing, same] using sent, capacity, ?_, by simp⟩
    intro room
    rw [Array.length_toList] at length
    rw [outgoing, List.size_toArray]
    exact Nat.le_trans length room
  -- Flushing moves no bytes, and neither does noting a fault.
  have flushed := ByteStream.sent_flush s'
  cases result with
  | error f => exact kept rfl rfl rfl
  | ok _ =>
    dsimp only
    split
    · rename_i s2 failed
      rw [failed] at flushed
      exact kept rfl rfl flushed
    · rename_i s2 _ done
      rw [done] at flushed
      exact kept rfl rfl flushed

theorem passes_sync (now : Nat) (c : Client) (s : σ) :
    Passes (c.syncQueued now s) c s (c.sync now s).2.1 (c.sync now s).2.2 := by
  have first := queued_lift (Engine.spares_ready c.engine)
  unfold sync syncQueued
  rcases ran : lift Engine.ready c with ⟨result, c1⟩
  rw [ran] at first
  cases result with
  | error f => exact .ofQueued first rfl
  | ok _ =>
    have second := queued_takeInput c1 s
    have sent := sent_takeInput c1 s
    have first' : Passes [] c s c1 s := .ofQueued first rfl
    dsimp only
    rcases ran' : c1.takeInput s with ⟨result', c2, s2⟩
    rw [ran'] at second sent
    have second' := first'.trans (.ofQueued second sent)
    cases result' with
    | error f => simpa using second'
    | ok _ =>
      have third := queued_lift (Engine.queues_serviceKeepAlive now c2.engine)
      dsimp only
      rcases ran'' : lift (Engine.serviceKeepAlive now) c2 with ⟨result'', c3⟩
      rw [ran''] at third
      have third' := second'.trans (.ofQueued third (rfl : ByteStream.sent s2 = _))
      cases result'' with
      | error f => simpa using third'
      | ok _ => simpa using third'.trans (passes_writeOutput now c3 s2)

/-! ## Beginning to connect and to leave -/

/-- What is queued with the greeting if a handshake begins. -/
def onBegun (r : Option (Except Fault Handshake) × Client) (ps : List Packet) : List Packet :=
  match r.1 with
  | some (.ok _) => ps
  | some (.error _) | none => []

theorem queued_greet (now : Nat) (options : ConnectOptions) (timeout : Nat) (c : Client) :
    Engine.Queued (onBegun (c.greet now options timeout) [.connect options.greeting])
      c.engine (c.greet now options timeout).2.engine := by
  have queued := queued_lift (Engine.queues_queue (.connect options.greeting) (c.asked options).engine)
  have went := c.greeted now options timeout
  generalize c.greet now options timeout = r at went ⊢
  cases went with
  | broken | untold => exact .same rfl rfl
  | refused _ _ ran | queued _ _ ran =>
    rw [ran] at queued
    exact ⟨queued.outgoing, queued.capacity, queued.fits, queued.encoded⟩

theorem queued_leave (now : Nat) (c : Client) :
    Engine.Queued (onSuccess (c.leave now) fun _ => [.disconnect]) c.engine (c.leave now).2.engine := by
  have queues : Engine.Queues (do Engine.ready; Engine.queue .disconnect) fun _ => [.disconnect] :=
    .bind Engine.spares_ready fun _ => Engine.queues_queue .disconnect
  have queued := queued_lift (queues c.engine)
  unfold leave
  split <;> rename_i ran <;> rw [ran] at queued <;>
    exact ⟨queued.outgoing, queued.capacity, queued.fits, queued.encoded⟩

theorem lift_of_fault {c : Client} {f : Fault} (h : c.fault = some f)
    (next : Unit → EngineM Unit) : lift (Engine.ready >>= next) c = (.error f, c) := by
  rw [lift, Engine.run_bind, Engine.ready_eq, show c.engine.fault = some f from h]

theorem leave_ok {now : Nat} {c c' : Client} {f : Farewell} (ok : c.leave now = (.ok f, c')) :
    c.fault = none ∧ f.stage = .sending c'.engine.outgoing.toList := by
  unfold leave at ok
  split at ok
  · simp at ok
  · rename_i ran
    cases whole : c.fault with
    | some f => simp [lift_of_fault whole] at ran
    | none =>
      cases ok
      exact ⟨rfl, rfl⟩

end Client

/-! ## A client at work -/

/-- What a client is busy with. -/
inductive Talk.Work where
  | idle
  | greeting (handshake : Handshake)
  | leaving (farewell : Farewell)

namespace Talk.Work

variable {α : Type}

def ofHandshake : Progress Handshake α → Work
  | .waiting h => greeting h
  | .done _ => idle

def ofFarewell : Progress Farewell α → Work
  | .waiting f => leaving f
  | .done _ => idle

variable {σ : Type} [ByteStream σ]

/-- How the bytes sent and those that are left make up `q`. A wait that was broken off may have sent a
part of what is still queued, but then the client is broken. -/
def Balanced (q : Bytes) (c : Client) (s : σ) : Work → Prop
  | idle => ByteStream.sent s <+: q ∧
      (c.fault = none → ByteStream.sent s ++ c.engine.outgoing.toList = q)
  | greeting ⟨_, .sending rest⟩ | leaving ⟨_, .sending rest⟩ => ByteStream.sent s ++ rest = q
  | greeting ⟨_, .flushing⟩ | leaving ⟨_, .flushing⟩ => ByteStream.sent s = q
  | greeting ⟨_, .awaiting⟩ | leaving ⟨_, .closing⟩ =>
    ByteStream.sent s = q ∧ c.engine.outgoing = #[]

theorem Balanced.sent_prefix {q : Bytes} {c : Client} {s : σ} {w : Talk.Work} (h : Balanced q c s w) :
    ByteStream.sent s <+: q := by
  cases w with
  | idle => exact h.1
  | greeting h' =>
    obtain ⟨deadline, stage⟩ := h'
    cases stage with
    | sending rest => exact ⟨rest, h⟩
    | flushing => exact ⟨[], (List.append_nil _).trans h⟩
    | awaiting => exact ⟨[], (List.append_nil _).trans h.1⟩
  | leaving f =>
    obtain ⟨deadline, stage⟩ := f
    cases stage with
    | sending rest => exact ⟨rest, h⟩
    | flushing => exact ⟨[], (List.append_nil _).trans h⟩
    | closing => exact ⟨[], (List.append_nil _).trans h.1⟩

end Talk.Work

/-- A client on its stream. -/
structure Talk (σ : Type) where
  client : Client
  stream : σ
  work : Talk.Work := .idle

namespace Talk

variable {σ : Type} [ByteStream σ]

/-- What every move keeps, if `q` is what has been queued so far. -/
structure Sound (capacity : Nat) (q : Bytes) (t : Talk σ) : Prop where
  capacity_eq : t.client.engine.sendCapacity = capacity
  room : t.client.engine.outgoing.size ≤ capacity
  balanced : t.work.Balanced q t.client t.stream

variable {capacity : Nat} {q : Bytes} {c : Client} {s : σ} {w : Work}

/-- Whatever a client was busy with, it may break. -/
theorem Sound.fail (h : Sound capacity q ⟨c, s, w⟩) (f : Fault) :
    Sound capacity q ⟨c.fail f, s, .idle⟩ where
  capacity_eq := h.capacity_eq
  room := h.room
  balanced := ⟨h.balanced.sent_prefix, by simp [Client.fail, Client.fault]⟩

/-! ## The handshake -/

theorem judge_spares (p : Packet) (c : Client) :
    (c.judge p).2.engine.outgoing = c.engine.outgoing ∧
      (c.judge p).2.engine.sendCapacity = c.engine.sendCapacity := by
  unfold Client.judge
  split <;> exact ⟨rfl, rfl⟩

theorem awaitReply_spares (c : Client) (s : σ) :
    (c.awaitReply s).2.1.engine.outgoing = c.engine.outgoing ∧
      (c.awaitReply s).2.1.engine.sendCapacity = c.engine.sendCapacity ∧
      ByteStream.sent (c.awaitReply s).2.2 = ByteStream.sent s := by
  fun_induction Client.awaitReply c s with
  | case1 c s f received found => exact ⟨rfl, rfl, rfl⟩
  | case2 c s p received found verdict c' judged =>
    have h := judge_spares p { c with received }
    rw [judged] at h
    exact ⟨h.1, h.2, rfl⟩
  | case3 c s found bytes s' read ih =>
    have sent := ByteStream.sent_read s
    rw [read] at sent
    exact ⟨ih.1, ih.2.1, ih.2.2.trans sent⟩
  | case4 c s found s' read | case5 c s found s' read | case6 c s found s' read =>
    have sent := ByteStream.sent_read s
    rw [read] at sent
    exact ⟨rfl, rfl, sent⟩

theorem Sound.greetingBlock {h : Handshake} (sound : Sound capacity q ⟨c, s, .greeting h⟩)
    (now : Nat) :
    Sound capacity q ⟨(h.block now c s).2.1, (h.block now c s).2.2, .ofHandshake (h.block now c s).1⟩ := by
  unfold Handshake.block
  split
  · exact sound.fail .socketError
  · exact sound

theorem Sound.pollReply {h : Handshake} (now : Nat) (capacity_eq : c.engine.sendCapacity = capacity)
    (sent : ByteStream.sent s = q) (empty : c.engine.outgoing = #[]) :
    Sound capacity q ⟨(h.pollReply now c s).2.1, (h.pollReply now c s).2.2,
      .ofHandshake (h.pollReply now c s).1⟩ := by
  obtain ⟨outgoing, same, unsent⟩ := awaitReply_spares c s
  unfold Handshake.pollReply
  split
  · rename_i verdict c' s' replied
    rw [replied] at outgoing same unsent
    replace empty := outgoing.trans empty
    dsimp only at unsent empty
    exact ⟨same.trans capacity_eq, by simp [empty],
      by simp [Work.ofHandshake, Work.Balanced, empty, unsent, sent]⟩
  · rename_i c' s' replied
    rw [replied] at outgoing same unsent
    replace empty := outgoing.trans empty
    dsimp only at unsent empty
    have sound : Sound capacity q ⟨c', s', .greeting { h with stage := .awaiting }⟩ :=
      ⟨same.trans capacity_eq, by simp [empty], unsent.trans sent, empty⟩
    exact sound.greetingBlock now

theorem Sound.greetingFlush {h : Handshake} (now : Nat) (capacity_eq : c.engine.sendCapacity = capacity)
    (room : c.engine.outgoing.size ≤ capacity) (sent : ByteStream.sent s = q) :
    Sound capacity q ⟨(h.pollFlush now c s).2.1, (h.pollFlush now c s).2.2,
      .ofHandshake (h.pollFlush now c s).1⟩ := by
  have unsent := ByteStream.sent_flush s
  unfold Handshake.pollFlush
  split
  · rename_i s' flushed
    rw [flushed] at unsent
    have sound : Sound capacity q ⟨c, s', .greeting { h with stage := .flushing }⟩ :=
      ⟨capacity_eq, room, unsent.trans sent⟩
    exact sound.fail .socketError
  · rename_i s' flushed
    rw [flushed] at unsent
    have sound : Sound capacity q ⟨c, s', .greeting { h with stage := .flushing }⟩ :=
      ⟨capacity_eq, room, unsent.trans sent⟩
    exact sound.greetingBlock now
  · rename_i s' flushed
    rw [flushed] at unsent
    exact .pollReply now capacity_eq (unsent.trans sent) rfl

theorem Sound.pollGreeting {h : Handshake} (sound : Sound capacity q ⟨c, s, .greeting h⟩) (now : Nat) :
    Sound capacity q ⟨(h.poll now c s).2.1, (h.poll now c s).2.2, .ofHandshake (h.poll now c s).1⟩ := by
  obtain ⟨capacity_eq, room, balanced⟩ := sound
  obtain ⟨deadline, stage⟩ := h
  unfold Handshake.poll
  cases stage with
  | sending rest =>
    have sends := ByteStream.sent_sendAll s rest
    rw [show ByteStream.sent s ++ rest = q from balanced] at sends
    dsimp only
    split
    · rename_i s' failed
      rw [failed] at sends
      exact ⟨capacity_eq, room, sends.1, by simp [Client.fail, Client.fault]⟩
    · rename_i left s' taken
      rw [taken] at sends
      have sound : Sound capacity q ⟨c, s', .greeting ⟨deadline, .sending left⟩⟩ :=
        ⟨capacity_eq, room, sends.2 left rfl⟩
      exact sound.greetingBlock now
    · rename_i s' taken
      rw [taken] at sends
      exact .greetingFlush now capacity_eq room (by simpa using sends.2 [] rfl)
  | flushing => exact .greetingFlush now capacity_eq room balanced
  | awaiting => exact .pollReply now capacity_eq balanced.1 balanced.2

/-! ## The farewell -/

theorem Sound.leavingBlock {f : Farewell} (sound : Sound capacity q ⟨c, s, .leaving f⟩) (now : Nat) :
    Sound capacity q ⟨(f.block now c s).2.1, (f.block now c s).2.2, .ofFarewell (f.block now c s).1⟩ := by
  unfold Farewell.block
  split
  · exact sound.fail .socketError
  · exact sound

theorem Sound.pollClose {f : Farewell} (now : Nat) (capacity_eq : c.engine.sendCapacity = capacity)
    (sent : ByteStream.sent s = q) (empty : c.engine.outgoing = #[]) :
    Sound capacity q ⟨(f.pollClose now c s).2.1, (f.pollClose now c s).2.2,
      .ofFarewell (f.pollClose now c s).1⟩ := by
  have unsent := ByteStream.sent_shutdown s
  have room : c.engine.outgoing.size ≤ capacity := by simp [empty]
  unfold Farewell.pollClose
  split
  · rename_i s' closed
    rw [closed] at unsent
    exact ⟨capacity_eq, room, by simp [Work.ofFarewell, Work.Balanced, empty, unsent, sent]⟩
  · rename_i s' closed
    rw [closed] at unsent
    split
    · exact ⟨capacity_eq, room, by simp [Work.ofFarewell, Work.Balanced, empty, unsent, sent]⟩
    · exact ⟨capacity_eq, room, unsent.trans sent, empty⟩

theorem Sound.leavingFlush {f : Farewell} (now : Nat) (capacity_eq : c.engine.sendCapacity = capacity)
    (room : c.engine.outgoing.size ≤ capacity) (sent : ByteStream.sent s = q) :
    Sound capacity q ⟨(f.pollFlush now c s).2.1, (f.pollFlush now c s).2.2,
      .ofFarewell (f.pollFlush now c s).1⟩ := by
  have unsent := ByteStream.sent_flush s
  unfold Farewell.pollFlush
  split
  · rename_i s' flushed
    rw [flushed] at unsent
    have sound : Sound capacity q ⟨c, s', .leaving { f with stage := .flushing }⟩ :=
      ⟨capacity_eq, room, unsent.trans sent⟩
    exact sound.fail .socketError
  · rename_i s' flushed
    rw [flushed] at unsent
    have sound : Sound capacity q ⟨c, s', .leaving { f with stage := .flushing }⟩ :=
      ⟨capacity_eq, room, unsent.trans sent⟩
    exact sound.leavingBlock now
  · rename_i s' flushed
    rw [flushed] at unsent
    exact .pollClose now capacity_eq (unsent.trans sent) rfl

theorem Sound.pollLeaving {f : Farewell} (sound : Sound capacity q ⟨c, s, .leaving f⟩) (now : Nat) :
    Sound capacity q ⟨(f.poll now c s).2.1, (f.poll now c s).2.2, .ofFarewell (f.poll now c s).1⟩ := by
  obtain ⟨capacity_eq, room, balanced⟩ := sound
  obtain ⟨deadline, stage⟩ := f
  unfold Farewell.poll
  cases stage with
  | sending rest =>
    have sends := ByteStream.sent_sendAll s rest
    rw [show ByteStream.sent s ++ rest = q from balanced] at sends
    dsimp only
    split
    · rename_i s' failed
      rw [failed] at sends
      exact ⟨capacity_eq, room, sends.1, by simp [Client.fail, Client.fault]⟩
    · rename_i left s' taken
      rw [taken] at sends
      have sound : Sound capacity q ⟨c, s', .leaving ⟨deadline, .sending left⟩⟩ :=
        ⟨capacity_eq, room, sends.2 left rfl⟩
      exact sound.leavingBlock now
    · rename_i s' taken
      rw [taken] at sends
      exact .leavingFlush now capacity_eq room (by simpa using sends.2 [] rfl)
  | flushing => exact .leavingFlush now capacity_eq room balanced
  | closing => exact .pollClose now capacity_eq balanced.1 balanced.2

/-! ## Moves -/

/-- What happens next. -/
inductive Move (σ : Type) where
  | publish (m : Message) (qos : QoS) (retain : Bool)
  | subscribe (topic : String) (qos : QoS)
  | unsubscribe (topic : String)
  | sync (now : Nat)
  | connect (now : Nat) (options : ConnectOptions) (timeout : Nat)
  | disconnect (now : Nat)
  /-- The connect or the disconnect under way goes on as far as it can. -/
  | poll (now : Nat)
  /-- The far side and the network do anything at all. -/
  | farSide (s : σ)
  | collect

/-- A client does one thing at a time, and only the client writes. -/
def Move.Allowed (t : Talk σ) : Move σ → Prop
  | farSide s => ByteStream.sent s = ByteStream.sent t.stream
  | poll _ => True
  | publish .. | subscribe .. | unsubscribe _ | sync _ | connect .. | disconnect _ | collect =>
    t.work = .idle

def Move.run (t : Talk σ) : Move σ → Talk σ
  | publish m qos retain => { t with client := (t.client.publish m qos retain).2 }
  | subscribe topic qos => { t with client := (t.client.subscribe topic qos).2 }
  | unsubscribe topic => { t with client := (t.client.unsubscribe topic).2 }
  | sync now =>
    { t with client := (t.client.sync now t.stream).2.1, stream := (t.client.sync now t.stream).2.2 }
  | connect now options timeout =>
    match t.client.greet now options timeout with
    | (some (.ok h), client) => { t with client, work := .greeting h }
    | (some (.error _), client) | (none, client) => { t with client }
  | disconnect now =>
    match t.client.leave now with
    | (.ok f, client) => { t with client, work := .leaving f }
    | (.error _, client) => { t with client }
  | poll now =>
    match t.work with
    | .idle => t
    | .greeting h =>
      let (progress, client, stream) := h.poll now t.client t.stream
      ⟨client, stream, .ofHandshake progress⟩
    | .leaving f =>
      let (progress, client, stream) := f.poll now t.client t.stream
      ⟨client, stream, .ofFarewell progress⟩
  | farSide s => { t with stream := s }
  | collect => { t with client := t.client.collect.2 }

/-- The packets that are queued, the first one first. -/
def Move.queued (t : Talk σ) : Move σ → List Packet
  | publish m qos retain => Client.onSuccess (t.client.publish m qos retain) fun e =>
    [.publish { m with qos, retain, id := if qos = .atMostOnce then 0 else e.lastId }]
  | subscribe topic qos => Client.onSuccess (t.client.subscribe topic qos) fun e =>
    [.subscribe e.lastId topic qos]
  | unsubscribe topic => Client.onSuccess (t.client.unsubscribe topic) fun e =>
    [.unsubscribe e.lastId topic]
  | sync now => t.client.syncQueued now t.stream
  | connect now options timeout =>
    Client.onBegun (t.client.greet now options timeout) [.connect options.greeting]
  | disconnect now => Client.onSuccess (t.client.leave now) fun _ => [.disconnect]
  | poll _ | farSide _ | collect => []

/-- A client, new on a stream that has taken nothing yet, after any moves, with all packets that were
queued. -/
inductive Run (capacity : Nat) : Talk σ → List Packet → Prop
  | new (recvCapacity : Nat) (listening : Bool) (now : Nat) (s : σ) (fresh : ByteStream.sent s = []) :
      Run capacity { client := .new capacity recvCapacity listening now, stream := s } []
  | move {t : Talk σ} {ps : List Packet} {m : Move σ} (run : Run capacity t ps)
      (allowed : m.Allowed t) : Run capacity (m.run t) (ps ++ m.queued t)

/-! ## Every move keeps it -/

theorem Sound.passes {c' : Client} {s' : σ} {ps qs : List Packet}
    (sound : Sound capacity (Packet.wire ps) ⟨c, s, .idle⟩) (whole : c.fault = none)
    (h : Client.Passes qs c s c' s') : Sound capacity (Packet.wire (ps ++ qs)) ⟨c', s', .idle⟩ := by
  obtain ⟨capacity_eq, room, -, balanced⟩ := sound
  have balance := h.balance
  rw [balanced whole, ← Packet.wire_append] at balance
  constructor
  case capacity_eq => exact h.capacity.trans capacity_eq
  case room =>
    have fits := h.fits
    rw [capacity_eq] at fits
    exact fits room
  case balanced => exact ⟨⟨_, balance⟩, fun _ => balance⟩

/-- An operation that only queues, and does nothing to a broken client. -/
theorem Sound.queues {c' : Client} {ps qs : List Packet}
    (sound : Sound capacity (Packet.wire ps) ⟨c, s, .idle⟩)
    (queued : Engine.Queued qs c.engine c'.engine)
    (refused : ∀ f, c.fault = some f → c' = c ∧ qs = []) :
    Sound capacity (Packet.wire (ps ++ qs)) ⟨c', s, .idle⟩ := by
  cases whole : c.fault with
  | none => exact sound.passes whole (.ofQueued queued rfl)
  | some f =>
    obtain ⟨rfl, rfl⟩ := refused f whole
    rwa [List.append_nil]

theorem Sound.lift {ps : List Packet} (sound : Sound capacity (Packet.wire ps) ⟨c, s, .idle⟩)
    {next : Unit → EngineM Unit} {qs : Engine → List Packet}
    (h : Engine.Queues (Engine.ready >>= next) qs) :
    let r := Client.lift (Engine.ready >>= next) c
    Sound capacity (Packet.wire (ps ++ Client.onSuccess r qs)) ⟨r.2, s, .idle⟩ := by
  refine sound.queues (Client.queued_lift (h c.engine)) fun f broken => ?_
  rw [Client.lift_of_fault broken]
  exact ⟨rfl, rfl⟩

theorem Sound.sync {ps : List Packet} (sound : Sound capacity (Packet.wire ps) ⟨c, s, .idle⟩)
    (now : Nat) : Sound capacity (Packet.wire (ps ++ c.syncQueued now s))
      ⟨(c.sync now s).2.1, (c.sync now s).2.2, .idle⟩ := by
  cases whole : c.fault with
  | none => exact sound.passes whole (Client.passes_sync now c s)
  | some f =>
    have refused : Client.lift Engine.ready c = (.error f, c) := by
      rw [Client.lift, Engine.ready_eq, show c.engine.fault = some f from whole]
    rw [Client.sync, Client.syncQueued, refused]
    simpa using sound

/-- What is queued behind a whole queue is all that has to be sent. -/
theorem Sound.sent_append {c' : Client} {ps qs : List Packet}
    (sound : Sound capacity (Packet.wire ps) ⟨c, s, .idle⟩) (whole : c.fault = none)
    (h : Engine.Queued qs c.engine c'.engine) :
    ByteStream.sent s ++ c'.engine.outgoing.toList = Packet.wire (ps ++ qs) := by
  rw [h.outgoing, ← List.append_assoc, sound.balanced.2 whole, Packet.wire_append]

theorem Sound.connect {ps : List Packet} (sound : Sound capacity (Packet.wire ps) ⟨c, s, .idle⟩)
    (now : Nat) (options : ConnectOptions) (timeout : Nat) :
    let t : Talk σ := ⟨c, s, .idle⟩
    let m : Move σ := .connect now options timeout
    Sound capacity (Packet.wire (ps ++ m.queued t)) (m.run t) := by
  have queued := Client.queued_greet now options timeout c
  have next := sound.queues queued fun f broken => by simp [Client.greet, broken, Client.onBegun]
  dsimp only [Move.queued, Move.run]
  rcases ran : c.greet now options timeout with ⟨_ | _ | h, c'⟩
  all_goals rw [ran] at queued next
  · exact next
  · exact next
  · obtain ⟨whole, rfl, -⟩ := Client.greeted_ok ran
    exact ⟨next.capacity_eq, next.room, sound.sent_append whole queued⟩

theorem Sound.disconnect {ps : List Packet} (sound : Sound capacity (Packet.wire ps) ⟨c, s, .idle⟩)
    (now : Nat) :
    let t : Talk σ := ⟨c, s, .idle⟩
    let m : Move σ := .disconnect now
    Sound capacity (Packet.wire (ps ++ m.queued t)) (m.run t) := by
  have queued := Client.queued_leave now c
  have next := sound.queues queued fun f broken => by
    simp [Client.leave, Client.lift_of_fault broken, Client.onSuccess]
  dsimp only [Move.queued, Move.run]
  rcases ran : c.leave now with ⟨result, c'⟩
  rw [ran] at queued next
  cases result with
  | error f => exact next
  | ok f =>
    obtain ⟨whole, stage⟩ := Client.leave_ok ran
    obtain ⟨deadline, _⟩ := f
    cases stage
    exact ⟨next.capacity_eq, next.room, sound.sent_append whole queued⟩

theorem Sound.poll {t : Talk σ} (sound : Sound capacity q t) (now : Nat) :
    Sound capacity q ((Move.poll now).run t) := by
  obtain ⟨c, s, w⟩ := t
  cases w with
  | idle => exact sound
  | greeting h => exact sound.pollGreeting now
  | leaving f => exact sound.pollLeaving now

theorem Sound.farSide {s' : σ} (sound : Sound capacity q ⟨c, s, w⟩)
    (same : ByteStream.sent s' = ByteStream.sent s) : Sound capacity q ⟨c, s', w⟩ where
  capacity_eq := sound.capacity_eq
  room := sound.room
  balanced := by
    have balanced := sound.balanced
    unfold Work.Balanced at balanced ⊢
    rw [same]
    exact balanced

theorem Sound.move {t : Talk σ} {ps : List Packet} {m : Move σ}
    (sound : Sound capacity (Packet.wire ps) t) (allowed : m.Allowed t) :
    Sound capacity (Packet.wire (ps ++ m.queued t)) (m.run t) := by
  obtain ⟨c, s, w⟩ := t
  cases m with
  | publish m qos retain =>
    obtain rfl : w = .idle := allowed
    exact sound.lift (Engine.queues_publish m qos retain)
  | subscribe topic qos =>
    obtain rfl : w = .idle := allowed
    exact sound.lift (Engine.queues_subscribe topic qos)
  | unsubscribe topic =>
    obtain rfl : w = .idle := allowed
    exact sound.lift (Engine.queues_unsubscribe topic)
  | sync now =>
    obtain rfl : w = .idle := allowed
    exact sound.sync now
  | connect now options timeout =>
    obtain rfl : w = .idle := allowed
    exact sound.connect now options timeout
  | disconnect now =>
    obtain rfl : w = .idle := allowed
    exact sound.disconnect now
  | poll now =>
    rw [Move.queued, List.append_nil]
    exact sound.poll now
  | farSide s' =>
    rw [Move.queued, List.append_nil]
    exact sound.farSide allowed
  | collect =>
    obtain rfl : w = .idle := allowed
    rw [Move.queued, List.append_nil]
    exact ⟨sound.capacity_eq, sound.room, sound.balanced⟩

theorem Run.sound {t : Talk σ} {ps : List Packet} (run : Run capacity t ps) :
    Sound capacity (Packet.wire ps) t := by
  induction run with
  | new recvCapacity listening now s fresh =>
    exact ⟨rfl, Nat.zero_le _, by simp [Work.Balanced, fresh, Client.new]⟩
  | move _ allowed ih => exact ih.move allowed

/-! ## What the stream gets -/

/-- Nothing is queued that has no frame. -/
theorem queued_encoded (t : Talk σ) (m : Move σ) : ∀ p ∈ m.queued t, p.encode.isSome = true := by
  cases m with
  | publish m qos retain =>
    exact (Client.queued_lift (Engine.queues_publish m qos retain t.client.engine)).encoded
  | subscribe topic qos =>
    exact (Client.queued_lift (Engine.queues_subscribe topic qos t.client.engine)).encoded
  | unsubscribe topic =>
    exact (Client.queued_lift (Engine.queues_unsubscribe topic t.client.engine)).encoded
  | sync now => exact (Client.passes_sync now t.client t.stream).encoded
  | connect now options timeout => exact (Client.queued_greet now options timeout t.client).encoded
  | disconnect now => exact (Client.queued_leave now t.client).encoded
  | poll | farSide | collect => simp [Move.queued]

theorem Run.encoded {t : Talk σ} {ps : List Packet} (run : Run capacity t ps) :
    ∀ p ∈ ps, p.encode.isSome = true := by
  induction run with
  | new => simp
  | @move t ps m _ _ ih =>
    intro p hp
    rw [List.mem_append] at hp
    exact hp.elim (ih p) (queued_encoded t m p)

/-- The stream gets the beginning of what was queued. As long as the client is whole the rest is still
in its queue, which never holds more than it may. -/
theorem traffic_in_order {t : Talk σ} {ps : List Packet} (run : Run capacity t ps) :
    ByteStream.sent t.stream <+: Packet.wire ps ∧
      (t.work = .idle → t.client.fault = none →
        ByteStream.sent t.stream ++ t.client.engine.outgoing.toList = Packet.wire ps) ∧
      t.client.engine.outgoing.size ≤ capacity ∧ ∀ p ∈ ps, p.encode.isSome = true := by
  refine ⟨run.sound.balanced.sent_prefix, ?_, run.sound.room, run.encoded⟩
  intro idle whole
  have balanced := run.sound.balanced
  rw [idle] at balanced
  exact balanced.2 whole

/-- A greeting and a subscription have left. -/
theorem traffic_in_order_subscribed :
    ∃ (t : Talk Link) (ps : List Packet), Run 64 t ps ∧ ps.length = 2 ∧
      ByteStream.sent t.stream ++ t.client.engine.outgoing.toList = Packet.wire ps := by
  have r : Run 64 _ _ := .new (σ := Link) 64 false 0 { inbox := [[0x20, 2, 0, 0]] } rfl
  have r := r.move (m := .connect 0 {} 1000) rfl
  have r := r.move (m := .poll 0) trivial
  have r := r.move (m := .subscribe "a" .atMostOnce) (by cbv)
  have r := r.move (m := .sync 0) (by cbv)
  exact ⟨_, _, r, by cbv, (traffic_in_order r).2.1 (by cbv) (by cbv)⟩

end Talk

end MqttLink
