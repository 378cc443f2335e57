import MqttLink.Proofs.Bursts
import MqttLink.Proofs.Traffic

/-!
# A fault is final

A client keeps the first fault that it meets. From then on every operation gives just this fault and
does nothing else, whatever the far side does. An operation that fails and leaves no fault behind was
refused before it began: there is no connection, or its own packet has no frame.
-/

namespace MqttLink

def Fault.returned? {α : Type} : Except Fault α → Option Fault
  | .ok _ => none
  | .error f => some f

theorem Pending.erase_insert {p : Pending} {id : UInt16} (free : id ∉ p) (awaited : Awaited) :
    (p.insert id awaited).erase id = p := by
  ext k v
  grind

namespace Engine

variable {α β : Type} {e : Engine}

/-! ## Faults are noted -/

/-- The fault that is returned is the one that is noted. -/
def Noted : EStateM.Result Fault Engine α → Prop
  | .ok _ e => e.fault = none
  | .error f e => e.fault = some f

/-- An operation that is never refused. -/
def Notes (op : EngineM α) : Prop := ∀ e : Engine, e.fault = none → Noted (op e)

theorem Notes.bind {op : EngineM α} {next : α → EngineM β} (first : Notes op)
    (rest : ∀ a, Notes (next a)) : Notes (op >>= next) := by
  intro e whole
  have noted := first e whole
  rw [run_bind]
  cases ran : op e with
  | ok a e' =>
    rw [ran] at noted
    exact rest a e' noted
  | error f e' => rwa [ran] at noted

theorem notes_fail (f : Fault) : Notes (fail f : EngineM α) := fun _ _ => rfl

theorem notes_takeId : Notes takeId := by
  intro e whole
  rw [takeId_eq]
  split
  · rfl
  · split
    · exact whole
    · rfl

theorem notes_settle (id : UInt16) (awaited : Awaited) : Notes (settle id awaited) := by
  intro e whole
  rw [settle_eq]
  split
  · exact whole
  · rfl

theorem notes_hand (m : Message) : Notes (hand m) := by
  intro e whole
  unfold hand
  rw [run_modify]
  change (if e.listening then _ else e).fault = none
  split <;> exact whole

theorem notes_queue {p : Packet} (encoded : p.encode.isSome = true) : Notes (queue p) := by
  obtain ⟨frame, encoded⟩ := Option.isSome_iff_exists.1 encoded
  intro e whole
  unfold queue
  rw [encoded]
  dsimp only
  split
  · rfl
  · exact whole

theorem notes_queueTracked {p : Packet} (encoded : p.encode.isSome = true) (id : UInt16)
    (awaited : Awaited) : Notes (queueTracked p id awaited) := by
  intro e whole
  have noted := notes_queue encoded { e with pending := e.pending.insert id awaited } whole
  unfold queueTracked
  split
  all_goals
    rename_i ran
    rw [ran] at noted
    exact noted

/-- All answers have a frame. -/
theorem notes_takePacket (p : Packet) : Notes (takePacket p) := by
  have answered : ∀ {q a : Packet}, q.answer? = some a → a.encode.isSome = true := by
    intro q a answer
    obtain ⟨frame, encoded, -⟩ := Packet.encode_answer answer
    rw [encoded]
    rfl
  cases p with
  | publish p =>
    apply Notes.bind (notes_hand _)
    intro _
    split
    · exact fun _ whole => whole
    · rename_i qos
      exact notes_queue (answered (q := .publish p) (by rw [Packet.answer?, qos]))
    · rename_i qos
      exact notes_queue (answered (q := .publish p) (by rw [Packet.answer?, qos]))
  | puback id => exact notes_settle _ _
  | pubrec id =>
    apply Notes.bind (notes_settle _ _)
    intro _
    exact notes_queueTracked (answered (q := .pubrec id) rfl) _ _
  | pubcomp id => exact notes_settle _ _
  | pubrel id => exact notes_queue (answered (q := .pubrel id) rfl)
  | suback id grants =>
    apply Notes.bind (notes_settle _ _)
    intro _
    split
    · exact notes_fail _
    · exact fun _ whole => whole
  | unsuback id => exact notes_settle _ _
  | pingresp => exact fun _ whole => whole
  | connack => exact fun _ whole => whole
  | disconnect => exact notes_fail _
  | connect | subscribe | unsubscribe | pingreq => exact notes_fail _

theorem noted_takeAll (limit : Nat) (received : Bytes) (whole : e.fault = none) :
    (takeAll limit received e).2.2.fault = Fault.returned? (takeAll limit received e).1 := by
  fun_induction takeAll limit received e with
  | case1 received e found => exact whole
  | case2 received e f rest found => rfl
  | case3 received e p rest found e' ran ih =>
    have noted := notes_takePacket p e whole
    rw [ran] at noted
    exact ih noted
  | case4 received e p rest found f e' ran =>
    have noted := notes_takePacket p e whole
    rwa [ran] at noted

theorem notes_serviceKeepAlive (now : Nat) : Notes (serviceKeepAlive now) := by
  intro e whole
  rw [serviceKeepAlive_eq]
  split
  · exact whole
  · split
    · split
      · rfl
      · exact whole
    · split
      · have noted := notes_queue (p := .pingreq) rfl e whole
        split
        all_goals
          rename_i ran
          rw [ran] at noted
          exact noted
      · exact whole

/-! ## Refusals -/

/-- Why an operation that wants to queue this packet was refused, and what it has left as it was. -/
structure Refused (own : Option Packet) (f : Fault) (e e' : Engine) : Prop where
  reason : f = .connectNotCalled ∧ e.connected = false ∨
    f = .malformedPacket ∧ ∃ p ∈ own, p.encode = none
  outgoing : e'.outgoing = e.outgoing
  pending : e'.pending = e.pending
  connected : e'.connected = e.connected
  fault : e'.fault = e.fault

/-- A fault that is returned is noted, or else the operation was refused. What it wants to queue may
depend on the id that it has taken. -/
def Decided (own : UInt16 → Option Packet) (e : Engine) : EStateM.Result Fault Engine α → Prop
  | .ok _ e' => e'.fault = none
  | .error f e' => e'.fault = some f ∨ Refused (own e'.lastId) f e e'

theorem Noted.decided {r : EStateM.Result Fault Engine α} (noted : Noted r)
    (own : UInt16 → Option Packet) : Decided own e r := by
  cases r with
  | ok => exact noted
  | error => exact .inl noted

theorem decided_queue (p : Packet) (whole : e.fault = none) :
    Decided (fun _ => some p) e (queue p e) := by
  cases encoded : p.encode with
  | some frame => exact (notes_queue (by rw [encoded]; rfl) e whole).decided _
  | none =>
    rw [queue, encoded]
    exact .inr ⟨.inr ⟨rfl, p, rfl, encoded⟩, rfl, rfl, rfl, rfl⟩

/-- The id that was taken for a packet without a frame is free again. -/
theorem decided_started (p : UInt16 → Packet) (awaited : Awaited) (whole : e.fault = none) :
    Decided (fun id => some (p id)) e
      ((do let id ← takeId; queueTracked (p id) id awaited : EngineM Unit) e) := by
  have noted := notes_takeId e whole
  rw [run_bind]
  cases ran : takeId e with
  | error f e' =>
    rw [ran] at noted
    exact .inl noted
  | ok id e' =>
    obtain ⟨-, found, rfl⟩ := takeId_ok ran
    have free := (Pending.freeAfter_spec found).2
    dsimp only
    cases encoded : (p id).encode with
    | some frame =>
      have noted := notes_queueTracked (by rw [encoded]; rfl) id awaited { e with lastId := id } whole
      exact noted.decided _
    | none =>
      rw [queueTracked, queue, encoded]
      exact .inr ⟨.inr ⟨rfl, p id, rfl, encoded⟩, rfl, Pending.erase_insert free awaited, rfl, rfl⟩

theorem decided_ready {own : UInt16 → Option Packet} {next : Unit → EngineM Unit}
    (whole : e.fault = none) (h : Decided own e (next () e)) : Decided own e ((ready >>= next) e) := by
  rw [run_bind, ready_eq, whole]
  cases connected : e.connected with
  | true => exact h
  | false => exact .inr ⟨.inl ⟨rfl, connected⟩, rfl, rfl, rfl, rfl⟩

end Engine

namespace Client

variable {σ : Type} [ByteStream σ] {c : Client} {s : σ}

/-! ## Operations that only queue -/

/-- A fault that is returned is noted, or else the operation was refused. -/
def Decided {α : Type} (own : UInt16 → Option Packet) (c : Client) (r : Except Fault α × Client) : Prop :=
  r.2.fault = Fault.returned? r.1 ∨
    ∃ f, r.1 = .error f ∧ Engine.Refused (own r.2.engine.lastId) f c.engine r.2.engine ∧
      r.2.received = c.received

theorem decided_lift {own : UInt16 → Option Packet} {op : EngineM Unit}
    (decided : Engine.Decided own c.engine (op c.engine)) : Decided own c (lift op c) := by
  unfold lift
  cases ran : op c.engine with
  | ok _ e =>
    rw [ran] at decided
    exact .inl decided
  | error f e =>
    rw [ran] at decided
    apply decided.imp id
    intro refused
    exact ⟨f, rfl, refused, rfl⟩

theorem decided_publish (m : Message) (qos : QoS) (retain : Bool) (whole : c.fault = none) :
    Decided (fun id => some (.publish { m with qos, retain, id := if qos = .atMostOnce then 0 else id }))
      c (c.publish m qos retain) := by
  apply decided_lift
  apply Engine.decided_ready whole
  cases qos with
  | atMostOnce => exact Engine.decided_queue _ whole
  | atLeastOnce =>
    exact Engine.decided_started (fun id => .publish { m with qos := .atLeastOnce, retain, id })
      .puback whole
  | exactlyOnce =>
    exact Engine.decided_started (fun id => .publish { m with qos := .exactlyOnce, retain, id })
      .pubrec whole

theorem decided_subscribe (topic : String) (qos : QoS) (whole : c.fault = none) :
    Decided (fun id => some (.subscribe id topic qos)) c (c.subscribe topic qos) :=
  decided_lift (Engine.decided_ready whole (Engine.decided_started (.subscribe · topic qos) _ whole))

theorem decided_unsubscribe (topic : String) (whole : c.fault = none) :
    Decided (fun id => some (.unsubscribe id topic)) c (c.unsubscribe topic) :=
  decided_lift (Engine.decided_ready whole (Engine.decided_started (.unsubscribe · topic) _ whole))

theorem decided_greet {now : Nat} {options : ConnectOptions} {timeout : Nat} {c' : Client}
    {r : Except Fault Handshake} (whole : c.fault = none)
    (ran : c.greet now options timeout = (some r, c')) :
    Decided (fun _ => some (.connect options.greeting)) c (r, c') := by
  have decided := decided_lift (c := c.asked options)
    (Engine.decided_queue (.connect options.greeting) whole)
  have went := c.greeted now options timeout
  rw [ran] at went
  cases went with
  | broken broken =>
    rw [whole] at broken
    cases broken
  | refused _ _ queued =>
    rw [queued] at decided
    rcases decided with noted | ⟨f, failed, refused, received⟩
    · exact .inl noted
    · cases failed
      exact .inr ⟨_, rfl, ⟨refused.reason, refused.outgoing, refused.pending, refused.connected,
        refused.fault⟩, received⟩
  | queued _ _ queued =>
    rw [queued] at decided
    rcases decided with noted | ⟨f, failed, -⟩
    · exact .inl noted
    · cases failed

theorem fault_of_untold {now : Nat} {options : ConnectOptions} {timeout : Nat} {c' : Client}
    (ran : c.greet now options timeout = (none, c')) : c'.fault = none := by
  have went := c.greeted now options timeout
  rw [ran] at went
  cases went with
  | untold whole => exact whole

theorem decided_leave (now : Nat) (whole : c.fault = none) :
    Decided (fun _ => some .disconnect) c (c.leave now) := by
  have queues := Engine.decided_queue .disconnect whole
  have decided : Decided _ c (lift (do Engine.ready; Engine.queue .disconnect) c) :=
    decided_lift (Engine.decided_ready whole queues)
  unfold leave
  split
  all_goals
    rename_i ran
    rw [ran] at decided
    rcases decided with noted | ⟨f, failed, refused⟩
  · exact .inl noted
  · cases failed
    exact .inr ⟨_, rfl, refused⟩
  · exact .inl noted
  · cases failed

/-! ## Operations that read and write -/

theorem noted_takeInput (whole : c.fault = none) :
    (c.takeInput s).2.1.fault = Fault.returned? (c.takeInput s).1 := by
  fun_induction takeInput c s with
  | case1 c s f received e taken =>
    have noted := Engine.noted_takeAll c.recvCapacity c.received whole
    rwa [taken] at noted
  | case2 c s received e taken bytes s' read ih =>
    have noted := Engine.noted_takeAll c.recvCapacity c.received whole
    rw [taken] at noted
    exact ih noted
  | case3 | case4 => rfl
  | case5 c s received e taken s' read =>
    have noted := Engine.noted_takeAll c.recvCapacity c.received whole
    rwa [taken] at noted

theorem noted_serviceKeepAlive (now : Nat) (whole : c.fault = none) :
    (lift (Engine.serviceKeepAlive now) c).2.fault =
      Fault.returned? (lift (Engine.serviceKeepAlive now) c).1 := by
  have noted := Engine.notes_serviceKeepAlive now c.engine whole
  unfold lift
  split
  all_goals
    rename_i ran
    rw [ran] at noted
    exact noted

theorem noted_writeOutput (now : Nat) (whole : c.fault = none) :
    (c.writeOutput now s).2.1.fault = Fault.returned? (c.writeOutput now s).1 := by
  unfold writeOutput
  rcases drain s c.engine.outgoing.toList false with ⟨result, left, wrote, s'⟩
  cases result with
  | error f => rfl
  | ok _ =>
    dsimp only
    split
    · rfl
    · exact whole

theorem sync_of_fault {f : Fault} (broken : c.fault = some f) (now : Nat) :
    c.sync now s = (.error f, c, s) := by
  have refused : lift Engine.ready c = (.error f, c) := by
    rw [lift, Engine.ready_eq, show c.engine.fault = some f from broken]
  rw [sync, refused]

theorem sync_of_not_connected (now : Nat) (whole : c.fault = none)
    (apart : c.engine.connected = false) : c.sync now s = (.error .connectNotCalled, c, s) := by
  have refused : lift Engine.ready c = (.error .connectNotCalled, c) := by
    rw [lift, Engine.ready_eq, show c.engine.fault = none from whole, apart]
    rfl
  rw [sync, refused]

theorem noted_sync (now : Nat) (whole : c.fault = none) (connected : c.engine.connected = true) :
    (c.sync now s).2.1.fault = Fault.returned? (c.sync now s).1 := by
  have ready : lift Engine.ready c = (.ok (), c) := by
    rw [lift, Engine.ready_eq, show c.engine.fault = none from whole, connected]
    rfl
  have input := noted_takeInput (s := s) whole
  rw [sync, ready]
  dsimp only
  split
  · rename_i ran
    rwa [ran] at input
  · rename_i c' s' ran
    rw [ran] at input
    have alive := noted_serviceKeepAlive now input
    split
    · rename_i ran'
      rwa [ran'] at alive
    · rename_i ran'
      rw [ran'] at alive
      exact noted_writeOutput now alive

theorem noted_awaitReply (whole : c.fault = none) :
    (c.awaitReply s).2.1.fault = (c.awaitReply s).1.bind Fault.returned? := by
  fun_induction awaitReply c s with
  | case1 => rfl
  | case2 c s p received found verdict c' judged =>
    unfold judge at judged
    split at judged
    all_goals
      cases judged
    · exact whole
    · rfl
    · rfl
  | case3 c s found bytes s' read ih => exact ih whole
  | case4 | case5 => rfl
  | case6 => exact whole

end Client

/-! ## Waits -/

/-- A wait that goes on has no fault yet. -/
def Progress.fault? {π : Type} : Progress π (Except Fault Unit) → Option Fault
  | waiting _ => none
  | done result => Fault.returned? result

section

variable {σ : Type} {c : Client} {s : σ}

theorem Handshake.noted_block (now : Nat) (h : Handshake) (whole : c.fault = none) :
    (h.block now c s).2.1.fault = (h.block now c s).1.fault? := by
  unfold block
  split
  · rfl
  · exact whole

theorem Farewell.noted_block (now : Nat) (f : Farewell) (whole : c.fault = none) :
    (f.block now c s).2.1.fault = (f.block now c s).1.fault? := by
  unfold block
  split
  · rfl
  · exact whole

variable [ByteStream σ]

theorem Handshake.noted_pollReply (now : Nat) (h : Handshake) (whole : c.fault = none) :
    (h.pollReply now c s).2.1.fault = (h.pollReply now c s).1.fault? := by
  have noted := Client.noted_awaitReply (s := s) whole
  unfold pollReply
  split
  all_goals
    rename_i ran
    rw [ran] at noted
  · exact noted
  · exact noted_block now _ noted

theorem Handshake.noted_pollFlush (now : Nat) (h : Handshake) (whole : c.fault = none) :
    (h.pollFlush now c s).2.1.fault = (h.pollFlush now c s).1.fault? := by
  unfold pollFlush
  split
  · rfl
  · exact noted_block now _ whole
  · exact noted_pollReply now _ whole

theorem Handshake.noted_poll (now : Nat) (h : Handshake) (whole : c.fault = none) :
    (h.poll now c s).2.1.fault = (h.poll now c s).1.fault? := by
  unfold poll
  split
  · split
    · rfl
    · exact noted_block now _ whole
    · exact noted_pollFlush now _ whole
  · exact noted_pollFlush now _ whole
  · exact noted_pollReply now _ whole

theorem Farewell.noted_pollClose (now : Nat) (f : Farewell) (whole : c.fault = none) :
    (f.pollClose now c s).2.1.fault = (f.pollClose now c s).1.fault? := by
  unfold pollClose
  split
  · exact whole
  · split
    · exact whole
    · exact whole

theorem Farewell.noted_pollFlush (now : Nat) (f : Farewell) (whole : c.fault = none) :
    (f.pollFlush now c s).2.1.fault = (f.pollFlush now c s).1.fault? := by
  unfold pollFlush
  split
  · rfl
  · exact noted_block now _ whole
  · exact noted_pollClose now _ whole

theorem Farewell.noted_poll (now : Nat) (f : Farewell) (whole : c.fault = none) :
    (f.poll now c s).2.1.fault = (f.poll now c s).1.fault? := by
  unfold poll
  split
  · split
    · rfl
    · exact noted_block now _ whole
    · exact noted_pollFlush now _ whole
  · exact noted_pollFlush now _ whole
  · exact noted_pollClose now _ whole

end

namespace Talk

variable {σ : Type} [ByteStream σ] {capacity : Nat} {t t' : Talk σ} {ps : List Packet} {f : Fault}

/-! ## What an operation returns -/

/-- The calls of a client. The rest of a connect or a disconnect that has to wait is a `poll`. -/
def Move.IsOperation : Move σ → Prop
  | publish .. | subscribe .. | unsubscribe _ | sync _ | connect .. | disconnect _ => True
  | poll _ | farSide _ | collect => False

/-- What comes back from an operation with this move, if anything does. -/
def Move.result? (t : Talk σ) : Move σ → Option (Except Fault Unit)
  | publish m qos retain => some (t.client.publish m qos retain).1
  | subscribe topic qos => some (t.client.subscribe topic qos).1
  | unsubscribe topic => some (t.client.unsubscribe topic).1
  | sync now => some (t.client.sync now t.stream).1
  | connect now options timeout =>
    match t.client.greet now options timeout with
    | (some (.error f), _) => some (.error f)
    | (some (.ok _), _) | (none, _) => none
  | disconnect now =>
    match t.client.leave now with
    | (.ok _, _) => none
    | (.error f, _) => some (.error f)
  | poll now =>
    match t.work with
    | .idle => none
    | .greeting h =>
      match (h.poll now t.client t.stream).1 with
      | .waiting _ => none
      | .done result => some result
    | .leaving f =>
      match (f.poll now t.client t.stream).1 with
      | .waiting _ => none
      | .done result => some result
  | farSide _ | collect => none

/-- The packet that an operation is about, with this id if it needs one. -/
def Move.own (id : UInt16) : Move σ → Option Packet
  | publish m qos retain =>
    some (.publish { m with qos, retain, id := if qos = .atMostOnce then 0 else id })
  | subscribe topic qos => some (.subscribe id topic qos)
  | unsubscribe topic => some (.unsubscribe id topic)
  | connect _ options _ => some (.connect options.greeting)
  | disconnect _ => some .disconnect
  | sync _ | poll _ | farSide _ | collect => none

/-- An operation was refused: it has changed neither the stream nor what counts of the client. -/
structure Move.Refused (t : Talk σ) (m : Move σ) (f : Fault) : Prop where
  engine : Engine.Refused (m.own (m.run t).client.engine.lastId) f t.client.engine (m.run t).client.engine
  received : (m.run t).client.received = t.client.received
  stream : (m.run t).stream = t.stream

def Move.Decided (t : Talk σ) (m : Move σ) : Prop :=
  (m.run t).client.fault = (m.result? t).bind Fault.returned? ∨
    ∃ f, m.result? t = some (.error f) ∧ m.Refused t f

/-! ## A whole client -/

theorem returned?_eq_some {r : Option (Except Fault Unit)} :
    r.bind Fault.returned? = some f ↔ r = some (.error f) := by
  rcases r with _ | _ | _ <;> simp [Fault.returned?]

theorem Move.decided_of_client {α : Type} {m : Move σ} {r : Except Fault α × Client}
    (decided : Client.Decided (m.own ·) t.client r)
    (result : (m.result? t).bind Fault.returned? = Fault.returned? r.1)
    (client : (m.run t).client = r.2) (stream : (m.run t).stream = t.stream) : m.Decided t := by
  unfold Decided
  rw [result, client]
  apply decided.imp id
  rintro ⟨f, failed, refused, received⟩
  rw [failed] at result
  rw [← client] at refused received
  exact ⟨f, returned?_eq_some.1 result, refused, received, stream⟩

theorem Move.decided_poll (now : Nat) (whole : t.client.fault = none) :
    (Move.poll now).Decided t := by
  obtain ⟨c, s, w⟩ := t
  apply Or.inl
  cases w with
  | idle => exact whole
  | greeting h =>
    have noted := h.noted_poll now (s := s) whole
    dsimp only [run, result?] at noted ⊢
    rcases ran : h.poll now c s with ⟨progress, c', s'⟩
    rw [ran] at noted
    cases progress <;> exact noted
  | leaving f =>
    have noted := f.noted_poll now (s := s) whole
    dsimp only [run, result?] at noted ⊢
    rcases ran : f.poll now c s with ⟨progress, c', s'⟩
    rw [ran] at noted
    cases progress <;> exact noted

theorem Move.decided (m : Move σ) (whole : t.client.fault = none) : m.Decided t := by
  cases m with
  | publish m qos retain =>
    exact decided_of_client (Client.decided_publish m qos retain whole) rfl rfl rfl
  | subscribe topic qos =>
    exact decided_of_client (Client.decided_subscribe topic qos whole) rfl rfl rfl
  | unsubscribe topic => exact decided_of_client (Client.decided_unsubscribe topic whole) rfl rfl rfl
  | sync now =>
    cases connected : t.client.engine.connected with
    | true => exact .inl (Client.noted_sync now whole connected)
    | false =>
      have refused := Client.sync_of_not_connected (s := t.stream) now whole connected
      refine .inr ⟨.connectNotCalled, by rw [result?, refused], ?_, ?_, ?_⟩
      all_goals rw [run, refused]
      exact ⟨.inl ⟨rfl, connected⟩, rfl, rfl, rfl, rfl⟩
  | connect now options timeout =>
    rcases ran : t.client.greet now options timeout with ⟨_ | r, c⟩
    · left
      simp only [run, result?, ran]
      exact Client.fault_of_untold ran
    · refine decided_of_client (m := .connect now options timeout) (Client.decided_greet whole ran) ?_ ?_ ?_
      all_goals
        simp only [run, result?, ran]
        cases r <;> rfl
  | disconnect now =>
    refine decided_of_client (m := .disconnect now) (Client.decided_leave now whole) ?_ ?_ ?_
    all_goals
      dsimp only [run, result?]
      rcases t.client.leave now with ⟨_ | _, c⟩ <;> rfl
  | poll now => exact decided_poll now whole
  | farSide s => exact .inl whole
  | collect => exact .inl whole

/-! ## A broken client -/

theorem Move.run_of_fault (broken : t.client.fault = some f) {m : Move σ} (op : m.IsOperation) :
    m.result? t = some (.error f) ∧ m.run t = t := by
  have queueing : ∀ next : Unit → EngineM Unit,
      Client.lift (Engine.ready >>= next) t.client = (.error f, t.client) :=
    Client.lift_of_fault broken
  cases m with
  | publish m qos retain =>
    have refused : t.client.publish m qos retain = (.error f, t.client) := queueing _
    simp [result?, run, refused]
  | subscribe topic qos =>
    have refused : t.client.subscribe topic qos = (.error f, t.client) := queueing _
    simp [result?, run, refused]
  | unsubscribe topic =>
    have refused : t.client.unsubscribe topic = (.error f, t.client) := queueing _
    simp [result?, run, refused]
  | sync now =>
    have refused := Client.sync_of_fault (s := t.stream) broken now
    simp [result?, run, refused]
  | connect now options timeout =>
    have refused : t.client.greet now options timeout = (some (.error f), t.client) := by
      rw [Client.greet, broken]
    simp [result?, run, refused]
  | disconnect now =>
    have refused : t.client.leave now = (.error f, t.client) := by
      rw [Client.leave, queueing]
    simp [result?, run, refused]
  | poll now => exact op.elim
  | farSide s => exact op.elim
  | collect => exact op.elim

/-- What is left of a client once it is broken: nothing but its messages can be taken. -/
structure Frozen (t t' : Talk σ) : Prop where
  work : t'.work = .idle
  sent : ByteStream.sent t'.stream = ByteStream.sent t.stream
  client : t'.client = t.client ∨ t'.client = t.client.collect.2

theorem Frozen.fault (frozen : Frozen t t') : t'.client.fault = t.client.fault := by
  rcases frozen.client with same | collected
  · rw [same]
  · rw [collected]
    rfl

theorem Frozen.move (frozen : Frozen t t') (broken : t.client.fault = some f) {m : Move σ}
    (allowed : m.Allowed t') : Frozen t (m.run t') := by
  have stays : m.IsOperation → Frozen t (m.run t') := by
    intro op
    rw [(Move.run_of_fault (frozen.fault.trans broken) op).2]
    exact frozen
  cases m with
  | publish | subscribe | unsubscribe | sync | connect | disconnect => exact stays trivial
  | poll now =>
    have same : (Move.poll now).run t' = t' := by rw [Move.run, frozen.work]
    rw [same]
    exact frozen
  | farSide s => exact ⟨frozen.work, Eq.trans allowed frozen.sent, frozen.client⟩
  | collect =>
    refine ⟨frozen.work, frozen.sent, .inr ?_⟩
    rcases frozen.client with same | collected
    · rw [Move.run, same]
    · rw [Move.run, collected]
      rfl

/-- Where some further moves may lead. -/
inductive Onward (t : Talk σ) : Talk σ → Prop
  | here : Onward t t
  | move {t' : Talk σ} {m : Move σ} (onward : Onward t t') (allowed : m.Allowed t') : Onward t (m.run t')

theorem Onward.frozen (onward : Onward t t') (broken : t.client.fault = some f)
    (idle : t.work = .idle) : Frozen t t' := by
  induction onward with
  | here => exact ⟨idle, rfl, .inl rfl⟩
  | move _ allowed ih => exact ih.move broken allowed

/-! ## Runs -/

theorem Move.idle_of_result {m : Move σ} {r : Except Fault Unit} (allowed : m.Allowed t)
    (returned : m.result? t = some r) : (m.run t).work = .idle := by
  cases m with
  | publish | subscribe | unsubscribe | sync => exact allowed
  | connect now options timeout =>
    dsimp only [run, result?] at returned ⊢
    rcases ran : t.client.greet now options timeout with ⟨_ | _ | h, c⟩
    all_goals rw [ran] at returned
    · exact allowed
    · exact allowed
    · cases returned
  | disconnect now =>
    dsimp only [run, result?] at returned ⊢
    split
    · rename_i ran
      simp [ran] at returned
    · exact allowed
  | poll now =>
    obtain ⟨c, s, w⟩ := t
    cases w with
    | idle => cases returned
    | greeting h =>
      dsimp only [run, result?] at returned ⊢
      split at returned
      · cases returned
      · rename_i ran
        rw [ran]
        rfl
    | leaving f =>
      dsimp only [run, result?] at returned ⊢
      split at returned
      · cases returned
      · rename_i ran
        rw [ran]
        rfl
  | farSide | collect => cases returned

/-- A wait ends with the fault that breaks it. -/
theorem Run.idle_of_fault (run : Run capacity t ps) : ∀ f, t.client.fault = some f → t.work = .idle := by
  induction run with
  | new => exact fun _ _ => rfl
  | @move t ps m _ allowed ih =>
    intro f broken
    cases before : t.client.fault with
    | some g =>
      have frozen : Frozen t t := ⟨ih g before, rfl, .inl rfl⟩
      exact (frozen.move before allowed).work
    | none =>
      rcases m.decided before with noted | ⟨_, _, refused⟩
      · exact m.idle_of_result allowed (returned?_eq_some.1 (noted.symm.trans broken))
      · rw [show (m.run t).client.fault = none from refused.engine.fault.trans before] at broken
        cases broken

theorem Move.eq_of_result {g : Fault} {m : Move σ} (broken : t.client.fault = some g)
    (idle : t.work = .idle) (failed : m.result? t = some (.error f)) : f = g ∧ m.run t = t := by
  have stays : m.IsOperation → f = g ∧ m.run t = t := by
    intro op
    obtain ⟨same, kept⟩ := run_of_fault broken op
    rw [failed] at same
    cases same
    exact ⟨rfl, kept⟩
  cases m with
  | publish | subscribe | unsubscribe | sync | connect | disconnect => exact stays trivial
  | poll now =>
    rw [result?, idle] at failed
    cases failed
  | farSide | collect => cases failed

/-- Once a client is broken, every operation gives its fault and changes nothing, whatever the far side
does; and a fault that comes back from an operation is the one that breaks the client, or the operation
was refused. -/
theorem faults_final (run : Run capacity t ps) :
    (∀ f, t.client.fault = some f → ∀ t', Onward t t' → t'.client.fault = some f ∧ Frozen t t' ∧
      ∀ m : Move σ, m.IsOperation → m.result? t' = some (.error f) ∧ m.run t' = t') ∧
    (∀ m : Move σ, m.Allowed t → ∀ f, m.result? t = some (.error f) →
      (m.run t).client.fault = some f ∨ (m.run t).client.fault = none ∧ m.Refused t f) ∧
    (∀ m : Move σ, m.Allowed t → t.client.fault = none → ∀ f, (m.run t).client.fault = some f →
      m.result? t = some (.error f)) := by
  refine ⟨?_, ?_, ?_⟩
  · intro f broken t' onward
    have frozen := onward.frozen broken (run.idle_of_fault f broken)
    have still := frozen.fault.trans broken
    exact ⟨still, frozen, fun m op => Move.run_of_fault still op⟩
  · intro m allowed f failed
    cases whole : t.client.fault with
    | none =>
      rcases m.decided whole with noted | ⟨f', failed', refused⟩
      · left
        rw [noted, failed]
        rfl
      · obtain rfl : f = f' := by simpa [failed] using failed'
        exact .inr ⟨refused.engine.fault.trans whole, refused⟩
    | some g =>
      obtain ⟨rfl, kept⟩ := m.eq_of_result whole (run.idle_of_fault g whole) failed
      left
      rw [kept]
      exact whole
  · intro m allowed whole f broken
    rcases m.decided whole with noted | ⟨_, _, refused⟩
    · exact returned?_eq_some.1 (noted.symm.trans broken)
    · rw [show (m.run t).client.fault = none from refused.engine.fault.trans whole] at broken
      cases broken

/-- The stream has ended behind the broker's reply. -/
theorem faults_final_closed : ∃ (t : Talk Link) (ps : List Packet), Run 64 t ps ∧
    t.client.fault = some .connectionClosed ∧ ∀ t', Onward t t' →
      (Move.subscribe "a" .atMostOnce).result? t' = some (.error .connectionClosed) := by
  have r : Run 64 _ _ := .new (σ := Link) 64 false 0 { inbox := [[0x20, 2, 0, 0]], ended := true } rfl
  have r := r.move (m := .connect 0 {} 1000) rfl
  have r := r.move (m := .poll 0) trivial
  have r := r.move (m := .sync 0) (by cbv)
  refine ⟨_, _, r, by cbv, ?_⟩
  intro t' onward
  obtain ⟨-, -, refused⟩ := (faults_final r).1 .connectionClosed (by cbv) t' onward
  exact (refused (.subscribe "a" .atMostOnce) trivial).1

end Talk

end MqttLink
