import MqttLink.Client.Farewell

/-!
# What an operation queues

Every operation of the engine puts the frames of certain packets behind what is queued already, and
does nothing else to the queue. An operation that fails puts nothing there.
-/

namespace MqttLink

theorem Bytes.size_append (a : Array UInt8) (b : Bytes) : (a ++ b).size = a.size + b.length := by
  rw [← Array.length_toList, Array.toList_appendList, List.length_append, Array.length_toList]

theorem Bytes.append_append (a : Array UInt8) (b c : Bytes) : a ++ b ++ c = a ++ (b ++ c) := by
  apply Array.ext'
  simp

/-- The frames of some packets, one behind the other. -/
def Packet.wire (ps : List Packet) : Bytes := ps.flatMap fun p => p.encode.getD []

@[simp] theorem Packet.wire_nil : wire [] = [] := rfl

@[simp] theorem Packet.wire_append (ps qs : List Packet) : wire (ps ++ qs) = wire ps ++ wire qs :=
  List.flatMap_append

/-- What a client answers to a packet it has taken. -/
def Packet.answer? : Packet → Option Packet
  | publish p =>
    match p.qos with
    | .atMostOnce => none
    | .atLeastOnce => some (.puback p.id)
    | .exactlyOnce => some (.pubrec p.id)
  | pubrec id => some (.pubrel id)
  | pubrel id => some (.pubcomp id)
  | connect _ | connack .. | puback _ | pubcomp _ | subscribe .. | suback .. | unsubscribe ..
  | unsuback _ | pingreq | pingresp | disconnect => none

namespace Engine

variable {α β : Type}

/-! ## Operations, unfolded -/

theorem run_bind (e : Engine) (op : EngineM α) (next : α → EngineM β) :
    (op >>= next) e = match op e with
      | .ok a e => next a e
      | .error f e => .error f e := by
  change EStateM.bind op next e = _
  unfold EStateM.bind
  cases op e <;> rfl

theorem run_get (e : Engine) : (get : EngineM Engine) e = .ok e e := rfl
theorem run_modify (e : Engine) (g : Engine → Engine) :
    (modify g : EngineM PUnit) e = .ok ⟨⟩ (g e) := rfl

theorem ready_eq (e : Engine) : ready e =
    match e.fault with
    | some f => .error f e
    | none => if e.connected then .ok () e else .error .connectNotCalled e := by
  unfold ready
  rw [run_bind, run_get]
  dsimp only
  cases e.fault with
  | some f => rfl
  | none => cases e.connected <;> rfl

theorem takeId_eq (e : Engine) : takeId e =
    if Pending.capacity ≤ e.pending.size then fail .sendBufferFull e
    else match e.pending.freeAfter e.lastId with
      | some id => .ok id { e with lastId := id }
      | none => fail .sendBufferFull e := by
  unfold takeId
  rw [run_bind, run_get]
  dsimp only
  split
  · rfl
  · cases e.pending.freeAfter e.lastId <;> rfl

theorem settle_eq (id : UInt16) (awaited : Awaited) (e : Engine) : settle id awaited e =
    if e.pending[id]? = some awaited then .ok () { e with pending := e.pending.erase id }
    else fail .ackOfUnknown e := by
  unfold settle
  rw [run_bind, run_get]
  dsimp only
  split <;> rfl

theorem serviceKeepAlive_eq (now : Nat) (e : Engine) : serviceKeepAlive now e =
    if e.keepAlive = 0 then .ok () e
    else match e.pingSent with
      | some sent => if e.keepAlive ≤ now - sent then fail .keepAliveTimeout e else .ok () e
      | none =>
        if e.keepAlive ≤ now - e.lastSent then
          match queue .pingreq e with
          | .ok () e => .ok () { e with pingSent := some now }
          | .error f e => .error f e
        else .ok () e := by
  unfold serviceKeepAlive
  rw [run_bind, run_get]
  dsimp only
  split
  · rfl
  · cases e.pingSent with
    | some sent =>
      dsimp only
      split <;> rfl
    | none =>
      dsimp only
      split
      · rw [run_bind]
        cases queue .pingreq e <;> rfl
      · rfl

variable {e e' e'' : Engine}

theorem queue_ok {p : Packet} (h : queue p e = .ok () e') :
    ∃ frame, p.encode = some frame ∧ e.outgoing.size + frame.length ≤ e.sendCapacity ∧
      e' = { e with outgoing := e.outgoing ++ frame } := by
  unfold queue at h
  cases he : p.encode with
  | none => simp [he] at h
  | some frame =>
    simp only [he] at h
    split at h
    · simp [fail] at h
    · rename_i room
      simp only [EStateM.Result.ok.injEq, true_and] at h
      exact ⟨frame, rfl, Nat.not_lt.1 room, h.symm⟩

theorem queue_of_room {p : Packet} {frame : Bytes} (encoded : p.encode = some frame)
    (room : e.outgoing.size + frame.length ≤ e.sendCapacity) :
    queue p e = .ok () { e with outgoing := e.outgoing ++ frame } := by
  unfold queue
  rw [encoded]
  exact if_neg (Nat.not_lt.2 room)

theorem queue_of_full {p : Packet} {frame : Bytes} (encoded : p.encode = some frame)
    (full : e.sendCapacity < e.outgoing.size + frame.length) :
    queue p e = .error .sendBufferFull { e with fault := some .sendBufferFull } := by
  unfold queue
  rw [encoded]
  exact if_pos full

theorem queueTracked_of_room {p : Packet} {frame : Bytes} (encoded : p.encode = some frame)
    (room : e.outgoing.size + frame.length ≤ e.sendCapacity) (id : UInt16) (awaited : Awaited) :
    queueTracked p id awaited e = .ok () { e with
      pending := e.pending.insert id awaited
      outgoing := e.outgoing ++ frame } := by
  have queued : queue p { e with pending := e.pending.insert id awaited } = _ :=
    queue_of_room encoded room
  unfold queueTracked
  rw [queued]

theorem queueTracked_of_full {p : Packet} {frame : Bytes} (encoded : p.encode = some frame)
    (full : e.sendCapacity < e.outgoing.size + frame.length) (id : UInt16) (awaited : Awaited) :
    queueTracked p id awaited e = .error .sendBufferFull { e with
      pending := (e.pending.insert id awaited).erase id
      fault := some .sendBufferFull } := by
  have queued : queue p { e with pending := e.pending.insert id awaited } = _ :=
    queue_of_full encoded full
  unfold queueTracked
  rw [queued]

theorem queueTracked_ok {p : Packet} {id : UInt16} {awaited : Awaited}
    (h : queueTracked p id awaited e = .ok () e') :
    ∃ frame, p.encode = some frame ∧ e.outgoing.size + frame.length ≤ e.sendCapacity ∧
      e' = { e with
        pending := e.pending.insert id awaited
        outgoing := e.outgoing ++ frame } := by
  unfold queueTracked at h
  split at h
  · rename_i ran
    cases h
    exact queue_ok ran
  · cases h

theorem takeId_ok {id : UInt16} (h : takeId e = .ok id e') :
    e.pending.size < Pending.capacity ∧ e.pending.freeAfter e.lastId = some id ∧
      e' = { e with lastId := id } := by
  rw [takeId_eq] at h
  split at h
  · simp [fail] at h
  · rename_i room
    split at h
    · rename_i found
      simp only [EStateM.Result.ok.injEq] at h
      obtain ⟨rfl, rfl⟩ := h
      exact ⟨Nat.not_le.1 room, found, rfl⟩
    · simp [fail] at h

/-! ## What is queued -/

/-- `e'` has queued these packets behind what `e` had queued. -/
structure Queued (ps : List Packet) (e e' : Engine) : Prop where
  outgoing : e'.outgoing.toList = e.outgoing.toList ++ Packet.wire ps
  capacity : e'.sendCapacity = e.sendCapacity
  fits : e.outgoing.size ≤ e.sendCapacity → e'.outgoing.size ≤ e.sendCapacity
  encoded : ∀ p ∈ ps, p.encode.isSome = true

variable {ps qs : List Packet}

theorem Queued.same (outgoing : e'.outgoing = e.outgoing) (capacity : e'.sendCapacity = e.sendCapacity) :
    Queued [] e e' where
  outgoing := by simp [outgoing]
  capacity := capacity
  fits := by rw [outgoing]; exact id
  encoded := by simp

theorem Queued.trans (h : Queued ps e e') (h' : Queued qs e' e'') : Queued (ps ++ qs) e e'' where
  outgoing := by rw [h'.outgoing, h.outgoing, Packet.wire_append, List.append_assoc]
  capacity := h'.capacity.trans h.capacity
  fits room := by
    have := h'.fits
    rw [h.capacity] at this
    exact this (h.fits room)
  encoded p hp := (List.mem_append.1 hp).elim (h.encoded p) (h'.encoded p)

/-! ## Operations of the engine -/

/-- Success has queued these packets, and failure none. -/
def Ends (ps : Engine → List Packet) (e : Engine) : EStateM.Result Fault Engine α → Prop
  | .ok _ e' => Queued (ps e') e e'
  | .error _ e' => Queued [] e e'

/-- What is queued may depend on the engine afterwards, where the last id is known. -/
def Queues (op : EngineM α) (ps : Engine → List Packet) : Prop := ∀ e, Ends ps e (op e)

/-- An operation that does not touch the queue. -/
abbrev Spares (op : EngineM α) : Prop := Queues op fun _ => []

theorem Queued.ends {ps : Engine → List Packet} {r : EStateM.Result Fault Engine α}
    (h : Queued [] e e') (after : Ends ps e' r) : Ends ps e r := by
  cases r with
  | ok => exact h.trans after
  | error => exact h.trans after

theorem Queues.bind {op : EngineM α} {next : α → EngineM β} {ps : Engine → List Packet}
    (first : Spares op) (rest : ∀ a, Queues (next a) ps) : Queues (op >>= next) ps := by
  intro e
  have hf := first e
  rw [run_bind]
  cases ran : op e with
  | ok a e1 =>
    rw [ran] at hf
    exact hf.ends (rest a e1)
  | error f e1 =>
    rw [ran] at hf
    exact hf

theorem queues_fail (f : Fault) (ps : Engine → List Packet) : Queues (fail f : EngineM α) ps :=
  fun _ => .same rfl rfl

theorem queues_queue (p : Packet) : Queues (queue p) fun _ => [p] := by
  intro e
  unfold queue
  cases he : p.encode with
  | none => exact .same rfl rfl
  | some frame =>
    dsimp only
    split
    · exact .same rfl rfl
    · rename_i room
      constructor
      case outgoing => simp [Packet.wire, he]
      case capacity => rfl
      case fits =>
        intro _
        rw [Bytes.size_append]
        exact Nat.not_lt.1 room
      case encoded => simp [he]

theorem spares_ready : Spares ready := by
  intro e
  rw [ready_eq]
  split
  · exact .same rfl rfl
  · split <;> exact .same rfl rfl

theorem spares_takeId : Spares takeId := by
  intro e
  rw [takeId_eq]
  split
  · exact .same rfl rfl
  · split <;> exact .same rfl rfl

theorem spares_settle (id : UInt16) (awaited : Awaited) : Spares (settle id awaited) := by
  intro e
  rw [settle_eq]
  split <;> exact .same rfl rfl

theorem spares_hand (m : Message) : Spares (hand m) := by
  intro e
  unfold hand
  rw [run_modify]
  change Queued [] e (if e.listening then _ else _)
  split <;> exact .same rfl rfl

theorem queues_queueTracked (p : Packet) (id : UInt16) (awaited : Awaited) :
    Queues (queueTracked p id awaited) fun _ => [p] := by
  intro e
  have h := queues_queue p { e with pending := e.pending.insert id awaited }
  unfold queueTracked
  cases ran : queue p { e with pending := e.pending.insert id awaited } with
  | ok a e' =>
    rw [ran] at h
    exact ⟨h.outgoing, h.capacity, h.fits, h.encoded⟩
  | error f e' =>
    rw [ran] at h
    exact ⟨h.outgoing, h.capacity, h.fits, h.encoded⟩

/-- The id in the packet that starts an exchange is the one taken last. -/
theorem queues_started (p : UInt16 → Packet) (awaited : Awaited) :
    Queues (do let id ← takeId; queueTracked (p id) id awaited) fun e => [p e.lastId] := by
  intro e
  have first := spares_takeId e
  rw [run_bind]
  cases ran : takeId e with
  | error f e1 =>
    rw [ran] at first
    exact first
  | ok id e1 =>
    rw [ran] at first
    obtain ⟨-, -, rfl⟩ := takeId_ok ran
    have rest := queues_queueTracked (p id) id awaited { e with lastId := id }
    refine first.ends ?_
    dsimp only
    cases ran' : queueTracked (p id) id awaited { e with lastId := id } with
    | error f e2 =>
      rw [ran'] at rest
      exact rest
    | ok _ e2 =>
      obtain ⟨frame, -, -, rfl⟩ := queueTracked_ok ran'
      rw [ran'] at rest
      exact rest

theorem queues_publish (m : Message) (qos : QoS) (retain : Bool) :
    Queues (publish m qos retain) fun e =>
      [.publish { m with qos, retain, id := if qos = .atMostOnce then 0 else e.lastId }] := by
  refine .bind spares_ready fun _ => ?_
  cases qos with
  | atMostOnce => exact queues_queue _
  | atLeastOnce =>
    exact queues_started (fun id => .publish { m with qos := .atLeastOnce, retain, id }) .puback
  | exactlyOnce =>
    exact queues_started (fun id => .publish { m with qos := .exactlyOnce, retain, id }) .pubrec

theorem queues_subscribe (topic : String) (qos : QoS) :
    Queues (subscribe topic qos) fun e => [.subscribe e.lastId topic qos] :=
  .bind spares_ready fun _ => queues_started (.subscribe · topic qos) .suback

theorem queues_unsubscribe (topic : String) :
    Queues (unsubscribe topic) fun e => [.unsubscribe e.lastId topic] :=
  .bind spares_ready fun _ => queues_started (.unsubscribe · topic) .unsuback

/-! ## Received packets -/

theorem queues_takePublish (p : Publish) :
    Queues (takePublish p) fun _ => (Packet.publish p).answer?.toList := by
  refine .bind (spares_hand _) fun _ => ?_
  cases h : p.qos with
  | atMostOnce =>
    simp only [Packet.answer?, h]
    exact fun _ => .same rfl rfl
  | atLeastOnce =>
    simp only [Packet.answer?, h]
    exact queues_queue _
  | exactlyOnce =>
    simp only [Packet.answer?, h]
    exact queues_queue _

theorem queues_takePacket (p : Packet) : Queues (takePacket p) fun _ => p.answer?.toList := by
  cases p with
  | publish p => exact queues_takePublish p
  | puback id => exact spares_settle _ _
  | pubrec id => exact .bind (spares_settle _ _) fun _ => queues_queueTracked _ _ _
  | pubcomp id => exact spares_settle _ _
  | pubrel id => exact queues_queue _
  | suback id grants =>
    refine .bind (spares_settle _ _) fun _ => ?_
    split
    · exact queues_fail _ _
    · exact fun _ => .same rfl rfl
  | unsuback id => exact spares_settle _ _
  | pingresp => exact fun _ => .same rfl rfl
  | disconnect => exact queues_fail _ _
  | connack => exact fun _ => .same rfl rfl
  | connect | subscribe | unsubscribe | pingreq => exact queues_fail _ _

/-- The packets that the engine takes out of received bytes, up to the first fault. -/
def taken (limit : Nat) (received : Bytes) (e : Engine) : List Packet :=
  match _found : Next.of limit received with
  | .incomplete | .fault .. => []
  | .packet p rest =>
    match takePacket p e with
    | .ok () e => p :: taken limit rest e
    | .error .. => []
termination_by received.length
decreasing_by exact Next.length_rest _found

theorem taken_of_not_packet {limit : Nat} {received : Bytes} (e : Engine)
    (h : ∀ p rest, Next.of limit received ≠ .packet p rest) : taken limit received e = [] := by
  unfold taken
  split
  · rfl
  · rfl
  · rename_i found
    exact absurd found (h _ _)

theorem taken_of_packet {limit : Nat} {received rest : Bytes} {p : Packet} (e : Engine)
    (h : Next.of limit received = .packet p rest) : taken limit received e =
      match takePacket p e with
      | .ok () e => p :: taken limit rest e
      | .error .. => [] := by
  rw [taken]
  split
  · simp_all
  · simp_all
  · rename_i found
    rw [h, Next.packet.injEq] at found
    obtain ⟨rfl, rfl⟩ := found
    rfl

/-- Each packet taken is answered before the next one is taken, and nothing else is queued. -/
theorem queued_takeAll (limit : Nat) (received : Bytes) (e : Engine) :
    Queued ((taken limit received e).filterMap Packet.answer?) e (takeAll limit received e).2.2 := by
  fun_induction takeAll limit received e with
  | case1 received e found =>
    rw [taken_of_not_packet e (by simp [found])]
    exact .same rfl rfl
  | case2 received e f rest found =>
    rw [taken_of_not_packet e (by simp [found])]
    exact .same rfl rfl
  | case3 received e p rest found e' ran ih =>
    have h := queues_takePacket p e
    rw [ran] at h
    rw [taken_of_packet e found, ran, List.filterMap_cons]
    have all := h.trans ih
    cases hp : p.answer? <;> simpa [hp] using all
  | case4 received e p rest found f e' ran =>
    have h := queues_takePacket p e
    rw [ran] at h
    rw [taken_of_packet e found, ran]
    exact h

/-! ## Keep-alive -/

/-- The ping that an engine sends if it is time for one. -/
def ping? (now : Nat) (e : Engine) : Option Packet :=
  if e.keepAlive ≠ 0 ∧ e.pingSent = none ∧ e.keepAlive ≤ now - e.lastSent then some .pingreq else none

theorem queues_serviceKeepAlive (now : Nat) (e : Engine) :
    Ends (fun _ => (e.ping? now).toList) e (serviceKeepAlive now e) := by
  rw [serviceKeepAlive_eq]
  by_cases off : e.keepAlive = 0
  · rw [if_pos off, ping?, if_neg (by simp [off])]
    exact .same rfl rfl
  · rw [if_neg off]
    cases hp : e.pingSent with
    | some sent =>
      rw [ping?, if_neg (by simp [hp])]
      dsimp only
      split <;> exact .same rfl rfl
    | none =>
      dsimp only
      by_cases due : e.keepAlive ≤ now - e.lastSent
      · rw [if_pos due, ping?, if_pos ⟨off, hp, due⟩]
        have h := queues_queue .pingreq e
        cases ran : queue .pingreq e with
        | ok _ e' =>
          rw [ran] at h
          exact ⟨h.outgoing, h.capacity, h.fits, h.encoded⟩
        | error f e' =>
          rw [ran] at h
          exact h
      · rw [if_neg due, ping?, if_neg (by simp [due])]
        exact .same rfl rfl

end Engine

/-! ## The greeting -/

namespace Client

theorem lift_ok {op : EngineM Unit} {c c' : Client} (h : lift op c = (.ok (), c')) :
    ∃ engine, op c.engine = .ok () engine ∧ c' = { c with engine } := by
  unfold lift at h
  cases ran : op c.engine with
  | ok _ engine =>
    rw [ran] at h
    cases h
    exact ⟨engine, rfl, rfl⟩
  | error f engine =>
    rw [ran] at h
    cases h

/-- How a greeting goes. -/
inductive Greeted (now : Nat) (options : ConnectOptions) (timeout : Nat) (c : Client) :
    Option (Except Fault Handshake) × Client → Prop
  | broken {f : Fault} (broken : c.fault = some f) : Greeted now options timeout c (some (.error f), c)
  | untold (whole : c.fault = none) (untold : Clock.horizon ≤ now + timeout) :
      Greeted now options timeout c (none, c.asked options)
  | refused {f : Fault} {c' : Client} (whole : c.fault = none) (told : now + timeout < Clock.horizon)
      (ran : lift (Engine.queue (.connect options.greeting)) (c.asked options) = (.error f, c')) :
      Greeted now options timeout c (some (.error f), c')
  | queued {c' : Client} (whole : c.fault = none) (told : now + timeout < Clock.horizon)
      (ran : lift (Engine.queue (.connect options.greeting)) (c.asked options) = (.ok (), c')) :
      Greeted now options timeout c
        (some (.ok ⟨now + timeout, .sending c'.engine.outgoing.toList⟩), c')

theorem greeted (now : Nat) (options : ConnectOptions) (timeout : Nat) (c : Client) :
    Greeted now options timeout c (c.greet now options timeout) := by
  unfold greet
  split
  · rename_i broken
    exact .broken broken
  · rename_i whole
    by_cases told : now + timeout < Clock.horizon
    · rw [Clock.deadline?_eq_some told]
      dsimp only
      split
      · rename_i ran
        exact .refused whole told ran
      · rename_i ran
        exact .queued whole told ran
    · rw [Clock.deadline?_eq_none_iff.2 (Nat.not_lt.1 told)]
      exact .untold whole (Nat.not_lt.1 told)

/-- What holds with and without the greeting in the queue holds however it goes. -/
theorem greet_keeps {motive : Client → Prop} {options : ConnectOptions} {c : Client} (now timeout : Nat)
    (broken : ∀ f, c.fault = some f → motive c) (asked : motive (c.asked options))
    (queued : motive (lift (Engine.queue (.connect options.greeting)) (c.asked options)).2) :
    motive (c.greet now options timeout).2 := by
  have went := c.greeted now options timeout
  generalize c.greet now options timeout = r at went ⊢
  cases went with
  | broken found => exact broken _ found
  | untold => exact asked
  | refused _ _ ran | queued _ _ ran =>
    rw [ran] at queued
    exact queued

/-- A handshake begins with the greeting in the queue. -/
theorem greeted_ok {now : Nat} {options : ConnectOptions} {timeout : Nat} {c c' : Client}
    {h : Handshake} (ok : c.greet now options timeout = (some (.ok h), c')) :
    c.fault = none ∧ h = ⟨now + timeout, .sending c'.engine.outgoing.toList⟩ ∧
      ∃ frame, (Packet.connect options.greeting).encode = some frame ∧
        c.engine.outgoing.size + frame.length ≤ c.engine.sendCapacity ∧
        c' = { c.asked options with
          engine := { (c.asked options).engine with outgoing := c.engine.outgoing ++ frame } } := by
  have went := c.greeted now options timeout
  rw [ok] at went
  cases went with
  | queued whole told ran =>
    obtain ⟨engine, queued, rfl⟩ := lift_ok ran
    obtain ⟨frame, encoded, room, rfl⟩ := Engine.queue_ok queued
    exact ⟨whole, rfl, frame, encoded, room, rfl⟩

end Client

end MqttLink
