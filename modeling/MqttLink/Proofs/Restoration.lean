import MqttLink.Proofs.NewClients
import MqttLink.Proofs.Outage
import MqttLink.Proofs.Replies

/-!
# Subscribing again

After a reconnect everything that is remembered is subscribed again, all at once and before anything is
written. Main statement: that works just if the requests fit into the send buffer together, and then
the connection lives on while the broker grants them.
-/

namespace MqttLink

/-! ## Requests -/

/-- The requests for some subscriptions behind the id taken last. -/
def Packet.requests (last : UInt16) : List (String × QoS) → List Packet
  | [] => []
  | (topic, qos) :: rest => .subscribe (last + 1) topic qos :: requests (last + 1) rest

/-- The ids that a broker has to grant. -/
def Packet.asked (ps : List Packet) : List UInt16 :=
  ps.filterMap fun
    | .subscribe id .. => some id
    | _ => none

theorem Packet.toNat_next {n : UInt16} (h : n.toNat < 65535) : (n + 1).toNat = n.toNat + 1 := by
  rw [UInt16.toNat_add]
  exact Nat.mod_eq_of_lt (by simpa using Nat.succ_lt_succ h)

theorem Packet.mem_asked {last id : UInt16} {subscriptions : List (String × QoS)}
    (room : last.toNat + subscriptions.length ≤ 65535)
    (mem : id ∈ asked (requests last subscriptions)) :
    last.toNat < id.toNat ∧ id.toNat ≤ last.toNat + subscriptions.length := by
  induction subscriptions generalizing last with
  | nil => simp [requests, asked] at mem
  | cons first rest ih =>
    rw [List.length_cons] at room ⊢
    have next := Packet.toNat_next (n := last) (by omega)
    replace mem : id ∈ (last + 1) :: asked (requests (last + 1) rest) := mem
    rcases List.mem_cons.1 mem with rfl | mem
    · omega
    · have := ih (by omega) mem
      omega

theorem Packet.nodup_asked {last : UInt16} {subscriptions : List (String × QoS)}
    (room : last.toNat + subscriptions.length ≤ 65535) :
    (asked (requests last subscriptions)).Nodup := by
  induction subscriptions generalizing last with
  | nil => exact .nil
  | cons first rest ih =>
    rw [List.length_cons] at room
    have next := Packet.toNat_next (n := last) (by omega)
    refine List.nodup_cons.2 ⟨fun mem => ?_, ih (by omega)⟩
    have := mem_asked (by omega) mem
    omega

/-! ## Queueing them -/

namespace Engine

/-- An engine that has queued its first requests and nothing else. -/
structure Asked (e : Engine) : Prop where
  whole : e.fault = none
  connected : e.connected = true
  held : e.outgoing.size ≤ e.sendCapacity
  size : e.pending.size = e.lastId.toNat
  pending : ∀ id : UInt16, e.pending[id]? =
    if 0 < id.toNat ∧ id.toNat ≤ e.lastId.toNat then some .suback else none

variable {e : Engine} {topic : String} {qos : QoS} {frame : Bytes}

theorem Asked.unused (a : e.Asked) (room : e.lastId.toNat < 65535) :
    e.pending.contains (e.lastId + 1) = false := by
  have next := Packet.toNat_next room
  rw [Std.ExtTreeMap.contains_eq_isSome_getElem?, a.pending, if_neg (by omega)]
  rfl

theorem Asked.takeId (a : e.Asked) (room : e.lastId.toNat < 65535) :
    Engine.takeId e = .ok (e.lastId + 1) { e with lastId := e.lastId + 1 } := by
  have next := Packet.toNat_next room
  have free : e.pending.freeAfter e.lastId = some (e.lastId + 1) := by
    have positive : e.lastId + 1 ≠ 0 := by
      intro zero
      rw [zero] at next
      simp at next
    unfold Pending.freeAfter Pending.search
    exact if_pos ⟨positive, a.unused room⟩
  rw [takeId_eq, a.size, if_neg (by simpa [Pending.capacity] using room), free]

theorem Asked.subscribe_eq (a : e.Asked) (topic : String) (qos : QoS) :
    Engine.subscribe topic qos e = match Engine.takeId e with
      | .ok id e => queueTracked (.subscribe id topic qos) id .suback e
      | .error f e => .error f e := by
  have ready : Engine.ready e = .ok () e := by
    rw [ready_eq, a.whole, a.connected]
    rfl
  unfold Engine.subscribe
  rw [run_bind, ready]
  dsimp only
  rw [run_bind]
  cases Engine.takeId e <;> rfl

theorem Asked.subscribe (a : e.Asked)
    (encoded : (Packet.subscribe (e.lastId + 1) topic qos).encode = some frame)
    (room : e.lastId.toNat < 65535) (fits : e.outgoing.size + frame.length ≤ e.sendCapacity) :
    ∃ pending, Engine.subscribe topic qos e =
        .ok () { e with lastId := e.lastId + 1, pending, outgoing := e.outgoing ++ frame } ∧
      Asked { e with lastId := e.lastId + 1, pending, outgoing := e.outgoing ++ frame } := by
  have next := Packet.toNat_next room
  refine ⟨e.pending.insert (e.lastId + 1) .suback, ?_, a.whole, a.connected, ?_, ?_, ?_⟩
  · rw [a.subscribe_eq, a.takeId room]
    exact queueTracked_of_room (e := { e with lastId := e.lastId + 1 }) encoded fits _ _
  · rwa [Bytes.size_append]
  · rw [Std.ExtTreeMap.size_insert, a.unused room, a.size]
    exact next.symm
  · intro id
    dsimp only
    rw [Std.ExtTreeMap.getElem?_insert, a.pending, next]
    by_cases same : e.lastId + 1 = id
    · subst same
      rw [if_pos (by simp), if_pos (by omega)]
    · have other : (e.lastId + 1).toNat ≠ id.toNat := fun h => same (UInt16.toNat_inj.1 h)
      have older : (0 < id.toNat ∧ id.toNat ≤ e.lastId.toNat) ↔
          (0 < id.toNat ∧ id.toNat ≤ e.lastId.toNat + 1) := by omega
      rw [if_neg (by simpa using same)]
      simp only [older]

theorem Asked.subscribe_full (a : e.Asked)
    (encoded : (Packet.subscribe (e.lastId + 1) topic qos).encode = some frame)
    (full : ¬ (e.lastId.toNat < 65535 ∧ e.outgoing.size + frame.length ≤ e.sendCapacity)) :
    ∃ e', Engine.subscribe topic qos e = .error .sendBufferFull e' ∧
      e'.fault = some .sendBufferFull := by
  rw [a.subscribe_eq]
  by_cases room : e.lastId.toNat < 65535
  · have fits := Nat.not_le.1 fun fits => full ⟨room, fits⟩
    rw [a.takeId room]
    exact ⟨_, queueTracked_of_full (e := { e with lastId := e.lastId + 1 }) encoded fits _ _, rfl⟩
  · rw [takeId_eq, a.size, if_pos (by simpa [Pending.capacity] using room)]
    exact ⟨_, rfl, rfl⟩

end Engine

/-! ## Queueing all of them -/

namespace Lines

def Speaker.withEngine (s : Speaker) (engine : Engine) : Speaker :=
  { s with client := { s.client with engine } }

variable {s : Speaker} {e e' : Engine} {topic : String} {qos : QoS} {f : Fault}

theorem subscribe_ok (ls : Lines) (ran : Engine.subscribe topic qos e = .ok () e') :
    backend.subscribe topic qos (s.withEngine e) ls = (.ok (), s.withEngine e', ls) := by
  simp [backend, queueing, Client.subscribe, Client.lift, ran, Speaker.withEngine]

theorem subscribe_error (ls : Lines) (ran : Engine.subscribe topic qos e = .error f e') :
    backend.subscribe topic qos (s.withEngine e) ls = (.error f, s.withEngine e', ls) := by
  simp [backend, queueing, Client.subscribe, Client.lift, ran, Speaker.withEngine]

variable {subscriptions : List (String × QoS)}

theorem wire_requests {last : UInt16} {frame : Bytes}
    (encoded : (Packet.subscribe (last + 1) topic qos).encode = some frame) :
    Packet.wire (Packet.requests last ((topic, qos) :: subscriptions)) =
      frame ++ Packet.wire (Packet.requests (last + 1) subscriptions) := by
  simp [Packet.requests, Packet.wire, encoded]

/-- Requests that fit are queued one behind the other. -/
theorem restoreAll_of_room (s : Speaker) (ls : Lines) (asked : e.Asked)
    (topics : ∀ t ∈ subscriptions, Packet.Subscribable t.1)
    (ids : e.lastId.toNat + subscriptions.length ≤ 65535)
    (fits : e.outgoing.size + (Packet.wire (Packet.requests e.lastId subscriptions)).length ≤
      e.sendCapacity) :
    ∃ lastId pending,
      let e' := { e with
        lastId, pending
        outgoing := e.outgoing ++ Packet.wire (Packet.requests e.lastId subscriptions) }
      State.restoreAll backend subscriptions (s.withEngine e) ls = (s.withEngine e', ls) ∧ e'.Asked ∧
        lastId.toNat = e.lastId.toNat + subscriptions.length := by
  induction subscriptions generalizing e with
  | nil =>
    refine ⟨e.lastId, e.pending, ?_⟩
    simpa [State.restoreAll, Packet.requests] using asked
  | cons first rest ih =>
    obtain ⟨topic, qos⟩ := first
    rw [List.length_cons] at ids
    obtain ⟨frame, encoded⟩ := Option.isSome_iff_exists.1
      (topics _ List.mem_cons_self (e.lastId + 1) qos)
    have next := Packet.toNat_next (n := e.lastId) (by omega)
    rw [wire_requests encoded, List.length_append] at fits
    obtain ⟨pending1, ran, asked1⟩ := asked.subscribe encoded (by omega) (by omega)
    obtain ⟨lastId, pending, restored, asked', count⟩ := ih asked1
      (fun t mem => topics t (List.mem_cons_of_mem _ mem)) (by dsimp only; omega)
      (by dsimp only; rw [Bytes.size_append]; omega)
    have joined : e.outgoing ++ frame ++ Packet.wire (Packet.requests (e.lastId + 1) rest) =
        e.outgoing ++ (frame ++ Packet.wire (Packet.requests (e.lastId + 1) rest)) :=
      Array.ext' (by simp)
    refine ⟨lastId, pending, ?_, ?_, ?_⟩
    · rw [State.restoreAll, subscribe_ok ls ran, wire_requests encoded, ← joined]
      exact restored
    · rw [wire_requests encoded, ← joined]
      exact asked'
    · dsimp only at count
      rw [List.length_cons]
      omega

/-- Otherwise the first one for which there is no room breaks the client. -/
theorem restoreAll_of_full (s : Speaker) (ls : Lines) (asked : e.Asked)
    (topics : ∀ t ∈ subscriptions, Packet.Subscribable t.1)
    (full : ¬ (e.lastId.toNat + subscriptions.length ≤ 65535 ∧
      e.outgoing.size + (Packet.wire (Packet.requests e.lastId subscriptions)).length ≤
        e.sendCapacity)) :
    ∃ e', State.restoreAll backend subscriptions (s.withEngine e) ls = (s.withEngine e', ls) ∧
      e'.fault = some .sendBufferFull := by
  induction subscriptions generalizing e with
  | nil =>
    have ids := e.lastId.toNat_lt
    have held := asked.held
    exact absurd ⟨Nat.le_of_lt_succ ids, by simpa [Packet.requests] using held⟩ full
  | cons first rest ih =>
    obtain ⟨topic, qos⟩ := first
    obtain ⟨frame, encoded⟩ := Option.isSome_iff_exists.1
      (topics _ List.mem_cons_self (e.lastId + 1) qos)
    by_cases room : e.lastId.toNat < 65535 ∧ e.outgoing.size + frame.length ≤ e.sendCapacity
    · have next := Packet.toNat_next room.1
      obtain ⟨pending, ran, asked'⟩ := asked.subscribe encoded room.1 room.2
      rw [wire_requests encoded, List.length_append, List.length_cons] at full
      obtain ⟨e', restored, broken⟩ := ih asked' (fun t mem => topics t (List.mem_cons_of_mem _ mem))
        (by dsimp only; rw [Bytes.size_append]; omega)
      refine ⟨e', ?_, broken⟩
      rw [State.restoreAll, subscribe_ok ls ran]
      exact restored
    · obtain ⟨e', ran, broken⟩ := asked.subscribe_full encoded room
      refine ⟨e', ?_, broken⟩
      rw [State.restoreAll, subscribe_error ls ran]

end Lines

/-! ## A cycle of the loop -/

namespace Session

section

variable {ω κ δ φ : Type} {b : Backend ω κ δ φ} {x : Session ω κ δ φ} {awake : Bool}

theorem stepLoop_cycling (loop : x.loop = some ⟨.cycling, awake, false⟩)
    (free : x.call.holdsState = false) (now : Nat) : (x.stepLoop b now).2 = x.cycle b now := by
  simp [stepLoop, loop, free]

theorem stepLoop_redialed {result : Except SessionError κ}
    (loop : x.loop = some ⟨.redialed result, awake, false⟩) (free : x.call.holdsState = false)
    (now : Nat) : (x.stepLoop b now).2 = x.recordRedial b now result := by
  simp [stepLoop, loop, free]

theorem wait_outside (now time : Nat) (p : Appointment → Phase κ δ) (x : Session ω κ δ φ) :
    (x.wait b now time p).outside = (b.appoint (Clock.after now time) x.outside).2 := by
  unfold wait goOn
  dsimp only
  split <;> rfl

theorem afterLoss_status (now : Nat) (down : x.state.status ≠ .connected) :
    (x.afterLoss b now).state.status ≠ .connected ∧
      (x.afterLoss b now).state.lastFault = x.state.lastFault := by
  unfold afterLoss
  split
  · split
    · exact ⟨by simp [State.setStatus], rfl⟩
    · simpa using down
  · exact ⟨down, rfl⟩
  · exact ⟨by simp [State.setStatus], rfl⟩
  · exact ⟨by simp [State.setStatus], rfl⟩

theorem cycle_of_error {client : κ} {f : Fault} {now : Nat} (up : x.state.status = .connected)
    (held : x.state.client = some client) (failed : (b.sync now client x.outside).1 = .error f) :
    (x.cycle b now).state.status ≠ .connected ∧ (x.cycle b now).state.lastFault = some f := by
  have pumped : (x.pump b now).1 = .error (.protocol f "MQTT sync failed") := by
    simp [pump, held, failed]
  unfold cycle
  rw [if_pos up]
  split
  · rename_i y went
    rw [went] at pumped
    cases pumped
  · rename_i e y went
    rw [went] at pumped
    cases pumped
    have lost := State.markLost_fst b (.protocol f "MQTT sync failed") y.state y.outside
    obtain ⟨down, fault⟩ := afterLoss_status (b := b)
      (x := y.act (State.markLost b (.protocol f "MQTT sync failed"))) now (by rw [act_state, lost]; simp)
    refine ⟨down, fault.trans ?_⟩
    rw [act_state, lost]
    rfl

theorem cycle_of_ok {client client' : κ} {messages : List (Handler × Message)} {w : ω} {now : Nat}
    (up : x.state.status = .connected) (held : x.state.client = some client)
    (synced : b.sync now client x.outside = (.ok (), messages, client', w))
    (sound : b.fault client' = none) :
    x.cycle b now = ((x.exchanged client' w messages).update (State.notify b)).wait b now
      x.settings.syncInterval .resting := by
  have pumped : x.pump b now =
      (.ok (), (x.exchanged client' w messages).update (State.notify b)) := by
    simp [pump, held, synced, sound, exchanged, called]
  unfold cycle
  rw [if_pos up, pumped]
  rfl

end

variable {x y z : Lines.Online} {s : Lines.Speaker}
  {l : Link} {awake : Bool}

theorem sync_on_link {ls : Lines} (link : ls.links[s.socket]? = some l) (now : Nat) :
    ∃ messages w, Lines.backend.sync now s ls = ((s.client.sync now l).1, messages,
        { s with client := (s.client.sync now l).2.1.collect.2 }, w) ∧
      w.links[s.socket]? = some (s.client.sync now l).2.2 := by
  have own : ls.links[s.socket]?.getD {} = l := by rw [link]; rfl
  refine ⟨(Lines.backend.sync now s ls).2.1, (Lines.backend.sync now s ls).2.2.2, ?_, ?_⟩
  · change Lines.sync now s ls = (_, (Lines.sync now s ls).2.1, _, (Lines.sync now s ls).2.2.2)
    unfold Lines.sync Lines.onLink
    rw [own]
  · change (Lines.sync now s ls).2.2.2.links[s.socket]? = _
    unfold Lines.sync Lines.onLink Lines.change
    rw [own]
    simp [Array.getElem?_modify, link]

/-- What is left of a session after an exchange that worked. -/
theorem cycle_of_sync {c' : Client} {l' : Link} {now : Nat}
    (loop : x.loop = some ⟨.cycling, awake, false⟩) (up : x.state.status = .connected)
    (held : x.state.client = some s) (link : x.outside.links[s.socket]? = some l)
    (synced : s.client.sync now l = (.ok (), c', l')) (whole : c'.engine.fault = none) :
    let y := x.cycle Lines.backend now
    (∃ time awake, y.loop = some ⟨.resting time, awake, false⟩) ∧ y.call = x.call ∧
      y.state.status = .connected ∧ y.state.client = some { s with client := c'.collect.2 } ∧
      y.outside.links[s.socket]? = some l' := by
  obtain ⟨messages, w, exchanged_, link'⟩ := sync_on_link link now
  rw [synced] at exchanged_ link'
  have cycled := cycle_of_ok up held exchanged_ whole
  obtain ⟨awake', waits⟩ := wait_loop Lines.backend now x.settings.syncInterval .resting
    ((x.exchanged { s with client := c'.collect.2 } w messages).update (State.notify Lines.backend))
  rw [update_loop, show (x.exchanged _ w messages).loop = _ from loop] at waits
  rw [cycled]
  refine ⟨⟨_, awake', waits⟩, wait_call .., ?_, ?_, ?_⟩
  · rw [wait_state]
    exact up
  · rw [wait_state]
    rfl
  · rw [wait_outside]
    exact link'

/-- The session right after a new connection has been recorded. -/
theorem record_accepted (loop : x.loop = some ⟨.redialed (.ok s), awake, false⟩)
    (free : x.call.holdsState = false) (now : Nat) :
    let restored := State.restoreAll Lines.backend x.state.subscriptions s x.outside
    let y := (x.stepLoop Lines.backend now).2
    y.loop = some ⟨.cycling, true, false⟩ ∧ y.call = x.call ∧ y.settings = x.settings ∧
      y.state.status = .connected ∧ y.state.client = some restored.1 ∧ y.outside = restored.2 := by
  rw [stepLoop_redialed loop free]
  refine ⟨?_, rfl, rfl, ?_, ?_, ?_⟩
  · simp [recordRedial, loop, Phase.isWork]
  · rfl
  · rfl
  · rfl

end Session

/-! ## The first exchange of a new connection -/

theorem Client.Accepted.asked {buffers : BufferSizes} {c : Client} (a : c.Accepted buffers) :
    c.engine.Asked where
  whole := a.whole
  connected := a.connected
  held := by simp [a.outgoing]
  size := by rw [a.pending, a.lastId]; rfl
  pending := by
    intro id
    rw [a.pending, a.lastId, if_neg (by simp; omega)]
    rfl

/-- A client that has asked for some subscriptions and has heard nothing yet. -/
structure Client.Waiting (count recv : Nat) (c : Client) : Prop where
  asked : c.engine.Asked
  count_eq : c.engine.lastId.toNat = count
  outgoing : c.engine.outgoing = #[]
  room : 2 ≤ c.engine.sendCapacity
  unread : c.received = []
  recv_eq : c.recvCapacity = recv
  heard : 2 ≤ c.recvCapacity

theorem Client.Waiting.collect {count recv : Nat} {c : Client} (h : c.Waiting count recv) :
    c.collect.2.Waiting count recv :=
  { h with asked := { h.asked with } }

/-- Every request is granted once, in any order. -/
def Reply.Grant (subscriptions : List (String × QoS)) (replies : List Reply) : Prop :=
  (ids replies).Perm (Packet.asked (Packet.requests 0 subscriptions))

theorem Client.Waiting.hears {subscriptions : List (String × QoS)} {recv : Nat} {c : Client}
    {l : Link} {replies : List Reply} (w : c.Waiting subscriptions.length recv)
    (grant : Reply.Grant subscriptions replies) (willing : l.Willing) (quiet : l.inbox = [])
    (room : subscriptions.length ≤ Pending.capacity) (fits : subscriptions ≠ [] → 5 ≤ recv) :
    c.Hears (Reply.wire replies) replies l where
  willing := willing
  cut := by rw [w.unread, quiet]; rfl
  fits := by
    intro r mem
    cases r with
    | pong => exact w.heard
    | granted id qos =>
      have asked : id ∈ Packet.asked (Packet.requests 0 subscriptions) :=
        grant.subset (List.mem_filterMap.2 ⟨_, mem, rfl⟩)
      rw [w.recv_eq]
      refine fits ?_
      rintro rfl
      simp [Packet.requests, Packet.asked] at asked
  awaits := by
    have few : (0 : UInt16).toNat + subscriptions.length ≤ 65535 := by
      rw [UInt16.toNat_zero, Nat.zero_add]
      exact room
    refine ⟨w.asked.whole, w.asked.connected, w.outgoing, w.room, ?_, ?_⟩
    · exact grant.nodup_iff.2 (Packet.nodup_asked few)
    · intro id mem
      have bounds := Packet.mem_asked few (grant.subset mem)
      rw [UInt16.toNat_zero, Nat.zero_add] at bounds
      rw [w.asked.pending, w.count_eq, if_pos bounds]

/-- The engine of a client that has queued its requests, and that has not changed otherwise. -/
structure Engine.Requested (subscriptions : List (String × QoS)) (e e' : Engine) : Prop where
  asked : e'.Asked
  outgoing : e'.outgoing.toList = Packet.wire (Packet.requests 0 subscriptions)
  count_eq : e'.lastId.toNat = subscriptions.length
  capacity : e'.sendCapacity = e.sendCapacity
  unpinged : e'.pingSent = none
  ping : ∀ now, e'.ping? now = e.ping? now

namespace Client.Accepted

variable {buffers : BufferSizes} {s : Lines.Speaker} {l : Link} {subscriptions : List (String × QoS)}

theorem outgoing_size (a : s.client.Accepted buffers) : s.client.engine.outgoing.size = 0 := by
  rw [a.outgoing]
  rfl

theorem lastId_toNat (a : s.client.Accepted buffers) : s.client.engine.lastId.toNat = 0 := by
  rw [a.lastId]
  rfl

theorem requested (a : s.client.Accepted buffers)
    (topics : ∀ t ∈ subscriptions, Packet.Subscribable t.1) (ls : Lines)
    (ids : subscriptions.length ≤ Pending.capacity)
    (fits : (Packet.wire (Packet.requests 0 subscriptions)).length ≤ buffers.send.toNat) :
    ∃ e, State.restoreAll Lines.backend subscriptions s ls = (s.withEngine e, ls) ∧
      s.client.engine.Requested subscriptions e := by
  obtain ⟨lastId, pending, restored, asked, count⟩ := Lines.restoreAll_of_room s ls a.asked topics
    (by rw [a.lastId_toNat, Nat.zero_add]; exact ids)
    (by rw [a.outgoing_size, a.lastId, a.send, Nat.zero_add]; exact fits)
  rw [a.lastId_toNat, Nat.zero_add] at count
  refine ⟨_, restored, asked, ?_, count, rfl, a.unpinged, fun _ => rfl⟩
  simp [a.outgoing, a.lastId]

/-- Requests that fit leave with the first exchange. -/
theorem sync_of_room (a : s.client.Accepted buffers) (unread : s.client.received = [])
    (willing : l.Willing) (quiet : l.inbox = [])
    (topics : ∀ t ∈ subscriptions, Packet.Subscribable t.1) (ls : Lines) (first : Nat)
    (ids : subscriptions.length ≤ Pending.capacity)
    (send : (Packet.wire (Packet.requests 0 subscriptions)).length +
      (Packet.wire (s.client.engine.ping? first).toList).length ≤ buffers.send.toNat) :
    ∃ s' c' l', State.restoreAll Lines.backend subscriptions s ls = (s', ls) ∧ s'.socket = s.socket ∧
      s'.client.sync first l = (.ok (), c', l') ∧
      c'.Waiting subscriptions.length buffers.recv.toNat ∧ l'.Willing ∧ l'.inbox = [] ∧
      l'.sent = l.sent ++ (Packet.wire (Packet.requests 0 subscriptions) ++
        Packet.wire (s.client.engine.ping? first).toList) := by
  obtain ⟨e, restored, requested⟩ := a.requested topics ls ids (by omega)
  have asked := requested.asked
  obtain ⟨lastSent, pingSent, synced⟩ := Client.sync_quiet (c := (s.withEngine e).client) willing
    quiet unread asked.whole asked.connected requested.unpinged first (by
      change e.outgoing.size + (Packet.wire (e.ping? first).toList).length ≤ e.sendCapacity
      rw [← Array.length_toList, requested.outgoing, requested.ping, requested.capacity, a.send]
      exact send)
  refine ⟨_, _, _, restored, rfl, synced, ?_, { willing with }, quiet, ?_⟩
  · constructor
    case asked => exact { asked with held := Nat.zero_le _ }
    case count_eq => exact requested.count_eq
    case outgoing => rfl
    case room =>
      change 2 ≤ e.sendCapacity
      rw [requested.capacity]
      exact a.room
    case unread => exact unread
    case recv_eq => exact a.recv
    case heard => exact a.heard
  · have taken : (s.withEngine e).client.engine = e := rfl
    simp [Link.sent, taken, requested.outgoing, requested.ping]

theorem sync_of_full (a : s.client.Accepted buffers) (unread : s.client.received = [])
    (willing : l.Willing) (quiet : l.inbox = [])
    (topics : ∀ t ∈ subscriptions, Packet.Subscribable t.1) (ls : Lines) (first : Nat)
    (full : ¬ (subscriptions.length ≤ Pending.capacity ∧
      (Packet.wire (Packet.requests 0 subscriptions)).length +
        (Packet.wire (s.client.engine.ping? first).toList).length ≤ buffers.send.toNat)) :
    ∃ s', State.restoreAll Lines.backend subscriptions s ls = (s', ls) ∧ s'.socket = s.socket ∧
      (s'.client.sync first l).1 = .error .sendBufferFull := by
  by_cases room : subscriptions.length ≤ Pending.capacity ∧
      (Packet.wire (Packet.requests 0 subscriptions)).length ≤ buffers.send.toNat
  · -- The requests alone fit, so it is the ping that does not.
    obtain ⟨e, restored, requested⟩ := a.requested topics ls room.1 room.2
    have asked := requested.asked
    refine ⟨_, restored, rfl, ?_⟩
    apply Client.sync_full (c := (s.withEngine e).client) willing quiet unread asked.whole
      asked.connected requested.unpinged first asked.held
    change e.sendCapacity < e.outgoing.size + (Packet.wire (e.ping? first).toList).length
    rw [← Array.length_toList, requested.outgoing, requested.ping, requested.capacity, a.send]
    exact Nat.not_le.1 fun send => full ⟨room.1, send⟩
  · obtain ⟨e, restored, broken⟩ := Lines.restoreAll_of_full s ls a.asked topics (by
      rwa [a.lastId_toNat, a.outgoing_size, a.lastId, a.send, Nat.zero_add, Nat.zero_add])
    exact ⟨_, restored, rfl, Client.sync_broken broken first⟩

end Client.Accepted

namespace Session

/-- The loop has just come to a new connection, on a link that works and that has brought nothing but
the acceptance. -/
structure Reconnected (s : Lines.Speaker) (l : Link)
    (x : Lines.Online) : Prop where
  reachable : Reachable Lines.backend x
  loop : ∃ awake, x.loop = some ⟨.redialed (.ok s), awake, false⟩
  free : x.call.holdsState = false
  link : x.outside.links[s.socket]? = some l
  willing : l.Willing
  quiet : l.inbox = []
  unread : s.client.received = []

/-- The session after the new connection is recorded and after the first exchange. -/
def resumed (now first : Nat) (x : Lines.Online) : Lines.Online :=
  ((x.stepLoop Lines.backend now).2.stepLoop Lines.backend first).2

/-- What a session has to send first: the requests, and a ping if it is time for one. -/
def overdue (s : Lines.Speaker) (first : Nat)
    (x : Lines.Online) : List Packet :=
  Packet.requests 0 x.state.subscriptions ++ (s.client.engine.ping? first).toList

variable {x y z : Lines.Online} {s : Lines.Speaker} {l : Link}

theorem Reconnected.resumed_eq (r : Reconnected s l x) {s' : Lines.Speaker} (now first : Nat)
    (restored : State.restoreAll Lines.backend x.state.subscriptions s x.outside = (s', x.outside)) :
    ∃ y : Lines.Online, x.resumed now first = y.cycle Lines.backend first ∧
      y.loop = some ⟨.cycling, true, false⟩ ∧ y.call = x.call ∧ y.state.status = .connected ∧
      y.state.client = some s' ∧ y.outside = x.outside := by
  obtain ⟨awake, loop⟩ := r.loop
  obtain ⟨loop', call', settings', up, held, outside⟩ := record_accepted loop r.free now
  rw [restored] at held outside
  refine ⟨(x.stepLoop Lines.backend now).2, ?_, loop', call', up, held, outside⟩
  exact stepLoop_cycling loop' (by rw [call']; exact r.free) first

/-- Requests that do not fit together cost the new connection. -/
theorem Reconnected.lost (r : Reconnected s l x) (now first : Nat)
    (full : ¬ (x.state.subscriptions.length ≤ Pending.capacity ∧
      (Packet.wire (x.overdue s first)).length ≤ x.settings.buffers.send.toNat)) :
    (x.resumed now first).state.status ≠ .connected ∧
      (x.resumed now first).state.lastFault = some .sendBufferFull := by
  obtain ⟨awake, loop⟩ := r.loop
  rw [overdue, Packet.wire_append, List.length_append] at full
  obtain ⟨s', restored, socket, failed⟩ := (r.reachable.accepted loop).sync_of_full r.unread r.willing
    r.quiet (fun t mem => r.reachable.subscribable mem) x.outside first full
  obtain ⟨y, resumed, -, -, up, held, outside⟩ := r.resumed_eq now first restored
  have link : y.outside.links[s'.socket]? = some l := by rw [outside, socket, r.link]
  obtain ⟨messages, w, synced, -⟩ := sync_on_link link first
  rw [resumed]
  exact cycle_of_error up held (by rw [synced, failed])

/-- A session whose client waits for grants, and rests. -/
structure Expects (count recv : Nat) (socket : Nat) (l : Link)
    (x : Lines.Online) : Prop where
  loop : ∃ time awake, x.loop = some ⟨.resting time, awake, false⟩
  free : x.call.holdsState = false
  up : x.state.status = .connected
  held : ∃ s, x.state.client = some s ∧ s.socket = socket ∧ s.client.Waiting count recv
  link : x.outside.links[socket]? = some l
  willing : l.Willing
  quiet : l.inbox = []

theorem Reconnected.expects (r : Reconnected s l x) (now first : Nat)
    (ids : x.state.subscriptions.length ≤ Pending.capacity)
    (send : (Packet.wire (x.overdue s first)).length ≤ x.settings.buffers.send.toNat) :
    ∃ l', Expects x.state.subscriptions.length x.settings.buffers.recv.toNat s.socket l'
        (x.resumed now first) ∧ l'.sent = l.sent ++ Packet.wire (x.overdue s first) := by
  obtain ⟨awake, loop⟩ := r.loop
  rw [overdue, Packet.wire_append, List.length_append] at send
  obtain ⟨s', c', l', restored, socket, synced, waiting, willing, quiet, sent⟩ :=
    (r.reachable.accepted loop).sync_of_room r.unread r.willing r.quiet
      (fun t mem => r.reachable.subscribable mem) x.outside first ids send
  obtain ⟨y, resumed, loop', call', up, held, outside⟩ := r.resumed_eq now first restored
  have link : y.outside.links[s'.socket]? = some l := by rw [outside, socket, r.link]
  obtain ⟨rests, call'', up', held', link'⟩ :=
    cycle_of_sync loop' up held link synced waiting.asked.whole
  rw [resumed]
  refine ⟨l', ⟨rests, ?_, up', ⟨_, held', socket, waiting.collect⟩, ?_, willing, quiet⟩, ?_⟩
  · rw [call'', call']
    exact r.free
  · rwa [← socket]
  · rw [sent, overdue, Packet.wire_append]

/-! ## The grants -/

def fed (socket : Nat) (chunk : Bytes) (x : Lines.Online) : Lines.Online :=
  { x with outside := x.outside.change socket (·.perform (.feed chunk)) }

/-- The broker says its replies, cut into any chunks, and the loop goes on at any times. The bytes are
those still to be said. Only a ping must not stay without an answer for too long. -/
inductive Granting (socket : Nat) (replies : List Reply) (x : Lines.Online) :
    Bytes → Lines.Online → Prop
  | start : Granting socket replies x (Reply.wire replies) x
  | feed {chunk future : Bytes} {y : Lines.Online}
      (said : Granting socket replies x (chunk ++ future) y) :
      Granting socket replies x future (y.fed socket chunk)
  | loop {future : Bytes} {y : Lines.Online} {now : Nat} (said : Granting socket replies x future y)
      (patient : ((Move.loop now).error? Lines.backend y).bind SessionError.fault? ≠
        some .keepAliveTimeout) :
      Granting socket replies x future (y.stepLoop Lines.backend now).2

/-- A connected session whose client hears replies. -/
structure Attends (socket : Nat) (future : Bytes) (x : Lines.Online) : Prop where
  loop : ∃ awake, x.loop = some ⟨.cycling, awake, false⟩ ∨
    ∃ time, x.loop = some ⟨.resting time, awake, false⟩
  free : x.call.holdsState = false
  up : x.state.status = .connected
  hears : ∃ s l replies, x.state.client = some s ∧ s.socket = socket ∧
    x.outside.links[socket]? = some l ∧ s.client.Hears future replies l

theorem Attends.feed {socket : Nat} {chunk future : Bytes} (a : Attends socket (chunk ++ future) x) :
    Attends socket future (x.fed socket chunk) := by
  obtain ⟨s, l, replies, held, own, link, hears⟩ := a.hears
  refine ⟨a.loop, a.free, a.up, s, l.perform (.feed chunk), replies, held, own, ?_, ?_⟩
  · change (x.outside.links.modify socket _)[socket]? = _
    simp [Array.getElem?_modify, link]
  · have cut := hears.cut
    unfold Link.perform
    dsimp only
    split
    · rename_i empty
      rw [List.isEmpty_iff.1 empty, List.nil_append] at cut
      exact ⟨hears.willing, hears.awaits, hears.fits, cut⟩
    · refine ⟨{ hears.willing with }, hears.awaits, hears.fits, ?_⟩
      simpa using cut

theorem Attends.cycle {socket : Nat} {future : Bytes} {awake : Bool} {now : Nat}
    (a : Attends socket future x) (loop : x.loop = some ⟨.cycling, awake, false⟩)
    (patient : ((Move.loop now).error? Lines.backend x).bind SessionError.fault? ≠
      some .keepAliveTimeout) : Attends socket future (x.cycle Lines.backend now) := by
  obtain ⟨s, l, replies, held, rfl, link, hears⟩ := a.hears
  rcases hears.sync now with ⟨c', l', late⟩ | ⟨c', l', rest, synced, hears'⟩
  · obtain ⟨messages, w, failed, -⟩ := sync_on_link link now
    have reported : (Move.loop now).error? Lines.backend x =
        some (.protocol .keepAliveTimeout "MQTT sync failed") := by
      simp [Move.error?, loop, a.up, a.free, pump, held, failed, late]
    rw [reported] at patient
    exact absurd rfl patient
  · obtain ⟨⟨time, awake', rests⟩, call, up, held', link'⟩ :=
      cycle_of_sync loop a.up held link synced hears'.awaits.whole
    refine ⟨⟨awake', .inr ⟨time, rests⟩⟩, ?_, up, _, l', rest, held', rfl, link', hears'.collect⟩
    rw [call]
    exact a.free

theorem Attends.loopStep {socket : Nat} {future : Bytes} {now : Nat} (a : Attends socket future x)
    (patient : ((Move.loop now).error? Lines.backend x).bind SessionError.fault? ≠
      some .keepAliveTimeout) : Attends socket future (x.stepLoop Lines.backend now).2 := by
  obtain ⟨awake, loop | ⟨time, loop⟩⟩ := a.loop
  · rw [stepLoop_cycling loop a.free]
    exact a.cycle loop patient
  · unfold stepLoop
    rw [loop]
    dsimp only
    rw [if_neg Bool.false_ne_true]
    split
    · exact ⟨⟨true, .inl (by simp [loop, Phase.isWork])⟩, a.free, a.up, a.hears⟩
    · exact a

theorem Granting.attends {socket : Nat} {replies : List Reply} {future : Bytes}
    (g : Granting socket replies x future y) (start : Attends socket (Reply.wire replies) x) :
    Attends socket future y := by
  induction g with
  | start => exact start
  | feed _ ih => exact ih.feed
  | loop _ patient ih => exact ih.loopStep patient

theorem Expects.attends {socket recv : Nat} {subscriptions : List (String × QoS)}
    {replies : List Reply} (h : Expects subscriptions.length recv socket l x)
    (grant : Reply.Grant subscriptions replies) (room : subscriptions.length ≤ Pending.capacity)
    (fits : subscriptions ≠ [] → 5 ≤ recv) : Attends socket (Reply.wire replies) x := by
  obtain ⟨time, awake, loop⟩ := h.loop
  obtain ⟨s, held, own, waiting⟩ := h.held
  exact ⟨⟨awake, .inr ⟨time, loop⟩⟩, h.free, h.up, s, l, replies, held, own, h.link,
    waiting.hears grant h.willing h.quiet room fits⟩

/-- A client that cannot hold a grant breaks when the first one comes. -/
theorem Expects.breaks {count socket recv : Nat} {replies : List Reply} {id : UInt16} {qos : QoS}
    {future : Bytes} (h : Expects count recv socket l x) (tight : recv < 5)
    (first : Reply.wire replies = (Reply.granted id qos).frame ++ future) :
    ∃ y, Granting socket replies x future y ∧ y.state.status ≠ .connected := by
  obtain ⟨time, awake, loop⟩ := h.loop
  obtain ⟨s, held, rfl, waiting⟩ := h.held
  have said : Granting s.socket replies x (Reply.wire replies) x := .start
  rw [first] at said
  -- The grant comes, the rest is over, and the next exchange reads it.
  generalize given : x.fed s.socket (Reply.granted id qos).frame = y
  have said := given ▸ said.feed
  have resting : y.loop = some ⟨.resting time, awake, false⟩ := by rw [← given]; exact loop
  have said : Granting s.socket replies x future (y.stepLoop Lines.backend time.due).2 :=
    said.loop (by simp [Move.error?, resting])
  generalize rested : (y.stepLoop Lines.backend time.due).2 = z at said
  replace rested : z = y.setPhase .cycling := by rw [← rested]; simp [stepLoop, resting]
  have cycling : z.loop = some ⟨.cycling, true, false⟩ := by
    rw [rested, setPhase_loop, resting]
    rfl
  have up : z.state.status = .connected := by rw [rested, ← given]; exact h.up
  have held : z.state.client = some s := by rw [rested, ← given]; exact held
  have free : z.call.holdsState = false := by rw [rested, ← given]; exact h.free
  have link : z.outside.links[s.socket]? = some (l.perform (.feed (Reply.granted id qos).frame)) := by
    rw [rested, ← given]
    change (x.outside.links.modify s.socket _)[s.socket]? = _
    simp [Array.getElem?_modify, h.link]
  have chunk : (l.perform (.feed (Reply.granted id qos).frame)).inbox =
      [(Reply.granted id qos).frame] := by
    simp [Link.perform, h.quiet, Reply.frame]
  have failed := Client.sync_too_long chunk waiting.unread waiting.asked.whole waiting.asked.connected
    (by rwa [waiting.recv_eq]) time.due
  obtain ⟨messages, w, synced, -⟩ := sync_on_link link time.due
  have patient : ((Move.loop time.due).error? Lines.backend z).bind SessionError.fault? ≠
      some .keepAliveTimeout := by
    simp [Move.error?, cycling, up, free, pump, held, synced, failed, SessionError.fault?]
  refine ⟨_, said.loop patient, ?_⟩
  rw [stepLoop_cycling cycling free]
  exact (cycle_of_error up held (by rw [synced, failed])).1

/-! ## Restoration -/

/-- Everything that has to be sent first fits into the send buffer at once, there are enough ids, and a
grant fits into the receive buffer. -/
structure Fits (s : Lines.Speaker) (first : Nat) (x : Lines.Online) : Prop where
  ids : x.state.subscriptions.length ≤ Pending.capacity
  send : (Packet.wire (x.overdue s first)).length ≤ x.settings.buffers.send.toNat
  recv : x.state.subscriptions ≠ [] → 5 ≤ x.settings.buffers.recv.toNat

/-- A request for every topic is written to the new connection, which lasts while the broker grants
them. -/
structure Restored (s : Lines.Speaker) (l : Link) (now first : Nat) (x : Lines.Online) : Prop where
  up : (x.resumed now first).state.status = .connected
  written : ∃ l', (x.resumed now first).outside.links[s.socket]? = some l' ∧
    l'.sent = l.sent ++ Packet.wire (x.overdue s first)
  lasts : ∀ replies, Reply.Grant x.state.subscriptions replies → ∀ future y,
    Granting s.socket replies (x.resumed now first) future y → y.state.status = .connected

theorem restored_iff_fits (r : Reconnected s l x) (now first : Nat) :
    x.Restored s l now first ↔ x.Fits s first := by
  constructor
  · intro restored
    have room : x.state.subscriptions.length ≤ Pending.capacity ∧
        (Packet.wire (x.overdue s first)).length ≤ x.settings.buffers.send.toNat :=
      Decidable.byContradiction fun full => (r.lost now first full).1 restored.up
    obtain ⟨l', expects, -⟩ := r.expects now first room.1 room.2
    refine ⟨room.1, room.2, fun some_ => Nat.not_lt.1 fun tight => ?_⟩
    obtain ⟨⟨topic, qos⟩, rest, all⟩ := List.exists_cons_of_ne_nil some_
    let replies := (Packet.asked (Packet.requests 0 x.state.subscriptions)).map (Reply.granted · qos)
    have grant : Reply.Grant x.state.subscriptions replies := by
      simp [Reply.Grant, Reply.ids, replies, List.filterMap_map, Reply.id?, Function.comp_def]
    have granted : Reply.wire replies = (Reply.granted (0 + 1) qos).frame ++
        Reply.wire ((Packet.asked (Packet.requests (0 + 1) rest)).map (Reply.granted · qos)) := by
      simp only [replies, all]
      rfl
    obtain ⟨y, granting, down⟩ := expects.breaks tight granted
    exact down (restored.lasts replies grant _ y granting)
  · intro fits
    obtain ⟨l', expects, sent⟩ := r.expects now first fits.ids fits.send
    refine ⟨expects.up, ⟨l', expects.link, sent⟩, ?_⟩
    intro replies grant future y granting
    exact (granting.attends (expects.attends grant fits.ids fits.recv)).up

theorem Reachable.hungUp (r : Reachable Lines.backend x) :
    Reachable Lines.backend { x with outside := x.outside.changeLatest (·.perform .finish) } :=
  r.outside _

/-- Two topics that were subscribed one after the other do not come back through a send buffer that
holds one request. -/
theorem restored_iff_fits_narrow : ∃ (x : Lines.Online) (s : Lines.Speaker) (l : Link),
    Reconnected s l x ∧ x.settings.buffers.send = 14 ∧
      x.state.subscriptions = [("a", .atMostOnce), ("b", .atMostOnce)] ∧
      ¬ x.Restored s l 1100 1100 := by
  let accepts : Line := { answer := .link [.now (.feed [0x20, 2, 0, 0])] }
  have r : Reachable Lines.backend _ :=
    .new { buffers := { send := 14 } } { script := [accepts, accepts] }
  have r := r.move (m := .connect 0 { host := "h" } none) rfl
  have r := r.move (m := .call 0) trivial
  have r := r.move (m := .operate (.subscribe "a" .atMostOnce)) (by cbv)
  have r := r.loop 0
  have r := r.move (m := .operate (.subscribe "b" .atMostOnce)) (by cbv)
  have r := r.hungUp
  have r := r.loop 100
  have r := r.loop 100
  have r := r.loop 1100
  have r := r.loop 1100
  let s : Lines.Speaker :=
    { client :=
        { engine :=
            { sendCapacity := 14, connected := true, keepAlive := 400000, lastSent := 1100,
              listening := false }
          recvCapacity := 1024 }
      socket := 1, handler := none }
  let l : Link := { accepted := #[0x10, 12, 0, 4, 0x4D, 0x51, 0x54, 0x54, 4, 2, 1, 0x90, 0, 0] }
  have reconnected : Reconnected s l _ :=
    ⟨r, ⟨true, by cbv⟩, by cbv, by cbv, ⟨rfl, rfl, rfl, rfl, rfl, rfl⟩, rfl, rfl⟩
  refine ⟨_, s, l, reconnected, by cbv, by cbv, fun restored => ?_⟩
  have fits := (restored_iff_fits reconnected 1100 1100).1 restored
  exact absurd fits.send (by cbv)

end Session

end MqttLink
