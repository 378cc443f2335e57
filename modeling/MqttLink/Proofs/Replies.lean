import MqttLink.Proofs.Queueing
import MqttLink.Proofs.Willing

/-!
# What a broker replies

A broker grants subscriptions and answers pings. However its bytes are cut, a client takes every reply
as soon as it is whole, and waits for one thing less.
-/

namespace MqttLink

/-- What a broker has to say while a client only subscribes. -/
inductive Reply where
  | granted (id : UInt16) (qos : QoS)
  | pong
  deriving DecidableEq, Repr

namespace Reply

def frame : Reply → Bytes
  | granted id qos => [0x90, 3] ++ Bytes.ofUInt16 id ++ [qos.level]
  | pong => [0xD0, 0]

def packet : Reply → Packet
  | granted id qos => .suback id [.granted qos]
  | pong => .pingresp

def id? : Reply → Option UInt16
  | granted id _ => some id
  | pong => none

def wire (replies : List Reply) : Bytes := replies.flatMap frame

def ids (replies : List Reply) : List UInt16 := replies.filterMap id?

theorem decode_granted (id : UInt16) (qos : QoS) :
    Packet.decode 0x90 (Bytes.ofUInt16 id ++ [qos.level]) = .ok (.suback id [.granted qos]) := by
  have number : Decode.number (Bytes.ofUInt16 id ++ [qos.level]) = .ok (id, [qos.level]) := by
    rw [Decode.number, Bytes.takeUInt16?_ofUInt16_append]
  have grants : Decode.grants [qos.level] = .ok [.granted qos] := by cases qos <;> rfl
  change Decode.suback _ = _
  simp [Decode.suback, number, grants, bind, Except.bind, pure, Except.pure]

variable {limit : Nat} {r : Reply} {replies : List Reply} {received future : Bytes}

theorem frame_written (r : Reply) : ∃ kind body,
    Frame.write kind body = some r.frame ∧ Packet.decode kind body = .ok r.packet := by
  cases r with
  | granted id qos =>
    refine ⟨0x90, Bytes.ofUInt16 id ++ [qos.level], ?_, decode_granted id qos⟩
    simp [Frame.write, Frame.lengthBytes, Frame.maxRemaining, Bytes.ofUInt16, frame]
  | pong =>
    refine ⟨0xD0, [], ?_, rfl⟩
    simp [Frame.write, Frame.lengthBytes, frame]

/-- A reply is understood whatever follows it. -/
theorem next_frame (fits : r.frame.length ≤ limit) (more : Bytes) :
    Next.of limit (r.frame ++ more) = .packet r.packet more := by
  obtain ⟨kind, body, written, decodes⟩ := frame_written r
  exact Next.of_write written fits decodes more

/-- The beginning of a reply is not taken for anything. -/
theorem next_part (part : received <+: r.frame) (short : received.length < r.frame.length)
    (fits : r.frame.length ≤ limit) : Next.of limit received = .incomplete := by
  obtain ⟨rest, part⟩ := part
  match received, r with
  | [], _ | [_], _ => rfl
  | _ :: b :: more, pong =>
    replace short : more.length + 2 < 2 := short
    omega
  | _ :: b :: more, granted id qos =>
    obtain rfl : b = 3 := by
      simp only [frame, List.cons_append, List.cons.injEq] at part
      exact part.2.1
    replace fits : 5 ≤ limit := fits
    unfold Next.of
    rw [show Frame.totalLength? _ = .ok (some 5) from rfl]
    dsimp only
    rw [if_neg (Nat.not_lt.2 fits)]
    exact if_pos short

theorem next_too_long {id : UInt16} {qos : QoS} (tight : limit < 5) :
    Next.of limit (granted id qos).frame = .fault .recvBufferTooSmall (granted id qos).frame := by
  unfold Next.of
  rw [show Frame.totalLength? _ = .ok (some 5) from rfl]
  exact if_pos tight

/-- What has come of some replies starts with a whole one, or holds none. -/
theorem next_cut (cut : received ++ future = wire replies)
    (fits : ∀ r ∈ replies, r.frame.length ≤ limit) :
    (∃ r rest more, replies = r :: rest ∧ received = r.frame ++ more ∧ more ++ future = wire rest) ∨
      Next.of limit received = .incomplete := by
  cases replies with
  | nil =>
    obtain rfl : received = [] := (List.append_eq_nil_iff.1 cut).1
    exact .inr rfl
  | cons r rest =>
    replace cut : received ++ future = r.frame ++ wire rest := cut
    have fits := fits r List.mem_cons_self
    rcases Nat.lt_or_ge received.length r.frame.length with short | long
    · have part : received <+: r.frame :=
        List.prefix_of_prefix_length_le ⟨future, cut⟩ ⟨wire rest, rfl⟩ (Nat.le_of_lt short)
      exact .inr (next_part part short fits)
    · have part : r.frame <+: received :=
        List.prefix_of_prefix_length_le ⟨wire rest, rfl⟩ ⟨future, cut⟩ long
      obtain ⟨more, rfl⟩ := part
      rw [List.append_assoc] at cut
      exact .inl ⟨r, rest, more, rfl, rfl, List.append_cancel_left cut⟩

end Reply

/-! ## An engine that waits for replies -/

/-- An engine that has sent all it had to send, and waits for these replies. -/
structure Engine.Awaits (replies : List Reply) (e : Engine) : Prop where
  whole : e.fault = none
  connected : e.connected = true
  outgoing : e.outgoing = #[]
  room : 2 ≤ e.sendCapacity
  distinct : (Reply.ids replies).Nodup
  awaited : ∀ id ∈ Reply.ids replies, e.pending[id]? = some .suback

namespace Engine

variable {r : Reply} {replies : List Reply} {e e' : Engine}

theorem Awaits.takePacket (a : e.Awaits (r :: replies)) :
    ∃ e', Engine.takePacket r.packet e = .ok () e' ∧ e'.Awaits replies := by
  cases r with
  | pong =>
    exact ⟨{ e with pingSent := none }, rfl, { a with }⟩
  | granted id qos =>
    have distinct : id ∉ Reply.ids replies ∧ (Reply.ids replies).Nodup := List.nodup_cons.1 a.distinct
    have settled : settle id .suback e = .ok () { e with pending := e.pending.erase id } := by
      rw [settle_eq, if_pos (a.awaited id List.mem_cons_self)]
    refine ⟨{ e with pending := e.pending.erase id }, ?_, ?_⟩
    · change (settle id .suback >>= _) e = _
      rw [run_bind, settled]
      rfl
    · constructor
      case whole => exact a.whole
      case connected => exact a.connected
      case outgoing => exact a.outgoing
      case room => exact a.room
      case distinct => exact distinct.2
      case awaited =>
        intro id' mem
        have other : id ≠ id' := fun same => distinct.1 (same ▸ mem)
        have awaited := a.awaited id' (List.mem_cons_of_mem _ mem)
        simpa [Std.ExtTreeMap.getElem?_erase, other] using awaited

/-- The replies that have come are taken, and the others are still awaited. -/
theorem Awaits.takeAll (a : e.Awaits replies) {limit : Nat} {received future : Bytes}
    (cut : received ++ future = Reply.wire replies) (fits : ∀ r ∈ replies, r.frame.length ≤ limit) :
    ∃ received' e' rest, e.takeAll limit received = (.ok (), received', e') ∧ e'.Awaits rest ∧
      received' ++ future = Reply.wire rest ∧ rest ⊆ replies := by
  -- Every reply that is taken leaves a shorter list of those awaited, wherever the bytes are cut.
  induction replies generalizing received e with
  | nil =>
    rcases Reply.next_cut cut fits with ⟨r, rest, more, same, -⟩ | part
    · simp at same
    · exact ⟨received, e, [], takeAll_of_incomplete e part, a, cut, List.Subset.refl _⟩
  | cons r replies ih =>
    rcases Reply.next_cut cut fits with ⟨_, _, more, same, rfl, cut'⟩ | part
    · cases same
      obtain ⟨e', ran, a'⟩ := a.takePacket
      obtain ⟨received', e'', rest, taken, a'', cut'', sub⟩ :=
        ih a' cut' fun r mem => fits r (List.mem_cons_of_mem _ mem)
      refine ⟨received', e'', rest, ?_, a'', cut'', fun r mem => List.mem_cons_of_mem _ (sub mem)⟩
      rw [takeAll_of_packet (Reply.next_frame (fits r List.mem_cons_self) more) ran, taken]
    · exact ⟨received, e, _, takeAll_of_incomplete e part, a, cut, List.Subset.refl _⟩

/-! ## Keep-alive -/

theorem serviceKeepAlive_of_room (now : Nat) (unpinged : e.pingSent = none)
    (room : e.outgoing.size + (Packet.wire (e.ping? now).toList).length ≤ e.sendCapacity) :
    ∃ pingSent, serviceKeepAlive now e =
      .ok () { e with outgoing := e.outgoing ++ Packet.wire (e.ping? now).toList, pingSent } := by
  rw [serviceKeepAlive_eq, unpinged]
  by_cases due : e.keepAlive ≠ 0 ∧ e.keepAlive ≤ now - e.lastSent
  · have ping : e.ping? now = some .pingreq := if_pos ⟨due.1, unpinged, due.2⟩
    rw [ping] at room
    refine ⟨some now, ?_⟩
    rw [if_neg due.1]
    dsimp only
    rw [if_pos due.2, queue_of_room (p := .pingreq) rfl room, ping]
    rfl
  · have ping : e.ping? now = none := if_neg fun h => due ⟨h.1, h.2.2⟩
    refine ⟨e.pingSent, ?_⟩
    rw [ping]
    dsimp only
    split
    · simp
    · rename_i on
      rw [if_neg fun late => due ⟨on, late⟩]
      simp

theorem serviceKeepAlive_of_full (now : Nat) (unpinged : e.pingSent = none)
    (held : e.outgoing.size ≤ e.sendCapacity)
    (full : e.sendCapacity < e.outgoing.size + (Packet.wire (e.ping? now).toList).length) :
    serviceKeepAlive now e = .error .sendBufferFull { e with fault := some .sendBufferFull } := by
  rw [serviceKeepAlive_eq, unpinged]
  by_cases due : e.keepAlive ≠ 0 ∧ e.keepAlive ≤ now - e.lastSent
  · have ping : e.ping? now = some .pingreq := if_pos ⟨due.1, unpinged, due.2⟩
    rw [ping] at full
    rw [if_neg due.1]
    dsimp only
    rw [if_pos due.2, queue_of_full (p := .pingreq) rfl full, unpinged]
  · have ping : e.ping? now = none := if_neg fun h => due ⟨h.1, h.2.2⟩
    rw [ping] at full
    exact absurd full (Nat.not_lt.2 held)

/-- A quiet engine breaks for a ping without an answer, and for nothing else. -/
theorem Awaits.serviceKeepAlive (a : e.Awaits replies) (now : Nat) :
    Engine.serviceKeepAlive now e = fail .keepAliveTimeout e ∨
      ∃ outgoing pingSent, Engine.serviceKeepAlive now e = .ok () { e with outgoing, pingSent } := by
  cases sent : e.pingSent with
  | none =>
    have room : e.outgoing.size + (Packet.wire (e.ping? now).toList).length ≤ e.sendCapacity := by
      have short : (Packet.wire (e.ping? now).toList).length ≤ 2 := by
        unfold ping?
        split <;> decide
      have := a.room
      rw [a.outgoing, List.size_toArray, List.length_nil]
      omega
    obtain ⟨pingSent, ran⟩ := serviceKeepAlive_of_room now sent room
    exact .inr ⟨_, pingSent, ran⟩
  | some time =>
    rw [serviceKeepAlive_eq, sent]
    split
    · exact .inr ⟨e.outgoing, e.pingSent, rfl⟩
    · dsimp only
      split
      · exact .inl rfl
      · exact .inr ⟨e.outgoing, e.pingSent, rfl⟩

end Engine

/-! ## A client on a link that works -/

namespace Client

variable {l : Link}

/-- What a client has read, can read and will be able to read are these replies. -/
structure Hears (future : Bytes) (replies : List Reply) (c : Client) (l : Link) : Prop where
  willing : l.Willing
  awaits : c.engine.Awaits replies
  fits : ∀ r ∈ replies, r.frame.length ≤ c.recvCapacity
  cut : c.received ++ (l.inbox.flatten ++ future) = Reply.wire replies

variable {c : Client} {future : Bytes} {replies : List Reply}

theorem Hears.collect (h : Hears future replies c l) : Hears future replies c.collect.2 l where
  willing := h.willing
  awaits := { h.awaits with }
  fits := h.fits
  cut := h.cut

theorem Hears.takeInput (h : Hears future replies c l) :
    ∃ c' l' rest, c.takeInput l = (.ok (), c', l') ∧ Hears future rest c' l' := by
  obtain ⟨willing, awaits, fits, cut⟩ := h
  generalize chunks : l.inbox = inbox at cut
  induction inbox generalizing c l replies with
  | nil =>
    obtain ⟨received, engine, rest, taken, awaits', cut', sub⟩ := awaits.takeAll cut fits
    have read : ByteStream.read l = (.blocked, l) := willing.last_eq ▸ Link.read_nil chunks
    refine ⟨_, _, rest, takeInput_of_last taken read (by simp), willing, awaits', ?_, ?_⟩
    · exact fun r mem => fits r (sub mem)
    · rwa [chunks]
  | cons chunk inbox ih =>
    obtain ⟨received, engine, rest, taken, awaits', cut', sub⟩ := awaits.takeAll cut fits
    rw [takeInput_of_data taken (Link.read_cons chunks)]
    refine ih (l := { l with inbox }) { willing with } awaits' (fun r mem => fits r (sub mem)) rfl ?_
    rw [List.flatten_cons, List.append_assoc] at cut'
    rwa [List.append_assoc]

/-- An exchange with a broker that only replies fails for want of a pong, and for nothing else. -/
theorem Hears.sync (h : Hears future replies c l) (now : Nat) :
    (∃ c' l', c.sync now l = (.error .keepAliveTimeout, c', l')) ∨
      ∃ c' l' rest, c.sync now l = (.ok (), c', l') ∧ Hears future rest c' l' := by
  unfold Client.sync
  rw [lift_ready h.awaits.whole h.awaits.connected]
  obtain ⟨c1, l1, rest, took, h1⟩ := h.takeInput
  dsimp only
  rw [took]
  dsimp only [lift]
  rcases h1.awaits.serviceKeepAlive now with late | ⟨outgoing, pingSent, pinged⟩
  · rw [late]
    exact .inl ⟨_, _, rfl⟩
  · rw [pinged]
    obtain ⟨lastSent, wrote⟩ := h1.willing.writeOutput now
      { c1 with engine := { c1.engine with outgoing, pingSent } }
    refine .inr ⟨_, _, rest, wrote, { h1.willing with }, ?_, h1.fits, h1.cut⟩
    exact { h1.awaits with outgoing := rfl }

/-! ## A client that has nothing to read -/

theorem takeInput_quiet (willing : l.Willing) (quiet : l.inbox = []) (unread : c.received = []) :
    c.takeInput l = (.ok (), c, l) := by
  have read : ByteStream.read l = (.blocked, l) := willing.last_eq ▸ Link.read_nil quiet
  have taken : c.engine.takeAll c.recvCapacity c.received = (.ok (), c.received, c.engine) := by
    rw [unread]
    exact Engine.takeAll_of_incomplete c.engine rfl
  exact takeInput_of_last taken read (by simp)

/-- All that is queued leaves, behind it a ping if it is time for one. -/
theorem sync_quiet (willing : l.Willing) (quiet : l.inbox = []) (unread : c.received = [])
    (whole : c.engine.fault = none) (connected : c.engine.connected = true)
    (unpinged : c.engine.pingSent = none) (now : Nat)
    (room : c.engine.outgoing.size + (Packet.wire (c.engine.ping? now).toList).length ≤
      c.engine.sendCapacity) :
    ∃ lastSent pingSent, c.sync now l =
      (.ok (), { c with engine := { c.engine with outgoing := #[], lastSent, pingSent } },
        { l with accepted :=
          l.accepted ++ (c.engine.outgoing.toList ++ Packet.wire (c.engine.ping? now).toList) }) := by
  obtain ⟨pingSent, pinged⟩ := Engine.serviceKeepAlive_of_room now unpinged room
  unfold sync
  rw [lift_ready whole connected]
  dsimp only
  rw [takeInput_quiet willing quiet unread]
  dsimp only [lift]
  rw [pinged]
  obtain ⟨lastSent, wrote⟩ := willing.writeOutput now
    { c with engine := { c.engine with
      outgoing := c.engine.outgoing ++ Packet.wire (c.engine.ping? now).toList, pingSent } }
  refine ⟨lastSent, pingSent, wrote.trans ?_⟩
  simp

theorem sync_full (willing : l.Willing) (quiet : l.inbox = []) (unread : c.received = [])
    (whole : c.engine.fault = none) (connected : c.engine.connected = true)
    (unpinged : c.engine.pingSent = none) (now : Nat)
    (held : c.engine.outgoing.size ≤ c.engine.sendCapacity)
    (full : c.engine.sendCapacity <
      c.engine.outgoing.size + (Packet.wire (c.engine.ping? now).toList).length) :
    (c.sync now l).1 = .error .sendBufferFull := by
  unfold sync
  rw [lift_ready whole connected]
  dsimp only
  rw [takeInput_quiet willing quiet unread]
  dsimp only [lift]
  rw [Engine.serviceKeepAlive_of_full now unpinged held full]

theorem sync_broken {f : Fault} (broken : c.engine.fault = some f) (now : Nat) :
    (c.sync now l).1 = .error f := by
  unfold sync lift
  rw [Engine.ready_eq, broken]

/-- A grant that does not fit breaks the client that reads it. -/
theorem sync_too_long {id : UInt16} {qos : QoS} {rest : List Bytes}
    (chunk : l.inbox = (Reply.granted id qos).frame :: rest) (unread : c.received = [])
    (whole : c.engine.fault = none) (connected : c.engine.connected = true)
    (tight : c.recvCapacity < 5) (now : Nat) : (c.sync now l).1 = .error .recvBufferTooSmall := by
  have taken : c.engine.takeAll c.recvCapacity c.received = (.ok (), c.received, c.engine) := by
    rw [unread]
    exact Engine.takeAll_of_incomplete c.engine rfl
  unfold sync
  rw [lift_ready whole connected]
  dsimp only
  rw [takeInput_of_data taken (Link.read_cons chunk), takeInput, unread, List.nil_append,
    Engine.takeAll_of_fault c.engine (Reply.next_too_long tight)]

end Client

end MqttLink
