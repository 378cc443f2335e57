import MqttLink.Proofs.Faults
import MqttLink.Proofs.ReadBack
import MqttLink.Proofs.Tracking
import MqttLink.Proofs.Willing
import MqttLink.Session.Operation

/-!
# Packets that are too long

A packet with a body that is longer than a frame can say is refused. A topic that is longer than its own
two bytes can say is not: its length wraps, so that only the beginning is read as the topic, and the rest
stands in front of whatever comes behind.
-/

namespace MqttLink

/-! ## Texts behind their length -/

/-- As many bytes as the two in front of them say, and what comes behind. -/
def Bytes.takeSized? (b : Bytes) : Option (Bytes × Bytes) := do
  let (size, rest) ← takeUInt16? b
  if rest.length < size.toNat then none
  else some (rest.take size.toNat, rest.drop size.toNat)

/-- What the length of a text comes to when it is read. -/
def Bytes.wrapped (s : String) : Nat := (ofText s).length % 65536

theorem Bytes.takeSized?_append (s : String) (rest : Bytes) : takeSized? (ofSizedText s ++ rest) =
    some ((ofText s).take (wrapped s), (ofText s).drop (wrapped s) ++ rest) := by
  have size : (ofText s).length.toUInt16.toNat = wrapped s := by
    rw [Nat.toUInt16, UInt16.toNat_ofNat', wrapped]
  have bound : wrapped s ≤ (ofText s).length := Nat.mod_le ..
  unfold takeSized? ofSizedText
  dsimp only
  rw [List.append_assoc, takeUInt16?_ofUInt16_append, Option.bind_eq_bind, Option.bind_some, size,
    if_neg (by rw [List.length_append]; omega), List.take_append_of_le_length bound,
    List.drop_append_of_le_length bound]

theorem Bytes.drop_wrapped_append {s : String} (short : (ofText s).length ≤ 65535) (rest : Bytes) :
    (ofText s).drop (wrapped s) ++ rest = rest := by
  rw [List.drop_eq_nil_of_le (by rw [wrapped]; omega), List.nil_append]

/-- Two bytes behind what is said to be the topic are there, whatever they are. -/
theorem Bytes.takeUInt16?_drop_wrapped (s : String) (id : UInt16) (payload : Bytes) : ∃ n rest,
    takeUInt16? ((ofText s).drop (wrapped s) ++ (ofUInt16 id ++ payload)) = some (n, rest) ∧
      ((ofText s).length ≤ 65535 → rest = payload) := by
  by_cases short : (ofText s).length ≤ 65535
  · rw [drop_wrapped_append short, takeUInt16?_ofUInt16_append]
    exact ⟨id, payload, rfl, fun _ => rfl⟩
  · match (ofText s).drop (wrapped s) with
    | [] | [_] | _ :: _ :: _ => exact ⟨_, _, rfl, fun short' => absurd short' short⟩

theorem Bytes.take_wrapped_iff (s : String) :
    (ofText s).take (wrapped s) = ofText s ↔ (ofText s).length ≤ 65535 := by
  rw [List.take_eq_self_iff, wrapped]
  omega

namespace Operation

/-! ## Packets of operations -/

def ask : Operation → Client → Except Fault Unit × Client
  | publish m qos retain => Client.publish m qos retain
  | subscribe topic qos => Client.subscribe topic qos
  | unsubscribe topic => Client.unsubscribe topic

/-- The packet that is to be queued, with the id of the exchange if it starts one. -/
def packet : Operation → UInt16 → Packet
  | publish m qos retain, id =>
    .publish { m with qos, retain, id := if qos = .atMostOnce then 0 else id }
  | subscribe topic qos, id => .subscribe id topic qos
  | unsubscribe topic, id => .unsubscribe id topic

/-- The first byte of the packet. -/
def kind : Operation → UInt8
  | publish m qos retain => Publish.kind { m with qos, retain }
  | subscribe .. => 0x82
  | unsubscribe _ => 0xA2

/-- What comes behind the length of the packet. -/
def body : Operation → UInt16 → Bytes
  | publish m .atMostOnce _, _ => Bytes.ofSizedText m.topic ++ m.payload
  | publish m .., id => Bytes.ofSizedText m.topic ++ (Bytes.ofUInt16 id ++ m.payload)
  | subscribe topic qos, id => Bytes.ofUInt16 id ++ (Bytes.ofSizedText topic ++ [qos.level])
  | unsubscribe topic, id => Bytes.ofUInt16 id ++ (Bytes.ofSizedText topic ++ [])

/-- How many bytes that are. -/
def remaining : Operation → Nat
  | publish m qos _ => Publish.remaining { m with qos }
  | subscribe topic _ => 2 + (2 + (Bytes.ofText topic).length) + 1
  | unsubscribe topic => 2 + (2 + (Bytes.ofText topic).length)

/-- What comes behind the topic, apart from an id. -/
def tail : Operation → Bytes
  | publish m .. => m.payload
  | subscribe _ qos => [qos.level]
  | unsubscribe _ => []

/-- The topic in the body of a packet, and what comes behind it. -/
def readBody? : Operation → Bytes → Option (Bytes × Bytes)
  | publish _ .atMostOnce _, body => Bytes.takeSized? body
  | publish .., body => do
    let (topic, rest) ← Bytes.takeSized? body
    let (_, payload) ← Bytes.takeUInt16? rest
    return (topic, payload)
  | subscribe .., body | unsubscribe _, body => do
    let (_, rest) ← Bytes.takeUInt16? body
    Bytes.takeSized? rest

/-- What is read out of a frame with nothing behind it. -/
def read? (o : Operation) (frame : Bytes) : Option (Bytes × Bytes) :=
  match Frame.split Frame.maxRemaining frame with
  | .ok (_, body, []) => o.readBody? body
  | _ => none

variable {o : Operation} {c : Client}

theorem encode_packet {id : UInt16} (nonzero : id ≠ 0) :
    (o.packet id).encode = Frame.write o.kind (o.body id) := by
  cases o with
  | publish m qos retain =>
    cases qos with
    | atMostOnce => rfl
    | atLeastOnce | exactlyOnce =>
      rw [packet, Packet.encode, Publish.body?, if_neg (by simp), if_neg (by simpa using nonzero),
        List.append_assoc]
      rfl
  | subscribe topic qos =>
    rw [packet, Packet.encode, List.append_assoc]
    rfl
  | unsubscribe topic =>
    rw [packet, Packet.encode, ← List.append_nil (Bytes.ofSizedText topic)]
    rfl

theorem length_body (id : UInt16) : (o.body id).length = o.remaining := by
  cases o with
  | publish m qos retain =>
    cases qos with
    | atMostOnce => simp [body, remaining, Publish.remaining, Bytes.length_ofSizedText]
    | atLeastOnce | exactlyOnce =>
      simp [body, remaining, Publish.remaining, Bytes.length_ofSizedText, Bytes.ofUInt16]
      omega
  | subscribe | unsubscribe =>
    simp [body, remaining, Bytes.length_ofSizedText, Bytes.ofUInt16]
    omega

theorem remaining_of_unwritten {id : UInt16} (nonzero : id ≠ 0)
    (unwritten : (o.packet id).encode = none) : Frame.maxRemaining < o.remaining := by
  rw [encode_packet nonzero, Frame.write, length_body] at unwritten
  split at unwritten
  · cases unwritten
  · omega

theorem length_of_written {id : UInt16} {frame : Bytes} (nonzero : id ≠ 0)
    (written : (o.packet id).encode = some frame) : o.remaining ≤ Frame.maxRemaining ∧
      frame.length = 1 + (Frame.lengthBytes o.remaining).length + o.remaining := by
  rw [encode_packet nonzero, Frame.write, length_body] at written
  split at written
  · cases written
    refine ⟨by assumption, ?_⟩
    rw [List.length_append, List.length_cons, length_body]
    omega
  · cases written

/-- What is read is the beginning of the topic, and what is behind it if that is all of the topic. -/
theorem readBody?_body (id : UInt16) : ∃ rest,
    o.readBody? (o.body id) = some ((Bytes.ofText o.topic).take (Bytes.wrapped o.topic), rest) ∧
      ((Bytes.ofText o.topic).length ≤ 65535 → rest = o.tail) := by
  cases o with
  | publish m qos retain =>
    cases qos with
    | atMostOnce =>
      exact ⟨_, Bytes.takeSized?_append .., fun short => Bytes.drop_wrapped_append short _⟩
    | atLeastOnce | exactlyOnce =>
      obtain ⟨n, rest, found, same⟩ := Bytes.takeUInt16?_drop_wrapped m.topic id m.payload
      refine ⟨rest, ?_, same⟩
      simp only [readBody?, body, Bytes.takeSized?_append, found, Option.bind_eq_bind,
        Option.bind_some]
      rfl
  | subscribe | unsubscribe =>
    rw [readBody?, body, Bytes.takeUInt16?_ofUInt16_append]
    exact ⟨_, Bytes.takeSized?_append .., fun short => Bytes.drop_wrapped_append short _⟩

/-- A frame that was written is read as its body, with nothing behind it. -/
theorem read?_write {kind : UInt8} {body frame : Bytes} (written : Frame.write kind body = some frame) :
    o.read? frame = o.readBody? body := by
  obtain ⟨found, shape, -⟩ := Frame.readHeader_write written []
  rw [List.append_nil] at found
  have short : body.length ≤ Frame.maxRemaining := by
    unfold Frame.write at written
    split at written
    · assumption
    · cases written
  have inner : frame.drop (1 + (Frame.lengthBytes body.length).length) = body := by
    rw [shape, Nat.add_comm, List.drop_succ_cons, List.drop_left]
  have split := Frame.split_of_header Frame.maxRemaining found short (by
    dsimp only
    rw [shape, List.length_cons, List.length_append]
    omega)
  rw [inner, List.take_length, List.drop_length] at split
  rw [read?, split]

/-! ## What becomes of an operation -/

/-- How an operation ends for a client that has an id for it. Nothing but its own packet is queued. -/
inductive Ends (o : Operation) (c : Client) : Except Fault Unit × Client → Prop
  | refused (id lastId : UInt16) (nonzero : id ≠ 0) (unwritten : (o.packet id).encode = none) :
      Ends o c (.error .malformedPacket, { c with engine := { c.engine with lastId } })
  | full (id : UInt16) (e : Engine) {frame : Bytes} (nonzero : id ≠ 0)
      (written : (o.packet id).encode = some frame)
      (full : c.engine.sendCapacity < c.engine.outgoing.size + frame.length) :
      Ends o c (.error .sendBufferFull, { c with engine := e })
  | queued (id : UInt16) (e : Engine) {frame : Bytes} (nonzero : id ≠ 0)
      (written : (o.packet id).encode = some frame)
      (fits : c.engine.outgoing.size + frame.length ≤ c.engine.sendCapacity)
      (outgoing : e.outgoing = c.engine.outgoing ++ frame) :
      Ends o c (.ok (), { c with engine := e })

theorem ends_queue : o.Ends c (Client.lift (Engine.queue (o.packet 1)) c) := by
  unfold Client.lift
  cases written : (o.packet 1).encode with
  | none =>
    rw [Engine.queue, written]
    exact .refused 1 c.engine.lastId (by decide) written
  | some frame =>
    rcases Nat.lt_or_ge c.engine.sendCapacity (c.engine.outgoing.size + frame.length) with full | fits
    · rw [Engine.queue_of_full written full]
      exact .full 1 _ (by decide) written full
    · rw [Engine.queue_of_room written fits]
      exact .queued 1 _ (by decide) written fits rfl

/-- The id that was taken for a packet that is refused is free again. -/
theorem ends_started (awaited : Awaited) (room : c.inflight < Pending.capacity) :
    o.Ends c (Client.lift (do
      let id ← Engine.takeId
      Engine.queueTracked (o.packet id) id awaited) c) := by
  obtain ⟨n, -, -, free, taken⟩ := Engine.takeId_of_room room
  generalize Pending.tried c.engine.lastId n = id at free taken
  have nonzero : id ≠ 0 := fun zero => free (.inl zero)
  unfold Client.lift
  rw [Engine.run_bind, taken]
  dsimp only
  cases written : (o.packet id).encode with
  | none =>
    have unchanged := Pending.erase_insert (fun mem => free (.inr mem)) awaited
    rw [Engine.queueTracked, Engine.queue, written]
    dsimp only
    rw [unchanged]
    exact .refused id id nonzero written
  | some frame =>
    rcases Nat.lt_or_ge c.engine.sendCapacity (c.engine.outgoing.size + frame.length) with full | fits
    · have queued := Engine.queueTracked_of_full (e := { c.engine with lastId := id }) written full id
        awaited
      rw [queued]
      exact .full id _ nonzero written full
    · have queued := Engine.queueTracked_of_room (e := { c.engine with lastId := id }) written fits id
        awaited
      rw [queued]
      exact .queued id _ nonzero written fits rfl

theorem ends_ask (ready : c.Ready) (room : c.inflight < Pending.capacity) : o.Ends c (o.ask c) := by
  have skip : ∀ next : EngineM Unit,
      Client.lift (do Engine.ready; next) c = Client.lift next c := by
    intro next
    unfold Client.lift
    rw [Engine.run_bind, Engine.ready_eq, ready.whole, ready.connected]
    rfl
  cases o with
  | publish m qos retain =>
    refine Eq.subst (skip _).symm ?_
    cases qos with
    | atMostOnce => exact ends_queue
    | atLeastOnce => exact ends_started .puback room
    | exactlyOnce => exact ends_started .pubrec room
  | subscribe topic qos =>
    refine Eq.subst (skip _).symm ?_
    exact ends_started .suback room
  | unsubscribe topic =>
    refine Eq.subst (skip _).symm ?_
    exact ends_started .unsuback room

end Operation

/-- An operation is refused just if its body is longer than a frame can say, and then nothing is queued.
Otherwise it succeeds if there is room. Then the topic that is read out of the frame ends where its length
wraps, and what is read is what was given just if that length fits into two bytes. -/
theorem refused_iff_body_too_long {c : Client} (ready : c.Ready) (room : c.inflight < Pending.capacity)
    (o : Operation) :
    ((o.ask c).1 = .error .malformedPacket ↔ Frame.maxRemaining < o.remaining) ∧
      (Frame.maxRemaining < o.remaining →
        ∃ lastId, (o.ask c).2 = { c with engine := { c.engine with lastId } }) ∧
      ((o.ask c).1 = .ok () ↔ o.remaining ≤ Frame.maxRemaining ∧
        c.engine.outgoing.size + (1 + (Frame.lengthBytes o.remaining).length + o.remaining) ≤
          c.engine.sendCapacity) ∧
      ((o.ask c).1 = .ok () → ∃ (frame rest : Bytes),
        (o.ask c).2.engine.outgoing = c.engine.outgoing ++ frame ∧
          o.read? frame = some ((Bytes.ofText o.topic).take (Bytes.wrapped o.topic), rest) ∧
          (o.read? frame = some (Bytes.ofText o.topic, o.tail) ↔
            (Bytes.ofText o.topic).length ≤ 65535)) := by
  have ends := o.ends_ask ready room
  generalize o.ask c = r at ends
  cases ends with
  | refused id lastId nonzero unwritten =>
    have long := Operation.remaining_of_unwritten nonzero unwritten
    refine ⟨iff_of_true rfl long, fun _ => ⟨lastId, rfl⟩, ?_, nofun⟩
    exact iff_of_false nofun fun fits => absurd long (Nat.not_lt.2 fits.1)
  | full id e nonzero written full =>
    obtain ⟨short, size⟩ := Operation.length_of_written nonzero written
    refine ⟨iff_of_false nofun (Nat.not_lt.2 short), fun long => absurd long (Nat.not_lt.2 short), ?_,
      nofun⟩
    exact iff_of_false nofun fun fits => absurd full (Nat.not_lt.2 (size ▸ fits.2))
  | @queued id e frame nonzero written fits outgoing =>
    obtain ⟨short, size⟩ := Operation.length_of_written nonzero written
    refine ⟨iff_of_false nofun (Nat.not_lt.2 short), fun long => absurd long (Nat.not_lt.2 short),
      iff_of_true rfl ⟨short, size ▸ fits⟩, fun _ => ?_⟩
    obtain ⟨rest, read, whole⟩ := o.readBody?_body id
    rw [Operation.encode_packet nonzero] at written
    rw [← Operation.read?_write written] at read
    refine ⟨frame, rest, outgoing, read, ?_, ?_⟩
    · intro same
      rw [read, Option.some.injEq, Prod.mk.injEq] at same
      exact (Bytes.take_wrapped_iff _).1 same.1
    · intro short
      rw [read, whole short, (Bytes.take_wrapped_iff _).2 short]

theorem Bytes.length_letters (n : Nat) :
    (ofText (String.ofList (List.replicate n 'a'))).length = n := by
  rw [length_ofText]
  induction n with
  | zero => rfl
  | succ n ih =>
    rw [List.replicate_succ', String.ofList_append, String.utf8ByteSize_append, ih]
    rfl

/-- A payload that is too long is refused. A topic that is too long is queued, and is read as empty. -/
theorem refused_iff_body_too_long_letters :
    let c : Client := {
      engine := { sendCapacity := 100000, connected := true, lastSent := 0, listening := false }
      recvCapacity := 100 }
    let letters := String.ofList (List.replicate 65536 'a')
    let heavy (payload : Bytes) : Operation := .publish ⟨"t", payload⟩ .atMostOnce false
    let long : Operation := .publish ⟨letters, [104, 105]⟩ .atMostOnce false
    (∃ payload, ((heavy payload).ask c).1 = .error .malformedPacket) ∧ (long.ask c).1 = .ok () ∧ ∃ frame rest : Bytes,
      (long.ask c).2.engine.outgoing = (#[] : Array UInt8) ++ frame ∧ long.read? frame = some ([], rest) ∧
        long.read? frame ≠ some (Bytes.ofText letters, [104, 105]) := by
  intro c letters heavy long
  have ready : c.Ready := ⟨rfl, rfl⟩
  have room : c.inflight < Pending.capacity := by decide
  have length : (Bytes.ofText letters).length = 65536 := by
    exact Bytes.length_letters 65536
  obtain ⟨payload, size⟩ : ∃ payload : Bytes, payload.length = Frame.maxRemaining :=
    ⟨List.replicate _ 0, List.length_replicate⟩
  have tooLong : Frame.maxRemaining < (heavy payload).remaining := by
    simp only [heavy, Operation.remaining, Publish.remaining, size]
    omega
  have remaining : long.remaining = 65540 := by
    simp only [long, Operation.remaining, Publish.remaining, length, if_true, List.length_cons,
      List.length_nil]
  obtain ⟨sends, reads⟩ := (refused_iff_body_too_long ready room long).2.2
  have sent := sends.2 (by
    rw [remaining]
    refine ⟨by decide, ?_⟩
    cbv)
  obtain ⟨frame, rest, outgoing, read, whole⟩ := reads sent
  have refused := (refused_iff_body_too_long ready room (heavy payload)).1.2 tooLong
  refine ⟨⟨payload, refused⟩, sent, frame, rest, outgoing, ?_, ?_⟩
  · rw [read, Bytes.wrapped]
    change some ((Bytes.ofText letters).take ((Bytes.ofText letters).length % 65536), rest) = _
    rw [length]
    rfl
  · intro same
    have short : (Bytes.ofText letters).length ≤ 65535 := whole.1 same
    omega

end MqttLink
