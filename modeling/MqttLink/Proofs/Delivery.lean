import MqttLink.Proofs.Exchanges

/-!
# Delivery

Two clients are joined back to back. What one publishes the other one gets, once and in order, and three
exchanges of the one with two of the other in between end all exchanges about it.
-/

namespace MqttLink

open Packet (answers exchanges)

/-! ## What is sent, and what comes back -/

namespace Posting

variable {p : Posting} {q : Packet} {ps : List Posting} {qs : List Packet}

theorem Sends.unasked (h : p.Sends q) : q.Unasked := by
  obtain ⟨id, rfl, -⟩ := h
  exact .publish _

theorem Sends.legible (h : p.Sends q) (short : (Bytes.ofText p.message.topic).length ≤ 65535) :
    q.Legible := by
  obtain ⟨id, rfl, -⟩ := h
  exact .publish ⟨short, fun once => if_pos once⟩

theorem Sends.message (h : p.Sends q) : q.message? = some p.message := by
  obtain ⟨id, rfl, -⟩ := h
  rfl

theorem Sends.length_answers (h : p.Sends q) :
    (answers [q]).length = if p.Tracked then 1 else 0 := by
  obtain ⟨id, rfl, -⟩ := h
  obtain ⟨message, qos, retain⟩ := p
  cases qos <;> rfl

theorem Sends.length_releases (h : p.Sends q) :
    (answers (answers [q])).length = if p.qos = .exactlyOnce then 1 else 0 := by
  obtain ⟨id, rfl, -⟩ := h
  obtain ⟨message, qos, retain⟩ := p
  cases qos <;> rfl

/-- What there is in a frame besides the topic and the payload. -/
theorem length_frame_le {id : UInt16} {frame : Bytes} (encoded : (p.packet id).encode = some frame) :
    frame.length ≤ 9 + (Bytes.ofText p.message.topic).length + p.message.payload.length := by
  obtain ⟨body, built, written⟩ := Option.bind_eq_some_iff.1 encoded
  have bound := Frame.length_write_le written
  have shape : body.length ≤ 4 + (Bytes.ofText p.message.topic).length + p.message.payload.length := by
    unfold Publish.body? Bytes.ofSizedText Bytes.ofUInt16 at built
    split at built
    · cases built
      simp only [List.length_append, List.length_cons, List.length_nil]
      omega
    · split at built
      · cases built
      · cases built
        simp only [List.length_append, List.length_cons, List.length_nil]
        omega
  omega

theorem messages (all : List.Forall₂ Sends ps qs) : qs.filterMap Packet.message? = ps.map message := by
  induction all with
  | nil => rfl
  | cons first _ ih => rw [List.filterMap_cons_some first.message, List.map_cons, ih]

theorem length_answers (all : List.Forall₂ Sends ps qs) :
    (answers qs).length = ps.countP (decide ·.Tracked) := by
  induction all with
  | nil => rfl
  | cons first _ ih =>
    rw [Packet.answers_cons, List.length_append, first.length_answers, ih, List.countP_cons]
    split <;> simp_all [Nat.add_comm]

theorem length_releases (all : List.Forall₂ Sends ps qs) :
    (answers (answers qs)).length = ps.countP (·.qos = .exactlyOnce) := by
  induction all with
  | nil => rfl
  | @cons p q ps qs first _ ih =>
    have split : answers (answers (q :: qs)) = answers (answers [q]) ++ answers (answers qs) := by
      rw [Packet.answers_cons]
      exact List.filterMap_append ..
    rw [split, List.length_append, first.length_releases, ih, List.countP_cons]
    split <;> simp_all [Nat.add_comm]

theorem exists_sends (all : List.Forall₂ Sends ps qs) (mem : q ∈ qs) : ∃ p ∈ ps, p.Sends q := by
  induction all with
  | nil => cases mem
  | @cons p _ ps _ first _ ih =>
    rcases List.mem_cons.1 mem with rfl | mem
    · exact ⟨p, List.mem_cons_self, first⟩
    · obtain ⟨p', mem', sends⟩ := ih mem
      exact ⟨p', List.mem_cons_of_mem _ mem', sends⟩

end Posting

/-! ## Taking turns -/

/-- A stream that goes along, and that has just these bytes to read in whatever pieces. -/
structure ByteStream.Brings {σ : Type} [ByteStream σ] (bytes : Bytes) (s : σ) : Prop where
  willing : Willing s
  goesOn : (readAll s).2.1 = .blocked
  bytes : (readAll s).1.flatten = bytes

/-- It is time for no ping from `early` to `stop`, even if all that is sent is sent at `early`. -/
def Engine.Calm (early stop : Nat) (e : Engine) : Prop :=
  e.keepAlive = 0 ∨
    e.pingSent = none ∧ stop < e.lastSent + e.keepAlive ∧ stop < early + e.keepAlive

theorem Link.brings {inbox : List Bytes} {bytes : Bytes} (whole : inbox.flatten = bytes) :
    ByteStream.Brings bytes ({ inbox } : Link) := by
  have willing : Link.Willing { inbox } := ⟨rfl, rfl, rfl, rfl, rfl, rfl⟩
  have all := Link.readAll_eq { inbox }
  exact ⟨willing.willing, by rw [all, willing.last_eq], by rw [all, whole]⟩

namespace Client

/-- A client that has taken all it has read. -/
structure Peer (early stop : Nat) (c : Client) : Prop extends c.Ready where
  received : c.received = []
  calm : c.engine.Calm early stop

variable {σ : Type} [ByteStream σ]

/-- What an exchange writes. -/
def written (now : Nat) (c : Client) (s : σ) : Bytes :=
  (ByteStream.sent (c.sync now s).2.2).drop (ByteStream.sent s).length

variable {early stop now : Nat} {c : Client} {s : σ} {ps : List Packet} {e : Engine}

theorem Peer.turn (peer : c.Peer early stop) (time : early ≤ now ∧ now ≤ stop)
    (brings : ByteStream.Brings (Packet.wire ps) s)
    (each : ∀ p ∈ ps, Next.of c.recvCapacity (p.encode.getD []) = .packet p [])
    (took : Engine.takePackets ps c.engine = .ok () e)
    (after : Peer early stop { c with engine := e }) :
    (c.sync now s).1 = .ok () ∧ c.written now s = e.outgoing.toList ∧
      ∃ lastSent, (c.sync now s).2.1 = { c with engine := { e with outgoing := #[], lastSent } } ∧
        Peer early stop (c.sync now s).2.1 := by
  have contents : Contents.of c.recvCapacity (Packet.wire ps) = ⟨ps, none, []⟩ := by
    rw [Packet.wire, List.flatMap_def]
    exact Contents.of_frames (List.forall₂_map_left_iff.2 (List.forall₂_same.2 each))
  have hears : c.Hearing s ps [] := by
    refine ⟨brings.goesOn, ?_⟩
    rw [peer.received, brings.bytes]
    exact contents
  have rests : e.Rests now := by
    rcases after.calm with off | ⟨unpinged, late, early'⟩
    · exact .inl off
    · refine .inr ?_
      rw [show e.pingSent = none from unpinged, Option.getD_none]
      dsimp only at late early'
      omega
  obtain ⟨lastSent, s', synced, -, sent, times⟩ :=
    peer.toReady.sync brings.willing hears took rests
  -- Nothing was left over before this turn, and nothing is after it.
  have same : { c with engine := { e with outgoing := #[], lastSent }, received := [] } =
      { c with engine := { e with outgoing := #[], lastSent } } := by
    rw [peer.received]
  unfold written
  rw [synced, same]
  refine ⟨rfl, ?_, lastSent, rfl, ⟨after.whole, after.connected⟩, peer.received, ?_⟩
  · rw [sent, List.drop_left]
  · rcases after.calm with off | ⟨unpinged, late, early'⟩
    · exact .inl off
    · refine .inr ⟨unpinged, ?_, early'⟩
      dsimp only at late early' ⊢
      omega

/-- A turn that brings messages or releases. -/
theorem Peer.turn_unasked (peer : c.Peer early stop) (clear : c.engine.outgoing = #[])
    (time : early ≤ now ∧ now ≤ stop) (brings : ByteStream.Brings (Packet.wire ps) s)
    (each : ∀ p ∈ ps, Next.of c.recvCapacity (p.encode.getD []) = .packet p [])
    (unasked : ∀ p ∈ ps, p.Unasked) (room : 4 * (answers ps).length ≤ c.engine.sendCapacity) :
    (c.sync now s).1 = .ok () ∧ c.written now s = Packet.wire (answers ps) ∧
      ∃ lastSent, (c.sync now s).2.1 = { c with engine := { c.engine with
          handed := c.engine.handedAfter ps, outgoing := #[], lastSent } } ∧
        Peer early stop (c.sync now s).2.1 := by
  have took := Engine.takePackets_of_room (e := c.engine) unasked (by simpa [clear] using room)
  obtain ⟨done, written, rest⟩ := peer.turn time brings each took
    ⟨⟨peer.whole, peer.connected⟩, peer.received, peer.calm⟩
  refine ⟨done, ?_, rest⟩
  rw [written, clear]
  simp [answers]

/-- A turn that brings the answers to all exchanges under way. -/
theorem Peer.turn_settling (peer : c.Peer early stop) (clear : c.engine.outgoing = #[])
    (time : early ≤ now ∧ now ≤ stop) (brings : ByteStream.Brings (Packet.wire ps) s)
    (each : ∀ p ∈ ps, Next.of c.recvCapacity (p.encode.getD []) = .packet p [])
    (settles : ∀ p ∈ ps, p.exchange?.isSome) (holds : c.engine.pending.Holds (exchanges ps))
    (room : 4 * (answers ps).length ≤ c.engine.sendCapacity) :
    (c.sync now s).1 = .ok () ∧ c.written now s = Packet.wire (answers ps) ∧
      ∃ pending lastSent, (c.sync now s).2.1 = { c with engine := { c.engine with
          pending, outgoing := #[], lastSent } } ∧
        pending.Holds (exchanges (answers (answers ps))) ∧ Peer early stop (c.sync now s).2.1 := by
  obtain ⟨pending, took, holds'⟩ := Engine.takePackets_settling (e := c.engine) [] settles
    (by rwa [List.append_nil]) (by simpa [clear] using room)
  obtain ⟨done, written, lastSent, rest⟩ := peer.turn time brings each took
    ⟨⟨peer.whole, peer.connected⟩, peer.received, peer.calm⟩
  refine ⟨done, ?_, pending, lastSent, rest.1, holds', rest.2⟩
  rw [written, clear]
  simp

end Client

/-- Two clients take turns. Each turn brings what was written in the turn before. -/
inductive Turns (σ : Type) [ByteStream σ] (early stop : Nat) :
    Client → Client → Bytes → List (Except Fault Unit) → Client → Client → Bytes → Prop
  | none (c d : Client) (bytes : Bytes) : Turns σ early stop c d bytes [] c d bytes
  | turn {c d c' d' : Client} {bytes bytes' : Bytes} {results : List (Except Fault Unit)} (now : Nat)
      (s : σ) (time : early ≤ now ∧ now ≤ stop) (brings : ByteStream.Brings bytes s)
      (rest : Turns σ early stop d (c.sync now s).2.1 (c.written now s) results c' d' bytes') :
      Turns σ early stop c d bytes ((c.sync now s).1 :: results) c' d' bytes'

/-- A client that has connected and done nothing since. -/
structure Client.Fresh (early stop : Nat) (c : Client) : Prop extends c.Peer early stop where
  outgoing : c.engine.outgoing = #[]
  pending : c.engine.pending = ∅

/-- Every frame on the way fits, and so does every batch of answers. -/
structure Posting.Fits (ps : List Posting) (a b : Client) : Prop where
  message : ∀ p ∈ ps, ∀ id frame, (p.packet id).encode = some frame → frame.length ≤ b.recvCapacity
  answer : ∀ p ∈ ps, p.Tracked → 4 ≤ a.recvCapacity
  release : ∀ p ∈ ps, p.qos = .exactlyOnce → 4 ≤ b.recvCapacity
  answerRoom : 4 * ps.countP (decide ·.Tracked) ≤ b.engine.sendCapacity
  releaseRoom : 4 * ps.countP (·.qos = .exactlyOnce) ≤ a.engine.sendCapacity

namespace Posting.Fits

variable {ps : List Posting} {qs : List Packet} {a b : Client} {q : Packet}

theorem next_message (fits : Fits ps a b) (all : List.Forall₂ Sends ps qs)
    (short : ∀ p ∈ ps, (Bytes.ofText p.message.topic).length ≤ 65535) (mem : q ∈ qs) :
    Next.of b.recvCapacity (q.encode.getD []) = .packet q [] := by
  obtain ⟨p, asked, sends⟩ := exists_sends all mem
  have legible := sends.legible (short p asked)
  obtain ⟨id, rfl, encodes⟩ := sends
  obtain ⟨frame, encoded⟩ := Option.isSome_iff_exists.1 encodes
  rw [encoded, Option.getD_some]
  exact legible.next encoded (fits.message p asked id frame encoded)

theorem next_answer {limit : Nat} {p : Packet} (answered : p.answer? = some q) (room : 4 ≤ limit) :
    Next.of limit (q.encode.getD []) = .packet q [] := by
  obtain ⟨frame, encoded, length⟩ := Packet.encode_answer answered
  rw [encoded, Option.getD_some]
  exact (Packet.legible_answer answered).next encoded (length ▸ room)

theorem exists_tracked (all : List.Forall₂ Sends ps qs) (mem : q ∈ Packet.answers qs) :
    ∃ p ∈ ps, p.Tracked := by
  obtain ⟨q', mem', answered⟩ := List.mem_filterMap.1 mem
  obtain ⟨p, asked, id, rfl, -⟩ := exists_sends all mem'
  refine ⟨p, asked, fun once => ?_⟩
  obtain ⟨message, qos, retain⟩ := p
  cases once
  cases answered

theorem exists_exactlyOnce (all : List.Forall₂ Sends ps qs)
    (mem : q ∈ Packet.answers (Packet.answers qs)) : ∃ p ∈ ps, p.qos = .exactlyOnce := by
  obtain ⟨q', mem', answered⟩ := List.mem_filterMap.1 mem
  obtain ⟨q'', mem'', answered'⟩ := List.mem_filterMap.1 mem'
  obtain ⟨p, asked, id, rfl, -⟩ := exists_sends all mem''
  refine ⟨p, asked, ?_⟩
  obtain ⟨message, qos, retain⟩ := p
  cases qos with
  | exactlyOnce => rfl
  | atMostOnce => cases answered'
  | atLeastOnce =>
    cases answered'
    cases answered

end Posting.Fits

/-- The four batches that go to and fro between two clients with these limits. -/
structure Packet.Course (limitA limitB : Nat) (qs : List Packet) : Prop where
  message : ∀ q ∈ qs, q.Unasked ∧ Next.of limitB (q.encode.getD []) = .packet q []
  answer : ∀ q ∈ answers qs, q.exchange?.isSome ∧
    Next.of limitA (q.encode.getD []) = .packet q []
  release : ∀ q ∈ answers (answers qs), q.Unasked ∧ q.message? = none ∧
    Next.of limitB (q.encode.getD []) = .packet q []
  completion : ∀ q ∈ answers (answers (answers qs)), q.exchange?.isSome ∧ q.answer? = none ∧
    Next.of limitA (q.encode.getD []) = .packet q []

theorem Posting.Fits.course {ps : List Posting} {qs : List Packet} {a b : Client}
    (fits : Fits ps a b) (all : List.Forall₂ Sends ps qs)
    (short : ∀ p ∈ ps, (Bytes.ofText p.message.topic).length ≤ 65535) :
    Packet.Course a.recvCapacity b.recvCapacity qs := by
  have message : ∀ q ∈ qs, q.Unasked := by
    intro q mem
    obtain ⟨p, -, sends⟩ := exists_sends all mem
    exact sends.unasked
  have answer : ∀ q ∈ answers qs, q.exchange?.isSome := by
    intro q mem
    obtain ⟨q', mem', answered⟩ := List.mem_filterMap.1 mem
    exact (message q' mem').answer answered
  have release : ∀ q ∈ answers (answers qs), q.Unasked ∧ q.message? = none := by
    intro q mem
    obtain ⟨q', mem', answered⟩ := List.mem_filterMap.1 mem
    exact ⟨Packet.unasked_answer (answer q' mem') answered, Packet.message?_answer answered⟩
  constructor
  case message => exact fun q mem => ⟨message q mem, fits.next_message all short mem⟩
  case answer =>
    intro q mem
    obtain ⟨q', -, answered⟩ := List.mem_filterMap.1 mem
    obtain ⟨p, asked, tracked⟩ := exists_tracked all mem
    exact ⟨answer q mem, next_answer answered (fits.answer p asked tracked)⟩
  case release =>
    intro q mem
    obtain ⟨q', -, answered⟩ := List.mem_filterMap.1 mem
    obtain ⟨p, asked, twice⟩ := exists_exactlyOnce all mem
    obtain ⟨unasked, silent⟩ := release q mem
    exact ⟨unasked, silent, next_answer answered (fits.release p asked twice)⟩
  case completion =>
    intro q mem
    obtain ⟨q', mem', answered⟩ := List.mem_filterMap.1 mem
    obtain ⟨p, asked, twice⟩ := exists_exactlyOnce all mem'
    obtain ⟨unasked, silent⟩ := release q' mem'
    have tracked : p.Tracked := by simp [Tracked, twice]
    exact ⟨unasked.answer answered, Packet.unasked_silent unasked silent answered,
      next_answer answered (fits.answer p asked tracked)⟩

open Posting (Fits) in
/-- After three turns of the one and two of the other everything has been delivered and nothing is left
to do. -/
theorem all_delivered {σ : Type} [ByteStream σ] {early stop : Nat} {a a' a'' b b' : Client}
    {ps : List Posting} {results : List (Except Fault Unit)} {left : Bytes}
    (freshA : a.Fresh early stop) (freshB : b.Fresh early stop) (listening : b.engine.listening = true)
    (short : ∀ p ∈ ps, (Bytes.ofText p.message.topic).length ≤ 65535) (fits : Fits ps a b)
    (published : Published a ps a') (turns : Turns σ early stop a' b [] results b' a'' left)
    (five : results.length = 5) :
    (∀ r ∈ results, r = .ok ()) ∧ b'.engine.handed = b.engine.handed ++ ps.map (·.message) ∧
      a''.inflight = 0 ∧ a''.fault = none ∧ b'.fault = none ∧ left = [] := by
  obtain ⟨qs, pending, lastId, sends, rfl, holds⟩ :=
    published.queued [] (freshA.pending ▸ .none)
  have peerA : Client.Peer early stop { a with engine := { a.engine with
      outgoing := a.engine.outgoing ++ Packet.wire qs, pending, lastId } } :=
    ⟨⟨freshA.whole, freshA.connected⟩, freshA.received, freshA.calm⟩
  have course := fits.course sends short
  have tracked := Posting.length_answers sends
  have released := Posting.length_releases sends
  have released_le : (answers (answers qs)).length ≤ (answers qs).length :=
    List.length_filterMap_le ..
  have completed_le : (answers (answers (answers qs))).length ≤ (answers (answers qs)).length :=
    List.length_filterMap_le ..
  have answerRoom := fits.answerRoom
  have releaseRoom := fits.releaseRoom
  -- The messages leave.
  cases turns with
  | none => cases five
  | turn now1 s1 time1 brings1 turns =>
  have brings1 : ByteStream.Brings (Packet.wire []) s1 := brings1
  obtain ⟨done1, written1, lastSent1, client1, peer1⟩ :=
    peerA.turn time1 brings1 (by simp) rfl peerA
  rw [written1, client1] at turns
  rw [client1] at peer1
  -- They are handed over and answered.
  cases turns with
  | none => cases five
  | turn now2 s2 time2 brings2 turns =>
  have brings2 : ByteStream.Brings (Packet.wire qs) s2 := by simpa [freshA.outgoing] using brings2
  obtain ⟨done2, written2, lastSent2, client2, peer2⟩ :=
    freshB.toPeer.turn_unasked freshB.outgoing time2 brings2 (fun q mem => (course.message q mem).2)
      (fun q mem => (course.message q mem).1) (by omega)
  rw [written2, client2] at turns
  rw [client2] at peer2
  -- What was to be delivered once at least is settled, and the rest is released.
  cases turns with
  | none => cases five
  | turn now3 s3 time3 brings3 turns =>
  obtain ⟨done3, written3, pending3, lastSent3, client3, holds3, peer3⟩ :=
    peer1.turn_settling rfl time3 brings3 (fun q mem => (course.answer q mem).2)
      (fun q mem => (course.answer q mem).1) holds (by dsimp only; omega)
  rw [written3, client3] at turns
  rw [client3] at peer3
  -- The releases are completed.
  cases turns with
  | none => cases five
  | turn now4 s4 time4 brings4 turns =>
  obtain ⟨done4, written4, lastSent4, client4, peer4⟩ :=
    peer2.turn_unasked rfl time4 brings4 (fun q mem => (course.release q mem).2.2)
      (fun q mem => (course.release q mem).1) (by dsimp only; omega)
  rw [written4, client4] at turns
  rw [client4] at peer4
  -- The last exchanges are settled, and nobody has anything to say any more.
  cases turns with
  | none => cases five
  | turn now5 s5 time5 brings5 turns =>
  have silent : answers (answers (answers (answers qs))) = [] :=
    List.filterMap_eq_nil_iff.2 fun q mem => (course.completion q mem).2.1
  obtain ⟨done5, written5, pending5, lastSent5, client5, holds5, peer5⟩ :=
    peer3.turn_settling rfl time5 brings5 (fun q mem => (course.completion q mem).2.2)
      (fun q mem => (course.completion q mem).1) holds3 (by simp [silent])
  rw [written5, client5, silent] at turns
  rw [client5] at peer5
  rw [silent] at holds5
  cases turns with
  | turn => cases five
  | none =>
  refine ⟨by simp [done1, done2, done3, done4, done5], ?_, ?_, peer5.whole, peer4.whole, rfl⟩
  · have quiet : (answers (answers qs)).filterMap Packet.message? = [] :=
      List.filterMap_eq_nil_iff.2 fun q mem => (course.release q mem).2.1
    simp [Engine.handedAfter, listening, quiet, Posting.messages sends]
  · have none_ : pending5 = ∅ := holds5.eq_empty
    simp [Client.inflight, none_]

/-- Three messages, one of each quality, come in pieces. -/
theorem all_delivered_three :
    let a : Client := ⟨{ sendCapacity := 64, connected := true, lastSent := 0, listening := false }, 64, []⟩
    let b : Client := ⟨{ sendCapacity := 64, connected := true, lastSent := 0, listening := true }, 64, []⟩
    let ps : List Posting := [⟨⟨"a", [1]⟩, .atMostOnce, false⟩, ⟨⟨"b", []⟩, .atLeastOnce, true⟩,
      ⟨⟨"c", [2]⟩, .exactlyOnce, false⟩]
    ∃ (a' a'' b' : Client) (results : List (Except Fault Unit)) (left : Bytes),
      Published a ps a' ∧ Turns Link 0 0 a' b [] results b' a'' left ∧ a'.inflight = 2 ∧
        a''.inflight = 0 ∧ b'.engine.handed = #[⟨"a", [1]⟩, ⟨"b", []⟩, ⟨"c", [2]⟩] := by
  intro a b ps
  have published : Published a ps _ := .more (by cbv) (.more (by cbv) (.more (by cbv) (.none _)))
  have freshA : a.Fresh 0 0 := ⟨⟨⟨rfl, rfl⟩, rfl, .inl rfl⟩, rfl, rfl⟩
  have freshB : b.Fresh 0 0 := ⟨⟨⟨rfl, rfl⟩, rfl, .inl rfl⟩, rfl, rfl⟩
  have small : ∀ p ∈ ps, (Bytes.ofText p.message.topic).length = 1 ∧ p.message.payload.length ≤ 1 := by
    rintro p mem
    obtain rfl | rfl | rfl : p = _ ∨ p = _ ∨ p = _ := by simpa [ps] using mem
    all_goals exact ⟨by cbv, by decide⟩
  have fits : Posting.Fits ps a b := by
    refine ⟨?_, fun _ _ _ => by decide, fun _ _ _ => by decide, by decide, by decide⟩
    rintro p mem id frame encoded
    have bound := Posting.length_frame_le encoded
    obtain ⟨topic, payload⟩ := small p mem
    change frame.length ≤ 64
    omega
  have turns : Turns Link 0 0 _ b [] [_, _, _, _, _] _ _ _ :=
    .turn (c := (((a.publish ⟨"a", [1]⟩ .atMostOnce false).2.publish ⟨"b", []⟩ .atLeastOnce true).2.publish
      ⟨"c", [2]⟩ .exactlyOnce false).2) 0 { inbox := [] } (by decide) (Link.brings (by cbv))
      (.turn 0 { inbox := [[0x30, 4, 0, 1], [0x61, 1, 0x33], [5, 0, 1, 0x62, 0, 1, 0x34, 6],
          [0, 1, 0x63, 0, 2, 2]] } (by decide) (Link.brings (by cbv))
        (.turn 0 { inbox := [[0x40], [2, 0, 1, 0x50, 2, 0], [2]] } (by decide) (Link.brings (by cbv))
          (.turn 0 { inbox := [[0x62, 2, 0], [2]] } (by decide) (Link.brings (by cbv))
            (.turn 0 { inbox := [[0x70, 2], [0, 2]] } (by decide) (Link.brings (by cbv))
              (.none _ _ _)))))
  obtain ⟨-, handed, settled, -⟩ := all_delivered freshA freshB rfl
    (fun p mem => (small p mem).1 ▸ by decide) fits published turns rfl
  exact ⟨_, _, _, _, _, published, turns, by cbv, settled, handed.trans (by cbv)⟩

end MqttLink
