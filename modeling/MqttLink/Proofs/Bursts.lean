import Mathlib.Data.List.Forall2
import MqttLink.Proofs.Willing

/-!
# Bursts

All that there is to read is taken before anything is written, so the answers to it are in the queue
together. What a client can take of it at once depends on how much the queue holds.
-/

namespace MqttLink

/-! ## What is taken whatever came before -/

/-- A packet that belongs to no exchange of the client that takes it. -/
inductive Packet.Unasked : Packet → Prop
  | publish (p : Publish) : Unasked (.publish p)
  | pubrel (id : UInt16) : Unasked (.pubrel id)

def Packet.message? : Packet → Option Message
  | publish p => some ⟨p.topic, p.payload⟩
  | _ => none

namespace Packet

variable {p a : Packet}

/-- An answer is four bytes long. -/
theorem encode_answer (h : p.answer? = some a) :
    ∃ frame, a.encode = some frame ∧ frame.length = 4 := by
  have short : ∀ kind id, ∃ frame,
      Frame.write kind (Bytes.ofUInt16 id) = some frame ∧ frame.length = 4 := by
    intro kind id
    refine ⟨[kind, 2] ++ Bytes.ofUInt16 id, ?_, rfl⟩
    simp [Frame.write, Frame.lengthBytes, Frame.maxRemaining, Bytes.ofUInt16]
  cases p with
  | publish p =>
    obtain ⟨topic, payload, qos, id, retain, dup⟩ := p
    cases qos <;> cases h <;> exact short _ _
  | pubrec id | pubrel id =>
    cases h
    exact short _ _
  | _ => cases h

/-- What a client answers to some packets. -/
def answers (ps : List Packet) : List Packet := ps.filterMap answer?

@[simp] theorem answers_nil : answers [] = [] := rfl

theorem answers_cons_of_some (answered : p.answer? = some a) (ps : List Packet) :
    answers (p :: ps) = a :: answers ps :=
  List.filterMap_cons_some answered

theorem answers_cons_of_none (unanswered : p.answer? = none) (ps : List Packet) :
    answers (p :: ps) = answers ps :=
  List.filterMap_cons_none unanswered

end Packet

open Packet (answers)

namespace Engine

variable {e : Engine} {p : Packet} {ps : List Packet}

/-- All messages that have been handed over once these packets are taken too. -/
def handedAfter (ps : List Packet) (e : Engine) : Array Message :=
  if e.listening then e.handed ++ ps.filterMap Packet.message? else e.handed

theorem handedAfter_nil (e : Engine) : e.handedAfter [] = e.handed := by
  simp [handedAfter]

theorem handedAfter_cons (p : Packet) (ps : List Packet) (e : Engine) (outgoing : Array UInt8) :
    handedAfter ps { e with handed := e.handedAfter [p], outgoing } = e.handedAfter (p :: ps) := by
  unfold handedAfter
  dsimp only
  split
  · cases h : p.message? <;> simp [h]
  · rfl

/-- Such a packet is handed over and answered. -/
theorem takePacket_unasked (h : p.Unasked) (e : Engine) : takePacket p e =
    match p.answer? with
    | some a => queue a { e with handed := e.handedAfter [p] }
    | none => .ok () { e with handed := e.handedAfter [p] } := by
  cases h with
  | publish p =>
    have handed : hand ⟨p.topic, p.payload⟩ e =
        .ok () { e with handed := e.handedAfter [.publish p] } := by
      unfold hand handedAfter
      rw [run_modify]
      split <;> simp [Packet.message?]
    change takePublish p e = _
    unfold takePublish
    rw [run_bind, handed]
    obtain ⟨topic, payload, qos, id, retain, dup⟩ := p
    cases qos <;> rfl
  | pubrel id =>
    have same : e.handedAfter [.pubrel id] = e.handed := by
      simp [handedAfter, List.filterMap_cons, Packet.message?]
    rw [same]
    rfl

/-- The answers fit, one behind the other. -/
theorem takePackets_of_room (unasked : ∀ p ∈ ps, p.Unasked)
    (room : e.outgoing.size + 4 * (answers ps).length ≤ e.sendCapacity) :
    takePackets ps e = .ok () { e with
      handed := e.handedAfter ps
      outgoing := e.outgoing ++ Packet.wire (answers ps) } := by
  -- What is queued and what is still to come always take the same room together.
  induction ps generalizing e with
  | nil =>
    rw [handedAfter_nil]
    simp
    rfl
  | cons p ps ih =>
    have first := takePacket_unasked (unasked p List.mem_cons_self) e
    have rest : ∀ p ∈ ps, p.Unasked := fun p mem => unasked p (List.mem_cons_of_mem _ mem)
    rw [takePackets_cons, first]
    cases answer : p.answer? with
    | none =>
      rw [Packet.answers_cons_of_none answer] at room ⊢
      refine (ih (e := { e with handed := e.handedAfter [p] }) rest room).trans ?_
      rw [handedAfter_cons p ps e e.outgoing]
    | some a =>
      obtain ⟨frame, encoded, length⟩ := Packet.encode_answer answer
      rw [Packet.answers_cons_of_some answer] at room ⊢
      rw [List.length_cons] at room
      have fits : (e.outgoing ++ frame).size + 4 * (answers ps).length ≤ e.sendCapacity := by
        rw [Bytes.size_append]
        omega
      dsimp only
      rw [queue_of_room encoded (by dsimp only; omega)]
      refine (ih (e := { e with
        handed := e.handedAfter [p]
        outgoing := e.outgoing ++ frame }) rest fits).trans ?_
      rw [handedAfter_cons p ps e]
      simp [Packet.wire, encoded, Bytes.append_append]

/-- The first answer that does not fit ends it. -/
theorem takePackets_of_full (unasked : ∀ p ∈ ps, p.Unasked) (held : e.outgoing.size ≤ e.sendCapacity)
    (full : e.sendCapacity < e.outgoing.size + 4 * (answers ps).length) :
    ∃ e', takePackets ps e = .error .sendBufferFull e' ∧ e'.fault = some .sendBufferFull := by
  induction ps generalizing e with
  | nil =>
    simp only [Packet.answers_nil, List.length_nil] at full
    omega
  | cons p ps ih =>
    have first := takePacket_unasked (unasked p List.mem_cons_self) e
    have rest : ∀ p ∈ ps, p.Unasked := fun p mem => unasked p (List.mem_cons_of_mem _ mem)
    rw [takePackets_cons, first]
    cases answer : p.answer? with
    | none =>
      rw [Packet.answers_cons_of_none answer] at full
      exact ih rest held full
    | some a =>
      obtain ⟨frame, encoded, length⟩ := Packet.encode_answer answer
      rw [Packet.answers_cons_of_some answer, List.length_cons] at full
      dsimp only
      by_cases room : e.outgoing.size + 4 ≤ e.sendCapacity
      · -- This answer fits, so it is one of the later ones that does not.
        rw [queue_of_room encoded (by dsimp only; omega)]
        apply ih rest
        · dsimp only
          rw [Bytes.size_append]
          omega
        · dsimp only
          rw [Bytes.size_append]
          omega
      · rw [queue_of_full encoded (by dsimp only; omega)]
        exact ⟨_, rfl, rfl⟩

end Engine

theorem Contents.of_frames {limit : Nat} {frames : List Bytes} {ps : List Packet}
    (each : List.Forall₂ (fun frame p => Next.of limit frame = .packet p []) frames ps) :
    Contents.of limit frames.flatten = ⟨ps, none, []⟩ := by
  induction each with
  | nil => exact of_incomplete rfl
  | @cons frame p frames ps first rest ih =>
    have found := Next.of_append_packet first frames.flatten
    rw [List.nil_append] at found
    rw [List.flatten_cons, of_packet found, ih]

/-! ## At once, or one by one -/

/-- A frame that fits, and that calls for this answer whatever came before it. -/
def Calls (limit : Nat) (frame : Bytes) (answer : Packet) : Prop :=
  ∃ p, Next.of limit frame = .packet p [] ∧ p.Unasked ∧ p.answer? = some answer

theorem Calls.packets {limit : Nat} {frames : List Bytes} {replies : List Packet}
    (calls : List.Forall₂ (Calls limit) frames replies) :
    ∃ ps, List.Forall₂ (fun frame p => Next.of limit frame = .packet p []) frames ps ∧
      (∀ p ∈ ps, p.Unasked) ∧ answers ps = replies := by
  induction calls with
  | nil => exact ⟨[], .nil, by simp, rfl⟩
  | @cons frame reply frames replies first rest ih =>
    obtain ⟨p, found, unasked, answered⟩ := first
    obtain ⟨ps, founds, all, answereds⟩ := ih
    refine ⟨p :: ps, .cons found founds, ?_, ?_⟩
    · rintro q mem
      rcases List.mem_cons.1 mem with rfl | mem
      · exact unasked
      · exact all q mem
    · rw [Packet.answers_cons_of_some answered, answereds]

namespace Client

variable {σ : Type} [ByteStream σ] {c c' : Client} {s s' : σ} {frames : List Bytes}
  {replies : List Packet}

/-- With what is left from before these bytes can be read, and after them nothing before the far side
does something. -/
def CanRead (c : Client) (s : σ) (bytes : Bytes) : Prop :=
  (ByteStream.readAll s).2.1 = .blocked ∧ c.received ++ (ByteStream.readAll s).1.flatten = bytes

theorem CanRead.hearing {ps : List Packet} (reads : c.CanRead s frames.flatten)
    (each : List.Forall₂ (fun frame p => Next.of c.recvCapacity frame = .packet p []) frames ps) :
    c.Hearing s ps [] where
  goesOn := reads.1
  contents := by rw [reads.2, Contents.of_frames each]

/-- A client that has nothing to write. -/
structure Clear (c : Client) : Prop extends c.Ready where
  outgoing : c.engine.outgoing = #[]

/-- What has come of a burst: everything is answered, and the client is as clear as before. -/
structure Answered (replies : List Packet) (c : Client) (s : σ) (c' : Client) (s' : σ) : Prop where
  clear : c'.Clear
  sendCapacity : c'.engine.sendCapacity = c.engine.sendCapacity
  recvCapacity : c'.recvCapacity = c.recvCapacity
  sent : ByteStream.sent s' = ByteStream.sent s ++ Packet.wire replies

theorem Clear.sync_of_room (clear : c.Clear)
    (calls : List.Forall₂ (Calls c.recvCapacity) frames replies) (willing : ByteStream.Willing s)
    (reads : c.CanRead s frames.flatten) {now : Nat} (rests : c.engine.Rests now)
    (room : 4 * frames.length ≤ c.engine.sendCapacity) :
    (c.sync now s).1 = .ok () ∧ Answered replies c s (c.sync now s).2.1 (c.sync now s).2.2 := by
  obtain ⟨ps, each, unasked, answered⟩ := Calls.packets calls
  have took := Engine.takePackets_of_room (e := c.engine) unasked (by
    rw [answered, ← calls.length_eq, clear.outgoing, List.size_toArray, List.length_nil]
    omega)
  obtain ⟨lastSent, s', synced, -, sent, -⟩ :=
    clear.toReady.sync willing (reads.hearing each) took rests
  rw [synced]
  refine ⟨rfl, ⟨⟨clear.whole, clear.connected⟩, rfl⟩, rfl, rfl, ?_⟩
  rw [sent, answered, clear.outgoing]
  simp

theorem Clear.sync_of_full (clear : c.Clear)
    (calls : List.Forall₂ (Calls c.recvCapacity) frames replies)
    (reads : c.CanRead s frames.flatten) (now : Nat)
    (full : c.engine.sendCapacity < 4 * frames.length) :
    (c.sync now s).1 = .error .sendBufferFull ∧
      (c.sync now s).2.1.fault = some .sendBufferFull ∧
      ByteStream.sent (c.sync now s).2.2 = ByteStream.sent s := by
  obtain ⟨ps, each, unasked, answered⟩ := Calls.packets calls
  obtain ⟨e, failed, broken⟩ := Engine.takePackets_of_full (e := c.engine) unasked
    (by simp [clear.outgoing])
    (by rw [answered, ← calls.length_eq]; omega)
  obtain ⟨error, engine, sent⟩ := clear.toReady.sync_error (reads.hearing each) failed now
  exact ⟨error, (congrArg Engine.fault engine).trans broken, sent⟩

/-- One exchange for each frame. In between the far side does what it likes, but the stream goes along. -/
inductive OneByOne : Client → σ → List Bytes → Client → σ → Prop
  | done (c : Client) (s : σ) : OneByOne c s [] c s
  | next {c c' : Client} {s t s' : σ} {frame : Bytes} {frames : List Bytes} (now : Nat)
      (kept : ByteStream.sent t = ByteStream.sent s) (willing : ByteStream.Willing t)
      (reads : c.CanRead t frame) (rests : c.engine.Rests now)
      (rest : OneByOne (c.sync now t).2.1 (c.sync now t).2.2 frames c' s') :
      OneByOne c s (frame :: frames) c' s'

theorem OneByOne.answered (run : OneByOne c s frames c' s') (clear : c.Clear)
    (room : 4 ≤ c.engine.sendCapacity)
    (calls : List.Forall₂ (Calls c.recvCapacity) frames replies) : Answered replies c s c' s' := by
  induction run generalizing replies with
  | done c s =>
    cases calls
    exact ⟨clear, rfl, rfl, by simp⟩
  | @next c c' s s1 s' frame frames now kept willing reads rests rest ih =>
    cases calls with
    | @cons _ reply _ replies first calls =>
      -- One frame is a burst of one.
      have single : c.CanRead s1 [frame].flatten := by simpa using reads
      obtain ⟨-, here⟩ := clear.sync_of_room (.cons first .nil) willing single rests room
      have there := ih here.clear (here.sendCapacity ▸ room) (here.recvCapacity ▸ calls)
      refine ⟨there.clear, there.sendCapacity.trans here.sendCapacity,
        there.recvCapacity.trans here.recvCapacity, ?_⟩
      rw [there.sent, here.sent, kept, List.append_assoc, ← Packet.wire_append]
      rfl

/-- A burst is answered if the queue holds the answers to all of it, and otherwise nothing of it is.
Frame by frame every burst is answered. -/
theorem burst_answered_iff_fits (clear : c.Clear)
    (calls : List.Forall₂ (Calls c.recvCapacity) frames replies) :
    (∀ (s : σ) (now : Nat), ByteStream.Willing s → c.CanRead s frames.flatten → c.engine.Rests now →
      if 4 * frames.length ≤ c.engine.sendCapacity then
        (c.sync now s).1 = .ok () ∧ Answered replies c s (c.sync now s).2.1 (c.sync now s).2.2
      else
        (c.sync now s).1 = .error .sendBufferFull ∧
          (c.sync now s).2.1.fault = some .sendBufferFull ∧
          ByteStream.sent (c.sync now s).2.2 = ByteStream.sent s) ∧
      (4 ≤ c.engine.sendCapacity → ∀ (s s' : σ) (c' : Client),
        OneByOne c s frames c' s' → Answered replies c s c' s') := by
  constructor
  · intro s now willing reads rests
    split
    · rename_i room
      exact clear.sync_of_room calls willing reads rests room
    · rename_i full
      exact clear.sync_of_full calls reads now (Nat.not_le.1 full)
  · intro room s s' c' run
    exact run.answered clear room calls

/-- Two answers are too many for a queue of four bytes, unless one of them leaves first. -/
theorem burst_answered_iff_fits_two :
    let c : Client := ⟨{ sendCapacity := 4, connected := true, lastSent := 0, listening := true }, 16, []⟩
    let first : Bytes := [0x32, 5, 0, 1, 0x61, 0, 1]
    let second : Bytes := [0x62, 2, 0, 2]
    (c.sync 0 ({ inbox := [first ++ second] } : Link)).1 = .error .sendBufferFull ∧
      ∃ (c' : Client) (l' : Link), c'.Clear ∧ l'.sent = [0x40, 2, 0, 1, 0x70, 2, 0, 2] := by
  intro c first second
  have clear : c.Clear := ⟨⟨rfl, rfl⟩, rfl⟩
  have calls : List.Forall₂ (Calls c.recvCapacity) [first, second] [.puback 1, .pubcomp 2] :=
    .cons ⟨.publish ⟨"a", [], .atLeastOnce, 1, false, false⟩, by cbv, .publish _, rfl⟩
      (.cons ⟨.pubrel 2, by cbv, .pubrel _, rfl⟩ .nil)
  have willing : ∀ inbox accepted, ByteStream.Willing ({ inbox, accepted } : Link) :=
    fun _ _ => Link.Willing.willing ⟨rfl, rfl, rfl, rfl, rfl, rfl⟩
  have cut := burst_answered_iff_fits (σ := Link) clear calls
  constructor
  · have full := cut.1 { inbox := [first ++ second] } 0 (willing _ _) ⟨by cbv, by cbv⟩ (.inl rfl)
    rw [if_neg (by decide)] at full
    exact full.1
  · have run : Client.OneByOne c ({} : Link) [first, second] _ _ :=
      .next (t := { inbox := [first] }) 0 rfl (willing _ _) ⟨by cbv, by cbv⟩ (.inl rfl)
        (.next (t := { inbox := [second], accepted := #[0x40, 2, 0, 1] }) 0 (by cbv) (willing _ _)
          ⟨by cbv, by cbv⟩ (.inl (by cbv)) (.done _ _))
    have answered := cut.2 (Nat.le_refl 4) _ _ _ run
    exact ⟨_, _, answered.clear, answered.sent.trans (by cbv)⟩

end Client

end MqttLink
