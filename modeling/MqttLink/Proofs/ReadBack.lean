import MqttLink.Proofs.Decoding
import MqttLink.Proofs.Input

/-!
# Streams of packets

What one client writes about messages another one reads back, packet by packet, cut just where it was
joined. A frame that has not come to its end yet is left alone.
-/

namespace MqttLink

/-! ## Packets that have a frame -/

/-- What comes behind the length: the topic and its own length, the id if there is one, the payload. -/
def Publish.remaining (p : Publish) : Nat :=
  2 + (Bytes.ofText p.topic).length + (if p.qos = .atMostOnce then 0 else 2) + p.payload.length

structure Publish.Sendable (p : Publish) : Prop extends p.Legible where
  tracked : p.qos ≠ .atMostOnce → p.id ≠ 0
  short : p.remaining ≤ Frame.maxRemaining

theorem Bytes.length_ofSizedText (s : String) : (ofSizedText s).length = 2 + (ofText s).length := by
  simp [ofSizedText, ofUInt16]
  omega

theorem Publish.Sendable.body {p : Publish} (h : p.Sendable) :
    ∃ body, p.body? = some body ∧ body.length = p.remaining := by
  unfold body? remaining
  by_cases once : p.qos = .atMostOnce
  · refine ⟨_, if_pos once, ?_⟩
    simp [Bytes.length_ofSizedText, once]
  · rw [if_neg once, if_neg (h.tracked once)]
    refine ⟨_, rfl, ?_⟩
    simp [Bytes.length_ofSizedText, once, Bytes.ofUInt16]
    omega

/-- A packet of an exchange about a message that can be sent. -/
inductive Packet.Sendable : Packet → Prop
  | publish {p : Publish} (h : p.Sendable) : Sendable (.publish p)
  | puback (id : UInt16) : Sendable (.puback id)
  | pubrec (id : UInt16) : Sendable (.pubrec id)
  | pubrel (id : UInt16) : Sendable (.pubrel id)
  | pubcomp (id : UInt16) : Sendable (.pubcomp id)

namespace Packet.Sendable

variable {p : Packet} {ps : List Packet} {frame part : Bytes} {limit : Nat}

theorem legible (h : p.Sendable) : p.Legible := by
  cases h with
  | publish h => exact .publish h.toLegible
  | puback id => exact .puback id
  | pubrec id => exact .pubrec id
  | pubrel id => exact .pubrel id
  | pubcomp id => exact .pubcomp id

theorem encoded (h : p.Sendable) : ∃ frame, p.encode = some frame := by
  have write : ∀ kind body, body.length ≤ Frame.maxRemaining →
      ∃ frame, Frame.write kind body = some frame :=
    fun kind body short => ⟨_, if_pos short⟩
  cases h with
  | @publish p h =>
    obtain ⟨body, built, length⟩ := h.body
    obtain ⟨frame, written⟩ := write p.kind body (length ▸ h.short)
    exact ⟨frame, Option.bind_eq_some_iff.2 ⟨body, built, written⟩⟩
  | puback | pubrec | pubrel | pubcomp => exact write _ _ (by simp [Bytes.ofUInt16, Frame.maxRemaining])

theorem totalLength? (h : p.Sendable) (encoded : p.encode = some frame) :
    Frame.totalLength? frame = .ok (some frame.length) := by
  obtain ⟨kind, body, written, -⟩ := h.legible.written encoded
  have total := (Frame.readHeader_write written []).2.2
  rwa [List.append_nil] at total

/-- Whatever the beginning of a frame says about its end is true. -/
theorem totalLength?_part (h : p.Sendable) (encoded : p.encode = some frame) (begins : part <+: frame) :
    Frame.totalLength? part = .ok none ∨ Frame.totalLength? part = .ok (some frame.length) := by
  obtain ⟨rest, rfl⟩ := begins
  by_cases known : Frame.totalLength? part = .ok none
  · exact .inl known
  · right
    rw [← h.totalLength? encoded]
    exact (Frame.totalLength?_append rfl known rest).symm

theorem next_part (h : p.Sendable) (encoded : p.encode = some frame) (fits : frame.length ≤ limit)
    (begins : part <+: frame) (short : part ≠ frame) : Next.of limit part = .incomplete := by
  have shorter : part.length < frame.length := by
    apply Nat.lt_of_le_of_ne begins.length_le
    intro same
    exact short (begins.eq_of_length same)
  unfold Next.of
  rcases h.totalLength?_part encoded begins with total | total
  · rw [total]
  · rw [total]
    dsimp only
    rw [if_neg (by omega), if_pos shorter]

theorem next_append (h : p.Sendable) (encoded : p.encode = some frame) (fits : frame.length ≤ limit)
    (more : Bytes) : Next.of limit (frame ++ more) = .packet p more := by
  have found := Next.of_append_packet (h.legible.next encoded fits) more
  rwa [List.nil_append] at found

/-- The frames are taken one by one, as long as there is a whole one. -/
theorem contents (all : ∀ p ∈ ps, p.Sendable)
    (fits : ∀ p ∈ ps, (p.encode.getD []).length ≤ limit)
    (stops : Next.of limit part = .incomplete) :
    Contents.of limit (Packet.wire ps ++ part) = ⟨ps, none, part⟩ := by
  induction ps with
  | nil => exact Contents.of_incomplete stops
  | cons p ps ih =>
    have first := all p List.mem_cons_self
    have room := fits p List.mem_cons_self
    obtain ⟨frame, encoded⟩ := first.encoded
    have rest := ih (fun q mem => all q (List.mem_cons_of_mem _ mem))
      fun q mem => fits q (List.mem_cons_of_mem _ mem)
    have wire : Packet.wire (p :: ps) = frame ++ Packet.wire ps := by
      simp [Packet.wire, encoded]
    rw [encoded, Option.getD_some] at room
    rw [wire, List.append_assoc, Contents.of_packet (first.next_append encoded room _), rest]

end Packet.Sendable

/-! ## Whole streams -/

/-- A packet has a frame, and no beginning of the frame lies about its length. Frames one behind the
other, the last one perhaps cut short, are read back as the packets; what was cut short is left. -/
theorem streams_read_back :
    (∀ p : Packet, p.Sendable → ∃ frame, p.encode = some frame ∧
      Frame.totalLength? frame = .ok (some frame.length) ∧
      ∀ part, part <+: frame → part ≠ frame →
        Frame.totalLength? part = .ok none ∨ Frame.totalLength? part = .ok (some frame.length)) ∧
    ∀ (limit : Nat) (ps : List Packet) (q : Packet) (frame part : Bytes),
      (∀ p ∈ q :: ps, p.Sendable) → (∀ p ∈ q :: ps, (p.encode.getD []).length ≤ limit) →
      q.encode = some frame → part <+: frame → part ≠ frame →
        Contents.of limit (Packet.wire ps ++ part) = ⟨ps, none, part⟩ ∧
          Next.of limit part = .incomplete := by
  constructor
  · intro p sendable
    obtain ⟨frame, encoded⟩ := sendable.encoded
    exact ⟨frame, encoded, sendable.totalLength? encoded,
      fun part begins _ => sendable.totalLength?_part encoded begins⟩
  · intro limit ps q frame part all fits encoded begins short
    have last := all q List.mem_cons_self
    have room := fits q List.mem_cons_self
    rw [encoded, Option.getD_some] at room
    have stops := last.next_part encoded room begins short
    refine ⟨Packet.Sendable.contents ?_ ?_ stops, stops⟩
    · intro p mem
      exact all p (List.mem_cons_of_mem _ mem)
    · intro p mem
      exact fits p (List.mem_cons_of_mem _ mem)

set_option maxRecDepth 4096 in
/-- A message with two bytes of length, the answer to it, and a release that is cut short. -/
theorem streams_read_back_three :
    let p : Packet := .publish ⟨"a", List.replicate 130 7, .exactlyOnce, 5, true, false⟩
    (∃ frame, p.encode = some frame ∧ Frame.totalLength? frame = .ok (some frame.length)) ∧
      Contents.of 138 (Packet.wire [p, .pubrec 5] ++ [0x62, 2, 0]) =
        ⟨[p, .pubrec 5], none, [0x62, 2, 0]⟩ := by
  have room : ∀ p ∈ [.pubrel 5, .publish ⟨"a", List.replicate 130 7, .exactlyOnce, 5, true, false⟩,
      .pubrec 5], ((Packet.encode p).getD []).length ≤ 138 := by
    rw [List.forall_mem_cons, List.forall_mem_cons, List.forall_mem_singleton]
    refine ⟨?_, ?_, ?_⟩ <;> cbv
  have encoded : (Packet.pubrel 5).encode = some [0x62, 2, 0, 5] := by cbv
  intro p
  have sendable : p.Sendable := .publish ⟨⟨by cbv, by simp⟩, by simp, by cbv⟩
  constructor
  · obtain ⟨frame, encoded, total, -⟩ := streams_read_back.1 p sendable
    exact ⟨frame, encoded, total⟩
  · have back := streams_read_back.2 138 [p, .pubrec 5] (.pubrel 5) [0x62, 2, 0, 5] [0x62, 2, 0]
      (by simpa using ⟨.pubrel 5, sendable, .pubrec 5⟩) room encoded ⟨[5], rfl⟩ (by simp)
    exact back.1

end MqttLink
