import MqttLink.Proofs.Framing

/-!
# What one client writes and another one reads

A message and every acknowledgment of it are read back as what they were.
-/

namespace MqttLink

namespace Decode

theorem number_append (n : UInt16) (rest : Bytes) :
    number (Bytes.ofUInt16 n ++ rest) = .ok (n, rest) := by
  rw [number, Bytes.takeUInt16?_ofUInt16_append]

/-- A text whose length fits into two bytes. -/
theorem sizedText_append {s : String} (short : (Bytes.ofText s).length ≤ 65535) (rest : Bytes) :
    sizedText (Bytes.ofSizedText s ++ rest) = .ok (s, rest) := by
  have size : (Bytes.ofText s).length.toUInt16.toNat = (Bytes.ofText s).length := by
    rw [Nat.toUInt16, UInt16.toNat_ofNat']
    omega
  unfold sizedText Bytes.ofSizedText
  dsimp only
  rw [List.append_assoc, number_append]
  simp [bind, Except.bind, pure, Except.pure, size, Bytes.toText?_ofText]

end Decode

namespace Publish

/-- The first byte of a frame says everything about a message but what it is. -/
theorem kind_fields (p : Publish) : (p.kind >>> 4).toNat = 3 ∧
    QoS.ofLevel? ((p.kind &&& 0x06) >>> 1) = some p.qos ∧
    decide (p.kind &&& 0x01 ≠ 0) = p.retain ∧ decide (p.kind &&& 0x08 ≠ 0) = p.dup := by
  unfold kind
  generalize p.qos = qos
  generalize p.retain = retain
  generalize p.dup = dup
  clear p
  cases qos <;> cases retain <;> cases dup <;> decide

/-- A message that can be read back. -/
structure Legible (p : Publish) : Prop where
  topic : (Bytes.ofText p.topic).length ≤ 65535
  id : p.qos = .atMostOnce → p.id = 0

theorem Legible.decode {p : Publish} (h : p.Legible) {body : Bytes} (built : p.body? = some body) :
    Packet.decode p.kind body = .ok (.publish p) := by
  obtain ⟨upper, qos, retain, dup⟩ := p.kind_fields
  have read : Decode.publish p.kind body = .ok p := by
    unfold Decode.publish
    rw [qos]
    unfold body? at built
    by_cases once : p.qos = .atMostOnce
    · simp only [once, if_true, Option.some.injEq] at built
      subst built
      simp only [Decode.sizedText_append h.topic, retain, dup, once, bind, Except.bind, pure,
        Except.pure, if_true]
      have untracked := h.id once
      obtain ⟨topic, payload, qos, id, retain, dup⟩ := p
      cases once
      cases untracked
      rfl
    · simp only [once, if_false] at built
      split at built
      · cases built
      · rename_i tracked
        simp only [Option.some.injEq, List.append_assoc] at built
        subst built
        simp only [Decode.sizedText_append h.topic, Decode.number_append, retain, dup, once,
          tracked, bind, Except.bind, pure, Except.pure, if_false]
  have some_ : body.isEmpty = false := by
    unfold body? at built
    split at built
    · cases built
      rfl
    · split at built
      · cases built
      · cases built
        rfl
  unfold Packet.decode
  rw [upper]
  simp [some_, read]

end Publish

namespace Packet

/-- A packet of an exchange about a message. -/
inductive Legible : Packet → Prop
  | publish {p : Publish} (h : p.Legible) : Legible (.publish p)
  | puback (id : UInt16) : Legible (.puback id)
  | pubrec (id : UInt16) : Legible (.pubrec id)
  | pubrel (id : UInt16) : Legible (.pubrel id)
  | pubcomp (id : UInt16) : Legible (.pubcomp id)

theorem Legible.written {p : Packet} (h : p.Legible) {frame : Bytes} (encoded : p.encode = some frame) :
    ∃ kind body, Frame.write kind body = some frame ∧ decode kind body = .ok p := by
  cases h with
  | publish legible =>
    obtain ⟨body, built, written⟩ := Option.bind_eq_some_iff.1 encoded
    exact ⟨_, body, written, legible.decode built⟩
  | puback id | pubrec id | pubrel id | pubcomp id =>
    have read := Decode.number_append id []
    rw [List.append_nil] at read
    refine ⟨_, _, encoded, ?_⟩
    change _ <$> Decode.number _ = _
    rw [read]
    rfl

theorem Legible.next {p : Packet} (h : p.Legible) {frame : Bytes} (encoded : p.encode = some frame)
    {limit : Nat} (fits : frame.length ≤ limit) : Next.of limit frame = .packet p [] := by
  obtain ⟨kind, body, written, decodes⟩ := h.written encoded
  have found := Next.of_write written fits decodes []
  rwa [List.append_nil] at found

end Packet

end MqttLink
