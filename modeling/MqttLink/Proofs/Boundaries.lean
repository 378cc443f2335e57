import MqttLink.Proofs.Framing

/-!
# The boundary of a frame

Of all the bytes there are, those of the length say where a frame ends, and those up to that end say what is in
it. Main statement: finding the end and taking the frame apart agree on every string of bytes, and what follows
a frame has no part in either.
-/

namespace MqttLink

namespace Frame

/-! ## The bytes that count -/

/-- A length is in its own bytes alone. -/
theorem readLength_take {shift count sum : Nat} {bytes : Bytes} {r : Nat × Nat}
    (h : readLength shift count sum bytes = .ok r) :
    count < r.1 ∧ ∀ k, r.1 ≤ count + k → readLength shift count sum (bytes.take k) = .ok r := by
  induction bytes generalizing shift count sum with
  | nil => simp [readLength] at h
  | cons b rest ih =>
    rw [readLength] at h
    split at h
    · rename_i last
      cases h
      refine ⟨Nat.lt_succ_self _, fun k enough => ?_⟩
      obtain ⟨k, rfl⟩ := Nat.exists_eq_add_one_of_ne_zero (show k ≠ 0 by omega)
      rw [List.take_succ_cons, readLength]
      exact if_pos last
    · split at h
      · cases h
      · rename_i continues early
        obtain ⟨more, reads⟩ := ih h
        refine ⟨by omega, fun k enough => ?_⟩
        obtain ⟨k, rfl⟩ := Nat.exists_eq_add_one_of_ne_zero (show k ≠ 0 by omega)
        rw [List.take_succ_cons, readLength, if_neg continues, if_neg early]
        exact reads k (by omega)

theorem readHeader_take {buffer : Bytes} {header : Header} (found : readHeader buffer = .ok header)
    {n : Nat} (enough : 1 + header.lengthBytes ≤ n) : readHeader (buffer.take n) = .ok header := by
  obtain ⟨n, rfl⟩ := Nat.exists_eq_add_of_le' (show 1 ≤ n by omega)
  cases buffer with
  | nil => simp [readHeader] at found
  | cons kind rest =>
    rw [readHeader_cons] at found
    cases read : readLength 0 0 0 rest with
    | error e => simp [read, Except.map] at found
    | ok r =>
      rw [read] at found
      cases found
      have alone := (readLength_take read).2 n (by dsimp only at enough; omega)
      rw [List.take_succ_cons, readHeader_cons, alone]
      rfl

theorem totalLength?_of_readHeader {buffer : Bytes} {header : Header}
    (found : readHeader buffer = .ok header) :
    totalLength? buffer = .ok (some (1 + header.lengthBytes + header.remaining)) := by
  cases buffer with
  | nil => simp [readHeader] at found
  | cons kind rest =>
    rw [readHeader_cons] at found
    rw [totalLength?_cons]
    cases read : readLength 0 0 0 rest with
    | error e => simp [read, Except.map] at found
    | ok r =>
      rw [read] at found
      cases found
      rfl

/-! ## Lengths that are not there -/

theorem scanLength_eq_none {place sum : Nat} {bytes : Bytes} :
    scanLength place sum bytes = none ↔ ∀ b ∈ bytes, b &&& 0x80 ≠ 0 := by
  induction bytes generalizing place sum with
  | nil => simp [scanLength]
  | cons b rest ih =>
    rw [scanLength, List.forall_mem_cons]
    split
    · rename_i last
      simp [last]
    · rename_i continues
      rw [ih, and_iff_right continues]

theorem totalLength?_eq_error {buffer : Bytes} : totalLength? buffer = .error {} ↔
    ∀ i ∈ [1, 2, 3, 4], ∃ b, buffer[i]? = some b ∧ b &&& 0x80 ≠ 0 := by
  have scanned : totalLength? buffer = .error {} ↔
      5 ≤ buffer.length ∧ ∀ b ∈ (buffer.drop 1).take 4, b &&& 0x80 ≠ 0 := by
    rw [← @scanLength_eq_none 0 0, totalLength?]
    cases scanLength 0 0 ((buffer.drop 1).take 4) <;> simp
    omega
  rw [scanned, List.forall_mem_cons, List.forall_mem_cons, List.forall_mem_cons,
    List.forall_mem_singleton]
  rcases buffer with _ | ⟨kind, _ | ⟨b₁, _ | ⟨b₂, _ | ⟨b₃, _ | ⟨b₄, rest⟩⟩⟩⟩⟩
  all_goals simp

/-- With five bytes everything is known. -/
theorem length_le_of_unknown {buffer : Bytes} (h : totalLength? buffer = .ok none) :
    buffer.length ≤ 4 := by
  unfold totalLength? at h
  split at h
  · cases h
  · split at h
    · rename_i none_
      simpa using none_
    · cases h

end Frame

/-! ## Whole frames -/

namespace Next

variable {limit n : Nat} {b : Bytes}

/-- A whole frame is taken for the same as if nothing followed it. -/
theorem of_front (total : Frame.totalLength? b = .ok (some n)) (fits : n ≤ limit)
    (enough : n ≤ b.length) : ∃ header body,
    Frame.split limit b = .ok (header, body, b.drop n) ∧
    Frame.split limit (b.take n) = .ok (header, body, []) ∧
    Next.of limit b = decoded header body (b.drop n) ∧
    Next.of limit (b.take n) = decoded header body [] := by
  obtain ⟨header, found, size⟩ := Frame.readHeader_of_totalLength? total
  have foundAlone := Frame.readHeader_take (n := n) found (by omega)
  have length : (b.take n).length = n := List.length_take_of_le enough
  have totalAlone : Frame.totalLength? (b.take n) = .ok (some n) :=
    (Frame.totalLength?_of_readHeader foundAlone).trans (by rw [size])
  -- The body ends where the frame does, so cutting behind the frame leaves it alone.
  have body : ((b.take n).drop (1 + header.lengthBytes)).take header.remaining =
      (b.drop (1 + header.lengthBytes)).take header.remaining := by
    rw [List.drop_take, List.take_take, ← size, Nat.add_sub_cancel_left, Nat.min_self]
  have nothing : (b.take n).drop n = [] := List.drop_eq_nil_of_le length.le
  have split := Frame.split_of_header limit found (by omega) (by omega)
  have splitAlone := Frame.split_of_header limit foundAlone (by omega) (by omega)
  have whole := of_whole total fits enough found size
  have alone := of_whole totalAlone fits length.ge foundAlone size
  rw [List.drop_drop, size] at split splitAlone
  rw [body, nothing] at splitAlone alone
  exact ⟨header, _, split, splitAlone, whole, alone⟩

end Next

/-- A frame that is there as a whole, and that there is room for, is taken out just as if nothing followed it,
whether there is a packet in it or not; that bytes are missing is never found out so late. Where a frame ends is
known for good once it is known, from the fifth byte at the latest, and there is no end if and only if all four
bytes of the length promise another one. -/
theorem framing_agrees (limit : Nat) (b : Bytes) :
    (∀ n, Frame.totalLength? b = .ok (some n) → n ≤ limit → n ≤ b.length →
      (∃ header body, Frame.split limit b = .ok (header, body, b.drop n) ∧
        Frame.split limit (b.take n) = .ok (header, body, [])) ∧
      ((∃ p, Next.of limit b = .packet p (b.drop n) ∧ Next.of limit (b.take n) = .packet p []) ∨
        Next.of limit b = .fault .malformedPacket (b.drop n) ∧
          Next.of limit (b.take n) = .fault .malformedPacket [])) ∧
    (Frame.totalLength? b ≠ .ok none →
      ∀ more, Frame.totalLength? (b ++ more) = Frame.totalLength? b) ∧
    (Frame.totalLength? b = .ok none → b.length ≤ 4) ∧
    (Frame.totalLength? b = .error {} ↔
      ∀ i ∈ [1, 2, 3, 4], ∃ byte, b[i]? = some byte ∧ byte &&& 0x80 ≠ 0) := by
  refine ⟨fun n total fits enough => ?_, fun known => Frame.totalLength?_append rfl known,
    Frame.length_le_of_unknown, Frame.totalLength?_eq_error⟩
  obtain ⟨header, body, split, splitAlone, whole, alone⟩ := Next.of_front total fits enough
  refine ⟨⟨header, body, split, splitAlone⟩, ?_⟩
  rw [whole, alone]
  cases decodes : Packet.decode header.kind body with
  | ok p => exact .inl ⟨p, by simp [Next.decoded, decodes]⟩
  | error e => exact .inr (by simp [Next.decoded, decodes])

/-- A message whose topic is longer than its frame, and a ping behind it. -/
theorem framing_agrees_overrun :
    let b : Bytes := [0x30, 3, 0, 9, 97, 0xC0, 0]
    Frame.totalLength? b = .ok (some 5) ∧ Frame.totalLength? (b ++ [1]) = .ok (some 5) ∧
      Next.of 10 b = .fault .malformedPacket [0xC0, 0] := by
  intro b
  have total : Frame.totalLength? b = .ok (some 5) := by cbv
  have alone : Next.of 10 (b.take 5) = .fault .malformedPacket [] := by cbv
  obtain ⟨whole, stable, -, -⟩ := framing_agrees 10 b
  refine ⟨total, (stable (by simp [total]) [1]).trans total, ?_⟩
  obtain ⟨-, ⟨p, -, packet⟩ | ⟨fault, -⟩⟩ := whole 5 total (by decide) (by decide)
  · rw [alone] at packet
    cases packet
  · exact fault

end MqttLink
