import Mathlib.Data.Nat.Bitwise
import MqttLink.Client.Inbound

/-!
# Where a frame ends

The length of a frame is read twice, once to find its end and once to take it apart, and both readings
agree. What the front of some bytes holds does not change when more bytes follow, and a frame that was
written is found again, whatever follows it.
-/

namespace MqttLink

namespace Frame

/-! ## The two readings of a length -/

/-- The four bytes that are searched for a length are those that are read. -/
theorem scanLength_eq (bytes : Bytes) (place k sum : Nat) (places : place + k = 4) (hk : 0 < k) :
    scanLength place sum (bytes.take k) =
      (readLength (7 * place) place sum bytes).toOption.map fun r => 1 + r.1 + r.2 := by
  induction bytes generalizing place k sum with
  | nil => simp [scanLength, readLength, Except.toOption]
  | cons b rest ih =>
    obtain ⟨k, rfl⟩ := Nat.exists_eq_add_one_of_ne_zero (Nat.ne_of_gt hk)
    unfold readLength
    rw [List.take_succ_cons, scanLength]
    dsimp only
    split
    · simp only [Except.toOption, Option.map_some, Option.some.injEq]
      omega
    · split
      · -- The fourth byte promises a fifth one.
        obtain rfl : k = 0 := by omega
        simp [scanLength, Except.toOption]
      · exact ih (place + 1) _ _ (by omega) (by omega)

theorem totalLength?_cons (kind : UInt8) (rest : Bytes) : totalLength? (kind :: rest) =
    match readLength 0 0 0 rest with
    | .ok r => .ok (some (1 + r.1 + r.2))
    | .error _ => if (rest.drop 3).isEmpty then .ok none else .error {} := by
  have scanned := scanLength_eq rest 0 4 0 rfl (by omega)
  unfold totalLength?
  rw [List.drop_succ_cons, List.drop_zero, scanned, List.drop_succ_cons]
  cases readLength 0 0 0 rest <;> rfl

theorem readLength_append {shift count sum : Nat} {bytes : Bytes} {r : Nat × Nat}
    (h : readLength shift count sum bytes = .ok r) (more : Bytes) :
    readLength shift count sum (bytes ++ more) = .ok r := by
  induction bytes generalizing shift count sum with
  | nil => simp [readLength] at h
  | cons b rest ih =>
    rw [List.cons_append]
    unfold readLength at h ⊢
    dsimp only at h ⊢
    split
    · simp_all
    · split <;> simp_all

/-- Four bytes without an end stay without one. -/
theorem readLength_of_long {shift count sum : Nat} {bytes : Bytes} {e : SplitError}
    (h : readLength shift count sum bytes = .error e) (early : shift ≤ 21)
    (long : 28 ≤ shift + 7 * bytes.length) (more : Bytes) :
    ∃ e, readLength shift count sum (bytes ++ more) = .error e := by
  induction bytes generalizing shift count sum with
  | nil =>
    rw [List.length_nil] at long
    omega
  | cons b rest ih =>
    rw [List.length_cons] at long
    rw [List.cons_append]
    unfold readLength at h ⊢
    dsimp only at h ⊢
    split
    · simp_all
    · rename_i continues
      split
      · exact ⟨_, rfl⟩
      · rename_i short
        rw [if_neg continues, if_neg short] at h
        exact ih h (by omega) (by omega)

/-- What is known of the end of the first frame stays true when more bytes follow. -/
theorem totalLength?_append {buffer : Bytes} {r : Except Endless (Option Nat)}
    (h : totalLength? buffer = r) (known : r ≠ .ok none) (more : Bytes) :
    totalLength? (buffer ++ more) = r := by
  cases buffer with
  | nil => exact absurd h.symm known
  | cons kind rest =>
    rw [List.cons_append, totalLength?_cons] at *
    cases found : readLength 0 0 0 rest with
    | ok r' =>
      rw [readLength_append found]
      rwa [found] at h
    | error e =>
      rw [found] at h
      dsimp only at h
      split at h
      · exact absurd h.symm known
      · rename_i long
        have long : 3 < rest.length := by simpa using long
        obtain ⟨e', found'⟩ := readLength_of_long found (by omega) (by omega) more
        rw [found']
        dsimp only
        rw [if_neg (by simp; omega)]
        exact h

theorem readHeader_cons (kind : UInt8) (rest : Bytes) : readHeader (kind :: rest) =
    (readLength 0 0 0 rest).map fun r => ⟨kind, r.1, r.2⟩ := by
  cases found : readLength 0 0 0 rest <;>
    simp [readHeader, found, bind, Except.bind, Except.map, pure, Except.pure]

/-- A frame whose end is known can be taken apart just there. -/
theorem readHeader_of_totalLength? {buffer : Bytes} {n : Nat}
    (total : totalLength? buffer = .ok (some n)) :
    ∃ header, readHeader buffer = .ok header ∧ 1 + header.lengthBytes + header.remaining = n := by
  cases buffer with
  | nil => simp [totalLength?, scanLength] at total
  | cons kind rest =>
    rw [totalLength?_cons] at total
    cases found : readLength 0 0 0 rest with
    | ok r =>
      rw [found] at total
      refine ⟨⟨kind, r.1, r.2⟩, ?_, by simpa using total⟩
      rw [readHeader_cons, found]
      rfl
    | error e =>
      rw [found] at total
      dsimp only at total
      split at total <;> simp at total

theorem readHeader_append {buffer : Bytes} {header : Header} (h : readHeader buffer = .ok header)
    (more : Bytes) : readHeader (buffer ++ more) = .ok header := by
  cases buffer with
  | nil => simp [readHeader] at h
  | cons kind rest =>
    rw [List.cons_append, readHeader_cons] at *
    cases found : readLength 0 0 0 rest with
    | ok r =>
      rw [readLength_append found]
      rwa [found] at h
    | error e =>
      rw [found] at h
      simp [Except.map] at h

theorem split_of_header (limit : Nat) {buffer : Bytes} {header : Header}
    (found : readHeader buffer = .ok header) (fits : header.remaining ≤ limit)
    (whole : 1 + header.lengthBytes + header.remaining ≤ buffer.length) :
    split limit buffer = .ok (header, (buffer.drop (1 + header.lengthBytes)).take header.remaining,
      (buffer.drop (1 + header.lengthBytes)).drop header.remaining) := by
  unfold split
  rw [found]
  change (if limit < header.remaining then _ else _) = _
  rw [if_neg (Nat.not_lt.2 fits)]
  change (if _ then _ else _) = _
  rw [if_neg (by rw [List.length_drop]; omega)]
  rfl

/-! ## Writing and finding -/

theorem toNat_low_bits (b : UInt8) : (b &&& 0x7F).toNat = b.toNat % 128 := by
  rw [UInt8.toNat_and]
  exact Nat.and_two_pow_sub_one_eq_mod b.toNat 7

theorem high_bit_eq_zero (b : UInt8) : b &&& 0x80 = 0 ↔ b.toNat < 128 := by
  rw [← UInt8.toNat_inj, UInt8.toNat_and]
  change b.toNat &&& 2 ^ 7 = 0 ↔ _
  rw [Nat.and_two_pow, Nat.testBit_eq_decide_div_mod_eq]
  have := b.toNat_lt
  by_cases h : b.toNat < 128 <;> simp <;> omega

theorem readLength_lengthBytes (n place k sum : Nat) (hn : n < 128 ^ k)
    (places : place + k = 4) (rest : Bytes) :
    readLength (7 * place) place sum (lengthBytes n ++ rest) =
      .ok (place + (lengthBytes n).length, sum + n * 128 ^ place) := by
  fun_induction lengthBytes n generalizing place k sum with
  | case1 n small =>
    have value : n.toUInt8.toNat = n := by
      rw [Nat.toUInt8, UInt8.toNat_ofNat']
      omega
    have last : n.toUInt8 &&& 0x80 = 0 := by
      rw [high_bit_eq_zero]
      omega
    have low : (n.toUInt8 &&& 0x7F).toNat = n := by
      rw [toNat_low_bits, value]
      omega
    rw [List.singleton_append, readLength]
    simp only [last, if_true, low, Nat.shiftLeft_eq, Nat.pow_mul, List.length_singleton]
  | case2 n large ih =>
    have value : (n % 128 + 128).toUInt8.toNat = n % 128 + 128 := by
      rw [Nat.toUInt8, UInt8.toNat_ofNat']
      omega
    have goesOn : (n % 128 + 128).toUInt8 &&& 0x80 ≠ 0 := by
      rw [Ne, high_bit_eq_zero]
      omega
    -- What is left has one digit less, so the fourth byte is always the last.
    obtain ⟨k, rfl⟩ : ∃ k', k = k' + 2 := by
      match k with
      | 0 | 1 => omega
      | k + 2 => exact ⟨k, rfl⟩
    have shorter : n / 128 < 128 ^ (k + 1) := by
      rw [Nat.div_lt_iff_lt_mul (by omega)]
      rwa [Nat.pow_succ] at hn
    have early : ¬ 14 < 7 * place := by omega
    have next := ih (place + 1) (k + 1) (sum + n % 128 * 128 ^ place) shorter (by omega)
    rw [List.cons_append, readLength]
    simp only [goesOn, early, if_false, toNat_low_bits, value, Nat.shiftLeft_eq, Nat.pow_mul,
      Nat.add_mod_right, Nat.mod_mod, show 2 ^ 7 = 128 from rfl]
    rw [show 7 * place + 7 = 7 * (place + 1) by omega, next]
    have digits := Nat.div_add_mod n 128
    have sum_eq : n % 128 * 128 ^ place + n / 128 * 128 ^ (place + 1) = n * 128 ^ place := by
      rw [Nat.pow_succ, Nat.mul_comm (128 ^ place), ← Nat.mul_assoc, ← Nat.add_mul]
      congr 1
      omega
    rw [Nat.add_assoc sum, sum_eq, List.length_cons, Nat.add_assoc place, Nat.add_comm 1]

theorem length_lengthBytes_le {n k : Nat} (hn : n < 128 ^ k) (hk : 0 < k) :
    (lengthBytes n).length ≤ k := by
  fun_induction lengthBytes n generalizing k with
  | case1 n small => exact hk
  | case2 n large ih =>
    obtain ⟨k, rfl⟩ : ∃ k', k = k' + 2 := by
      match k with
      | 0 | 1 => omega
      | k + 2 => exact ⟨k, rfl⟩
    rw [Nat.pow_succ] at hn
    have shorter := ih (k := k + 1) (Nat.div_lt_of_lt_mul (by rwa [Nat.mul_comm])) (by omega)
    rw [List.length_cons]
    omega

theorem length_write_le {kind : UInt8} {body frame : Bytes} (h : write kind body = some frame) :
    frame.length ≤ 5 + body.length := by
  unfold write at h
  split at h
  · rename_i short
    have few := length_lengthBytes_le (n := body.length) (k := 4)
      (Nat.lt_of_le_of_lt short (by decide)) (by decide)
    cases h
    rw [List.length_append, List.length_cons]
    omega
  · cases h

/-- A frame that was written ends where it ends, whatever follows. -/
theorem readHeader_write {kind : UInt8} {body frame : Bytes} (h : write kind body = some frame)
    (more : Bytes) :
    readHeader (frame ++ more) = .ok ⟨kind, (lengthBytes body.length).length, body.length⟩ ∧
      frame = kind :: (lengthBytes body.length ++ body) ∧
      totalLength? (frame ++ more) = .ok (some frame.length) := by
  unfold write at h
  split at h
  · rename_i short
    cases h
    have read := readLength_lengthBytes body.length 0 4 0
      (Nat.lt_of_le_of_lt short (by decide)) rfl (body ++ more)
    simp only [Nat.mul_zero, Nat.zero_add, Nat.pow_zero, Nat.mul_one] at read
    refine ⟨?_, rfl, ?_⟩
    · simp only [List.cons_append, List.append_assoc, readHeader_cons, read]
      rfl
    · simp only [List.cons_append, List.append_assoc, totalLength?_cons, read, List.length_cons,
        List.length_append]
      congr 2
      omega
  · cases h
end Frame

namespace Next

/-! ## The front of some bytes -/

/-- What a whole frame is taken for. -/
def decoded (header : Frame.Header) (body rest : Bytes) : Next :=
  match Packet.decode header.kind body with
  | .error _ => .fault .malformedPacket rest
  | .ok p => .packet p rest

/-- All that the front of some bytes can be. -/
inductive Front (limit : Nat) (received : Bytes) : Next → Prop
  | endless (total : Frame.totalLength? received = .error {}) :
      Front limit received (.fault .malformedPacket received)
  | unknown (total : Frame.totalLength? received = .ok none) : Front limit received .incomplete
  | tooLong {n : Nat} (total : Frame.totalLength? received = .ok (some n)) (long : limit < n) :
      Front limit received (.fault .recvBufferTooSmall received)
  | part {n : Nat} (total : Frame.totalLength? received = .ok (some n)) (fits : n ≤ limit)
      (short : received.length < n) : Front limit received .incomplete
  | whole {n : Nat} {header : Frame.Header} (total : Frame.totalLength? received = .ok (some n))
      (fits : n ≤ limit) (enough : n ≤ received.length)
      (found : Frame.readHeader received = .ok header)
      (size : 1 + header.lengthBytes + header.remaining = n) :
      Front limit received (decoded header
        ((received.drop (1 + header.lengthBytes)).take header.remaining) (received.drop n))

variable {limit n : Nat} {received : Bytes} {header : Frame.Header}

theorem of_whole (total : Frame.totalLength? received = .ok (some n)) (fits : n ≤ limit)
    (enough : n ≤ received.length) (found : Frame.readHeader received = .ok header)
    (size : 1 + header.lengthBytes + header.remaining = n) :
    Next.of limit received = decoded header
      ((received.drop (1 + header.lengthBytes)).take header.remaining) (received.drop n) := by
  have split := Frame.split_of_header limit found (by omega) (by omega)
  rw [List.drop_drop, size] at split
  unfold Next.of
  simp only [total]
  rw [if_neg (Nat.not_lt.2 fits), if_neg (Nat.not_lt.2 enough)]
  simp only [split]
  rfl

theorem front (limit : Nat) (received : Bytes) : Front limit received (Next.of limit received) := by
  rcases total : Frame.totalLength? received with _ | _ | n
  · simp only [Next.of, total]
    exact .endless total
  · simp only [Next.of, total]
    exact .unknown total
  · obtain ⟨header, found, size⟩ := Frame.readHeader_of_totalLength? total
    by_cases long : limit < n
    · simp only [Next.of, total, if_pos long]
      exact .tooLong total long
    · by_cases short : received.length < n
      · simp only [Next.of, total, if_neg long, if_pos short]
        exact .part total (Nat.not_lt.1 long) short
      · rw [of_whole total (Nat.not_lt.1 long) (Nat.not_lt.1 short) found size]
        exact .whole total (Nat.not_lt.1 long) (Nat.not_lt.1 short) found size

/-- What follows a packet is just what is behind its frame. -/
theorem whole_of_packet {p : Packet} {rest : Bytes} (h : Next.of limit received = .packet p rest) :
    ∃ n ≤ limit, Frame.totalLength? received = .ok (some n) ∧ n ≤ received.length ∧
      rest = received.drop n := by
  have f := front limit received
  generalize Next.of limit received = next at f h
  cases f with
  | endless | unknown | tooLong | part => cases h
  | whole total fits enough found size =>
    unfold decoded at h
    split at h
    · cases h
    · cases h
      exact ⟨_, fits, total, enough, rfl⟩

theorem rest_suffix {p : Packet} {rest : Bytes} (h : Next.of limit received = .packet p rest) :
    rest <:+ received := by
  obtain ⟨n, -, -, -, rfl⟩ := whole_of_packet h
  exact List.drop_suffix ..

/-- More bytes behind what there is. -/
def followedBy (more : Bytes) : Next → Next
  | packet p rest => packet p (rest ++ more)
  | incomplete => incomplete
  | fault f rest => fault f (rest ++ more)

theorem decoded_append (header : Frame.Header) (body rest more : Bytes) :
    decoded header body (rest ++ more) = (decoded header body rest).followedBy more := by
  unfold decoded
  split <;> rfl

/-- More bytes change nothing about what has been found. -/
theorem of_append (known : Next.of limit received ≠ .incomplete) (more : Bytes) :
    Next.of limit (received ++ more) = (Next.of limit received).followedBy more := by
  have f := front limit received
  generalize Next.of limit received = next at f known
  cases f with
  | unknown | part => exact absurd rfl known
  | endless total =>
    have total := Frame.totalLength?_append total (by simp) more
    simp [Next.of, total, followedBy]
  | tooLong total long =>
    have total := Frame.totalLength?_append total (by simp) more
    simp [Next.of, total, long, followedBy]
  | whole total fits enough found size =>
    have total := Frame.totalLength?_append total (by simp) more
    have found := Frame.readHeader_append found more
    rw [of_whole total fits (by rw [List.length_append]; omega) found size,
      List.drop_append_of_le_length enough, decoded_append,
      List.drop_append_of_le_length (by omega),
      List.take_append_of_le_length (by rw [List.length_drop]; omega)]

/-- A frame that was written is taken for what it was, whatever follows. -/
theorem of_write {limit : Nat} {kind : UInt8} {body frame : Bytes} {p : Packet}
    (written : Frame.write kind body = some frame) (fits : frame.length ≤ limit)
    (decodes : Packet.decode kind body = .ok p) (more : Bytes) :
    Next.of limit (frame ++ more) = .packet p more := by
  obtain ⟨found, whole, total⟩ := Frame.readHeader_write written more
  have size : 1 + (Frame.lengthBytes body.length).length + body.length = frame.length := by
    rw [whole, List.length_cons, List.length_append]
    omega
  rw [of_whole total fits (by simp) found size]
  have taken : ((frame ++ more).drop (1 + (Frame.lengthBytes body.length).length)).take body.length =
      body := by
    rw [whole, List.cons_append, Nat.add_comm, List.drop_succ_cons, List.append_assoc,
      List.drop_left, List.take_left]
  rw [taken, List.drop_left]
  unfold decoded
  rw [decodes]

theorem of_append_packet {p : Packet} {rest : Bytes} (h : Next.of limit received = .packet p rest)
    (more : Bytes) : Next.of limit (received ++ more) = .packet p (rest ++ more) := by
  rw [of_append (by simp [h]), h, followedBy]

theorem of_append_fault {f : Fault} {rest : Bytes} (h : Next.of limit received = .fault f rest)
    (more : Bytes) : Next.of limit (received ++ more) = .fault f (rest ++ more) := by
  rw [of_append (by simp [h]), h, followedBy]

end Next

end MqttLink
