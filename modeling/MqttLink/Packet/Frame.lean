import MqttLink.Bytes

/-!
# Frames

A packet on the wire is one byte of kind and flags, the length of what remains in one to four
bytes of seven bits each, and that many bytes of body.
-/

namespace MqttLink.Frame

/-- The longest body that four length bytes can announce. -/
def maxRemaining : Nat := 268435455

/-! ## Writing -/

/-- Seven bits at a time, low ones first; the top bit says that more follow. -/
def lengthBytes (n : Nat) : Bytes :=
  if n < 128 then [n.toUInt8] else (n % 128 + 128).toUInt8 :: lengthBytes (n / 128)
termination_by n
decreasing_by omega

/-- A whole frame, unless the body is too long for any. -/
def write (kind : UInt8) (body : Bytes) : Option Bytes :=
  if body.length ≤ maxRemaining then some (kind :: lengthBytes body.length ++ body) else none

/-! ## Finding the end of a frame -/

/-- The length of the frame whose length bytes these are, `place` bytes into them. -/
def scanLength (place sum : Nat) : Bytes → Option Nat
  | [] => none
  | b :: rest =>
    let sum := sum + (b &&& 0x7F).toNat <<< (7 * place)
    if b &&& 0x80 = 0 then some (2 + place + sum) else scanLength (place + 1) sum rest

/-- The length bytes never end. -/
structure Endless where
  deriving DecidableEq, Repr

/-- The length of the first frame in a buffer, as soon as its length bytes are complete. -/
def totalLength? (buffer : Bytes) : Except Endless (Option Nat) :=
  match scanLength 0 0 ((buffer.drop 1).take 4) with
  | some n => .ok (some n)
  | none => if (buffer.drop 4).isEmpty then .ok none else .error {}

/-! ## Reading -/

/-- What precedes the body. -/
structure Header where
  kind : UInt8
  /-- How many bytes hold the length. -/
  lengthBytes : Nat
  remaining : Nat
  deriving DecidableEq, Repr

inductive SplitError where
  /-- More bytes are needed. -/
  | incomplete
  | badLength
  | tooLong (remaining : Nat)
  deriving DecidableEq, Repr

/-- The length and the number of bytes it takes. `shift` is the place of the next seven bits. -/
def readLength (shift count sum : Nat) : Bytes → Except SplitError (Nat × Nat)
  | [] => .error .incomplete
  | b :: rest =>
    let sum := sum + (b &&& 0x7F).toNat <<< shift
    if b &&& 0x80 = 0 then .ok (count + 1, sum)
    else if 14 < shift then .error .badLength
    else readLength (shift + 7) (count + 1) sum rest

def readHeader : Bytes → Except SplitError Header
  | [] => .error .incomplete
  | kind :: rest => do
    let (count, remaining) ← readLength 0 0 0 rest
    return ⟨kind, count, remaining⟩

/-- The first frame of a buffer as header and body, and the bytes behind it. -/
def split (limit : Nat) (buffer : Bytes) : Except SplitError (Header × Bytes × Bytes) := do
  let header ← readHeader buffer
  if limit < header.remaining then throw (.tooLong header.remaining)
  let inner := buffer.drop (1 + header.lengthBytes)
  if inner.length < header.remaining then throw .incomplete
  return (header, inner.take header.remaining, inner.drop header.remaining)

theorem length_rest_of_split {limit : Nat} {buffer body rest : Bytes} {header : Header}
    (h : split limit buffer = .ok (header, body, rest)) : rest.length < buffer.length := by
  match buffer with
  | [] => simp [split, readHeader, bind, Except.bind] at h
  | b :: tail =>
    cases found : readHeader (b :: tail) with
    | error => simp [split, found, bind, Except.bind] at h
    | ok =>
      simp only [split, found, bind, Except.bind] at h
      split at h
      · simp at h
      · split at h
        · simp at h
        · cases h
          simp only [List.length_drop, List.length_cons]
          omega

end MqttLink.Frame
