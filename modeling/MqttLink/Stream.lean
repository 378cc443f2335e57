import MqttLink.Bytes

/-!
# Byte streams

One end of a connection, seen by a client that never waits: every call says at once what happened.
A stream may take any part of what is offered, block, or fail. What it promises is only that it
counts what it took, and that it has finitely much to read before the far side acts again.
-/

namespace MqttLink

inductive Reading where
  | data (bytes : Bytes)
  | ended
  | failed
  | blocked
  deriving DecidableEq, Repr

inductive Writing where
  | accepted (count : Nat)
  | failed
  | blocked
  deriving DecidableEq, Repr

inductive Flushing where
  | flushed
  | failed
  | blocked
  deriving DecidableEq, Repr

class ByteStream (σ : Type) where
  read : σ → Reading × σ
  write : σ → Bytes → Writing × σ
  flush : σ → Flushing × σ
  /-- True once the stream has said goodbye to the far side. -/
  shutdown : σ → Bool × σ
  /-- Everything accepted so far. -/
  sent : σ → Bytes
  /-- A bound on the reads that give data before the far side acts again. -/
  backlog : σ → Nat
  backlog_read : ∀ {s b s'}, read s = (.data b, s') → backlog s' < backlog s
  sent_read : ∀ s, sent (read s).2 = sent s
  write_le : ∀ {s b n s'}, write s b = (.accepted n, s') → n ≤ b.length
  sent_accepted : ∀ {s b n s'}, write s b = (.accepted n, s') → sent s' = sent s ++ b.take n
  sent_refused : ∀ {s b w s'}, write s b = (w, s') → (∀ n, w ≠ .accepted n) → sent s' = sent s
  sent_flush : ∀ s, sent (flush s).2 = sent s
  sent_shutdown : ∀ s, sent (shutdown s).2 = sent s

/-! ## Writing all there is -/

/-- How far a wait for the whole of a text to be written has come. -/
inductive Sending where
  | all
  | rest (bytes : Bytes)
  /-- The stream failed, or it accepted nothing at all. -/
  | failed
  deriving DecidableEq, Repr

namespace ByteStream

variable {σ : Type} [ByteStream σ]

def sendAll (s : σ) (bytes : Bytes) : Sending × σ :=
  if bytes.isEmpty then (.all, s)
  else match write s bytes with
    | (.accepted n, s') =>
      if n = 0 then (.failed, s') else sendAll s' (bytes.drop n)
    | (.blocked, s') => (.rest bytes, s')
    | (.failed, s') => (.failed, s')
termination_by bytes.length
decreasing_by exact Bytes.length_drop_lt ‹_› ‹_›

end ByteStream

end MqttLink
