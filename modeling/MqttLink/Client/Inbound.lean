import MqttLink.Client.Engine

/-!
# Received bytes

What has been read and not yet understood. The engine takes the complete packets one by one; what
is left is the beginning of a frame.
-/

namespace MqttLink

/-! ## The next packet -/

/-- What the front of the received bytes holds. -/
inductive Next where
  | packet (p : Packet) (rest : Bytes)
  | incomplete
  | fault (f : Fault) (rest : Bytes)
  deriving DecidableEq, Repr

/-- A frame longer than the limit is a fault as soon as its length is known. -/
def Next.of (limit : Nat) (received : Bytes) : Next :=
  match Frame.totalLength? received with
  | .error _ => .fault .malformedPacket received
  | .ok none => .incomplete
  | .ok (some n) =>
    if limit < n then .fault .recvBufferTooSmall received
    else if received.length < n then .incomplete
    else match Frame.split limit received with
      | .error .incomplete => .incomplete
      | .error _ => .fault .malformedPacket received
      | .ok (header, body, rest) =>
        match Packet.decode header.kind body with
        | .error _ => .fault .malformedPacket rest
        | .ok p => .packet p rest

theorem Next.length_rest {limit : Nat} {received rest : Bytes} {p : Packet}
    (h : Next.of limit received = .packet p rest) : rest.length < received.length := by
  unfold Next.of at h
  split at h <;> try simp at h
  split at h <;> try simp at h
  split at h <;> try simp at h
  split at h <;> try simp at h
  rename_i hs
  split at h <;> try simp at h
  obtain ⟨_, rfl⟩ := h
  exact Frame.length_rest_of_split hs

/-! ## All complete packets -/

/-- Takes every complete packet, in order, up to the first fault. Gives back the bytes left. -/
def Engine.takeAll (limit : Nat) (received : Bytes) (e : Engine) :
    Except Fault Unit × Bytes × Engine :=
  match _found : Next.of limit received with
  | .incomplete => (.ok (), received, e)
  | .fault f rest => (.error f, rest, { e with fault := some f })
  | .packet p rest =>
    match takePacket p e with
    | .ok () e => takeAll limit rest e
    | .error f e => (.error f, rest, e)
termination_by received.length
decreasing_by exact Next.length_rest _found

end MqttLink
