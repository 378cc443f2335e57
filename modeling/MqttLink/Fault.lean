/-!
# What can go wrong on a connection

A fault is the reason why a client stopped working. Its kind decides whether a new connection is
worth a try.
-/

namespace MqttLink

inductive Fault where
  | socketError
  | connectionClosed
  | sendBufferFull
  | recvBufferTooSmall
  | ackOfUnknown
  | keepAliveTimeout
  | connectionRefused
  | subscribeFailed
  | connectNotCalled
  | malformedPacket
  | unknown (code : Int)
  deriving DecidableEq, Repr

inductive FaultKind where
  /-- The line broke. A fresh one is likely to help. -/
  | transport
  /-- The broker said no. The same request will not do better. -/
  | authorization
  | unrecognized
  deriving DecidableEq, Repr

namespace Fault

def kind : Fault → FaultKind
  | socketError | connectionClosed | sendBufferFull | recvBufferTooSmall | ackOfUnknown
  | keepAliveTimeout => .transport
  | connectionRefused | subscribeFailed => .authorization
  | connectNotCalled | malformedPacket | unknown _ => .unrecognized

/-- Only for unrecognized faults is it a matter of policy. -/
def retriable (retryUnknown : Bool) (f : Fault) : Bool :=
  match f.kind with
  | .transport => true
  | .authorization => false
  | .unrecognized => retryUnknown

def message : Fault → String
  | socketError => "socket error"
  | connectionClosed => "connection closed by peer"
  | sendBufferFull => "send buffer is full"
  | recvBufferTooSmall => "receive buffer too small"
  | ackOfUnknown => "acknowledgment of unknown packet"
  | keepAliveTimeout => "keep-alive timeout"
  | connectionRefused => "connection refused by broker"
  | subscribeFailed => "subscribe rejected by broker"
  | connectNotCalled => "connect not called"
  | malformedPacket => "malformed packet"
  | unknown code => "unknown error (" ++ toString code ++ ")"

end Fault

end MqttLink
