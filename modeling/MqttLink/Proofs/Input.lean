import Mathlib
import MqttLink.Client.Handshake
import MqttLink.Link
import MqttLink.Proofs.Framing
import MqttLink.Proofs.Queueing

/-!
# Input in pieces

A stream gives its bytes in chunks, and a client takes packets out of what it has whenever it has read
another one. This comes to the same as having all bytes at once, taking the frames out of them, and
handling one packet after the other. The bytes that a handshake has read too many are the first of them.
-/

namespace MqttLink

/-! ## Reading all there is -/

/-- The fault of a client that reads this. -/
def Reading.fault? : Reading → Option Fault
  | data _ | blocked => none
  | ended => some .connectionClosed
  | failed => some .socketError

namespace ByteStream

variable {σ : Type} [ByteStream σ]

/-- The chunks that can be read now, and what comes behind them. -/
def readAll (s : σ) : List Bytes × Reading × σ :=
  match _read : read s with
  | (.data bytes, s') =>
    let (chunks, last, s'') := readAll s'
    (bytes :: chunks, last, s'')
  | (last, s') => ([], last, s')
termination_by backlog s
decreasing_by exact backlog_read _read

theorem readAll_of_data {s s' : σ} {bytes : Bytes} (h : read s = (.data bytes, s')) :
    readAll s = (bytes :: (readAll s').1, (readAll s').2) := by
  rw [readAll]
  split <;> simp_all

theorem readAll_of_not_data {s s' : σ} {last : Reading} (h : read s = (last, s'))
    (noData : ∀ bytes, last ≠ .data bytes) : readAll s = ([], last, s') := by
  rw [readAll]
  split
  · rename_i bytes _ read
    rw [h, Prod.mk.injEq] at read
    exact absurd read.1 (noData bytes)
  · rename_i read
    rw [h, Prod.mk.injEq] at read
    obtain ⟨rfl, rfl⟩ := read
    rfl

theorem sent_readAll (s : σ) : sent (readAll s).2.2 = sent s := by
  fun_induction readAll s with
  | case1 s bytes s' read chunks last s'' all ih =>
    have unsent := sent_read s
    rw [read] at unsent
    rw [all] at ih
    exact ih.trans unsent
  | case2 s last s' noData read =>
    have unsent := sent_read s
    rwa [read] at unsent

end ByteStream

/-! ## What some bytes hold -/

structure Contents where
  packets : List Packet
  /-- What is wrong with the bytes behind the packets. -/
  fault : Option Fault
  /-- The bytes behind the packets, without those that are wrong. -/
  rest : Bytes

/-- Takes the frames out of some bytes, up to the first that is none. -/
def Contents.of (limit : Nat) (bytes : Bytes) : Contents :=
  match _found : Next.of limit bytes with
  | .incomplete => ⟨[], none, bytes⟩
  | .fault f rest => ⟨[], some f, rest⟩
  | .packet p rest =>
    let contents := of limit rest
    { contents with packets := p :: contents.packets }
termination_by bytes.length
decreasing_by exact Next.length_rest _found

namespace Contents

variable {limit : Nat} {bytes rest : Bytes}

theorem of_incomplete (h : Next.of limit bytes = .incomplete) : of limit bytes = ⟨[], none, bytes⟩ := by
  rw [of]
  split <;> simp_all

theorem of_fault {f : Fault} (h : Next.of limit bytes = .fault f rest) :
    of limit bytes = ⟨[], some f, rest⟩ := by
  rw [of]
  split <;> simp_all

theorem of_packet {p : Packet} (h : Next.of limit bytes = .packet p rest) :
    of limit bytes = { of limit rest with packets := p :: (of limit rest).packets } := by
  rw [of]
  split <;> simp_all

end Contents

namespace Engine

variable {e e' : Engine}

/-- Takes packets in their order, up to the first that makes the engine fail. -/
def takePackets (ps : List Packet) : EngineM Unit := ps.forM takePacket

/-- Takes the packets, and fails behind them if there is something wrong. -/
def takeContents (contents : Contents) : EngineM Unit := do
  takePackets contents.packets
  if let some f := contents.fault then fail f

theorem takePackets_cons (p : Packet) (ps : List Packet) (e : Engine) :
    takePackets (p :: ps) e = match takePacket p e with
      | .ok () e => takePackets ps e
      | .error f e => .error f e := by
  change (takePacket p >>= fun _ => takePackets ps) e = _
  rw [run_bind]
  cases takePacket p e <;> rfl

theorem takeContents_eq (contents : Contents) (e : Engine) : takeContents contents e =
    match takePackets contents.packets e with
    | .ok () e =>
      match contents.fault with
      | some f => fail f e
      | none => .ok () e
    | .error f e => .error f e := by
  unfold takeContents
  rw [run_bind]
  cases takePackets contents.packets e with
  | ok _ e => cases contents.fault <;> rfl
  | error f e => rfl

theorem takeAll_of_incomplete {limit : Nat} {received : Bytes} (e : Engine)
    (h : Next.of limit received = .incomplete) : e.takeAll limit received = (.ok (), received, e) := by
  rw [takeAll]
  split <;> simp_all

theorem takeAll_of_fault {limit : Nat} {received rest : Bytes} {f : Fault} (e : Engine)
    (h : Next.of limit received = .fault f rest) :
    e.takeAll limit received = (.error f, rest, { e with fault := some f }) := by
  rw [takeAll]
  split <;> simp_all

theorem takeAll_of_packet {limit : Nat} {received rest : Bytes} {p : Packet}
    (h : Next.of limit received = .packet p rest) (ran : Engine.takePacket p e = .ok () e') :
    e.takeAll limit received = e'.takeAll limit rest := by
  rw [takeAll]
  split
  · simp_all
  · simp_all
  · rename_i found
    rw [h, Next.packet.injEq] at found
    obtain ⟨rfl, rfl⟩ := found
    rw [ran]

theorem takeAll_of_refused {limit : Nat} {received rest : Bytes} {p : Packet} {f : Fault}
    (h : Next.of limit received = .packet p rest) (ran : Engine.takePacket p e = .error f e') :
    e.takeAll limit received = (.error f, rest, e') := by
  rw [takeAll]
  split
  · simp_all
  · simp_all
  · rename_i found
    rw [h, Next.packet.injEq] at found
    obtain ⟨rfl, rfl⟩ := found
    rw [ran]

/-- Packets that are taken as they are found are taken as if they had been found all before. -/
theorem takeAll_eq (limit : Nat) (bytes : Bytes) (e : Engine) :
    match takeContents (.of limit bytes) e with
    | .ok () e' => e.takeAll limit bytes = (.ok (), (Contents.of limit bytes).rest, e')
    | .error f e' => ∃ rest, e.takeAll limit bytes = (.error f, rest, e') := by
  fun_induction takeAll limit bytes e with
  | case1 bytes e found =>
    rw [Contents.of_incomplete found]
    rfl
  | case2 bytes e f rest found =>
    rw [Contents.of_fault found]
    exact ⟨rest, rfl⟩
  | case3 bytes e p rest found e' ran ih =>
    rw [Contents.of_packet found, takeContents_eq, takePackets_cons, ran]
    rw [takeContents_eq] at ih
    exact ih
  | case4 bytes e p rest found f e' ran =>
    rw [Contents.of_packet found, takeContents_eq, takePackets_cons, ran]
    exact ⟨rest, rfl⟩

/-- What was left over is taken together with what follows. -/
theorem takeAll_append {limit : Nat} {bytes rest : Bytes} (h : e.takeAll limit bytes = (.ok (), rest, e'))
    (more : Bytes) : e.takeAll limit (bytes ++ more) = e'.takeAll limit (rest ++ more) := by
  fun_induction takeAll limit bytes e with
  | case1 bytes e found =>
    cases h
    rfl
  | case2 bytes e f rest found => simp at h
  | case3 bytes e p rest found e1 ran ih =>
    rw [takeAll_of_packet (Next.of_append_packet found more) ran, ih h]
  | case4 bytes e p rest found f e1 ran => simp at h

/-- What follows a failure makes no difference. -/
theorem takeAll_append_of_error {limit : Nat} {bytes rest : Bytes} {f : Fault}
    (h : e.takeAll limit bytes = (.error f, rest, e')) (more : Bytes) :
    e.takeAll limit (bytes ++ more) = (.error f, rest ++ more, e') := by
  fun_induction takeAll limit bytes e with
  | case1 bytes e found => simp at h
  | case2 bytes e f rest found =>
    cases h
    exact takeAll_of_fault e (Next.of_append_fault found more)
  | case3 bytes e p rest found e1 ran ih =>
    rw [takeAll_of_packet (Next.of_append_packet found more) ran, ih h]
  | case4 bytes e p rest found f e1 ran =>
    cases h
    exact takeAll_of_refused (Next.of_append_packet found more) ran

end Engine

namespace Client

variable {σ : Type} [ByteStream σ] {c : Client} {s s' : σ}

theorem lift_ready (whole : c.engine.fault = none)
    (connected : c.engine.connected = true) : lift Engine.ready c = (.ok (), c) := by
  rw [lift, Engine.ready_eq, whole, connected]
  rfl

theorem takeInput_of_data {received bytes : Bytes} {engine : Engine}
    (taken : c.engine.takeAll c.recvCapacity c.received = (.ok (), received, engine))
    (read : ByteStream.read s = (.data bytes, s')) :
    c.takeInput s = takeInput { c with engine, received := received ++ bytes } s' := by
  rw [takeInput, taken]
  dsimp only
  split <;> simp_all

/-- A client that has read all there is goes on, or notes why there will be no more. -/
def stopReading (last : Reading) (c : Client) (s : σ) : Except Fault Unit × Client × σ :=
  match last.fault? with
  | some f => (.error f, c.fail f, s)
  | none => (.ok (), c, s)

theorem takeInput_of_last {received : Bytes} {engine : Engine} {last : Reading}
    (taken : c.engine.takeAll c.recvCapacity c.received = (.ok (), received, engine))
    (read : ByteStream.read s = (last, s')) (noData : ∀ bytes, last ≠ .data bytes) :
    c.takeInput s = stopReading last { c with engine, received } s' := by
  rw [takeInput, taken]
  dsimp only
  split
  all_goals
    rename_i read'
    rw [read, Prod.mk.injEq] at read'
    obtain ⟨rfl, rfl⟩ := read'
  · exact absurd rfl (noData _)
  · rfl
  · rfl
  · rfl

/-- Reading in pieces comes to reading all at once. -/
theorem takeInput_eq (c : Client) (s : σ) :
    match ByteStream.readAll s with
    | (chunks, last, s') =>
      match c.engine.takeAll c.recvCapacity (c.received ++ chunks.flatten) with
      | (.ok (), rest, engine) => c.takeInput s = stopReading last { c with engine, received := rest } s'
      | (.error f, _, engine) => (c.takeInput s).1 = .error f ∧ (c.takeInput s).2.1.engine = engine := by
  fun_induction takeInput c s with
  | case1 c s f received e taken =>
    -- What has been read already fails, so the rest of the stream is not asked for.
    dsimp only
    rw [Engine.takeAll_append_of_error taken]
    exact ⟨rfl, rfl⟩
  | case2 c s received e taken bytes s' read ih =>
    -- One more chunk: what is left over so far goes in front of it.
    rw [ByteStream.readAll_of_data read]
    dsimp only at ih ⊢
    rw [List.flatten_cons, Engine.takeAll_append taken, ← List.append_assoc]
    exact ih
  | case3 c s received e taken s' read | case4 c s received e taken s' read
  | case5 c s received e taken s' read =>
    rw [ByteStream.readAll_of_not_data read (by simp)]
    dsimp only
    rw [List.flatten_nil, List.append_nil, taken]
    rfl

/-- Reading sends nothing. -/
theorem sent_takeInput (c : Client) (s : σ) :
    ByteStream.sent (c.takeInput s).2.2 = ByteStream.sent s := by
  fun_induction takeInput c s with
  | case1 c s f received e h => rfl
  | case2 c s received e h bytes s' read ih =>
    have hs := ByteStream.sent_read s
    rw [read] at hs
    rw [ih, hs]
  | case3 c s received e h s' read | case4 c s received e h s' read | case5 c s received e h s' read =>
    have hs := ByteStream.sent_read s
    rwa [read] at hs

/-- What an exchange does once it has read: keep-alive, and then output. -/
def finish (now : Nat) (c : Client) (s : σ) : Except Fault Unit × Client × σ :=
  match lift (Engine.serviceKeepAlive now) c with
  | (.error f, c) => (.error f, c, s)
  | (.ok (), c) => c.writeOutput now s

/-- What an exchange comes to, said of all bytes at once: those left over from before and behind them
everything that can be read. Packets are taken in their order. The first that fails ends the exchange,
and if none does then what came behind the bytes is noted, or all goes on with keep-alive and output. -/
def SyncsAsOne (now : Nat) (c : Client) (s : σ) : Prop :=
  match ByteStream.readAll s with
  | (chunks, last, s') =>
    let contents := Contents.of c.recvCapacity (c.received ++ chunks.flatten)
    match Engine.takeContents contents c.engine with
    | .error f engine =>
      (c.sync now s).1 = .error f ∧ (c.sync now s).2.1.engine = engine ∧
        ByteStream.sent (c.sync now s).2.2 = ByteStream.sent s
    | .ok () engine =>
      let c' := { c with engine, received := contents.rest }
      match last.fault? with
      | some f => c.sync now s = (.error f, c'.fail f, s')
      | none => c.sync now s = c'.finish now s'

theorem sync_eq (whole : c.engine.fault = none) (connected : c.engine.connected = true) (now : Nat)
    (s : σ) : c.sync now s =
      match c.takeInput s with
      | (.error f, c, s) => (.error f, c, s)
      | (.ok (), c, s) => c.finish now s := by
  unfold sync
  rw [lift_ready whole connected]
  rfl

theorem syncsAsOne (whole : c.engine.fault = none) (connected : c.engine.connected = true) (now : Nat)
    (s : σ) : SyncsAsOne now c s := by
  have read := takeInput_eq c s
  have unsent := sent_takeInput c s
  unfold SyncsAsOne
  rw [sync_eq whole connected]
  generalize ByteStream.readAll s = all at read ⊢
  obtain ⟨chunks, last, s'⟩ := all
  have took := Engine.takeAll_eq c.recvCapacity (c.received ++ chunks.flatten) c.engine
  -- `read` puts all bytes together, and `took` takes the frames out of them before any is handled.
  dsimp only at read ⊢
  cases ran : Engine.takeContents (.of c.recvCapacity (c.received ++ chunks.flatten)) c.engine with
  | error f engine =>
    rw [ran] at took
    obtain ⟨rest, took⟩ := took
    rw [took] at read
    rcases h : c.takeInput s with ⟨result, c', s''⟩
    rw [h] at read unsent
    obtain ⟨rfl, rfl⟩ := read
    exact ⟨rfl, rfl, unsent⟩
  | ok _ engine =>
    rw [ran] at took
    rw [show c.engine.takeAll _ _ = _ from took] at read
    dsimp only at read ⊢
    rw [read]
    unfold stopReading
    cases last.fault? <;> rfl

end Client

/-! ## A stream that keeps what has been read -/

/-- A stream with everything that has been read from it. -/
structure Tapped (σ : Type) where
  stream : σ
  heard : Bytes := []

namespace Tapped

variable {σ : Type}

/-- What the stream underneath does. -/
def through {α : Type} (t : Tapped σ) (r : α × σ) : α × Tapped σ := (r.1, { t with stream := r.2 })

theorem through_eq {α : Type} {t t' : Tapped σ} {r : α × σ} {a : α} (h : t.through r = (a, t')) :
    r = (a, t'.stream) := by
  cases h
  rfl

variable [ByteStream σ]

def read (t : Tapped σ) : Reading × Tapped σ :=
  match ByteStream.read t.stream with
  | (.data bytes, stream) => (.data bytes, ⟨stream, t.heard ++ bytes⟩)
  | (last, stream) => (last, { t with stream })

theorem stream_read (t : Tapped σ) :
    t.read.1 = (ByteStream.read t.stream).1 ∧ t.read.2.stream = (ByteStream.read t.stream).2 := by
  unfold read
  split <;> simp_all

instance : ByteStream (Tapped σ) where
  read := read
  write t bytes := t.through (ByteStream.write t.stream bytes)
  flush t := t.through (ByteStream.flush t.stream)
  shutdown t := t.through (ByteStream.shutdown t.stream)
  sent t := ByteStream.sent t.stream
  backlog t := ByteStream.backlog t.stream
  backlog_read := by
    intro t bytes t' h
    obtain ⟨data, stream⟩ := stream_read t
    rw [h] at data stream
    exact ByteStream.backlog_read (Prod.ext data.symm stream.symm)
  sent_read t := by
    rw [(stream_read t).2]
    exact ByteStream.sent_read t.stream
  write_le h := ByteStream.write_le (through_eq h)
  sent_accepted h := ByteStream.sent_accepted (through_eq h)
  sent_refused h := ByteStream.sent_refused (through_eq h)
  sent_flush t := ByteStream.sent_flush t.stream
  sent_shutdown t := ByteStream.sent_shutdown t.stream

theorem heard_read {t t' : Tapped σ} {r : Reading} (h : ByteStream.read t = (r, t')) :
    t'.heard = t.heard ++ match r with
      | .data bytes => bytes
      | .ended | .failed | .blocked => [] := by
  change t.read = _ at h
  unfold read at h
  split at h
  · cases h
    rfl
  · rename_i last stream noData read
    cases h
    cases r with
    | data bytes => exact (noData bytes rfl).elim
    | ended | failed | blocked => exact (List.append_nil _).symm

theorem heard_write {t t' : Tapped σ} {bytes : Bytes} {w : Writing}
    (h : ByteStream.write t bytes = (w, t')) : t'.heard = t.heard := by
  cases h
  rfl

theorem heard_flush (t : Tapped σ) : (ByteStream.flush t).2.heard = t.heard := rfl

theorem heard_sendAll (t : Tapped σ) (bytes : Bytes) :
    (ByteStream.sendAll t bytes).2.heard = t.heard := by
  fun_induction ByteStream.sendAll t bytes with
  | case1 t bytes empty => rfl
  | case2 t bytes some_ t' taken => exact heard_write taken
  | case3 t bytes some_ n t' taken pos ih => exact ih.trans (heard_write taken)
  | case4 t bytes some_ t' taken => exact heard_write taken
  | case5 t bytes some_ t' taken => exact heard_write taken

end Tapped

/-! ## What follows the verdict -/

variable {σ : Type}

/-- A client that waits for the verdict still has all it has read. -/
structure Unjudged (first c : Client) (t : Tapped σ) : Prop where
  whole : c.engine.fault = none
  limit : c.recvCapacity = first.recvCapacity
  received : c.received = first.received ++ t.heard

/-- A client that was welcomed has all it has read but for the frame of the verdict. -/
structure Welcomed (first c : Client) (t : Tapped σ) : Prop where
  whole : c.engine.fault = none
  connected : c.engine.connected = true
  limit : c.recvCapacity = first.recvCapacity
  verdict : ∃ frame present, first.received ++ t.heard = frame ++ c.received ∧
    Next.of first.recvCapacity (frame ++ c.received) = .packet (.connack present .accepted) c.received

/-- What can be said of a handshake after it has gone on. -/
def Unjudged.Outcome (first : Client) : Progress Handshake (Except Fault Unit) × Client × Tapped σ → Prop
  | (.waiting _, c, t) => Unjudged first c t
  | (.done (.ok ()), c, t) => Welcomed first c t
  | (.done (.error _), _, _) => True

namespace Unjudged

variable {first c c' : Client} {t t' : Tapped σ}

theorem heard (h : Unjudged first c t) (same : t'.heard = t.heard) : Unjudged first c t' where
  whole := h.whole
  limit := h.limit
  received := by rw [same, h.received]

theorem welcomed {p : Packet} {rest : Bytes} (h : Unjudged first c t)
    (found : Next.of c.recvCapacity c.received = .packet p rest)
    (accepted : Client.judge p { c with received := rest } = (.ok (), c')) : Welcomed first c' t := by
  obtain ⟨frame, cut⟩ := Next.rest_suffix found
  unfold Client.judge at accepted
  split at accepted
  · rename_i present
    cases accepted
    refine ⟨h.whole, rfl, h.limit, frame, present, ?_, ?_⟩
    · exact h.received.symm.trans cut.symm
    · rw [h.limit, ← cut] at found
      exact found
  · cases accepted
  · cases accepted

theorem greet {now : Nat} {options : ConnectOptions} {timeout : Nat} {g : Handshake}
    (ok : first.greet now options timeout = (some (.ok g), c)) (s : σ) : Unjudged first c ⟨s, []⟩ := by
  obtain ⟨whole, -, frame, -, -, rfl⟩ := Client.greeted_ok ok
  exact ⟨whole, rfl, (List.append_nil _).symm⟩

theorem block {g : Handshake} (h : Unjudged first c t) (now : Nat) :
    Outcome first (g.block now c t) := by
  unfold Handshake.block
  split
  · trivial
  · exact h

variable [ByteStream σ]

theorem awaitReply (h : Unjudged first c t) : match c.awaitReply t with
    | (none, c', t') => Unjudged first c' t'
    | (some (.ok ()), c', t') => Welcomed first c' t'
    | (some (.error _), _, _) => True := by
  fun_induction Client.awaitReply c t with
  | case1 c t f received found => trivial
  | case2 c t p received found verdict c' judged =>
    cases verdict with
    | ok _ => exact h.welcomed found judged
    | error f => trivial
  | case3 c t found bytes t' read ih =>
    refine ih ⟨h.whole, h.limit, ?_⟩
    rw [Tapped.heard_read read, ← List.append_assoc, ← h.received]
  | case4 c t found t' read => trivial
  | case5 c t found t' read => trivial
  | case6 c t found t' read => exact h.heard ((Tapped.heard_read read).trans (List.append_nil _))

theorem pollReply {g : Handshake} (h : Unjudged first c t) (now : Nat) :
    Outcome first (g.pollReply now c t) := by
  have replied := h.awaitReply
  unfold Handshake.pollReply
  generalize c.awaitReply t = reply at replied ⊢
  rcases reply with ⟨_ | _ | _, c', t'⟩
  · exact block replied now
  · trivial
  · exact replied

theorem pollFlush {g : Handshake} (h : Unjudged first c t) (now : Nat) :
    Outcome first (g.pollFlush now c t) := by
  have same := Tapped.heard_flush t
  unfold Handshake.pollFlush
  split
  · trivial
  · rename_i t' blocked
    rw [blocked] at same
    exact block (h.heard same) now
  · rename_i t' flushed
    rw [flushed] at same
    have sent : Unjudged first (c.outgoingSent now) t' :=
      ⟨h.whole, h.limit, (h.heard same).received⟩
    exact sent.pollReply now

theorem poll {g : Handshake} (h : Unjudged first c t) (now : Nat) :
    Outcome first (g.poll now c t) := by
  obtain ⟨deadline, stage⟩ := g
  unfold Handshake.poll
  cases stage with
  | sending rest =>
    have same := Tapped.heard_sendAll t rest
    dsimp only
    split
    · trivial
    · rename_i left t' taken
      rw [taken] at same
      exact block (h.heard same) now
    · rename_i t' taken
      rw [taken] at same
      exact pollFlush (h.heard same) now
  | flushing => exact h.pollFlush now
  | awaiting => exact h.pollReply now

end Unjudged

variable [ByteStream σ]

/-- A client that has greeted and waits, whatever the far side and the network do meanwhile. -/
inductive Connecting (first : Client) : Handshake → Client → Tapped σ → Prop
  | greeted {now : Nat} {options : ConnectOptions} {timeout : Nat} {g : Handshake} {c : Client}
      (ok : first.greet now options timeout = (some (.ok g), c)) (s : σ) :
      Connecting first g c ⟨s, []⟩
  | polled {now : Nat} {g g' : Handshake} {c c' : Client} {t t' : Tapped σ}
      (run : Connecting first g c t) (waits : g.poll now c t = (.waiting g', c', t')) :
      Connecting first g' c' t'
  | farSide {g : Handshake} {c : Client} {t : Tapped σ} (run : Connecting first g c t) (s : σ) :
      Connecting first g c { t with stream := s }

theorem Connecting.unjudged {first c : Client} {g : Handshake} {t : Tapped σ}
    (run : Connecting first g c t) : Unjudged first c t := by
  induction run with
  | greeted ok s => exact .greet ok s
  | @polled now g _ c _ t _ _ waits ih =>
    have after := ih.poll (g := g) now
    rwa [waits] at after
  | farSide _ s ih => exact ih.heard rfl

/-- A connected client takes what it can read as if it had come in one piece, and the bytes behind the
verdict of the handshake are the first of it. -/
theorem input_uncut :
    (∀ (c : Client) (now : Nat) (s : σ), c.engine.fault = none → c.engine.connected = true →
      Client.SyncsAsOne now c s) ∧
    ∀ (first c c' : Client) (g : Handshake) (t t' : Tapped σ) (now : Nat), Connecting first g c t →
      g.poll now c t = (.done (.ok ()), c', t') → Welcomed first c' t' := by
  refine ⟨fun c now s whole connected => Client.syncsAsOne whole connected now s, ?_⟩
  intro first c c' g t t' now run welcome
  have after := run.unjudged.poll (g := g) now
  rwa [welcome] at after

/-- A message is cut three times, the first time right behind the verdict. It comes before the end. -/
theorem input_uncut_message :
    ∃ (c : Client) (t : Tapped Link), Welcomed (.new 16 16 true 0) c t ∧ c.received = [0x32, 5] ∧
      let l : Link := { inbox := [[0, 1, 0x61], [0, 7, 0x30]], ended := true }
      Client.SyncsAsOne 0 c l ∧ (c.sync 0 l).1 = .error .connectionClosed ∧
        (c.sync 0 l).2.1.engine.handed = #[⟨"a", []⟩] := by
  let hello : Bytes := [0x10, 12, 0, 4, 77, 81, 84, 84, 4, 0, 0, 0, 0, 0]
  let first : Client := .new 16 16 true 0
  have greeted : first.greet 0 {} 1000 = (some (.ok ⟨1000, .sending hello⟩),
      { first with engine := { first.engine with outgoing := hello.toArray } }) := by cbv
  have run := Connecting.greeted greeted ({ inbox := [[0x20, 2, 0], [0, 0x32, 5]] } : Link)
  let c : Client := { first with
    engine := { first.engine with connected := true }
    received := [0x32, 5] }
  let t : Tapped Link := ⟨{ accepted := hello.toArray }, [0x20, 2, 0, 0, 0x32, 5]⟩
  have welcome := (input_uncut (σ := Link)).2 _ _ c _ _ t 0 run (by cbv)
  exact ⟨c, t, welcome, rfl, (input_uncut (σ := Link)).1 c 0 _ rfl rfl, by cbv, by cbv⟩

end MqttLink
