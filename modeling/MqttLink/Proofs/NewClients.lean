import MqttLink.Lines.Basic
import MqttLink.Proofs.Framing
import MqttLink.Proofs.Queueing
import MqttLink.Proofs.Steps

/-!
# New clients

A client that a broker has just accepted has sent its greeting and done nothing else: all ids are free
and nothing is queued. What a session remembers to subscribe can be written.
-/

namespace MqttLink

/-! ## The handshake of a client -/

/-- A client that has not gone further than its greeting. -/
structure Client.Untried (buffers : BufferSizes) (c : Client) : Prop where
  send : c.engine.sendCapacity = buffers.send.toNat
  recv : c.recvCapacity = buffers.recv.toNat
  /-- The greeting was longer than a ping. -/
  room : 2 ≤ c.engine.sendCapacity
  whole : c.engine.fault = none
  unpinged : c.engine.pingSent = none
  lastId : c.engine.lastId = 0
  pending : c.engine.pending = ∅

structure Client.Accepted (buffers : BufferSizes) (c : Client) : Prop extends Untried buffers c where
  connected : c.engine.connected = true
  outgoing : c.engine.outgoing = #[]
  /-- The acceptance was longer than a pong. -/
  heard : 2 ≤ c.recvCapacity

theorem Frame.two_le_of_write {kind : UInt8} {body frame : Bytes} (h : write kind body = some frame) :
    2 ≤ frame.length := by
  unfold write at h
  split at h
  · cases h
    have : 0 < (lengthBytes body.length).length := by
      unfold lengthBytes
      split <;> simp
    simp only [List.cons_append, List.length_cons, List.length_append]
    omega
  · simp at h

theorem Frame.two_le_scanLength {place sum n : Nat} {bytes : Bytes}
    (h : scanLength place sum bytes = some n) : 2 ≤ n := by
  induction bytes generalizing place sum with
  | nil => simp [scanLength] at h
  | cons b rest ih =>
    unfold scanLength at h
    dsimp only at h
    split at h
    · cases h
      rw [Nat.add_assoc]
      exact Nat.le_add_right 2 _
    · exact ih h

theorem Frame.two_le_totalLength? {received : Bytes} {n : Nat}
    (total : totalLength? received = .ok (some n)) : 2 ≤ n := by
  unfold totalLength? at total
  split at total
  · rename_i scanned
    cases total
    exact two_le_scanLength scanned
  · split at total <;> cases total

theorem Next.two_le_of_packet {limit : Nat} {received rest : Bytes} {p : Packet}
    (h : Next.of limit received = .packet p rest) : 2 ≤ limit := by
  obtain ⟨n, fits, total, -⟩ := Next.whole_of_packet h
  exact Nat.le_trans (Frame.two_le_totalLength? total) fits

namespace Client

variable {buffers : BufferSizes} {c c' : Client}

theorem untried_greet {listening : Bool} {start now timeout : Nat} {options : ConnectOptions}
    {h : Handshake}
    (ok : (Client.new buffers.send.toNat buffers.recv.toNat listening start).greet now options
      timeout = (some (.ok h), c')) : c'.Untried buffers ∧ h.stage ≠ .awaiting := by
  obtain ⟨-, rfl, frame, encoded, fits, rfl⟩ := greeted_ok ok
  have long := Frame.two_le_of_write encoded
  simp only [Client.new, List.size_toArray, List.length_nil] at fits
  refine ⟨⟨rfl, rfl, ?_, rfl, rfl, rfl, rfl⟩, by simp⟩
  change 2 ≤ buffers.send.toNat
  omega

/-- Where a handshake may stand, and what its success means. -/
def Shakes (buffers : BufferSizes) : Progress Handshake (Except Fault Unit) → Client → Prop
  | .waiting h, c => c.Untried buffers ∧ (h.stage = .awaiting → c.engine.outgoing = #[])
  | .done (.ok ()), c => c.Accepted buffers
  | .done (.error _), _ => True

theorem Untried.judge (u : c.Untried buffers) (empty : c.engine.outgoing = #[])
    (heard : 2 ≤ c.recvCapacity) {p : Packet} (ok : c.judge p = (.ok (), c')) :
    c'.Accepted buffers := by
  unfold Client.judge at ok
  split at ok
  · cases ok
    exact { u with connected := rfl, outgoing := empty, heard }
  · simp at ok
  · simp at ok

variable {σ : Type}

theorem Untried.block (u : c.Untried buffers) {h : Handshake}
    (sent : h.stage = .awaiting → c.engine.outgoing = #[]) (now : Nat) (s : σ) :
    Shakes buffers (h.block now c s).1 (h.block now c s).2.1 := by
  unfold Handshake.block
  split
  · trivial
  · exact ⟨u, sent⟩

variable [ByteStream σ]

theorem Untried.awaitReply (u : c.Untried buffers) (empty : c.engine.outgoing = #[]) (s : σ) :
    match c.awaitReply s with
    | (some (.ok ()), c, _) => c.Accepted buffers
    | (none, c, _) => c.Untried buffers ∧ c.engine.outgoing = #[]
    | (some (.error _), _, _) => True := by
  fun_induction Client.awaitReply c s with
  | case1 c s f received found => trivial
  | case2 c s p received found verdict c' judged =>
    cases verdict with
    | error f => trivial
    | ok _ =>
      have heard := Next.two_le_of_packet found
      exact Untried.judge (c := { c with received }) { u with } empty heard judged
  | case3 c s found bytes s' read ih => exact ih { u with } empty
  | case4 c s found s' read => trivial
  | case5 c s found s' read => trivial
  | case6 c s found s' read => exact ⟨u, empty⟩

theorem Untried.pollReply (u : c.Untried buffers) (h : Handshake) (empty : c.engine.outgoing = #[])
    (now : Nat) (s : σ) : Shakes buffers (h.pollReply now c s).1 (h.pollReply now c s).2.1 := by
  have awaited := u.awaitReply empty s
  unfold Handshake.pollReply
  split
  · rename_i verdict c' s' replied
    rw [replied] at awaited
    cases verdict with
    | error f => trivial
    | ok _ => exact awaited
  · rename_i c' s' replied
    rw [replied] at awaited
    exact awaited.1.block (fun _ => awaited.2) now s'

theorem Untried.pollFlush (u : c.Untried buffers) (h : Handshake) (now : Nat) (s : σ) :
    Shakes buffers (h.pollFlush now c s).1 (h.pollFlush now c s).2.1 := by
  unfold Handshake.pollFlush
  split
  · trivial
  · exact u.block (by simp) now _
  · have sent : (c.outgoingSent now).Untried buffers := { u with }
    exact sent.pollReply h rfl now _

theorem Untried.poll (u : c.Untried buffers) {h : Handshake}
    (sent : h.stage = .awaiting → c.engine.outgoing = #[]) (now : Nat) (s : σ) :
    Shakes buffers (h.poll now c s).1 (h.poll now c s).2.1 := by
  unfold Handshake.poll
  split
  · split
    · trivial
    · exact u.block (by simp) now _
    · exact u.pollFlush h now _
  · exact u.pollFlush h now s
  · rename_i awaiting
    exact u.pollReply h (sent awaiting) now s

end Client

/-! ## The dial of a line -/

namespace Lines

variable {settings : Settings}

/-- A dial that ends with a new client, if it ends with one. -/
def Dial.Proper (settings : Settings) : Dial → Prop
  | .ringing _ _ own .. | .unanswered own .. => own = settings
  | .shaking h _ s =>
    s.client.Untried settings.buffers ∧ (h.stage = .awaiting → s.client.engine.outgoing = #[])
  | .failed _ | .stranded => True

/-- The client that an attempt has ended with, if it has. -/
def Proper (settings : Settings) : Progress Dial (Except SessionError Speaker) → Prop
  | .waiting d => d.Proper settings
  | .done (.ok s) => s.client.Accepted settings.buffers
  | .done (.error _) => True

theorem proper_pollShaking {h : Handshake} {number : Option Nat} {s : Speaker}
    (proper : (Dial.shaking h number s).Proper settings) (now : Nat) (ls : Lines) :
    Proper settings (pollShaking now h number s ls).1 := by
  have shakes := proper.1.poll proper.2 now (ls.links[s.socket]?.getD {})
  unfold pollShaking onLink
  dsimp only
  split
  · rename_i h' s' ls' polled
    simp only [Prod.mk.injEq] at polled
    obtain ⟨waiting, rfl, -⟩ := polled
    rw [waiting] at shakes
    split <;> exact shakes
  · rename_i s' ls' polled
    simp only [Prod.mk.injEq] at polled
    obtain ⟨done, rfl, -⟩ := polled
    rw [done] at shakes
    exact shakes
  · trivial

theorem proper_pickUp (now : Nat) (acts : List Act) (plan : ConnectPlan) (handler : Option Handler)
    (ls : Lines) : (ls.pickUp now acts settings plan handler).1.Proper settings := by
  unfold pickUp
  dsimp only
  split
  · rename_i h client greeted
    obtain ⟨untried, stage⟩ := Client.untried_greet greeted
    exact ⟨untried, fun awaiting => absurd awaiting stage⟩
  · trivial
  · trivial

theorem proper_takeAnswer (now : Nat) (answer : Answer) (plan : ConnectPlan)
    (handler : Option Handler) (ls : Lines) :
    Proper settings (ls.takeAnswer now answer settings plan handler).1 := by
  unfold takeAnswer
  split
  · trivial
  · trivial
  · rename_i acts
    have proper : (ls.pickUp now acts settings plan handler).1.Proper settings :=
      proper_pickUp now acts plan handler ls
    split <;> rename_i picked <;> rw [picked] at proper
    · trivial
    · exact proper_pollShaking proper now _
    · exact proper

theorem proper_pollDial {d : Dial} (proper : d.Proper settings) (now : Nat) (ls : Lines) :
    Proper settings (pollDial now d ls).1 := by
  unfold pollDial
  split
  · trivial
  · trivial
  · exact proper_pollShaking proper now ls
  · obtain rfl := proper
    split
    · exact (rfl : _ = _)
    · exact proper_takeAnswer now _ _ _ ls
  · obtain rfl := proper
    split
    · exact (rfl : _ = _)
    · exact proper_takeAnswer now _ _ _ _

end Lines

/-! ## The client of a new connection -/

/-- A session whose clients speak the real protocol. -/
abbrev Lines.Online := Session Lines Speaker Dial Leave

def Phase.Proper (settings : Settings) : Phase Lines.Speaker Lines.Dial → Prop
  | .redialing d => d.Proper settings
  | .redialed (.ok s) => s.client.Accepted settings.buffers
  | .cycling | .resting _ | .backingOff .. | .redialed (.error _) | .ended => True

namespace Session

/-- Whatever the loop has dialed ends with a new client. -/
def Proper (x : Lines.Online) : Prop :=
  ∀ l, x.loop = some l → l.phase.Proper x.settings

variable {x y : Lines.Online}

theorem Proper.goTo (h : x.Proper) {g : Loop Lines.Speaker Lines.Dial → Loop Lines.Speaker Lines.Dial}
    (settings : y.settings = x.settings) (loop : y.loop = x.loop.map g)
    (phase : ∀ l, x.loop = some l → l.phase.Proper x.settings → (g l).phase.Proper x.settings) :
    y.Proper := by
  intro l hl
  rw [loop, Option.map_eq_some_iff] at hl
  obtain ⟨l', hl', rfl⟩ := hl
  rw [settings]
  exact phase l' hl' (h l' hl')

theorem Proper.loopStep {now : Nat} {r : Bool × Lines.Online}
    (h : x.Proper) (s : LoopStep Lines.backend now x r) : r.2.Proper := by
  have settings := s.settings
  cases s with
  | stay => exact h
  | block => exact h.goTo rfl rfl fun _ _ p => p
  | stop running stopping alive =>
    exact h.goTo settings (endLoop_loop ..) fun _ _ _ => trivial
  | @exchange awake y loop free up went =>
    obtain ⟨client, client', w, messages, -, -, -, rfl⟩ := pump_ok went
    obtain ⟨awake', waits⟩ := wait_loop Lines.backend now
      ((x.exchanged client' w messages).update (State.notify Lines.backend)).settings.syncInterval
      .resting ((x.exchanged client' w messages).update (State.notify Lines.backend))
    exact h.goTo settings waits fun _ _ _ => trivial
  | @schedule awake y attempt delay plan loop free deciding decided planned =>
    obtain ⟨awake', waits⟩ := wait_loop Lines.backend now delay.toNat
      (.backingOff · plan y.state.handler)
      (y.update fun s => { s with retries := attempt }.notify Lines.backend)
    rw [update_loop, deciding.keeps.2.1] at waits
    exact h.goTo settings waits fun _ _ _ => trivial
  | unplanned _ _ deciding | giveUp _ _ deciding =>
    refine h.goTo settings (g := fun l => { l with phase := .ended, awake := false }) ?_
      fun _ _ _ => trivial
    rw [setPhase_loop, update_loop, deciding.keeps.2.1]
    rfl
  | rested loop due => exact h.goTo rfl rfl fun _ _ _ => trivial
  | redial loop due free => exact h.goTo rfl rfl fun _ _ _ => rfl
  | @dialOn awake dial dial' w loop polled =>
    have proper := Lines.proper_pollDial (h _ loop) now x.outside
    rw [show Lines.pollDial now dial x.outside = _ from polled] at proper
    exact h.goTo rfl (Option.map_map ..) fun _ _ _ => proper
  | @dialed awake dial result w loop polled =>
    have proper := Lines.proper_pollDial (h _ loop) now x.outside
    rw [show Lines.pollDial now dial x.outside = _ from polled] at proper
    refine h.goTo rfl rfl fun _ _ _ => ?_
    cases result with
    | ok s => exact proper
    | error e => trivial
  | @record awake result loop free =>
    cases result with
    | ok s => exact h.goTo rfl rfl fun _ _ _ => trivial
    | error e =>
      obtain ⟨awake', waits⟩ := wait_loop Lines.backend now x.settings.syncInterval .resting
        (x.update fun s => (s.recordError Lines.backend e).setStatus Lines.backend .disconnected)
      exact h.goTo settings waits fun _ _ _ => trivial

theorem Proper.pursue (h : x.Proper) (now : Nat) (goal : Goal) :
    (x.pursue Lines.backend now goal).Proper := by
  cases goal <;> exact h

theorem Proper.tearDown (h : x.Proper) (now : Nat) (goal : Goal) :
    (x.tearDown Lines.backend now goal).Proper := by
  unfold Session.tearDown
  split
  · exact h.pursue now goal
  · exact h.goTo rfl rfl fun _ _ p => p

theorem Proper.callStep {now : Nat} {r : Bool × Lines.Online}
    (h : x.Proper) (s : CallStep Lines.backend now x r) : r.2.Proper := by
  cases s with
  | leave call up held =>
    unfold sayGoodbye
    rw [up, held]
    exact h
  | clear call past => exact Proper.pursue (fun _ hl => by simp at hl) now _
  | @dialed dial result w call polled =>
    cases result with
    | ok s =>
      rintro l ⟨⟩
      trivial
    | error e => exact h
  | stay | join | leaveOn | left | dialOn => exact h

theorem Proper.operateStep {op : Operation}
    {r : Except SessionError Unit × Lines.Online}
    (h : x.Proper) (s : OperateStep Lines.backend op x r) : r.2.Proper := by
  cases s <;> exact h

theorem Reachable.proper (r : Reachable Lines.backend x) : x.Proper := by
  induction r with
  | new settings w => simp [Proper]
  | @move x m _ _ ih =>
    cases m with
    | loop now => exact ih.loopStep (Session.loopStep Lines.backend now x)
    | call now => exact ih.callStep (Session.callStep Lines.backend now x)
    | connect now request handler =>
      change (x.connect Lines.backend now request handler).Proper
      unfold Session.connect
      split
      · exact ih
      · exact ih.tearDown now _
    | disconnect now => exact ih.tearDown now _
    | operate op => exact ih.operateStep (Session.operateStep Lines.backend op x)
    | outside | collect | rest => exact ih

theorem Reachable.accepted (r : Reachable Lines.backend x) {s : Lines.Speaker} {awake stopping : Bool}
    (loop : x.loop = some ⟨.redialed (.ok s), awake, stopping⟩) :
    s.client.Accepted x.settings.buffers :=
  r.proper _ loop

end Session

/-! ## The topics that are remembered -/

/-- Whether a subscription has a frame depends on the topic alone. -/
def Packet.Subscribable (topic : String) : Prop :=
  ∀ id qos, (Packet.subscribe id topic qos).encode.isSome = true

theorem Frame.isSome_write (kind : UInt8) (body : Bytes) :
    (write kind body).isSome = true ↔ body.length ≤ maxRemaining := by
  unfold write
  split <;> simp_all

theorem Packet.subscribable_of_encode {id : UInt16} {topic : String} {qos : QoS}
    (h : (Packet.subscribe id topic qos).encode.isSome = true) : Subscribable topic := by
  intro id' qos'
  have short := (Frame.isSome_write _ _).1 h
  exact (Frame.isSome_write _ _).2 (by simpa [Bytes.ofUInt16] using short)

/-- Nothing is remembered that was not written once. -/
theorem Session.Reachable.subscribable {x : Lines.Online}
    (r : Reachable Lines.backend x) {topic : String} {qos : QoS}
    (mem : (topic, qos) ∈ x.state.subscriptions) : Packet.Subscribable topic := by
  induction r generalizing topic qos with
  | new => simp at mem
  | @move x m _ _ ih =>
    rcases Move.run_subscriptions mem with old | ⟨speaker, speaker', w, ran⟩
    · exact ih old
    · rcases queued : speaker.client.subscribe topic qos with ⟨result, client⟩
      have same : (result, { speaker with client }, x.outside) = (.ok (), speaker', w) := by
        rw [← ran]
        simp only [Lines.backend, Lines.queueing, queued]
      cases same
      obtain ⟨engine, done, -⟩ := Client.lift_ok queued
      have queues := Engine.queues_subscribe topic qos speaker.client.engine
      rw [done] at queues
      exact Packet.subscribable_of_encode (queues.encoded _ List.mem_cons_self)

end MqttLink
