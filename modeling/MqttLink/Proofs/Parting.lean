import MqttLink.Proofs.Faults
import MqttLink.Proofs.NewClients
import MqttLink.Proofs.TearDown
import MqttLink.Proofs.Willing

/-!
# Parting

A client that leaves puts its farewell behind everything it has accepted, and all of that is written
before the stream is shut down. But the farewell needs room in the queue: where two bytes are missing the
client breaks instead, and what was queued is lost.
-/

namespace MqttLink

/-- The frame of a DISCONNECT. -/
def goodbye : Bytes := [0xE0, 0]

theorem encode_disconnect : Packet.disconnect.encode = some goodbye := rfl

/-! ## Streams that take and flush -/

namespace ByteStream

variable {σ : Type} [ByteStream σ] {P : σ → Prop} {s : σ}

/-- A property of streams that take something of whatever they are offered, and flush at once. -/
structure Serving (P : σ → Prop) : Prop extends Accepting P where
  flushes : ∀ {s}, P s → (ByteStream.flush s).1 = .flushed

theorem Accepting.sendAll (a : Accepting P) (holds : P s) (bytes : Bytes) :
    ∃ s', sendAll s bytes = (.all, s') ∧ P s' ∧ sent s' = sent s ++ bytes := by
  fun_induction ByteStream.sendAll s bytes with
  | case1 s bytes empty =>
    rw [List.isEmpty_iff.1 empty, List.append_nil]
    exact ⟨s, rfl, holds, rfl⟩
  | case2 s bytes some_ s' taken =>
    -- A stream that takes nothing of what it is offered is not one of these.
    obtain ⟨n, s'', taken', pos, -⟩ := a.write holds (by simpa using some_)
    rw [taken] at taken'
    cases taken'
    omega
  | case3 s bytes some_ n s' taken pos ih =>
    obtain ⟨n', s'', taken', -, holds'⟩ := a.write holds (by simpa using some_)
    rw [taken] at taken'
    cases taken'
    obtain ⟨s'', went, holds'', all⟩ := ih holds'
    refine ⟨s'', went, holds'', ?_⟩
    rw [all, sent_accepted taken, List.append_assoc, List.take_append_drop]
  | case4 s bytes some_ s' taken | case5 s bytes some_ s' taken =>
    -- Nor is one that waits or fails.
    obtain ⟨n, s'', taken', -⟩ := a.write holds (by simpa using some_)
    rw [taken] at taken'
    cases taken'

end ByteStream

/-! ## The farewell of a client -/

namespace Client

variable {c : Client}

/-- Whether there is room for a farewell. -/
def CanPart (c : Client) : Prop := c.engine.outgoing.size + 2 ≤ c.engine.sendCapacity

instance (c : Client) : Decidable c.CanPart := inferInstanceAs (Decidable (_ ≤ _))

/-- A client that has queued its farewell. -/
def parting (c : Client) : Client :=
  { c with engine := { c.engine with outgoing := c.engine.outgoing ++ goodbye, connected := false } }

theorem Ready.ready_bind (ready : c.Ready) (next : Unit → EngineM Unit) :
    (Engine.ready >>= next) c.engine = next () c.engine := by
  rw [Engine.run_bind, Engine.ready_eq, ready.whole, ready.connected]
  rfl

theorem Ready.leave_of_room (ready : c.Ready) (room : c.CanPart) (now : Nat) :
    c.leave now = (.ok ⟨now + Farewell.patience, .sending c.parting.engine.outgoing.toList⟩, c.parting) := by
  unfold leave lift
  rw [ready.ready_bind, Engine.queue_of_room encode_disconnect room]
  rfl

theorem Ready.leave_of_full (ready : c.Ready) (full : ¬ c.CanPart) (now : Nat) :
    c.leave now = (.error .sendBufferFull, c.fail .sendBufferFull) := by
  unfold leave lift
  rw [ready.ready_bind, Engine.queue_of_full encode_disconnect (Nat.not_le.1 full)]
  rfl

end Client

/-- All is written and flushed first, and only then is the stream shut down. -/
theorem Farewell.poll_serving {σ : Type} [ByteStream σ] {P : σ → Prop} (serving : ByteStream.Serving P)
    {s : σ} (holds : P s) (deadline now : Nat) (rest : Bytes) (c : Client) :
    ∃ s', Farewell.poll now ⟨deadline, .sending rest⟩ c s =
        pollClose now ⟨now + patience, .sending rest⟩ (c.outgoingSent now) s' ∧
      P s' ∧ ByteStream.sent s' = ByteStream.sent s ++ rest := by
  obtain ⟨s1, went, holds1, all⟩ := serving.sendAll holds rest
  have flushes := serving.flushes holds1
  have holds2 := (serving.flush holds1).2
  have unsent := ByteStream.sent_flush s1
  rcases flushed : ByteStream.flush s1 with ⟨result, s2⟩
  rw [flushed] at flushes holds2 unsent
  cases flushes
  refine ⟨s2, ?_, holds2, unsent.trans all⟩
  unfold poll
  dsimp only
  rw [went]
  dsimp only
  unfold pollFlush
  rw [flushed]

namespace Talk

variable {σ : Type} [ByteStream σ] {P : σ → Prop} {capacity : Nat} {t : Talk σ} {ps : List Packet}

/-- What becomes of a disconnect on a stream that takes and flushes everything. -/
structure Parts (P : σ → Prop) (t : Talk σ) (ps : List Packet) (now : Nat) : Prop where
  /-- All frames are sent, in their order, and behind them the farewell. Then the stream is shut down. -/
  room : t.client.CanPart → ∃ f, (Move.disconnect now).run t = { t with
      client := t.client.parting, work := .leaving f } ∧
    ∀ later, ∃ s, ∃ f' : Farewell, P s ∧ ByteStream.sent s = Packet.wire (ps ++ [.disconnect]) ∧
      f.poll later t.client.parting t.stream = f'.pollClose later (t.client.parting.outgoingSent later) s
  /-- The client breaks, and nothing that is still queued will ever be sent. -/
  full : ¬ t.client.CanPart →
    (Move.disconnect now).result? t = some (.error .sendBufferFull) ∧
    (Move.disconnect now).run t = { t with client := t.client.fail .sendBufferFull } ∧
    ∀ t', Onward ((Move.disconnect now).run t) t' →
      ByteStream.sent t'.stream = ByteStream.sent t.stream

theorem Run.parts (run : Run capacity t ps) (serving : ByteStream.Serving P) (idle : t.work = .idle)
    (ready : t.client.Ready) (holds : P t.stream) (now : Nat) : Parts P t ps now := by
  have balanced := run.sound.balanced
  rw [idle] at balanced
  constructor
  case room =>
    intro room
    refine ⟨_, by rw [Move.run, ready.leave_of_room room], ?_⟩
    intro later
    obtain ⟨s, polled, holds', all⟩ := Farewell.poll_serving serving holds (now + Farewell.patience) later
      t.client.parting.engine.outgoing.toList t.client.parting
    refine ⟨s, _, holds', ?_, polled⟩
    rw [all, Packet.wire_append, ← balanced.2 ready.whole]
    simp [Client.parting, Packet.wire, goodbye, Packet.encode]
  case full =>
    -- A fault is final, so the bytes stay where they are.
    intro full
    have left := ready.leave_of_full full now
    have broken : (Move.disconnect now).run t = { t with client := t.client.fail .sendBufferFull } := by
      rw [Move.run, left]
    refine ⟨by rw [Move.result?, left], broken, ?_⟩
    intro t' onward
    rw [broken] at onward
    exact (onward.frozen (f := .sendBufferFull) rfl idle).sent

end Talk

/-! ## The farewell on a link -/

namespace Link

variable {l l' : Link}

/-- A link that takes and flushes every byte at once. -/
structure Serving (l : Link) : Prop where
  room : l.room = none
  writes : l.writeFails = false
  accepts : l.acceptsNothing = false
  flushes : l.flushFails = false
  goes : l.flushStalls = false

/-- What the far side leaves alone when it does something. -/
structure Spared (l l' : Link) : Prop where
  accepted : l'.accepted = l.accepted
  closed : l'.closed = l.closed
  isShutdown : l'.isShutdown = l.isShutdown
  serving : l.Serving → l'.Serving

theorem Spared.trans {l'' : Link} (h : l.Spared l') (h' : l'.Spared l'') : l.Spared l'' where
  accepted := h'.accepted.trans h.accepted
  closed := h'.closed.trans h.closed
  isShutdown := h'.isShutdown.trans h.isShutdown
  serving serving := h'.serving (h.serving serving)

theorem Serving.flush (h : l.Serving) : ByteStream.flush l = (.flushed, l) := by
  change l.flush = _
  rw [Link.flush, if_neg (by simp [h.flushes]), if_neg (by simp [h.goes])]

theorem Serving.serving (h : l.Serving) :
    ByteStream.Serving fun l' : Link => ∃ accepted, l' = { l with accepted } where
  write := by
    rintro _ bytes ⟨accepted, rfl⟩ some_
    refine ⟨bytes.length, _, ?_, List.length_pos_iff.2 some_, accepted ++ bytes, rfl⟩
    change Link.write { l with accepted } bytes = _
    simp [Link.write, Link.accept, h.writes, h.accepts, h.room]
  flush := by
    rintro _ ⟨accepted, rfl⟩
    have serving : Serving { l with accepted } := { h with }
    rw [serving.flush]
    exact ⟨by simp, accepted, rfl⟩
  flushes := by
    rintro _ ⟨accepted, rfl⟩
    have serving : Serving { l with accepted } := { h with }
    rw [serving.flush]

theorem Serving.poll (h : l.Serving) (deadline now : Nat) (rest : Bytes) (c : Client) :
    Farewell.poll now ⟨deadline, .sending rest⟩ c l = (.done (.ok ()), c.outgoingSent now,
      { l with accepted := l.accepted ++ rest, isShutdown := true }) := by
  obtain ⟨_, polled, ⟨accepted, rfl⟩, all⟩ :=
    Farewell.poll_serving h.serving ⟨l.accepted, rfl⟩ deadline now rest c
  obtain rfl : accepted = l.accepted ++ rest :=
    Array.ext' (all.trans (Array.toList_appendList ..).symm)
  exact polled

end Link

namespace Lines

variable {ls : Lines} {l : Link} {s : Speaker}

/-- A link has become another one, and nothing else has happened to the links. -/
structure Puts (n : Nat) (l : Link) (ls ls' : Lines) : Prop where
  size : ls'.links.size = ls.links.size
  links : ∀ m, ls'.links[m]? = if m = n then some l else ls.links[m]?

variable {ls' ls'' : Lines} {l' : Link} {n : Nat}

theorem Puts.on (puts : Puts n l ls ls') : ls'.links[n]? = some l := by
  rw [puts.links, if_pos rfl]

theorem Puts.trans (puts : Puts n l ls ls') (puts' : Puts n l' ls' ls'') : Puts n l' ls ls'' where
  size := puts'.size.trans puts.size
  links m := by
    rw [puts'.links, puts.links]
    split <;> rfl

theorem puts_change (on : ls.links[n]? = some l) (f : Link → Link) : Puts n (f l) ls (ls.change n f) where
  size := by simp [change]
  links m := by
    simp only [change, Array.getElem?_modify]
    by_cases same : n = m
    · rw [if_pos same, if_pos same.symm, ← same, on]
      rfl
    · rw [if_neg same, if_neg (Ne.symm same)]

theorem onLink_puts {α : Type} (work : Client → Link → α × Client × Link)
    (on : ls.links[s.socket]? = some l) : ∃ ls', onLink work s ls =
      ((work s.client l).1, { s with client := (work s.client l).2.1 }, ls') ∧
        Puts s.socket (work s.client l).2.2 ls ls' := by
  refine ⟨_, by rw [onLink, on]; rfl, ?_⟩
  have cleared := puts_change on fun _ => {}
  exact cleared.trans (puts_change cleared.on fun _ => (work s.client l).2.2)

theorem pollLeave_serving (on : ls.links[s.socket]? = some l) (serving : l.Serving)
    (deadline now : Nat) (rest : Bytes) :
    ∃ ls', pollLeave now ⟨some ⟨deadline, .sending rest⟩, s⟩ ls =
        (.done { s with client := s.client.outgoingSent now }, ls') ∧
      ls'.links[s.socket]? = some { l with accepted := l.accepted ++ rest, isShutdown := true } := by
  obtain ⟨ls', worked, puts⟩ := onLink_puts (Farewell.poll now ⟨deadline, .sending rest⟩) on
  rw [serving.poll] at worked puts
  refine ⟨ls', ?_, puts.on⟩
  unfold pollLeave
  dsimp only
  rw [worked]

end Lines

/-! ## The farewell of a session -/

namespace Session

variable {ω κ δ φ : Type} {b : Backend ω κ δ φ} {x : Session ω κ δ φ}

/-- A loop that was told to stop and holds nothing. -/
def Stopped (x : Session ω κ δ φ) : Prop :=
  ∀ l, x.loop = some l → l.stopping = true ∧ l.phase.isAway = false

/-- It does nothing any more but end. -/
theorem Stopped.stepLoop (stopped : Stopped x) (now : Nat) :
    ∃ loop, (x.stepLoop b now).2 = { x with loop } ∧ Stopped { x with loop } := by
  unfold Session.stepLoop
  split
  · exact ⟨x.loop, rfl, stopped⟩
  · rename_i l running
    obtain ⟨asked, home⟩ := stopped l running
    split
    · exact ⟨x.loop, rfl, stopped⟩
    · rw [if_pos asked]
      have same : x.endLoop b l.phase = x.setPhase .ended := by
        unfold endLoop
        cases phase : l.phase <;> simp_all [Phase.isAway]
      refine ⟨_, same, ?_⟩
      intro l' loop
      rw [running] at loop
      cases loop
      exact ⟨asked, rfl⟩

theorem Disconnects.congr {y : Session ω κ δ φ} (disconnects : x.Disconnects) (loop : y.loop = x.loop)
    (call : y.call = x.call) (state : y.state = x.state) : y.Disconnects := by
  unfold Disconnects
  rw [call]
  exact disconnects.imp_right fun done => ⟨done.1, loop.trans done.2.loop, state.trans done.2.state⟩

theorem Disconnects.stepCall (disconnects : x.Disconnects) (now : Nat) :
    (x.stepCall b now).2.Disconnects := by
  rcases disconnects with goal | done
  · exact (callStep b now x).disconnects goal
  · rw [stepCall_of_isOver (by rw [done.1]; rfl)]
    exact .inr done

theorem CallStep.stopped {now : Nat} {r : Bool × Session ω κ δ φ} (s : CallStep b now x r)
    (undialed : ∀ d, x.call ≠ .dialing d) (stopped : Stopped x) : Stopped r.2 := by
  cases s with
  | stay | join | leaveOn | left => exact stopped
  | leave call up held =>
    unfold sayGoodbye
    rw [up, held]
    exact stopped
  | @clear goal call past =>
    intro l loop
    cases goal <;> cases loop
  | dialOn call | dialed call => exact absurd call (undialed _)

end Session

namespace Lines

variable {s : Speaker} {l : Link} {x y : Online}

/-- What a link has got in the end, if its client leaves. -/
def delivered (s : Speaker) (l : Link) : Bytes :=
  if s.client.CanPart then l.sent ++ s.client.engine.outgoing.toList ++ goodbye else l.sent

/-- How far a session has come with its farewell. -/
inductive Parting (s : Speaker) (l : Link) (x : Online) : Prop
  | asked {l' : Link} (call : x.call = .stopping .disconnect) (up : x.state.status = .connected)
      (held : x.state.client = some s) (on : x.outside.links[s.socket]? = some l')
      (spared : l.Spared l')
  | leaving {l' : Link} {f : Leave} (call : x.call = .leaving .disconnect f)
      (speaker : f.speaker.socket = s.socket)
      (farewell : if s.client.CanPart then
        ∃ deadline, f = ⟨some ⟨deadline, .sending s.client.parting.engine.outgoing.toList⟩,
          { s with client := s.client.parting }⟩
        else f.farewell = none)
      (on : x.outside.links[s.socket]? = some l') (spared : l.Spared l')
  | joining {l' : Link} {s' : Speaker} (call : x.call = .joining .disconnect)
      (held : x.state.client = some s') (speaker : s'.socket = s.socket)
      (on : x.outside.links[s.socket]? = some l') (sent : l'.sent = delivered s l)
      (isOpen : l'.closed = false)
  | gone {l' : Link} (call : x.call.isOver = true) (on : x.outside.links[s.socket]? = some l')
      (sent : l'.sent = delivered s l) (closed : l'.closed = true)

theorem Parting.congr (parting : Parting s l x) (call : y.call = x.call) (state : y.state = x.state)
    (outside : y.outside = x.outside) : Parting s l y := by
  cases parting with
  | asked call' up held on spared =>
    rw [← call] at call'
    rw [← state] at up held
    rw [← outside] at on
    exact .asked call' up held on spared
  | leaving call' speaker farewell on spared =>
    rw [← call] at call'
    rw [← outside] at on
    exact .leaving call' speaker farewell on spared
  | joining call' held speaker on sent isOpen =>
    rw [← call] at call'
    rw [← state] at held
    rw [← outside] at on
    exact .joining call' held speaker on sent isOpen
  | gone call' on sent closed =>
    rw [← call] at call'
    rw [← outside] at on
    exact .gone call' on sent closed

/-- The client says goodbye if it can. -/
theorem Parting.sayGoodbye (ready : s.client.Ready) (up : x.state.status = .connected)
    (held : x.state.client = some s) {l' : Link} (on : x.outside.links[s.socket]? = some l')
    (spared : l.Spared l') (now : Nat) : Parting s l (x.sayGoodbye backend now .disconnect) := by
  unfold Session.sayGoodbye
  rw [up, held]
  change Parting s l { x with
    outside := (leave now s x.outside).2
    state := { x.state with client := none }
    call := .leaving .disconnect (leave now s x.outside).1 }
  unfold leave
  by_cases room : s.client.CanPart
  · rw [ready.leave_of_room room]
    refine .leaving rfl rfl ?_ on spared
    rw [if_pos room]
    exact ⟨_, rfl⟩
  · rw [ready.leave_of_full room]
    refine .leaving rfl rfl ?_ on spared
    rw [if_neg room]

/-- All that is queued leaves, and the farewell with it. -/
theorem Parting.pollLeave (serving : l.Serving) (isOpen : l.closed = false) {f : Leave}
    (speaker : f.speaker.socket = s.socket)
    (farewell : if s.client.CanPart then
      ∃ deadline, f = ⟨some ⟨deadline, .sending s.client.parting.engine.outgoing.toList⟩,
        { s with client := s.client.parting }⟩
      else f.farewell = none) {l' : Link} (on : x.outside.links[s.socket]? = some l')
    (spared : l.Spared l') (now : Nat) :
    ∃ s' ls', Lines.pollLeave now f x.outside = (.done s', ls') ∧ s'.socket = s.socket ∧
      ∃ l'', ls'.links[s.socket]? = some l'' ∧ l''.sent = delivered s l ∧ l''.closed = false := by
  have sent : l'.sent = l.sent := congrArg Array.toList spared.accepted
  by_cases room : s.client.CanPart
  · rw [if_pos room] at farewell
    obtain ⟨deadline, rfl⟩ := farewell
    obtain ⟨ls', polled, link⟩ := pollLeave_serving
      (s := { s with client := s.client.parting }) on (spared.serving serving) deadline now
      s.client.parting.engine.outgoing.toList
    refine ⟨_, ls', polled, rfl, _, link, ?_, spared.closed.trans isOpen⟩
    rw [delivered, if_pos room, ← sent]
    simp [Link.sent, Client.parting]
  · rw [if_neg room] at farewell
    refine ⟨f.speaker, x.outside, by rw [Lines.pollLeave, farewell], speaker, l', on, ?_,
      spared.closed.trans isOpen⟩
    rw [delivered, if_neg room, sent]

theorem reset_closes {s' : Speaker} (held : x.state.client = some s')
    (on : x.outside.links[s'.socket]? = some l) :
    (x.act (State.reset backend)).outside.links[s'.socket]? = some { l with closed := true } := by
  have dropped : (State.reset backend x.state x.outside).2 = x.outside.close s'.socket := by
    unfold State.reset State.dropConnection
    rw [held]
    rfl
  rw [Session.act_outside, dropped]
  exact (puts_change on _).on

/-- The caller goes on, and once it has said goodbye it does not say it again. -/
theorem Parting.stepCall (parting : Parting s l x) (ready : s.client.Ready) (serving : l.Serving)
    (isOpen : l.closed = false) (now : Nat) : Parting s l (x.stepCall backend now).2 ∧
      ((x.stepCall backend now).2.call.isLeaving = true → ∃ goal, x.call = .stopping goal) := by
  cases parting with
  | asked call up held on spared =>
    have step : x.stepCall backend now = (true, x.sayGoodbye backend now .disconnect) := by
      rw [Session.stepCall, call]
    rw [step]
    exact ⟨.sayGoodbye ready up held on spared now, fun _ => ⟨_, call⟩⟩
  | leaving call speaker farewell on spared =>
    obtain ⟨s', ls', polled, same, l'', link, sent, open_⟩ :=
      Parting.pollLeave serving isOpen speaker farewell on spared now
    have step : x.stepCall backend now = (true, { x with
        outside := ls', state := { x.state with client := some s' }, call := .joining .disconnect }) := by
      rw [Session.stepCall, call]
      dsimp only
      rw [show backend.pollLeave = Lines.pollLeave from rfl, polled]
    rw [step]
    refine ⟨.joining rfl rfl same link sent open_, ?_⟩
    rintro ⟨⟩
  | joining call held speaker on sent open_ =>
    have stays : Session.CallStep backend now x (x.stepCall backend now) := Session.callStep ..
    generalize x.stepCall backend now = r at stays
    cases stays with
    | stay =>
      refine ⟨.joining call held speaker on sent open_, ?_⟩
      rw [call]
      rintro ⟨⟩
    | clear call' past =>
      cases call.symm.trans call'
      rw [← speaker] at on
      have closed := reset_closes (x := { x with loop := none }) held on
      rw [speaker] at closed
      refine ⟨.gone rfl closed sent rfl, ?_⟩
      rintro ⟨⟩
    | leave call' | join call' | leaveOn call' | left call' | dialOn call' | dialed call' =>
      cases call.symm.trans call'
  | gone call on sent closed =>
    rw [Session.stepCall_of_isOver call]
    refine ⟨.gone call on sent closed, ?_⟩
    rw [Call.not_leaving_of_over call]
    rintro ⟨⟩

/-! ## The whole of it -/

/-- Until the disconnect returns its caller can do nothing else. What happens outside leaves alone what
the client has done on the link. -/
def Tends (n : Nat) (x : Online) : Session.Move Lines → Prop
  | .loop _ | .call _ | .collect => True
  | .outside w => ∀ l, x.outside.links[n]? = some l → ∃ l', w.links[n]? = some l' ∧ l.Spared l'
  | .connect .. | .disconnect _ | .operate _ | .rest => False

theorem Parting.outside (parting : Parting s l x) {w : Lines}
    (tends : Tends s.socket x (.outside w)) : Parting s l { x with outside := w } := by
  cases parting with
  | asked call up held on spared =>
    obtain ⟨l'', on', spared'⟩ := tends _ on
    exact .asked call up held on' (spared.trans spared')
  | leaving call speaker farewell on spared =>
    obtain ⟨l'', on', spared'⟩ := tends _ on
    exact .leaving call speaker farewell on' (spared.trans spared')
  | joining call held speaker on sent isOpen =>
    obtain ⟨l'', on', spared'⟩ := tends _ on
    exact .joining call held speaker on' ((congrArg Array.toList spared'.accepted).trans sent)
      (spared'.closed.trans isOpen)
  | gone call on sent closed =>
    obtain ⟨l'', on', spared'⟩ := tends _ on
    exact .gone call on' ((congrArg Array.toList spared'.accepted).trans sent)
      (spared'.closed.trans closed)

theorem Parting.start (reachable : Session.Reachable backend x) (up : x.state.status = .connected)
    (held : x.state.client = some s) (on : x.outside.links[s.socket]? = some l) (now : Nat) :
    (x.disconnect backend now).Stopped ∧ Parting s l (x.disconnect backend now) := by
  have inv := reachable.inv
  have asks : x.disconnect backend now = { x with
      loop := x.loop.map fun l => { l with stopping := true }
      call := .stopping .disconnect } := by
    unfold Session.disconnect Session.tearDown
    rw [if_neg]
    simp [Session.snapshot, inv.told, up, Status.isInitialized]
  rw [asks]
  constructor
  · intro r running
    obtain ⟨r', running', rfl⟩ := Option.map_eq_some_iff.1 running
    exact ⟨rfl, by simpa using inv.home up running'⟩
  · exact .asked rfl up held on ⟨rfl, rfl, rfl, id⟩

theorem Parting.not_dialing (parting : Parting s l x) (d : Dial) : x.call ≠ .dialing d := by
  intro dialing
  cases parting with
  | asked call | leaving call | joining call => cases dialing.symm.trans call
  | gone call =>
    rw [dialing] at call
    cases call

theorem Parting.run (ready : s.client.Ready) (serving : l.Serving) (isOpen : l.closed = false)
    (parting : Parting s l x) (stopped : x.Stopped) (disconnects : x.Disconnects)
    (run : streams.Run (Tends s.socket) x y) : y.Stopped ∧ y.Disconnects ∧ Parting s l y := by
  induction run with
  | start => exact ⟨stopped, disconnects, parting⟩
  | @move y m run allowed closed tends ih =>
    obtain ⟨stopped, disconnects, parting⟩ := ih
    cases m with
    | loop now =>
      obtain ⟨loop, step, stopped'⟩ := stopped.stepLoop (b := backend) now
      have disconnects' := disconnects.stepLoop (b := backend) now
      change (y.stepLoop backend now).2.Stopped ∧ (y.stepLoop backend now).2.Disconnects ∧
        Parting s l (y.stepLoop backend now).2
      rw [step] at disconnects' ⊢
      exact ⟨stopped', disconnects', parting.congr rfl rfl rfl⟩
    | call now =>
      exact ⟨(Session.callStep backend now y).stopped parting.not_dialing stopped,
        disconnects.stepCall now, (parting.stepCall ready serving isOpen now).1⟩
    | outside w => exact ⟨stopped, disconnects.congr rfl rfl rfl, parting.outside tends⟩
    | collect => exact ⟨stopped, disconnects.congr rfl rfl rfl, parting.congr rfl rfl rfl⟩
    | connect | disconnect | operate | rest => exact tends.elim

/-- What can be said of a session that parts, at any time until the disconnect returns. -/
structure Departs (s : Speaker) (l : Link) (y : Online) : Prop where
  /-- The stream is neither shut down nor closed before all is sent, and closed in the end. -/
  link : ∃ l', y.outside.links[s.socket]? = some l' ∧
    (l'.closed = true ∨ l'.isShutdown ≠ l.isShutdown → l'.sent = delivered s l) ∧
    (y.call.isOver = true → l'.closed = true)
  /-- The disconnect returns after a turn of the loop and three of the caller. -/
  returns : ∀ now, ([Session.Move.loop now, .call now, .call now, .call now].foldl
    (fun x m => m.run backend x) y).call.isOver = true

theorem Parting.departs (ready : s.client.Ready) (serving : l.Serving) (isOpen : l.closed = false)
    (parting : Parting s l y) (stopped : y.Stopped) (disconnects : y.Disconnects) : Departs s l y := by
  constructor
  case link =>
    cases parting with
    | asked call up held on spared =>
      refine ⟨_, on, ?_, ?_⟩
      · rw [spared.closed, isOpen, spared.isShutdown]
        simp
      · rw [call]
        rintro ⟨⟩
    | leaving call speaker farewell on spared =>
      refine ⟨_, on, ?_, ?_⟩
      · rw [spared.closed, isOpen, spared.isShutdown]
        simp
      · rw [call]
        rintro ⟨⟩
    | joining call held speaker on sent open_ =>
      refine ⟨_, on, fun _ => sent, ?_⟩
      rw [call]
      rintro ⟨⟩
    | gone call on sent closed => exact ⟨_, on, fun _ => sent, fun _ => closed⟩
  case returns =>
    intro now
    have ends := disconnects.returns (b := backend) (fun r loop => (stopped r loop).1) now
    -- After the first turn of the caller it says goodbye no more.
    have ended := Session.loopOver_of_stopping (b := backend) (fun r loop => (stopped r loop).1) now
    have begun := (ended.stepCall (b := backend) (disconnects.stepLoop now) now).2.2
    obtain ⟨loop, step, -⟩ := stopped.stepLoop (b := backend) now
    have parting1 : Parting s l (y.stepLoop backend now).2 := by
      rw [step]
      exact parting.congr rfl rfl rfl
    have parting2 := (parting1.stepCall ready serving isOpen now).1
    refine ends.resolve_left fun leaving => ?_
    obtain ⟨goal, asked⟩ := (parting2.stepCall ready serving isOpen now).2 leaving
    exact begun goal asked

end Lines

/-- A client that is ready delivers all that it has accepted, and its farewell, if there is room for the
farewell. Otherwise what is still queued is lost. That is so for a client alone and for one in a session
that is connected, where the disconnect returns all the same. -/
theorem delivered_iff_room {c : Client} (ready : c.Ready) (now : Nat) :
    (∀ {σ : Type} [ByteStream σ] {P : σ → Prop} {capacity : Nat} {t : Talk σ} {ps : List Packet},
      ByteStream.Serving P → Talk.Run capacity t ps → t.client = c → t.work = .idle → P t.stream →
      Talk.Parts P t ps now) ∧
    (∀ {x y : Lines.Online} {s : Lines.Speaker} {l : Link}, Session.Reachable Lines.backend x →
      x.state.status = .connected → x.state.client = some s → s.client = c →
      x.outside.links[s.socket]? = some l → l.Serving → l.closed = false →
      Lines.streams.Run (Lines.Tends s.socket) (x.disconnect Lines.backend now) y →
      Lines.Departs s l y) := by
  constructor
  · intro σ _ P capacity t ps serving run client idle holds
    subst client
    exact run.parts serving idle ready holds now
  · intro x y s l reachable up held client on serving isOpen run
    subst client
    obtain ⟨stopped, parting⟩ := Lines.Parting.start reachable up held on now
    obtain ⟨stopped', disconnects, parting'⟩ :=
      parting.run ready serving isOpen stopped (reachable.disconnects now) run
    exact parting'.departs ready serving isOpen stopped' disconnects

/-- A publish of 16 bytes is written and the farewell behind it where the queue holds 18 bytes, and lost
where it holds 16. -/
theorem delivered_iff_room_narrow :
    (∃ (t : Talk Link) (ps : List Packet), Talk.Run 18 t ps ∧ Packet.wire ps =
        [0x10, 12, 0, 4, 0x4D, 0x51, 0x54, 0x54, 4, 0, 0, 0, 0, 0] ++
        [0x30, 14, 0, 1, 0x61, 0x68, 0x65, 0x6C, 0x6C, 0x6F, 0x20, 0x77, 0x6F, 0x72, 0x6C, 0x64] ∧
      ∃ s : Link, ByteStream.sent s = Packet.wire ps ++ [0xE0, 0]) ∧
    (∃ (x y : Lines.Online) (l : Link), x.settings.buffers.send = 16 ∧
      Lines.streams.Run (Lines.Tends 0) (x.disconnect Lines.backend 0) y ∧ y.call.isOver = true ∧
      y.outside.links[0]? = some l ∧ l.closed = true ∧
      l.sent = [0x10, 12, 0, 4, 0x4D, 0x51, 0x54, 0x54, 4, 2, 1, 0x90, 0, 0]) := by
  let message : Message := ⟨"a", [0x68, 0x65, 0x6C, 0x6C, 0x6F, 0x20, 0x77, 0x6F, 0x72, 0x6C, 0x64]⟩
  constructor
  · have run : Talk.Run 18 _ _ := .new (σ := Link) 64 false 0 { inbox := [[0x20, 2, 0, 0]] } rfl
    have run := run.move (m := .connect 0 {} 1000) rfl
    have run := run.move (m := .poll 0) trivial
    have run := run.move (m := .publish message .atMostOnce false) (by cbv)
    have serving : Link.Serving {} := ⟨rfl, rfl, rfl, rfl, rfl⟩
    have parts := (delivered_iff_room ⟨by cbv, by cbv⟩ 0).1 serving.serving run rfl (by cbv)
      ⟨#[0x10, 12, 0, 4, 0x4D, 0x51, 0x54, 0x54, 4, 0, 0, 0, 0, 0], by cbv⟩
    obtain ⟨f, -, goes⟩ := parts.room (by cbv)
    obtain ⟨s, -, -, all, -⟩ := goes 0
    exact ⟨_, _, run, by cbv, s, all.trans (by cbv)⟩
  · let accepts : Line := { answer := .link [.now (.feed [0x20, 2, 0, 0])] }
    have r : Session.Reachable Lines.backend _ :=
      .new { buffers := { send := 16 } } { script := [accepts] }
    have r := r.move (m := .connect 0 { host := "h" } none) rfl
    have r := r.move (m := .call 0) trivial
    have r := r.move (m := .operate (.publish message .atMostOnce false)) (by cbv)
    let s : Lines.Speaker :=
      { client :=
          { engine :=
              { sendCapacity := 16, connected := true, keepAlive := 400000, lastSent := 0,
                listening := false,
                outgoing := #[0x30, 14, 0, 1, 0x61, 0x68, 0x65, 0x6C, 0x6C, 0x6F, 0x20, 0x77, 0x6F, 0x72,
                  0x6C, 0x64] }
            recvCapacity := 1024 }
        socket := 0, handler := none }
    let l : Link := { accepted := #[0x10, 12, 0, 4, 0x4D, 0x51, 0x54, 0x54, 4, 2, 1, 0x90, 0, 0] }
    have asked : ∀ {x}, Session.Reachable Lines.backend x →
        Lines.streams.Run (Lines.Tends s.socket) (x.disconnect Lines.backend 0)
          (x.disconnect Lines.backend 0) := fun _ => .start
    have u := asked r
    have u := u.move (m := .loop 0) trivial trivial trivial
    have u := u.move (m := .call 0) trivial trivial trivial
    have u := u.move (m := .call 0) trivial trivial trivial
    have u := u.move (m := .call 0) trivial trivial trivial
    have ready : s.client.Ready := ⟨rfl, rfl⟩
    have departs := (delivered_iff_room ready 0).2 (s := s) (l := l) r (by cbv) (by cbv) rfl (by cbv)
      ⟨rfl, rfl, rfl, rfl, rfl⟩ rfl u
    obtain ⟨l', on, sent, closed⟩ := departs.link
    have closed' := closed (by cbv)
    exact ⟨_, _, l', by cbv, u, by cbv, on, closed', (sent (.inl closed')).trans (by cbv)⟩

end MqttLink
