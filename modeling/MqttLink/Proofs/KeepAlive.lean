import MqttLink.Proofs.Intake

/-!
# Keep-alive

A client pings if it has written nothing for the whole interval, and gives up if a ping stays
unanswered for as long. Both times are those of a run: when the ping was queued, and when the stream
took something last.
-/

namespace MqttLink

/-! ## What one look at the clock comes to -/

namespace Engine

variable {α β : Type} {e e' : Engine}

/-- All that can come of looking after the connection. -/
inductive Serviced (now : Nat) (e : Engine) : EStateM.Result Fault Engine Unit → Prop
  | off (off : e.keepAlive = 0) : Serviced now e (.ok () e)
  | waits {sent : Nat} (on : e.keepAlive ≠ 0) (waiting : e.pingSent = some sent)
      (early : now - sent < e.keepAlive) : Serviced now e (.ok () e)
  | late {sent : Nat} (on : e.keepAlive ≠ 0) (waiting : e.pingSent = some sent)
      (late : e.keepAlive ≤ now - sent) : Serviced now e (fail .keepAliveTimeout e)
  | rests (on : e.keepAlive ≠ 0) (answered : e.pingSent = none)
      (early : now - e.lastSent < e.keepAlive) : Serviced now e (.ok () e)
  | pings (on : e.keepAlive ≠ 0) (answered : e.pingSent = none)
      (due : e.keepAlive ≤ now - e.lastSent)
      (room : e.outgoing.size + (Packet.wire [.pingreq]).length ≤ e.sendCapacity) :
      Serviced now e (.ok () { e with
        outgoing := e.outgoing ++ Packet.wire [.pingreq]
        pingSent := some now })
  | full (on : e.keepAlive ≠ 0) (answered : e.pingSent = none)
      (due : e.keepAlive ≤ now - e.lastSent)
      (full : e.sendCapacity < e.outgoing.size + (Packet.wire [.pingreq]).length) :
      Serviced now e (fail .sendBufferFull e)

theorem serviced (now : Nat) (e : Engine) : Serviced now e (serviceKeepAlive now e) := by
  have encoded : Packet.pingreq.encode = some (Packet.wire [.pingreq]) := rfl
  rw [serviceKeepAlive_eq]
  split
  · rename_i off
    exact .off off
  · rename_i on
    split
    · rename_i sent waiting
      split
      · rename_i late
        exact .late on waiting late
      · rename_i early
        exact .waits on waiting (Nat.not_le.1 early)
    · rename_i answered
      split
      · rename_i due
        by_cases room : e.outgoing.size + (Packet.wire [.pingreq]).length ≤ e.sendCapacity
        · rw [queue_of_room encoded room]
          exact .pings on answered due room
        · rw [queue_of_full encoded (Nat.not_le.1 room)]
          exact .full on answered due (Nat.not_le.1 room)
      · rename_i early
        exact .rests on answered (Nat.not_le.1 early)

/-! ## What can be wrong with a packet -/

/-- The faults that a packet can be to blame for. -/
def blamed : Fault → Bool
  | .connectionClosed | .sendBufferFull | .ackOfUnknown | .subscribeFailed | .malformedPacket => true
  | .socketError | .recvBufferTooSmall | .keepAliveTimeout | .connectionRefused | .connectNotCalled
  | .unknown _ => false

def Blames (op : EngineM α) : Prop := ∀ e f e', op e = .error f e' → blamed f = true

theorem blames_fail {f : Fault} (own : blamed f = true) : Blames (fail f : EngineM α) := by
  rintro e f' e' ⟨⟩
  exact own

theorem blames_queue (p : Packet) : Blames (queue p) := by
  intro e f e'
  unfold queue
  split
  · rintro ⟨⟩
    rfl
  · split <;> rintro ⟨⟩
    rfl

theorem blames_queueTracked (p : Packet) (id : UInt16) (awaited : Awaited) :
    Blames (queueTracked p id awaited) := by
  intro e f e'
  unfold queueTracked
  split
  · rintro ⟨⟩
  · rename_i ran
    rintro ⟨⟩
    exact blames_queue p _ _ _ ran

theorem blames_goesOn (p : Packet) : Blames p.goesOn := by
  cases p with
  | pubrec id => exact blames_queueTracked _ _ _
  | suback id grants =>
    intro e f e'
    dsimp only [Packet.goesOn]
    split <;> rintro ⟨⟩
    rfl
  | _ => rintro e f e' ⟨⟩

theorem blames_takePacket (p : Packet) : Blames (takePacket p) := by
  have unasked : p.Unasked → Blames (takePacket p) := by
    intro h e f e'
    rw [takePacket_unasked h]
    split
    · exact blames_queue _ _ _ _
    · rintro ⟨⟩
  cases settles : p.settles? with
  | some x =>
    obtain ⟨id, w⟩ := x
    intro e f e'
    rw [takePacket_of_settles settles]
    split
    · exact blames_goesOn p _ _ _
    · rintro ⟨⟩
      rfl
  | none =>
    cases p with
    | publish p => exact unasked (.publish p)
    | pubrel id => exact unasked (.pubrel id)
    | pingresp | connack => rintro e f e' ⟨⟩
    | disconnect | connect | subscribe | unsubscribe | pingreq => exact blames_fail rfl
    | puback | pubrec | pubcomp | suback | unsuback => cases settles

/-! ## Reading takes no time -/

/-- Whatever goes wrong with this operation, it is not the time. -/
def Timeless (op : EngineM α) : Prop := ∀ e e', op e ≠ .error .keepAliveTimeout e'

theorem timeless_takePackets (ps : List Packet) : Timeless (takePackets ps) := by
  induction ps with
  | nil => rintro e e' ⟨⟩
  | cons p ps ih =>
    intro e e'
    rw [takePackets_cons]
    cases ran : takePacket p e with
    | ok _ e₁ => exact ih e₁ e'
    | error f e₁ =>
      rintro ⟨⟩
      exact absurd (blames_takePacket p e _ _ ran) (by decide)

end Engine

/-- All that can be wrong with some bytes. -/
theorem Next.fault_cases {limit : Nat} {bytes rest : Bytes} {f : Fault}
    (h : Next.of limit bytes = .fault f rest) : f = .malformedPacket ∨
      f = .recvBufferTooSmall ∧ ∃ n, Frame.totalLength? bytes = .ok (some n) ∧ limit < n := by
  have front := Next.front limit bytes
  generalize Next.of limit bytes = next at front h
  cases front with
  | unknown | part => cases h
  | endless =>
    cases h
    exact .inl rfl
  | tooLong total long =>
    cases h
    exact .inr ⟨rfl, _, total, long⟩
  | whole =>
    unfold Next.decoded at h
    split at h
    · cases h
      exact .inl rfl
    · cases h

theorem Contents.fault_ne_timeout (limit : Nat) (bytes : Bytes) :
    (Contents.of limit bytes).fault ≠ some .keepAliveTimeout := by
  fun_induction Contents.of limit bytes with
  | case1 bytes found => simp
  | case2 bytes f rest found =>
    rcases Next.fault_cases found with rfl | ⟨rfl, -⟩ <;> simp
  | case3 bytes p rest found contents ih => exact ih

namespace Client

variable {σ : Type} [ByteStream σ] {c c₁ : Client} {s s₁ : σ}

theorem takeInput_ne_timeout (c : Client) (s : σ) :
    (c.takeInput s).1 ≠ .error .keepAliveTimeout := by
  have read := takeInput_eq c s
  generalize ByteStream.readAll s = reads at read
  obtain ⟨chunks, last, s'⟩ := reads
  have took := Engine.takeAll_eq c.recvCapacity (c.received ++ chunks.flatten) c.engine
  have sound := Contents.fault_ne_timeout c.recvCapacity (c.received ++ chunks.flatten)
  generalize Contents.of c.recvCapacity (c.received ++ chunks.flatten) = contents at took sound
  dsimp only at read
  rw [Engine.takeContents_eq] at took
  cases ran : Engine.takePackets contents.packets c.engine with
  | error f e =>
    rw [ran] at took
    obtain ⟨rest, took⟩ := took
    rw [took] at read
    rw [read.1]
    rintro ⟨⟩
    exact Engine.timeless_takePackets _ _ _ ran
  | ok _ e =>
    rw [ran] at took
    cases bad : contents.fault with
    | some f =>
      rw [bad] at took sound
      obtain ⟨rest, took⟩ := took
      rw [took] at read
      rw [read.1]
      rintro ⟨⟩
      exact sound rfl
    | none =>
      rw [bad] at took
      rw [show c.engine.takeAll _ _ = _ from took] at read
      dsimp only at read
      rw [read, stopReading]
      cases last <;> simp [Reading.fault?]

/-! ## What is written, and when -/

/-- Something was taken just when more has been sent. -/
theorem drain_wrote (s : σ) (bytes : Bytes) (wrote : Bool) : (drain s bytes wrote).2.2.1 = true ↔
    wrote = true ∨ ByteStream.sent (drain s bytes wrote).2.2.2 ≠ ByteStream.sent s := by
  fun_induction drain s bytes wrote with
  | case1 s bytes wrote empty => simp
  | case2 s bytes wrote some_ s' taken =>
    have sent := ByteStream.sent_accepted taken
    simp [sent]
  | case3 s bytes wrote some_ n s' taken pos ih =>
    -- Something was taken here, so not all of `bytes` can still be left in the end.
    have all := sent_drain s' (bytes.drop n) true
    have less := length_drain_le s' (bytes.drop n) true
    have sent := ByteStream.sent_accepted taken
    have more : ByteStream.sent (drain s' (bytes.drop n) true).2.2.2 ≠ ByteStream.sent s := by
      intro same
      have lengths := congrArg List.length all
      have nonempty : 0 < bytes.length := List.length_pos_iff.2 (by simpa using some_)
      rw [same, sent] at lengths
      simp only [List.length_append, List.length_take, List.length_drop] at lengths less
      omega
    simp [ih, more]
  | case4 s bytes wrote some_ s' taken | case5 s bytes wrote some_ s' taken =>
    have sent := ByteStream.sent_refused taken (by simp)
    simp [sent]

theorem drain_error {bytes : Bytes} {wrote : Bool} {f : Fault}
    (h : (drain s bytes wrote).1 = .error f) : f = .connectionClosed ∨ f = .socketError := by
  fun_induction drain s bytes wrote with
  | case1 => cases h
  | case2 =>
    cases h
    exact .inl rfl
  | case3 s bytes wrote some_ n s' taken pos ih => exact ih h
  | case4 => cases h
  | case5 =>
    cases h
    exact .inr rfl

theorem writeOutput_error {now : Nat} {f : Fault} (h : (c.writeOutput now s).1 = .error f) :
    f = .connectionClosed ∨ f = .socketError := by
  have failed : ∀ f, (drain s c.engine.outgoing.toList false).1 = .error f →
      f = .connectionClosed ∨ f = .socketError := fun _ => drain_error
  unfold writeOutput at h
  rcases drained : drain s c.engine.outgoing.toList false with ⟨result, left, wrote, s'⟩
  rw [drained] at h failed
  cases result with
  | error g =>
    cases h
    exact failed _ rfl
  | ok _ =>
    dsimp only at h
    split at h
    · cases h
      exact .inr rfl
    · cases h

/-- The last write is noted at the time when more is sent. -/
theorem lastSent_writeOutput (now : Nat) (c : Client) (s : σ) :
    ByteStream.sent (c.writeOutput now s).2.2 = ByteStream.sent s ∧
        (c.writeOutput now s).2.1.engine.lastSent = c.engine.lastSent ∨
      ByteStream.sent (c.writeOutput now s).2.2 ≠ ByteStream.sent s ∧
        (c.writeOutput now s).2.1.engine.lastSent = now := by
  have sends := drain_wrote s c.engine.outgoing.toList false
  unfold writeOutput
  rcases drained : drain s c.engine.outgoing.toList false with ⟨result, left, wrote, s'⟩
  rw [drained] at sends
  have time : ByteStream.sent s' = ByteStream.sent s ∧
        (if wrote then now else c.engine.lastSent) = c.engine.lastSent ∨
      ByteStream.sent s' ≠ ByteStream.sent s ∧ (if wrote then now else c.engine.lastSent) = now := by
    cases wrote with
    | true => exact .inr ⟨by simpa using sends, rfl⟩
    | false => exact .inl ⟨by simpa using sends, rfl⟩
  have unsent := ByteStream.sent_flush s'
  cases result with
  | error f => exact time
  | ok _ =>
    dsimp only
    split
    all_goals
      rename_i flushed
      rw [flushed] at unsent
      rw [← unsent] at time
      exact time

theorem pingreq_not_mem_answers (ps : List Packet) : .pingreq ∉ ps.filterMap Packet.answer? := by
  intro mem
  obtain ⟨p, -, answered⟩ := List.mem_filterMap.1 mem
  cases p with
  | publish p =>
    obtain ⟨topic, payload, qos, id, retain, dup⟩ := p
    cases qos <;> cases answered
  | _ => cases answered

/-- The packet that is queued once everything has been read. -/
def pinged (now : Nat) (c : Client) : List Packet :=
  onSuccess (lift (Engine.serviceKeepAlive now) c) fun _ => (c.engine.ping? now).toList

/-- What comes of an exchange after everything has been read. -/
inductive Finished (now : Nat) (c : Client) (s : σ) :
    List Packet → Except Fault Unit × Client × σ → Prop
  | quiet (rests : c.engine.Rests now) : Finished now c s [] (c.writeOutput now s)
  | late {sent : Nat} (on : c.engine.keepAlive ≠ 0) (waiting : c.engine.pingSent = some sent)
      (late : c.engine.keepAlive ≤ now - sent) :
      Finished now c s [] (.error .keepAliveTimeout, c.fail .keepAliveTimeout, s)
  | pings (on : c.engine.keepAlive ≠ 0) (answered : c.engine.pingSent = none)
      (due : c.engine.keepAlive ≤ now - c.engine.lastSent)
      (room : c.engine.outgoing.size + 2 ≤ c.engine.sendCapacity) :
      Finished now c s [.pingreq] (writeOutput now { c with engine := { c.engine with
        outgoing := c.engine.outgoing ++ Packet.wire [.pingreq]
        pingSent := some now } } s)
  | full (on : c.engine.keepAlive ≠ 0) (answered : c.engine.pingSent = none)
      (due : c.engine.keepAlive ≤ now - c.engine.lastSent)
      (full : c.engine.sendCapacity < c.engine.outgoing.size + 2) :
      Finished now c s [] (.error .sendBufferFull, c.fail .sendBufferFull, s)

theorem finished (now : Nat) (c : Client) (s : σ) : Finished now c s (c.pinged now) (c.finish now s) := by
  have served := Engine.serviced now c.engine
  unfold finish pinged lift onSuccess Engine.ping?
  generalize Engine.serviceKeepAlive now c.engine = r at served ⊢
  cases served with
  | off off =>
    rw [if_neg (by simp [off])]
    exact .quiet (.inl off)
  | waits on waiting early =>
    rw [if_neg (by simp [waiting])]
    exact .quiet (.inr (by rwa [waiting]))
  | late on waiting late => exact .late on waiting late
  | rests on answered early =>
    rw [if_neg (by simp [on, answered, early])]
    exact .quiet (.inr (by rwa [answered]))
  | pings on answered due room =>
    rw [if_pos ⟨on, answered, due⟩]
    exact .pings on answered due room
  | full on answered due full => exact .full on answered due full

namespace Finished

variable {now : Nat} {ps : List Packet} {r : Except Fault Unit × Client × σ}

theorem late_iff (h : Finished now c s ps r) (on : c.engine.keepAlive ≠ 0) :
    r.1 = .error .keepAliveTimeout ↔
      ∃ pinged ∈ c.engine.pingSent.toList, c.engine.keepAlive ≤ now - pinged := by
  have written : ∀ c : Client, (c.writeOutput now s).1 ≠ .error .keepAliveTimeout := by
    intro c failed
    rcases writeOutput_error failed with closed | broken <;> contradiction
  cases h with
  | quiet rests =>
    have early := rests.resolve_left on
    refine iff_of_false (written c) ?_
    rintro ⟨pinged, mem, late⟩
    rw [Option.mem_toList] at mem
    rw [mem, Option.getD_some] at early
    omega
  | late _ waiting late =>
    refine iff_of_true rfl ⟨_, ?_, late⟩
    rw [waiting]
    exact List.mem_singleton_self _
  | pings _ answered => exact iff_of_false (written _) (by simp [answered])
  | full _ answered => exact iff_of_false (by simp) (by simp [answered])

theorem pings_iff (h : Finished now c s ps r) (on : c.engine.keepAlive ≠ 0) :
    (c.engine.pingSent.toList = [] ∧ c.engine.keepAlive ≤ now - c.engine.lastSent ↔
      if c.engine.outgoing.size + 2 ≤ c.engine.sendCapacity then .pingreq ∈ ps
      else r.1 = .error .sendBufferFull) := by
  have written : ∀ c : Client, (c.writeOutput now s).1 ≠ .error .sendBufferFull := by
    intro c failed
    rcases writeOutput_error failed with closed | broken <;> contradiction
  rw [Option.toList_eq_nil_iff]
  cases h with
  | quiet rests =>
    have early := rests.resolve_left on
    refine iff_of_false ?_ (by split <;> simp [written])
    rintro ⟨answered, due⟩
    rw [answered, Option.getD_none] at early
    omega
  | late _ waiting => exact iff_of_false (by simp [waiting]) (by split <;> simp)
  | pings _ answered due room =>
    rw [if_pos room]
    exact iff_of_true ⟨answered, due⟩ (List.mem_singleton_self _)
  | full _ answered due full =>
    rw [if_neg (Nat.not_le.2 full)]
    exact iff_of_true ⟨answered, due⟩ rfl

theorem young (h : Finished now c s ps r) (on : c.engine.keepAlive ≠ 0) (ok : r.1 = .ok ()) :
    .pingreq ∈ ps ∨ (∃ pinged ∈ c.engine.pingSent, now - pinged < c.engine.keepAlive) ∨
      now - c.engine.lastSent < c.engine.keepAlive := by
  cases h with
  | quiet rests =>
    have early := rests.resolve_left on
    right
    cases waiting : c.engine.pingSent with
    | none =>
      rw [waiting, Option.getD_none] at early
      exact .inr early
    | some pinged =>
      rw [waiting, Option.getD_some] at early
      exact .inl ⟨pinged, rfl, early⟩
  | pings => exact .inl (List.mem_singleton_self _)
  | late | full => cases ok

theorem off (h : Finished now c s ps r) (off : c.engine.keepAlive = 0) :
    .pingreq ∉ ps ∧ r.1 ≠ .error .keepAliveTimeout := by
  cases h with
  | quiet =>
    refine ⟨by simp, fun failed => ?_⟩
    rcases writeOutput_error failed with closed | broken <;> contradiction
  | late on | pings on | full on => exact absurd off on

end Finished

/-- What an exchange does to the times. -/
structure Ticked (now : Nat) (c : Client) (s : σ) (c' : Client) (s' : σ) : Prop where
  keepAlive : c'.engine.keepAlive = c.engine.keepAlive
  connected : c'.engine.connected = c.engine.connected
  pingSent : c'.engine.pingSent =
    if .pingreq ∈ c.syncQueued now s then some now
    else if .pingresp ∈ c.intake s then none
    else c.engine.pingSent
  answered : .pingreq ∈ c.syncQueued now s → .pingresp ∈ c.intake s ∨ c.engine.pingSent = none
  lastSent : ByteStream.sent s' = ByteStream.sent s ∧ c'.engine.lastSent = c.engine.lastSent ∨
    ByteStream.sent s' ≠ ByteStream.sent s ∧ c'.engine.lastSent = now

theorem Ready.pingreq_mem (ready : c.Ready) (now : Nat) (s : σ) : .pingreq ∈ c.syncQueued now s ↔
    (c.takeInput s).1 = .ok () ∧ .pingreq ∈ pinged now (c.takeInput s).2.1 := by
  have other := pingreq_not_mem_answers (c.taken s)
  unfold syncQueued
  rw [lift_ready ready.whole ready.connected]
  dsimp only
  rw [List.mem_append, or_iff_right other]
  rcases c.takeInput s with ⟨_ | _, c₁, s₁⟩
  · simp
  · simp [pinged]

theorem Ticked.of_took {ps : List Packet} {c' : Client} {s' : σ}
    (took : Engine.Took ps c.engine c'.engine) (unsent : ByteStream.sent s' = ByteStream.sent s)
    (intake : c.intake s = ps) {now : Nat} (unpinged : .pingreq ∉ c.syncQueued now s) :
    Ticked now c s c' s' where
  keepAlive := took.keepAlive
  connected := took.connected
  pingSent := by rw [took.pingSent, if_neg unpinged, intake]
  answered := fun mem => absurd mem unpinged
  lastSent := .inl ⟨unsent, took.lastSent⟩

theorem ticked_sync (now : Nat) (c : Client) (s : σ) :
    Ticked now c s (c.sync now s).2.1 (c.sync now s).2.2 := by
  rcases isReady : lift Engine.ready c with ⟨_ | _, c₁⟩
  · have took := took_lift Engine.quiet_ready c
    rw [isReady] at took
    have unpinged : .pingreq ∉ c.syncQueued now s := by simp [syncQueued, isReady]
    have intake : c.intake s = [] := by rw [intake, isReady]
    rw [sync, isReady]
    exact .of_took took rfl intake unpinged
  obtain ⟨rfl, whole, connected⟩ := lift_ready_ok isReady
  have ready : c₁.Ready := ⟨whole, connected⟩
  have intake := ready.intake_eq s
  have pings := ready.pingreq_mem now s
  have took := took_takeInput c₁ s
  have unsent := sent_takeInput c₁ s
  rw [sync_eq whole connected]
  rcases read : c₁.takeInput s with ⟨_ | _, c₂, s₂⟩
  · rw [read] at pings took unsent
    exact .of_took took unsent intake fun mem => by cases (pings.1 mem).1
  rw [read] at pings took unsent
  dsimp only at pings took unsent ⊢
  rw [← intake] at took
  have fin := finished now c₂ s₂
  generalize c₂.finish now s₂ = r at fin ⊢
  generalize c₂.pinged now = ps at fin pings
  replace pings : .pingreq ∈ c₁.syncQueued now s ↔ .pingreq ∈ ps := by simpa using pings
  -- Writing touches nothing else but the queue and the time of the last write.
  have writes : ∀ c₃ : Client, c₃.engine.keepAlive = c₂.engine.keepAlive →
      c₃.engine.connected = c₂.engine.connected → c₃.engine.lastSent = c₂.engine.lastSent →
      c₃.engine.pingSent = (if .pingreq ∈ ps then some now else c₂.engine.pingSent) →
      (.pingreq ∈ ps → c₂.engine.pingSent = none) →
      Ticked now c₁ s (c₃.writeOutput now s₂).2.1 (c₃.writeOutput now s₂).2.2 := by
    intro c₃ keepAlive connected lastSent pingSent answered
    obtain ⟨outgoing, time, fault, wrote⟩ := engine_writeOutput now c₃ s₂
    have writing := lastSent_writeOutput now c₃ s₂
    rw [unsent, lastSent, took.lastSent] at writing
    constructor
    case keepAlive =>
      rw [wrote]
      exact keepAlive.trans took.keepAlive
    case connected =>
      rw [wrote]
      exact connected.trans took.connected
    case pingSent =>
      rw [wrote]
      simp only [pingSent, took.pingSent, pings]
    case answered =>
      intro mem
      have none := answered (pings.1 mem)
      rw [took.pingSent] at none
      by_cases pong : .pingresp ∈ c₁.intake s
      · exact .inl pong
      · rw [if_neg pong] at none
        exact .inr none
    case lastSent => exact writing
  cases fin with
  | quiet => exact writes c₂ rfl rfl rfl (by simp) (by simp)
  | late => exact .of_took (took.fail _) unsent rfl (by simp [pings])
  | pings on answered => exact writes _ rfl rfl rfl (by simp) fun _ => answered
  | full => exact .of_took (took.fail _) unsent rfl (by simp [pings])

end Client

/-! ## Waits -/

section

variable {π α σ : Type}

/-- The queue has not left yet. -/
structure Stays (last : π → Prop) (c : Client) (r : Progress π α × Client × σ) : Prop where
  outgoing : r.2.1.engine.outgoing = c.engine.outgoing
  lastSent : r.2.1.engine.lastSent = c.engine.lastSent
  connected : r.2.1.engine.connected = c.engine.connected
  waits : ∀ w, r.1 = .waiting w → ¬ last w

/-- A wait for the far side only. -/
structure Rests (last : π → Prop) (c : Client) (r : Progress π α × Client × σ) : Prop where
  outgoing : r.2.1.engine.outgoing = c.engine.outgoing
  lastSent : r.2.1.engine.lastSent = c.engine.lastSent
  waits : ∀ w, r.1 = .waiting w → last w

end

section

variable {σ : Type} {c : Client} {s : σ} (now : Nat) (h : Handshake) (f : Farewell)

/-- All that is left to do is to hear the verdict. -/
def Handshake.Last : Prop := h.stage = .awaiting

/-- All that is left to do is to shut the stream down. -/
def Farewell.Last : Prop := f.stage = .closing

theorem Handshake.stays_block (sends : ¬ h.Last) : Stays Handshake.Last c (h.block now c s) := by
  unfold block
  split
  · exact ⟨rfl, rfl, rfl, by simp⟩
  · refine ⟨rfl, rfl, rfl, ?_⟩
    rintro _ ⟨⟩
    exact sends

theorem Farewell.stays_block (sends : ¬ f.Last) : Stays Farewell.Last c (f.block now c s) := by
  unfold block
  split
  · exact ⟨rfl, rfl, rfl, by simp⟩
  · refine ⟨rfl, rfl, rfl, ?_⟩
    rintro _ ⟨⟩
    exact sends

variable [ByteStream σ]

theorem Client.engine_awaitReply (c : Client) (s : σ) :
    ∃ fault connected, (c.awaitReply s).2.1.engine = { c.engine with fault, connected } := by
  fun_induction awaitReply c s with
  | case1 => exact ⟨_, _, rfl⟩
  | case2 c s p received found verdict c' judged =>
    unfold judge at judged
    split at judged <;> cases judged <;> exact ⟨_, _, rfl⟩
  | case3 c s found bytes s' read ih => exact ih
  | case4 | case5 | case6 => exact ⟨_, _, rfl⟩

theorem Handshake.rests_pollReply : Rests Handshake.Last c (h.pollReply now c s) := by
  obtain ⟨fault, connected, same⟩ := c.engine_awaitReply s
  unfold pollReply
  split
  all_goals
    rename_i ran
    rw [ran] at same
    dsimp only at same
  · exact ⟨by rw [same], by rw [same], by simp⟩
  · unfold block
    split
    · exact ⟨by rw [Client.fail, same], by rw [Client.fail, same], by simp⟩
    · refine ⟨by rw [same], by rw [same], ?_⟩
      rintro _ ⟨⟩
      rfl

theorem Farewell.rests_pollClose : Rests Farewell.Last c (f.pollClose now c s) := by
  unfold pollClose
  split
  · exact ⟨rfl, rfl, by simp⟩
  · split
    · exact ⟨rfl, rfl, by simp⟩
    · refine ⟨rfl, rfl, ?_⟩
      rintro _ ⟨⟩
      rfl

theorem Handshake.leaves_pollFlush : Stays Handshake.Last c (h.pollFlush now c s) ∨
    Rests Handshake.Last (c.outgoingSent now) (h.pollFlush now c s) := by
  unfold pollFlush
  split
  · exact .inl ⟨rfl, rfl, rfl, by simp⟩
  · exact .inl (stays_block now _ (by simp [Last]))
  · exact .inr (rests_pollReply now h)

theorem Farewell.leaves_pollFlush : Stays Farewell.Last c (f.pollFlush now c s) ∨
    Rests Farewell.Last (c.outgoingSent now) (f.pollFlush now c s) := by
  unfold pollFlush
  split
  · exact .inl ⟨rfl, rfl, rfl, by simp⟩
  · exact .inl (stays_block now _ (by simp [Last]))
  · exact .inr (rests_pollClose now _)

theorem Handshake.leaves_poll (sends : ¬ h.Last) : Stays Handshake.Last c (h.poll now c s) ∨
    Rests Handshake.Last (c.outgoingSent now) (h.poll now c s) := by
  unfold poll
  split
  · split
    · exact .inl ⟨rfl, rfl, rfl, by simp⟩
    · exact .inl (stays_block now _ (by simp [Last]))
    · exact leaves_pollFlush now h
  · exact leaves_pollFlush now h
  · rename_i awaiting
    exact absurd awaiting sends

theorem Farewell.leaves_poll (sends : ¬ f.Last) : Stays Farewell.Last c (f.poll now c s) ∨
    Rests Farewell.Last (c.outgoingSent now) (f.poll now c s) := by
  unfold poll
  split
  · split
    · exact .inl ⟨rfl, rfl, rfl, by simp⟩
    · exact .inl (stays_block now _ (by simp [Last]))
    · exact leaves_pollFlush now f
  · exact leaves_pollFlush now f
  · rename_i closing
    exact absurd closing sends

theorem Handshake.rests_poll (last : h.Last) : Rests Handshake.Last c (h.poll now c s) := by
  unfold poll
  rw [show h.stage = .awaiting from last]
  exact rests_pollReply now h

theorem Farewell.rests_poll (last : f.Last) : Rests Farewell.Last c (f.poll now c s) := by
  unfold poll
  rw [show f.stage = .closing from last]
  exact rests_pollClose now f

end

theorem Frame.write_ne_nil {kind : UInt8} {body frame : Bytes}
    (h : Frame.write kind body = some frame) : frame ≠ [] := by
  unfold Frame.write at h
  split at h
  · cases h
    simp
  · cases h

/-- No packet is so short that it is nothing. -/
theorem Packet.encode_ne_nil {p : Packet} {frame : Bytes} (h : p.encode = some frame) :
    frame ≠ [] := by
  cases p with
  | publish p =>
    obtain ⟨body, -, written⟩ := Option.bind_eq_some_iff.1 h
    exact Frame.write_ne_nil written
  | pingreq | disconnect =>
    cases h
    simp
  | connack | suback | unsuback | pingresp => cases h
  | _ => exact Frame.write_ne_nil h

namespace Talk

variable {σ : Type} {t : Talk σ}

/-- A wait for the queue to leave. -/
def Work.Sends : Work → Prop
  | idle => False
  | greeting h => ¬ h.Last
  | leaving f => ¬ f.Last

/-- What becomes of the queue when a wait goes on. -/
inductive Polled (now : Nat) (t t' : Talk σ) : Prop
  | same (same : t' = t)
  | stays (sends : t.work.Sends) (outgoing : t'.client.engine.outgoing = t.client.engine.outgoing)
      (lastSent : t'.client.engine.lastSent = t.client.engine.lastSent)
      (connected : t'.client.engine.connected = t.client.engine.connected)
      (onward : t'.work.Sends ∨ t'.work = .idle)
  | leaves (sends : t.work.Sends) (outgoing : t'.client.engine.outgoing = #[])
      (lastSent : t'.client.engine.lastSent = now) (left : ¬ t'.work.Sends)
  | rests (busy : t.work ≠ .idle) (left : ¬ t.work.Sends)
      (outgoing : t'.client.engine.outgoing = t.client.engine.outgoing)
      (lastSent : t'.client.engine.lastSent = t.client.engine.lastSent) (still : ¬ t'.work.Sends)

theorem Polled.of_wait {π α : Type} {last : π → Prop} {now : Nat} {c : Client} {s : σ} {w w' : Work}
    {r : Progress π α × Client × σ} {sends : Prop} (busy : w ≠ .idle) (before : w.Sends ↔ sends)
    (after : w'.Sends ↔ ∃ x, r.1 = .waiting x ∧ ¬ last x) (goes : (∃ x, r.1 = .waiting x) ∨ w' = .idle)
    (rests : ¬ sends → Rests last c r)
    (leaves : sends → Stays last c r ∨ Rests last (c.outgoingSent now) r) :
    Polled now ⟨c, s, w⟩ ⟨r.2.1, r.2.2, w'⟩ := by
  have still : (∀ x, r.1 = .waiting x → last x) → ¬ w'.Sends := by
    rintro all sending
    obtain ⟨x, waits, early⟩ := after.1 sending
    exact early (all x waits)
  by_cases sending : sends
  · rcases leaves sending with stays | rests
    · refine .stays (before.2 sending) stays.outgoing stays.lastSent stays.connected ?_
      rcases goes with ⟨x, waits⟩ | idle
      · exact .inl (after.2 ⟨x, waits, stays.waits x waits⟩)
      · exact .inr idle
    · exact .leaves (before.2 sending) rests.outgoing rests.lastSent (still rests.waits)
  · have resting := rests sending
    exact .rests busy (fun h => sending (before.1 h)) resting.outgoing resting.lastSent
      (still resting.waits)

variable [ByteStream σ]

theorem polled (t : Talk σ) (now : Nat) : Polled now t ((Move.poll now).run t) := by
  obtain ⟨c, s, w⟩ := t
  cases w with
  | idle => exact .same rfl
  | greeting h =>
    have after : ∀ p : Progress Handshake (Except Fault Unit), (Work.ofHandshake p).Sends ↔
        ∃ x, p = .waiting x ∧ ¬ x.Last := by
      rintro (x | _) <;> simp [Work.ofHandshake, Work.Sends]
    have goes : ∀ p : Progress Handshake (Except Fault Unit),
        (∃ x, p = .waiting x) ∨ Work.ofHandshake p = .idle := by
      rintro (x | _) <;> simp [Work.ofHandshake]
    exact .of_wait (by simp) Iff.rfl (after _) (goes _)
      (fun last => h.rests_poll now (not_not.1 last)) (h.leaves_poll now)
  | leaving f =>
    have after : ∀ p : Progress Farewell (Except Fault Unit), (Work.ofFarewell p).Sends ↔
        ∃ x, p = .waiting x ∧ ¬ x.Last := by
      rintro (x | _) <;> simp [Work.ofFarewell, Work.Sends]
    have goes : ∀ p : Progress Farewell (Except Fault Unit),
        (∃ x, p = .waiting x) ∨ Work.ofFarewell p = .idle := by
      rintro (x | _) <;> simp [Work.ofFarewell]
    exact .of_wait (by simp) Iff.rfl (after _) (goes _)
      (fun last => f.rests_poll now (not_not.1 last)) (f.leaves_poll now)

/-! ## Runs -/

/-- What keep-alive goes by. -/
structure Pulse where
  keepAlive : Nat := 0
  /-- When the pings were queued that nobody has answered yet. -/
  unanswered : List Nat := []
  /-- When a write was completed last. -/
  lastWrite : Option Nat := none

namespace Pulse

/-- The pings that are unanswered once everything has been read. -/
def waiting (c : Client) (s : σ) (g : Pulse) : List Nat :=
  if .pingresp ∈ c.intake s then [] else g.unanswered

def connect (c : Client) (options : ConnectOptions) (g : Pulse) : Pulse :=
  if c.fault = none then { g with keepAlive := options.keepAliveSecs.toNat * 1000 } else g

def sync (now : Nat) (c : Client) (s : σ) (g : Pulse) : Pulse := { g with
  unanswered := g.waiting c s ++ if .pingreq ∈ c.syncQueued now s then [now] else []
  lastWrite :=
    if ByteStream.sent (c.sync now s).2.2 = ByteStream.sent s then g.lastWrite else some now }

/-- Who waits for the queue to leave has completed the write when nothing is left of it. -/
def wait (now : Nat) (c c' : Client) (g : Pulse) : Pulse := { g with
  lastWrite :=
    if c.engine.outgoing ≠ #[] ∧ c'.engine.outgoing = #[] then some now else g.lastWrite }

end Pulse

def Move.pulse (t : Talk σ) (g : Pulse) : Move σ → Pulse
  | connect _ options _ => g.connect t.client options
  | sync now => g.sync now t.client t.stream
  | poll now => g.wait now t.client ((Move.poll now).run t).client
  | publish .. | subscribe .. | unsubscribe _ | disconnect _ | farSide _ | collect => g

/-- A client after any moves, with its pulse. -/
inductive Beating (capacity : Nat) : Talk σ → Pulse → Prop
  | new (recvCapacity : Nat) (listening : Bool) (now : Nat) (s : σ) (fresh : ByteStream.sent s = []) :
      Beating capacity { client := .new capacity recvCapacity listening now, stream := s } {}
  | move {t : Talk σ} {g : Pulse} {m : Move σ} (before : Beating capacity t g)
      (allowed : m.Allowed t) : Beating capacity (m.run t) (m.pulse t g)

/-- The client goes by its pulse. Without a connection nothing has to have been written yet. -/
structure Follows (g : Pulse) (t : Talk σ) : Prop where
  keepAlive : t.client.engine.keepAlive = g.keepAlive
  unanswered : g.unanswered = t.client.engine.pingSent.toList
  queue : t.work.Sends → t.client.engine.outgoing ≠ #[]
  lastWrite : g.lastWrite = some t.client.engine.lastSent ∨
    t.client.engine.connected = false ∧ (t.work = .idle ∨ t.work.Sends)

variable {capacity : Nat} {g : Pulse}

omit [ByteStream σ] in
/-- Where nothing is read, written or timed. -/
theorem Follows.of_took {t' : Talk σ} (h : Follows g t)
    (took : Engine.Took [] t.client.engine t'.client.engine) (work : t'.work = t.work)
    (idle : t.work = .idle) : Follows g t' where
  keepAlive := took.keepAlive.trans h.keepAlive
  unanswered := by
    rw [h.unanswered, took.pingSent]
    simp
  queue := by
    rw [work, idle]
    exact False.elim
  lastWrite := by
    rw [took.lastSent, took.connected, work]
    exact h.lastWrite

theorem Follows.sync (h : Follows g t) (idle : t.work = .idle) (now : Nat) :
    Follows ((Move.sync now).pulse t g) ((Move.sync now).run t) := by
  have ticked := Client.ticked_sync now t.client t.stream
  constructor
  case keepAlive => exact ticked.keepAlive.trans h.keepAlive
  case unanswered =>
    -- A second ping is queued only when the first one has been answered.
    have pingSent := ticked.pingSent
    have answered := ticked.answered
    dsimp only [Move.pulse, Move.run, Pulse.sync, Pulse.waiting]
    rw [h.unanswered, pingSent]
    by_cases pinged : .pingreq ∈ t.client.syncQueued now t.stream
    · rw [if_pos pinged, if_pos pinged]
      rcases answered pinged with pong | none
      · rw [if_pos pong]
        rfl
      · rw [none]
        simp
    · rw [if_neg pinged, if_neg pinged]
      split <;> simp
  case queue =>
    intro sends
    rw [show ((Move.sync now).run t).work = .idle from idle] at sends
    exact sends.elim
  case lastWrite =>
    have connected := ticked.connected
    dsimp only [Move.pulse, Move.run, Pulse.sync]
    rcases ticked.lastSent with ⟨same, lastSent⟩ | ⟨more, lastSent⟩
    · rw [if_pos same, lastSent, connected]
      exact h.lastWrite
    · rw [if_neg more, lastSent]
      exact .inl rfl

theorem Follows.poll (h : Follows g t) (now : Nat) :
    Follows ((Move.poll now).pulse t g) ((Move.poll now).run t) := by
  have core := core_poll t now
  have keepAlive := congrArg Engine.keepAlive core
  have pingSent := congrArg Engine.pingSent core
  have waited := polled t now
  have unanswered : g.unanswered = ((Move.poll now).run t).client.engine.pingSent.toList :=
    h.unanswered.trans (congrArg Option.toList pingSent.symm)
  change Follows (g.wait now t.client ((Move.poll now).run t).client) _
  generalize (Move.poll now).run t = t' at keepAlive unanswered waited ⊢
  constructor
  case keepAlive => exact keepAlive.trans h.keepAlive
  case unanswered => exact unanswered
  case queue =>
    intro sends
    cases waited with
    | same same =>
      subst same
      exact h.queue sends
    | stays before outgoing =>
      rw [outgoing]
      exact h.queue before
    | leaves _ _ _ left => exact absurd sends left
    | rests _ _ _ _ still => exact absurd sends still
  case lastWrite =>
    have held : t'.client.engine.outgoing = t.client.engine.outgoing →
        ¬ (t.client.engine.outgoing ≠ #[] ∧ t'.client.engine.outgoing = #[]) := by
      rintro same ⟨some_, none⟩
      exact some_ (same ▸ none)
    cases waited with
    | same same =>
      subst same
      rw [Pulse.wait, if_neg (held rfl)]
      exact h.lastWrite
    | stays before outgoing lastSent connected onward =>
      rw [Pulse.wait, if_neg (held outgoing), lastSent, connected]
      exact h.lastWrite.imp id fun apart => ⟨apart.1, onward.symm⟩
    | leaves before outgoing lastSent left =>
      rw [Pulse.wait, if_pos ⟨h.queue before, outgoing⟩, lastSent]
      exact .inl rfl
    | rests busy left outgoing lastSent still =>
      rw [Pulse.wait, if_neg (held outgoing), lastSent]
      rcases h.lastWrite with wrote | ⟨-, idle | sends⟩
      · exact .inl wrote
      · exact absurd idle busy
      · exact absurd sends left

theorem queue_nonempty {e e' : Engine} {p : Packet} (queued : Engine.Queued [p] e e') :
    e'.outgoing ≠ #[] := by
  intro none
  have all := queued.outgoing
  obtain ⟨frame, encoded⟩ := Option.isSome_iff_exists.1 (queued.encoded p List.mem_cons_self)
  have some_ := Packet.encode_ne_nil encoded
  rw [none] at all
  simp [Packet.wire, encoded, some_] at all

theorem Follows.connect (h : Follows g t) (idle : t.work = .idle) (now : Nat)
    (options : ConnectOptions) (timeout : Nat) :
    Follows ((Move.connect now options timeout).pulse t g)
      ((Move.connect now options timeout).run t) := by
  cases whole : t.client.fault with
  | some f =>
    have refused : t.client.greet now options timeout = (some (.error f), t.client) := by
      rw [Client.greet, whole]
    rw [Move.pulse, Pulse.connect, whole, Move.run, refused]
    exact h
  | none =>
    have took := Client.took_greet whole now options timeout
    have queued := Client.queued_greet now options timeout t.client
    rw [Move.pulse, Pulse.connect, if_pos whole, Move.run]
    have asked : Follows { g with keepAlive := options.keepAliveSecs.toNat * 1000 }
        { t with client.engine.keepAlive := options.keepAliveSecs.toNat * 1000 } :=
      { h with keepAlive := rfl }
    rcases greeted : t.client.greet now options timeout with ⟨_ | _ | handshake, c⟩
    all_goals rw [greeted] at took
    · exact asked.of_took took rfl idle
    · exact asked.of_took took rfl idle
    · rw [greeted] at queued
      have greeting : Follows _ { t with client := c } := asked.of_took took rfl idle
      obtain ⟨-, rfl, -⟩ := Client.greeted_ok greeted
      have sends : (Work.greeting ⟨now + timeout, .sending c.engine.outgoing.toList⟩).Sends := by
        simp [Work.Sends, Handshake.Last]
      exact { greeting with
        queue := fun _ => queue_nonempty queued
        lastWrite := greeting.lastWrite.imp id fun apart => ⟨apart.1, .inr sends⟩ }

theorem Follows.disconnect (h : Follows g t) (idle : t.work = .idle) (now : Nat) :
    Follows ((Move.disconnect now).pulse t g) ((Move.disconnect now).run t) := by
  obtain ⟨e, connected, took, engine, apart⟩ := Client.engine_leave now t.client
  have queued := Client.queued_leave now t.client
  have before : Follows g { t with client.engine := e } := h.of_took took rfl idle
  have lastWrite : g.lastWrite = some e.lastSent ∨ connected = false := by
    rcases h.lastWrite with wrote | ⟨never, -⟩
    · exact .inl (took.lastSent ▸ wrote)
    · exact .inr (apart never)
  rw [Move.pulse, Move.run]
  rcases left : t.client.leave now with ⟨_ | farewell, c⟩
  all_goals
    rw [left] at engine queued
    dsimp only at engine queued ⊢
  · constructor
    case keepAlive => rw [engine]; exact before.keepAlive
    case unanswered => rw [engine]; exact before.unanswered
    case queue => rw [show t.work = _ from idle]; exact False.elim
    case lastWrite => rw [engine]; exact lastWrite.imp id fun never => ⟨never, .inl idle⟩
  · obtain ⟨-, stage⟩ := Client.leave_ok left
    have sends : (Work.leaving farewell).Sends := by simp [Work.Sends, Farewell.Last, stage]
    constructor
    case keepAlive => rw [engine]; exact before.keepAlive
    case unanswered => rw [engine]; exact before.unanswered
    case queue => exact fun _ => queue_nonempty queued
    case lastWrite => rw [engine]; exact lastWrite.imp id fun never => ⟨never, .inr sends⟩

theorem Follows.move {m : Move σ} (h : Follows g t) (allowed : m.Allowed t) :
    Follows (m.pulse t g) (m.run t) := by
  cases m with
  | publish m qos retain =>
    exact h.of_took (Client.took_lift (Engine.quiet_publish m qos retain) t.client) rfl allowed
  | subscribe topic qos =>
    exact h.of_took (Client.took_lift (Engine.quiet_subscribe topic qos) t.client) rfl allowed
  | unsubscribe topic =>
    exact h.of_took (Client.took_lift (Engine.quiet_unsubscribe topic) t.client) rfl allowed
  | sync now => exact h.sync allowed now
  | connect now options timeout => exact h.connect allowed now options timeout
  | disconnect now => exact h.disconnect allowed now
  | poll now => exact h.poll now
  | farSide s => exact { h with }
  | collect => exact { h with }

theorem Beating.follows (beating : Beating capacity t g) : Follows g t := by
  induction beating with
  | new =>
    constructor
    case queue => exact False.elim
    case lastWrite => exact .inr ⟨rfl, .inl rfl⟩
    all_goals rfl
  | move _ allowed ih => exact ih.move allowed

/-! ## On time -/

/-- What an exchange does about keep-alive if the last write was completed then. -/
structure Watched (now : Nat) (t : Talk σ) (g : Pulse) (lastWrite : Nat) : Prop where
  /-- It gives up just when a ping has been unanswered for the whole interval. -/
  late : g.keepAlive ≠ 0 → (t.client.takeInput t.stream).1 = .ok () →
    ((t.client.sync now t.stream).1 = .error .keepAliveTimeout ↔
      ∃ pinged ∈ g.waiting t.client t.stream, g.keepAlive ≤ now - pinged)
  /-- It pings just when no ping is unanswered and nothing was written for the whole interval, or breaks
  if there is no room for the ping. -/
  pings : g.keepAlive ≠ 0 → (t.client.takeInput t.stream).1 = .ok () →
    (g.waiting t.client t.stream = [] ∧ g.keepAlive ≤ now - lastWrite ↔
      if (t.client.takeInput t.stream).2.1.engine.outgoing.size + 2 ≤ t.client.engine.sendCapacity then
        .pingreq ∈ (Move.sync now).queued t
      else (t.client.sync now t.stream).1 = .error .sendBufferFull)
  /-- Afterwards a ping is under way that is younger than the interval, or the last write is. -/
  young : g.keepAlive ≠ 0 → (t.client.sync now t.stream).1 = .ok () →
    let g' := (Move.sync now).pulse t g
    (∃ pinged ∈ g'.unanswered, now - pinged < g.keepAlive) ∨
      ∃ wrote, g'.lastWrite = some wrote ∧ now - wrote < g.keepAlive
  /-- It is never too late for an answer that can be read. -/
  pong : .pingresp ∈ t.client.readable t.stream →
    (t.client.sync now t.stream).1 ≠ .error .keepAliveTimeout
  off : g.keepAlive = 0 → .pingreq ∉ (Move.sync now).queued t ∧
    (t.client.sync now t.stream).1 ≠ .error .keepAliveTimeout

theorem Follows.watched (h : Follows g t) (ready : t.client.Ready)
    (wrote : g.lastWrite = some t.client.engine.lastSent) (now : Nat) :
    Watched now t g t.client.engine.lastSent := by
  obtain ⟨c, s, work⟩ := t
  have took := Client.took_takeInput c s
  have capacity := (Client.queued_takeInput c s).capacity
  have untimed := Client.takeInput_ne_timeout c s
  have synced := Client.sync_eq ready.whole ready.connected now s
  have pings := ready.pingreq_mem now s
  have readable := Client.intake_eq_readable (c := c) (s := s)
  rw [← ready.intake_eq] at took readable
  have keepAlive : c.engine.keepAlive = g.keepAlive := h.keepAlive
  have waiting : g.waiting c s = (c.takeInput s).2.1.engine.pingSent.toList := by
    rw [Pulse.waiting, took.pingSent, show g.unanswered = _ from h.unanswered]
    split <;> rfl
  rcases read : c.takeInput s with ⟨result, c₁, s₁⟩
  rw [read] at took capacity untimed synced pings readable waiting
  dsimp only at took capacity untimed synced pings readable waiting
  have pinging : .pingreq ∈ (Move.sync now).queued ⟨c, s, work⟩ ↔
      result = .ok () ∧ .pingreq ∈ c₁.pinged now := pings
  cases result with
  | error f =>
    constructor
    case late => simp [read]
    case pings => simp [read]
    case young => simp [synced]
    case pong =>
      rw [synced]
      exact fun _ => untimed
    case off =>
      intro _
      rw [synced, pinging]
      exact ⟨by simp, untimed⟩
  | ok _ =>
    have fin := Client.finished now c₁ s₁
    rw [← show c.sync now s = c₁.finish now s₁ from synced] at fin
    have same : c₁.engine.keepAlive = g.keepAlive := took.keepAlive.trans keepAlive
    replace pinging : .pingreq ∈ (Move.sync now).queued ⟨c, s, work⟩ ↔ .pingreq ∈ c₁.pinged now :=
      pinging.trans (and_iff_right rfl)
    have late := fin.late_iff
    have pings := fin.pings_iff
    have young := fin.young
    rw [same] at late pings young
    rw [← waiting] at late pings
    rw [took.lastSent, capacity, ← pinging] at pings
    constructor
    case late => exact fun on _ => late on
    case pings =>
      rw [read]
      exact fun on _ => pings on
    case young =>
      intro on ok
      dsimp only [Move.pulse, Pulse.sync]
      rcases young on ok with ping | ⟨pinged, mem, early⟩ | early
      · left
        refine ⟨now, List.mem_append_right _ ?_, by omega⟩
        rw [if_pos (show .pingreq ∈ c.syncQueued now s from pinging.2 ping)]
        exact List.mem_singleton_self now
      · left
        refine ⟨pinged, List.mem_append_left _ ?_, early⟩
        rw [waiting]
        exact Option.mem_toList.2 mem
      · right
        by_cases unsent : ByteStream.sent (c.sync now s).2.2 = ByteStream.sent s
        · rw [if_pos unsent]
          exact ⟨_, wrote, took.lastSent ▸ early⟩
        · rw [if_neg unsent]
          exact ⟨now, rfl, by omega⟩
    case pong =>
      intro pong failed
      have answered := took.pingSent
      rw [if_pos (readable rfl ▸ pong)] at answered
      by_cases off : g.keepAlive = 0
      · exact (fin.off (same.trans off)).2 failed
      · obtain ⟨pinged, mem, -⟩ := (late off).1 failed
        rw [waiting, answered] at mem
        cases mem
    case off =>
      intro off
      rw [pinging]
      exact fin.off (same.trans off)

/-- Keep-alive goes by the times of the run. No ping is ever sent while another one is unanswered. -/
theorem keep_alive_exact (beating : Beating capacity t g) :
    g.unanswered.length ≤ 1 ∧ (t.client.Ready → t.work = .idle →
      ∃ wrote, g.lastWrite = some wrote ∧ ∀ now, Watched now t g wrote) := by
  have follows := beating.follows
  constructor
  · rw [follows.unanswered]
    cases t.client.engine.pingSent <;> simp
  · intro ready _
    have wrote : g.lastWrite = some t.client.engine.lastSent := by
      apply follows.lastWrite.resolve_right
      rintro ⟨apart, -⟩
      rw [ready.connected] at apart
      cases apart
    exact ⟨_, wrote, follows.watched ready wrote⟩

/-- A second after the greeting the client pings, and a second later it is too late for the answer. -/
theorem keep_alive_exact_unanswered : ∃ (t : Talk Link) (g : Pulse), Beating 64 t g ∧
    t.client.Ready ∧ g.unanswered = [1000] ∧ g.lastWrite = some 1000 ∧
      (t.client.sync 2000 t.stream).1 = .error .keepAliveTimeout := by
  have beating : Beating 64 _ _ := .new (σ := Link) 64 false 0 { inbox := [[0x20, 2, 0, 0]] } rfl
  have beating := beating.move (m := .connect 0 { keepAliveSecs := 1 } 1000) rfl
  have beating := beating.move (m := .poll 0) trivial
  have beating := beating.move (m := .sync 1000) (by cbv)
  obtain ⟨wrote, -, watched⟩ := (keep_alive_exact beating).2 ⟨by cbv, by cbv⟩ (by cbv)
  refine ⟨_, _, beating, ⟨by cbv, by cbv⟩, by cbv, by cbv, ?_⟩
  refine ((watched 2000).late (by cbv) (by cbv)).2 ⟨1000, ?_, by cbv⟩
  cbv
  exact List.mem_cons_self

end Talk

end MqttLink
