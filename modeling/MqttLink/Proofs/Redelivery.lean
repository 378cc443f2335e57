import MqttLink.Proofs.Intake

/-!
# Messages that come again

A message that is to be delivered exactly once holds its id until the broker releases it. This client
keeps no record of the ids that are held: it hands over each message that comes, a second copy of an
unreleased one too, and answers each of them.
-/

namespace MqttLink

/-! ## Exactly once -/

namespace Packet

/-- The ids that are held after this packet, if these were held before. -/
def hold (held : List UInt16) : Packet → List UInt16
  | publish p => if p.qos = .exactlyOnce then p.id :: held else held
  | pubrel id => held.filter (· ≠ id)
  | _ => held

/-- A copy of a message that has not been released yet. -/
def repeats (held : List UInt16) : Packet → Bool
  | publish p => p.qos = .exactlyOnce && held.contains p.id
  | _ => false

/-- The messages of some packets, without the copies. -/
def once (held : List UInt16) : List Packet → List Message
  | [] => []
  | p :: ps => (if p.repeats held then none else p.message?).toList ++ once (p.hold held) ps

variable {p : Packet} {ps : List Packet} {held : List UInt16}

theorem once_sublist (held : List UInt16) (ps : List Packet) :
    (once held ps).Sublist (ps.filterMap message?) := by
  induction ps generalizing held with
  | nil => exact .slnil
  | cons p ps ih =>
    have rest := ih (p.hold held)
    cases message : p.message? with
    | none => simpa [once, message] using rest
    | some m =>
      rw [once, message, List.filterMap_cons_some message]
      split
      · exact rest.cons m
      · exact rest.cons_cons m

theorem message?_of_repeats (h : p.repeats held = true) : ∃ m, p.message? = some m := by
  cases p with
  | publish p => exact ⟨_, rfl⟩
  | _ => cases h

/-- Nothing is left out just when nothing is a copy. -/
theorem once_eq_iff : once held ps = ps.filterMap message? ↔
    ∀ before p after, ps = before ++ p :: after → p.repeats (before.foldl hold held) = false := by
  induction ps generalizing held with
  | nil => simp [once]
  | cons p ps ih =>
    have onward : (∀ before q after, p :: ps = before ++ q :: after →
        q.repeats (before.foldl hold held) = false) ↔
        p.repeats held = false ∧ ∀ before q after, ps = before ++ q :: after →
          q.repeats (before.foldl hold (p.hold held)) = false := by
      constructor
      · intro all
        refine ⟨all [] p ps rfl, ?_⟩
        rintro before q after rfl
        exact all (p :: before) q after rfl
      · rintro ⟨first, rest⟩ before q after split
        cases before with
        | nil =>
          cases split
          exact first
        | cons p' before =>
          cases split
          exact rest before q after rfl
    rw [onward, ← ih]
    cases repeated : p.repeats held with
    | true =>
      -- One message fewer is never as many.
      obtain ⟨m, message⟩ := message?_of_repeats repeated
      have fewer := (once_sublist (p.hold held) ps).length_le
      constructor
      · intro same
        have lengths := congrArg List.length same
        rw [once, repeated, List.filterMap_cons_some message] at lengths
        simp at lengths
        omega
      · rintro ⟨⟨⟩, -⟩
    | false =>
      rw [once, repeated]
      cases message : p.message? <;> simp [message]

/-- What only answers a packet of the broker. -/
def isAnswer : Packet → Bool
  | puback _ | pubrec _ | pubrel _ | pubcomp _ => true
  | _ => false

theorem filter_answers (ps : List Packet) : (answers ps).filter isAnswer = answers ps := by
  rw [List.filter_eq_self]
  intro a mem
  obtain ⟨p, -, answered⟩ := List.mem_filterMap.1 mem
  cases p with
  | publish p =>
    obtain ⟨topic, payload, qos, id, retain, dup⟩ := p
    cases qos <;> cases answered <;> rfl
  | pubrec | pubrel =>
    cases answered
    rfl
  | _ => cases answered

end Packet

/-! ## What has been taken -/

namespace Engine

variable {e e' : Engine} {limit : Nat} {bytes rest : Bytes}

theorem taken_append (h : e.takeAll limit bytes = (.ok (), rest, e')) (more : Bytes) :
    e.taken limit (bytes ++ more) = e.taken limit bytes ++ e'.taken limit (rest ++ more) := by
  fun_induction takeAll limit bytes e with
  | case1 bytes e found =>
    cases h
    have none : e'.taken limit rest = [] := taken_of_not_packet e' (by simp [found])
    rw [none]
    rfl
  | case2 bytes e f rest found => simp at h
  | case3 bytes e p rest' found e₁ ran ih =>
    rw [taken_of_packet _ (Next.of_append_packet found more), taken_of_packet _ found, ran]
    exact congrArg (p :: ·) (ih h)
  | case4 bytes e p rest found f e₁ ran => simp at h

theorem taken_append_of_error {f : Fault} (h : e.takeAll limit bytes = (.error f, rest, e'))
    (more : Bytes) : e.taken limit (bytes ++ more) = e.taken limit bytes := by
  fun_induction takeAll limit bytes e with
  | case1 bytes e found => simp at h
  | case2 bytes e f rest found =>
    rw [taken_of_not_packet _ (by simp [Next.of_append_fault found more]),
      taken_of_not_packet _ (by simp [found])]
  | case3 bytes e p rest' found e₁ ran ih =>
    rw [taken_of_packet _ (Next.of_append_packet found more), taken_of_packet _ found, ran]
    exact congrArg (p :: ·) (ih h)
  | case4 bytes e p rest found f e₁ ran =>
    rw [taken_of_packet _ (Next.of_append_packet found more), taken_of_packet _ found, ran]

/-- Only the packet that the engine fails at is not taken. -/
theorem intake_eq_taken (limit : Nat) (bytes : Bytes) (e : Engine) : ∃ last : Option Packet,
    intake (Contents.of limit bytes).packets e = e.taken limit bytes ++ last.toList ∧
      ((e.takeAll limit bytes).1 = .ok () → last = none) := by
  fun_induction takeAll limit bytes e with
  | case1 bytes e found =>
    rw [Contents.of_incomplete found, taken_of_not_packet _ (by simp [found])]
    exact ⟨none, rfl, fun _ => rfl⟩
  | case2 bytes e f rest found =>
    rw [Contents.of_fault found, taken_of_not_packet _ (by simp [found])]
    exact ⟨none, rfl, fun _ => rfl⟩
  | case3 bytes e p rest found e' ran ih =>
    obtain ⟨last, same, whole⟩ := ih
    rw [Contents.of_packet found, taken_of_packet _ found, intake, ran]
    exact ⟨last, congrArg (p :: ·) same, whole⟩
  | case4 bytes e p rest found f e' ran =>
    rw [Contents.of_packet found, taken_of_packet _ found, intake, ran]
    exact ⟨some p, rfl, by simp⟩

end Engine

namespace Client

variable {σ : Type} [ByteStream σ] {c : Client} {s : σ}

theorem taken_eq (c : Client) (s : σ) : c.taken s =
    c.engine.taken c.recvCapacity (c.received ++ (ByteStream.readAll s).1.flatten) := by
  fun_induction takeInput c s with
  | case1 c s f received e took =>
    rw [Engine.taken_append_of_error took, taken_of_not_data (by simp [took])]
  | case2 c s received e took bytes s' read ih =>
    rw [taken_of_data took read, ih, ByteStream.readAll_of_data read]
    dsimp only
    rw [List.flatten_cons, Engine.taken_append took, List.append_assoc]
  | case3 c s received e took s' read | case4 c s received e took s' read
  | case5 c s received e took s' read =>
    rw [ByteStream.readAll_of_not_data read (by simp), taken_of_not_data (by simp [read])]
    simp

end Client

namespace Client

variable {σ : Type} [ByteStream σ] {c : Client} {s : σ}

/-- What these packets make of the messages that have been handed over. -/
structure Hands (ps : List Packet) (e e' : Engine) : Prop where
  listening : e'.listening = e.listening
  handed : e'.handed = e.handedAfter ps

theorem Hands.of_took {ps : List Packet} {e e' : Engine} (h : Engine.Took ps e e') : Hands ps e e' :=
  ⟨h.listening, h.handed⟩

theorem Hands.of_core {e e' : Engine} (h : e'.core = e.core) : Hands [] e e' := by
  have listening := congrArg Engine.listening h
  have handed := congrArg Engine.handed h
  exact ⟨listening, handed.trans e.handedAfter_nil.symm⟩

theorem hands_sync (now : Nat) (c : Client) (s : σ) :
    Hands (c.intake s) c.engine (c.sync now s).2.1.engine := by
  rcases isReady : lift Engine.ready c with ⟨result, c₁⟩
  cases result with
  | error f =>
    have ready := took_lift Engine.quiet_ready c
    rw [isReady] at ready
    rw [sync, intake, isReady]
    exact .of_took ready
  | ok _ =>
    obtain ⟨rfl, whole, connected⟩ := lift_ready_ok isReady
    have took := took_takeInput c₁ s
    rw [sync_eq whole connected, intake, isReady]
    rcases read : c₁.takeInput s with ⟨result, c₂, s₂⟩
    rw [read] at took
    cases result with
    | error f => exact .of_took took
    | ok _ =>
      obtain ⟨outgoing, lastSent, pingSent, fault, finished⟩ := engine_finish now c₂ s₂
      dsimp only
      rw [finished]
      exact ⟨took.listening, took.handed⟩

theorem hands_greet (now : Nat) (options : ConnectOptions) (timeout : Nat) (c : Client) :
    Hands [] c.engine (c.greet now options timeout).2.engine := by
  have queued := took_lift (Engine.quiet_queue (.connect options.greeting)) (c.asked options)
  exact c.greet_keeps now timeout (motive := fun c' => Hands [] c.engine c'.engine)
    (fun _ _ => .of_core rfl) ⟨rfl, c.engine.handedAfter_nil.symm⟩ ⟨queued.listening, queued.handed⟩

theorem hands_leave (now : Nat) (c : Client) : Hands [] c.engine (c.leave now).2.engine := by
  obtain ⟨e, connected, took, left, -⟩ := engine_leave now c
  rw [left]
  exact ⟨took.listening, took.handed⟩

/-- All that was got to is answered, up to the packet that the client fails at. -/
theorem answered_sync (whole : c.fault = none) (now : Nat) (s : σ) :
    ∃ (taken : List Packet) (last : Option Packet), c.intake s = taken ++ last.toList ∧
      (c.syncQueued now s).filter Packet.isAnswer = Packet.answers taken ∧
      ((c.sync now s).2.1.fault = none → last = none) := by
  rcases isReady : lift Engine.ready c with ⟨result, c₁⟩
  cases result with
  | error f =>
    rw [intake, syncQueued, isReady]
    exact ⟨[], none, rfl, rfl, fun _ => rfl⟩
  | ok _ =>
    obtain ⟨rfl, -, connected⟩ := lift_ready_ok isReady
    obtain ⟨last, same, finished⟩ := Engine.intake_eq_taken c₁.recvCapacity
      (c₁.received ++ (ByteStream.readAll s).1.flatten) c₁.engine
    rw [← taken_eq] at same
    rw [intake, syncQueued, isReady]
    refine ⟨c₁.taken s, last, same, ?_, ?_⟩
    · have pings : ∀ e : Engine, (e.ping? now).toList.filter Packet.isAnswer = [] := by
        intro e
        unfold Engine.ping?
        split <;> rfl
      dsimp only
      rw [List.filter_append, show List.filterMap Packet.answer? _ = Packet.answers _ from rfl,
        Packet.filter_answers, List.append_right_eq_self]
      split
      · rfl
      · unfold onSuccess
        split
        · exact pings _
        · rfl
    · intro still
      apply finished
      apply takeAll_ok_of_takeInput
      have noted := noted_takeInput (s := s) whole
      rw [sync_eq whole connected] at still
      rcases read : c₁.takeInput s with ⟨_ | _, c₂, s₂⟩
      · rw [read] at still noted
        rw [show c₂.fault = none from still] at noted
        cases noted
      · rfl

end Client

namespace Talk

variable {σ : Type} [ByteStream σ] {capacity : Nat} {t : Talk σ}

/-! ## Records -/

/-- What has come in, what has been queued and what the messages were that have been collected. -/
structure Record where
  inbound : List Packet := []
  queued : List Packet := []
  collected : List Message := []

def Move.inbound (t : Talk σ) : Move σ → List Packet
  | sync _ => t.client.intake t.stream
  | publish .. | subscribe .. | unsubscribe _ | connect .. | disconnect _ | poll _ | farSide _
  | collect => []

def Move.collected (t : Talk σ) : Move σ → List Message
  | collect => t.client.collect.1
  | publish .. | subscribe .. | unsubscribe _ | sync _ | connect .. | disconnect _ | poll _
  | farSide _ => []

def Move.record (t : Talk σ) (m : Move σ) (r : Record) : Record where
  inbound := r.inbound ++ m.inbound t
  queued := r.queued ++ m.queued t
  collected := r.collected ++ m.collected t

/-- A client after any moves, with a record of them. -/
inductive Recorded (capacity : Nat) : Talk σ → Record → Prop
  | new (recvCapacity : Nat) (listening : Bool) (now : Nat) (s : σ) (fresh : ByteStream.sent s = []) :
      Recorded capacity { client := .new capacity recvCapacity listening now, stream := s } {}
  | move {t : Talk σ} {r : Record} {m : Move σ} (before : Recorded capacity t r)
      (allowed : m.Allowed t) : Recorded capacity (m.run t) (m.record t r)

variable {r : Record}

theorem Recorded.run (recorded : Recorded capacity t r) : Run capacity t r.queued := by
  induction recorded with
  | new recvCapacity listening now s fresh => exact .new recvCapacity listening now s fresh
  | move _ allowed ih => exact ih.move allowed

/-- All messages that have been handed over so far. -/
def messages (t : Talk σ) (r : Record) : List Message :=
  r.collected ++ t.client.engine.handed.toList

/-! ## Handing over -/

theorem messages_move (t : Talk σ) (m : Move σ) (r : Record) :
    (m.run t).client.engine.listening = t.client.engine.listening ∧
      (t.client.engine.listening = true → messages (m.run t) (m.record t r) =
        messages t r ++ (m.inbound t).filterMap Packet.message?) := by
  have hands : Client.Hands (m.inbound t) t.client.engine (m.run t).client.engine →
      m.collected t = [] → (m.run t).client.engine.listening = t.client.engine.listening ∧
        (t.client.engine.listening = true → messages (m.run t) (m.record t r) =
          messages t r ++ (m.inbound t).filterMap Packet.message?) := by
    intro given none
    refine ⟨given.listening, ?_⟩
    intro listening
    rw [messages, messages, Move.record, none, given.handed, Engine.handedAfter, if_pos listening]
    simp
  cases m with
  | publish m qos retain =>
    exact hands (.of_took (Client.took_lift (Engine.quiet_publish m qos retain) t.client)) rfl
  | subscribe topic qos =>
    exact hands (.of_took (Client.took_lift (Engine.quiet_subscribe topic qos) t.client)) rfl
  | unsubscribe topic =>
    exact hands (.of_took (Client.took_lift (Engine.quiet_unsubscribe topic) t.client)) rfl
  | sync now => exact hands (Client.hands_sync now t.client t.stream) rfl
  | connect now options timeout =>
    refine hands ?_ rfl
    have greeted := Client.hands_greet now options timeout t.client
    dsimp only [Move.run]
    split
    all_goals
      rename_i ran
      rwa [ran] at greeted
  | disconnect now =>
    refine hands ?_ rfl
    have left := Client.hands_leave now t.client
    dsimp only [Move.run]
    split
    all_goals
      rename_i ran
      rwa [ran] at left
  | poll now => exact hands (.of_core (core_poll t now)) rfl
  | farSide s => exact hands (.of_took (.refl _)) rfl
  | collect =>
    refine ⟨rfl, ?_⟩
    simp [messages, Move.record, Move.run, Move.inbound, Move.collected, Client.collect]

theorem Recorded.messages_eq (recorded : Recorded capacity t r)
    (listening : t.client.engine.listening = true) :
    messages t r = r.inbound.filterMap Packet.message? := by
  induction recorded with
  | new => rfl
  | @move t r m before allowed ih =>
    obtain ⟨same, handed⟩ := messages_move t m r
    have heard := same.symm.trans listening
    rw [handed heard, ih heard, Move.record, List.filterMap_append]

/-! ## Answering -/

/-- Everything that has come in is answered. Only a client that failed at the last of it may owe the
answer to that. -/
def Replied (t : Talk σ) (r : Record) : Prop :=
  ∃ (taken : List Packet) (last : Option Packet), r.inbound = taken ++ last.toList ∧
    r.queued.filter Packet.isAnswer = Packet.answers taken ∧ (t.client.fault = none → last = none)

theorem replied_move (m : Move σ) (whole : t.client.fault = none) (replied : Replied t r) :
    Replied (m.run t) (m.record t r) := by
  obtain ⟨before, missing, inbound, answers, complete⟩ := replied
  obtain rfl := complete whole
  rw [Option.toList_none, List.append_nil] at inbound
  have quiet : m.inbound t = [] → (m.queued t).filter Packet.isAnswer = [] →
      Replied (m.run t) (m.record t r) := by
    intro nothing none
    refine ⟨before, .none, ?_, ?_, fun _ => rfl⟩
    · simp [Move.record, inbound, nothing]
    · rw [Move.record, List.filter_append, none, answers, List.append_nil]
  have success : ∀ {α : Type} (x : Except Fault α × Client) (ps : Engine → List Packet),
      (∀ e, (ps e).filter Packet.isAnswer = []) →
        (Client.onSuccess x ps).filter Packet.isAnswer = [] := by
    intro α x ps none
    unfold Client.onSuccess
    split
    · exact none _
    · rfl
  cases m with
  | publish | subscribe | unsubscribe | disconnect =>
    refine quiet rfl ?_
    rw [Move.queued]
    exact success _ _ fun _ => rfl
  | connect =>
    refine quiet rfl ?_
    rw [Move.queued, Client.onBegun]
    split <;> rfl
  | poll | farSide | collect => exact quiet rfl rfl
  | sync now =>
    obtain ⟨taken, last, got, answered, finished⟩ := Client.answered_sync whole now t.stream
    refine ⟨before ++ taken, last, ?_, ?_, finished⟩
    · rw [List.append_assoc, ← got, ← inbound]
      rfl
    · rw [Move.record, List.filter_append, answers, Packet.answers, Packet.answers,
        List.filterMap_append]
      exact congrArg (_ ++ ·) answered

/-- A broken client gets and queues nothing more. -/
theorem record_of_fault {f : Fault} (broken : t.client.fault = some f) (m : Move σ) :
    m.inbound t = [] ∧ m.queued t = [] := by
  have refused : ∀ next : Unit → EngineM Unit,
      Client.lift (Engine.ready >>= next) t.client = (.error f, t.client) :=
    Client.lift_of_fault broken
  cases m with
  | publish m qos retain =>
    rw [Move.queued, show t.client.publish m qos retain = _ from refused _]
    exact ⟨rfl, rfl⟩
  | subscribe topic qos =>
    rw [Move.queued, show t.client.subscribe topic qos = _ from refused _]
    exact ⟨rfl, rfl⟩
  | unsubscribe topic =>
    rw [Move.queued, show t.client.unsubscribe topic = _ from refused _]
    exact ⟨rfl, rfl⟩
  | sync now =>
    have unready : Client.lift Engine.ready t.client = (.error f, t.client) := by
      rw [Client.lift, Engine.ready_eq, show t.client.engine.fault = some f from broken]
    rw [Move.inbound, Move.queued, Client.intake, Client.syncQueued, unready]
    exact ⟨rfl, rfl⟩
  | connect now options timeout =>
    rw [Move.queued, Client.greet, broken]
    exact ⟨rfl, rfl⟩
  | disconnect now =>
    rw [Move.queued, Client.leave, refused]
    exact ⟨rfl, rfl⟩
  | poll | farSide | collect => exact ⟨rfl, rfl⟩

theorem Recorded.replied (recorded : Recorded capacity t r) : Replied t r := by
  induction recorded with
  | new => exact ⟨[], none, rfl, rfl, fun _ => rfl⟩
  | @move t r m before allowed ih =>
    cases broken : t.client.fault with
    | none => exact replied_move m broken ih
    | some f =>
      obtain ⟨taken, last, inbound, answers, -⟩ := ih
      obtain ⟨nothing, none⟩ := record_of_fault broken m
      have frozen : Frozen t t := ⟨before.run.idle_of_fault f broken, rfl, .inl rfl⟩
      refine ⟨taken, last, ?_, ?_, ?_⟩
      · simp [Move.record, nothing, inbound]
      · simp [Move.record, none, answers]
      · rw [(frozen.move broken allowed).fault, broken]
        rintro ⟨⟩

/-- Each message that comes is handed over once, whatever its id, and answered. So messages that are to
be delivered exactly once are, just when none of them comes again before it is released. -/
theorem messages_handed_as_they_come (recorded : Recorded capacity t r) :
    Run capacity t r.queued ∧ Replied t r ∧
    (t.client.engine.listening = true →
      messages t r = r.inbound.filterMap Packet.message? ∧
      (messages t r = Packet.once [] r.inbound ↔
        ∀ before p after, r.inbound = before ++ p :: after →
          p.repeats (before.foldl Packet.hold []) = false)) := by
  refine ⟨recorded.run, recorded.replied, ?_⟩
  intro listening
  have all := recorded.messages_eq listening
  refine ⟨all, ?_⟩
  rw [all, eq_comm]
  exact Packet.once_eq_iff

/-- A message comes twice, the second time marked as a copy. Both are handed over. -/
theorem copy_handed_over : ¬ ∀ (t : Talk Link) (r : Record), Recorded 64 t r →
    t.client.engine.listening = true → messages t r = Packet.once [] r.inbound := by
  intro all
  have h : Recorded 64 _ _ := .new (σ := Link) 64 true 0
    { inbox := [[0x20, 2, 0, 0], [0x34, 5, 0, 1, 0x61, 0, 7], [0x3c, 5, 0, 1, 0x61, 0, 7]] } rfl
  have h := h.move (m := .connect 0 {} 1000) rfl
  have h := h.move (m := .poll 0) trivial
  have h := h.move (m := .sync 0) (by cbv)
  have same := congrArg List.length (all _ _ h (by cbv))
  exact absurd same (by cbv)

/-- Here the id is released in between, so that the second message is a new one. -/
theorem messages_handed_as_they_come_released : ∃ (t : Talk Link) (r : Record), Recorded 64 t r ∧
    messages t r = [⟨"a", []⟩, ⟨"a", []⟩] ∧ messages t r = Packet.once [] r.inbound := by
  have h : Recorded 64 _ _ := .new (σ := Link) 64 true 0 { inbox := [[0x20, 2, 0, 0],
    [0x34, 5, 0, 1, 0x61, 0, 7], [0x62, 2, 0, 7], [0x34, 5, 0, 1, 0x61, 0, 7]] } rfl
  have h := h.move (m := .connect 0 {} 1000) rfl
  have h := h.move (m := .poll 0) trivial
  have h := h.move (m := .sync 0) (by cbv)
  obtain ⟨all, -⟩ := (messages_handed_as_they_come h).2.2 (by cbv)
  exact ⟨_, _, h, all.trans (by cbv), all.trans (by cbv)⟩

end Talk

end MqttLink
