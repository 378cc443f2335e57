import MqttLink.Proofs.Traffic
import MqttLink.Proofs.Willing
import MqttLink.Session.Request

/-!
# What a client says on a link

A client greets, says what it is asked to say, and says goodbye once at most. Nothing follows the goodbye,
and nothing but the greeting is said before the first packet from the far side has welcomed the client.
-/

namespace MqttLink

/-- What a client may say between greeting and goodbye. -/
def Packet.isTalk : Packet → Bool
  | publish _ | puback _ | pubrec _ | pubrel _ | pubcomp _ | subscribe .. | unsubscribe .. | pingreq => true
  | connect _ | connack .. | suback .. | unsuback _ | pingresp | disconnect => false

theorem Packet.isTalk_answer {p a : Packet} (answer : p.answer? = some a) : a.isTalk = true := by
  cases p with
  | publish p =>
    obtain ⟨topic, payload, qos, id, retain, dup⟩ := p
    cases qos <;> cases answer <;> rfl
  | pubrec | pubrel =>
    cases answer
    rfl
  | _ => cases answer

/-! ## What is left to read -/

namespace Link

variable {l l' : Link}

def unread (l : Link) : Bytes := l.inbox.flatten

theorem unread_of_data {bytes : Bytes} (h : ByteStream.read l = (.data bytes, l')) :
    l.unread = bytes ++ l'.unread := by
  change l.read = _ at h
  unfold read at h
  split at h
  · rename_i chunk rest inbox
    cases h
    simp [unread, inbox]
  · split at h
    · cases h
    · split at h <;> cases h

theorem unread_of_not_data {r : Reading} (h : ByteStream.read l = (r, l'))
    (noData : ∀ bytes, r ≠ .data bytes) : l'.unread = l.unread := by
  change l.read = _ at h
  unfold read at h
  split at h
  · cases h
    exact absurd rfl (noData _)
  · split at h
    · cases h
      rfl
    · split at h <;> cases h <;> rfl

theorem unread_write {bytes : Bytes} {w : Writing} (h : ByteStream.write l bytes = (w, l')) :
    l'.unread = l.unread := by
  change l.write bytes = _ at h
  unfold write at h
  split at h
  · cases h
    rfl
  · split at h
    · cases h
      rfl
    · split at h <;> cases h <;> rfl

theorem unread_flush (l : Link) : (ByteStream.flush l).2.unread = l.unread := by
  change l.flush.2.unread = _
  unfold flush
  split
  · rfl
  · split <;> rfl

theorem unread_sendAll (l : Link) (bytes : Bytes) :
    (ByteStream.sendAll l bytes).2.unread = l.unread := by
  fun_induction ByteStream.sendAll l bytes with
  | case1 l bytes empty => rfl
  | case3 l bytes some_ n l' taken pos ih => exact ih.trans (unread_write taken)
  | case2 l bytes some_ l' taken | case4 l bytes some_ l' taken | case5 l bytes some_ l' taken =>
    exact unread_write taken

end Link

namespace Client

variable {l : Link}

theorem unread_drain (l : Link) (bytes : Bytes) (wrote : Bool) :
    (drain l bytes wrote).2.2.2.unread = l.unread := by
  fun_induction drain l bytes wrote with
  | case1 l bytes wrote empty => rfl
  | case3 l bytes wrote some_ n l' taken pos ih => exact ih.trans (Link.unread_write taken)
  | case2 l bytes wrote some_ l' taken | case4 l bytes wrote some_ l' taken
  | case5 l bytes wrote some_ l' taken => exact Link.unread_write taken

theorem unread_writeOutput (now : Nat) (c : Client) (l : Link) :
    (c.writeOutput now l).2.2.unread = l.unread := by
  have drained := unread_drain l c.engine.outgoing.toList false
  unfold writeOutput
  generalize drain l c.engine.outgoing.toList false = r at drained
  obtain ⟨result, left, wrote, l'⟩ := r
  have flushed := Link.unread_flush l'
  cases result with
  | error f => exact drained
  | ok _ =>
    dsimp only
    split
    · rename_i l'' failed
      rw [failed] at flushed
      exact flushed.trans drained
    · rename_i l'' _ done
      rw [done] at flushed
      exact flushed.trans drained

/-- An exchange reads from the front. -/
theorem unread_takeInput (c : Client) (l : Link) :
    ∃ bytes, l.unread = bytes ++ (c.takeInput l).2.2.unread := by
  fun_induction takeInput c l with
  | case1 c l f received e failed => exact ⟨[], rfl⟩
  | case2 c l received e taken bytes l' read ih =>
    obtain ⟨more, rest⟩ := ih
    refine ⟨bytes ++ more, ?_⟩
    rw [Link.unread_of_data read, rest, List.append_assoc]
  | case3 c l received e taken l' read | case4 c l received e taken l' read
  | case5 c l received e taken l' read => exact ⟨[], (Link.unread_of_not_data read (by simp)).symm⟩

theorem unread_sync (now : Nat) (c : Client) (l : Link) :
    ∃ bytes, l.unread = bytes ++ (c.sync now l).2.2.unread := by
  unfold sync
  split
  · exact ⟨[], rfl⟩
  · rename_i c1 _
    have input := unread_takeInput c1 l
    split
    · rename_i ran
      rwa [ran] at input
    · rename_i c2 l2 ran
      rw [ran] at input
      split
      · exact input
      · rename_i c3 _
        rwa [unread_writeOutput]

end Client

/-! ## The welcome -/

/-- The first packet in what has been read welcomes the client. -/
def Welcomes (heard : Bytes) : Prop :=
  ∃ limit present rest, Next.of limit heard = .packet (.connack present .accepted) rest

theorem Welcomes.append {heard : Bytes} (welcome : Welcomes heard) (more : Bytes) :
    Welcomes (heard ++ more) := by
  obtain ⟨limit, present, rest, found⟩ := welcome
  exact ⟨limit, present, rest ++ more, Next.of_append_packet found more⟩

namespace Handshake

variable {c : Client} {l : Link} {brought : Bytes}

/-- A client that waits still has all it has read. `brought` is all that there has ever been to read. -/
def Hears (brought : Bytes) : Progress Handshake (Except Fault Unit) × Client × Link → Prop
  | (.waiting _, c, l) => c.received ++ l.unread = brought
  | (.done result, _, l) =>
    ∃ heard, heard ++ l.unread = brought ∧ (result = .ok () → Welcomes heard)

theorem hears_block (heard : c.received ++ l.unread = brought) (now : Nat) (h : Handshake) :
    Hears brought (h.block now c l) := by
  unfold block
  split
  · exact ⟨c.received, heard, by simp⟩
  · exact heard

theorem hears_awaitReply (heard : c.received ++ l.unread = brought) :
    match c.awaitReply l with
    | (none, c', l') => c'.received ++ l'.unread = brought
    | (some result, _, l') => ∃ heard, heard ++ l'.unread = brought ∧ (result = .ok () → Welcomes heard) := by
  fun_induction Client.awaitReply c l with
  | case1 c l f received found => exact ⟨c.received, heard, by simp⟩
  | case2 c l p received found verdict c' judged =>
    refine ⟨c.received, heard, ?_⟩
    rintro rfl
    -- Of all packets only an accepting CONNACK is judged to be right.
    unfold Client.judge at judged
    split at judged
    · exact ⟨_, _, _, found⟩
    · cases judged
    · cases judged
  | case3 c l found bytes l' read ih =>
    refine ih ?_
    rw [← heard, Link.unread_of_data read, List.append_assoc]
  | case4 c l found l' read | case5 c l found l' read =>
    have same := Link.unread_of_not_data read (by simp)
    exact ⟨c.received, by rw [same, heard], by simp⟩
  | case6 c l found l' read =>
    exact (congrArg (c.received ++ ·) (Link.unread_of_not_data read (by simp))).trans heard

theorem hears_pollReply (heard : c.received ++ l.unread = brought) (now : Nat) (h : Handshake) :
    Hears brought (h.pollReply now c l) := by
  have replied := hears_awaitReply heard
  unfold pollReply
  generalize c.awaitReply l = r at replied
  obtain ⟨_ | result, c', l'⟩ := r
  · exact hears_block replied now _
  · exact replied

theorem hears_pollFlush (heard : c.received ++ l.unread = brought) (now : Nat) (h : Handshake) :
    Hears brought (h.pollFlush now c l) := by
  have same := Link.unread_flush l
  unfold pollFlush
  generalize ByteStream.flush l = r at same
  obtain ⟨result, l'⟩ := r
  dsimp only at same
  rw [← same] at heard
  cases result with
  | failed => exact ⟨c.received, heard, by simp⟩
  | blocked => exact hears_block heard now _
  | flushed => exact hears_pollReply (c := c.outgoingSent now) heard now h

theorem hears_poll (heard : c.received ++ l.unread = brought) (now : Nat) (h : Handshake) :
    Hears brought (h.poll now c l) := by
  obtain ⟨deadline, stage⟩ := h
  unfold poll
  cases stage with
  | sending rest =>
    have same := Link.unread_sendAll l rest
    dsimp only
    generalize ByteStream.sendAll l rest = r at same
    obtain ⟨result, l'⟩ := r
    dsimp only at same
    rw [← same] at heard
    cases result with
    | failed => exact ⟨c.received, heard, by simp⟩
    | rest left => exact hears_block heard now _
    | all => exact hears_pollFlush heard now _
  | flushing => exact hears_pollFlush heard now _
  | awaiting => exact hears_pollReply heard now _

end Handshake

/-! ## Conversations -/

/-- The packets of a conversation: a greeting, talk, and perhaps a goodbye. All of them have frames. -/
structure Script (greeting : Greeting) where
  talk : List Packet := []
  parted : Bool := false
  isTalk : ∀ p ∈ talk, p.isTalk = true := by simp
  encoded : ∀ p ∈ Packet.connect greeting :: talk, p.encode.isSome = true

namespace Script

variable {greeting : Greeting}

def packets (s : Script greeting) : List Packet :=
  .connect greeting :: s.talk ++ if s.parted then [.disconnect] else []

def say (s : Script greeting) (ps : List Packet) (isTalk : ∀ p ∈ ps, p.isTalk = true)
    (encoded : ∀ p ∈ ps, p.encode.isSome = true) : Script greeting where
  talk := s.talk ++ ps
  parted := s.parted
  isTalk p mem := (List.mem_append.1 mem).elim (s.isTalk p) (isTalk p)
  encoded p mem := by
    rw [← List.cons_append, List.mem_append] at mem
    exact mem.elim (s.encoded p) (encoded p)

theorem packets_say {s : Script greeting} {ps : List Packet} (present : s.parted = false)
    (isTalk : ∀ p ∈ ps, p.isTalk = true) (encoded : ∀ p ∈ ps, p.encode.isSome = true) :
    (s.say ps isTalk encoded).packets = s.packets ++ ps := by
  simp [packets, say, present]

def part (s : Script greeting) : Script greeting := { s with parted := true }

theorem packets_part {s : Script greeting} (present : s.parted = false) :
    s.part.packets = s.packets ++ [.disconnect] := by
  simp [packets, part, present]

end Script

/-- What is known of a link beside its state. -/
structure Note where
  /-- What it was opened for. -/
  plan : Option ConnectPlan := none
  /-- All that there has ever been to read. -/
  brought : Bytes := []

/-- What was written to a link is the beginning of a conversation, and no more than the greeting as long
as what was read does not welcome the client. -/
inductive Orderly (note : Note) (l : Link) : Prop
  | silent (quiet : l.sent = [])
  | spoken {plan : ConnectPlan} (planned : note.plan = some plan)
      (script : Script plan.options.greeting) (sent : l.sent <+: Packet.wire script.packets)
      {heard : Bytes} (all : heard ++ l.unread = note.brought)
      (welcome : l.sent <+: Packet.wire [.connect plan.options.greeting] ∨ Welcomes heard)

/-- A client that greets and is not welcome yet. -/
structure Shaking (plan : ConnectPlan) (note : Note) (t : Talk Link) : Prop where
  planned : note.plan = some plan
  encoded : (Packet.connect plan.options.greeting).encode.isSome = true
  sound : ∃ capacity, Talk.Sound capacity (Packet.wire [.connect plan.options.greeting]) t
  all : t.client.received ++ t.stream.unread = note.brought

/-- A client that is welcome, until it has said goodbye and later. -/
inductive Talking (note : Note) (t : Talk Link) : Prop
  | intro {plan : ConnectPlan} (planned : note.plan = some plan)
      (script : Script plan.options.greeting) {capacity : Nat}
      (sound : Talk.Sound capacity (Packet.wire script.packets) t)
      {heard : Bytes} (all : heard ++ t.stream.unread = note.brought) (welcome : Welcomes heard)
      (parted : script.parted = true → ¬ t.client.Ready)

variable {plan : ConnectPlan} {note : Note} {t : Talk Link} {c c' : Client} {l : Link}

theorem Orderly.congr {l' : Link} (orderly : Orderly note l) (sent : l'.sent = l.sent)
    (unread : l'.unread = l.unread) : Orderly note l' := by
  cases orderly with
  | silent quiet => exact .silent (sent.trans quiet)
  | spoken planned script prefix_ all welcome =>
    rw [← sent] at prefix_ welcome
    rw [← unread] at all
    exact .spoken planned script prefix_ all welcome

theorem Shaking.orderly (shaking : Shaking plan note t) : Orderly note t.stream := by
  obtain ⟨planned, encoded, ⟨capacity, sound⟩, all⟩ := shaking
  have sent := sound.balanced.sent_prefix
  exact .spoken planned { encoded := by simpa using encoded } sent all (.inl sent)

theorem Talking.orderly (talking : Talking note t) : Orderly note t.stream := by
  obtain ⟨planned, script, sound, all, welcome, -⟩ := talking
  exact .spoken planned script sound.balanced.sent_prefix all (.inr welcome)

/-! ## The far side -/

/-- The far side takes nothing back, neither what it has sent nor what it was sent. -/
structure Link.Adds (l : Link) (more : Bytes) (l' : Link) : Prop where
  sent : l'.sent = l.sent
  unread : l'.unread = l.unread ++ more

namespace Link

variable {l'' : Link}

def Grows (l l' : Link) : Prop := ∃ more, l.Adds more l'

theorem Grows.same (sent : l'.sent = l.sent) (unread : l'.unread = l.unread) : l.Grows l' :=
  ⟨[], sent, unread.trans (List.append_nil _).symm⟩

theorem Grows.trans (grows : l.Grows l') (grows' : l'.Grows l'') : l.Grows l'' := by
  obtain ⟨more, adds⟩ := grows
  obtain ⟨more', adds'⟩ := grows'
  refine ⟨more ++ more', adds'.sent.trans adds.sent, ?_⟩
  rw [adds'.unread, adds.unread, List.append_assoc]

theorem grows_foldl {α : Type} {f : Link → α → Link} (grows : ∀ (l : Link) a, l.Grows (f l a))
    (as : List α) (l : Link) : l.Grows (as.foldl f l) := by
  induction as generalizing l with
  | nil => exact .same rfl rfl
  | cons a as ih => exact (grows l a).trans (ih (f l a))

theorem grows_perform (l : Link) (deed : Deed) : l.Grows (l.perform deed) := by
  cases deed with
  | feed bytes =>
    unfold perform
    dsimp only
    split
    · exact .same rfl rfl
    · exact ⟨bytes, rfl, by simp [unread]⟩
  | _ => exact .same rfl rfl

theorem grows_act (l : Link) (a : Act) : l.Grows (l.act a) := by
  cases a with
  | now deed => exact grows_perform l deed
  | later wait a => exact .same rfl rfl

theorem grows_elapse (now : Nat) (before : Option Nat) (l : Link) : l.Grows (l.elapse now before) := by
  unfold elapse
  refine Grows.trans ?_ (grows_foldl ?_ _ _)
  · exact .same rfl rfl
  · exact fun l entry => grows_act l entry.2

theorem grows_await (now wait number : Nat) (a : Act) (l : Link) :
    l.Grows (l.await now wait a number).2 := by
  unfold await
  split
  · exact grows_act l a
  · exact .same rfl rfl

/-- Waits that begin one after the other. -/
theorem grows_awaits (now number : Nat) (entries : List (Nat × Act)) (l : Link) : l.Grows
    (entries.foldl (fun (number, l) (wait, act) => l.await now wait act number) (number, l)).2 := by
  induction entries generalizing number l with
  | nil => exact .same rfl rfl
  | cons entry entries ih => exact (grows_await now entry.1 number entry.2 l).trans (ih _ _)

theorem grows_begin (now number : Nat) (l : Link) : l.Grows (l.begin now number).2 := by
  unfold begin
  refine Grows.trans ?_ (grows_awaits now number l.fresh { l with fresh := [] })
  exact .same rfl rfl

end Link

def Note.add (note : Note) (more : Bytes) : Note := { note with brought := note.brought ++ more }

section

variable {l' : Link} {more heard : Bytes}

theorem Link.Adds.all (adds : l.Adds more l') (all : heard ++ l.unread = note.brought) :
    heard ++ l'.unread = (note.add more).brought := by
  rw [adds.unread, ← List.append_assoc, all]
  rfl

theorem Orderly.farSide (orderly : Orderly note l) (adds : l.Adds more l') :
    Orderly (note.add more) l' := by
  cases orderly with
  | silent quiet => exact .silent (adds.sent.trans quiet)
  | spoken planned script sent all welcome =>
    rw [← adds.sent] at sent welcome
    exact .spoken planned script sent (adds.all all) welcome

theorem Shaking.farSide {w : Talk.Work} (shaking : Shaking plan note ⟨c, l, w⟩) (adds : l.Adds more l') :
    Shaking plan (note.add more) ⟨c, l', w⟩ := by
  obtain ⟨planned, encoded, ⟨capacity, sound⟩, all⟩ := shaking
  exact ⟨planned, encoded, ⟨capacity, sound.farSide adds.sent⟩, adds.all all⟩

theorem Talking.farSide {w : Talk.Work} (talking : Talking note ⟨c, l, w⟩) (adds : l.Adds more l') :
    Talking (note.add more) ⟨c, l', w⟩ := by
  obtain ⟨planned, script, sound, all, welcome, parted⟩ := talking
  exact .intro planned script (sound.farSide adds.sent) (adds.all all) welcome parted

end

/-! ## The greeting -/

theorem Shaking.greet {sendCapacity recvCapacity now timeout : Nat} {listening : Bool} {h : Handshake}
    (fresh : l.sent = []) (ok : (Client.new sendCapacity recvCapacity listening now).greet now
      plan.options timeout = (some (.ok h), c)) : Shaking plan ⟨some plan, l.unread⟩ ⟨c, l, .greeting h⟩ := by
  have run : Talk.Run sendCapacity _ _ := .new recvCapacity listening now l fresh
  have run := run.move (m := .connect now plan.options timeout) rfl
  have sound := run.sound
  have encoded := run.encoded
  unfold Talk.Move.run Talk.Move.queued at sound
  unfold Talk.Move.queued at encoded
  dsimp only at sound encoded
  rw [ok] at sound encoded
  refine ⟨rfl, encoded _ (by simp [Client.onBegun]), ⟨_, sound⟩, ?_⟩
  rw [(Unjudged.greet ok l).received]
  rfl

theorem Shaking.poll {h : Handshake} (shaking : Shaking plan note ⟨c, l, .greeting h⟩) (now : Nat) :
    match h.poll now c l with
    | (.waiting h', c', l') => Shaking plan note ⟨c', l', .greeting h'⟩
    | (.done (.ok ()), c', l') => Talking note ⟨c', l', .idle⟩
    | (.done (.error _), _, l') => Orderly note l' := by
  obtain ⟨planned, encoded, ⟨capacity, sound⟩, all⟩ := shaking
  have sound := sound.pollGreeting now
  have hears := Handshake.hears_poll all now h
  generalize h.poll now c l = r at sound hears
  obtain ⟨h' | result, c', l'⟩ := r
  · exact ⟨planned, encoded, ⟨capacity, sound⟩, hears⟩
  · obtain ⟨heard, all, welcome⟩ := hears
    cases result with
    | ok _ => exact .intro planned { encoded := by simpa using encoded } sound all (welcome rfl) (by simp)
    | error f =>
      have sent := sound.balanced.sent_prefix
      exact .spoken planned { encoded := by simpa using encoded } sent all (.inl sent)

/-! ## Talk -/

namespace Talk

/-- A client that is not ready changes nothing. -/
theorem lift_of_not_ready (unready : ¬ c.Ready) (next : Unit → EngineM Unit) :
    ∃ f, Client.lift (Engine.ready >>= next) c = (.error f, c) := by
  unfold Client.lift
  rw [Engine.run_bind, Engine.ready_eq]
  cases whole : c.engine.fault with
  | some f => exact ⟨f, rfl⟩
  | none =>
    cases connected : c.engine.connected with
    | true => exact absurd ⟨whole, connected⟩ unready
    | false => exact ⟨.connectNotCalled, rfl⟩

theorem unready_fail (c : Client) (f : Fault) : ¬ (c.fail f).Ready := fun ready => by
  cases ready.whole

theorem leave_unready {now : Nat} {f : Farewell} (left : c.leave now = (.ok f, c')) : ¬ c'.Ready := by
  unfold Client.leave at left
  split at left
  · cases left
  · cases left
    intro ready
    cases ready.connected

/-- What a farewell leaves as it is. -/
structure Spares (c : Client) (l : Link) (r : Progress Farewell (Except Fault Unit) × Client × Link) :
    Prop where
  unready : ¬ c.Ready → ¬ r.2.1.Ready
  unread : r.2.2.unread = l.unread

theorem spares_block (f : Farewell) (now : Nat) (c : Client) (l : Link) : Spares c l (f.block now c l) := by
  unfold Farewell.block
  split
  · exact ⟨fun _ => unready_fail c _, rfl⟩
  · exact ⟨id, rfl⟩

theorem spares_pollClose (f : Farewell) (now : Nat) (c : Client) (l : Link) :
    Spares c l (f.pollClose now c l) := by
  unfold Farewell.pollClose
  split
  · rename_i closed
    cases closed
    exact ⟨id, rfl⟩
  · rename_i open_
    cases open_

theorem spares_pollFlush (f : Farewell) (now : Nat) (c : Client) (l : Link) :
    Spares c l (f.pollFlush now c l) := by
  have same := Link.unread_flush l
  unfold Farewell.pollFlush
  generalize ByteStream.flush l = r at same
  obtain ⟨result, l'⟩ := r
  cases result with
  | failed => exact ⟨fun _ => unready_fail c _, same⟩
  | blocked =>
    have next := spares_block { f with stage := .flushing } now c l'
    exact ⟨next.unready, next.unread.trans same⟩
  | flushed =>
    have next := spares_pollClose { f with deadline := now + Farewell.patience } now (c.outgoingSent now) l'
    exact ⟨fun unready => next.unready fun ready => unready ⟨ready.whole, ready.connected⟩,
      next.unread.trans same⟩

theorem spares_poll (f : Farewell) (now : Nat) (c : Client) (l : Link) :
    Spares c l (f.poll now c l) := by
  obtain ⟨deadline, stage⟩ := f
  unfold Farewell.poll
  cases stage with
  | sending rest =>
    have same := Link.unread_sendAll l rest
    dsimp only
    generalize ByteStream.sendAll l rest = r at same
    obtain ⟨result, l'⟩ := r
    cases result with
    | failed => exact ⟨fun _ => unready_fail c _, same⟩
    | rest left =>
      have next := spares_block ⟨deadline, .sending left⟩ now c l'
      exact ⟨next.unready, next.unread.trans same⟩
    | all =>
      have next := spares_pollFlush ⟨deadline, .sending rest⟩ now c l'
      exact ⟨next.unready, next.unread.trans same⟩
  | flushing => exact spares_pollFlush _ now c l
  | closing => exact spares_pollClose _ now c l

/-- The moves of a client that does not greet any more. -/
def Move.IsLater (t : Talk Link) : Move Link → Prop
  | .publish .. | .subscribe .. | .unsubscribe _ | .sync _ | .disconnect _ | .collect => True
  | .poll _ => ∀ h, t.work ≠ .greeting h
  | .connect .. | .farSide _ => False

theorem Move.unready_run {m : Move Link} (later : m.IsLater t) (unready : ¬ t.client.Ready) :
    m.queued t = [] ∧ ¬ (m.run t).client.Ready := by
  cases m with
  | publish m qos retain =>
    obtain ⟨f, refused⟩ : ∃ f, t.client.publish m qos retain = (.error f, t.client) :=
      lift_of_not_ready unready _
    simp [queued, run, refused, Client.onSuccess, unready]
  | subscribe topic qos =>
    obtain ⟨f, refused⟩ : ∃ f, t.client.subscribe topic qos = (.error f, t.client) :=
      lift_of_not_ready unready _
    simp [queued, run, refused, Client.onSuccess, unready]
  | unsubscribe topic =>
    obtain ⟨f, refused⟩ : ∃ f, t.client.unsubscribe topic = (.error f, t.client) :=
      lift_of_not_ready unready _
    simp [queued, run, refused, Client.onSuccess, unready]
  | sync now =>
    obtain ⟨f, refused⟩ := lift_of_not_ready unready pure
    rw [bind_pure] at refused
    have synced : t.client.sync now t.stream = (.error f, t.client, t.stream) := by
      rw [Client.sync, refused]
    simp [queued, run, synced, Client.syncQueued, refused, unready]
  | disconnect now =>
    obtain ⟨f, refused⟩ := lift_of_not_ready unready fun _ => Engine.queue .disconnect
    have left : t.client.leave now = (.error f, t.client) := by
      rw [Client.leave, refused]
    simp [queued, run, left, Client.onSuccess, unready]
  | poll now =>
    refine ⟨rfl, ?_⟩
    cases work : t.work with
    | idle => simpa [run, work] using unready
    | greeting h => exact absurd work (later h)
    | leaving f => simpa [run, work] using (spares_poll f now t.client t.stream).unready unready
  | collect => exact ⟨rfl, fun ready => unready ⟨ready.whole, ready.connected⟩⟩
  | connect | farSide => exact later.elim

theorem isTalk_onSuccess {α : Type} {r : Except Fault α × Client} {ps : Engine → List Packet}
    (isTalk : ∀ e, ∀ p ∈ ps e, p.isTalk = true) : ∀ p ∈ Client.onSuccess r ps, p.isTalk = true := by
  obtain ⟨_ | _, c⟩ := r
  · simp [Client.onSuccess]
  · exact isTalk c.engine

theorem isTalk_syncQueued (now : Nat) (c : Client) (l : Link) :
    ∀ p ∈ c.syncQueued now l, p.isTalk = true := by
  intro p mem
  unfold Client.syncQueued at mem
  split at mem
  · simp at mem
  · rcases List.mem_append.1 mem with answered | pinged
    · obtain ⟨q, -, answer⟩ := List.mem_filterMap.1 answered
      exact Packet.isTalk_answer answer
    · split at pinged
      · simp at pinged
      · rename_i c' s' ran
        cases served : Client.lift (Engine.serviceKeepAlive now) c' with
        | mk result c'' =>
          cases result with
          | error f => simp [served, Client.onSuccess] at pinged
          | ok _ =>
            simp only [served, Client.onSuccess, Option.mem_toList, Engine.ping?] at pinged
            split at pinged <;> cases pinged
            rfl

theorem Move.isTalk_or_parts {m : Move Link} (later : m.IsLater t) :
    (∀ p ∈ m.queued t, p.isTalk = true) ∨ m.queued t = [.disconnect] ∧ ¬ (m.run t).client.Ready := by
  cases m with
  | publish | subscribe | unsubscribe =>
    left
    unfold queued
    apply isTalk_onSuccess
    simp [Packet.isTalk]
  | sync now => exact .inl (isTalk_syncQueued now _ _)
  | disconnect now =>
    unfold queued run
    dsimp only
    rcases left : t.client.leave now with ⟨_ | f, c'⟩
    · exact .inl (by simp [Client.onSuccess])
    · exact .inr ⟨rfl, leave_unready left⟩
  | poll | collect => exact .inl (by simp [queued])
  | connect | farSide => exact later.elim

theorem Move.unread_run {m : Move Link} (later : m.IsLater t) :
    ∃ bytes, t.stream.unread = bytes ++ (m.run t).stream.unread := by
  cases m with
  | publish | subscribe | unsubscribe | collect => exact ⟨[], rfl⟩
  | sync now => exact Client.unread_sync now t.client t.stream
  | disconnect now =>
    refine ⟨[], ?_⟩
    unfold run
    dsimp only
    split <;> rfl
  | poll now =>
    refine ⟨[], ?_⟩
    cases work : t.work with
    | idle => simp [run, work]
    | greeting h => exact absurd work (later h)
    | leaving f => simp [run, work, (spares_poll f now t.client t.stream).unread]
  | connect | farSide => exact later.elim

end Talk

/-- A client that is ready says what it is asked to say, and another one says nothing more. -/
theorem Talking.move {m : Talk.Move Link} (talking : Talking note t) (later : m.IsLater t)
    (allowed : m.Allowed t) : Talking note (m.run t) := by
  obtain ⟨planned, script, sound, all, welcome, parted⟩ := talking
  have sound' := sound.move allowed
  obtain ⟨bytes, read⟩ := Talk.Move.unread_run later
  rw [read, ← List.append_assoc] at all
  have welcome' := welcome.append bytes
  by_cases ready : t.client.Ready
  · -- It has not parted, so the script goes on with whatever it queues.
    have present : script.parted = false := by
      simpa using fun gone => parted gone ready
    rcases Talk.Move.isTalk_or_parts later with isTalk | ⟨goodbye, unready⟩
    · have encoded := Talk.queued_encoded t m
      rw [← Script.packets_say present isTalk encoded] at sound'
      refine .intro planned _ sound' all welcome' fun gone => ?_
      rw [Script.say, present] at gone
      cases gone
    · rw [goodbye, ← Script.packets_part present] at sound'
      exact .intro planned _ sound' all welcome' fun _ => unready
  · -- It queues nothing, and it does not become ready again.
    obtain ⟨nothing, unready⟩ := Talk.Move.unready_run later ready
    rw [nothing, List.append_nil] at sound'
    exact .intro planned script sound' all welcome' fun _ => unready

end MqttLink
