import MqttLink.Proofs.Input

/-!
# Streams that go along

A stream that takes something of whatever it is offered takes all of it in the end. An exchange on such
a stream fails only for what it has read.
-/

namespace MqttLink

namespace ByteStream

variable {σ : Type} [ByteStream σ]

/-- A property of streams that take something of whatever they are offered. Writing keeps it. -/
structure Accepting (P : σ → Prop) : Prop where
  write : ∀ {s bytes}, P s → bytes ≠ [] → ∃ n s', write s bytes = (.accepted n, s') ∧ 0 < n ∧ P s'
  flush : ∀ {s}, P s → (flush s).1 ≠ .failed ∧ P (flush s).2

/-- A property that reading keeps as well. -/
structure Obliging (P : σ → Prop) : Prop extends Accepting P where
  read : ∀ {s}, P s → P (read s).2

/-- A stream that goes along, as long as nobody else does anything to it. -/
def Willing (s : σ) : Prop := ∃ P, Obliging P ∧ P s

variable {P : σ → Prop} {s : σ}

theorem Accepting.drain (a : Accepting P) (holds : P s) (bytes : Bytes) (wrote : Bool) :
    ∃ wrote' s', Client.drain s bytes wrote = (.ok (), [], wrote', s') ∧ P s' ∧
      sent s' = sent s ++ bytes := by
  fun_induction Client.drain s bytes wrote with
  | case1 s bytes wrote empty =>
    rw [List.isEmpty_iff.1 empty, List.append_nil]
    exact ⟨wrote, s, rfl, holds, rfl⟩
  | case2 s bytes wrote some_ s' taken =>
    -- A stream that takes nothing of what it is offered is not one of these.
    obtain ⟨n, s'', taken', pos, -⟩ := a.write holds (by simpa using some_)
    rw [taken] at taken'
    cases taken'
    omega
  | case3 s bytes wrote some_ n s' taken pos ih =>
    obtain ⟨n', s'', taken', -, holds'⟩ := a.write holds (by simpa using some_)
    rw [taken] at taken'
    cases taken'
    obtain ⟨wrote', s'', drained, holds'', all⟩ := ih holds'
    refine ⟨wrote', s'', drained, holds'', ?_⟩
    rw [all, sent_accepted taken, List.append_assoc, List.take_append_drop]
  | case4 s bytes wrote some_ s' taken | case5 s bytes wrote some_ s' taken =>
    -- Nor is one that waits or fails.
    obtain ⟨n, s'', taken', -⟩ := a.write holds (by simpa using some_)
    rw [taken] at taken'
    cases taken'

/-- All that is queued leaves. -/
theorem Accepting.writeOutput (a : Accepting P) (holds : P s) (now : Nat) (c : Client) :
    ∃ lastSent s', c.writeOutput now s =
        (.ok (), { c with engine := { c.engine with outgoing := #[], lastSent } }, s') ∧
      P s' ∧ sent s' = sent s ++ c.engine.outgoing.toList ∧
      (lastSent = now ∨ lastSent = c.engine.lastSent) := by
  obtain ⟨wrote, s1, drained, holds1, all⟩ := a.drain holds c.engine.outgoing.toList false
  obtain ⟨works, holds2⟩ := a.flush holds1
  have unsent := sent_flush s1
  have times : ∀ wrote : Bool, (if wrote then now else c.engine.lastSent) = now ∨
      (if wrote then now else c.engine.lastSent) = c.engine.lastSent := by
    rintro (_ | _)
    · exact .inr rfl
    · exact .inl rfl
  unfold Client.writeOutput
  rw [drained]
  dsimp only
  split
  · rename_i s2 failed
    rw [failed] at works
    exact absurd rfl works
  · rename_i flushing s2 _ flushed
    rw [flushed] at holds2 unsent
    exact ⟨_, s2, rfl, holds2, unsent.trans all, times wrote⟩

theorem Obliging.readAll (o : Obliging P) (holds : P s) : P (readAll s).2.2 := by
  fun_induction ByteStream.readAll s with
  | case1 s bytes s' read chunks last s'' all ih =>
    have holds' := o.read holds
    rw [read] at holds'
    have holds'' := ih holds'
    rwa [all] at holds''
  | case2 s last s' noData read =>
    have holds' := o.read holds
    rwa [read] at holds'

end ByteStream

/-! ## Links that go along -/

/-- A stream that takes every byte it is offered, and that nobody ends. -/
structure Link.Willing (l : Link) : Prop where
  room : l.room = none
  writes : l.writeFails = false
  accepts : l.acceptsNothing = false
  flushes : l.flushFails = false
  reads : l.readFails = false
  goes : l.ended = false

namespace Link

variable {l : Link}

theorem Willing.write (h : l.Willing) (bytes : Bytes) : ByteStream.write l bytes =
    (.accepted bytes.length, { l with accepted := l.accepted ++ bytes }) := by
  change l.write bytes = _
  simp [Link.write, Link.accept, h.writes, h.accepts, h.room]

theorem Willing.flush (h : l.Willing) :
    (ByteStream.flush l).1 ≠ .failed ∧ (ByteStream.flush l).2 = l := by
  change (Link.flush l).1 ≠ _ ∧ (Link.flush l).2 = _
  unfold Link.flush
  rw [if_neg (by simp [h.flushes])]
  split <;> simp

theorem Willing.accepting (h : l.Willing) :
    ByteStream.Accepting fun l' : Link => ∃ accepted, l' = { l with accepted } where
  write := by
    rintro _ bytes ⟨accepted, rfl⟩ some_
    have willing : Willing { l with accepted } := { h with }
    exact ⟨_, _, willing.write bytes, List.length_pos_iff.2 some_, _, rfl⟩
  flush := by
    rintro _ ⟨accepted, rfl⟩
    have willing : Willing { l with accepted } := { h with }
    exact ⟨willing.flush.1, accepted, willing.flush.2⟩

/-- All that is queued leaves, and nothing else changes about the link. -/
theorem Willing.writeOutput (h : l.Willing) (now : Nat) (c : Client) :
    ∃ lastSent, c.writeOutput now l =
      (.ok (), { c with engine := { c.engine with outgoing := #[], lastSent } },
        { l with accepted := l.accepted ++ c.engine.outgoing.toList }) := by
  obtain ⟨lastSent, _, wrote, ⟨accepted, rfl⟩, all, -⟩ :=
    h.accepting.writeOutput ⟨l.accepted, rfl⟩ now c
  obtain rfl : accepted = l.accepted ++ c.engine.outgoing.toList :=
    Array.ext' (all.trans (Array.toList_appendList ..).symm)
  exact ⟨lastSent, wrote⟩

/-- What comes behind the chunks. -/
def last (l : Link) : Reading := if l.readFails then .failed else if l.ended then .ended else .blocked

theorem read_nil (h : l.inbox = []) : ByteStream.read l = (l.last, l) := by
  change l.read = _
  unfold Link.read last
  rw [h]
  dsimp only
  split
  · rfl
  · split <;> rfl

theorem read_cons {chunk : Bytes} {inbox : List Bytes} (h : l.inbox = chunk :: inbox) :
    ByteStream.read l = (.data chunk, { l with inbox }) := by
  change l.read = _
  unfold Link.read
  rw [h]

theorem Willing.last_eq (h : l.Willing) : l.last = .blocked := by
  simp [last, h.reads, h.goes]

theorem last_ne_data (bytes : Bytes) : l.last ≠ .data bytes := by
  unfold last
  split
  · simp
  · split <;> simp

theorem readAll_eq (l : Link) : ByteStream.readAll l = (l.inbox, l.last, { l with inbox := [] }) := by
  generalize chunks : l.inbox = inbox
  induction inbox generalizing l with
  | nil =>
    rw [ByteStream.readAll_of_not_data (read_nil chunks) last_ne_data, ← chunks]
  | cons chunk inbox ih =>
    rw [ByteStream.readAll_of_data (read_cons chunks), ih { l with inbox } rfl]
    rfl

theorem obliging : ByteStream.Obliging Willing where
  write h some_ := ⟨_, _, h.write _, List.length_pos_iff.2 some_, { h with }⟩
  flush h := ⟨h.flush.1, h.flush.2.symm ▸ h⟩
  read := by
    intro l h
    cases chunks : l.inbox with
    | nil =>
      rw [read_nil chunks]
      exact h
    | cons chunk inbox =>
      rw [read_cons chunks]
      exact { h with }

theorem Willing.willing (h : l.Willing) : ByteStream.Willing l := ⟨Willing, obliging, h⟩

end Link

/-! ## Nothing but input and output -/

/-- It is neither time for a ping nor too late for the answer to one. -/
def Engine.Rests (now : Nat) (e : Engine) : Prop :=
  e.keepAlive = 0 ∨ now - e.pingSent.getD e.lastSent < e.keepAlive

theorem Engine.Rests.serviceKeepAlive {e : Engine} {now : Nat} (rests : e.Rests now) :
    Engine.serviceKeepAlive now e = .ok () e := by
  rw [serviceKeepAlive_eq]
  split
  · rfl
  · rename_i on
    have early := rests.resolve_left on
    cases sent : e.pingSent with
    | none =>
      rw [sent, Option.getD_none] at early
      exact if_neg (Nat.not_le.2 early)
    | some time =>
      rw [sent, Option.getD_some] at early
      exact if_neg (Nat.not_le.2 early)

namespace Client

variable {σ : Type} [ByteStream σ] {c : Client} {s : σ} {e : Engine} {ps : List Packet} {rest : Bytes}

/-- What a stream has to read, until the far side does something, is taken for these packets. -/
structure Hearing (c : Client) (s : σ) (ps : List Packet) (rest : Bytes) : Prop where
  goesOn : (ByteStream.readAll s).2.1 = .blocked
  contents : Contents.of c.recvCapacity (c.received ++ (ByteStream.readAll s).1.flatten) =
    ⟨ps, none, rest⟩

/-- A connected client without a fault. -/
structure Ready (c : Client) : Prop where
  whole : c.engine.fault = none
  connected : c.engine.connected = true

/-- The packets are taken, and what is queued then leaves. -/
theorem Ready.sync (ready : c.Ready) (willing : ByteStream.Willing s) (hears : c.Hearing s ps rest)
    (took : Engine.takePackets ps c.engine = .ok () e) {now : Nat} (rests : e.Rests now) :
    ∃ lastSent s', c.sync now s =
        (.ok (), { c with engine := { e with outgoing := #[], lastSent }, received := rest }, s') ∧
      ByteStream.Willing s' ∧ ByteStream.sent s' = ByteStream.sent s ++ e.outgoing.toList ∧
      (lastSent = now ∨ lastSent = e.lastSent) := by
  obtain ⟨P, obliging, holds⟩ := willing
  have holds1 := obliging.readAll holds
  have unsent := ByteStream.sent_readAll s
  have synced := syncsAsOne ready.whole ready.connected now s
  obtain ⟨goesOn, contents⟩ := hears
  unfold SyncsAsOne at synced
  generalize ByteStream.readAll s = all at synced holds1 unsent goesOn contents
  obtain ⟨chunks, last, s1⟩ := all
  dsimp only at synced holds1 unsent goesOn contents
  rw [contents, Engine.takeContents_eq, took, goesOn] at synced
  dsimp only [Reading.fault?] at synced
  rw [synced, finish, lift, rests.serviceKeepAlive]
  obtain ⟨lastSent, s2, wrote, holds2, all, time⟩ := obliging.writeOutput holds1 now
    { c with engine := e, received := rest }
  refine ⟨lastSent, s2, wrote, ⟨P, obliging, holds2⟩, ?_, time⟩
  rw [all, unsent]

/-- Nothing is written if a packet cannot be taken. -/
theorem Ready.sync_error (ready : c.Ready) (hears : c.Hearing s ps rest) {f : Fault}
    (failed : Engine.takePackets ps c.engine = .error f e) (now : Nat) :
    (c.sync now s).1 = .error f ∧ (c.sync now s).2.1.engine = e ∧
      ByteStream.sent (c.sync now s).2.2 = ByteStream.sent s := by
  have synced := syncsAsOne ready.whole ready.connected now s
  obtain ⟨-, contents⟩ := hears
  unfold SyncsAsOne at synced
  generalize ByteStream.readAll s = all at synced contents
  obtain ⟨chunks, last, s1⟩ := all
  dsimp only at synced contents
  rw [contents, Engine.takeContents_eq, failed] at synced
  exact synced

end Client

end MqttLink
