import MqttLink.Proofs.Boundaries
import MqttLink.Proofs.KeepAlive
import MqttLink.Proofs.NewClients
import MqttLink.Proofs.Willing

/-!
# What the far side can make a client hold

Whenever a client asks for more bytes, what it holds is the beginning of a frame that it has room for:
one that is too long is refused as soon as its length is known. An exchange is over after a turn for each
frame and each chunk that can be read, and one for each time that something is written.
-/

namespace MqttLink

/-! ## The beginning of a frame -/

/-- The length of a frame is in its first five bytes. -/
theorem Frame.totalLength?_take (b : Bytes) : totalLength? (b.take 5) = totalLength? b := by
  have length : ((b.take 5).drop 1).take 4 = (b.drop 1).take 4 := by
    rw [List.drop_take, List.take_take]
    rfl
  have more : ((b.take 5).drop 4).isEmpty = (b.drop 4).isEmpty := by
    rw [List.drop_take]
    cases b.drop 4 <;> rfl
  rw [totalLength?, totalLength?, length, more]

/-- No more than the beginning of a frame, and the frame is no longer than the limit. -/
structure Frame.Begun (limit : Nat) (b : Bytes) : Prop where
  unfinished : totalLength? b = .ok none ∨ ∃ n ≤ limit, totalLength? b = .ok (some n) ∧ b.length < n
  short : b.length < max 5 limit

theorem Next.begun {limit : Nat} {b : Bytes} (h : Next.of limit b = .incomplete) :
    Frame.Begun limit b := by
  have front := Next.front limit b
  generalize Next.of limit b = next at front h
  cases front with
  | endless | tooLong => cases h
  | unknown total =>
    have few := Frame.length_le_of_unknown total
    exact ⟨.inl total, by omega⟩
  | part total fits short => exact ⟨.inr ⟨_, fits, total, short⟩, by omega⟩
  | whole =>
    unfold Next.decoded at h
    split at h <;> cases h

/-- A frame has at least its first byte and one byte of length. -/
theorem Next.length_rest_add_two {limit : Nat} {b rest : Bytes} {p : Packet}
    (h : Next.of limit b = .packet p rest) : rest.length + 2 ≤ b.length := by
  obtain ⟨n, -, total, enough, rfl⟩ := Next.whole_of_packet h
  have long := Frame.two_le_totalLength? total
  rw [List.length_drop]
  omega

/-! ## Frames that are too long -/

namespace Engine

variable {limit : Nat} {b rest : Bytes} {e e' : Engine}

/-- The frames in front are handled one by one, and these are the engine and the bytes behind them. -/
inductive Handles (limit : Nat) : Engine → Bytes → Engine → Bytes → Prop
  | none (e : Engine) (b : Bytes) : Handles limit e b e b
  | next {e e₁ e' : Engine} {b b₁ rest : Bytes} {p : Packet} (found : Next.of limit b = .packet p b₁)
      (took : takePacket p e = .ok () e₁) (others : Handles limit e₁ b₁ e' rest) :
      Handles limit e b e' rest

theorem takeAll_tooSmall : (e.takeAll limit b).1 = .error .recvBufferTooSmall ↔
    ∃ e' rest n, Handles limit e b e' rest ∧ Frame.totalLength? rest = .ok (some n) ∧ limit < n := by
  constructor
  · intro failed
    fun_induction takeAll limit b e with
    | case1 => cases failed
    | case2 b e f rest found =>
      cases failed
      rcases Next.fault_cases found with other | ⟨-, n, total, long⟩
      · cases other
      · exact ⟨e, b, n, .none e b, total, long⟩
    | case3 b e p rest found e₁ ran ih =>
      obtain ⟨e', rest', n, others, total, long⟩ := ih failed
      exact ⟨e', rest', n, .next found ran others, total, long⟩
    | case4 b e p rest found f e₁ ran =>
      cases failed
      exact absurd (blames_takePacket p e _ _ ran) (by decide)
  · rintro ⟨e', rest, n, handles, total, long⟩
    induction handles with
    | none e b =>
      have found : Next.of limit b = .fault .recvBufferTooSmall b := by
        rw [Next.of, total]
        exact if_pos long
      rw [takeAll_of_fault e found]
    | next found took others ih => rw [takeAll_of_packet found took, ih total]

end Engine

namespace Client

variable {σ : Type} [ByteStream σ] {c c' : Client} {s s' : σ} {now : Nat}

/-! ## Outcomes of reading -/

variable {engine : Engine} {received : Bytes}

theorem takeInput_of_error {f : Fault}
    (taken : c.engine.takeAll c.recvCapacity c.received = (.error f, received, engine)) :
    c.takeInput s = (.error f, { c with engine, received }, s) := by
  rw [takeInput, taken]

/-- A frame that is taken now might have been taken before. -/
theorem takeInput_of_packet {p : Packet}
    (found : Next.of c.recvCapacity c.received = .packet p received)
    (ran : Engine.takePacket p c.engine = .ok () engine) :
    c.takeInput s = takeInput { c with engine, received } s := by
  rw [takeInput, takeInput, Engine.takeAll_of_packet found ran]

theorem finish_ne_tooSmall (c : Client) (s : σ) (now : Nat) :
    (c.finish now s).1 ≠ .error .recvBufferTooSmall := by
  have serviced := Engine.serviced now c.engine
  unfold finish lift
  cases ran : Engine.serviceKeepAlive now c.engine with
  | ok _ e =>
    dsimp only
    intro failed
    rcases writeOutput_error failed with closed | broken <;> contradiction
  | error f e =>
    rw [ran] at serviced
    cases serviced <;> simp

/-- An exchange meets a frame that is too long just if there is one behind those that it handles. -/
theorem Ready.sync_tooSmall (ready : c.Ready) : (c.sync now s).1 = .error .recvBufferTooSmall ↔
    (c.engine.takeAll c.recvCapacity (c.received ++ (ByteStream.readAll s).1.flatten)).1 =
      .error .recvBufferTooSmall := by
  have read := takeInput_eq c s
  rw [sync_eq ready.whole ready.connected]
  generalize ByteStream.readAll s = all at read
  obtain ⟨chunks, last, s₁⟩ := all
  dsimp only at read ⊢
  rcases took : c.engine.takeAll c.recvCapacity (c.received ++ chunks.flatten) with ⟨result, rest, e⟩
  rw [took] at read
  cases result with
  | error f =>
    dsimp only at read ⊢
    rcases ran : c.takeInput s with ⟨result, c₁, s₂⟩
    rw [ran] at read
    dsimp only at read
    rw [read.1]
  | ok _ =>
    dsimp only at read ⊢
    rw [read, stopReading]
    apply iff_of_false _ (by simp)
    cases last with
    | ended | failed => simp [Reading.fault?]
    | data | blocked => exact finish_ne_tooSmall _ _ now

/-! ## The turns of an exchange -/

/-- What comes when there is nothing more to be read. -/
def conclude (now : Nat) : Except Fault Unit × Client × σ → Except Fault Unit × Client × σ
  | (.error f, c, s) => (.error f, c, s)
  | (.ok (), c, s) => c.finish now s

/-- Where an exchange stands. -/
inductive Syncing (σ : Type) where
  | taking (c : Client) (s : σ)
  | writing (c : Client) (left : Bytes) (wrote : Bool) (s : σ)
  | finished (result : Except Fault Unit × Client × σ)

namespace Syncing

def service (now : Nat) (c : Client) (s : σ) : Syncing σ :=
  match lift (Engine.serviceKeepAlive now) c with
  | (.error f, c) => finished (.error f, c, s)
  | (.ok (), c) => writing c c.engine.outgoing.toList false s

/-- Takes one frame, or reads once if there is no whole one. -/
def take (now : Nat) (c : Client) (s : σ) : Syncing σ :=
  match Next.of c.recvCapacity c.received with
  | .fault f received =>
    finished (.error f, { c with engine := { c.engine with fault := some f }, received }, s)
  | .packet p received =>
    match Engine.takePacket p c.engine with
    | .ok () engine => taking { c with engine, received } s
    | .error f engine => finished (.error f, { c with engine, received }, s)
  | .incomplete =>
    match ByteStream.read s with
    | (.data bytes, s) => taking { c with received := c.received ++ bytes } s
    | (.ended, s) => finished (.error .connectionClosed, c.fail .connectionClosed, s)
    | (.failed, s) => finished (.error .socketError, c.fail .socketError, s)
    | (.blocked, s) => service now c s

/-- Notes what is left and when something was written, and flushes. -/
def settle (now : Nat) (c : Client) :
    Except Fault Unit × Bytes × Bool × σ → Except Fault Unit × Client × σ
  | (result, left, wrote, s) =>
    let lastSent := if wrote then now else c.engine.lastSent
    let c := { c with engine := { c.engine with outgoing := left.toArray, lastSent } }
    match result with
    | .error f => (.error f, c.fail f, s)
    | .ok () =>
      match ByteStream.flush s with
      | (.failed, s) => (.error .socketError, c.fail .socketError, s)
      | (_, s) => (.ok (), c, s)

/-- Writes once, if there is anything left. -/
def write (now : Nat) (c : Client) (left : Bytes) (wrote : Bool) (s : σ) : Syncing σ :=
  if left.isEmpty then finished (settle now c (.ok (), [], wrote, s))
  else match ByteStream.write s left with
    | (.accepted n, s) =>
      if n = 0 then finished (settle now c (.error .connectionClosed, left, wrote, s))
      else writing c (left.drop n) true s
    | (.blocked, s) => finished (settle now c (.ok (), left, wrote, s))
    | (.failed, s) => finished (settle now c (.error .socketError, left, wrote, s))

def turn (now : Nat) : Syncing σ → Syncing σ
  | taking c s => take now c s
  | writing c left wrote s => write now c left wrote s
  | finished result => finished result

/-- What the exchange comes to from there. -/
def result (now : Nat) : Syncing σ → Except Fault Unit × Client × σ
  | taking c s => conclude now (c.takeInput s)
  | writing c left wrote s => settle now c (drain s left wrote)
  | finished result => result

theorem result_service (now : Nat) (c : Client) (s : σ) :
    (service now c s).result now = c.finish now s := by
  unfold service finish
  rcases lift (Engine.serviceKeepAlive now) c with ⟨_ | _, _⟩ <;> rfl

theorem result_take (now : Nat) (c : Client) (s : σ) :
    (take now c s).result now = conclude now (c.takeInput s) := by
  unfold take
  cases found : Next.of c.recvCapacity c.received with
  | fault f rest =>
    rw [takeInput_of_error (Engine.takeAll_of_fault c.engine found)]
    rfl
  | packet p rest =>
    dsimp only
    cases ran : Engine.takePacket p c.engine with
    | ok _ e =>
      rw [takeInput_of_packet found ran]
      rfl
    | error f e =>
      rw [takeInput_of_error (Engine.takeAll_of_refused found ran)]
      rfl
  | incomplete =>
    have took := Engine.takeAll_of_incomplete c.engine found
    dsimp only
    rcases read : ByteStream.read s with ⟨reading, s'⟩
    cases reading with
    | data bytes =>
      rw [takeInput_of_data took read]
      rfl
    | ended | failed =>
      rw [takeInput_of_last took read (by simp)]
      rfl
    | blocked =>
      rw [takeInput_of_last took read (by simp)]
      exact result_service now c s'

theorem result_write (now : Nat) (c : Client) (left : Bytes) (wrote : Bool) (s : σ) :
    (write now c left wrote s).result now = settle now c (drain s left wrote) := by
  unfold write
  rw [drain]
  split
  · rfl
  · rcases ByteStream.write s left with ⟨_ | _ | _, s'⟩
    · dsimp only
      split <;> rfl
    · rfl
    · rfl

/-- A turn changes nothing about what the exchange comes to. -/
theorem result_turn (now : Nat) (x : Syncing σ) : (x.turn now).result now = x.result now := by
  cases x with
  | taking c s => exact result_take now c s
  | writing c left wrote s => exact result_write now c left wrote s
  | finished result => rfl

/-! ### Every exchange is over some time -/

def stream : Syncing σ → σ
  | taking _ s => s
  | writing _ _ _ s => s
  | finished (_, _, s) => s

theorem sent_drain_grows (s : σ) (bytes : Bytes) (wrote : Bool) :
    ByteStream.sent s <+: ByteStream.sent (drain s bytes wrote).2.2.2 := by
  fun_induction drain s bytes wrote with
  | case1 s bytes wrote empty => exact List.prefix_rfl
  | case2 s bytes wrote some_ s' taken =>
    rw [ByteStream.sent_accepted taken]
    exact List.prefix_append ..
  | case3 s bytes wrote some_ n s' taken pos ih =>
    rw [ByteStream.sent_accepted taken] at ih
    exact (List.prefix_append ..).trans ih
  | case4 s bytes wrote some_ s' taken | case5 s bytes wrote some_ s' taken =>
    rw [ByteStream.sent_refused taken (by simp)]

theorem sent_settle (now : Nat) (c : Client) (drained : Except Fault Unit × Bytes × Bool × σ) :
    ByteStream.sent (settle now c drained).2.2 = ByteStream.sent drained.2.2.2 := by
  obtain ⟨_ | _, left, wrote, s⟩ := drained
  · rfl
  · have unsent := ByteStream.sent_flush s
    unfold settle
    dsimp only
    split
    all_goals
      rename_i flushed
      rwa [flushed] at unsent

theorem sent_grows (now : Nat) (x : Syncing σ) :
    ByteStream.sent x.stream <+: ByteStream.sent (x.result now).2.2 := by
  have writes : ∀ (c : Client) (s : σ) left wrote,
      ByteStream.sent s <+: ByteStream.sent (settle now c (drain s left wrote)).2.2 := by
    intro c s left wrote
    rw [sent_settle]
    exact sent_drain_grows s left wrote
  have finishes : ∀ (c : Client) (s : σ),
      ByteStream.sent s <+: ByteStream.sent (c.finish now s).2.2 := by
    intro c s
    unfold finish
    split
    · exact List.prefix_rfl
    · exact writes ..
  cases x with
  | taking c s =>
    have unsent := sent_takeInput c s
    change ByteStream.sent s <+: ByteStream.sent (conclude now (c.takeInput s)).2.2
    rw [← unsent]
    rcases c.takeInput s with ⟨_ | _, c', s'⟩
    · exact List.prefix_rfl
    · exact finishes c' s'
  | writing c left wrote s => exact writes c s left wrote
  | finished result => exact List.prefix_rfl

/-- How many turns there are at most without those that write: a frame takes two bytes at least, and a
read takes a chunk. -/
def reads : Syncing σ → Nat
  | taking c s =>
    let (chunks, _) := ByteStream.readAll s
    (c.received.length + chunks.flatten.length) / 2 + chunks.length + 2
  | writing .. => 1
  | finished _ => 0

/-- How many turns there are at most: each that writes takes a byte at least. -/
def steps (now : Nat) (x : Syncing σ) : Nat :=
  x.reads + ((ByteStream.sent (x.result now).2.2).length - (ByteStream.sent x.stream).length)

theorem reads_service_lt (now : Nat) (c : Client) (s : σ) :
    (service now c s).reads < 2 ∧ (service now c s).stream = s := by
  unfold service
  split <;> simp [reads, stream]

/-- A turn that does not write leaves less to read, and nothing is sent. -/
theorem reads_take_lt (now : Nat) (c : Client) (s : σ) :
    (take now c s).reads < (taking c s).reads ∧
      ByteStream.sent (take now c s).stream = ByteStream.sent s := by
  unfold take
  cases found : Next.of c.recvCapacity c.received with
  | fault f rest => exact ⟨Nat.succ_pos _, rfl⟩
  | packet p rest =>
    have shorter := Next.length_rest_add_two found
    dsimp only
    cases ran : Engine.takePacket p c.engine with
    | ok _ e =>
      refine ⟨?_, rfl⟩
      simp only [reads]
      omega
    | error f e => exact ⟨Nat.succ_pos _, rfl⟩
  | incomplete =>
    have unsent := ByteStream.sent_read s
    dsimp only
    rcases read : ByteStream.read s with ⟨reading, s'⟩
    rw [read] at unsent
    cases reading with
    | data bytes =>
      refine ⟨?_, unsent⟩
      simp only [reads, ByteStream.readAll_of_data read, List.flatten_cons, List.length_append,
        List.length_cons]
      omega
    | ended | failed => exact ⟨Nat.succ_pos _, unsent⟩
    | blocked =>
      obtain ⟨few, same⟩ := reads_service_lt now c s'
      dsimp only
      rw [same]
      exact ⟨Nat.lt_of_lt_of_le few (Nat.le_add_left ..), unsent⟩

/-- A turn that does not end the writing has sent something. -/
theorem write_cases (now : Nat) (c : Client) (left : Bytes) (wrote : Bool) (s : σ) :
    (∃ drained, write now c left wrote s = finished (settle now c drained)) ∨ ∃ n s', 0 < n ∧ n ≤ left.length ∧
      write now c left wrote s = writing c (left.drop n) true s' ∧
      ByteStream.sent s' = ByteStream.sent s ++ left.take n := by
  unfold write
  split
  · exact .inl ⟨_, rfl⟩
  · rcases taken : ByteStream.write s left with ⟨_ | _ | _, s'⟩
    · dsimp only
      split
      · exact .inl ⟨_, rfl⟩
      · rename_i some_
        exact .inr ⟨_, s', Nat.pos_of_ne_zero some_, ByteStream.write_le taken, rfl,
          ByteStream.sent_accepted taken⟩
    · exact .inl ⟨_, rfl⟩
    · exact .inl ⟨_, rfl⟩

theorem steps_finished (now : Nat) (result : Except Fault Unit × Client × σ) :
    (finished result).steps now = 0 := by
  rw [steps, reads, Nat.zero_add]
  exact Nat.sub_self _

theorem steps_turn (now : Nat) (x : Syncing σ) :
    (∃ result, x = finished result) ∨ (x.turn now).steps now < x.steps now := by
  have same := result_turn now x
  cases x with
  | taking c s =>
    right
    have less := reads_take_lt now c s
    rw [steps, steps, same, turn, less.2]
    exact Nat.add_lt_add_right less.1 _
  | writing c left wrote s =>
    right
    rcases write_cases now c left wrote s with ⟨result, ends⟩ | ⟨n, s', pos, bound, goesOn, more⟩
    · rw [turn, ends, steps_finished]
      exact Nat.add_pos_left Nat.one_pos _
    · -- What is sent in the end begins with what has been sent by now.
      have grows := (sent_grows now (writing c (left.drop n) true s')).length_le
      have size := congrArg List.length more
      rw [List.length_append, List.length_take_of_le bound] at size
      rw [turn, goesOn] at same ⊢
      rw [same] at grows
      rw [steps, steps, same]
      simp only [stream, reads] at grows ⊢
      omega
  | finished result => exact .inl ⟨result, rfl⟩

/-- A turn for each step is enough. -/
theorem run (now : Nat) (x : Syncing σ) :
    ∃ n ≤ x.steps now, (turn now)^[n] x = finished (x.result now) := by
  induction fuel : x.steps now using Nat.strong_induction_on generalizing x with
  | _ fuel ih =>
    rcases steps_turn now x with ⟨result, rfl⟩ | less
    · exact ⟨0, Nat.zero_le _, rfl⟩
    · obtain ⟨n, bound, ends⟩ := ih _ (by omega) (x.turn now) rfl
      refine ⟨n + 1, by omega, ?_⟩
      rw [Function.iterate_succ_apply, ends, result_turn]

/-! ### What is held -/

/-- A client with room for so many bytes never holds more than `held`, and only the beginning of a frame
once there is nothing to be read. -/
def Within (limit held : Nat) : Syncing σ → Prop
  | taking c s => c.recvCapacity = limit ∧ c.received.length ≤ held ∧
      ∀ chunk ∈ (ByteStream.readAll s).1, max 5 limit + chunk.length ≤ held
  | writing c .. => c.recvCapacity = limit ∧ Frame.Begun limit c.received
  | finished r => r.1 = .ok () → r.2.1.recvCapacity = limit ∧ Frame.Begun limit r.2.1.received

variable {limit held : Nat}

theorem within_service (capacity : c.recvCapacity = limit) (begun : Frame.Begun limit c.received) :
    (service now c s).Within limit held := by
  unfold service lift
  cases Engine.serviceKeepAlive now c.engine with
  | ok _ e => exact ⟨capacity, begun⟩
  | error f e => exact nofun

theorem within_take (h : (taking c s).Within limit held) : (take now c s).Within limit held := by
  obtain ⟨capacity, fits, room⟩ := h
  unfold take
  cases found : Next.of c.recvCapacity c.received with
  | fault f rest => exact nofun
  | packet p rest =>
    have shorter := Next.length_rest found
    dsimp only
    cases ran : Engine.takePacket p c.engine with
    | ok _ e => exact ⟨capacity, Nat.le_trans (Nat.le_of_lt shorter) fits, room⟩
    | error f e => exact nofun
  | incomplete =>
    have begun := Next.begun found
    rw [capacity] at begun
    dsimp only
    rcases read : ByteStream.read s with ⟨reading, s'⟩
    cases reading with
    | data bytes =>
      -- All that is held is the beginning of a frame, so there is room for the chunk.
      rw [ByteStream.readAll_of_data read, List.forall_mem_cons] at room
      have short := begun.short
      refine ⟨capacity, ?_, room.2⟩
      rw [List.length_append]
      omega
    | ended | failed => exact nofun
    | blocked => exact within_service capacity begun

theorem held_settle (now : Nat) (c : Client) (drained : Except Fault Unit × Bytes × Bool × σ) :
    (settle now c drained).2.1.recvCapacity = c.recvCapacity ∧
      (settle now c drained).2.1.received = c.received := by
  obtain ⟨_ | _, left, wrote, s⟩ := drained
  · exact ⟨rfl, rfl⟩
  · unfold settle
    dsimp only
    split <;> exact ⟨rfl, rfl⟩

theorem within_turn {x : Syncing σ} (h : x.Within limit held) : (x.turn now).Within limit held := by
  cases x with
  | taking c s => exact within_take h
  | writing c left wrote s =>
    rw [turn]
    rcases write_cases now c left wrote s with ⟨drained, ends⟩ | ⟨n, s', -, -, goesOn, -⟩
    · obtain ⟨capacity, received⟩ := held_settle now c drained
      rw [ends, Within, capacity, received]
      exact fun _ => h
    · rw [goesOn]
      exact h
  | finished result => exact h

theorem within_turns (now : Nat) {x : Syncing σ} (h : x.Within limit held) (n : Nat) :
    ((turn now)^[n] x).Within limit held := by
  induction n with
  | zero => exact h
  | succ n ih =>
    rw [Function.iterate_succ_apply']
    exact within_turn ih

end Syncing

/-! ## Bounds of an exchange -/

/-- What the far side cannot do to a client in one exchange. -/
structure Bounded (now : Nat) (c : Client) (s : σ) : Prop where
  /-- Keep it busy for longer than there are frames and chunks to be read, and bytes to be written. -/
  ends : ∃ n out, (Syncing.turn now)^[n] (.taking c s) = .finished (c.sync now s) ∧
    ByteStream.sent (c.sync now s).2.2 = ByteStream.sent s ++ out ∧
    n ≤ (c.received.length + (ByteStream.readAll s).1.flatten.length) / 2 +
      (ByteStream.readAll s).1.length + out.length + 2
  /-- Make it hold more than a chunk behind the beginning of a frame. -/
  holds : ∀ held, c.received.length ≤ held →
    (∀ chunk ∈ (ByteStream.readAll s).1, max 5 c.recvCapacity + chunk.length ≤ held) →
    ∀ n c' s', (Syncing.turn now)^[n] (.taking c s) = .taking c' s' → c'.received.length ≤ held
  /-- Make it wait for a frame that it has no room for. -/
  waits : ∀ n c' s', (Syncing.turn now)^[n] (.taking c s) = .taking c' s' →
    Next.of c'.recvCapacity c'.received = .incomplete → Frame.Begun c.recvCapacity c'.received
  /-- Leave anything but the beginning of a frame with it. -/
  leaves : (c.sync now s).1 = .ok () → Frame.Begun c.recvCapacity (c.sync now s).2.1.received
  /-- Get a frame past it that is too long, or have one refused that is not. -/
  refuses : (c.sync now s).1 = .error .recvBufferTooSmall ↔ ∃ e rest n,
    Engine.Handles c.recvCapacity c.engine (c.received ++ (ByteStream.readAll s).1.flatten) e rest ∧
      Frame.totalLength? (rest.take 5) = .ok (some n) ∧ c.recvCapacity < n

end Client

open Client in
theorem sync_bounded {σ : Type} [ByteStream σ] {c : Client} (ready : c.Ready) (now : Nat) (s : σ) :
    c.Bounded now s := by
  have result : (Syncing.taking c s).result now = c.sync now s := by
    rw [sync_eq ready.whole ready.connected]
    rfl
  obtain ⟨n, bound, ends⟩ := Syncing.run now (.taking c s)
  have within : ∃ held, (Syncing.taking c s).Within c.recvCapacity held := by
    refine ⟨c.received.length + (max 5 c.recvCapacity + (ByteStream.readAll s).1.flatten.length), rfl,
      Nat.le_add_right .., ?_⟩
    intro chunk mem
    have part := (List.sublist_flatten_of_mem mem).length_le
    omega
  rw [result] at ends
  constructor
  case ends =>
    have sent := Syncing.sent_grows now (.taking c s)
    rw [result] at sent
    obtain ⟨out, more⟩ := sent
    refine ⟨n, out, ends, more.symm, ?_⟩
    rw [Syncing.steps, result, ← more, List.length_append] at bound
    simp only [Syncing.reads, Syncing.stream] at bound
    omega
  case holds =>
    intro held fits room m c' s' stands
    have within : (Syncing.taking c s).Within c.recvCapacity held := ⟨rfl, fits, room⟩
    have there := Syncing.within_turns now within m
    rw [stands] at there
    exact there.2.1
  case waits =>
    intro m c' s' stands waiting
    obtain ⟨held, within⟩ := within
    have there := Syncing.within_turns now within m
    rw [stands] at there
    rw [there.1] at waiting
    exact Next.begun waiting
  case leaves =>
    intro ok
    obtain ⟨held, within⟩ := within
    have there := Syncing.within_turns now within n
    rw [ends] at there
    exact (there ok).2
  case refuses =>
    rw [ready.sync_tooSmall, Engine.takeAll_tooSmall]
    simp only [Frame.totalLength?_take]

open Client in
/-- The first byte of a message is kept, and with its second one it is known to be too long. -/
theorem sync_bounded_header :
    let c : Client := {
      engine := { sendCapacity := 64, connected := true, lastSent := 0, listening := true }
      recvCapacity := 8 }
    let first : Link := { inbox := [[0xD0, 0, 0x30]] }
    let both : Link := { inbox := [[0xD0, 0, 0x30], [0x7F]] }
    ((c.sync 0 first).1 = .ok () ∧ Frame.Begun 8 (c.sync 0 first).2.1.received) ∧
      (c.sync 0 both).1 = .error .recvBufferTooSmall := by
  intro c first both
  have ready : c.Ready := ⟨rfl, rfl⟩
  have ok : (c.sync 0 first).1 = .ok () := by cbv
  have bytes : c.received ++ (ByteStream.readAll both).1.flatten = [0xD0, 0, 0x30, 0x7F] := by
    rw [Link.readAll_eq]
    rfl
  have found : Next.of 8 [0xD0, 0, 0x30, 0x7F] = .packet .pingresp [0x30, 0x7F] := by cbv
  refine ⟨⟨ok, (sync_bounded ready 0 first).leaves ok⟩, (sync_bounded ready 0 both).refuses.2 ?_⟩
  rw [bytes]
  exact ⟨_, [0x30, 0x7F], 129, .next found rfl (.none _ _), by cbv, by decide⟩

end MqttLink
