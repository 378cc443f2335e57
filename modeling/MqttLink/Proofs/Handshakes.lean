import MqttLink.Proofs.Faults
import MqttLink.Proofs.Speech
import MqttLink.Proofs.Tracking
import MqttLink.Proofs.Waits

/-!
# The first packet decides

A client that connects sends its greeting, and then the first packet from the far side decides. Both
happen before one deadline, or nothing comes of it.
-/

namespace MqttLink

/-! ## What the far side says first -/

/-- The first frame of some bytes is whole and no longer than the limit, and this is what it holds. -/
inductive Frame.First (limit : Nat) (bytes : Bytes) (content : Except DecodeError Packet) (rest : Bytes) :
    Prop
  | intro {n : Nat} {header : Header} {body : Bytes} (total : totalLength? bytes = .ok (some n))
      (fits : n ≤ limit) (whole : n ≤ bytes.length)
      (split : split limit bytes = .ok (header, body, rest))
      (content : Packet.decode header.kind body = content)

section

variable {limit : Nat} {bytes rest : Bytes} {p : Packet} {e : DecodeError}

theorem Frame.First.next (first : First limit bytes (.ok p) rest) :
    Next.of limit bytes = .packet p rest := by
  obtain ⟨total, fits, whole, split, decoded⟩ := first
  simp only [Next.of, total, split, decoded]
  rw [if_neg (Nat.not_lt.2 fits), if_neg (Nat.not_lt.2 whole)]

theorem Frame.First.next_of_error (first : First limit bytes (.error e) rest) :
    Next.of limit bytes = .fault .malformedPacket rest := by
  obtain ⟨total, fits, whole, split, undecodable⟩ := first
  simp only [Next.of, total, split, undecodable]
  rw [if_neg (Nat.not_lt.2 fits), if_neg (Nat.not_lt.2 whole)]

end

namespace Link

variable {limit : Nat} {l : Link}

/-- Nobody who hears this waits for more: there is a first packet, or there never will be one. -/
def Decides (limit : Nat) (l : Link) : Prop :=
  Next.of limit l.unread ≠ .incomplete ∨ l.last ≠ .blocked

instance (limit : Nat) (l : Link) : Decidable (l.Decides limit) := inferInstanceAs (Decidable (_ ∨ _))

/-- Why a client that hears this does not get connected. -/
inductive Objects (limit : Nat) (l : Link) : Fault → Prop
  | refused {present : Bool} {code : ConnectReply} {rest : Bytes} (other : code ≠ .accepted)
      (first : Frame.First limit l.unread (.ok (.connack present code)) rest) :
      Objects limit l .connectionRefused
  | unexpected {p : Packet} {rest : Bytes} (other : ∀ present code, p ≠ .connack present code)
      (first : Frame.First limit l.unread (.ok p) rest) : Objects limit l .malformedPacket
  | undecodable {e : DecodeError} {rest : Bytes} (first : Frame.First limit l.unread (.error e) rest) :
      Objects limit l .malformedPacket
  | endless (total : Frame.totalLength? l.unread = .error {}) : Objects limit l .malformedPacket
  | tooLong {n : Nat} (total : Frame.totalLength? l.unread = .ok (some n)) (long : limit < n) :
      Objects limit l .recvBufferTooSmall
  | ended (part : Next.of limit l.unread = .incomplete) (last : l.last = .ended) :
      Objects limit l .connectionClosed
  | failed (part : Next.of limit l.unread = .incomplete) (last : l.last = .failed) :
      Objects limit l .socketError

/-- What a client that hears this comes to. -/
def verdict (limit : Nat) (l : Link) : Except Fault Unit :=
  match Next.of limit l.unread with
  | .packet (.connack _ .accepted) _ => .ok ()
  | .packet (.connack ..) _ => .error .connectionRefused
  | .packet .. => .error .malformedPacket
  | .fault f _ => .error f
  | .incomplete => .error (if l.last = .ended then .connectionClosed else .socketError)

theorem Objects.verdict {f : Fault} (objects : l.Objects limit f) : l.verdict limit = .error f := by
  unfold Link.verdict
  cases objects with
  | @refused present code rest other first =>
    rw [first.next]
    cases code <;> first | contradiction | rfl
  | @unexpected p rest other first =>
    rw [first.next]
    cases p with
    | connack present code => exact absurd rfl (other present code)
    | _ => rfl
  | undecodable first => rw [first.next_of_error]
  | endless total => simp only [Next.of, total]
  | tooLong total long => simp only [Next.of, total, if_pos long]
  | ended part last => rw [part, last]; rfl
  | failed part last => rw [part, last]; rfl

/-- A whole frame decides by what it holds. -/
theorem cases_of_first {content : Except DecodeError Packet} {rest : Bytes}
    (first : Frame.First limit l.unread content rest) :
    (∃ present rest, Frame.First limit l.unread (.ok (.connack present .accepted)) rest) ∨
      ∃ f, l.Objects limit f := by
  cases content with
  | error e => exact .inr ⟨_, .undecodable first⟩
  | ok p =>
    cases p with
    | connack present code =>
      by_cases accepted : code = .accepted
      · subst accepted
        exact .inl ⟨present, rest, first⟩
      · exact .inr ⟨_, .refused accepted first⟩
    | _ => exact .inr ⟨_, .unexpected (by simp) first⟩

theorem Decides.cases (decides : l.Decides limit) :
    (∃ present rest, Frame.First limit l.unread (.ok (.connack present .accepted)) rest) ∨
      ∃ f, l.Objects limit f := by
  by_cases part : Next.of limit l.unread = .incomplete
  · have stops := decides.resolve_left (not_not_intro part)
    right
    cases last : l.last with
    | data bytes => exact absurd last (last_ne_data bytes)
    | blocked => exact absurd last stops
    | ended => exact ⟨_, .ended part last⟩
    | failed => exact ⟨_, .failed part last⟩
  · have front := Next.front limit l.unread
    generalize Next.of limit l.unread = next at front part
    cases front with
    | unknown | part => exact absurd rfl part
    | endless total => exact .inr ⟨_, .endless total⟩
    | tooLong total long => exact .inr ⟨_, .tooLong total long⟩
    | @whole n header total fits enough found size =>
      have split := Frame.split_of_header limit found (by omega) (by omega)
      exact cases_of_first (.intro total fits enough split rfl)

theorem unread_behind (head : List Bytes) (l : Link) : (l.behind head).unread = head.flatten ++ l.unread :=
  List.flatten_append

end Link

/-! ## Reading up to the first packet -/

namespace Client

/-- A client that has been told how its connect ends. -/
def told (verdict : Except Fault Unit) (c : Client) : Client :=
  match verdict with
  | .ok () => { c with engine := { c.engine with connected := true } }
  | .error f => c.fail f

/-- What comes of reading, if all that can be heard on this link is either read already or still there. -/
inductive Replied (c : Client) (l : Link) : Option (Except Fault Unit) × Client × Link → Prop
  | decides {received : Bytes} {inbox : List Bytes} (decides : l.Decides c.recvCapacity)
      (behind : ∀ p rest, Next.of c.recvCapacity l.unread = .packet p rest →
        received ++ inbox.flatten = rest) :
      Replied c l (some (l.verdict c.recvCapacity),
        { c.told (l.verdict c.recvCapacity) with received }, { l with inbox })
  | waits (silent : ¬ l.Decides c.recvCapacity) :
      Replied c l (none, { c with received := l.unread }, { l with inbox := [] })

theorem judge_eq {p : Packet} {rest : Bytes} (c : Client) {limit : Nat} {l : Link}
    (found : Next.of limit l.unread = .packet p rest) :
    judge p c = (l.verdict limit, c.told (l.verdict limit)) := by
  unfold Link.verdict
  rw [found]
  unfold judge
  cases p with
  | connack present code => cases code <;> rfl
  | _ => rfl

theorem told_received (verdict : Except Fault Unit) (c : Client) (received : Bytes) :
    told verdict { c with received } = { c.told verdict with received } := by
  cases verdict <;> rfl

variable {c : Client} {head : List Bytes} {l : Link}

theorem Replied.fails {f : Fault} (decides : l.Decides c.recvCapacity)
    (verdict : l.verdict c.recvCapacity = .error f)
    (noPacket : ∀ p rest, Next.of c.recvCapacity l.unread ≠ .packet p rest) (received : Bytes)
    (inbox : List Bytes) :
    Replied c l (some (.error f), { c.fail f with received }, { l with inbox }) := by
  have replied : Replied c l (some (l.verdict c.recvCapacity),
      { c.told (l.verdict c.recvCapacity) with received }, { l with inbox }) :=
    .decides decides fun p rest found => absurd found (noPacket p rest)
  rw [verdict] at replied
  exact replied

theorem replied_of_known (known : Next.of c.recvCapacity head.flatten ≠ .incomplete) :
    Replied c (l.behind head) (awaitReply { c with received := head.flatten } l) := by
  have all := Link.unread_behind head l
  rw [awaitReply]
  dsimp only
  cases found : Next.of c.recvCapacity head.flatten with
  | incomplete => exact absurd found known
  | packet p rest =>
    have whole := Next.of_append_packet found l.unread
    rw [← all] at whole
    dsimp only
    rw [judge_eq _ whole, told_received]
    refine .decides (.inl (by simp [whole])) ?_
    intro p' rest' found'
    rw [whole] at found'
    cases found'
    rfl
  | fault f rest =>
    have whole := Next.of_append_fault found l.unread
    rw [← all] at whole
    exact Replied.fails (.inl (by simp [whole])) (by rw [Link.verdict, whole]) (by simp [whole]) rest l.inbox

/-- What comes of one more reading. -/
def reading (c : Client) (l : Link) : Reading → Option (Except Fault Unit) × Client × Link
  | .data bytes => awaitReply { c with received := c.received ++ bytes } l
  | .ended => (some (.error .connectionClosed), c.fail .connectionClosed, l)
  | .failed => (some (.error .socketError), c.fail .socketError, l)
  | .blocked => (none, c, l)

theorem awaitReply_of_read {l' : Link} {r : Reading} (part : Next.of c.recvCapacity c.received = .incomplete)
    (read : ByteStream.read l = (r, l')) : c.awaitReply l = c.reading l' r := by
  rw [awaitReply, part]
  dsimp only
  split
  all_goals
    rename_i read'
    rw [read] at read'
    cases read'
    rfl

/-- Once all is read, what comes behind it decides, if anything does. -/
theorem replied_of_read (part : Next.of c.recvCapacity head.flatten = .incomplete) (empty : l.inbox = []) :
    Replied c (l.behind head) (awaitReply { c with received := head.flatten } l) := by
  have all : (l.behind head).unread = head.flatten := by
    rw [Link.unread_behind, Link.unread, empty, List.flatten_nil, List.append_nil]
  rw [awaitReply_of_read part (Link.read_nil empty)]
  rw [← all] at part
  have stopped : ∀ f, (l.behind head).last ≠ .blocked → (l.behind head).verdict c.recvCapacity = .error f →
      Replied c (l.behind head) (some (.error f), { c.fail f with received := head.flatten }, l) :=
    fun f stops verdict => Replied.fails (.inr stops) verdict (by simp [part]) head.flatten l.inbox
  have same : (l.behind head).last = l.last := rfl
  cases last : l.last with
  | data bytes => exact absurd last (Link.last_ne_data bytes)
  | ended => exact stopped _ (by simp [same, last]) (by rw [Link.verdict, part, same, last]; rfl)
  | failed => exact stopped _ (by simp [same, last]) (by rw [Link.verdict, part, same, last]; rfl)
  | blocked =>
    have silent : ¬ (l.behind head).Decides c.recvCapacity := by
      rintro (known | stops)
      · exact known part
      · exact stops last
    have waits := Replied.waits silent
    have inbox : { l.behind head with inbox := [] } = l := by
      unfold Link.behind
      rw [← empty]
    rw [all, inbox] at waits
    exact waits

theorem replied (c : Client) (head : List Bytes) (l : Link) :
    Replied c (l.behind head) (awaitReply { c with received := head.flatten } l) := by
  -- What can be heard stays the same as one chunk after the other is read, so `l.behind head` does.
  generalize chunks : l.inbox = inbox
  induction inbox generalizing head l with
  | nil =>
    by_cases part : Next.of c.recvCapacity head.flatten = .incomplete
    · exact replied_of_read part chunks
    · exact replied_of_known part
  | cons chunk inbox ih =>
    by_cases part : Next.of c.recvCapacity head.flatten = .incomplete
    · have rest := ih (head ++ [chunk]) { l with inbox } rfl
      have same : Link.behind (head ++ [chunk]) { l with inbox } = l.behind head := by
        simp [Link.behind, chunks]
      rw [same, List.flatten_append, List.flatten_singleton] at rest
      rwa [awaitReply_of_read part (Link.read_cons chunks)]
    · exact replied_of_known part

end Client

/-! ## Waiting for the first packet -/

namespace Solo

variable {x y z : Solo} {c : Client} {limit deadline : Nat}

/-- The first time before a deadline that somebody who waits has heard enough. -/
def decisive? (limit deadline : Nat) (x : Solo) : Option Solo :=
  (x.moments deadline).find? fun m => m.link.Decides limit

theorem decisive?_of_decides (decides : x.link.Decides limit) :
    x.decisive? limit deadline = some x := by
  rw [decisive?, moments_eq, List.find?_cons_of_pos (by simpa using decides)]

theorem decisive?_of_silent (silent : ¬ x.link.Decides limit) :
    x.decisive? limit deadline = (x.next? deadline).bind (decisive? limit deadline) := by
  rw [decisive?, moments_eq, List.find?_cons_of_neg (by simpa using silent)]
  cases x.next? deadline <;> rfl

/-- How a wait for the first packet ends, if this is the first time that there is enough to hear. -/
inductive Heard (c : Client) (deadline : Nat) : Option Solo → Except Fault Unit × Solo → Prop
  | reply {m : Solo} {verdict : Except Fault Unit} {c' : Client} {l' : Link}
      (replied : Client.Replied c m.link (some verdict, c', l')) :
      Heard c deadline (some m) (verdict, ⟨c', l', m.now⟩)
  | silence {received : Bytes} {l : Link} :
      Heard c deadline none (.error .socketError, ⟨{ c.fail .socketError with received }, l, deadline⟩)

/-- The client has read some chunks, and `z` is how it would be if it had not. -/
structure Trails (c : Client) (head : List Bytes) (x z : Solo) : Prop where
  client : x.client = { c with received := head.flatten }
  whole : z = x.behind z.client head

namespace Trails

variable {head : List Bytes}

theorem replied (trails : Trails c head x z) :
    Client.Replied c z.link (x.client.awaitReply x.link) := by
  rw [trails.client, trails.whole]
  exact Client.replied c head x.link

theorem now (trails : Trails c head x z) : z.now = x.now := by
  rw [trails.whole]
  rfl

theorem next_of_some (trails : Trails c head x z) (next : x.next? deadline = some y) :
    ∃ z', z.next? deadline = some z' ∧ Trails c head y z' := by
  have step := step_of_next? next
  refine ⟨y.behind z.client head, ?_, step.client.trans trails.client, rfl⟩
  rw [trails.whole, next?_behind, next]
  rfl

theorem next_of_none (trails : Trails c head x z) (next : x.next? deadline = none) :
    z.next? deadline = none := by
  rw [trails.whole, next?_behind, next]
  rfl

/-- As long as nothing is decided the client reads all there is. -/
theorem read (trails : Trails c head x z) (silent : ¬ z.link.Decides c.recvCapacity) :
    ∃ c' l' head', x.client.awaitReply x.link = (none, c', l') ∧ l'.toCome = x.link.toCome ∧
      Trails c head' ⟨c', l', x.now⟩ z := by
  have replied := trails.replied
  generalize x.client.awaitReply x.link = r at replied
  cases replied with
  | decides decides => exact absurd decides silent
  | waits =>
    have whole := trails.whole
    refine ⟨_, _, head ++ x.link.inbox, rfl, ?_, ?_, ?_⟩
    · rw [whole]
      rfl
    · rw [whole]
      rfl
    · rw [whole]
      simp [behind, Link.behind]

end Trails

/-- The client reads what there is, the far side goes on, and the client reads what is new. -/
theorem heard_await {fuel : Nat} {head : List Bytes} (trails : Trails c head x z)
    (early : x.now < deadline) (enough : x.link.toCome + 2 ≤ fuel) :
    Heard c deadline (z.decisive? c.recvCapacity deadline)
      (await Handshake.poll (·.deadline) fuel ⟨deadline, .awaiting⟩ x) := by
  -- Each poll but the last is followed by a step of the far side, so the fuel is more than what is to come.
  induction fuel generalizing head x z with
  | zero => omega
  | succ fuel ih =>
    by_cases decides : z.link.Decides c.recvCapacity
    · have replied := trails.replied
      rw [decisive?_of_decides decides]
      rcases heard : x.client.awaitReply x.link with ⟨_ | verdict, c', l'⟩
      · rw [heard] at replied
        cases replied with
        | waits silent => exact absurd decides silent
      · rw [heard] at replied
        have polled : Handshake.poll x.now ⟨deadline, .awaiting⟩ x.client x.link =
            (.done verdict, c', l') := by
          simp [Handshake.poll, Handshake.pollReply, heard]
        rw [await_done (by omega) polled, ← trails.now]
        exact .reply replied
    · obtain ⟨c', l', head', silent, same, trails⟩ := trails.read decides
      have polled : Handshake.poll x.now ⟨deadline, .awaiting⟩ x.client x.link =
          (.waiting ⟨deadline, .awaiting⟩, c', l') := by
        simp [Handshake.poll, Handshake.pollReply, silent, Handshake.block, Nat.not_le.2 early]
      rw [decisive?_of_silent decides]
      cases next : next? deadline ⟨c', l', x.now⟩ with
      | some y =>
        obtain ⟨z', far, trails⟩ := trails.next_of_some next
        have step := step_of_next? next
        have less := step.less
        rw [await_next (by omega) polled next, far]
        exact ih trails (step.early early) (by dsimp only at less; omega)
      | none =>
        obtain ⟨c'', l'', head'', silent, -, trails'⟩ := trails.read decides
        have last : Handshake.poll (max x.now deadline) ⟨deadline, .awaiting⟩ c' l' =
            (.done (.error .socketError), c''.fail .socketError, l'') := by
          simp [Handshake.poll, Handshake.pollReply, silent, Handshake.block]
        rw [await_late (by omega) polled next last, trails.next_of_none next,
          Nat.max_eq_right (Nat.le_of_lt early), show c'' = _ from trails'.client]
        exact .silence

end Solo

/-! ## Sending the greeting -/

namespace Link

variable {l l' : Link} {bytes left : Bytes}

theorem toCome_write {w : Writing} (h : ByteStream.write l bytes = (w, l')) : l'.toCome = l.toCome := by
  change l.write bytes = _ at h
  unfold write at h
  split at h
  · cases h
    rfl
  · split at h
    · cases h
      rfl
    · split at h <;> cases h <;> rfl

theorem toCome_sendAll {sent : Sending} (h : ByteStream.sendAll l bytes = (sent, l')) :
    l'.toCome = l.toCome := by
  fun_induction ByteStream.sendAll l bytes with
  | case1 l bytes empty =>
    cases h
    rfl
  | case3 l bytes some_ n l'' taken pos ih => exact (ih h).trans (toCome_write taken)
  | case2 l bytes some_ l'' taken | case4 l bytes some_ l'' taken | case5 l bytes some_ l'' taken =>
    cases h
    exact toCome_write taken

theorem eq_of_flush {flushing : Flushing} (h : ByteStream.flush l = (flushing, l')) : l' = l := by
  change l.flush = _ at h
  unfold flush at h
  split at h
  · cases h
    rfl
  · split at h <;> cases h <;> rfl

/-- A link that takes no more goes on taking no more. -/
theorem sendAll_of_rest (h : ByteStream.sendAll l bytes = (.rest left, l')) :
    ByteStream.sendAll l' left = (.rest left, l') := by
  fun_induction ByteStream.sendAll l bytes with
  | case1 | case2 | case5 => cases h
  | case3 l bytes some_ n l'' taken pos ih => exact ih h
  | case4 l bytes some_ l'' refused =>
    cases h
    have same : l' = l := by
      change l.write left = _ at refused
      unfold write at refused
      split at refused
      · cases refused
      · split at refused
        · cases refused
        · split at refused <;> cases refused
          rfl
    rw [same] at refused ⊢
    rw [ByteStream.sendAll, if_neg some_, refused]

end Link

namespace Solo

variable {x y z : Solo} {deadline : Nat} {bytes : Bytes}

/-- How it is when the stream has taken and flushed all of some bytes, if that is before a deadline. -/
def takes? (deadline : Nat) (bytes : Bytes) (x : Solo) : Option Solo :=
  match _sent : ByteStream.sendAll x.link bytes with
  | (.failed, _) => none
  | (.rest left, link) =>
    match _next : next? deadline { x with link } with
    | some y => y.takes? deadline left
    | none => none
  | (.all, link) =>
    match _flushed : ByteStream.flush link with
    | (.failed, _) => none
    | (.flushed, link) => some { x with link }
    | (.blocked, link) =>
      match _next : next? deadline { x with link } with
      | some y => y.takes? deadline []
      | none => none
termination_by x.link.toCome
decreasing_by
  all_goals
    have less := (step_of_next? _next).less
    have same := Link.toCome_sendAll _sent
    dsimp only at less
  · omega
  · rw [Link.eq_of_flush _flushed] at less
    omega

theorem grows_beginAll (fuel : Nat) (x : Solo) : x.link.Grows (x.beginAll fuel).link := by
  induction fuel generalizing x with
  | zero => exact .same rfl rfl
  | succ fuel ih =>
    unfold beginAll
    split
    · exact .same rfl rfl
    · exact (Link.grows_begin x.now 0 x.link).trans (ih { x with link := (x.link.begin x.now 0).2 })

theorem grows_begin (x : Solo) : x.link.Grows x.begin.link := grows_beginAll _ x

theorem grows_of_next? (next : x.next? deadline = some y) : x.link.Grows y.link := by
  unfold next? at next
  split at next
  · obtain ⟨due, -, rfl⟩ := Option.map_eq_some_iff.1 next
    apply (Link.grows_elapse (max x.now due) none x.link).trans
    exact grows_begin { x with now := max x.now due, link := x.link.elapse (max x.now due) none }
  · cases next
    exact grows_begin x

theorem grows_of_mem_moments : ∀ m ∈ x.moments deadline, x.link.Grows m.link := by
  fun_induction moments deadline x with
  | case1 x ih =>
    rw [List.forall_mem_cons]
    refine ⟨.same rfl rfl, ?_⟩
    cases next : x.next? deadline with
    | some y => exact fun m mem => (grows_of_next? next).trans (ih y next m mem)
    | none => simp

theorem sent_of_takes? (taken : x.takes? deadline bytes = some z) :
    z.link.sent = x.link.sent ++ bytes := by
  fun_induction takes? deadline bytes x with
  | case1 | case3 | case4 | case7 => cases taken
  | case2 bytes x left l sent y next ih =>
    obtain ⟨more, adds⟩ := grows_of_next? next
    have all := (ByteStream.sent_sendAll x.link bytes).2 left
    rw [sent] at all
    rw [ih taken, adds.sent]
    exact all rfl
  | case5 bytes x l sent l' flushed =>
    cases taken
    obtain rfl := Link.eq_of_flush flushed
    have all := (ByteStream.sent_sendAll x.link bytes).2 []
    rw [sent, List.append_nil] at all
    exact all rfl
  | case6 bytes x l sent l' blocked y next ih =>
    obtain rfl := Link.eq_of_flush blocked
    obtain ⟨more, adds⟩ := grows_of_next? next
    have all := (ByteStream.sent_sendAll x.link bytes).2 []
    rw [sent] at all
    rw [ih taken, adds.sent]
    exact all rfl

/-- What comes of sending the greeting: the client waits for the first packet, or it gives up in time. -/
inductive Sent (c : Client) (deadline : Nat) : Option Solo → Except Fault Unit × Solo → Prop
  | taken {z : Solo} {fuel : Nat} (early : z.now < deadline) (enough : z.link.toCome + 2 ≤ fuel) :
      Sent c deadline (some z) (await Handshake.poll (·.deadline) fuel ⟨deadline, .awaiting⟩
        { z with client := c.outgoingSent z.now })
  | broken {l : Link} {now : Nat} (inTime : now ≤ deadline) :
      Sent c deadline none (.error .socketError, ⟨c.fail .socketError, l, now⟩)

theorem poll_of_rest {l l' : Link} {left : Bytes} {now : Nat}
    (sent : ByteStream.sendAll l bytes = (.rest left, l')) (early : now < deadline) (c : Client) :
    Handshake.poll now ⟨deadline, .sending bytes⟩ c l = (.waiting ⟨deadline, .sending left⟩, c, l') := by
  simp [Handshake.poll, sent, Handshake.block, Nat.not_le.2 early]

theorem poll_of_stalled {l l' : Link} {now : Nat} (sent : ByteStream.sendAll l bytes = (.all, l'))
    (blocked : ByteStream.flush l' = (.blocked, l')) (early : now < deadline) (c : Client) :
    Handshake.poll now ⟨deadline, .sending bytes⟩ c l = (.waiting ⟨deadline, .flushing⟩, c, l') := by
  simp [Handshake.poll, Handshake.pollFlush, sent, blocked, Handshake.block, Nat.not_le.2 early]

/-- As soon as the stream has taken all of it the client waits for the first packet. -/
theorem sent_await {fuel : Nat} (early : x.now < deadline) (enough : x.link.toCome + 2 ≤ fuel)
    (c : Client) : Sent c deadline (x.takes? deadline bytes)
      (await Handshake.poll (·.deadline) fuel ⟨deadline, .sending bytes⟩ { x with client := c }) := by
  -- One poll sends as much as one round of `takes?`, so its cases are those of the poll.
  fun_induction takes? deadline bytes x generalizing fuel with
  | case1 bytes x l sent =>
    have polled : Handshake.poll x.now ⟨deadline, .sending bytes⟩ c x.link =
        (.done (.error .socketError), c.fail .socketError, l) := by
      simp [Handshake.poll, sent]
    rw [await_done (x := { x with client := c }) (by omega) polled]
    exact .broken (Nat.le_of_lt early)
  | case2 bytes x left l sent y next ih =>
    have step := step_of_next? next
    have less := step.less
    have same := Link.toCome_sendAll sent
    have onward := next?_client deadline c { x with link := l }
    rw [next, Option.map_some] at onward
    rw [await_next (x := { x with client := c }) (by omega) (poll_of_rest sent early c) onward]
    exact ih (step.early early) (by dsimp only at less; omega)
  | case3 bytes x left l sent next =>
    have last : Handshake.poll (max x.now deadline) ⟨deadline, .sending left⟩ c l =
        (.done (.error .socketError), c.fail .socketError, l) := by
      simp [Handshake.poll, Link.sendAll_of_rest sent, Handshake.block]
    have stops := next?_client deadline c { x with link := l }
    rw [next, Option.map_none] at stops
    rw [await_late (x := { x with client := c }) (by omega) (poll_of_rest sent early c) stops last]
    exact .broken (by dsimp only; omega)
  | case4 bytes x l sent l' failed =>
    have polled : Handshake.poll x.now ⟨deadline, .sending bytes⟩ c x.link =
        (.done (.error .socketError), c.fail .socketError, l') := by
      simp [Handshake.poll, Handshake.pollFlush, sent, failed]
    rw [await_done (x := { x with client := c }) (by omega) polled]
    exact .broken (Nat.le_of_lt early)
  | case5 bytes x l sent l' flushed =>
    obtain rfl := Link.eq_of_flush flushed
    have same := Link.toCome_sendAll sent
    have polled : Handshake.poll x.now ⟨deadline, .sending bytes⟩ c x.link =
        Handshake.poll x.now ⟨deadline, .awaiting⟩ (c.outgoingSent x.now) l' := by
      simp [Handshake.poll, Handshake.pollFlush, Handshake.pollReply, Handshake.block, sent, flushed]
    rw [await_congr (x := { x with client := c }) (by omega) polled]
    exact .taken (z := { x with link := l' }) early (by dsimp only; omega)
  | case6 bytes x l sent l' blocked y next ih =>
    obtain rfl := Link.eq_of_flush blocked
    have step := step_of_next? next
    have less := step.less
    have same := Link.toCome_sendAll sent
    have onward := next?_client deadline c { x with link := l' }
    rw [next, Option.map_some] at onward
    -- Nothing is left to write, which is as if the last bytes had just been written.
    have resumed : Handshake.poll y.now ⟨deadline, .flushing⟩ c y.link =
        Handshake.poll y.now ⟨deadline, .sending []⟩ c y.link := by
      simp [Handshake.poll, Handshake.pollFlush, Handshake.pollReply, Handshake.block, ByteStream.sendAll]
    rw [await_next (x := { x with client := c }) (by omega) (poll_of_stalled sent blocked early c) onward,
      await_congr (x := { y with client := c }) (by omega) resumed]
    exact ih (step.early early) (by dsimp only at less; omega)
  | case7 bytes x l sent l' blocked next =>
    obtain rfl := Link.eq_of_flush blocked
    have last : Handshake.poll (max x.now deadline) ⟨deadline, .flushing⟩ c l' =
        (.done (.error .socketError), c.fail .socketError, l') := by
      simp [Handshake.poll, Handshake.pollFlush, blocked, Handshake.block]
    have stops := next?_client deadline c { x with link := l' }
    rw [next, Option.map_none] at stops
    rw [await_late (x := { x with client := c }) (by omega) (poll_of_stalled sent blocked early c) stops last]
    exact .broken (by dsimp only; omega)

/-! ## A whole connect -/

variable {options : ConnectOptions} {timeout : Nat} {m : Solo} {rest : Bytes} {f : Fault}

/-- The greeting has been taken in time, and then this is the first time that there is enough to hear. -/
inductive Decided (options : ConnectOptions) (timeout : Nat) (x m : Solo) : Prop
  | intro {frame : Bytes} {z : Solo} (encoded : (Packet.connect options.greeting).encode = some frame)
      (room : frame.length ≤ x.client.engine.sendCapacity)
      (taken : x.takes? (x.now + timeout) frame = some z)
      (decisive : z.decisive? x.client.recvCapacity (x.now + timeout) = some m)

/-- The first packet welcomes the client, and so much is behind it. -/
inductive Welcomed (options : ConnectOptions) (timeout : Nat) (x m : Solo) (rest : Bytes) : Prop
  | intro {present : Bool} (decided : x.Decided options timeout m)
      (first : Frame.First x.client.recvCapacity m.link.unread (.ok (.connack present .accepted)) rest)

/-- Why a client does not get connected. -/
inductive Fails (options : ConnectOptions) (timeout : Nat) (x : Solo) : Fault → Prop
  | unencodable (none : (Packet.connect options.greeting).encode = none) :
      Fails options timeout x .malformedPacket
  | full {frame : Bytes} (encoded : (Packet.connect options.greeting).encode = some frame)
      (full : x.client.engine.sendCapacity < frame.length) : Fails options timeout x .sendBufferFull
  | untaken {frame : Bytes} (encoded : (Packet.connect options.greeting).encode = some frame)
      (room : frame.length ≤ x.client.engine.sendCapacity)
      (untaken : x.takes? (x.now + timeout) frame = none) : Fails options timeout x .socketError
  | silent {frame : Bytes} {z : Solo} (encoded : (Packet.connect options.greeting).encode = some frame)
      (room : frame.length ≤ x.client.engine.sendCapacity)
      (taken : x.takes? (x.now + timeout) frame = some z)
      (silent : z.decisive? x.client.recvCapacity (x.now + timeout) = none) :
      Fails options timeout x .socketError
  | objects {m : Solo} {f : Fault} (decided : x.Decided options timeout m)
      (objects : m.link.Objects x.client.recvCapacity f) : Fails options timeout x f

theorem Decided.sent (decided : x.Decided options timeout m) :
    ∃ frame, (Packet.connect options.greeting).encode = some frame ∧
      m.link.sent = x.link.sent ++ frame := by
  obtain ⟨encoded, room, taken, decisive⟩ := decided
  obtain ⟨more, adds⟩ := grows_of_mem_moments m (List.mem_of_find?_eq_some decisive)
  exact ⟨_, encoded, adds.sent.trans (sent_of_takes? taken)⟩

/-- A connect that fails, and the fault that is left behind. -/
structure Breaks (deadline : Nat) (f : Fault) (left : Option Fault) (r : Except Fault Unit × Solo) :
    Prop where
  result : r.1 = .error f
  inTime : r.2.now ≤ deadline
  fault : r.2.client.fault = left
  apart : r.2.client.engine.connected = false

/-- A client that has not been answered yet. -/
structure Unanswered (limit : Nat) (c : Client) : Prop where
  limit : c.recvCapacity = limit
  whole : c.engine.fault = none
  apart : c.engine.connected = false
  received : c.received = []

variable {sendCapacity recvCapacity start : Nat} {listening : Bool} {frame : Bytes}
  {r : Except Fault Unit × Solo}

section

variable (fresh : x.client = .new sendCapacity recvCapacity listening start)
include fresh

theorem capacities_of_fresh :
    x.client.engine.sendCapacity = sendCapacity ∧ x.client.recvCapacity = recvCapacity := by
  rw [fresh]
  exact ⟨rfl, rfl⟩

variable (returned : x.connect options timeout = some r)
include returned

/-- Only the queue matters for what a connect comes to. -/
theorem eq_of_connect : r =
    match Client.lift (Engine.queue (.connect options.greeting)) (x.client.asked options) with
    | (.error f, client) => (.error f, { x with client })
    | (.ok (), client) => await Handshake.poll (·.deadline) x.polls
        ⟨x.now + timeout, .sending client.engine.outgoing.toList⟩ { x with client } := by
  have went := x.client.greeted x.now options timeout
  unfold connect at returned
  generalize x.client.greet x.now options timeout = greeted at went returned
  cases went with
  | broken broken =>
    rw [fresh] at broken
    cases broken
  | untold => cases returned
  | refused _ _ ran | queued _ _ ran =>
    rw [ran]
    exact (Option.some.inj returned).symm

theorem breaks_of_unencodable (none : (Packet.connect options.greeting).encode = none) :
    Breaks (x.now + timeout) .malformedPacket Option.none r := by
  rw [eq_of_connect fresh returned]
  constructor
  all_goals simp [Client.asked, fresh, Client.new, Client.fault, Client.lift, Engine.queue, none]

theorem breaks_of_full (encoded : (Packet.connect options.greeting).encode = some frame)
    (full : sendCapacity < frame.length) :
    Breaks (x.now + timeout) .sendBufferFull (some .sendBufferFull) r := by
  rw [eq_of_connect fresh returned]
  constructor
  all_goals simp [Client.asked, fresh, Client.new, Client.fault, Client.lift, Engine.queue, encoded, full,
    Engine.fail]

theorem sent_connect (encoded : (Packet.connect options.greeting).encode = some frame)
    (room : frame.length ≤ sendCapacity) (positive : 0 < timeout) : ∃ c, Unanswered recvCapacity c ∧
      Sent c (x.now + timeout) (x.takes? (x.now + timeout) frame) r := by
  have queued : Client.lift (Engine.queue (.connect options.greeting)) (x.client.asked options) =
      (.ok (), { x.client.asked options with
        engine := { (x.client.asked options).engine with
          outgoing := x.client.engine.outgoing ++ frame } }) := by
    simp [Client.asked, fresh, Client.new, Client.lift, Engine.queue, encoded, Nat.not_lt.2 room]
  have taken : (x.client.engine.outgoing ++ frame).toList = frame := by simp [fresh, Client.new]
  rw [eq_of_connect fresh returned, queued]
  dsimp only
  rw [taken]
  refine ⟨_, ?_, sent_await (by omega) (by rw [polls]; omega) _⟩
  constructor
  all_goals
    rw [Client.asked, fresh]
    rfl

/-- How the wait for the first packet ends once the greeting has been taken. -/
theorem heard_connect (encoded : (Packet.connect options.greeting).encode = some frame)
    (room : frame.length ≤ sendCapacity) (positive : 0 < timeout)
    (taken : x.takes? (x.now + timeout) frame = some z) : z.now < x.now + timeout ∧
      ∃ c, Unanswered recvCapacity c ∧ Heard c (x.now + timeout)
        (z.decisive? recvCapacity (x.now + timeout)) r := by
  obtain ⟨c, unanswered, sent⟩ := sent_connect fresh returned encoded room positive
  rw [taken] at sent
  cases sent with
  | @taken z fuel early enough =>
    have waiting : Unanswered recvCapacity (c.outgoingSent z.now) := { unanswered with }
    have trails : Trails (c.outgoingSent z.now) [] { z with client := c.outgoingSent z.now } z := by
      refine ⟨?_, rfl⟩
      rw [List.flatten_nil, ← waiting.received]
    have heard := heard_await trails early enough
    rw [waiting.limit] at heard
    exact ⟨early, _, waiting, heard⟩

/-- The client is told at the very time when there is enough to hear. -/
theorem connect_of_decided (positive : 0 < timeout) (decided : x.Decided options timeout m) :
    m.now < x.now + timeout ∧ ∃ c received inbox, Unanswered recvCapacity c ∧
        r = (m.link.verdict recvCapacity,
          ⟨{ c.told (m.link.verdict recvCapacity) with received }, { m.link with inbox }, m.now⟩) ∧
        ∀ p rest, Next.of recvCapacity m.link.unread = .packet p rest →
          received ++ inbox.flatten = rest := by
  obtain ⟨encoded, room, taken, decisive⟩ := decided
  have capacities := capacities_of_fresh fresh
  rw [capacities.1] at room
  rw [capacities.2] at decisive
  obtain ⟨early, c, unanswered, heard⟩ := heard_connect fresh returned encoded room positive taken
  constructor
  · exact early_of_mem_moments early m (List.mem_of_find?_eq_some decisive)
  · rw [decisive] at heard
    cases heard with
    | reply replied =>
      cases replied with
      | decides decides behind =>
        rw [unanswered.limit] at behind ⊢
        exact ⟨c, _, _, unanswered, rfl, behind⟩

/-- Only a greeting without a frame leaves no fault behind. -/
theorem Fails.breaks (fails : x.Fails options timeout f) (positive : 0 < timeout) :
    Breaks (x.now + timeout) f ((Packet.connect options.greeting).encode.map fun _ => f) r := by
  have capacities := capacities_of_fresh fresh
  cases fails with
  | unencodable none =>
    rw [none]
    exact breaks_of_unencodable fresh returned none
  | full encoded full =>
    rw [encoded]
    exact breaks_of_full fresh returned encoded (capacities.1 ▸ full)
  | untaken encoded room untaken =>
    obtain ⟨c, unanswered, sent⟩ := sent_connect fresh returned encoded (capacities.1 ▸ room) positive
    rw [untaken] at sent
    rw [encoded]
    cases sent with
    | broken inTime => exact ⟨rfl, inTime, rfl, unanswered.apart⟩
  | silent encoded room taken silent =>
    obtain ⟨-, c, unanswered, heard⟩ :=
      heard_connect fresh returned encoded (capacities.1 ▸ room) positive taken
    rw [← capacities.2, silent] at heard
    rw [encoded]
    cases heard with
    | silence => exact ⟨rfl, Nat.le_refl _, rfl, unanswered.apart⟩
  | objects decided objects =>
    obtain ⟨early, c, received, inbox, unanswered, told, -⟩ :=
      connect_of_decided fresh returned positive decided
    rw [← capacities.2, objects.verdict] at told
    obtain ⟨encoded, -, -, -⟩ := decided
    rw [told, encoded]
    exact ⟨rfl, Nat.le_of_lt early, rfl, unanswered.apart⟩

end

/-- No operation works any more, whatever happens. -/
def Broken (f : Fault) (x : Solo) : Prop :=
  ∀ t, Talk.Onward ⟨x.client, x.link, .idle⟩ t → t.client.fault = some f ∧
    t.client.engine.connected = false ∧ ∀ m : Talk.Move Link, m.IsOperation → m.result? t = some (.error f)

theorem broken (fault : x.client.fault = some f) (apart : x.client.engine.connected = false) :
    x.Broken f := by
  intro t onward
  have frozen := onward.frozen fault rfl
  have still := frozen.fault.trans fault
  refine ⟨still, ?_, fun m op => (Talk.Move.run_of_fault still op).1⟩
  rcases frozen.client with same | collected
  · rw [same]
    exact apart
  · rw [collected]
    exact apart

end Solo

end MqttLink
