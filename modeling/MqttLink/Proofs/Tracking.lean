import MqttLink.Proofs.Exchanges
import MqttLink.Proofs.Faults

/-!
# Ids and acknowledgments

An id belongs to one exchange from its first packet to its last answer. There is a free one as long as
not all of them are taken, and an answer counts only if it is the one that its exchange waits for.
-/

namespace MqttLink

/-! ## A free id -/

namespace Pending

/-- No packet can have this id now. -/
def Skips (p : Pending) (id : UInt16) : Prop := id = 0 ∨ id ∈ p

/-- The id that is tried when this many others have been tried. -/
def tried (last : UInt16) (n : Nat) : UInt16 := last + 1 + UInt16.ofNat n

theorem tried_zero (last : UInt16) : tried last 0 = last + 1 := by simp [tried]

theorem tried_succ (last : UInt16) (n : Nat) : tried (last + 1) n = tried last (n + 1) := by
  unfold tried
  rw [UInt16.ofNat_add, UInt16.add_comm (UInt16.ofNat n)]
  exact UInt16.add_assoc ..

theorem skips_iff {p : Pending} {id : UInt16} : p.Skips id ↔ ¬ (id ≠ 0 ∧ p.contains id = false) := by
  rw [Skips, Std.ExtTreeMap.mem_iff_contains]
  cases p.contains id <;> simp

/-- A search tries one id after the other, up to the first that is free. -/
theorem search_eq_some {p : Pending} {steps : Nat} {last id : UInt16}
    (h : search p.contains steps last = some id) :
    ∃ n < steps, (∀ k < n, p.Skips (tried last k)) ∧ id = tried last n := by
  induction steps generalizing last with
  | zero => cases h
  | succ steps ih =>
    simp only [search] at h
    split at h
    · cases h
      exact ⟨0, Nat.succ_pos _, by simp, (tried_zero last).symm⟩
    · rename_i skips
      obtain ⟨n, bound, skipped, rfl⟩ := ih h
      refine ⟨n + 1, by omega, ?_, tried_succ last n⟩
      intro k before
      cases k with
      | zero => rwa [tried_zero, skips_iff]
      | succ k =>
        rw [← tried_succ]
        exact skipped k (by omega)

theorem search_eq_none {p : Pending} {steps : Nat} {last : UInt16}
    (h : search p.contains steps last = none) : ∀ k < steps, p.Skips (tried last k) := by
  induction steps generalizing last with
  | zero => simp
  | succ steps ih =>
    simp only [search] at h
    split at h
    · cases h
    · rename_i skips
      intro k bound
      cases k with
      | zero => rwa [tried_zero, skips_iff]
      | succ k =>
        rw [← tried_succ]
        exact ih h k (by omega)

theorem tried_all (last id : UInt16) : ∃ k < capacity + 1, tried last k = id := by
  refine ⟨(id - (last + 1)).toNat, (id - (last + 1)).toNat_lt, ?_⟩
  rw [tried, UInt16.ofNat_toNat, UInt16.add_comm, UInt16.sub_add_cancel]

/-- All ids but zero, and zero is none. -/
def ids : List UInt16 := (List.range capacity).map fun n => UInt16.ofNat (n + 1)

theorem nodup_ids : ids.Nodup := by
  apply List.Nodup.map_on _ List.nodup_range
  intro m hm n hn same
  rw [List.mem_range] at hm hn
  have := congrArg UInt16.toNat same
  simp only [UInt16.toNat_ofNat', capacity] at this hm hn
  omega

theorem ne_zero_of_mem_ids {id : UInt16} (mem : id ∈ ids) : id ≠ 0 := by
  obtain ⟨n, hn, rfl⟩ := List.mem_map.1 mem
  rw [List.mem_range] at hn
  intro zero
  have := congrArg UInt16.toNat zero
  simp only [UInt16.toNat_ofNat', UInt16.toNat_zero, capacity] at this hn
  omega

/-- A table that leaves no id free is full. -/
theorem full_of_skips {p : Pending} (h : ∀ id, p.Skips id) : capacity ≤ p.size := by
  have keys : ids ⊆ p.keys := by
    intro id mem
    exact Std.ExtTreeMap.mem_keys.2 ((h id).resolve_left (ne_zero_of_mem_ids mem))
  have := (nodup_ids.subperm keys).length_le
  rwa [ids, List.length_map, List.length_range, Std.ExtTreeMap.length_keys] at this

theorem freeAfter_of_room {p : Pending} (room : p.size < capacity) (last : UInt16) :
    ∃ id, p.freeAfter last = some id := by
  cases found : p.freeAfter last with
  | some id => exact ⟨id, rfl⟩
  | none =>
    have skips : ∀ id, p.Skips id := by
      intro id
      obtain ⟨k, bound, rfl⟩ := tried_all last id
      exact search_eq_none found k bound
    exact absurd (full_of_skips skips) (Nat.not_le.2 room)

end Pending

/-- As long as there is room, the next id that is free is found after finitely many others. -/
theorem Engine.takeId_of_room {e : Engine} (room : e.pending.size < Pending.capacity) :
    ∃ n ≤ Pending.capacity, (∀ k < n, e.pending.Skips (Pending.tried e.lastId k)) ∧
      ¬ e.pending.Skips (Pending.tried e.lastId n) ∧
      takeId e = .ok (Pending.tried e.lastId n) { e with lastId := Pending.tried e.lastId n } := by
  obtain ⟨id, found⟩ := Pending.freeAfter_of_room room e.lastId
  obtain ⟨n, bound, skipped, rfl⟩ := Pending.search_eq_some found
  have free := Pending.freeAfter_spec found
  refine ⟨n, Nat.le_of_lt_succ bound, skipped, ?_, ?_⟩
  · rintro (zero | taken)
    · exact free.1 zero
    · exact free.2 taken
  · rw [takeId_eq, if_neg (Nat.not_le.2 room), found]

/-! ## Turns of exchanges -/

/-- The answer that comes behind this one in the same exchange. -/
def Awaited.next? : Awaited → Option Awaited
  | pubrec => some pubcomp
  | puback | pubcomp | suback | unsuback => none

inductive Turn where
  | begins (id : UInt16) (awaited : Awaited)
  /-- The answer that the exchange has waited for is taken. -/
  | answered (id : UInt16) (awaited : Awaited)

namespace Turn

/-- What is still awaited afterwards. -/
def apply (xs : List (UInt16 × Awaited)) : Turn → List (UInt16 × Awaited)
  | begins id w => xs ++ [(id, w)]
  | answered id w => xs.erase (id, w) ++ (w.next?.map (id, ·)).toList

/-- What is awaited after all these turns. -/
def underway (ts : List Turn) : List (UInt16 × Awaited) := ts.foldl apply []

theorem underway_append (ts : List Turn) (t : Turn) : underway (ts ++ [t]) = t.apply (underway ts) := by
  simp [underway]

/-- An exchange begins with an id of its own, and goes on with the answer that it waits for. -/
def Fits (xs : List (UInt16 × Awaited)) : Turn → Prop
  | begins id _ => id ≠ 0 ∧ id ∉ xs.map Prod.fst
  | answered id w => (id, w) ∈ xs

/-- Every turn fits what was under way before it. -/
inductive Orderly : List Turn → Prop
  | start : Orderly []
  | turn {ts : List Turn} {t : Turn} (before : Orderly ts) (fits : t.Fits (underway ts)) :
      Orderly (ts ++ [t])

variable {ts before after : List Turn} {t : Turn} {id : UInt16} {w : Awaited}

theorem Orderly.last (h : Orderly (ts ++ [t])) : Orderly ts ∧ t.Fits (underway ts) := by
  generalize all : ts ++ [t] = us at h
  cases h with
  | start => simp at all
  | turn before fits =>
    obtain ⟨rfl, same⟩ := List.append_inj' all rfl
    cases same
    exact ⟨before, fits⟩

/-- What a turn does to the table. -/
def on (p : Pending) : Turn → Pending
  | begins id w => p.insert id w
  | answered id w =>
    match w.next? with
    | none => p.erase id
    | some w' => (p.erase id).insert id w'

end Turn

namespace Pending.Holds

variable {p : Pending} {xs ys : List (UInt16 × Awaited)} {id : UInt16} {w : Awaited}

theorem perm (h : Holds p xs) (same : xs.Perm ys) : Holds p ys where
  distinct := (same.map _).nodup_iff.1 h.distinct
  awaited id w := (h.awaited id w).trans same.mem_iff

theorem mem_iff (h : Holds p xs) : id ∈ p ↔ id ∈ xs.map Prod.fst := by
  constructor
  · intro taken
    exact List.mem_map_of_mem ((h.awaited id p[id]).1 (Std.ExtTreeMap.getElem?_eq_some_getElem taken))
  · intro mem
    by_contra free
    exact h.not_mem free mem

theorem erase_of_mem (h : Holds p xs) (mem : (id, w) ∈ xs) : Holds (p.erase id) (xs.erase (id, w)) :=
  (h.perm (List.perm_cons_erase mem)).erase

theorem turn {t : Turn} (h : Holds p xs) (fits : t.Fits xs) : Holds (t.on p) (t.apply xs) := by
  cases t with
  | begins id w =>
    apply h.insert
    intro taken
    exact fits.2 (h.mem_iff.1 taken)
  | answered id w =>
    have rest := h.erase_of_mem fits
    dsimp only [Turn.on, Turn.apply]
    cases w.next? with
    | none => simpa using rest
    | some w' =>
      apply rest.insert
      simp

theorem size (h : Holds p xs) : p.size = xs.length := by
  have same : p.keys.Perm (xs.map Prod.fst) := by
    apply (List.perm_ext_iff_of_nodup Std.ExtTreeMap.nodup_keys h.distinct).2
    intro id
    rw [Std.ExtTreeMap.mem_keys, h.mem_iff]
  rw [← Std.ExtTreeMap.length_keys, same.length_eq, List.length_map]

end Pending.Holds

/-! ## Acknowledgments -/

namespace Packet

/-- What this packet answers. -/
def settles? : Packet → Option (UInt16 × Awaited)
  | puback id => some (id, .puback)
  | pubrec id => some (id, .pubrec)
  | pubcomp id => some (id, .pubcomp)
  | suback id _ => some (id, .suback)
  | unsuback id => some (id, .unsuback)
  | connect _ | connack .. | publish _ | pubrel _ | subscribe .. | unsubscribe .. | pingreq | pingresp
  | disconnect => none

/-- What a client does behind an answer that was awaited. -/
def goesOn : Packet → EngineM Unit
  | pubrec id => Engine.queueTracked (.pubrel id) id .pubcomp
  | suback _ grants => if grants.contains .refused then Engine.fail .subscribeFailed else pure ()
  | _ => pure ()

/-- The turn that begins with this packet. -/
def begins? : Packet → Option Turn
  | publish p =>
    match p.qos with
    | .atMostOnce => none
    | .atLeastOnce => some (.begins p.id .puback)
    | .exactlyOnce => some (.begins p.id .pubrec)
  | subscribe id .. => some (.begins id .suback)
  | unsubscribe id _ => some (.begins id .unsuback)
  | connect _ | connack .. | puback _ | pubrec _ | pubrel _ | pubcomp _ | suback .. | unsuback _
  | pingreq | pingresp | disconnect => none

end Packet

namespace Engine

variable {α β : Type} {e e' : Engine} {p : Packet} {ps : List Packet} {id : UInt16} {w : Awaited}
  {ts : List Turn}

theorem takePacket_of_settles (settles : p.settles? = some (id, w)) : takePacket p e =
    if e.pending[id]? = some w then p.goesOn { e with pending := e.pending.erase id }
    else fail .ackOfUnknown e := by
  have follows : ∀ next : EngineM Unit, (settle id w >>= fun _ => next) e =
      if e.pending[id]? = some w then next { e with pending := e.pending.erase id }
      else fail .ackOfUnknown e := by
    intro next
    rw [run_bind, settle_eq]
    by_cases awaited : e.pending[id]? = some w
    · rw [if_pos awaited, if_pos awaited]
    · rw [if_neg awaited, if_neg awaited]
      rfl
  cases p with
  | puback | pubcomp | unsuback =>
    cases settles
    exact settle_eq ..
  | pubrec id =>
    cases settles
    exact follows _
  | suback id grants =>
    cases settles
    exact follows _
  | _ => cases settles

/-- The turn of an exchange when this packet comes. -/
def turn? (e : Engine) (p : Packet) : Option Turn :=
  match p.settles? with
  | some (id, w) => if e.pending[id]? = some w then some (.answered id w) else none
  | none => none

/-- All turns when these packets come, up to the first that makes the engine fail. -/
def turns : List Packet → Engine → List Turn
  | [], _ => []
  | p :: ps, e => (e.turn? p).toList ++
    match takePacket p e with
    | .ok () e => turns ps e
    | .error .. => []

/-- The table of what is awaited after these turns. -/
structure Tracked (ts : List Turn) (p : Pending) : Prop where
  orderly : Turn.Orderly ts
  holds : p.Holds (Turn.underway ts)

theorem Tracked.turn {t : Turn} {p : Pending} (tracked : Tracked ts p)
    (fits : t.Fits (Turn.underway ts)) : Tracked (ts ++ [t]) (t.on p) where
  orderly := .turn tracked.orderly fits
  holds := by
    rw [Turn.underway_append]
    exact tracked.holds.turn fits

/-- One exchange may be missing, but only if the client broke because the release that continues it did
not fit. -/
inductive Follows (ts : List Turn) (e : Engine) : Prop
  | tracked (tracked : Tracked ts e.pending)
  | cut {others : List (UInt16 × Awaited)} {id : UInt16} (orderly : Turn.Orderly ts)
      (fault : e.fault = some .sendBufferFull) (last : Turn.underway ts = others ++ [(id, .pubcomp)])
      (holds : e.pending.Holds others)

/-- A result that follows these turns; without a fault nothing is missing. -/
def Goes (ts : List Turn) : EStateM.Result Fault Engine α → Prop
  | .ok _ e => Tracked ts e.pending
  | .error _ e => Follows ts e

/-- Whatever becomes of an operation, it has not touched the table. -/
def Keeps (op : EngineM α) : Prop := ∀ ts e, Tracked ts e.pending → Goes ts (op e)

theorem Keeps.bind {op : EngineM α} {next : α → EngineM β} (first : Keeps op)
    (rest : ∀ a, Keeps (next a)) : Keeps (op >>= next) := by
  intro ts e tracked
  have after := first ts e tracked
  rw [run_bind]
  cases ran : op e with
  | ok a e' =>
    rw [ran] at after
    exact rest a ts e' after
  | error f e' => rwa [ran] at after

theorem keeps_pure (a : α) : Keeps (pure a) := fun _ _ tracked => tracked

theorem keeps_fail (f : Fault) : Keeps (fail f : EngineM α) := fun _ _ tracked => .tracked tracked

theorem keeps_hand (m : Message) : Keeps (hand m) := by
  intro ts e tracked
  unfold hand
  rw [run_modify]
  change Tracked ts (if e.listening then _ else e).pending
  split <;> exact tracked

theorem keeps_takeId : Keeps takeId := by
  intro ts e tracked
  rw [takeId_eq]
  split
  · exact .tracked tracked
  · split
    · exact tracked
    · exact .tracked tracked

theorem keeps_queue (p : Packet) : Keeps (queue p) := by
  intro ts e tracked
  unfold queue
  split
  · exact .tracked tracked
  · split
    · exact .tracked tracked
    · exact tracked

/-- A packet that answers nothing has no turn. -/
theorem keeps_takePacket (other : p.settles? = none) : Keeps (takePacket p) := by
  cases p with
  | publish p =>
    apply Keeps.bind (keeps_hand _)
    intro _
    split
    · exact keeps_pure _
    · exact keeps_queue _
    · exact keeps_queue _
  | pubrel id => exact keeps_queue (.pubcomp id)
  | pingresp => exact fun _ _ tracked => tracked
  | connack => exact keeps_pure _
  | disconnect => exact keeps_fail _
  | connect | subscribe | unsubscribe | pingreq => exact keeps_fail _
  | puback | pubrec | pubcomp | suback | unsuback => cases other

theorem goes_goesOn (settles : p.settles? = some (id, w)) (tracked : Tracked ts e.pending)
    (awaited : (id, w) ∈ Turn.underway ts) :
    Goes (ts ++ [.answered id w]) (p.goesOn { e with pending := e.pending.erase id }) := by
  have after := tracked.turn (t := .answered id w) awaited
  cases p with
  | puback | pubcomp | unsuback =>
    cases settles
    exact after
  | suback id grants =>
    cases settles
    by_cases refused : grants.contains .refused = true
    · rw [show (Packet.suback id grants).goesOn = fail .subscribeFailed from if_pos refused]
      exact .tracked after
    · rw [show (Packet.suback id grants).goesOn = pure () from if_neg refused]
      exact after
  | pubrec id =>
    cases settles
    obtain ⟨frame, encoded, -⟩ := Packet.encode_answer (p := .pubrec id) rfl
    dsimp only [Packet.goesOn]
    by_cases room : e.outgoing.size + frame.length ≤ e.sendCapacity
    · rw [queueTracked_of_room encoded (by exact room)]
      exact after
    · -- The id has left the table with the answer, and the release does not get it in again.
      rw [queueTracked_of_full encoded (by exact Nat.not_le.1 room), Pending.erase_insert (by simp)]
      have last : Turn.underway (ts ++ [.answered id .pubrec]) =
          (Turn.underway ts).erase (id, .pubrec) ++ [(id, .pubcomp)] := Turn.underway_append ..
      exact .cut after.orderly rfl last (tracked.holds.erase_of_mem awaited)
  | _ => cases settles

theorem goes_takePacket (tracked : Tracked ts e.pending) (p : Packet) :
    Goes (ts ++ (e.turn? p).toList) (takePacket p e) := by
  unfold turn?
  cases settles : p.settles? with
  | none => simpa using keeps_takePacket settles ts e tracked
  | some x =>
    obtain ⟨id, w⟩ := x
    rw [takePacket_of_settles settles]
    dsimp only
    by_cases awaited : e.pending[id]? = some w
    · rw [if_pos awaited, if_pos awaited]
      exact goes_goesOn settles tracked ((tracked.holds.awaited id w).1 awaited)
    · rw [if_neg awaited, if_neg awaited, Option.toList_none, List.append_nil]
      exact .tracked tracked

theorem goes_takePackets (tracked : Tracked ts e.pending) (ps : List Packet) :
    Goes (ts ++ turns ps e) (takePackets ps e) := by
  induction ps generalizing ts e with
  | nil =>
    rw [turns, List.append_nil]
    exact tracked
  | cons p ps ih =>
    have first := goes_takePacket tracked p
    rw [turns, takePackets_cons, ← List.append_assoc]
    cases ran : takePacket p e with
    | ok _ e' =>
      rw [ran] at first
      exact ih first
    | error f e' =>
      rw [ran] at first
      simpa using first

theorem goes_takeContents (tracked : Tracked ts e.pending) (contents : Contents) :
    Goes (ts ++ turns contents.packets e) (takeContents contents e) := by
  have after := goes_takePackets tracked contents.packets
  rw [takeContents_eq]
  cases ran : takePackets contents.packets e with
  | ok _ e' =>
    rw [ran] at after
    cases contents.fault with
    | none => exact after
    | some f => exact .tracked after
  | error f e' => rwa [ran] at after

theorem keeps_serviceKeepAlive (now : Nat) : Keeps (serviceKeepAlive now) := by
  intro ts e tracked
  rw [serviceKeepAlive_eq]
  split
  · exact tracked
  · split
    · split
      · exact .tracked tracked
      · exact tracked
    · split
      · have after := keeps_queue .pingreq ts e tracked
        split
        all_goals
          rename_i ran
          rw [ran] at after
          exact after
      · exact tracked

/-! ## New exchanges -/

def begun (ps : List Packet) : List Turn := ps.filterMap Packet.begins?

/-- Success has begun the exchanges of these packets, and failure none. -/
def Begins (ps : Engine → List Packet) (ts : List Turn) : EStateM.Result Fault Engine α → Prop
  | .ok _ e => Tracked (ts ++ begun (ps e)) e.pending
  | .error _ e => Follows ts e

theorem begins_ready {ps : Engine → List Packet} {next : Unit → EngineM Unit}
    (tracked : Tracked ts e.pending) (h : Begins ps ts (next () e)) :
    Begins ps ts ((ready >>= next) e) := by
  rw [run_bind, ready_eq]
  cases e.fault with
  | some f => exact .tracked tracked
  | none =>
    cases e.connected with
    | true => exact h
    | false => exact .tracked tracked

theorem begins_queue (begins : p.begins? = none) (tracked : Tracked ts e.pending) :
    Begins (fun _ => [p]) ts (queue p e) := by
  have after := keeps_queue p ts e tracked
  cases ran : queue p e with
  | ok _ e' =>
    rw [ran] at after
    rw [Begins, begun, List.filterMap_cons_none begins, List.filterMap_nil, List.append_nil]
    exact after
  | error f e' => rwa [ran] at after

theorem queueTracked_error {f : Fault} (h : queueTracked p id w e = .error f e') :
    e'.pending = (e.pending.insert id w).erase id := by
  have same : ∀ {e e' : Engine}, queue p e = .error f e' → e'.pending = e.pending := by
    intro e e' ran
    unfold queue at ran
    split at ran
    · cases ran
      rfl
    · split at ran
      · cases ran
        rfl
      · cases ran
  unfold queueTracked at h
  split at h
  · cases h
  · rename_i ran
    cases h
    rw [same ran]

theorem begins_started (p : UInt16 → Packet) (begins : ∀ id, (p id).begins? = some (.begins id w))
    (tracked : Tracked ts e.pending) :
    Begins (fun e => [p e.lastId]) ts ((do let id ← takeId; queueTracked (p id) id w : EngineM Unit) e) := by
  have after := keeps_takeId ts e tracked
  rw [run_bind]
  cases ran : takeId e with
  | error f e' => rwa [ran] at after
  | ok id e' =>
    obtain ⟨-, found, rfl⟩ := takeId_ok ran
    have free := Pending.freeAfter_spec found
    dsimp only
    cases ran' : queueTracked (p id) id w { e with lastId := id } with
    | ok _ e' =>
      obtain ⟨frame, -, -, rfl⟩ := queueTracked_ok ran'
      have fits : (Turn.begins id w).Fits (Turn.underway ts) := ⟨free.1, tracked.holds.not_mem free.2⟩
      rw [Begins, begun, List.filterMap_cons_some (begins id)]
      exact tracked.turn fits
    | error f e' =>
      apply Follows.tracked
      rwa [queueTracked_error ran', Pending.erase_insert free.2]

end Engine

namespace Engine

/-! ## Operations that start exchanges -/

variable {e : Engine} {ts : List Turn}

theorem begins_publish (m : Message) (qos : QoS) (retain : Bool) (tracked : Tracked ts e.pending) :
    Begins (fun e => [.publish { m with qos, retain, id := if qos = .atMostOnce then 0 else e.lastId }])
      ts (publish m qos retain e) := by
  apply begins_ready tracked
  cases qos with
  | atMostOnce => exact begins_queue rfl tracked
  | atLeastOnce =>
    exact begins_started (fun id => .publish { m with qos := .atLeastOnce, retain, id })
      (fun _ => rfl) tracked
  | exactlyOnce =>
    exact begins_started (fun id => .publish { m with qos := .exactlyOnce, retain, id })
      (fun _ => rfl) tracked

theorem begins_subscribe (topic : String) (qos : QoS) (tracked : Tracked ts e.pending) :
    Begins (fun e => [.subscribe e.lastId topic qos]) ts (subscribe topic qos e) :=
  begins_ready tracked (begins_started (.subscribe · topic qos) (fun _ => rfl) tracked)

theorem begins_unsubscribe (topic : String) (tracked : Tracked ts e.pending) :
    Begins (fun e => [.unsubscribe e.lastId topic]) ts (unsubscribe topic e) :=
  begins_ready tracked (begins_started (.unsubscribe · topic) (fun _ => rfl) tracked)

theorem Follows.orderly (follows : Follows ts e) : Turn.Orderly ts := by
  cases follows with
  | tracked tracked => exact tracked.orderly
  | cut orderly => exact orderly

theorem Follows.mem (follows : Follows ts e) {id : UInt16} {w : Awaited}
    (mem : (id, w) ∈ Turn.underway ts) : id ∈ e.pending ∨
      e.fault = some .sendBufferFull ∧ (id, .pubcomp) ∈ Turn.underway ts := by
  cases follows with
  | tracked tracked => exact .inl (tracked.holds.mem_iff.2 (List.mem_map_of_mem mem))
  | cut _ fault last holds =>
    rw [last] at mem ⊢
    rcases List.mem_append.1 mem with old | lost
    · exact .inl (holds.mem_iff.2 (List.mem_map_of_mem old))
    · cases List.mem_singleton.1 lost
      exact .inr ⟨fault, List.mem_append_right _ (List.mem_singleton.2 rfl)⟩

theorem Follows.whole (follows : Follows ts e) (whole : e.fault = none) : Tracked ts e.pending := by
  cases follows with
  | tracked tracked => exact tracked
  | cut _ fault =>
    rw [whole] at fault
    cases fault

end Engine

namespace Client

open Engine (Tracked Follows)

variable {σ : Type} [ByteStream σ] {c : Client} {s : σ} {ts : List Turn}

/-! ## Operations of a client -/

theorem follows_of_begins {op : EngineM Unit} {ps : Engine → List Packet}
    (begins : Engine.Begins ps ts (op c.engine)) :
    Follows (ts ++ Engine.begun (onSuccess (lift op c) ps)) (lift op c).2.engine := by
  unfold lift
  cases ran : op c.engine with
  | ok _ e =>
    rw [ran] at begins
    exact .tracked begins
  | error f e =>
    rw [ran] at begins
    rw [onSuccess, Engine.begun, List.filterMap_nil, List.append_nil]
    exact begins

theorem follows_of_keeps {op : EngineM Unit} (keeps : Engine.Keeps op)
    (tracked : Tracked ts c.engine.pending) :
    Follows ts (lift op c).2.engine ∧
      ((lift op c).1 = .ok () → Tracked ts (lift op c).2.engine.pending) := by
  have after := keeps ts c.engine tracked
  unfold lift
  cases ran : op c.engine with
  | ok _ e =>
    rw [ran] at after
    exact ⟨.tracked after, fun _ => after⟩
  | error f e =>
    rw [ran] at after
    refine ⟨after, ?_⟩
    rintro ⟨⟩

theorem follows_greet (now : Nat) (options : ConnectOptions) (timeout : Nat)
    (tracked : Tracked ts c.engine.pending) : Follows ts (c.greet now options timeout).2.engine := by
  have queued := follows_of_keeps (c := c.asked options)
    (Engine.keeps_queue (.connect options.greeting)) tracked
  exact c.greet_keeps now timeout (motive := fun c => Follows ts c.engine)
    (fun _ _ => .tracked tracked) (.tracked tracked) queued.1

theorem keeps_ready : Engine.Keeps Engine.ready := by
  intro ts e tracked
  rw [Engine.ready_eq]
  split
  · exact .tracked tracked
  · split
    · exact tracked
    · exact .tracked tracked

theorem follows_leave (now : Nat) (tracked : Tracked ts c.engine.pending) :
    Follows ts (c.leave now).2.engine := by
  have queued := follows_of_keeps (c := c)
    (keeps_ready.bind fun _ => Engine.keeps_queue .disconnect) tracked
  unfold leave
  split
  all_goals
    rename_i ran
    rw [ran] at queued
  · exact queued.1
  · exact .tracked (queued.2 rfl)

theorem pending_writeOutput (now : Nat) :
    (c.writeOutput now s).2.1.engine.pending = c.engine.pending := by
  unfold writeOutput
  rcases drain s c.engine.outgoing.toList false with ⟨result, left, wrote, s'⟩
  cases result with
  | error f => rfl
  | ok _ =>
    dsimp only
    split <;> rfl

theorem follows_finish (now : Nat) (tracked : Tracked ts c.engine.pending) :
    Follows ts (c.finish now s).2.1.engine := by
  have alive := follows_of_keeps (c := c) (Engine.keeps_serviceKeepAlive now) tracked
  unfold finish
  split
  all_goals
    rename_i ran
    rw [ran] at alive
  · exact alive.1
  · apply Follows.tracked
    rw [pending_writeOutput]
    exact alive.2 rfl

/-- The packets that can be read now. -/
def readable (c : Client) (s : σ) : List Packet :=
  (Contents.of c.recvCapacity (c.received ++ (ByteStream.readAll s).1.flatten)).packets

/-- The answers that are taken when the client reads. -/
def turns (c : Client) (s : σ) : List Turn :=
  match lift Engine.ready c with
  | (.error _, _) => []
  | (.ok (), c) => Engine.turns (c.readable s) c.engine

theorem lift_ready_ok {c' : Client} (h : lift Engine.ready c = (.ok (), c')) :
    c' = c ∧ c.engine.fault = none ∧ c.engine.connected = true := by
  rw [lift, Engine.ready_eq] at h
  cases whole : c.engine.fault with
  | some f =>
    rw [whole] at h
    cases h
  | none =>
    rw [whole] at h
    cases connected : c.engine.connected with
    | true =>
      rw [connected] at h
      cases h
      exact ⟨rfl, rfl, rfl⟩
    | false =>
      rw [connected] at h
      cases h

theorem follows_sync (now : Nat) (tracked : Tracked ts c.engine.pending) :
    Follows (ts ++ c.turns s) (c.sync now s).2.1.engine := by
  cases isReady : lift Engine.ready c with
  | mk result c' =>
    have ready := follows_of_keeps (c := c) keeps_ready tracked
    rw [isReady] at ready
    cases result with
    | error f =>
      rw [turns, sync, isReady, List.append_nil]
      exact ready.1
    | ok _ =>
      obtain ⟨rfl, whole, connected⟩ := lift_ready_ok isReady
      have asOne := syncsAsOne whole connected now s
      have taken := Engine.goes_takeContents tracked
        (Contents.of c'.recvCapacity (c'.received ++ (ByteStream.readAll s).1.flatten))
      rw [turns, isReady]
      unfold SyncsAsOne at asOne
      dsimp only [readable] at asOne taken ⊢
      generalize Contents.of c'.recvCapacity _ = contents at asOne taken ⊢
      cases ran : Engine.takeContents contents c'.engine with
      | error f e =>
        rw [ran] at asOne taken
        rw [asOne.2.1]
        exact taken
      | ok _ e =>
        rw [ran] at asOne taken
        dsimp only at asOne
        split at asOne
        · rw [asOne]
          exact .tracked taken
        · rw [asOne]
          exact follows_finish now taken

/-! ## Waits -/

theorem pending_awaitReply : (c.awaitReply s).2.1.engine.pending = c.engine.pending := by
  fun_induction awaitReply c s with
  | case1 => rfl
  | case2 c s p received found verdict c' judged =>
    unfold judge at judged
    split at judged <;> cases judged <;> rfl
  | case3 c s found bytes s' read ih => exact ih
  | case4 | case5 | case6 => rfl

end Client

section

variable {σ : Type} {c : Client} {s : σ} (now : Nat) (h : Handshake) (f : Farewell)

theorem Handshake.pending_block : (h.block now c s).2.1.engine.pending = c.engine.pending := by
  unfold block
  split <;> rfl

theorem Farewell.pending_block : (f.block now c s).2.1.engine.pending = c.engine.pending := by
  unfold block
  split <;> rfl

variable [ByteStream σ]

theorem Handshake.pending_pollReply :
    (h.pollReply now c s).2.1.engine.pending = c.engine.pending := by
  have same := Client.pending_awaitReply (c := c) (s := s)
  unfold pollReply
  split
  all_goals
    rename_i ran
    rw [ran] at same
  · exact same
  · rw [pending_block]
    exact same

theorem Handshake.pending_pollFlush :
    (h.pollFlush now c s).2.1.engine.pending = c.engine.pending := by
  unfold pollFlush
  split
  · rfl
  · exact pending_block ..
  · exact pending_pollReply ..

theorem Handshake.pending_poll : (h.poll now c s).2.1.engine.pending = c.engine.pending := by
  unfold poll
  split
  · split
    · rfl
    · exact pending_block ..
    · exact pending_pollFlush ..
  · exact pending_pollFlush ..
  · exact pending_pollReply ..

theorem Farewell.pending_pollClose :
    (f.pollClose now c s).2.1.engine.pending = c.engine.pending := by
  unfold pollClose
  split
  · rfl
  · split <;> rfl

theorem Farewell.pending_pollFlush :
    (f.pollFlush now c s).2.1.engine.pending = c.engine.pending := by
  unfold pollFlush
  split
  · rfl
  · exact pending_block ..
  · exact pending_pollClose ..

theorem Farewell.pending_poll : (f.poll now c s).2.1.engine.pending = c.engine.pending := by
  unfold poll
  split
  · split
    · rfl
    · exact pending_block ..
    · exact pending_pollFlush ..
  · exact pending_pollFlush ..
  · exact pending_pollClose ..

end

namespace Talk

open Engine (Tracked Follows)

variable {σ : Type} [ByteStream σ] {capacity : Nat} {t : Talk σ} {ts : List Turn}

/-! ## Histories -/

/-- The turns of exchanges that come with a move: an exchange begins with a packet that was queued for
it, and goes on with an answer that is taken. -/
def Move.turns (t : Talk σ) : Move σ → List Turn
  | publish m qos retain => Engine.begun ((Move.publish m qos retain).queued t)
  | subscribe topic qos => Engine.begun ((Move.subscribe topic qos).queued t)
  | unsubscribe topic => Engine.begun ((Move.unsubscribe topic).queued t)
  | sync _ => t.client.turns t.stream
  | connect .. | disconnect _ | poll _ | farSide _ | collect => []

/-- A client after any moves, with all turns of its exchanges. -/
inductive History (capacity : Nat) : Talk σ → List Turn → Prop
  | new (recvCapacity : Nat) (listening : Bool) (now : Nat) (s : σ) (fresh : ByteStream.sent s = []) :
      History capacity { client := .new capacity recvCapacity listening now, stream := s } []
  | move {t : Talk σ} {ts : List Turn} {m : Move σ} (history : History capacity t ts)
      (allowed : m.Allowed t) : History capacity (m.run t) (ts ++ m.turns t)

theorem History.run (history : History capacity t ts) : ∃ ps, Run capacity t ps := by
  induction history with
  | new recvCapacity listening now s fresh => exact ⟨_, .new recvCapacity listening now s fresh⟩
  | move _ allowed ih =>
    obtain ⟨ps, run⟩ := ih
    exact ⟨_, run.move allowed⟩

/-- Every run has its history. -/
theorem Run.history {ps : List Packet} (run : Run capacity t ps) : ∃ ts, History capacity t ts := by
  induction run with
  | new recvCapacity listening now s fresh => exact ⟨_, .new recvCapacity listening now s fresh⟩
  | move _ allowed ih =>
    obtain ⟨ts, history⟩ := ih
    exact ⟨_, history.move allowed⟩

theorem Move.follows (m : Move σ) (tracked : Tracked ts t.client.engine.pending) :
    Follows (ts ++ m.turns t) (m.run t).client.engine := by
  cases m with
  | publish m qos retain => exact Client.follows_of_begins (Engine.begins_publish m qos retain tracked)
  | subscribe topic qos => exact Client.follows_of_begins (Engine.begins_subscribe topic qos tracked)
  | unsubscribe topic => exact Client.follows_of_begins (Engine.begins_unsubscribe topic tracked)
  | sync now => exact Client.follows_sync now tracked
  | connect now options timeout =>
    have after := Client.follows_greet now options timeout tracked
    rw [turns, List.append_nil, run]
    split
    all_goals
      rename_i ran
      rwa [ran] at after
  | disconnect now =>
    have after := Client.follows_leave now tracked
    rw [turns, List.append_nil, run]
    split
    all_goals
      rename_i ran
      rwa [ran] at after
  | poll now =>
    obtain ⟨c, s, w⟩ := t
    rw [turns, List.append_nil]
    apply Follows.tracked
    cases w with
    | idle => exact tracked
    | greeting h =>
      rw [← h.pending_poll now (s := s)] at tracked
      exact tracked
    | leaving f =>
      rw [← f.pending_poll now (s := s)] at tracked
      exact tracked
  | farSide | collect =>
    rw [turns, List.append_nil]
    exact .tracked tracked

/-- A broken client begins nothing and takes nothing. -/
theorem Move.turns_of_fault {f : Fault} (broken : t.client.fault = some f) (m : Move σ) :
    m.turns t = [] := by
  have refused : ∀ next : Unit → EngineM Unit,
      Client.lift (Engine.ready >>= next) t.client = (.error f, t.client) :=
    Client.lift_of_fault broken
  cases m with
  | publish m qos retain =>
    rw [turns, queued, show t.client.publish m qos retain = _ from refused _]
    rfl
  | subscribe topic qos =>
    rw [turns, queued, show t.client.subscribe topic qos = _ from refused _]
    rfl
  | unsubscribe topic =>
    rw [turns, queued, show t.client.unsubscribe topic = _ from refused _]
    rfl
  | sync now =>
    rw [turns, Client.turns, Client.lift, Engine.ready_eq, show t.client.engine.fault = some f from broken]
  | connect | disconnect | poll | farSide | collect => rfl

theorem History.follows (history : History capacity t ts) : Follows ts t.client.engine := by
  induction history with
  | new => exact .tracked ⟨.start, .none⟩
  | @move t ts m history allowed ih =>
    cases broken : t.client.fault with
    | none => exact m.follows (ih.whole broken)
    | some f =>
      obtain ⟨ps, run⟩ := history.run
      have frozen : Frozen t t := ⟨run.idle_of_fault f broken, rfl, .inl rfl⟩
      rw [m.turns_of_fault broken, List.append_nil]
      rcases (frozen.move broken allowed).client with same | collected
      · rwa [same]
      · rw [collected]
        cases ih with
        | tracked tracked => exact .tracked tracked
        | cut orderly fault last holds => exact .cut orderly fault last holds

/-! ## What can be relied on -/

end Talk

end MqttLink
