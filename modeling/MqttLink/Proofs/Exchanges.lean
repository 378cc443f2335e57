import MqttLink.Proofs.Bursts
import MqttLink.Proofs.Decoding

/-!
# Exchanges

A message that is to be delivered for certain begins an exchange, and so does its release. The table of
the client that has published it always holds just those exchanges whose answer is still to come.
-/

namespace MqttLink

/-! ## Exchanges under way -/

/-- The exchanges under way are these. -/
structure Pending.Holds (p : Pending) (exchanges : List (UInt16 × Awaited)) : Prop where
  distinct : (exchanges.map Prod.fst).Nodup
  awaited : ∀ id w, p[id]? = some w ↔ (id, w) ∈ exchanges

namespace Pending.Holds

variable {p : Pending} {exchanges : List (UInt16 × Awaited)} {id : UInt16} {w : Awaited}

theorem none : Holds ∅ [] where
  distinct := List.nodup_nil
  awaited := by simp

theorem eq_empty (h : Holds p []) : p = ∅ := by
  apply Std.ExtTreeMap.ext_getElem?
  intro id
  cases found : p[id]? with
  | none => simp
  | some w => exact absurd ((h.awaited id w).1 found) List.not_mem_nil

theorem not_mem (h : Holds p exchanges) (free : id ∉ p) : id ∉ exchanges.map Prod.fst := by
  rw [List.mem_map]
  rintro ⟨⟨id, w⟩, mem, rfl⟩
  have found := (h.awaited id w).2 mem
  rw [Std.ExtTreeMap.getElem?_eq_none free] at found
  cases found

theorem insert (h : Holds p exchanges) (free : id ∉ p) (w : Awaited) :
    Holds (p.insert id w) (exchanges ++ [(id, w)]) := by
  have fresh := h.not_mem free
  constructor
  case distinct =>
    rw [List.map_append, List.nodup_append]
    refine ⟨h.distinct, by simp, ?_⟩
    rintro id' mem _ last rfl
    obtain rfl : id' = id := by simpa using last
    exact fresh mem
  case awaited =>
    intro id' w'
    rw [Std.ExtTreeMap.getElem?_insert, List.mem_append, List.mem_singleton]
    by_cases same : id = id'
    · -- The id was free, so what is awaited for it now is all there is.
      subst same
      have other : (id, w') ∉ exchanges := fun mem => fresh (List.mem_map_of_mem mem)
      simp [other, eq_comm]
    · simp [same, Ne.symm same, h.awaited]

theorem erase (h : Holds p ((id, w) :: exchanges)) : Holds (p.erase id) exchanges := by
  have distinct : id ∉ exchanges.map Prod.fst ∧ (exchanges.map Prod.fst).Nodup :=
    List.nodup_cons.1 h.distinct
  refine ⟨distinct.2, ?_⟩
  intro id' w'
  rw [Std.ExtTreeMap.getElem?_erase]
  by_cases same : id = id'
  · subst same
    have other : (id, w') ∉ exchanges := fun mem => distinct.1 (List.mem_map_of_mem mem)
    simp [other]
  · simp [same, Ne.symm same, h.awaited]

theorem first (h : Holds p ((id, w) :: exchanges)) : p[id]? = some w :=
  (h.awaited id w).2 List.mem_cons_self

end Pending.Holds

/-! ## Who answers whom -/

namespace Packet

/-- The step of an exchange that this packet ends. -/
def exchange? : Packet → Option (UInt16 × Awaited)
  | puback id => some (id, .puback)
  | pubrec id => some (id, .pubrec)
  | pubcomp id => some (id, .pubcomp)
  | _ => none

def exchanges (ps : List Packet) : List (UInt16 × Awaited) := ps.filterMap exchange?

variable {p a : Packet}

/-- A message or a release is answered by a packet that ends a step. -/
theorem Unasked.answer (h : p.Unasked) (answered : p.answer? = some a) : a.exchange?.isSome := by
  cases h with
  | publish p =>
    obtain ⟨topic, payload, qos, id, retain, dup⟩ := p
    cases qos <;> cases answered <;> rfl
  | pubrel id =>
    cases answered
    rfl

theorem unasked_answer (settles : p.exchange?.isSome) (answered : p.answer? = some a) : a.Unasked := by
  cases p with
  | pubrec id =>
    cases answered
    exact .pubrel id
  | puback | pubcomp => cases answered
  | _ => cases settles

theorem legible_answer (answered : p.answer? = some a) : a.Legible := by
  cases p with
  | publish p =>
    obtain ⟨topic, payload, qos, id, retain, dup⟩ := p
    cases qos <;> cases answered
    · exact .puback id
    · exact .pubrec id
  | pubrec id =>
    cases answered
    exact .pubrel id
  | pubrel id =>
    cases answered
    exact .pubcomp id
  | _ => cases answered

theorem message?_answer (answered : p.answer? = some a) : a.message? = none := by
  cases legible_answer answered with
  | publish =>
    cases p with
    | publish p =>
      obtain ⟨topic, payload, qos, id, retain, dup⟩ := p
      cases qos <;> cases answered
    | _ => cases answered
  | puback | pubrec | pubrel | pubcomp => rfl

/-- A release is answered by what needs no answer. -/
theorem unasked_silent (h : p.Unasked) (silent : p.message? = none) (answered : p.answer? = some a) :
    a.answer? = none := by
  cases h with
  | publish p => cases silent
  | pubrel id =>
    cases answered
    rfl

theorem answers_cons (p : Packet) (ps : List Packet) : answers (p :: ps) = answers [p] ++ answers ps :=
  List.filterMap_append (l := [p])

theorem wire_answers_length (ps : List Packet) : (wire (answers ps)).length = 4 * (answers ps).length := by
  induction ps with
  | nil => rfl
  | cons p ps ih =>
    rw [answers_cons, wire_append, List.length_append, List.length_append, ih, Nat.mul_add]
    congr 1
    cases answer : p.answer? with
    | none =>
      rw [answers_cons_of_none answer]
      rfl
    | some a =>
      obtain ⟨frame, encoded, length⟩ := encode_answer answer
      rw [answers_cons_of_some answer]
      simp [answers, wire, encoded, length]

end Packet

namespace Engine

variable {e : Engine} {p : Packet} {ps : List Packet} {x : UInt16 × Awaited}
  {others : List (UInt16 × Awaited)}

open Packet (answers exchanges)

/-- A packet that ends a step begins the next one, if there is one. -/
theorem takePacket_settling (settles : p.exchange? = some x)
    (holds : e.pending.Holds (x :: others))
    (room : e.outgoing.size + 4 * (answers [p]).length ≤ e.sendCapacity) :
    ∃ pending, takePacket p e = .ok () { e with
        pending, outgoing := e.outgoing ++ Packet.wire (answers [p]) } ∧
      pending.Holds (others ++ exchanges (answers (answers [p]))) := by
  have settled : settle x.1 x.2 e = .ok () { e with pending := e.pending.erase x.1 } := by
    rw [settle_eq, if_pos holds.first]
  cases p with
  | puback id | pubcomp id =>
    cases settles
    rw [Packet.answers_cons_of_none rfl]
    refine ⟨e.pending.erase id, settled.trans ?_, ?_⟩
    · simp
    · simpa [answers, exchanges] using holds.erase
  | pubrec id =>
    cases settles
    obtain ⟨frame, encoded, length⟩ := Packet.encode_answer (p := .pubrec id) rfl
    rw [Packet.answers_cons_of_some rfl] at room ⊢
    refine ⟨(e.pending.erase id).insert id .pubcomp, ?_, ?_⟩
    · change (settle id .pubrec >>= fun _ => queueTracked (.pubrel id) id .pubcomp) e = _
      rw [run_bind, settled]
      dsimp only
      rw [queueTracked_of_room encoded (by rw [length]; exact room)]
      simp [Packet.wire, encoded]
    · rw [Packet.answers_cons_of_some rfl]
      have free : id ∉ e.pending.erase id := by simp
      exact holds.erase.insert free .pubcomp
  | _ => cases settles

theorem takePackets_settling (others : List (UInt16 × Awaited)) (settles : ∀ p ∈ ps, p.exchange?.isSome)
    (holds : e.pending.Holds (exchanges ps ++ others))
    (room : e.outgoing.size + 4 * (answers ps).length ≤ e.sendCapacity) :
    ∃ pending, takePackets ps e = .ok () { e with
        pending, outgoing := e.outgoing ++ Packet.wire (answers ps) } ∧
      pending.Holds (others ++ exchanges (answers (answers ps))) := by
  -- The exchanges that go on move behind those whose answer has not been taken yet.
  induction ps generalizing e others with
  | nil =>
    refine ⟨e.pending, ?_, by simpa [answers, exchanges] using holds⟩
    simp [answers]
    rfl
  | cons p ps ih =>
    obtain ⟨x, ends⟩ := Option.isSome_iff_exists.1 (settles p List.mem_cons_self)
    rw [Packet.answers_cons] at room ⊢
    rw [List.length_append] at room
    have holds' : e.pending.Holds (x :: (exchanges ps ++ others)) := by
      simpa [exchanges, List.filterMap_cons_some ends] using holds
    obtain ⟨pending1, took, holds1⟩ := takePacket_settling ends holds' (by omega)
    obtain ⟨pending2, tooks, holds2⟩ := ih
      (e := { e with pending := pending1, outgoing := e.outgoing ++ Packet.wire (answers [p]) })
      (others ++ exchanges (answers (answers [p])))
      (fun p mem => settles p (List.mem_cons_of_mem _ mem))
      (by rwa [← List.append_assoc])
      (by dsimp only; rw [Bytes.size_append, Packet.wire_answers_length]; omega)
    refine ⟨pending2, ?_, by simpa [answers, exchanges] using holds2⟩
    rw [takePackets_cons, took]
    refine tooks.trans ?_
    rw [Packet.wire_append, Bytes.append_append]

end Engine

/-! ## Publishing -/

/-- What a client is asked to publish. -/
structure Posting where
  message : Message
  qos : QoS
  retain : Bool

namespace Posting

def packet (p : Posting) (id : UInt16) : Packet :=
  .publish { p.message with
    qos := p.qos, retain := p.retain, id := if p.qos = .atMostOnce then 0 else id }

/-- The client that publishes waits for an answer. -/
def Tracked (p : Posting) : Prop := p.qos ≠ .atMostOnce

instance (p : Posting) : Decidable p.Tracked := inferInstanceAs (Decidable (_ ≠ _))

/-- This is how the posting is sent. -/
def Sends (p : Posting) (q : Packet) : Prop := ∃ id, q = p.packet id ∧ q.encode.isSome

end Posting

open Packet (answers exchanges)

theorem Engine.started_ok (packet answer : UInt16 → Packet) {awaited : Awaited} {e e' : Engine}
    {others : List (UInt16 × Awaited)}
    (ran : (do let id ← takeId; queueTracked (packet id) id awaited) e = .ok () e')
    (answered : ∀ id, (packet id).answer? = some (answer id))
    (ends : ∀ id, (answer id).exchange? = some (id, awaited)) (holds : e.pending.Holds others) :
    ∃ id pending, (packet id).encode.isSome ∧ e' = { e with
        outgoing := e.outgoing ++ Packet.wire [packet id], pending, lastId := id } ∧
      pending.Holds (others ++ exchanges (answers [packet id])) := by
  rw [run_bind] at ran
  split at ran
  case h_2 => cases ran
  rename_i id e1 took
  obtain ⟨-, found, rfl⟩ := takeId_ok took
  obtain ⟨frame, encoded, -, rfl⟩ := queueTracked_ok ran
  refine ⟨id, e.pending.insert id awaited, by simp [encoded], by simp [Packet.wire, encoded], ?_⟩
  rw [Packet.answers_cons_of_some (answered id)]
  simpa [exchanges, List.filterMap_cons_some (ends id)] using
    holds.insert (Pending.freeAfter_spec found).2 awaited

theorem Engine.publish_ok {p : Posting} {e e' : Engine} {others : List (UInt16 × Awaited)}
    (ran : Engine.publish p.message p.qos p.retain e = .ok () e') (holds : e.pending.Holds others) :
    ∃ q pending lastId, p.Sends q ∧ e' = { e with
        outgoing := e.outgoing ++ Packet.wire [q], pending, lastId } ∧
      pending.Holds (others ++ exchanges (answers [q])) := by
  unfold Engine.publish at ran
  rw [run_bind] at ran
  split at ran
  case h_2 => cases ran
  rename_i e1 isReady
  obtain rfl : e1 = e := by
    rw [ready_eq] at isReady
    split at isReady
    · cases isReady
    · split at isReady <;> cases isReady
      rfl
  obtain ⟨message, qos, retain⟩ := p
  cases qos with
  | atMostOnce =>
    change queue (Posting.packet ⟨message, .atMostOnce, retain⟩ 0) e1 = _ at ran
    obtain ⟨frame, encoded, -, rfl⟩ := queue_ok ran
    refine ⟨_, e1.pending, e1.lastId, ⟨0, rfl, by rw [encoded]; rfl⟩, ?_, ?_⟩
    · simp [Packet.wire, encoded]
    · rw [Packet.answers_cons_of_none rfl]
      simpa [exchanges] using holds
  | atLeastOnce =>
    obtain ⟨id, pending, encoded, rfl, holds'⟩ := started_ok
      (Posting.packet ⟨message, .atLeastOnce, retain⟩) .puback ran
      (fun _ => rfl) (fun _ => rfl) holds
    exact ⟨_, pending, id, ⟨id, rfl, encoded⟩, rfl, holds'⟩
  | exactlyOnce =>
    obtain ⟨id, pending, encoded, rfl, holds'⟩ := started_ok
      (Posting.packet ⟨message, .exactlyOnce, retain⟩) .pubrec ran
      (fun _ => rfl) (fun _ => rfl) holds
    exact ⟨_, pending, id, ⟨id, rfl, encoded⟩, rfl, holds'⟩

/-- One posting after the other, and each is accepted. -/
inductive Published : Client → List Posting → Client → Prop
  | none (c : Client) : Published c [] c
  | more {c c' : Client} {p : Posting} {ps : List Posting}
      (accepted : (c.publish p.message p.qos p.retain).1 = .ok ())
      (rest : Published (c.publish p.message p.qos p.retain).2 ps c') : Published c (p :: ps) c'

theorem Published.queued {c c' : Client} {ps : List Posting} (run : Published c ps c')
    (others : List (UInt16 × Awaited)) (holds : c.engine.pending.Holds others) :
    ∃ qs pending lastId, List.Forall₂ Posting.Sends ps qs ∧
      c' = { c with engine := { c.engine with
        outgoing := c.engine.outgoing ++ Packet.wire qs, pending, lastId } } ∧
      pending.Holds (others ++ exchanges (answers qs)) := by
  induction run generalizing others with
  | none c =>
    exact ⟨[], c.engine.pending, c.engine.lastId, .nil, by simp, by simpa [answers, exchanges] using holds⟩
  | @more c c' p ps accepted rest ih =>
    unfold Client.publish Client.lift at accepted ih
    split at accepted
    case h_2 => cases accepted
    rename_i e ran
    rw [ran] at ih
    obtain ⟨q, pending, lastId, sends, rfl, holds'⟩ := Engine.publish_ok ran holds
    obtain ⟨qs, pending', lastId', all, rfl, holds''⟩ := ih _ holds'
    refine ⟨q :: qs, pending', lastId', .cons sends all, ?_, ?_⟩
    · rw [show q :: qs = [q] ++ qs from rfl, Packet.wire_append, ← Bytes.append_append]
    · rw [Packet.answers_cons]
      simpa [exchanges] using holds''

end MqttLink
