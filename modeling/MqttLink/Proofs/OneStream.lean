import MqttLink.Proofs.Dials
import MqttLink.Proofs.Discipline

/-!
# One stream at a time

A client, a dial or a farewell holds at most one stream, and a session has at most one of them. Main
statement: whenever a dial begins, every stream that the session has opened before is closed.
-/

namespace MqttLink

variable {ω κ δ φ : Type}

/-! ## Streams with dials on record -/

theorem Logged.under_eq {α : Type} {r : α × ω} {w w' : Logged ω} {a : α}
    (h : r.map id w.under = (a, w')) : r = (a, w'.outside) := by
  obtain ⟨rfl, rfl⟩ := Prod.ext_iff.1 h
  rfl

namespace Streams

variable {b : Backend ω κ δ φ} (S : Streams b)

def logged : Streams b.logged where
  isOpen w := S.isOpen w.outside
  ofClient := S.ofClient
  ofDial := S.ofDial
  ofFarewell := S.ofFarewell
  appoint time w := S.appoint time w.outside
  dial h := by
    obtain ⟨rfl, rfl⟩ := Prod.ext_iff.1 h
    exact S.dial rfl
  dialOn h := S.dialOn (Logged.under_eq h)
  dialed h := S.dialed (Logged.under_eq h)
  refused h := S.refused (Logged.under_eq h)
  hangUp d w := S.hangUp d w.outside
  operate op {client w result client' w'} h := by
    rw [Operation.run_logged] at h
    obtain ⟨-, rest⟩ := Prod.ext_iff.1 h
    obtain ⟨rfl, rfl⟩ := Prod.ext_iff.1 rest
    exact S.operate op rfl
  sync h := by
    obtain ⟨-, rest⟩ := Prod.ext_iff.1 h
    obtain ⟨-, rest⟩ := Prod.ext_iff.1 rest
    obtain ⟨rfl, rfl⟩ := Prod.ext_iff.1 rest
    exact S.sync rfl
  leave h := S.leave (Logged.under_eq h)
  leaveOn h := S.leaveOn (Logged.under_eq h)
  left h := S.left (Logged.under_eq h)
  drop client w := S.drop client w.outside

variable {S} {may : Session ω κ δ φ → Session.Move ω → Prop}

/-- The same move of a session with a record. -/
def lift (x : Session (Logged ω) κ δ φ) : Session.Move ω → Session.Move (Logged ω)
  | .loop now => .loop now
  | .call now => .call now
  | .connect now request handler => .connect now request handler
  | .disconnect now => .disconnect now
  | .operate op => .operate op
  | .outside w => .outside (x.outside.under w)
  | .collect => .collect
  | .rest => .rest

theorem forget_lift (x : Session (Logged ω) κ δ φ) (m : Session.Move ω) : (lift x m).forget = m := by
  cases m <;> rfl

/-- Every run can be put on record. -/
theorem Run.recorded {x : Session (Logged ω) κ δ φ} {y : Session ω κ δ φ}
    (run : S.Run may x.forget y) :
    ∃ z, S.logged.Run (fun z m => m.KeepsRecord z ∧ may z.forget m.forget) x z ∧ z.forget = y := by
  induction run with
  | start => exact ⟨x, .start, rfl⟩
  | @move y m run allowed closed granted ih =>
    obtain ⟨z, recorded, rfl⟩ := ih
    refine ⟨_, recorded.move (m := lift z m) ?_ ?_ ⟨?_, ?_⟩, ?_⟩
    · cases m <;> exact allowed
    · cases m <;> exact closed
    · cases m <;> trivial
    · rwa [forget_lift]
    · rw [Session.forget_run, forget_lift]

/-! ## Who holds a stream -/

variable {x : Session ω κ δ φ}

theorem ofPhase_home {p : Phase κ δ} (home : p.isAway = false) : S.ofPhase p = ∅ := by
  cases p with
  | cycling | resting | ended => rfl
  | backingOff | redialing | redialed => cases home

theorem ofLoop_home (home : ∀ l, x.loop = some l → l.phase.isAway = false) : S.ofLoop x.loop = ∅ := by
  cases loop : x.loop with
  | none => rfl
  | some l => exact ofPhase_home (home l loop)

theorem ofCall_free {call : Call δ φ} (free : call.holdsState = false) : S.ofCall call = ∅ := by
  cases call with
  | idle | stopping | joining | finished => rfl
  | leaving | dialing => cases free

theorem ofState_none {s : State κ} (none_ : s.client = none) : S.ofState s = ∅ := by
  rw [ofState, none_]
  rfl

/-- Whatever a session holds it holds in one place. -/
theorem held_eq (inv : Session.Inv x) :
    S.held x = S.ofState x.state ∨ S.held x = S.ofLoop x.loop ∨ S.held x = S.ofCall x.call := by
  unfold held
  by_cases up : x.state.status = .connected
  · rw [ofLoop_home (inv.quiet up), Set.union_empty]
    cases leaving : x.call.isLeaving with
    | true =>
      rw [ofState_none (inv.leaving leaving).1, Set.empty_union]
      exact .inr (.inr rfl)
    | false =>
      have free : x.call.holdsState = false := by
        cases call : x.call with
        | leaving goal f => simp [call, Call.isLeaving] at leaving
        | dialing d => simp [(inv.dialing d call).2.1] at up
        | idle | stopping | joining | finished => rfl
      rw [ofCall_free free, Set.union_empty]
      exact .inl rfl
  · have quiet : x.call.isLeaving = false := by
      cases leaving : x.call.isLeaving with
      | true => exact absurd (inv.leaving leaving).2 up
      | false => rfl
    rw [ofState_none (inv.client_none quiet up), Set.empty_union]
    cases call : x.call with
    | dialing d =>
      rw [(inv.dialing d call).1]
      exact .inr (.inr (Set.empty_union _))
    | leaving goal f => simp [call, Call.isLeaving] at quiet
    | idle | stopping | joining | finished => exact .inr (.inl (Set.union_empty _))

variable (S) in
/-- Nothing holds more than one stream. -/
structure Single : Prop where
  client : ∀ c, (S.ofClient c).Subsingleton
  dial : ∀ d, (S.ofDial d).Subsingleton
  farewell : ∀ f, (S.ofFarewell f).Subsingleton

theorem Single.held (single : S.Single) (inv : Session.Inv x) : (S.held x).Subsingleton := by
  rcases held_eq (S := S) inv with held | held | held <;> rw [held]
  · unfold ofState
    cases x.state.client with
    | none => exact Set.subsingleton_empty
    | some c => exact single.client c
  · cases x.loop with
    | none => exact Set.subsingleton_empty
    | some l =>
      change (S.ofPhase l.phase).Subsingleton
      cases l.phase with
      | redialing d => exact single.dial d
      | redialed result =>
        cases result with
        | ok c => exact single.client c
        | error e => exact Set.subsingleton_empty
      | cycling | resting | backingOff | ended => exact Set.subsingleton_empty
  · cases x.call with
    | leaving goal f => exact single.farewell f
    | dialing d => exact single.dial d
    | idle | stopping | joining | finished => exact Set.subsingleton_empty

theorem logged_single (single : S.Single) : S.logged.Single where
  client := single.client
  dial := single.dial
  farewell := single.farewell

/-! ## Where a dial begins -/

/-- What is open when a dial begins is not held by the session. -/
theorem isOpen_begins {x : Session (Logged ω) κ δ φ} {m : Session.Move (Logged ω)}
    {record : DialRecord ω} (r : Session.Reachable b.logged x) (begins : Session.Begins b x m record)
    (allowed : m.Allowed x) : S.isOpen record.outside ⊆ S.logged.loose x := by
  have inv := r.inv
  -- In all three cases nothing is left but a client of the record, and that is dropped before the dial.
  have dropped : ∀ w, S.isOpen w ⊆ S.isOpen x.outside.outside \ S.ofState x.state →
      S.logged.ofLoop x.loop = ∅ → S.logged.ofCall x.call = ∅ → S.isOpen w ⊆ S.logged.loose x := by
    intro w closed loop call
    have held : S.logged.held x = S.ofState x.state := by
      rw [Streams.held, loop, call, Set.union_empty, Set.union_empty]
      rfl
    rwa [loose, held]
  cases begins with
  | redial loop =>
    exact dropped _ (isOpen_dropConnection _ _) (by rw [loop]; rfl) (ofCall_free (inv.alone loop rfl).2)
  | cleared call past =>
    refine dropped _ (isOpen_dropConnection _ _) (ofLoop_home fun l loop => ?_) (by rw [call]; rfl)
    rw [past l loop]
    rfl
  | unused loop blank =>
    have none_ : x.state.client = none := (inv.clear (inv.told ▸ blank)).client
    refine dropped _ ?_ (by rw [loop]; rfl) (ofCall_of_isOver allowed)
    rw [ofState_none none_, Set.sdiff_empty]

theorem one_stream (single : S.Single) {settings : Settings} {w : ω} {x : Session (Logged ω) κ δ φ}
    (run : S.logged.Run Session.Move.KeepsRecord { settings, outside := { outside := w } } x) :
    (∀ record ∈ x.outside.dials, S.isOpen record.outside ⊆ S.isOpen w) ∧
    (S.logged.held x).Subsingleton ∧
    S.isOpen x.outside.outside \ S.isOpen w ⊆ S.logged.held x := by
  have new : Session.Reachable b.logged { settings, outside := { outside := w } } := .new settings _
  have loose : ∀ {y}, S.logged.Run Session.Move.KeepsRecord { settings, outside := { outside := w } } y →
      S.logged.loose y ⊆ S.isOpen w := fun run => (run.loose new).trans Set.sdiff_subset
  refine ⟨?_, (logged_single single).held (run.reachable new).inv, ?_⟩
  · induction run with
    | start => simp
    | @move y m run allowed closed kept ih =>
      rcases Session.dials_move kept with same | ⟨record, begins, one⟩
      · rwa [same]
      · rw [one]
        intro record' mem
        rcases List.mem_append.1 mem with old | new_
        · exact ih record' old
        · cases List.mem_singleton.1 new_
          exact (isOpen_begins (run.reachable new) begins allowed).trans (loose run)
  · rintro n ⟨isOpen, fresh⟩
    by_contra free
    exact fresh (loose run ⟨isOpen, free⟩)

end Streams

theorem Lines.single : Lines.streams.Single where
  client _ := Set.subsingleton_singleton
  dial d := by
    cases d with
    | shaking h number s => exact Set.subsingleton_singleton
    | ringing | unanswered | failed | stranded => exact Set.subsingleton_empty
  farewell _ := Set.subsingleton_singleton

/-- After a loss and a reconnect, at two dials in all, no link was open. -/
theorem one_stream_reconnected :
    ∃ (w : Lines) (x : Session (Logged Lines) Lines.Speaker Lines.Dial Lines.Leave),
      Lines.streams.logged.Run Session.Move.KeepsRecord { settings := {}, outside := { outside := w } } x ∧
      x.outside.dials.length = 2 ∧ x.outside.outside.links.map (·.closed) = #[true, false] ∧
      (∀ record ∈ x.outside.dials, record.outside.open_ = ∅) ∧
      (Lines.streams.logged.held x).Subsingleton := by
  let script : List Line :=
    [{ answer := .link [.now (.feed [0x20, 2, 0, 0]), .now .finish] },
      { answer := .link [.now (.feed [0x20, 2, 0, 0])] }]
  have r : Lines.streams.logged.Run Session.Move.KeepsRecord
    { settings := {}, outside := { outside := { script } } } _ := .start
  have r := r.move (m := .connect 0 { host := "h" } none) rfl trivial trivial
  have r := r.move (m := .call 0) trivial trivial trivial
  have r := r.move (m := .loop 0) trivial trivial trivial
  have r := r.move (m := .loop 1000) trivial trivial trivial
  have r := r.move (m := .loop 1000) trivial trivial trivial
  obtain ⟨closed, single, -⟩ := Streams.one_stream Lines.single r
  refine ⟨_, _, r, by cbv, by cbv, fun record mem => ?_, single⟩
  exact Set.subset_eq_empty (closed record mem) (by ext; simp [Lines.streams, Lines.open_])

end MqttLink
