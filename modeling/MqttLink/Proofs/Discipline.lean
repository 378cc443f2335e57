import MqttLink.Proofs.Coherence

/-!
# Histories beside a session

A history is kept beside a session, and the session does not read it. What it says about a stream depends
on who holds the stream: a client, an attempt under way or a farewell. A session has one stream at a time,
so whoever goes on may rely on what the holder before has left.
-/

namespace MqttLink

variable {ω κ δ φ γ : Type}

inductive Holder (κ δ φ : Type) where
  | nobody
  | client (client : κ)
  /-- An attempt to connect as planned. -/
  | dial (plan : ConnectPlan) (dial : δ)
  | farewell (farewell : φ)

/-- What holds between the outside and a history `γ` of it, for each holder. Whatever a holder does keeps
it, for itself or for the holder that follows. -/
structure Discipline (b : Backend ω κ δ φ) (γ : Type) where
  Good : Holder κ δ φ → ω → γ → Prop
  /-- Where a history may begin. -/
  Fresh : ω → γ → Prop
  /-- What may happen outside by itself. -/
  Fair : ω → ω → Prop
  /-- The history after an attempt has gone on, and how the outside was before and after. -/
  dialed : Option ConnectPlan → δ → ω → ω → γ → γ
  /-- The history after something has happened outside by itself. -/
  passed : ω → ω → γ → γ
  dialed_same : ∀ plan d w g, dialed plan d w w g = g
  fresh : ∀ {w g}, Fresh w g → Good .nobody w g
  fair : ∀ {holder w w' g}, Fair w w' → Good holder w g → Good holder w' (passed w w' g)
  letGo : ∀ {holder w g}, Good holder w g → Good .nobody w g
  appoint : ∀ {holder w g} time, Good holder w g → Good holder (b.appoint time w).2 g
  dial : ∀ {now settings plan handler w g d w'}, Good .nobody w g →
    b.dial now settings plan handler w = (d, w') → Good (.dial plan d) w' g
  dialOn : ∀ {now plan d w g d' w'}, Good (.dial plan d) w g → b.pollDial now d w = (.waiting d', w') →
    Good (.dial plan d') w' (dialed (some plan) d w w' g)
  answered : ∀ {now plan d w g client w'}, Good (.dial plan d) w g →
    b.pollDial now d w = (.done (.ok client), w') →
    Good (.client client) w' (dialed (some plan) d w w' g)
  refused : ∀ {now plan d w g e w'}, Good (.dial plan d) w g →
    b.pollDial now d w = (.done (.error e), w') → Good .nobody w' (dialed (some plan) d w w' g)
  hangUp : ∀ {plan d w g}, Good (.dial plan d) w g → Good .nobody (b.hangUp d w) g
  operate : ∀ (op : Operation) {client w g result client' w'}, Good (.client client) w g →
    op.run b client w = (result, client', w') → Good (.client client') w' g
  sync : ∀ {now client w g result messages client' w'}, Good (.client client) w g →
    b.sync now client w = (result, messages, client', w') → Good (.client client') w' g
  leave : ∀ {now client w g f w'}, Good (.client client) w g → b.leave now client w = (f, w') →
    Good (.farewell f) w' g
  leaveOn : ∀ {now f w g f' w'}, Good (.farewell f) w g → b.pollLeave now f w = (.waiting f', w') →
    Good (.farewell f') w' g
  left : ∀ {now f w g client w'}, Good (.farewell f) w g → b.pollLeave now f w = (.done client, w') →
    Good (.client client) w' g
  drop : ∀ {client w g}, Good (.client client) w g → Good .nobody (b.drop client w) g

/-! ## One stream at a time -/

namespace Session

variable {x : Session ω κ δ φ}

/-- While the loop is away nobody else holds anything. -/
theorem Inv.alone (inv : Inv x) {l : Loop κ δ} (loop : x.loop = some l) (away : l.phase.isAway = true) :
    x.state.client = none ∧ x.call.holdsState = false := by
  have down := inv.away l loop away
  have free : x.call.holdsState = false := by
    cases call : x.call with
    | leaving goal f => exact absurd (inv.leaving (by rw [call]; rfl)).2 down
    | dialing d => simp [(inv.dialing d call).1] at loop
    | idle | stopping | joining | finished => rfl
  exact ⟨inv.client_none (Call.not_leaving free) down, free⟩

theorem Inv.quiet (inv : Inv x) (up : x.state.status = .connected) :
    ∀ l, x.loop = some l → l.phase.isAway = false := by
  intro l loop
  simpa using inv.home up loop

end Session

namespace Discipline

variable {b : Backend ω κ δ φ} (D : Discipline b γ) {x y : Session ω κ δ φ} {g : γ}

/-! ## Histories -/

/-- The history after the loop has gone on. An attempt follows the plan on record. -/
def noteLoop (x : Session ω κ δ φ) (w : ω) (g : γ) : γ :=
  match x.loop with
  | some ⟨.redialing dial, _, false⟩ => D.dialed x.state.plan dial x.outside w g
  | _ => g

/-- The history after the caller has gone on. -/
def noteCall (x : Session ω κ δ φ) (w : ω) (g : γ) : γ :=
  match x.call with
  | .dialing dial => D.dialed x.state.plan dial x.outside w g
  | _ => g

def note (x : Session ω κ δ φ) (m : Session.Move ω) (g : γ) : γ :=
  match m with
  | .loop now => D.noteLoop x (x.stepLoop b now).2.outside g
  | .call now => D.noteCall x (x.stepCall b now).2.outside g
  | .outside w => D.passed x.outside w g
  | .connect .. | .disconnect _ | .operate _ | .collect | .rest => g

theorem noteLoop_same (x : Session ω κ δ φ) (g : γ) : D.noteLoop x x.outside g = g := by
  unfold noteLoop
  split
  · exact D.dialed_same ..
  · rfl

variable {D} in
theorem noteLoop_of {w : ω} (idle : ∀ dial awake, x.loop ≠ some ⟨.redialing dial, awake, false⟩) :
    D.noteLoop x w g = g := by
  unfold noteLoop
  split
  · rename_i redialing
    exact absurd redialing (idle _ _)
  · rfl

variable {D} in
theorem noteLoop_redialing {w : ω} {dial : δ} {awake : Bool}
    (loop : x.loop = some ⟨.redialing dial, awake, false⟩) :
    D.noteLoop x w g = D.dialed x.state.plan dial x.outside w g := by
  rw [noteLoop, loop]

theorem noteCall_same (x : Session ω κ δ φ) (g : γ) : D.noteCall x x.outside g = g := by
  unfold noteCall
  split
  · exact D.dialed_same ..
  · rfl

variable {D} in
theorem noteCall_of {w : ω} (idle : ∀ dial, x.call ≠ .dialing dial) : D.noteCall x w g = g := by
  unfold noteCall
  split
  · rename_i dialing
    exact absurd dialing (idle _)
  · rfl

variable {D} in
theorem noteCall_dialing {w : ω} {dial : δ} (call : x.call = .dialing dial) :
    D.noteCall x w g = D.dialed x.state.plan dial x.outside w g := by
  rw [noteCall, call]

def Allowed (x : Session ω κ δ φ) : Session.Move ω → Prop
  | .outside w => D.Fair x.outside w
  | m => m.Allowed x

/-- A new session after any moves, and the history of it. -/
inductive Course : Session ω κ δ φ → γ → Prop
  | new (settings : Settings) {w : ω} {g : γ} (fresh : D.Fresh w g) :
      Course { settings, outside := w } g
  | move {x : Session ω κ δ φ} {g : γ} {m : Session.Move ω} (course : Course x g)
      (allowed : D.Allowed x m) : Course (m.run b x) (D.note x m g)

variable {D}

theorem Allowed.allowed {m : Session.Move ω} (allowed : D.Allowed x m) : m.Allowed x := by
  cases m with
  | outside => trivial
  | loop | call | connect | disconnect | operate | collect | rest => exact allowed

theorem Course.reachable (course : D.Course x g) : Session.Reachable b x := by
  induction course with
  | new settings fresh => exact .new settings _
  | move course allowed ih => exact ih.move allowed.allowed

/-! ## Holders -/

variable (D) in
def OfState (s : State κ) (w : ω) (g : γ) : Prop := D.Good (s.client.elim .nobody .client) w g

variable (D) in
/-- An attempt follows the plan on record. -/
def OfDial (plan : Option ConnectPlan) (d : δ) (w : ω) (g : γ) : Prop :=
  ∃ own, plan = some own ∧ D.Good (.dial own d) w g

variable (D) in
def OfPhase (plan : Option ConnectPlan) (p : Phase κ δ) (w : ω) (g : γ) : Prop :=
  match p with
  | .backingOff _ own _ => plan = some own
  | .redialing dial => D.OfDial plan dial w g
  | .redialed (.ok client) => D.Good (.client client) w g
  | .redialed (.error _) | .cycling | .resting _ | .ended => True

variable (D) in
def OfCall (plan : Option ConnectPlan) (c : Call δ φ) (w : ω) (g : γ) : Prop :=
  match c with
  | .dialing dial => D.OfDial plan dial w g
  | .leaving _ farewell => D.Good (.farewell farewell) w g
  | .idle | .stopping _ | .joining _ | .finished _ => True

variable (D) in
structure Kept (x : Session ω κ δ φ) (g : γ) : Prop where
  state : D.OfState x.state x.outside g
  phase : ∀ l, x.loop = some l → D.OfPhase x.state.plan l.phase x.outside g
  call : D.OfCall x.state.plan x.call x.outside g

theorem ofState_some {s : State κ} {client : κ} {w : ω} (held : s.client = some client) :
    D.OfState s w g = D.Good (.client client) w g := by
  rw [OfState, held]
  rfl

theorem ofState_none {s : State κ} {w : ω} (none_ : s.client = none) :
    D.OfState s w g = D.Good .nobody w g := by
  rw [OfState, none_]
  rfl

namespace OfDial

variable {plan : Option ConnectPlan} {d d' : δ} {w w' : ω} {now : Nat}

theorem letGo (given : D.OfDial plan d w g) : D.Good .nobody w g := by
  obtain ⟨own, -, good⟩ := given
  exact D.letGo good

theorem goOn (given : D.OfDial plan d w g) (polled : b.pollDial now d w = (.waiting d', w')) :
    D.OfDial plan d' w' (D.dialed plan d w w' g) := by
  obtain ⟨own, rfl, good⟩ := given
  exact ⟨own, rfl, D.dialOn good polled⟩

theorem answered {client : κ} (given : D.OfDial plan d w g)
    (polled : b.pollDial now d w = (.done (.ok client), w')) :
    D.Good (.client client) w' (D.dialed plan d w w' g) := by
  obtain ⟨own, rfl, good⟩ := given
  exact D.answered good polled

theorem refused {e : SessionError} (given : D.OfDial plan d w g)
    (polled : b.pollDial now d w = (.done (.error e), w')) :
    D.Good .nobody w' (D.dialed plan d w w' g) := by
  obtain ⟨own, rfl, good⟩ := given
  exact D.refused good polled

theorem hangUp (given : D.OfDial plan d w g) : D.Good .nobody (b.hangUp d w) g := by
  obtain ⟨own, -, good⟩ := given
  exact D.hangUp good

theorem fair (given : D.OfDial plan d w g) (fair : D.Fair w w') :
    D.OfDial plan d w' (D.passed w w' g) := by
  obtain ⟨own, planned, good⟩ := given
  exact ⟨own, planned, D.fair fair good⟩

end OfDial

theorem ofPhase_home {plan : Option ConnectPlan} {p : Phase κ δ} {w : ω} (home : p.isAway = false) :
    D.OfPhase plan p w g := by
  cases p with
  | cycling | resting | ended => trivial
  | backingOff | redialing | redialed => cases home

theorem ofCall_free {plan : Option ConnectPlan} {c : Call δ φ} {w : ω} (free : c.holdsState = false) :
    D.OfCall plan c w g := by
  cases c with
  | idle | stopping | joining | finished => trivial
  | leaving | dialing => cases free

/-! ## The backend -/

theorem good_dropConnection {s : State κ} {w : ω} (good : D.OfState s w g) :
    D.Good .nobody (s.dropConnection b w).2 g := by
  unfold State.dropConnection
  split
  · rename_i none_
    rwa [ofState_none none_] at good
  · rename_i client held
    rw [ofState_some held] at good
    exact D.drop good

theorem good_markLost (e : SessionError) {s : State κ} {w : ω} (good : D.OfState s w g) :
    D.Good .nobody (s.markLost b e w).2 g :=
  good_dropConnection (s := s.recordError b e) good

theorem good_wait {holder : Holder κ δ φ} (now time : Nat) (p : Appointment → Phase κ δ)
    (good : D.Good holder x.outside g) : D.Good holder (x.wait b now time p).outside g := by
  unfold Session.wait Session.goOn
  dsimp only
  split <;> exact D.appoint _ good

theorem good_restoreAll (subscriptions : List (String × QoS)) {client : κ} {w : ω}
    (good : D.Good (.client client) w g) :
    D.Good (.client (State.restoreAll b subscriptions client w).1)
      (State.restoreAll b subscriptions client w).2 g := by
  induction subscriptions generalizing client w with
  | nil => exact good
  | cons s rest ih =>
    obtain ⟨topic, qos⟩ := s
    unfold State.restoreAll
    split
    · rename_i client' w' subscribed
      exact ih (D.operate (.subscribe topic qos) good subscribed)
    · rename_i failed
      exact D.operate (.subscribe topic qos) good failed

/-! ## What is kept -/

namespace Kept

theorem nobody (kept : D.Kept x g) : D.Good .nobody x.outside g := D.letGo kept.state

/-- Nobody holds the stream but the record, if anybody does. -/
theorem ofState (home : ∀ l, y.loop = some l → l.phase.isAway = false) (free : y.call.holdsState = false)
    (state : D.OfState y.state y.outside g) : D.Kept y g where
  state := state
  phase l loop := ofPhase_home (home l loop)
  call := ofCall_free free

theorem ofCall (none_ : y.state.client = none) (home : ∀ l, y.loop = some l → l.phase.isAway = false)
    (nobody : D.Good .nobody y.outside g) (call : D.OfCall y.state.plan y.call y.outside g) :
    D.Kept y g where
  state := (ofState_none none_).mpr nobody
  phase l loop := ofPhase_home (home l loop)
  call := call

/-- Nothing changes but what the loop is told. -/
theorem sameLoop (kept : D.Kept x g) (state : y.state = x.state) (outside : y.outside = x.outside)
    (call : D.OfCall x.state.plan y.call x.outside g) {f : Loop κ δ → Loop κ δ}
    (loop : y.loop = x.loop.map f)
    (phase : ∀ l, x.loop = some l → (f l).phase = l.phase ∨ (f l).phase.isAway = false) :
    D.Kept y g := by
  constructor
  case state => rw [state, outside]; exact kept.state
  case phase =>
    intro l running
    rw [loop, Option.map_eq_some_iff] at running
    obtain ⟨l', running, rfl⟩ := running
    rcases phase l' running with same | home
    · rw [same, state, outside]
      exact kept.phase l' running
    · exact ofPhase_home home
  case call => rw [state, outside]; exact call

/-! ## The loop -/

/-- A cycle that has to decide starts without a client. -/
theorem deciding {now : Nat} (kept : D.Kept x g) (inv : Session.Inv x)
    (free : x.call.holdsState = false) (d : Session.Deciding b now x y) :
    y.call.holdsState = false ∧ D.OfState y.state y.outside g := by
  have quiet := Call.not_leaving free
  cases d with
  | down down => exact ⟨free, kept.state⟩
  | @lost e y up failed =>
    obtain ⟨client, client', w, messages, f, result, held, synced, -, -, rfl⟩ :=
      Session.pump_error failed ((inv.client_iff quiet).2 up)
    have good := kept.state
    rw [ofState_some held] at good
    have good' : D.OfState (x.exchanged client' w messages).state w g := D.sync good synced
    -- What the exchange has said stays said, though the client is lost.
    refine ⟨free, (ofState_none ?_).mpr (good_markLost e good')⟩
    rw [Session.act_state, State.markLost_fst]
    rfl

/-- The loop goes somewhere else while the caller holds nothing. -/
theorem goTo {p : Phase κ δ} {awake : Bool} (free : y.call.holdsState = false)
    (state : D.OfState y.state y.outside g)
    (loop : y.loop = x.loop.map fun l => { l with phase := p, awake })
    (phase : D.OfPhase y.state.plan p y.outside g) : D.Kept y g where
  state := state
  phase := by
    intro l running
    rw [loop, Option.map_eq_some_iff] at running
    obtain ⟨l', -, rfl⟩ := running
    exact phase
  call := ofCall_free free

theorem wait (now time : Nat) (p : Appointment → Phase κ δ) (free : x.call.holdsState = false)
    (state : D.OfState x.state x.outside g) (phase : ∀ a w, D.OfPhase x.state.plan (p a) w g) :
    D.Kept (x.wait b now time p) g := by
  obtain ⟨awake, waits⟩ := Session.wait_loop b now time p x
  refine goTo (by simpa using free) ?_ waits ?_ <;> rw [Session.wait_state]
  · exact good_wait now time p state
  · exact phase _ _

theorem endLoop (kept : D.Kept x g) (inv : Session.Inv x) {l : Loop κ δ} (loop : x.loop = some l) :
    D.Kept (x.endLoop b l.phase) g := by
  have given := kept.phase l loop
  unfold Session.endLoop
  split
  · rename_i dial phase
    obtain ⟨none_, free⟩ := inv.alone loop (by rw [phase]; rfl)
    rw [phase] at given
    exact goTo free ((ofState_none none_).mpr (OfDial.hangUp given)) rfl trivial
  · rename_i client phase
    obtain ⟨none_, free⟩ := inv.alone loop (by rw [phase]; rfl)
    rw [phase] at given
    exact goTo free ((ofState_none none_).mpr (D.drop given)) rfl trivial
  · exact kept.sameLoop rfl rfl kept.call rfl fun _ _ => .inr rfl

theorem loopStep {now : Nat} {r : Bool × Session ω κ δ φ} (kept : D.Kept x g) (inv : Session.Inv x)
    (s : Session.LoopStep b now x r) : D.Kept r.2 (D.noteLoop x r.2.outside g) := by
  cases s with
  | stay => rwa [noteLoop_same]
  | block =>
    rw [Session.block_outside, noteLoop_same]
    exact kept.sameLoop rfl rfl kept.call rfl fun _ _ => .inl rfl
  | @stop l running stopping alive =>
    rw [noteLoop_of]
    · exact kept.endLoop inv running
    · intro dial awake going
      rw [running] at going
      cases going
      cases stopping
  | @exchange awake y loop free up went =>
    obtain ⟨client, client', w, messages, held, synced, -, rfl⟩ := Session.pump_ok went
    have good := kept.state
    rw [ofState_some held] at good
    rw [noteLoop_of (by simp [loop])]
    exact wait (x := (x.exchanged client' w messages).update (State.notify b)) now _ _ free
      (D.sync good synced) fun _ _ => trivial
  | @schedule awake y attempt delay plan loop free deciding decided planned =>
    obtain ⟨free', state⟩ := kept.deciding inv free deciding
    rw [noteLoop_of (by simp [loop])]
    refine wait now _ (.backingOff · plan y.state.handler) free' state ?_
    exact fun _ _ => planned
  | unplanned loop free deciding | giveUp loop free deciding =>
    obtain ⟨free', state⟩ := kept.deciding inv free deciding
    rw [noteLoop_of (by simp [loop])]
    exact goTo free' state rfl trivial
  | rested loop due =>
    rw [noteLoop_of (by simp [loop])]
    exact kept.sameLoop rfl rfl kept.call rfl fun _ _ => .inr rfl
  | @redial awake time plan handler loop due free =>
    have planned : x.state.plan = some plan := kept.phase _ loop
    obtain ⟨none_, -⟩ := inv.alone loop rfl
    -- Whatever is left of the stream before is dropped first.
    let z := (x.act (State.dropConnection b)).update (State.setStatus b .connecting)
    have none_ : z.state.client = none := by simp [z, State.setStatus, State.dropConnection_fst]
    have planned' : z.state.plan = some plan := by
      simpa [z, State.setStatus, State.dropConnection_fst] using planned
    have dialed := D.dial (good_dropConnection kept.state) (rfl : b.dial now z.settings plan handler _ = _)
    rw [noteLoop_of (by simp [loop])]
    exact goTo free ((ofState_none none_).mpr (D.letGo dialed)) rfl ⟨plan, planned', dialed⟩
  | @dialOn awake dial dial' w loop polled =>
    obtain ⟨none_, free⟩ := inv.alone loop rfl
    have given := OfDial.goOn (kept.phase _ loop) polled
    rw [noteLoop_redialing loop]
    exact goTo (x := x) free ((ofState_none none_).mpr given.letGo) (Option.map_map ..) given
  | @dialed awake dial result w loop polled =>
    obtain ⟨none_, free⟩ := inv.alone loop rfl
    have given : D.OfDial x.state.plan dial x.outside g := kept.phase _ loop
    rw [noteLoop_redialing loop]
    cases result with
    | ok client =>
      have good := given.answered polled
      exact goTo free ((ofState_none none_).mpr (D.letGo good)) rfl good
    | error e => exact goTo free ((ofState_none none_).mpr (given.refused polled)) rfl trivial
  | @record awake result loop free =>
    have given := kept.phase _ loop
    rw [noteLoop_of (by simp [loop])]
    cases result with
    | ok client => exact goTo free (good_restoreAll x.state.subscriptions given) rfl trivial
    | error e =>
      exact wait (x := x.update fun s => (s.recordError b e).setStatus b .disconnected) now _ .resting
        free kept.state fun _ _ => trivial

/-! ## The caller -/

theorem pursue (now : Nat) (goal : Goal) (loop : x.loop = none) (none_ : x.state.client = none)
    (nobody : D.Good .nobody x.outside g) : D.Kept (x.pursue b now goal) g := by
  cases goal with
  | disconnect =>
    exact ⟨(ofState_none none_).mpr nobody, fun l running => by simp [Session.pursue, loop] at running, trivial⟩
  | connect plan handler =>
    have dialed := D.dial nobody (rfl : b.dial now x.settings plan handler x.outside = _)
    refine ⟨(ofState_none none_).mpr (D.letGo dialed), fun l running => ?_, plan, rfl, dialed⟩
    simp [Session.pursue, Session.dialFor, loop] at running

theorem callStep {now : Nat} {r : Bool × Session ω κ δ φ} (kept : D.Kept x g) (inv : Session.Inv x)
    (s : Session.CallStep b now x r) : D.Kept r.2 (D.noteCall x r.2.outside g) := by
  cases s with
  | stay => rwa [noteCall_same]
  | @leave goal client call up held =>
    have good := kept.state
    rw [ofState_some held] at good
    have left := D.leave good (rfl : b.leave now client x.outside = _)
    rw [noteCall_of (by simp [call])]
    have quiet := inv.quiet up
    unfold Session.sayGoodbye
    rw [up, held]
    exact .ofCall rfl quiet (D.letGo left) left
  | join call down =>
    rw [noteCall_of (by simp [call])]
    exact ⟨kept.state, kept.phase, trivial⟩
  | leaveOn call polled =>
    obtain ⟨none_, up⟩ := inv.leaving (by rw [call]; rfl)
    have good := kept.call
    rw [call] at good
    have left := D.leaveOn good polled
    have quiet := inv.quiet up
    rw [noteCall_of (by simp [call])]
    exact .ofCall none_ quiet (D.letGo left) left
  | left call polled =>
    obtain ⟨-, up⟩ := inv.leaving (by rw [call]; rfl)
    have good := kept.call
    rw [call] at good
    have quiet := inv.quiet up
    rw [noteCall_of (by simp [call])]
    exact .ofState quiet rfl (D.left good polled)
  | clear call past =>
    rw [noteCall_of (by simp [call])]
    refine pursue now _ rfl ?_ (good_dropConnection kept.state)
    rw [Session.act_state, State.reset_fst]
    rfl
  | @dialOn dial dial' w call polled =>
    obtain ⟨ended, dialing, -⟩ := inv.dialing dial call
    have none_ := inv.client_none (by rw [call]; rfl) (by simp [dialing])
    have given := kept.call
    rw [call] at given
    have given := OfDial.goOn given polled
    rw [noteCall_dialing call]
    exact .ofCall none_ (by simp [ended]) given.letGo given
  | @dialed dial result w call polled =>
    obtain ⟨ended, dialing, -⟩ := inv.dialing dial call
    have none_ := inv.client_none (by rw [call]; rfl) (by simp [dialing])
    have given := kept.call
    rw [call] at given
    rw [noteCall_dialing call]
    cases result with
    | ok client =>
      refine .ofState ?_ rfl (OfDial.answered given polled)
      rintro l ⟨⟩
      rfl
    | error e =>
      -- There is no client that could be dropped.
      have same : (State.abandon b e x.state w).2 = w := by
        unfold State.abandon State.dropConnection
        dsimp only [State.recordError, State.notify]
        rw [none_]
      have refused := OfDial.refused given polled
      rw [← same] at refused
      refine .ofState (by simp [Session.recordDial, ended]) rfl ((ofState_none ?_).mpr refused)
      simp [Session.recordDial, State.abandon_fst]

/-! ## Every move -/

theorem operateStep {op : Operation} {r : Except SessionError Unit × Session ω κ δ φ}
    (kept : D.Kept x g) (inv : Session.Inv x) (free : x.call.holdsState = false)
    (s : Session.OperateStep b op x r) : D.Kept r.2 g := by
  have good := kept.state
  cases s with
  | refuse => exact kept
  | succeed up held ran | fail up held ran =>
    have quiet := inv.quiet up
    rw [ofState_some held] at good
    exact .ofState quiet free (D.operate op good ran)
  | @«break» client client' w f up held ran broken =>
    rw [ofState_some held] at good
    have good' : D.OfState (x.called client' w).state w g := D.operate op good ran
    have quiet := inv.quiet up
    refine .ofState quiet free ((ofState_none ?_).mpr (good_markLost (.protocol f op.failure) good'))
    rw [Session.act_state, State.markLost_fst]
    rfl

theorem tearDown (kept : D.Kept x g) (inv : Session.Inv x) (now : Nat) (goal : Goal) :
    D.Kept (x.tearDown b now goal) g := by
  unfold Session.tearDown
  split
  · rename_i nothing
    have status : x.state.status = .uninitialized := by
      have told := nothing.1
      rw [Bool.not_eq_true', Status.isInitialized, decide_eq_false_iff_not, Decidable.not_not] at told
      exact inv.told ▸ told
    exact pursue now goal (by simpa using nothing.2) (inv.clear status).client kept.nobody
  · exact kept.sameLoop rfl rfl trivial rfl fun _ _ => .inl rfl

/-- What happens outside is the same for every holder. -/
theorem outside {w : ω} (kept : D.Kept x g) (fair : D.Fair x.outside w) :
    D.Kept { x with outside := w } (D.passed x.outside w g) where
  state := D.fair fair kept.state
  phase l loop := by
    have given := kept.phase l loop
    cases phase : l.phase with
    | redialing dial =>
      rw [phase] at given
      exact OfDial.fair given fair
    | redialed result =>
      rw [phase] at given
      cases result with
      | ok client => exact D.fair fair given
      | error e => trivial
    | backingOff =>
      rw [phase] at given
      exact given
    | cycling | resting | ended => trivial
  call := by
    have given := kept.call
    cases call : x.call with
    | dialing dial =>
      rw [call] at given
      exact OfDial.fair given fair
    | leaving goal farewell =>
      rw [call] at given
      exact D.fair fair given
    | idle | stopping | joining | finished => trivial

theorem move {m : Session.Move ω} (kept : D.Kept x g) (inv : Session.Inv x) (allowed : D.Allowed x m) :
    D.Kept (m.run b x) (D.note x m g) := by
  cases m with
  | loop now => exact kept.loopStep inv (Session.loopStep b now x)
  | call now => exact kept.callStep inv (Session.callStep b now x)
  | connect now request handler =>
    change D.Kept (x.connect b now request handler) g
    unfold Session.connect
    split
    · exact ⟨kept.state, kept.phase, trivial⟩
    · exact kept.tearDown inv now _
  | disconnect now => exact kept.tearDown inv now _
  | operate op => exact kept.operateStep inv allowed (Session.operateStep b op x)
  | outside w => exact kept.outside allowed
  | collect => exact ⟨kept.state, kept.phase, kept.call⟩
  | rest => exact ⟨kept.state, kept.phase, trivial⟩

end Kept

theorem Course.kept (course : D.Course x g) : D.Kept x g := by
  induction course with
  | new settings fresh => exact ⟨D.fresh fresh, by simp, trivial⟩
  | move course allowed ih => exact ih.move course.reachable.inv allowed

end Discipline

end MqttLink
