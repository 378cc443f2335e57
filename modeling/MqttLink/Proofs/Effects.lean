import MqttLink.Proofs.Coherence

/-!
# What an operation does

A caller may ask for an operation at any time, also while the loop is on its way from a loss to the next
connection. Main statement: the status, the topic and what the client says decide between four effects, and
no effect touches more than it has to.
-/

namespace MqttLink

variable {ω κ δ φ : Type}

/-! ## Overhearing clients -/

/-- What a session does to a client. -/
inductive Use (κ : Type) where
  | operate (op : Operation) (client : κ)
  | exchange (client : κ)
  | leave (client : κ)
  | drop (client : κ)
  deriving DecidableEq

structure Overheard (ω κ : Type) where
  outside : ω
  /-- All uses of clients so far, the first one first. -/
  uses : List (Use κ) := []

def Overheard.hear (w : Overheard ω κ) (use : Use κ) (outside : ω) : Overheard ω κ :=
  { outside, uses := w.uses ++ [use] }

/-- The backend that also writes down every use of a client. -/
def Backend.overheard (b : Backend ω κ δ φ) : Backend (Overheard ω κ) κ δ φ where
  appoint due w := (b.appoint due w.outside).map id fun outside => { w with outside }
  dial now settings plan handler w :=
    (b.dial now settings plan handler w.outside).map id fun outside => { w with outside }
  pollDial now d w := (b.pollDial now d w.outside).map id fun outside => { w with outside }
  dialWake := b.dialWake
  hangUp d w := { w with outside := b.hangUp d w.outside }
  fault := b.fault
  publish message qos retain client w :=
    (b.publish message qos retain client w.outside).map id
      (Prod.map id (w.hear (.operate (.publish message qos retain) client)))
  subscribe topic qos client w :=
    (b.subscribe topic qos client w.outside).map id
      (Prod.map id (w.hear (.operate (.subscribe topic qos) client)))
  unsubscribe topic client w :=
    (b.unsubscribe topic client w.outside).map id
      (Prod.map id (w.hear (.operate (.unsubscribe topic) client)))
  sync now client w :=
    (b.sync now client w.outside).map id (Prod.map id (Prod.map id (w.hear (.exchange client))))
  leave now client w := (b.leave now client w.outside).map id (w.hear (.leave client))
  pollLeave now f w := (b.pollLeave now f w.outside).map id fun outside => { w with outside }
  leaveWake := b.leaveWake
  drop client w := w.hear (.drop client) (b.drop client w.outside)

theorem Operation.run_overheard (b : Backend ω κ δ φ) (op : Operation) (client : κ) (w : Overheard ω κ) :
    op.run b.overheard client w =
      (op.run b client w.outside).map id (Prod.map id (w.hear (.operate op client))) := by
  cases op <;> rfl

/-! ## What a caller asks for -/

/-- An operation as a caller asks for it, who names a level by its number. -/
inductive Demand where
  | publish (topic : String) (payload : Bytes) (level : UInt8) (retain : Bool)
  | subscribe (topic : String) (level : UInt8)
  | unsubscribe (topic : String)
  deriving DecidableEq, Repr

def Demand.operation : Demand → Operation
  | publish topic payload level retain => .publish ⟨topic, payload⟩ (.ofLevel level) retain
  | subscribe topic level => .subscribe topic (.ofLevel level)
  | unsubscribe topic => .unsubscribe topic

/-- Every operation can be asked for. -/
theorem Demand.operation_surjective : Function.Surjective operation
  | .publish message qos retain => ⟨.publish message.topic message.payload qos.level retain, by simp [operation]⟩
  | .subscribe topic qos => ⟨.subscribe topic qos.level, by simp [operation]⟩
  | .unsubscribe topic => ⟨.unsubscribe topic, rfl⟩

/-! ## Its effects -/

namespace Session

variable {b : Backend ω κ δ φ} {x y : Session ω κ δ φ}

/-- A session whose backend has written down these uses. -/
def overhear (uses : List (Use κ)) (x : Session ω κ δ φ) : Session (Overheard ω κ) κ δ φ where
  settings := x.settings
  state := x.state
  loop := x.loop
  call := x.call
  outside := { outside := x.outside, uses }
  delivered := x.delivered

variable (b) in
/-- What an operation can result in, what it can leave, and what it can use a client for. -/
inductive Effect (op : Operation) (x : Session ω κ δ φ) :
    Except SessionError Unit → Session ω κ δ φ → List (Use κ) → Prop
  | notConnected (down : x.state.status ≠ .connected) :
      Effect op x (.error (.notConnected x.state.status)) x []
  | emptyTopic (up : x.state.status = .connected) (held : x.state.client.isSome)
      (empty : op.topic = "") :
      Effect op x (.error .emptyTopic) x []
  | success {client client' : κ} {w : ω} (up : x.state.status = .connected) (named : op.topic ≠ "")
      (held : x.state.client = some client) (ran : op.run b client x.outside = (.ok (), client', w)) :
      Effect op x (.ok ())
        { x with
          outside := w
          state :=
            { x.state with
              client := some client', subscriptions := op.remember x.state.subscriptions } }
        [.operate op client]
  /-- The client goes on. -/
  | failure {client client' : κ} {w : ω} {f : Fault} (up : x.state.status = .connected)
      (named : op.topic ≠ "") (held : x.state.client = some client)
      (ran : op.run b client x.outside = (.error f, client', w)) (sound : b.fault client' = none) :
      Effect op x (.error (.protocol f op.failure))
        { x with
          outside := w
          state :=
            { x.state with
              client := some client', lastError := some (.protocol f op.failure),
              lastFault := some f }.notify b }
        [.operate op client]
  /-- The client will not recover. -/
  | breakage {client client' : κ} {w : ω} {f : Fault} (up : x.state.status = .connected)
      (named : op.topic ≠ "") (held : x.state.client = some client)
      (ran : op.run b client x.outside = (.error f, client', w)) (broken : (b.fault client').isSome) :
      Effect op x (.error (.protocol f op.failure))
        { x with
          outside := b.drop client' w
          state :=
            { x.state with
              client := none, status := .disconnected,
              lastError := some (.protocol f op.failure), lastFault := some f }.notify b }
        [.operate op client, .drop client']

/-- The effect says all there is to say about an operation. -/
theorem Effect.operate {op : Operation} {r : Except SessionError Unit} {uses : List (Use κ)}
    (effect : Effect b op x r y uses) : x.operate b op = (r, y) := by
  unfold Session.operate
  cases effect with
  | notConnected down =>
    split
    · rename_i up _
      exact absurd up down
    · rfl
  | emptyTopic up held empty =>
    obtain ⟨client, held⟩ := Option.isSome_iff_exists.1 held
    simp only [up, held, String.isEmpty_iff, empty, if_true]
  | success up named held ran =>
    simp only [up, held, String.isEmpty_iff, named, if_false, ran]
  | failure up named held ran sound =>
    simp only [up, held, String.isEmpty_iff, named, if_false, ran, sound]
    rfl
  | breakage up named held ran broken =>
    obtain ⟨f, broken⟩ := Option.isSome_iff_exists.1 broken
    simp only [up, held, String.isEmpty_iff, named, if_false, ran, broken, act]
    rfl

/-- A backend that listens hears of every use, and nothing else changes by that. -/
theorem Effect.overheard {op : Operation} {r : Except SessionError Unit} {uses : List (Use κ)}
    (effect : Effect b op x r y uses) (before : List (Use κ)) :
    Effect b.overheard op (x.overhear before) r (y.overhear (before ++ uses)) uses := by
  have heard : ∀ {client : κ} {result : Except Fault Unit} {client' : κ} {w : ω},
      op.run b client x.outside = (result, client', w) →
      op.run b.overheard client (x.overhear before).outside =
        (result, client', { outside := w, uses := before ++ [.operate op client] }) := by
    intro client result client' w ran
    rw [Operation.run_overheard]
    change Prod.map id _ (op.run b client x.outside) = _
    rw [ran]
    rfl
  cases effect with
  | notConnected down =>
    rw [List.append_nil]
    exact .notConnected down
  | emptyTopic up held empty =>
    rw [List.append_nil]
    exact .emptyTopic up held empty
  | success up named held ran => exact .success up named held (heard ran)
  | failure up named held ran sound => exact .failure up named held (heard ran) sound
  | @breakage client client' w f up named held ran broken =>
    rw [show before ++ [Use.operate op client, .drop client'] =
      before ++ [.operate op client] ++ [.drop client'] from by simp]
    exact Effect.breakage (b := b.overheard) (x := x.overhear before) up named held (heard ran) broken

theorem Inv.effect (inv : Inv x) (free : x.call.holdsState = false) (op : Operation) :
    ∃ r y uses, Effect b op x r y uses := by
  by_cases up : x.state.status = .connected
  · -- A connected session has a client as long as nobody holds its record.
    obtain ⟨client, held⟩ := Option.isSome_iff_exists.1 ((inv.client_iff (Call.not_leaving free)).2 up)
    by_cases empty : op.topic = ""
    · exact ⟨_, _, _, .emptyTopic up (by rw [held]; rfl) empty⟩
    · rcases ran : op.run b client x.outside with ⟨result, client', w⟩
      cases result with
      | ok => exact ⟨_, _, _, .success up empty held ran⟩
      | error f =>
        cases sound : b.fault client' with
        | none => exact ⟨_, _, _, .failure up empty held ran sound⟩
        | some f' => exact ⟨_, _, _, .breakage up empty held ran (by rw [sound]; rfl)⟩
  · exact ⟨_, _, _, .notConnected up⟩

/-- Whatever the session has been through, an operation is refused without a connection or a topic, and
then no client hears of it. Otherwise the client hears of it once, and nothing changes but the client and
what is remembered, the error, or the connection if the client will not recover. -/
theorem operation_effects (r : Reachable b x) (free : x.call.holdsState = false) (d : Demand)
    (before : List (Use κ)) :
    ∃ result y uses, Effect b d.operation x result y uses ∧
      x.operate b d.operation = (result, y) ∧
      (x.overhear before).operate b.overheard d.operation = (result, y.overhear (before ++ uses)) := by
  obtain ⟨result, y, uses, effect⟩ := r.inv.effect free d.operation
  exact ⟨result, y, uses, effect, effect.operate, (effect.overheard before).operate⟩

/-- A publish on which the client breaks. The session is as a lost connection leaves it, and knows what
to subscribe again. -/
theorem operation_effects_broken :
    ∃ x : Session Ledger Ledger.Client (Except SessionError Ledger.Client) Ledger.Client,
      Reachable Ledger.backend x ∧ x.call.holdsState = false ∧
      (let d : Demand := .publish "a" [1] 7 true
      ∃ result y uses, Effect Ledger.backend d.operation x result y uses ∧
        x.operate Ledger.backend d.operation = (result, y) ∧
        (x.overhear []).operate Ledger.backend.overheard d.operation = (result, y.overhear uses)) ∧
      (let z := (x.overhear []).operate Ledger.backend.overheard (.publish ⟨"a", [1]⟩ .atMostOnce true)
      z.1 = .error (.protocol .socketError "MQTT publish failed") ∧ z.2.state.status = .disconnected ∧
      z.2.state.subscriptions = [("a", .exactlyOnce)] ∧ z.2.outside.uses.length = 2) := by
  have r := Reachable.new (b := Ledger.backend) {} { failingPublishes := some .socketError }
  have r := r.move (m := .connect 0 { host := "h" } none) rfl
  have r := r.move (m := .call 0) trivial
  have r := r.move (m := .operate (.subscribe "a" .exactlyOnce)) rfl
  exact ⟨_, r, rfl, operation_effects r rfl (.publish "a" [1] 7 true) [], rfl, rfl, rfl, rfl⟩

end Session

end MqttLink
