import MqttLink.Proofs.Discipline
import MqttLink.Proofs.Parting
import MqttLink.Proofs.Speech

/-!
# Conversations

Whatever a session does on a link, and whoever of caller and loop does it, what was written to the link is
the beginning of one conversation.
-/

namespace MqttLink

/-- The history of all links there have been, and of those to come. -/
abbrev Notes := Nat → Note

/-- What there is to read on a new link. -/
def Answer.brought : Answer → Bytes
  | .link acts => (acts.foldl Link.act {}).unread
  | .refused _ | .unresolved _ => []

namespace Lines

variable {ls ls' : Lines} {g : Notes} {s : Speaker} {plan : ConnectPlan} {l l' : Link} {n : Nat}

/-! ## What holds for each holder -/

def Orderly (ls : Lines) (g : Notes) : Prop := ∀ n l, ls.links[n]? = some l → MqttLink.Orderly (g n) l

def Speaker.Talks (s : Speaker) (work : Talk.Work) (ls : Lines) (g : Notes) : Prop :=
  ∃ l, ls.links[s.socket]? = some l ∧ Talking (g s.socket) ⟨s.client, l, work⟩

def Dial.Keeps (plan : ConnectPlan) (ls : Lines) (g : Notes) : Dial → Prop
  | .ringing _ _ _ own _ | .unanswered _ own _ => own = plan
  | .shaking h _ s =>
    ∃ l, ls.links[s.socket]? = some l ∧ Shaking plan (g s.socket) ⟨s.client, l, .greeting h⟩
  | .failed _ | .stranded => True

def Leave.work (f : Leave) : Talk.Work := f.farewell.elim .idle .leaving

/-- What holds of the holder beside the order of all links. -/
def Held (ls : Lines) (g : Notes) : Holder Speaker Dial Leave → Prop
  | .nobody => True
  | .client s => s.Talks .idle ls g
  | .dial plan d => d.Keeps plan ls g
  | .farewell f => f.speaker.Talks f.work ls g

def Good (holder : Holder Speaker Dial Leave) (ls : Lines) (g : Notes) : Prop :=
  ls.Orderly g ∧ ls.Held g holder

theorem Good.congr {holder : Holder Speaker Dial Leave} (good : Good holder ls g)
    (links : ls'.links = ls.links) : Good holder ls' g := by
  obtain ⟨orderly, held⟩ := good
  refine ⟨by rwa [Orderly, links], ?_⟩
  cases holder with
  | nobody => trivial
  | client s | farewell f => simpa only [Held, Speaker.Talks, links] using held
  | dial plan d =>
    cases d with
    | shaking => simpa only [Held, Dial.Keeps, links] using held
    | ringing | unanswered | failed | stranded => exact held

theorem Orderly.puts (orderly : ls.Orderly g) (puts : Puts n l ls ls')
    (own : MqttLink.Orderly (g n) l) : ls'.Orderly g := by
  intro m l' on
  rw [puts.links] at on
  split at on
  · rename_i same
    subst same
    cases on
    exact own
  · exact orderly m l' on

theorem Orderly.close (orderly : ls.Orderly g) (on : ls.links[n]? = some l) : (ls.close n).Orderly g :=
  orderly.puts (puts_change on _) ((orderly n l on).congr rfl rfl)

theorem good_talks {work : Talk.Work} {client : Client} (orderly : ls.Orderly g)
    (puts : Puts s.socket l ls ls') (talking : Talking (g s.socket) ⟨client, l, work⟩) :
    ls'.Orderly g ∧ Speaker.Talks { s with client } work ls' g :=
  ⟨orderly.puts puts talking.orderly, l, puts.on, talking⟩

/-! ## Histories -/

/-- What an attempt that is not answered yet will be answered. -/
def Dial.answer? (d : Dial) (ls : Lines) : Option Answer :=
  match d with
  | .ringing _ answer .. => some answer
  | .unanswered .. => ls.script.head?.map Line.answer
  | .shaking .. | .failed _ | .stranded => none

/-- A new link, if there is one, begins a new history. -/
def record (plan : Option ConnectPlan) (brought : Bytes) (ls ls' : Lines) (g : Notes) : Notes :=
  if ls.links.size < ls'.links.size then Function.update g ls.links.size ⟨plan, brought⟩ else g

theorem record_same {plan : Option ConnectPlan} {brought : Bytes}
    (size : ls'.links.size = ls.links.size) : record plan brought ls ls' g = g := by
  rw [record, if_neg (by omega)]

theorem record_new {plan : Option ConnectPlan} {brought : Bytes}
    (size : ls'.links.size = ls.links.size + 1) :
    record plan brought ls ls' g = Function.update g ls.links.size ⟨plan, brought⟩ := by
  rw [record, if_pos (by omega)]

/-- What has come in on a link meanwhile. -/
def arrived (ls ls' : Lines) (n : Nat) : Bytes :=
  (ls'.links[n]?.elim [] Link.unread).drop (ls.links[n]?.elim [] Link.unread).length

/-- What the far side of any link and the network may do. -/
structure Fair (ls ls' : Lines) : Prop where
  size : ls'.links.size = ls.links.size
  grows : ∀ (n : Nat) (l : Link), ls.links[n]? = some l → ∃ l', ls'.links[n]? = some l' ∧ l.Grows l'

theorem Fair.arrived (fair : ls.Fair ls') (on : ls.links[n]? = some l) :
    ∃ l', ls'.links[n]? = some l' ∧ l.Adds (ls.arrived ls' n) l' := by
  obtain ⟨l', on', more, adds⟩ := fair.grows n l on
  refine ⟨l', on', ?_⟩
  have same : ls.arrived ls' n = more := by simp [Lines.arrived, on, on', adds.unread]
  rwa [same]

theorem Good.passed {holder : Holder Speaker Dial Leave} (good : Good holder ls g) (fair : ls.Fair ls') :
    Good holder ls' fun n => (g n).add (ls.arrived ls' n) := by
  obtain ⟨orderly, held⟩ := good
  have talks : ∀ {s : Speaker} {w : Talk.Work}, s.Talks w ls g →
      s.Talks w ls' fun n => (g n).add (ls.arrived ls' n) := by
    rintro s w ⟨l, on, talking⟩
    obtain ⟨l', on', adds⟩ := fair.arrived on
    exact ⟨l', on', talking.farSide adds⟩
  constructor
  · -- There are no new links, so each has been one before.
    intro n l' on'
    obtain ⟨l, on⟩ : ∃ l, ls.links[n]? = some l := by
      obtain ⟨small, -⟩ := Array.getElem?_eq_some_iff.1 on'
      rw [fair.size] at small
      exact ⟨_, Array.getElem?_eq_getElem small⟩
    obtain ⟨l'', on'', adds⟩ := fair.arrived on
    cases on'.symm.trans on''
    exact (orderly n l on).farSide adds
  · cases holder with
    | nobody => trivial
    | client s | farewell f => exact talks held
    | dial plan d =>
      cases d with
      | shaking h number s =>
        obtain ⟨l, on, shaking⟩ := held
        obtain ⟨l', on', adds⟩ := fair.arrived on
        exact ⟨l', on', shaking.farSide adds⟩
      | ringing | unanswered | failed | stranded => exact held

/-! ## Attempts -/

/-- Who holds the link after an attempt has gone on. -/
def holder (plan : ConnectPlan) :
    Progress Dial (Except SessionError Speaker) → Holder Speaker Dial Leave
  | .waiting d => .dial plan d
  | .done (.ok s) => .client s
  | .done (.error _) => .nobody

/-- An attempt has gone on, and would have brought this with a new link. -/
def Polled (plan : ConnectPlan) (brought : Bytes) (ls : Lines) (g : Notes)
    (r : Progress Dial (Except SessionError Speaker) × Lines) : Prop :=
  Good (holder plan r.1) r.2 (record (some plan) brought ls r.2 g)

theorem Polled.same {brought : Bytes} {r : Progress Dial (Except SessionError Speaker) × Lines}
    (size : r.2.links.size = ls.links.size) (good : Good (holder plan r.1) r.2 g) :
    Polled plan brought ls g r := by
  rwa [Polled, record_same size]

theorem good_pollShaking {h : Handshake} {number : Option Nat}
    (good : Good (.dial plan (.shaking h number s)) ls g) (now : Nat) :
    Good (holder plan (pollShaking now h number s ls).1) (pollShaking now h number s ls).2 g ∧
      (pollShaking now h number s ls).2.links.size = ls.links.size := by
  obtain ⟨orderly, l, on, shaking⟩ := good
  have next := shaking.poll now
  obtain ⟨ls', worked, puts⟩ := onLink_puts (h.poll now) on
  unfold pollShaking
  rw [worked]
  generalize h.poll now s.client l = r at next puts
  obtain ⟨h' | result, client, l'⟩ := r
  · dsimp only at next puts ⊢
    have orderly' := orderly.puts puts next.orderly
    have good' : ∀ number, Good (.dial plan (.shaking h' number { s with client })) ls' g :=
      fun _ => ⟨orderly', l', puts.on, next⟩
    split
    · exact ⟨good' number, puts.size⟩
    · exact ⟨(good' _).congr rfl, puts.size⟩
  · cases result with
    | ok _ => exact ⟨good_talks orderly puts next, puts.size⟩
    | error f =>
      have closed := (orderly.puts puts next).close puts.on
      have size := (puts_change puts.on fun l => { l with closed := true }).size
      exact ⟨⟨closed, trivial⟩, size.trans puts.size⟩

theorem Orderly.push {note : Note} (orderly : ls.Orderly g) (own : MqttLink.Orderly note l) :
    Orderly { ls with links := ls.links.push l } (Function.update g ls.links.size note) := by
  intro n l' on
  rw [Array.getElem?_push] at on
  split at on
  · rename_i newest
    cases on
    rwa [newest, Function.update_self]
  · rename_i older
    rw [Function.update_of_ne older]
    exact orderly n l' on

theorem good_pickUp (orderly : ls.Orderly g) (now : Nat) (acts : List Act) (settings : Settings)
    (plan : ConnectPlan) (handler : Option Handler) :
    Good (.dial plan (ls.pickUp now acts settings plan handler).1)
      (ls.pickUp now acts settings plan handler).2
      (Function.update g ls.links.size ⟨some plan, (acts.foldl Link.act {}).unread⟩) ∧
    (ls.pickUp now acts settings plan handler).2.links.size = ls.links.size + 1 := by
  obtain ⟨more, begun⟩ := Link.grows_foldl Link.grows_act acts {}
  have fresh : (acts.foldl Link.act {}).sent = [] := begun.sent
  unfold pickUp
  generalize acts.foldl Link.act {} = link at fresh
  -- The link is noted before anything is written to it.
  have silent : MqttLink.Orderly ⟨some plan, link.unread⟩ link := .silent fresh
  have orderly' := orderly.push silent
  have newest : ({ ls with links := ls.links.push link } : Lines).links[ls.links.size]? = some link := by
    simp
  dsimp only
  split
  · rename_i h client greeted
    refine ⟨⟨orderly', link, newest, ?_⟩, by simp⟩
    dsimp only
    rw [Function.update_self]
    exact .greet fresh greeted
  all_goals
    refine ⟨⟨orderly'.close newest, trivial⟩, ?_⟩
    exact (puts_change newest fun l => { l with closed := true }).size.trans (by simp)

theorem polled_takeAnswer (orderly : ls.Orderly g) (now : Nat) (answer : Answer) (settings : Settings)
    (handler : Option Handler) :
    Polled plan answer.brought ls g (ls.takeAnswer now answer settings plan handler) := by
  unfold takeAnswer
  split
  · exact .same rfl ⟨orderly, trivial⟩
  · exact .same rfl ⟨orderly, trivial⟩
  · rename_i acts
    -- A link that cannot be greeted is there all the same, and closed.
    obtain ⟨good, size⟩ := good_pickUp orderly now acts settings plan handler
    generalize ls.pickUp now acts settings plan handler = r at good size
    obtain ⟨d', ls'⟩ := r
    dsimp only at good size ⊢
    unfold Polled
    cases d' with
    | failed e =>
      rw [record_new size]
      exact ⟨good.1, trivial⟩
    | shaking h number s =>
      obtain ⟨good', size'⟩ := good_pollShaking good now
      rw [record_new (size'.trans size)]
      exact good'
    | ringing | unanswered | stranded =>
      rw [record_new size]
      exact good

def Dial.brought (d : Dial) (ls : Lines) : Bytes := (d.answer? ls).elim [] Answer.brought

theorem polled_pollDial {d : Dial} {now : Nat} {r : Progress Dial (Except SessionError Speaker) × Lines}
    (good : Good (.dial plan d) ls g) (polled : pollDial now d ls = r) :
    Polled plan (d.brought ls) ls g r := by
  subst polled
  obtain ⟨orderly, held⟩ := good
  cases d with
  | failed | stranded => exact .same rfl ⟨orderly, trivial⟩
  | shaking h number s =>
    obtain ⟨good', size⟩ := good_pollShaking ⟨orderly, held⟩ now
    exact .same size good'
  | ringing time answer settings own handler =>
    obtain rfl : own = plan := held
    unfold pollDial
    dsimp only
    split
    · exact .same rfl ⟨orderly, rfl⟩
    · exact polled_takeAnswer orderly now answer settings handler
  | unanswered settings own handler =>
    obtain rfl : own = plan := held
    unfold pollDial
    dsimp only
    split
    · exact .same rfl ⟨orderly, rfl⟩
    · rename_i line rest script
      have brought : (Dial.unanswered settings own handler).brought ls = line.answer.brought := by
        simp [Dial.brought, Dial.answer?, script]
      rw [brought]
      have orderly' : Orderly { ls with script := rest } g := orderly
      exact polled_takeAnswer orderly' now line.answer settings handler

/-! ## Clients and farewells -/

theorem good_operate {op : Operation} {s' : Speaker} {r : Except Fault Unit}
    (good : Good (.client s) ls g) (ran : op.run backend s ls = (r, s', ls')) :
    Good (.client s') ls' g := by
  obtain ⟨orderly, l, on, talking⟩ := good
  cases op with
  | publish message qos retain =>
    cases ran
    exact ⟨orderly, l, on, talking.move (m := .publish message qos retain) trivial rfl⟩
  | subscribe topic qos =>
    cases ran
    exact ⟨orderly, l, on, talking.move (m := .subscribe topic qos) trivial rfl⟩
  | unsubscribe topic =>
    cases ran
    exact ⟨orderly, l, on, talking.move (m := .unsubscribe topic) trivial rfl⟩

theorem good_sync {now : Nat} {s' : Speaker} {r : Except Fault Unit}
    {messages : List (Handler × Message)} (good : Good (.client s) ls g)
    (synced : sync now s ls = (r, messages, s', ls')) : Good (.client s') ls' g := by
  obtain ⟨orderly, l, on, talking⟩ := good
  obtain ⟨ls1, worked, puts⟩ := onLink_puts (fun c l => c.sync now l) on
  have exchanged := talking.move (m := .sync now) trivial rfl
  have collected := exchanged.move (m := .collect) trivial rfl
  unfold sync at synced
  rw [worked] at synced
  cases synced
  exact good_talks orderly puts collected

theorem good_leave {now : Nat} {f : Leave} (good : Good (.client s) ls g)
    (left : leave now s ls = (f, ls')) : Good (.farewell f) ls' g := by
  obtain ⟨orderly, l, on, talking⟩ := good
  have parted := talking.move (m := .disconnect now) trivial rfl
  unfold Talk.Move.run at parted
  unfold leave at left
  dsimp only at parted
  split at left <;>
  · rename_i said
    cases left
    rw [said] at parted
    exact ⟨orderly, l, on, parted⟩

/-- Who holds the link after a farewell has gone on. -/
def leaver : Progress Leave Speaker → Holder Speaker Dial Leave
  | .waiting f => .farewell f
  | .done s => .client s

theorem good_pollLeave {f : Leave} {now : Nat} {r : Progress Leave Speaker × Lines}
    (good : Good (.farewell f) ls g) (polled : pollLeave now f ls = r) : Good (leaver r.1) r.2 g := by
  subst polled
  obtain ⟨farewell, s⟩ := f
  obtain ⟨orderly, l, on, talking⟩ := good
  cases farewell with
  | none => exact ⟨orderly, l, on, talking⟩
  | some f =>
    have next := talking.move (m := .poll now) (by simp [Talk.Move.IsLater, Leave.work]) trivial
    obtain ⟨ls', worked, puts⟩ := onLink_puts (f.poll now) on
    unfold pollLeave
    dsimp only
    rw [worked]
    dsimp only [Talk.Move.run, Leave.work, Option.elim_some] at next
    generalize f.poll now s.client l = r at next puts
    obtain ⟨f' | result, client, l'⟩ := r <;> exact good_talks orderly puts next

/-! ## The discipline -/

def conversations : Discipline backend Notes where
  Good := Good
  Fresh ls _ := ls.links = #[]
  Fair := Fair
  dialed plan d ls ls' := record plan (d.brought ls) ls ls'
  passed ls ls' g n := (g n).add (ls.arrived ls' n)
  dialed_same plan d ls g := record_same rfl
  fresh := by
    intro ls g none_
    exact ⟨fun n l on => by simp [none_] at on, trivial⟩
  fair fair good := good.passed fair
  letGo good := ⟨good.1, trivial⟩
  appoint time good := good.congr rfl
  dial := by
    intro now settings plan handler ls g d ls' good dialed
    cases dialed
    exact ⟨good.1, rfl⟩
  dialOn good polled := polled_pollDial good polled
  answered good polled := polled_pollDial good polled
  refused good polled := polled_pollDial good polled
  hangUp := by
    intro plan d ls g good
    obtain ⟨orderly, held⟩ := good
    cases d with
    | shaking h number s =>
      obtain ⟨l, on, -⟩ := held
      exact ⟨orderly.close on, trivial⟩
    | ringing | unanswered | failed | stranded => exact ⟨orderly, trivial⟩
  operate op _ _ _ _ _ _ good ran := good_operate good ran
  sync good synced := good_sync good synced
  leave good left := good_leave good left
  leaveOn good polled := good_pollLeave good polled
  left good polled := good_pollLeave good polled
  drop := by
    intro s ls g good
    obtain ⟨orderly, l, on, -⟩ := good
    exact ⟨orderly.close on, trivial⟩

/-! ## What happens by itself -/

theorem Fair.trans {ls'' : Lines} (fair : ls.Fair ls') (fair' : ls'.Fair ls'') : ls.Fair ls'' where
  size := fair'.size.trans fair.size
  grows n l on := by
    obtain ⟨l', on', grows⟩ := fair.grows n l on
    obtain ⟨l'', on'', grows'⟩ := fair'.grows n l' on'
    exact ⟨l'', on'', grows.trans grows'⟩

theorem fair_of_links (links : ls'.links = ls.links) : ls.Fair ls' where
  size := by rw [links]
  grows n l on := ⟨l, by rwa [links], .same rfl rfl⟩

theorem fair_change {f : Link → Link} (grows : ∀ l, ls.links[n]? = some l → l.Grows (f l)) :
    ls.Fair (ls.change n f) where
  size := by simp [change]
  grows m l on := by
    simp only [change, Array.getElem?_modify]
    by_cases same : n = m
    · rw [if_pos same, on]
      exact ⟨f l, rfl, grows l (same ▸ on)⟩
    · rw [if_neg same]
      exact ⟨l, on, .same rfl rfl⟩

theorem fair_begin (now : Nat) (ls : Lines) : ls.Fair (ls.begin now) := by
  unfold begin
  split
  · exact fair_of_links rfl
  · rename_i l latest
    have begun := Link.grows_begin now ls.number l
    generalize l.begin now ls.number = r at begun
    obtain ⟨number, begins⟩ := r
    have same : ls.Fair (ls.changeLatest fun _ => begins) := by
      apply fair_change
      intro l' on
      rw [latest?, Array.back?_eq_getElem?, on] at latest
      cases latest
      exact begun
    exact same.trans (fair_of_links rfl)

/-- What a script has announced is fair. -/
theorem fair_elapse (now : Nat) (before : Option Nat) (ls : Lines) :
    ls.Fair (ls.elapse now before) := by
  have elapsed : ls.Fair (ls.changeLatest (·.elapse now before)) :=
    fair_change fun l _ => l.grows_elapse now before
  unfold elapse
  dsimp only
  split
  · exact elapsed.trans (fair_begin now _)
  · exact elapsed

/-! ## The whole of it -/

/-- Every link that a caller or the loop has ever opened got the beginning of one conversation: the CONNECT
of the plan that was on record then, talk, and at most one DISCONNECT with nothing behind it. It got no
more than the CONNECT unless the first packet read from it was a CONNACK that accepts. -/
theorem conversations_orderly {x : Online} {g : Notes} (course : conversations.Course x g) {n : Nat}
    {l : Link} (on : x.outside.links[n]? = some l) : MqttLink.Orderly (g n) l :=
  course.kept.nobody.1 n l on

/-- The second link of a session that lost its first one and then disconnects. -/
theorem conversations_orderly_reconnected : ∃ (x : Online) (g : Notes) (l : Link),
    conversations.Course x g ∧ x.outside.links[1]? = some l ∧
      (g 1).plan.map ConnectPlan.host = some "h" ∧ (g 1).brought = [0x20, 2, 0, 0] ∧
      l.sent = [0x10, 12, 0, 4, 0x4D, 0x51, 0x54, 0x54, 4, 2, 1, 0x90, 0, 0, 0xE0, 0] ∧
      MqttLink.Orderly (g 1) l := by
  let accepts : Line := { answer := .link [.now (.feed [0x20, 2, 0, 0])] }
  let g : Notes := fun _ => {}
  have fresh : conversations.Fresh { script := [accepts, accepts] } g := rfl
  have c : conversations.Course _ g := .new {} fresh
  have c := c.move (m := .connect 0 { host := "h" } none) rfl
  have c := c.move (m := .call 0) trivial
  have c := c.move (m := .outside (Lines.changeLatest (·.perform .finish) _))
    (fair_change fun l _ => l.grows_perform .finish)
  have c := c.move (m := .loop 0) trivial
  have c := c.move (m := .loop 1000) trivial
  have c := c.move (m := .loop 1000) trivial
  have c := c.move (m := .loop 1000) trivial
  have c := c.move (m := .disconnect 1000) (by cbv)
  have c := c.move (m := .call 1000) trivial
  have c := c.move (m := .call 1000) trivial
  let l : Link := {
    accepted := #[0x10, 12, 0, 4, 0x4D, 0x51, 0x54, 0x54, 4, 2, 1, 0x90, 0, 0, 0xE0, 0]
    isShutdown := true }
  exact ⟨_, _, l, c, by cbv, by cbv, by cbv, by cbv, conversations_orderly c (by cbv)⟩

end Lines

end MqttLink
