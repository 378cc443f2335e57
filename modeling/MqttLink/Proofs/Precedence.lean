import MqttLink.Command.Plan
import MqttLink.Proofs.Requests

/-!
# What counts first

What is given on the command line counts before what a file or the environment says. The one thing that
can be lost is the port: it belongs to a host, and where only a URL tells where the broker is, the port of
the URL counts.
-/

namespace MqttLink

namespace Command

variable {w : World} {i : Invocation} {c : Config}

/-- The configuration before anything counts before it: that of the file, or the default one. -/
def configuration (w : World) (i : Invocation) : Except ConfigError Config :=
  match pathOf w i with
  | some path => Config.read (w.files path)
  | none => .ok {}

theorem load_ok (loaded : load w i = .ok c) : ∃ file, configuration w i = .ok file ∧
    c = i.overrides.apply file ∧ c.validate = .ok () := by
  have step : load w i = (configuration w i).bind fun file =>
      (i.overrides.apply file).validate.bind fun _ => .ok (i.overrides.apply file) := by
    unfold load configuration
    cases pathOf w i <;> rfl
  rw [step] at loaded
  cases read : configuration w i with
  | error e =>
    rw [read] at loaded
    cases loaded
  | ok file =>
    rw [read] at loaded
    cases sound : (i.overrides.apply file).validate with
    | error e =>
      simp only [Except.bind, sound] at loaded
      cases loaded
    | ok _ =>
      simp only [Except.bind, sound] at loaded
      cases loaded
      exact ⟨file, rfl, rfl, sound⟩

end Command

namespace Overrides

variable {e : Environment} {o : Overrides} {c file : Config} {r : ConnectRequest}

theorem request_ok (made : o.request e c = .ok r) : ∃ place, c.endpoint = .ok place ∧
    r.host = place.host ∧ r.port = place.port ∧ r.clientId = c.broker.clientId ∧
      r.username = (o.username <|> c.username e) ∧
      ∀ secret, o.password = some secret → r.password = some secret := by
  unfold request at made
  rw [Config.request_eq] at made
  cases found : c.endpoint with
  | error f =>
    rw [found] at made
    cases made
  | ok place =>
    rw [found] at made
    refine ⟨place, rfl, ?_⟩
    cases given : o.password with
    | some secret =>
      rw [given] at made
      cases made
      exact ⟨rfl, rfl, rfl, rfl, fun _ same => same⟩
    | none =>
      rw [given] at made
      cases required : c.requirePassword e with
      | error f =>
        rw [required] at made
        cases made
      | ok password =>
        rw [required] at made
        cases made
        exact ⟨rfl, rfl, rfl, rfl, nofun⟩

/-- A host that is given is the host that is named. -/
theorem host?_apply (named : o.host ≠ some "") (file : Config) :
    (o.apply file).host? = (o.host <|> file.host?) := by
  unfold Config.host? apply
  cases given : o.host with
  | none => rfl
  | some host =>
    have named' : host ≠ "" := by
      rintro rfl
      exact named given
    simp [named']

/-- Whatever is given is what the request holds. -/
structure Heeded (o : Overrides) (r : ConnectRequest) : Prop where
  host : ∀ host, o.host = some host → r.host = host
  port : ∀ port, o.port = some port → r.port = some (toString port)
  clientId : ∀ id, o.clientId = some id → r.clientId = some id
  username : ∀ user, o.username = some user → r.username = some user
  password : ∀ secret, o.password = some secret → r.password = some secret

/-- Nothing can come between the command line and the request but for the port. -/
theorem heeded_but_port (named : o.host ≠ some "") (made : o.request e (o.apply file) = .ok r) :
    o.Heeded { r with port := o.port.map toString } := by
  obtain ⟨place, found, host, -, clientId, username, password⟩ := request_ok made
  have own := host?_apply named file
  constructor
  case host =>
    intro flag given
    rw [given] at own
    exact host.trans (congrArg Endpoint.host ((Config.tells_of_endpoint found).of_named own))
  case port =>
    intro port given
    simp only [given, Option.map_some]
  case clientId =>
    intro id given
    refine clientId.trans ?_
    rw [apply, given]
    rfl
  case username =>
    intro user given
    refine username.trans ?_
    rw [given]
    rfl
  case password => exact password

/-- Where the port of a request comes from. -/
theorem port_of_request (named : o.host ≠ some "") (made : o.request e (o.apply file) = .ok r) :
    ((o.host.isSome ∨ file.host?.isSome) ∧ r.port = (o.port <|> file.broker.port).map toString) ∨
      (o.host = none ∧ file.host? = none ∧ ∃ url place, file.broker.url = some url ∧
        Endpoint.ofText url = .ok place ∧ r.port = place.port) := by
  obtain ⟨place, found, -, port, -⟩ := request_ok made
  have tells := Config.tells_of_endpoint found
  have own := host?_apply named file
  cases tells with
  | @host host named' =>
    left
    refine ⟨?_, port⟩
    rw [named'] at own
    cases flag : o.host with
    | some _ => exact .inl rfl
    | none =>
      right
      rw [flag] at own
      rw [show file.host? = some host from own.symm]
      rfl
  | url unnamed given read =>
    right
    rw [unnamed] at own
    cases flag : o.host with
    | some _ =>
      rw [flag] at own
      cases own
    | none =>
      rw [flag] at own
      exact ⟨rfl, own.symm, _, _, given, read, port⟩

end Overrides

/-- Whatever is given on the command line is what the request holds, but for a port where no host is named,
neither there nor in the file: that gives way to the port of the URL. -/
theorem heeded_iff_port_belongs {w : World} {i : Invocation} {c : Config} {r : ConnectRequest}
    (named : i.overrides.host ≠ some "") (loaded : Command.load w i = .ok c)
    (made : i.overrides.request w.environment c = .ok r) :
    ∃ file, Command.configuration w i = .ok file ∧
      (i.overrides.Heeded { r with port := i.overrides.port.map toString }) ∧
      (i.overrides.Heeded r ↔ ∀ port, i.overrides.port = some port →
        (i.overrides.host.isSome ∨ file.host?.isSome) ∨ ∃ url place, file.broker.url = some url ∧
          Endpoint.ofText url = .ok place ∧ place.port = some (toString port)) := by
  obtain ⟨file, read, rfl, -⟩ := Command.load_ok loaded
  have origin := Overrides.port_of_request named made
  have others := Overrides.heeded_but_port named made
  refine ⟨file, read, others, ?_, ?_⟩
  · intro heeded port given
    rcases origin with ⟨host, -⟩ | ⟨-, -, url, place, has, read', same⟩
    · exact .inl host
    · exact .inr ⟨url, place, has, read', same ▸ heeded.port port given⟩
  · intro belongs
    refine { others with port := ?_ }
    intro port given
    rcases origin with ⟨-, same⟩ | ⟨noFlag, noHost, url, place, has, read', same⟩
    · rw [same, given]
      rfl
    · rcases belongs port given with host | ⟨url', place', has', read'', same'⟩
      · simp [noFlag, noHost] at host
      · -- There is only one URL.
        rw [has, Option.some.injEq] at has'
        subst has'
        rw [read', Except.ok.injEq] at read''
        rw [same, read'', same']

/-- A port that is given alone is lost to the one of a URL. With a host it is heeded. -/
theorem heeded_iff_port_belongs_url :
    let url : Config := { broker := { url := some "mqtt://b:1" } }
    let w : World := { files := fun _ => .ok (Bytes.ofText "[mqtt]\nbroker_url = 'mqtt://b:1'\n") }
    let alone : Invocation :=
      { configPath := some "c", overrides := { port := some 2 }, task := .config false }
    let paired : Invocation := { alone with overrides := { host := some "h", port := some 2 } }
    (Command.load w alone = .ok (alone.overrides.apply url) ∧ ∃ r,
        alone.overrides.request {} (alone.overrides.apply url) = .ok r ∧ ¬ alone.overrides.Heeded r) ∧
      Command.load w paired = .ok (paired.overrides.apply url) ∧ ∃ r,
        paired.overrides.request {} (paired.overrides.apply url) = .ok r ∧
          paired.overrides.Heeded r := by
  intro url w alone paired
  have loaded : Command.load w alone = .ok (alone.overrides.apply url) := by decide +kernel
  have loaded' : Command.load w paired = .ok (paired.overrides.apply url) := by decide +kernel
  have made : alone.overrides.request {} (alone.overrides.apply url) =
      .ok { host := "b", port := some "1" } := by cbv
  have made' : paired.overrides.request {} (paired.overrides.apply url) =
      .ok { host := "h", port := some "2" } := by cbv
  have place : Endpoint.ofText "mqtt://b:1" = .ok { host := "b", port := some "1" } := by cbv
  obtain ⟨file, read, -, lost⟩ := heeded_iff_port_belongs (by decide) loaded made
  obtain ⟨file', -, -, kept⟩ := heeded_iff_port_belongs (by decide) loaded' made'
  obtain rfl : url = file := Except.ok.inj <| (by decide +kernel :
    Command.configuration w alone = .ok url).symm.trans read
  refine ⟨⟨loaded, _, made, fun heeded => ?_⟩, loaded', _, made', kept.2 fun _ _ => .inl (.inl rfl)⟩
  rcases lost.1 heeded 2 rfl with named | ⟨_, _, has, found, port⟩
  · exact absurd named (by decide)
  · cases has
    cases place.symm.trans found
    exact absurd port (by decide)

end MqttLink
