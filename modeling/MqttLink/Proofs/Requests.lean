import Mathlib
import MqttLink.Config.Resolve
import MqttLink.Session.Call

/-!
# Configurations that can be connected with

A configuration is checked when it is loaded, and the request that is made of it is checked again when a
session connects. The checks agree but for one thing: a host of nothing but blanks is found only by the
second one. The host of a URL is never blank.
-/

namespace MqttLink

/-! ## Texts that are not blank -/

namespace Text

/-- One character that is not blank is enough. -/
theorem allBlank_of_mem {s : String} {c : Char} (mem : c ∈ s.toList) (sound : isBlank c = false) :
    allBlank s = false := by
  unfold allBlank
  rw [List.all_eq_false]
  exact ⟨c, mem, by simp [sound]⟩

theorem isBlank_of_isPlain {c : Char} (plain : isPlain c = true) (other : c ≠ ' ') :
    isBlank c = false := by
  have notSpace : c.toNat ≠ 0x20 := fun same => other (Char.toNat_inj.1 same)
  simp only [isPlain, Bool.and_eq_true, decide_eq_true_eq] at plain
  simp only [isBlank, Bool.or_eq_false_iff, Bool.and_eq_false_iff, decide_eq_false_iff_not,
    beq_eq_false_iff_ne, ne_eq]
  omega

/-- Every character but a space leaves something to be seen. -/
theorem exists_mem_percentChar {c : Char} (other : c ≠ ' ') :
    ∃ d ∈ percentChar c, isBlank d = false := by
  unfold percentChar
  split
  · rename_i plain
    exact ⟨c, List.mem_singleton_self c, isBlank_of_isPlain plain other⟩
  · have size : (Bytes.ofText c.toString).length = c.utf8Size := by
      rw [Bytes.length_ofText, Char.toString, String.utf8ByteSize_singleton]
    obtain ⟨b, rest, bytes⟩ := List.exists_cons_of_length_pos (size ▸ c.utf8Size_pos)
    refine ⟨'%', List.mem_flatMap.2 ⟨b, ?_, ?_⟩, rfl⟩
    · rw [bytes]
      exact List.mem_cons_self
    · simp [percentByte]

theorem exists_mem_percentEncode {cs : List Char} (some_ : cs ≠ []) (unspaced : ' ' ∉ cs) :
    ∃ d ∈ percentEncode cs, isBlank d = false := by
  obtain ⟨c, rest, rfl⟩ := List.exists_cons_of_ne_nil some_
  have other : c ≠ ' ' := by
    rintro rfl
    exact unspaced List.mem_cons_self
  obtain ⟨d, mem, sound⟩ := exists_mem_percentChar other
  exact ⟨d, List.mem_flatMap.2 ⟨c, List.mem_cons_self, mem⟩, sound⟩

end Text

/-! ## Hosts of URLs -/

/-- Two groups or more have a colon between them. -/
theorem Ipv6.colon_mem_joined {gs : List UInt16} (more : 2 ≤ gs.length) : ':' ∈ (joined gs).toList := by
  match gs with
  | [] | [_] => simp at more
  | g :: h :: rest =>
    unfold joined
    rw [String.toList_intercalate, List.map_cons, List.map_cons, List.map_cons, List.map_cons,
      List.intercalate_cons_cons]
    simp

theorem Ipv6.colon_mem_text (a : Ipv6) : ':' ∈ a.text.toList := by
  have more : 2 ≤ a.groups.length := by
    rw [a.length_groups]
    decide
  unfold text
  split
  · simp
  · dsimp only
    split
    · simp
    · exact colon_mem_joined more

namespace Host

variable {cs : List Char} {host : Host}

theorem text_of_opaqueOf (some_ : cs ≠ []) (read : opaqueOf cs = .ok host) :
    Text.allBlank host.text = false := by
  cases host with
  | ipv6 a => exact Text.allBlank_of_mem a.colon_mem_text rfl
  | name s =>
    unfold opaqueOf at read
    split at read
    · rename_i result inside
      subst result
      unfold bracketed? at inside
      split at inside
      · simp only [Option.some.injEq] at inside
        split at inside <;> cases inside
      · cases inside
    · split at read
      · cases read
      · rename_i allowed
        cases read
        have unspaced : ' ' ∉ cs := by
          intro mem
          apply allowed
          exact List.any_eq_true.2 ⟨' ', mem, by decide⟩
        obtain ⟨d, mem, sound⟩ := Text.exists_mem_percentEncode some_ unspaced
        apply Text.allBlank_of_mem _ sound
        simpa [text] using mem

end Host

namespace Url

variable {u : Url} {host : Host}

/-- A host is read as the kind of the scheme asks for, and one that is not written is none. -/
theorem ofAuthority_ok {scheme : String} {kind : Kind} {cs : List Char}
    (read : ofAuthority scheme kind cs = .ok u) : ∃ written host,
      (if kind = .other then Host.opaqueOf written else Host.domainOf written) = .ok host ∧
        u.scheme = scheme ∧ u.host = if written = [] then none else some host := by
  simp only [ofAuthority, bind, Except.bind, pure, Except.pure, throw, throwThe,
    MonadExceptOf.throw] at read
  -- Every way out but the last one is an error.
  split at read
  · cases read
  · split at read
    · cases read
    · split at read
      all_goals
        rename_i other
        split at read
        · cases read
        · rename_i host opened
          split at read
          · cases read
          · split at read
            · cases read
            · split at read
              · cases read
              · cases read
                exact ⟨_, host, by simpa [other] using opened, rfl, rfl⟩

theorem scheme_of_ofFile {scheme : String} {cs : List Char} (read : ofFile scheme cs = .ok u) :
    u.scheme = scheme := by
  unfold ofFile at read
  split at read
  · split at read
    · dsimp only at read
      split at read
      · cases read
        rfl
      · rename_i a b rest _ _
        cases opened : Host.domainOf (rest.takeWhile (!Kind.file.endsAuthority ·)) with
        | error e =>
          rw [opened] at read
          cases read
        | ok host =>
          rw [opened] at read
          cases read
          rfl
    · cases read
      rfl
  · cases read
    rfl

/-- Where the scheme is none of the web, a host is one that was written out. -/
theorem opaqueOf_of_ofText {s : String} (read : ofText s = .ok u) (other : Kind.ofScheme u.scheme = .other)
    (has : u.host = some host) : ∃ written, written ≠ [] ∧ Host.opaqueOf written = .ok host := by
  unfold ofText at read
  split at read
  · cases read
  · split at read
    · rename_i file _
      rw [scheme_of_ofFile read, file] at other
      cases other
    · rename_i web _
      obtain ⟨-, -, -, same, -⟩ := ofAuthority_ok read
      rw [same, web] at other
      cases other
    · obtain ⟨written, host', opened, -, same⟩ := ofAuthority_ok read
      rw [same] at has
      split at has
      · cases has
      · rename_i some_
        cases has
        exact ⟨written, some_, by simpa using opened⟩
    · cases read
      cases has

end Url

/-- The host of a broker's URL can be seen, and its port is a number. -/
theorem Endpoint.ofText_ok {url : String} {place : Endpoint} (read : ofText url = .ok place) :
    Text.allBlank place.host = false ∧ ∃ port : Option UInt16, place.port = port.map toString := by
  unfold ofText at read
  split at read
  · cases read
  · rename_i u found
    unfold ofUrl at read
    split at read
    · rename_i scheme
      have other : Url.Kind.ofScheme u.scheme = .other := by
        rcases scheme with same | same <;> rw [same] <;> rfl
      split at read
      · cases read
      · rename_i host has
        cases read
        obtain ⟨written, some_, opened⟩ := Url.opaqueOf_of_ofText found other has
        exact ⟨Host.text_of_opaqueOf some_ opened, u.port, rfl⟩
    · split at read <;> cases read

/-! ## Where the broker is -/

namespace Config

variable {c : Config} {place : Endpoint}

/-- The host that is named, if any is. -/
def host? (c : Config) : Option String := c.broker.host.filter (· ≠ "")

/-- The two ways in which a configuration can tell where the broker is. -/
inductive Tells (c : Config) : Endpoint → Prop
  | host {host : String} (named : c.host? = some host) :
      Tells c { host, port := c.broker.port.map toString }
  | url {url : String} {place : Endpoint} (unnamed : c.host? = none) (given : c.broker.url = some url)
      (read : Endpoint.ofText url = .ok place) : Tells c place

theorem tells_of_endpoint (found : c.endpoint = .ok place) : c.Tells place := by
  unfold endpoint at found
  split at found
  · rename_i host _ named
    cases found
    exact .host named
  · cases found
  · rename_i url unnamed given
    cases read : Endpoint.ofText url with
    | error e =>
      rw [read] at found
      cases found
    | ok place' =>
      rw [read] at found
      cases found
      exact .url unnamed given read

theorem Tells.of_named {host : String} (tells : c.Tells place) (named : c.host? = some host) :
    place = { host, port := c.broker.port.map toString } := by
  cases tells with
  | host named' =>
    rw [named, Option.some.injEq] at named'
    rw [named']
  | url unnamed given read =>
    rw [unnamed] at named
    cases named

/-- Only a host that is named can be blank. -/
theorem Tells.allBlank (tells : c.Tells place) :
    Text.allBlank place.host = c.host?.any Text.allBlank := by
  cases tells with
  | host named =>
    rw [named]
    rfl
  | url unnamed given read =>
    rw [unnamed, (Endpoint.ofText_ok read).1]
    rfl

theorem Tells.port (tells : c.Tells place) : place.port ≠ some "" := by
  have number : ∃ port : Option UInt16, place.port = port.map toString := by
    cases tells with
    | host named => exact ⟨c.broker.port, rfl⟩
    | url unnamed given read => exact (Endpoint.ofText_ok read).2
  obtain ⟨port, same⟩ := number
  cases port with
  | none => simp [same]
  | some n =>
    rw [same, Option.map_some, ne_eq, Option.some.injEq]
    exact Nat.repr_ne_empty

/-! ## The two checks -/

/-- The request to a broker that is there. -/
def requestTo (e : Environment) (c : Config) (place : Endpoint) : ConnectRequest where
  host := place.host
  port := place.port
  clientId := c.broker.clientId
  username := c.username e
  password := c.password e
  keepAliveSecs := c.broker.keepAliveSecs
  cleanSession := c.broker.cleanSession

theorem request_eq (e : Environment) (c : Config) : c.request e = c.endpoint.map (c.requestTo e) := rfl

theorem validate_ok (valid : c.validate = .ok ()) :
    (∃ place, c.endpoint = .ok place) ∧ c.settings.validate = .ok () := by
  unfold validate at valid
  cases found : c.endpoint with
  | error e =>
    rw [found] at valid
    cases valid
  | ok place =>
    rw [found] at valid
    cases sound : c.settings.validate with
    | error e =>
      rw [sound] at valid
      cases valid
    | ok _ => exact ⟨⟨place, rfl⟩, rfl⟩

end Config

theorem ConnectRequest.validate_eq (r : ConnectRequest) : r.validate =
    if Text.allBlank r.host then .error (.invalidConfig "host is required")
    else if r.port = some "" then .error (.invalidConfig "port cannot be empty") else .ok () := by
  unfold validate
  split
  · rfl
  · split <;> rfl

namespace Session

variable {ω κ δ φ : Type} (b : Backend ω κ δ φ)

/-- A request that passes its check is not refused. -/
theorem result?_connect {r : ConnectRequest} (valid : r.validate = .ok ()) (now : Nat)
    (handler : Option Handler) (x : Session ω κ δ φ) :
    (x.connect b now r handler).result? = none := by
  unfold connect
  rw [valid]
  dsimp only [tearDown]
  split <;> rfl

end Session

/-- A configuration that is valid makes a request, with settings that work. The request is refused when a
session connects just if the host is blank without being empty. -/
theorem refused_iff_host_blank {c : Config} (valid : c.validate = .ok ()) (e : Environment) :
    c.settings.validate = .ok () ∧ ∃ r, c.request e = .ok r ∧
      (r.validate = if c.host?.any Text.allBlank then .error (.invalidConfig "host is required")
        else .ok ()) ∧
      ∀ {ω κ δ φ : Type} (b : Backend ω κ δ φ) (now : Nat) (handler : Option Handler)
        (x : Session ω κ δ φ), (x.connect b now r handler).result? =
          if c.host?.any Text.allBlank then some (.error (.invalidConfig "host is required"))
          else none := by
  obtain ⟨⟨place, found⟩, sound⟩ := Config.validate_ok valid
  have tells := Config.tells_of_endpoint found
  have checked : (c.requestTo e place).validate =
      if c.host?.any Text.allBlank then .error (.invalidConfig "host is required") else .ok () := by
    rw [ConnectRequest.validate_eq, ← tells.allBlank]
    exact if_congr Iff.rfl rfl (if_neg tells.port)
  refine ⟨sound, c.requestTo e place, ?_, checked, ?_⟩
  · rw [Config.request_eq, found]
    rfl
  · intro ω κ δ φ b now handler x
    split
    · rename_i blank
      rw [if_pos blank] at checked
      rw [Session.connect, checked]
      rfl
    · rename_i seen
      rw [if_neg seen] at checked
      exact Session.result?_connect b checked now handler x

/-- A blank host is valid in a configuration, and so is one that a URL names. -/
theorem refused_iff_host_blank_space :
    let blank : Config := { broker := { host := some " ", url := some "mqtt://b" } }
    let named : Config := { broker := { host := some "", url := some "mqtt://b:1884" } }
    blank.validate = .ok () ∧ named.validate = .ok () ∧
      (∃ r, blank.request {} = .ok r ∧ r.validate = .error (.invalidConfig "host is required")) ∧
      ∃ r, named.request {} = .ok r ∧ r.validate = .ok () := by
  intro blank named
  have blankValid : blank.validate = .ok () := by cbv
  have namedValid : named.validate = .ok () := by cbv
  obtain ⟨-, r, made, refused, -⟩ := refused_iff_host_blank blankValid {}
  obtain ⟨-, r', made', accepted, -⟩ := refused_iff_host_blank namedValid {}
  exact ⟨blankValid, namedValid, ⟨r, made, refused⟩, r', made', accepted⟩

end MqttLink
