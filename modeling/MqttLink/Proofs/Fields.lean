import Mathlib.Data.List.ReduceOption
import MqttLink.Config.Reader
import MqttLink.Config.Writer
import MqttLink.Proofs.Documents
import MqttLink.Proofs.Sections

/-!
# The fields of a configuration

Each section is a list of fields, some of which may be absent. Main statements: a section is read from any table
where its fields are found, and it can be written if and only if its numbers can.
-/

namespace MqttLink.Config

open Toml (Value Statement)

/-! ## Fields that may be absent -/

/-- The fields of a section in their order, those that are absent among them. -/
abbrev Entries := List (String × Option Value)

namespace Entries

variable {es : Entries}

/-- The fields that are there. -/
def fields (es : Entries) : List (String × Value) := es.filterMap fun e => e.2.map (e.1, ·)

theorem map_ofField (es : Entries) :
    (fields es).map Statement.ofField = (es.map fun e => e.2.map (fieldOf e.1)).reduceOption := by
  induction es with
  | nil => rfl
  | cons e es ih =>
    obtain ⟨key, _ | v⟩ := e
    · exact ih
    · exact congrArg (Statement.ofField (key, v) :: ·) ih

theorem mem_fields {f : String × Value} : f ∈ fields es ↔ (f.1, some f.2) ∈ es := by
  obtain ⟨key, v⟩ := f
  simp only [fields, List.mem_filterMap, Option.map_eq_some_iff, Prod.mk.injEq]
  constructor
  · rintro ⟨⟨_, _⟩, mem, _, rfl, rfl, rfl⟩
    exact mem
  · exact fun mem => ⟨_, mem, _, rfl, rfl, rfl⟩

theorem keys_fields (es : Entries) : ((fields es).map Prod.fst).Sublist (es.map Prod.fst) := by
  induction es with
  | nil => exact .slnil
  | cons e es ih =>
    obtain ⟨key, _ | v⟩ := e
    · exact ih.cons key
    · exact ih.cons_cons key

theorem nodup_fields (distinct : (es.map Prod.fst).Nodup) : ((fields es).map Prod.fst).Nodup :=
  distinct.sublist (keys_fields es)

/-- Each field is found under its key, and nothing under the key of one that is absent. -/
theorem lookup_fields (distinct : (es.map Prod.fst).Nodup) :
    ∀ e ∈ es, (fields es).lookup e.1 = e.2 := by
  induction es with
  | nil => exact fun _ mem => nomatch mem
  | cons first es ih =>
    rw [List.map_cons, List.nodup_cons] at distinct
    rw [List.forall_mem_cons]
    constructor
    · obtain ⟨key, _ | v⟩ := first
      · -- Another field with this key would be a second entry for it.
        refine List.lookup_eq_none_iff.2 fun f found => bne_iff_ne.2 ?_
        rintro rfl
        exact distinct.1 ((keys_fields es).subset (List.mem_map_of_mem found))
      · exact List.lookup_cons_self
    · intro e mem
      have other : (e.1 == first.1) = false :=
        beq_false_of_ne fun same => distinct.1 (same ▸ List.mem_map_of_mem mem)
      rw [← ih distinct.2 e mem]
      obtain ⟨key, _ | v⟩ := first
      · rfl
      · change ((key, v) :: fields es).lookup e.1 = _
        rw [List.lookup_cons, other]

end Entries

/-! ## What is written -/

def Broker.entries (b : Broker) : Entries :=
  [("broker_url", b.url.map .text),
   ("host", b.host.map .text),
   ("port", b.port.map fun p => .integer p.toNat),
   ("client_id", b.clientId.map .text),
   ("username_env", b.usernameVariable.map .text),
   ("password_env", b.passwordVariable.map .text),
   ("keep_alive_secs", some (.integer b.keepAliveSecs.toNat)),
   ("clean_session", some (.boolean b.cleanSession))]

def Tuning.entries (t : Tuning) : Entries :=
  [("max_retries", some (.integer t.maxRetries.toNat)),
   ("base_delay_ms", some (.integer t.baseDelay.toNat)),
   ("max_delay_ms", some (.integer t.maxDelay.toNat)),
   ("connect_timeout_secs", some (.integer t.connectTimeoutSecs.toNat)),
   ("sync_interval_ms", some (.integer t.syncInterval.toNat)),
   ("retry_unknown_errors", some (.boolean t.retryUnknown)),
   ("send_buffer_size", some (.integer t.sendBuffer.toNat)),
   ("recv_buffer_size", some (.integer t.recvBuffer.toNat))]

def Subscription.entries (s : Subscription) : Entries :=
  [("topic", some (.text s.topic)), ("qos", some (.integer s.qos.toNat))]

theorem Broker.statements_eq (b : Broker) :
    b.statements = b.entries.fields.map Statement.ofField := by
  rw [Entries.map_ofField, entries, statements]
  simp only [List.map_cons, Option.map_map]
  -- The last two fields are always there.
  exact (List.reduceOption_append _ [some _, some _]).symm

theorem Tuning.statements_eq (t : Tuning) :
    t.statements = t.entries.fields.map Statement.ofField := rfl

theorem Subscription.statements_eq (s : Subscription) :
    s.statements = Statement.ofElement "subscriptions" s.entries.fields := rfl

theorem Broker.keys_nodup (b : Broker) : (b.entries.map Prod.fst).Nodup := by simp [entries]

theorem Tuning.keys_nodup (t : Tuning) : (t.entries.map Prod.fst).Nodup := by simp [entries]

theorem Subscription.keys_nodup (s : Subscription) : (s.entries.map Prod.fst).Nodup := by
  simp [entries]

/-! ## What is read -/

namespace Section

variable {α : Type} {fs : List (String × Value)} {key : String} {read : Value → Option α}

theorem bind_table (fs : List (String × Value)) (f : Section → Option α) :
    (ofValue? (.table fs)).bind f = f (.byName fs) := rfl

theorem optional_eq {write : α → Value} {a : Option α} (found : fs.lookup key = a.map write)
    (reads : ∀ a, read (write a) = some a) (position : Nat) :
    (byName fs).optional position key read = some a := by
  cases a with
  | none => simp [optional, get?, found]
  | some a => simp [optional, get?, found, reads]

theorem field_eq {v : Value} {a : α} (found : fs.lookup key = some v) (reads : read v = some a)
    (position : Nat) (default : α) : (byName fs).field position key read default = some a := by
  simp only [field, get?, found, reads]

theorem required_eq {v : Value} {a : α} (found : fs.lookup key = some v) (reads : read v = some a)
    (position : Nat) : (byName fs).required position key read = some a := by
  simp only [required, get?, found, Option.bind_some, reads]

end Section

theorem text?_text (s : String) : text? (.text s) = some s := rfl

theorem boolean?_boolean (b : Bool) : boolean? (.boolean b) = some b := rfl

theorem below?_natCast {bound n : Nat} (small : n < bound) : below? bound (.integer n) = some n := by
  have fits : (0 : Int) ≤ n ∧ (n : Int) < bound := by omega
  rw [below?, if_pos fits]
  rfl

theorem uint8?_toNat (n : UInt8) : uint8? (.integer n.toNat) = some n := by
  rw [uint8?, below?_natCast n.toNat_lt]
  simp

theorem uint16?_toNat (n : UInt16) : uint16? (.integer n.toNat) = some n := by
  rw [uint16?, below?_natCast n.toNat_lt]
  simp

theorem uint32?_toNat (n : UInt32) : uint32? (.integer n.toNat) = some n := by
  rw [uint32?, below?_natCast n.toNat_lt]
  simp

theorem uint64?_toNat (n : UInt64) : uint64? (.integer n.toNat) = some n := by
  rw [uint64?, below?_natCast n.toNat_lt]
  simp

theorem Broker.ofSection?_of_found {b : Broker} {fs : List (String × Value)}
    (found : ∀ e ∈ b.entries, fs.lookup e.1 = e.2) : ofSection? (.byName fs) = some b := by
  simp only [entries, List.forall_mem_cons] at found
  obtain ⟨url, host, port, clientId, username, password, keepAlive, clean, -⟩ := found
  rw [ofSection?, Section.optional_eq url text?_text, Section.optional_eq host text?_text,
    Section.optional_eq port uint16?_toNat, Section.optional_eq clientId text?_text,
    Section.optional_eq username text?_text, Section.optional_eq password text?_text,
    Section.field_eq keepAlive (uint16?_toNat _), Section.field_eq clean (boolean?_boolean _)]
  rfl

theorem Tuning.ofSection?_of_found {t : Tuning} {fs : List (String × Value)}
    (found : ∀ e ∈ t.entries, fs.lookup e.1 = e.2) : ofSection? (.byName fs) = some t := by
  simp only [entries, List.forall_mem_cons] at found
  obtain ⟨retries, base, max, timeout, sync, unknown, send, recv, -⟩ := found
  rw [ofSection?, Section.field_eq retries (uint32?_toNat _), Section.field_eq base (uint64?_toNat _),
    Section.field_eq max (uint64?_toNat _), Section.field_eq timeout (uint64?_toNat _),
    Section.field_eq sync (uint64?_toNat _), Section.field_eq unknown (boolean?_boolean _),
    Section.field_eq send (uint64?_toNat _), Section.field_eq recv (uint64?_toNat _)]
  rfl

theorem Subscription.ofSection?_of_found {s : Subscription} {fs : List (String × Value)}
    (found : ∀ e ∈ s.entries, fs.lookup e.1 = e.2) : ofSection? (.byName fs) = some s := by
  simp only [entries, List.forall_mem_cons] at found
  obtain ⟨topic, qos, -⟩ := found
  rw [ofSection?, Section.required_eq topic (text?_text _), Section.field_eq qos (uint8?_toNat _)]
  rfl

/-! ## What can be written -/

def Broker.numbers (b : Broker) : List Nat := (b.port.map UInt16.toNat).toList ++ [b.keepAliveSecs.toNat]

def Tuning.numbers (t : Tuning) : List Nat :=
  [t.maxRetries.toNat, t.baseDelay.toNat, t.maxDelay.toNat, t.connectTimeoutSecs.toNat,
   t.syncInterval.toNat, t.sendBuffer.toNat, t.recvBuffer.toNat]

/-- A value of a field, the numbers of its section being given. -/
inductive Plain (numbers : List Nat) : Value → Prop
  | text (s : String) : Plain numbers (.text s)
  | boolean (b : Bool) : Plain numbers (.boolean b)
  | number {n : Nat} (mem : n ∈ numbers) : Plain numbers (.integer n)

/-- The fields of a section with just these numbers. -/
structure Entries.Sound (numbers : List Nat) (es : Entries) : Prop where
  word : ∀ e ∈ es, Toml.isWord e.1 = true
  plain : ∀ e ∈ es, ∀ v ∈ e.2, Plain numbers v
  number : ∀ n ∈ numbers, ∃ key, (key, some (Value.integer n)) ∈ es

namespace Entries.Sound

variable {es : Entries} {numbers : List Nat}

theorem isWritable_iff (h : Sound numbers es) :
    (∀ f ∈ fields es, isWritable (.ofField f) = true) ↔ ∀ n ∈ numbers, (n : Int) ≤ Toml.largest := by
  constructor
  · intro writable n mem
    obtain ⟨key, mem⟩ := h.number n mem
    exact (of_decide_eq_true (writable (key, .integer n) (mem_fields.2 mem))).2
  · intro fit f mem
    obtain ⟨key, v⟩ := f
    cases h.plain _ (mem_fields.1 mem) v rfl with
    | text | boolean => rfl
    | number given =>
      have low : Toml.smallest ≤ 0 := by decide
      exact decide_eq_true ⟨Int.le_trans low (Int.natCast_nonneg _), fit _ given⟩

theorem simple (h : Sound numbers es) (fit : ∀ n ∈ numbers, (n : Int) ≤ Toml.largest) :
    ∀ f ∈ fields es, (Statement.ofField f).Simple := by
  intro f mem
  refine .assign (h.word _ (mem_fields.1 mem)) ?_
  obtain ⟨key, v⟩ := f
  cases h.plain _ (mem_fields.1 mem) v rfl with
  | text s => exact .text s
  | boolean b => exact .boolean b
  | number given => exact .number (fit _ given)

end Entries.Sound

theorem Broker.sound (b : Broker) : b.entries.Sound b.numbers := by
  have text : ∀ o : Option String, ∀ v ∈ o.map Value.text, Plain b.numbers v := by
    rintro (_ | s) v ⟨⟩
    exact .text s
  have port : ∀ v ∈ b.port.map fun p => Value.integer p.toNat, Plain b.numbers v := by
    intro v mem
    obtain ⟨p, e, rfl⟩ := Option.map_eq_some_iff.1 mem
    exact .number (by simp [numbers, e])
  constructor
  · simp only [entries, List.forall_mem_cons]
    decide
  · simp only [entries, List.forall_mem_cons]
    refine ⟨text _, text _, port, text _, text _, text _, ?_, ?_, fun _ mem => nomatch mem⟩
    · rintro v ⟨⟩
      exact .number (by simp [numbers])
    · rintro v ⟨⟩
      exact .boolean _
  · intro n mem
    simp only [numbers, List.mem_append, List.mem_singleton, Option.mem_toList] at mem
    obtain mem | rfl := mem
    · obtain ⟨p, e, rfl⟩ := Option.map_eq_some_iff.1 mem
      exact ⟨"port", by simp [entries, e]⟩
    · exact ⟨"keep_alive_secs", by simp [entries]⟩

theorem Tuning.sound (t : Tuning) : t.entries.Sound t.numbers := by
  have number : ∀ n ∈ t.numbers, ∀ v ∈ some (Value.integer (n : Nat)), Plain t.numbers v := by
    rintro n mem v ⟨⟩
    exact .number mem
  constructor
  · simp only [entries, List.forall_mem_cons]
    decide
  · simp only [numbers, List.forall_mem_cons] at number
    obtain ⟨retries, base, max, timeout, sync, send, recv, -⟩ := number
    simp only [entries, List.forall_mem_cons]
    refine ⟨retries, base, max, timeout, sync, ?_, send, recv, fun _ mem => nomatch mem⟩
    rintro v ⟨⟩
    exact .boolean _
  · simp only [numbers, List.forall_mem_cons]
    refine ⟨⟨"max_retries", ?_⟩, ⟨"base_delay_ms", ?_⟩, ⟨"max_delay_ms", ?_⟩,
      ⟨"connect_timeout_secs", ?_⟩, ⟨"sync_interval_ms", ?_⟩, ⟨"send_buffer_size", ?_⟩,
      ⟨"recv_buffer_size", ?_⟩, fun _ mem => nomatch mem⟩
    all_goals simp [entries]

theorem Subscription.sound (s : Subscription) : s.entries.Sound [s.qos.toNat] := by
  constructor
  · simp only [entries, List.forall_mem_cons]
    decide
  · simp only [entries, List.forall_mem_cons]
    refine ⟨?_, ?_, fun _ mem => nomatch mem⟩
    · rintro v ⟨⟩
      exact .text _
    · rintro v ⟨⟩
      exact .number List.mem_cons_self
  · intro n mem
    obtain rfl := List.mem_singleton.1 mem
    exact ⟨"qos", by simp [entries]⟩

end MqttLink.Config
