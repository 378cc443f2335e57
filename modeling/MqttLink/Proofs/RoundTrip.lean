import Mathlib.Algebra.Group.Nat.Defs
import MqttLink.Proofs.Fields

/-!
# A configuration is read back

Main statement: a configuration can be written unless it has a number that no TOML integer can hold, and what is
written is read as the same configuration.
-/

namespace MqttLink

namespace Config

open Toml (Value Statement Tree)

/-! ## The whole configuration -/

theorem mapM_map {α β : Type} {f : α → β} {g : β → Option α} (inverse : ∀ a, g (f a) = some a)
    (as : List α) : (as.map f).mapM g = some as := by
  induction as with
  | nil => rfl
  | cons a as ih =>
    rw [List.map_cons, List.mapM_cons, inverse, ih]
    rfl

theorem subscriptions?_table (ss : List Subscription) :
    subscriptions? (.array (ss.map fun s => .table s.entries.fields)) = some ss := by
  rw [subscriptions?]
  apply mapM_map
  intro s
  rw [Section.bind_table]
  exact Subscription.ofSection?_of_found (Entries.lookup_fields s.keys_nodup)

theorem ofFields?_of_found {c : Config} {fs : List (String × Value)}
    (broker : fs.lookup "mqtt" = some (.table c.broker.entries.fields))
    (session : fs.lookup "session" = some (.table c.session.entries.fields))
    (subscriptions : fs.lookup "subscriptions" =
      some (.array (c.subscriptions.map fun s => .table s.entries.fields))) :
    ofFields? fs = some c := by
  rw [ofFields?, Section.field_eq (a := c.broker) broker, Section.field_eq (a := c.session) session,
    Section.field_eq (a := c.subscriptions) subscriptions]
  · rfl
  · exact subscriptions?_table _
  · rw [Section.bind_table]
    exact Tuning.ofSection?_of_found (Entries.lookup_fields c.session.keys_nodup)
  · rw [Section.bind_table]
    exact Broker.ofSection?_of_found (Entries.lookup_fields c.broker.keys_nodup)

/-! ## The tree -/

/-- The two sections in the tree. -/
def sections (c : Config) : Tree :=
  [("mqtt", .table .header (Tree.ofFields c.broker.entries.fields)),
   ("session", .table .header (Tree.ofFields c.session.entries.fields))]

theorem toFields_sections (c : Config) : Tree.toFields c.sections =
    [("mqtt", .table c.broker.entries.fields),
     ("session", .table c.session.entries.fields)] := by
  simp only [sections, Tree.toFields, Toml.Node.toValue, Tree.toFields_ofFields]

theorem foldlM_sections (c : Config) {t : Tree} (broker : t.lookup "mqtt" = none)
    (session : t.lookup "session" = none) (place : List String) :
    (.table { key := "mqtt" } :: c.broker.statements ++
        .table { key := "session" } :: c.session.statements).foldlM Tree.Growing.step ⟨t, place⟩ =
      some ⟨t ++ c.sections, ["session"]⟩ := by
  have new : (t ++ [("mqtt", Toml.Node.table .header
      (Tree.ofFields c.broker.entries.fields))]).lookup "session" = none := by
    rw [List.lookup_append, session]
    rfl
  rw [List.foldlM_append, c.broker.statements_eq, c.session.statements_eq,
    Tree.foldlM_table broker _ (Entries.nodup_fields c.broker.keys_nodup)]
  change (Statement.table { key := "session" } :: _).foldlM Tree.Growing.step _ = _
  rw [Tree.foldlM_table new _ (Entries.nodup_fields c.session.keys_nodup), List.append_assoc]
  rfl

theorem flatMap_statements (ss : List Subscription) : ss.flatMap Subscription.statements =
    (ss.map fun s => s.entries.fields).flatMap (Statement.ofElement "subscriptions") := by
  rw [List.flatMap_map, funext Subscription.statements_eq]

/-- The tree of a configuration without subscriptions. -/
theorem ofStatements?_of_none {c : Config} (none_ : c.subscriptions = []) :
    Tree.ofStatements? c.statements =
      some (("subscriptions", .value (.array [])) :: c.sections) := by
  have text : c.statements = fieldOf "subscriptions" (.array []) ::
      (.table { key := "mqtt" } :: c.broker.statements ++
        .table { key := "session" } :: c.session.statements) := by
    simp [statements, none_]
  rw [text, Tree.ofStatements?, List.foldlM_cons, fieldOf, Tree.step_root rfl]
  change ((_ ++ _ : List Statement).foldlM Tree.Growing.step _).map _ = _
  rw [foldlM_sections c rfl rfl]
  rfl

theorem ofStatements?_of_some {c : Config} (some_ : c.subscriptions ≠ []) :
    Tree.ofStatements? c.statements =
      some (c.sections ++ [("subscriptions", Tree.nodeOfTables
        (c.subscriptions.map fun s => Tree.ofFields s.entries.fields))]) := by
  have text : c.statements = (.table { key := "mqtt" } :: c.broker.statements ++
        .table { key := "session" } :: c.session.statements) ++
      c.subscriptions.flatMap Subscription.statements := by
    simp [statements, some_]
  have distinct : ∀ fs ∈ c.subscriptions.map fun s => s.entries.fields,
      (fs.map Prod.fst).Nodup := by
    intro fs mem
    obtain ⟨s, -, rfl⟩ := List.mem_map.1 mem
    exact Entries.nodup_fields s.keys_nodup
  rw [text, Tree.ofStatements?, List.foldlM_append, foldlM_sections c rfl rfl, flatMap_statements]
  change (List.foldlM Tree.Growing.step _ _).map _ = _
  rw [Tree.foldlM_elements rfl (by simpa using some_) distinct, List.map_map]
  rfl

theorem ofFields?_statements (c : Config) :
    ((Tree.ofStatements? c.statements).map Tree.toFields).bind ofFields? = some c := by
  by_cases none_ : c.subscriptions = []
  · rw [ofStatements?_of_none none_, Option.map_some, Option.bind_some, Tree.toFields, toFields_sections]
    refine ofFields?_of_found rfl rfl ?_
    rw [none_]
    rfl
  · rw [ofStatements?_of_some none_, Option.map_some, Option.bind_some, Tree.toFields_append,
      toFields_sections, Tree.toFields, Tree.toValue_nodeOfTables (by simpa using none_), List.map_map]
    refine ofFields?_of_found rfl rfl ?_
    simp only [Function.comp_def, Tree.toFields_ofFields]
    rfl

/-! ## What can be written -/

/-- All the numbers in a configuration. -/
def numbers (c : Config) : List Nat :=
  c.broker.numbers ++ c.session.numbers ++ c.subscriptions.map fun s => s.qos.toNat

theorem forall_statements {P : Statement → Prop} {c : Config} : (∀ s ∈ c.statements, P s) ↔
    (c.subscriptions = [] → P (fieldOf "subscriptions" (.array []))) ∧
    (P (.table { key := "mqtt" }) ∧ ∀ f ∈ c.broker.entries.fields, P (.ofField f)) ∧
    (P (.table { key := "session" }) ∧ ∀ f ∈ c.session.entries.fields, P (.ofField f)) ∧
    ∀ s ∈ c.subscriptions,
      P (.element { key := "subscriptions" }) ∧ ∀ f ∈ s.entries.fields, P (.ofField f) := by
  have first : (∀ s ∈ if c.subscriptions.isEmpty then [fieldOf "subscriptions" (.array [])] else [], P s) ↔
      (c.subscriptions = [] → P (fieldOf "subscriptions" (.array []))) := by
    split <;> simp_all
  simp only [statements, Broker.statements_eq, Tuning.statements_eq, flatMap_statements,
    List.cons_append, List.append_assoc, List.forall_mem_append, List.forall_mem_cons, first,
    List.forall_mem_flatMap, List.forall_mem_map, Statement.ofElement, and_assoc]

theorem isWritable_iff (c : Config) : (∀ s ∈ c.statements, isWritable s = true) ↔
    ∀ n ∈ c.numbers, (n : Int) ≤ Toml.largest := by
  rw [forall_statements, c.broker.sound.isWritable_iff, c.session.sound.isWritable_iff]
  simp only [fun s : Subscription => s.sound.isWritable_iff, numbers, List.forall_mem_append,
    List.forall_mem_map, List.forall_mem_singleton, and_assoc]
  constructor
  · rintro ⟨-, -, broker, -, session, subscriptions⟩
    exact ⟨broker, session, fun s mem => (subscriptions s mem).2⟩
  · rintro ⟨broker, session, subscriptions⟩
    exact ⟨fun _ => rfl, rfl, broker, rfl, session, fun s mem => ⟨rfl, subscriptions s mem⟩⟩

theorem simple_statements {c : Config} (fit : ∀ n ∈ c.numbers, (n : Int) ≤ Toml.largest) :
    ∀ s ∈ c.statements, s.Simple := by
  simp only [numbers, List.forall_mem_append, List.forall_mem_map] at fit
  obtain ⟨⟨broker, session⟩, subscriptions⟩ := fit
  have list : Toml.isWord "subscriptions" = true := by decide
  refine forall_statements.2 ⟨fun _ => .assign list .empty, ⟨.table (by decide), ?_⟩,
    ⟨.table (by decide), ?_⟩, fun s mem => ⟨.element list, ?_⟩⟩
  · exact c.broker.sound.simple broker
  · exact c.session.sound.simple session
  · exact s.sound.simple (List.forall_mem_singleton.2 (subscriptions s mem))

/-- What has been written is read as it was. -/
theorem ofToml_write {c : Config} (fit : ∀ n ∈ c.numbers, (n : Int) ≤ Toml.largest) :
    ofToml (String.ofList (Toml.writeStatements c.statements)) = .ok c := by
  rw [ofToml, Toml.document?_write (simple_statements fit), ofFields?_statements]

theorem toToml_eq_ok {c : Config} {text : String} : c.toToml = .ok text ↔
    (∀ n ∈ c.numbers, (n : Int) ≤ Toml.largest) ∧
      String.ofList (Toml.writeStatements c.statements) = text := by
  rw [← isWritable_iff, ← List.all_eq_true, toToml]
  split
  · rename_i all
    rw [Except.ok.injEq, and_iff_right all]
  · rename_i other
    constructor
    · intro fails
      cases fails
    · rintro ⟨all, -⟩
      exact absurd all other

end Config

/-- A configuration is written if and only if each of its numbers is below `2 ^ 63`, and what is written is read as
the same configuration, whatever its texts are and whether its options are there or not. -/
theorem configuration_read_back (c : Config) :
    ((∃ text, c.toToml = .ok text) ↔ ∀ n ∈ c.numbers, n ≤ 2 ^ 63 - 1) ∧
      ∀ text, c.toToml = .ok text → Config.ofToml text = .ok c := by
  have bound : (∀ n ∈ c.numbers, n ≤ 2 ^ 63 - 1) ↔ ∀ n ∈ c.numbers, (n : Int) ≤ Toml.largest :=
    forall₂_congr fun n _ => Int.ofNat_le.symm
  constructor
  · rw [bound]
    constructor
    · rintro ⟨text, ok⟩
      exact (Config.toToml_eq_ok.1 ok).1
    · exact fun fit => ⟨_, Config.toToml_eq_ok.2 ⟨fit, rfl⟩⟩
  · intro text ok
    obtain ⟨fit, rfl⟩ := Config.toToml_eq_ok.1 ok
    exact Config.ofToml_write fit

/-- Texts with quotation marks of both kinds and with control characters, and a buffer of the largest size. With
one byte more nothing is written. -/
theorem configuration_read_back_awkward :
    let c : Config :=
      { broker := { host := some "\"'\\\r\n\x01", passwordVariable := some "", port := some 65535 }
        session := { maxRetries := 0, sendBuffer := 9223372036854775807 }
        subscriptions := [{ topic := "\"\"\"\n'''", qos := 255 }, { topic := "" }] }
    (∃ text, c.toToml = .ok text ∧ Config.ofToml text = .ok c) ∧
      ∀ text, { c with session.sendBuffer := 9223372036854775808 }.toToml ≠ .ok text := by
  intro c
  obtain ⟨written, read⟩ := configuration_read_back c
  obtain ⟨text, ok⟩ := written.2 (by decide)
  refine ⟨⟨text, ok, read text ok⟩, fun text ok => ?_⟩
  exact absurd ((configuration_read_back _).1.1 ⟨text, ok⟩) (by decide)

end MqttLink
