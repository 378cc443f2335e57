import MqttLink.Log.Directive

/-!
# Which entries are kept

A filter is a list of directives. For an entry the one that says most decides, and an entry that none
of them covers is dropped. Main statement: the directive that decides covers the entry, and none that
covers it says more.
-/

namespace MqttLink.Log

abbrev Filter := List Directive

namespace Filter

def upTo (l : Level) : Filter := [{ level := some l }]

/-- Directives between commas. What is none of them is left out, and if nothing remains there are
only errors. -/
def ofText (s : String) : Filter :=
  match (s.splitOn ",").filterMap Directive.ofText? with
  | [] => upTo .error
  | ds => ds

/-- Of two directives that say as much the later counts. -/
def stronger (a b : Directive) : Directive := if a.saysMore b then a else b

/-- The directive that decides about an entry. -/
def decider? (f : Filter) (e : Entry) : Option Directive :=
  match f.filter (·.covers e) with
  | [] => none
  | d :: ds => some (ds.foldl stronger d)

def keeps (f : Filter) (e : Entry) : Bool := (f.decider? e).any (·.keeps e.level)

theorem foldl_stronger (d : Directive) (ds : List Directive) :
    ds.foldl stronger d ∈ d :: ds ∧ ∀ a ∈ d :: ds, ¬ a.saysMore (ds.foldl stronger d) := by
  induction ds generalizing d with
  | nil => simp [Directive.not_saysMore_self]
  | cons b rest ih =>
    obtain ⟨member, greatest⟩ := ih (stronger d b)
    have ofBoth : ∀ a, a = d ∨ a = b → ¬ a.saysMore (stronger d b) := by
      unfold stronger
      split <;> rintro a (rfl | rfl)
      · exact Directive.not_saysMore_self a
      · exact Directive.saysMore_asymm ‹_›
      · assumption
      · exact Directive.not_saysMore_self a
    have isEither : stronger d b = d ∨ stronger d b = b := by unfold stronger; split <;> simp
    constructor
    · rw [List.foldl_cons]
      rcases List.mem_cons.1 member with h | h
      · rw [h]
        rcases isEither with h | h <;> simp [h]
      · exact .tail _ (.tail _ h)
    · intro a ha
      rcases List.mem_cons.1 ha with rfl | ha
      · exact Directive.not_saysMore_trans (ofBoth _ (.inl rfl)) (greatest _ (.head _))
      · rcases List.mem_cons.1 ha with rfl | ha
        · exact Directive.not_saysMore_trans (ofBoth _ (.inr rfl)) (greatest _ (.head _))
        · exact greatest a (.tail _ ha)

/-- The directive that decides covers the entry, and none that covers it says more. -/
theorem decider?_spec {f : Filter} {e : Entry} {d : Directive} (h : f.decider? e = some d) :
    (d ∈ f ∧ d.covers e = true) ∧ ∀ a ∈ f, a.covers e = true → ¬ a.saysMore d := by
  unfold decider? at h
  split at h
  · cases h
  · next first rest found =>
    cases h
    obtain ⟨member, greatest⟩ := foldl_stronger first rest
    rw [← found] at member greatest
    exact ⟨List.mem_filter.1 member, fun a ha hc => greatest a (List.mem_filter.2 ⟨ha, hc⟩)⟩

theorem keeps_upTo (max : Level) (e : Entry) :
    (upTo max).keeps e = decide (e.level.rank ≤ max.rank) := rfl

end Filter

end MqttLink.Log
