import Mathlib.Data.List.Infix
import MqttLink.Toml.Quoting

/-!
# Quoted texts are read back

Main statement: every text, whatever it holds, is read back from what it was quoted as, in the form that was
chosen for it, if no further mark follows.
-/

namespace MqttLink.Toml

/-! ## What forms have to watch for -/

theorem printable_of_not_needsSpelling {c : Char} (h : needsSpelling c = false) :
    c = '\n' ∨ isPrintable c = true := by
  by_cases newline : c = '\n'
  · exact .inl newline
  by_cases tab : c = '\t'
  · exact .inr (by simp [isPrintable, tab])
  have plain : 0x20 ≤ c.toNat ∧ ¬ c.toNat = 0x7F := by
    simpa [needsSpelling, isControl, tab, newline] using h
  exact .inr (by simp [isPrintable, plain])

theorem ne_of_isPrintable {c : Char} (h : isPrintable c = true) : c ≠ '\n' ∧ c ≠ '\r' := by
  constructor
  all_goals
    rintro rfl
    simp [isPrintable] at h

/-- So many marks at the front are seen, together with those just before. -/
theorem hasRunFrom_of_isPrefix {mark : Char} {count k seen : Nat} {cs : List Char}
    (front : List.replicate k mark <+: cs) (enough : count ≤ seen + k) :
    hasRunFrom mark count seen cs = true := by
  induction cs generalizing k seen with
  | nil =>
    have none_ : k = 0 := by simpa using front
    simpa [hasRunFrom, none_] using enough
  | cons c cs ih =>
    rw [hasRunFrom, Bool.or_eq_true, decide_eq_true_eq]
    cases k with
    | zero => exact .inl enough
    | succ k =>
      rw [List.replicate_succ, List.cons_prefix_cons] at front
      obtain ⟨rfl, front⟩ := front
      rw [if_pos rfl]
      exact .inr (ih front (by omega))

theorem hasRun_of_isInfix {mark : Char} {count : Nat} {cs : List Char}
    (run : List.replicate count mark <:+: cs) : hasRun mark count cs = true := by
  have all : ∀ seen, hasRunFrom mark count seen cs = true := by
    intro seen
    induction cs generalizing seen with
    | nil =>
      have front : List.replicate count mark <+: [] := by rw [List.infix_nil.1 run]
      exact hasRunFrom_of_isPrefix front (Nat.le_add_left ..)
    | cons c cs ih =>
      rcases List.infix_cons_iff.1 run with front | later
      · exact hasRunFrom_of_isPrefix front (Nat.le_add_left ..)
      · rw [hasRunFrom, ih later, Bool.or_true]
  exact all 0

/-! ## What stands for itself -/

theorem takeMultiBasic?_cons {c : Char} {rest : List Char} (held : c = '\n' ∨ isPrintable c = true)
    (escape : c ≠ '\\') (marks : c = '"' → ∀ more, rest ≠ '"' :: '"' :: more) :
    takeMultiBasic? (c :: rest) = consTo c (takeMultiBasic? rest) := by
  rw [takeMultiBasic?.eq_5, if_pos (by simpa using held)]
  · exact fun more e => marks e more
  · exact escape
  · rintro _ rfl
    exact absurd rfl (ne_of_isPrintable (held.resolve_left (by decide))).2

theorem takeMultiLiteral?_cons {c : Char} {rest : List Char} (held : c = '\n' ∨ isPrintable c = true)
    (marks : c = '\'' → ∀ more, rest ≠ '\'' :: '\'' :: more) :
    takeMultiLiteral? (c :: rest) = consTo c (takeMultiLiteral? rest) := by
  rw [takeMultiLiteral?.eq_4, if_pos (by simpa using held)]
  · exact fun more e => marks e more
  · rintro _ rfl
    exact absurd rfl (ne_of_isPrintable (held.resolve_left (by decide))).2

/-! ## Escapes -/

theorem charOfHex?_upperHex {n : Nat} (h : n < 128) :
    charOfHex? (upperHex 4 n) = some (Char.ofNat n) := by
  have all : ∀ m : Fin 128, charOfHex? (upperHex 4 m) = some (Char.ofNat m) := by decide
  exact all ⟨n, h⟩

/-- What stands for a character between quotation marks: the character, or an escape that no line end
can be taken for. -/
inductive Stands (c : Char) : List Char → Prop
  | plain (mark : c ≠ '"') (escape : c ≠ '\\') (printable : isPrintable c = true) : Stands c [c]
  | escape {tail : List Char} (reads : ∀ rest, takeEscape? (tail ++ rest) = some (c, rest))
      (unfolded : ∀ rest, takeFold? (tail ++ rest) = none) : Stands c ('\\' :: tail)

theorem stands_escaped {c : Char} (mark : c ≠ '"') (newline : c ≠ '\n') : Stands c (escaped c) := by
  unfold escaped
  split
  any_goals exact .escape (fun _ => rfl) (fun _ => rfl)
  rename_i escape
  cases spelled : needsSpelling c with
  | true =>
    have ascii : c.toNat < 128 := by
      simp [needsSpelling, isControl] at spelled
      omega
    refine .escape (fun rest => ?_) (fun _ => rfl)
    have read := charOfHex?_upperHex ascii
    rw [Char.ofNat_toNat] at read
    change (charOfHex? (upperHex 4 c.toNat)).map (·, rest) = _
    rw [read]
    rfl
  | false => exact .plain mark escape ((printable_of_not_needsSpelling spelled).resolve_left newline)

theorem stands_basicChar (c : Char) : Stands c (basicChar c) := by
  unfold basicChar
  split
  · exact .escape (fun _ => rfl) (fun _ => rfl)
  · exact .escape (fun _ => rfl) (fun _ => rfl)
  · rename_i mark newline
    exact stands_escaped mark newline

namespace Stands

variable {c : Char} {form : List Char}

theorem takeBasic? (h : Stands c form) (rest : List Char) :
    Toml.takeBasic? (form ++ rest) = consTo c (Toml.takeBasic? rest) := by
  cases h with
  | plain mark escape printable =>
    rw [List.singleton_append, Toml.takeBasic?.eq_4 _ _ mark escape, if_pos printable]
  | escape reads => rw [List.cons_append, Toml.takeBasic?.eq_3, reads]

theorem takeMultiBasic? (h : Stands c form) (rest : List Char) :
    Toml.takeMultiBasic? (form ++ rest) = consTo c (Toml.takeMultiBasic? rest) := by
  cases h with
  | plain mark escape printable =>
    exact takeMultiBasic?_cons (.inr printable) escape fun e => absurd e mark
  | escape reads unfolded => rw [List.cons_append, Toml.takeMultiBasic?.eq_3, unfolded, reads]

/-- It can be taken neither for a mark nor for a line end. -/
theorem head (h : Stands c form) :
    ∃ d tail, form = d :: tail ∧ d ≠ '"' ∧ d ≠ '\n' ∧ d ≠ '\r' := by
  cases h with
  | plain mark escape printable => exact ⟨c, [], rfl, mark, ne_of_isPrintable printable⟩
  | @escape tail => exact ⟨'\\', tail, rfl, by decide⟩

end Stands

/-! ## On one line -/

theorem takeBasic?_flatMap (cs rest : List Char) :
    takeBasic? (cs.flatMap basicChar ++ '"' :: rest) = some (cs, rest) := by
  induction cs with
  | nil => exact takeBasic?.eq_2 rest
  | cons c cs ih =>
    rw [List.flatMap_cons, List.append_assoc, (stands_basicChar c).takeBasic?, ih]
    rfl

theorem takeLiteral?_append {cs : List Char} (holds : ∀ c ∈ cs, isPrintable c = true ∧ c ≠ '\'')
    (rest : List Char) : takeLiteral? (cs ++ '\'' :: rest) = some (cs, rest) := by
  induction cs with
  | nil => rfl
  | cons c cs ih =>
    obtain ⟨⟨printable, mark⟩, holds⟩ := List.forall_mem_cons.1 holds
    rw [List.cons_append, takeLiteral?.eq_3 _ _ mark, if_pos printable, ih holds]
    rfl

/-! ## On several lines -/

/-- Up to two marks before the closing ones belong to the text. -/
theorem takeClosing_replicate {mark : Char} {k : Nat} (few : k ≤ 2) {rest : List Char}
    (apart : rest.head? ≠ some mark) :
    takeClosing mark (List.replicate k mark ++ rest) = (List.replicate k mark, rest) := by
  have alone : ∀ a tail, rest = a :: tail → a ≠ mark := by
    rintro a tail rfl rfl
    exact apart rfl
  match k, few with
  | 0, _ =>
    rcases rest with _ | ⟨a, _ | ⟨b, rest⟩⟩
    · rfl
    · simp [takeClosing, alone a [] rfl]
    · simp [takeClosing, alone a (b :: rest) rfl]
  | 1, _ =>
    rcases rest with _ | ⟨a, rest⟩
    · simp [takeClosing]
    · simp [takeClosing, alone a rest rfl]
  | 2, _ => simp [takeClosing]

/-- The end of a text, for a reader that stops at three marks. -/
theorem of_closes {read : Reader (List Char)} {mark : Char}
    (closes : ∀ rest, read (mark :: mark :: mark :: rest) = some (takeClosing mark rest)) {k : Nat}
    (few : k ≤ 2) {rest : List Char} (apart : rest.head? ≠ some mark) :
    read (List.replicate k mark ++ mark :: mark :: mark :: rest) =
      some (List.replicate k mark, rest) := by
  have moved : List.replicate k mark ++ mark :: mark :: mark :: rest =
      mark :: mark :: mark :: (List.replicate k mark ++ rest) := by
    match k, few with
    | 0, _ | 1, _ | 2, _ => rfl
  rw [moved, closes, takeClosing_replicate few apart]

/-- A mark is escaped behind two others, and nothing else looks like one. -/
theorem head?_body {seen : Nat} {c : Char} (h : 2 ≤ seen ∨ c ≠ '"') (cs tail : List Char) :
    (multiBasicBody seen (c :: cs) ++ tail).head? ≠ some '"' := by
  by_cases mark : c = '"'
  · subst mark
    rw [multiBasicBody.eq_2, if_pos (h.resolve_right (· rfl))]
    simp
  · rw [multiBasicBody.eq_3 _ _ _ mark]
    by_cases newline : c = '\n'
    · subst newline
      simp [escaped, needsSpelling]
    · obtain ⟨d, form, e, other, -⟩ := (stands_escaped mark newline).head
      simp [e, other]

/-- Behind a mark that stands as it is, only the end of the text begins with two marks. -/
theorem body_ne_marks {seen : Nat} {cs : List Char} (inside : 1 ≤ seen) (some_ : cs ≠ [])
    (one : seen = 1 → cs ≠ ['"']) (tail rest : List Char) :
    multiBasicBody seen cs ++ tail ≠ '"' :: '"' :: rest := by
  intro same
  obtain ⟨c, cs, rfl⟩ := List.exists_cons_of_ne_nil some_
  by_cases other : 2 ≤ seen ∨ c ≠ '"'
  · exact head?_body other cs tail (by rw [same, List.head?_cons])
  · obtain ⟨first, rfl⟩ : seen = 1 ∧ c = '"' := by
      rw [not_or, not_not] at other
      exact ⟨by omega, other.2⟩
    subst first
    have more : cs ≠ [] := fun empty => one rfl (by rw [empty])
    obtain ⟨d, cs, rfl⟩ := List.exists_cons_of_ne_nil more
    rw [multiBasicBody.eq_2, if_neg (by decide), List.cons_append] at same
    exact head?_body (.inl (Nat.le_refl 2)) cs tail (by rw [(List.cons.inj same).2, List.head?_cons])

theorem takeMultiBasic?_body (seen : Nat) (cs : List Char) {rest : List Char}
    (apart : rest.head? ≠ some '"') :
    takeMultiBasic? (multiBasicBody seen cs ++ '"' :: '"' :: '"' :: rest) = some (cs, rest) := by
  have ends : ∀ k ≤ 2, takeMultiBasic? (List.replicate k '"' ++ '"' :: '"' :: '"' :: rest) =
      some (List.replicate k '"', rest) :=
    fun _ few => of_closes takeMultiBasic?.eq_2 few apart
  induction cs generalizing seen with
  | nil => exact ends 0 (by decide)
  | cons c cs ih =>
    by_cases mark : c = '"'
    · subst mark
      rw [multiBasicBody.eq_2]
      split
      · rw [List.cons_append, List.cons_append, takeMultiBasic?.eq_3]
        change consTo '"' (takeMultiBasic? _) = _
        rw [ih]
        rfl
      · -- A mark as it is. Up to two at the end are read together with the closing ones.
        rename_i seldom
        by_cases last : cs = []
        · subst last
          exact ends 1 (by decide)
        by_cases two : seen = 0 ∧ cs = ['"']
        · obtain ⟨rfl, rfl⟩ := two
          exact ends 2 (by decide)
        · have within := body_ne_marks (Nat.le_add_left 1 seen) last
            (fun first both => two ⟨by omega, both⟩) ('"' :: '"' :: '"' :: rest)
          rw [List.cons_append, takeMultiBasic?_cons (.inr rfl) (by decide) fun _ => within, ih]
          rfl
    · rw [multiBasicBody.eq_3 _ _ _ mark, List.append_assoc]
      by_cases newline : c = '\n'
      · subst newline
        change takeMultiBasic? ('\n' :: (multiBasicBody 0 cs ++ '"' :: '"' :: '"' :: rest)) = _
        rw [takeMultiBasic?_cons (.inl rfl) (by decide) fun e => absurd e (by decide), ih]
        rfl
      · rw [(stands_escaped mark newline).takeMultiBasic?, ih]
        rfl

theorem takeMultiLiteral?_append {cs : List Char} (holds : ∀ c ∈ cs, c = '\n' ∨ isPrintable c = true)
    (run : ¬ List.replicate 3 '\'' <:+: cs) {rest : List Char} (apart : rest.head? ≠ some '\'') :
    takeMultiLiteral? (cs ++ '\'' :: '\'' :: '\'' :: rest) = some (cs, rest) := by
  have ends : ∀ k ≤ 2, takeMultiLiteral? (List.replicate k '\'' ++ '\'' :: '\'' :: '\'' :: rest) =
      some (List.replicate k '\'', rest) :=
    fun _ few => of_closes takeMultiLiteral?.eq_2 few apart
  induction cs with
  | nil => exact ends 0 (by decide)
  | cons c cs ih =>
    obtain ⟨held, holds⟩ := List.forall_mem_cons.1 holds
    have rest_ := ih holds fun later => run (later.trans (List.suffix_cons c cs).isInfix)
    by_cases last : c = '\'' ∧ (cs = [] ∨ cs = ['\''])
    · obtain ⟨rfl, rfl | rfl⟩ := last
      · exact ends 1 (by decide)
      · exact ends 2 (by decide)
    · rw [List.cons_append, takeMultiLiteral?_cons held, rest_]
      · rfl
      · -- Two more marks would be in the text, and three are not.
        rintro rfl more two
        rcases cs with _ | ⟨a, _ | ⟨b, cs⟩⟩
        · exact last ⟨rfl, .inl rfl⟩
        · obtain ⟨rfl, -⟩ := List.cons.inj two
          exact last ⟨rfl, .inr rfl⟩
        · simp only [List.cons_append, List.cons.injEq] at two
          obtain ⟨rfl, rfl, -⟩ := two
          exact run (List.prefix_append (List.replicate 3 '\'') cs).isInfix

/-! ## All forms -/

/-- What a text is like that can stand in a form. The forms with escapes hold every text. -/
def Form.Holds : Form → List Char → Prop
  | basic, _ | multiBasic, _ => True
  | literal, cs => ∀ c ∈ cs, isPrintable c = true ∧ c ≠ '\''
  | multiLiteral, cs =>
    (∀ c ∈ cs, c = '\n' ∨ isPrintable c = true) ∧ ¬ List.replicate 3 '\'' <:+: cs

theorem Form.holds_of (cs : List Char) : (Form.of cs).Holds cs := by
  have printable : cs.any needsSpelling = false → ∀ c ∈ cs, c = '\n' ∨ isPrintable c = true :=
    fun plain c mem => printable_of_not_needsSpelling (by simpa using List.any_eq_false.1 plain c mem)
  unfold Form.of
  dsimp only
  split
  · trivial
  · split
    · rename_i chosen
      simp only [Bool.and_eq_true, Bool.not_eq_true'] at chosen
      obtain ⟨⟨plain, line⟩, run⟩ := chosen
      intro c mem
      refine ⟨(printable plain c mem).resolve_left ?_, ?_⟩
      · rintro rfl
        simp [mem] at line
      · rintro rfl
        have one : hasRun '\'' 1 cs = true := hasRun_of_isInfix ((List.singleton_infix_iff _ _).2 mem)
        rw [one] at run
        cases run
    · split
      · trivial
      · split
        · rename_i chosen
          simp only [Bool.and_eq_true, Bool.not_eq_true'] at chosen
          refine ⟨printable chosen.1, fun run => ?_⟩
          rw [hasRun_of_isInfix run] at chosen
          cases chosen.2
        · split <;> trivial

theorem takeQuoted?_basic {cs : List Char} (more : ∀ rest, cs ≠ '"' :: '"' :: rest) :
    takeQuoted? ('"' :: cs) = (takeBasic? cs).map fun (s, rest) => (String.ofList s, rest) := by
  unfold takeQuoted?
  split <;> simp_all

theorem takeQuoted?_literal {cs : List Char} (more : ∀ rest, cs ≠ '\'' :: '\'' :: rest) :
    takeQuoted? ('\'' :: cs) = (takeLiteral? cs).map fun (s, rest) => (String.ofList s, rest) := by
  unfold takeQuoted?
  split <;> simp_all

theorem takeNewline?_cons {d : Char} (newline : d ≠ '\n') (carriage : d ≠ '\r') (tail : List Char) :
    takeNewline? (d :: tail) = none := by
  unfold takeNewline?
  split <;> simp_all

theorem takeNewline?_body {cs : List Char} (one : '\n' ∉ cs) (rest : List Char) :
    takeNewline? (multiBasicBody 0 cs ++ '"' :: rest) = none := by
  rcases cs with _ | ⟨c, cs⟩
  · rfl
  by_cases mark : c = '"'
  · subst mark
    rfl
  · have newline : c ≠ '\n' := fun e => one (e ▸ List.mem_cons_self)
    obtain ⟨d, form, e, -, other, carriage⟩ := (stands_escaped mark newline).head
    rw [multiBasicBody.eq_3 _ _ _ mark, e]
    exact takeNewline?_cons other carriage _

theorem takeNewline?_lines {cs : List Char} (holds : ∀ c ∈ cs, c = '\n' ∨ isPrintable c = true)
    (one : '\n' ∉ cs) (rest : List Char) : takeNewline? (cs ++ '\'' :: rest) = none := by
  rcases cs with _ | ⟨c, cs⟩
  · rfl
  · have newline : c ≠ '\n' := fun e => one (e ▸ List.mem_cons_self)
    have printable := (holds c List.mem_cons_self).resolve_left newline
    exact takeNewline?_cons newline (ne_of_isPrintable printable).2 _

/-- The line end in front of a text with line ends is skipped, and no other. -/
theorem skipFirstNewline_firstNewline {cs body : List Char}
    (same : '\n' ∉ cs → takeNewline? body = none) :
    skipFirstNewline (firstNewline cs ++ body) = body := by
  unfold skipFirstNewline firstNewline
  split
  · rfl
  · rename_i none_
    rw [List.nil_append, same (by simpa using none_)]
    rfl

namespace Form

variable {cs rest : List Char}

theorem read_basic (apart : rest.head? ≠ some '"') :
    takeQuoted? (basic.write cs ++ rest) = some (String.ofList cs, rest) := by
  have text : basic.write cs ++ rest = '"' :: (cs.flatMap basicChar ++ '"' :: rest) := by
    simp [Form.write]
  rw [text, takeQuoted?_basic, takeBasic?_flatMap]
  · rfl
  · intro more same
    rcases cs with _ | ⟨c, cs⟩
    · obtain ⟨-, same⟩ := List.cons.inj same
      exact apart (by rw [same, List.head?_cons])
    · obtain ⟨d, form, e, mark, -⟩ := (stands_basicChar c).head
      rw [List.flatMap_cons, e] at same
      exact mark (List.cons.inj same).1

theorem read_literal (holds : literal.Holds cs) (apart : rest.head? ≠ some '\'') :
    takeQuoted? (literal.write cs ++ rest) = some (String.ofList cs, rest) := by
  have text : literal.write cs ++ rest = '\'' :: (cs ++ '\'' :: rest) := by
    simp [Form.write]
  rw [text, takeQuoted?_literal, takeLiteral?_append holds]
  · rfl
  · intro more same
    rcases cs with _ | ⟨c, cs⟩
    · obtain ⟨-, same⟩ := List.cons.inj same
      exact apart (by rw [same, List.head?_cons])
    · exact (holds c List.mem_cons_self).2 (List.cons.inj same).1

theorem read_multiBasic (apart : rest.head? ≠ some '"') :
    takeQuoted? (multiBasic.write cs ++ rest) = some (String.ofList cs, rest) := by
  have text : multiBasic.write cs ++ rest = '"' :: '"' :: '"' ::
      (firstNewline cs ++ (multiBasicBody 0 cs ++ '"' :: '"' :: '"' :: rest)) := by
    simp [Form.write]
  rw [text, takeQuoted?]
  dsimp only
  rw [skipFirstNewline_firstNewline, takeMultiBasic?_body 0 cs apart]
  · rfl
  · exact fun one => takeNewline?_body one _

theorem read_multiLiteral (holds : multiLiteral.Holds cs) (apart : rest.head? ≠ some '\'') :
    takeQuoted? (multiLiteral.write cs ++ rest) = some (String.ofList cs, rest) := by
  have text : multiLiteral.write cs ++ rest = '\'' :: '\'' :: '\'' ::
      (firstNewline cs ++ (cs ++ '\'' :: '\'' :: '\'' :: rest)) := by
    simp [Form.write]
  rw [text, takeQuoted?]
  dsimp only
  rw [skipFirstNewline_firstNewline, takeMultiLiteral?_append holds.1 holds.2 apart]
  · rfl
  · exact fun one => takeNewline?_lines holds.1 one _

end Form

theorem quote_cons (s : String) : ∃ tail, quote s = '"' :: tail ∨ quote s = '\'' :: tail := by
  unfold quote
  cases Form.of s.toList with
  | basic | multiBasic => exact ⟨_, .inl rfl⟩
  | literal | multiLiteral => exact ⟨_, .inr rfl⟩

/-- No mark of either kind follows. -/
def Unmarked (rest : List Char) : Prop := rest.head? ≠ some '"' ∧ rest.head? ≠ some '\''

/-- Every text is read back. -/
theorem takeQuoted?_quote (s : String) {rest : List Char} (apart : Unmarked rest) :
    takeQuoted? (quote s ++ rest) = some (s, rest) := by
  have holds := Form.holds_of s.toList
  have whole : String.ofList s.toList = s := String.ofList_toList
  unfold quote
  cases chosen : Form.of s.toList with
  | basic => rw [Form.read_basic apart.1, whole]
  | literal =>
    rw [chosen] at holds
    rw [Form.read_literal holds apart.2, whole]
  | multiBasic => rw [Form.read_multiBasic apart.1, whole]
  | multiLiteral =>
    rw [chosen] at holds
    rw [Form.read_multiLiteral holds apart.2, whole]

end MqttLink.Toml
