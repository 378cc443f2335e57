import MqttLink.Proofs.Numerals
import MqttLink.Proofs.Quotations
import MqttLink.Toml.Writer

/-!
# Documents are read back

A document that assigns texts, natural numbers, truth values and empty lists to plain keys, in tables and lists of
tables with plain names, is read back statement by statement. Main statement: reading what was written gives just
the tree that the statements build.
-/

namespace MqttLink.Toml

/-! ## Keys -/

/-- A key that is written as it is. -/
def isWord (key : String) : Bool := !key.isEmpty && key.toList.all isBare

section

variable {key : String} {c d : Char} {more rest : List Char}

theorem writeKey_word (word : isWord key = true) : writeKey key = key.toList := if_pos word

theorem isBare_of_mem (word : isWord key = true) : ∀ c ∈ key.toList, isBare c = true :=
  List.all_eq_true.1 (Bool.and_eq_true_iff.1 word).2

theorem exists_cons_of_word (word : isWord key = true) :
    ∃ c cs, key.toList = c :: cs ∧ isBare c = true := by
  have bare := isBare_of_mem word
  cases e : key.toList with
  | nil =>
    have empty : key.isEmpty = true := by simpa [String.isEmpty_iff] using e
    simp [isWord, empty] at word
  | cons c cs => exact ⟨c, cs, rfl, bare c (by simp [e])⟩

theorem ne_of_holds {p : Char → Bool} (holds : p c = true) (other : p d = false) : c ≠ d := by
  rintro rfl
  rw [holds] at other
  cases other

theorem skipSpace_cons (h : isSpace c = false) (rest : List Char) : skipSpace (c :: rest) = c :: rest :=
  List.dropWhile_cons_of_neg (by simp [h])

theorem isSpace_of_isBare (bare : isBare c = true) : isSpace c = false := by
  simp [isSpace, ne_of_holds bare (d := ' ') rfl, ne_of_holds bare (d := '\t') rfl]

theorem word_append_ne (word : isWord key = true) (other : isBare c = false) (more rest : List Char) :
    key.toList ++ more ≠ c :: rest := by
  intro same
  obtain ⟨d, ds, e, bare⟩ := exists_cons_of_word word
  rw [e] at same
  exact ne_of_holds bare other (List.cons.inj same).1

theorem takeKey?_word (word : isWord key = true) (stops : isBare c = false) (more : List Char) :
    takeKey? (key.toList ++ c :: more) = some (key, c :: more) := by
  rw [takeKey?.eq_3]
  · have whole := isBare_of_mem word
    obtain ⟨d, ds, e, -⟩ := exists_cons_of_word word
    rw [takeBare?, List.takeWhile_append_of_pos whole, List.dropWhile_append_of_pos whole,
      List.takeWhile_cons_of_neg (by simp [stops]), List.dropWhile_cons_of_neg (by simp [stops]),
      List.append_nil, e]
    simp [← e]
  · exact word_append_ne word rfl _
  · exact word_append_ne word rfl _

/-- A path of one key, up to something else than a point. -/
theorem takePath?_word (word : isWord key = true) (stops : isBare c = false)
    (after : skipSpace (c :: more) = d :: rest) (point : d ≠ '.') :
    takePath? (key.toList ++ c :: more) = some ({ key }, d :: rest) := by
  obtain ⟨b, bs, e, bare⟩ := exists_cons_of_word word
  have front : skipSpace (key.toList ++ c :: more) = key.toList ++ c :: more := by
    rw [e]
    exact skipSpace_cons (isSpace_of_isBare bare) _
  have keys : takeKeys? deepest (key.toList ++ c :: more) = some ([key], d :: rest) := by
    rw [deepest, takeKeys?.eq_2, front, takeKey?_word word stops]
    dsimp only [bind, Option.bind]
    rw [after]
    split
    · rename_i same
      exact absurd (List.cons.inj same).1 point
    · rfl
  rw [takePath?, keys]
  rfl

end

/-! ## Values -/

/-- Values that say all on a line of their own. -/
inductive Value.Simple : Value → Prop
  | text (s : String) : Simple (.text s)
  | number {n : Nat} (fits : (n : Int) ≤ largest) : Simple (.integer n)
  | boolean (b : Bool) : Simple (.boolean b)
  | empty : Simple (.array [])

theorem write_number (n : Nat) : (Value.integer n).write = Nat.toDigits 10 n := by
  rw [Value.write]
  exact Nat.toList_repr

/-- Where a value begins, nothing is taken for a space. -/
theorem Value.Simple.write_cons {v : Value} (h : v.Simple) :
    ∃ c cs, v.write = c :: cs ∧ isSpace c = false := by
  cases h with
  | text s =>
    rw [Value.write]
    obtain ⟨tail, e | e⟩ := quote_cons s
    · exact ⟨_, _, e, rfl⟩
    · exact ⟨_, _, e, rfl⟩
  | @number n fits =>
    rw [write_number]
    obtain ⟨d, ds, e, digit⟩ := exists_cons_of_digits n
    refine ⟨d, ds, e, isSpace_of_isBare ?_⟩
    simp [isBare, Char.isAlphanum, digit]
  | boolean b => cases b <;> exact ⟨_, _, rfl, rfl⟩
  | empty => exact ⟨_, _, rfl, rfl⟩

/-- No list and no table. -/
theorem takeValue?_scalar {c : Char} (list : c ≠ '[') (table : c ≠ '\x7b') (cs : List Char) :
    takeValue? deepest (c :: cs) = takeScalar? (c :: cs) := by
  apply takeValue?.eq_3
  · exact fun _ _ _ same => list (List.cons.inj same).1
  · exact fun _ _ _ same => table (List.cons.inj same).1

theorem takeValue?_text (s : String) (more : List Char) :
    takeValue? deepest (quote s ++ '\n' :: more) = some (.text s, '\n' :: more) := by
  have read : takeQuoted? (quote s ++ '\n' :: more) = some (s, '\n' :: more) :=
    takeQuoted?_quote s ⟨by simp, by simp⟩
  have scalar := congrArg (Option.map fun r => (Value.text r.1, r.2)) read
  obtain ⟨tail, e | e⟩ := quote_cons s
  all_goals
    rw [e] at scalar ⊢
    rw [List.cons_append, takeValue?_scalar (by decide) (by decide)]
    exact scalar

theorem takeValue?_number {n : Nat} (fits : (n : Int) ≤ largest) (more : List Char) :
    takeValue? deepest (Nat.toDigits 10 n ++ '\n' :: more) = some (.integer n, '\n' :: more) := by
  have read := takeNumber?_line fits more
  obtain ⟨d, ds, e, digit⟩ := exists_cons_of_digits n
  rw [e, List.cons_append] at read ⊢
  rw [takeValue?_scalar (ne_of_holds digit rfl) (ne_of_holds digit rfl), takeScalar?.eq_5, read]
  all_goals exact fun _ same => ne_of_holds digit rfl (List.cons.inj same).1

theorem Value.Simple.takeValue? {v : Value} (h : v.Simple) (more : List Char) :
    Toml.takeValue? deepest (v.write ++ '\n' :: more) = some (v, '\n' :: more) := by
  cases h with
  | text s =>
    rw [Value.write]
    exact takeValue?_text s more
  | number fits =>
    rw [write_number]
    exact takeValue?_number fits more
  | boolean b =>
    cases b
    · exact takeValue?_scalar (by decide) (by decide) _
    · exact takeValue?_scalar (by decide) (by decide) _
  | empty =>
    rw [deepest, Value.write, writeItems]
    exact takeValue?.eq_1 _ _

/-! ## Statements -/

/-- Statements with plain keys. -/
inductive Statement.Simple : Statement → Prop
  | assign {key : String} {v : Value} (word : isWord key = true) (simple : v.Simple) :
      Simple (.assign { key } v)
  | table {key : String} (word : isWord key = true) : Simple (.table { key })
  | element {key : String} (word : isWord key = true) : Simple (.element { key })

theorem writePath_word {key : String} (word : isWord key = true) : writePath { key } = key.toList := by
  rw [writePath, List.flatMap_nil, List.nil_append, writeKey_word word]

theorem takeAssignment?_write {key : String} {v : Value} (word : isWord key = true) (simple : v.Simple)
    (more : List Char) :
    takeAssignment? (takeValue? deepest) (key.toList ++ ' ' :: '=' :: ' ' :: (v.write ++ '\n' :: more)) =
      some (({ key }, v), '\n' :: more) := by
  obtain ⟨c, cs, e, space⟩ := simple.write_cons
  have skipped : skipSpace (' ' :: (v.write ++ '\n' :: more)) = v.write ++ '\n' :: more := by
    rw [e]
    exact skipSpace_cons space _
  have path : takePath? (key.toList ++ ' ' :: '=' :: ' ' :: (v.write ++ '\n' :: more)) =
      some ({ key }, '=' :: ' ' :: (v.write ++ '\n' :: more)) :=
    takePath?_word word rfl rfl (by decide)
  simp only [takeAssignment?, path, skipped, simple.takeValue?, bind, Option.bind, pure]

theorem takeStatement?_assign {key : String} {v : Value} (word : isWord key = true) (simple : v.Simple)
    (more : List Char) : takeStatement? ((Statement.assign { key } v).write ++ more) =
      some (.assign { key } v, '\n' :: more) := by
  have text : (Statement.assign { key } v).write ++ more =
      key.toList ++ ' ' :: '=' :: ' ' :: (v.write ++ '\n' :: more) := by
    simp [Statement.write, writePath_word word]
  rw [text, takeStatement?.eq_2 _ (word_append_ne word rfl _), takeAssignment?_write word simple]
  rfl

theorem takeStatement?_table {key : String} (word : isWord key = true) (more : List Char) :
    takeStatement? ((Statement.table { key }).write ++ more) =
      some (.table { key }, '\n' :: more) := by
  have text : (Statement.table { key }).write ++ more = '[' :: (key.toList ++ ']' :: '\n' :: more) := by
    simp [Statement.write, writePath_word word]
  have path : takePath? (key.toList ++ ']' :: '\n' :: more) = some ({ key }, ']' :: '\n' :: more) :=
    takePath?_word word rfl rfl (by decide)
  rw [text, takeStatement?.eq_1, takeHeader?.eq_2 _ (word_append_ne word rfl _), path]
  rfl

theorem takeStatement?_element {key : String} (word : isWord key = true) (more : List Char) :
    takeStatement? ((Statement.element { key }).write ++ more) =
      some (.element { key }, '\n' :: more) := by
  have text : (Statement.element { key }).write ++ more =
      '[' :: '[' :: (key.toList ++ ']' :: ']' :: '\n' :: more) := by
    simp [Statement.write, writePath_word word]
  have path : takePath? (key.toList ++ ']' :: ']' :: '\n' :: more) =
      some ({ key }, ']' :: ']' :: '\n' :: more) :=
    takePath?_word word rfl rfl (by decide)
  rw [text, takeStatement?.eq_1, takeHeader?.eq_1, path]
  rfl

theorem Statement.Simple.takeStatement? {s : Statement} (h : s.Simple) (more : List Char) :
    Toml.takeStatement? (s.write ++ more) = some (s, '\n' :: more) := by
  cases h with
  | assign word simple => exact takeStatement?_assign word simple more
  | table word => exact takeStatement?_table word more
  | element word => exact takeStatement?_element word more

/-! ## Documents -/

/-- What a statement begins with. -/
def opens (c : Char) : Bool := isBare c || c == '['

theorem Statement.Simple.write_cons {s : Statement} (h : s.Simple) :
    ∃ c cs, s.write = c :: cs ∧ opens c = true := by
  cases h with
  | @assign key v word simple =>
    obtain ⟨c, cs, e, bare⟩ := exists_cons_of_word word
    refine ⟨c, cs ++ ([' ', '=', ' '] ++ v.write ++ ['\n']), ?_, by simp [opens, bare]⟩
    simp [Statement.write, writePath_word word, e]
  | table | element => exact ⟨'[', _, rfl, rfl⟩

theorem skipSpace_opens {c : Char} (h : opens c = true) (cs : List Char) :
    skipSpace (c :: cs) = c :: cs := by
  refine skipSpace_cons ?_ cs
  simp [isSpace, ne_of_holds h (d := ' ') rfl, ne_of_holds h (d := '\t') rfl]

/-- A line with a statement has more than its end. -/
theorem takeLineEnd?_opens {c : Char} (h : opens c = true) (cs : List Char) :
    takeLineEnd? (c :: cs) = none := by
  rw [takeLineEnd?, skipSpace_opens h, skipComment.eq_2]
  · exact takeNewline?_cons (ne_of_holds h rfl) (ne_of_holds h rfl) cs
  · exact fun _ same => ne_of_holds h rfl (List.cons.inj same).1

section

variable {fuel : Nat} {more : List Char} {ss : List Statement}

theorem takeStatements?_newline :
    takeStatements? (fuel + 1) ('\n' :: more) = takeStatements? fuel more := rfl

theorem Statement.Simple.takeStatements? {s : Statement} (h : s.Simple) :
    Toml.takeStatements? (fuel + 1) (s.write ++ more) =
      (Toml.takeStatements? fuel more).map (s :: ·) := by
  have read := h.takeStatement? more
  obtain ⟨c, cs, e, opens⟩ := h.write_cons
  rw [e, List.cons_append] at read ⊢
  rw [takeStatements?.eq_2, skipSpace_opens opens]
  dsimp only
  rw [takeLineEnd?_opens opens, read]
  change (Toml.takeStatements? fuel more).bind _ = _
  cases Toml.takeStatements? fuel more <;> rfl

/-- No statement takes more lines than it has characters. -/
theorem takeStatements?_flatMap (simple : ∀ s ∈ ss, s.Simple)
    (enough : (ss.flatMap Statement.writeNext).length < fuel) :
    takeStatements? fuel (ss.flatMap Statement.writeNext) = some ss := by
  induction ss generalizing fuel with
  | nil =>
    obtain ⟨fuel, rfl⟩ := Nat.exists_eq_add_one_of_ne_zero (Nat.ne_of_gt enough)
    rfl
  | cons s ss ih =>
    obtain ⟨first, simple⟩ := List.forall_mem_cons.1 simple
    have line : 0 < s.write.length := by
      obtain ⟨c, cs, e, -⟩ := first.write_cons
      exact e ▸ Nat.succ_pos _
    rw [List.flatMap_cons, Statement.writeNext, List.append_assoc] at enough ⊢
    rw [List.length_append, List.length_append] at enough
    by_cases header : s.isHeader = true
    · -- The blank line takes a turn of its own.
      rw [if_pos header, List.length_singleton] at enough
      obtain ⟨fuel, rfl⟩ := Nat.exists_eq_add_of_le' (show 2 ≤ fuel by omega)
      rw [if_pos header, List.singleton_append, takeStatements?_newline, first.takeStatements?,
        ih simple (by omega)]
      rfl
    · obtain ⟨fuel, rfl⟩ := Nat.exists_eq_add_one_of_ne_zero (show fuel ≠ 0 by omega)
      rw [if_neg header, List.nil_append, first.takeStatements?, ih simple (by omega)]
      rfl

/-- The statements of a text are those that were written. -/
theorem statements?_write (simple : ∀ s ∈ ss, s.Simple) :
    statements? (String.ofList (writeStatements ss)) = some ss := by
  cases ss with
  | nil => rfl
  | cons s ss =>
    obtain ⟨first, others⟩ := List.forall_mem_cons.1 simple
    obtain ⟨c, cs, e, opens⟩ := first.write_cons
    have marked : (writeStatements (s :: ss)).head? ≠ some byteOrderMark := by
      rw [writeStatements, e, List.cons_append, List.head?_cons]
      exact fun same => ne_of_holds opens (by decide) (Option.some.inj same)
    have line : (writeStatements (s :: ss)).length =
        s.write.length + (ss.flatMap Statement.writeNext).length := List.length_append
    unfold statements?
    dsimp only
    rw [String.toList_ofList, if_neg marked, writeStatements, first.takeStatements?,
      takeStatements?_flatMap others]
    · rfl
    · rw [← writeStatements, line, e, List.length_cons]
      omega

end

/-- Reading what was written gives what the statements build. -/
theorem document?_write {ss : List Statement} (simple : ∀ s ∈ ss, s.Simple) :
    document? (String.ofList (writeStatements ss)) = (Tree.ofStatements? ss).map Tree.toFields := by
  rw [document?, statements?_write simple]
  rfl

end MqttLink.Toml
