import MqttLink.Text.Percent
import MqttLink.Toml.Gap

/-!
# Reading quoted text

Four forms: between quotation marks, where a backslash begins an escape, and between apostrophes,
where nothing does; and each of the two on one line or, with three marks, on several.
-/

namespace MqttLink.Toml

/-- Puts something before what was taken. -/
def consTo {α : Type} (a : α) (r : Option (List α × List Char)) : Option (List α × List Char) :=
  r.map fun (xs, rest) => (a :: xs, rest)

/-! ## Escapes -/

/-- The character with a code point in base sixteen. -/
def charOfHex? (digits : List Char) : Option Char := do
  let ds ← digits.mapM Text.hexValue?
  let n := ds.foldl (fun n d => n * 16 + d) 0
  if n.isValidChar then some (Char.ofNat n) else none

/-- What follows a backslash. -/
def takeEscape? : Reader Char
  | 'b' :: rest => some ('\x08', rest)
  | 't' :: rest => some ('\t', rest)
  | 'n' :: rest => some ('\n', rest)
  | 'f' :: rest => some ('\x0c', rest)
  | 'r' :: rest => some ('\r', rest)
  | '"' :: rest => some ('"', rest)
  | '\\' :: rest => some ('\\', rest)
  | 'u' :: a :: b :: c :: d :: rest => (charOfHex? [a, b, c, d]).map (·, rest)
  | 'U' :: a :: b :: c :: d :: e :: f :: g :: h :: rest =>
    (charOfHex? [a, b, c, d, e, f, g, h]).map (·, rest)
  | _ => none

theorem length_takeEscape? {cs rest : List Char} {c : Char} (h : takeEscape? cs = some (c, rest)) :
    rest.length < cs.length := by
  unfold takeEscape? at h
  split at h
  all_goals first
    | (obtain ⟨_, -, e⟩ := Option.map_eq_some_iff.1 h; cases e; simp only [List.length_cons]; omega)
    | (cases h; try simp)

/-! ## On one line -/

/-- What stands before the closing quotation mark. -/
def takeBasic? : Reader (List Char)
  | [] => none
  | '"' :: rest => some ([], rest)
  | '\\' :: rest =>
    match _taken : takeEscape? rest with
    | none => none
    | some (c, rest) => consTo c (takeBasic? rest)
  | c :: rest => if isPrintable c then consTo c (takeBasic? rest) else none
termination_by cs => cs.length
decreasing_by
  · have := length_takeEscape? _taken
    simp only [List.length_cons]
    omega
  · simp

/-- What stands before the closing apostrophe. -/
def takeLiteral? : Reader (List Char)
  | [] => none
  | '\'' :: rest => some ([], rest)
  | c :: rest => if isPrintable c then consTo c (takeLiteral? rest) else none

/-! ## On several lines -/

/-- Three marks close a text, and one or two more before them belong to it. -/
def takeClosing (mark : Char) : List Char → List Char × List Char
  | a :: b :: rest =>
    if a = mark ∧ b = mark then ([mark, mark], rest)
    else if a = mark then ([mark], b :: rest)
    else ([], a :: b :: rest)
  | [a] => if a = mark then ([mark], []) else ([], [a])
  | [] => ([], [])

/-- The first line end counts for nothing. -/
def skipFirstNewline (cs : List Char) : List Char := (takeNewline? cs).getD cs

theorem length_dropWhile_le (p : Char → Bool) (cs : List Char) :
    (cs.dropWhile p).length ≤ cs.length := by
  induction cs with
  | nil => exact Nat.le_refl _
  | cons c cs ih =>
    rw [List.dropWhile_cons]
    split
    · exact Nat.le_succ_of_le ih
    · exact Nat.le_refl _

theorem length_takeNewline? {cs rest : List Char} (h : takeNewline? cs = some rest) :
    rest.length < cs.length := by
  unfold takeNewline? at h
  split at h
  · cases h; simp
  · cases h; simp only [List.length_cons]; omega
  · cases h

theorem length_skipBlankLines_le (cs : List Char) : (skipBlankLines cs).length ≤ cs.length := by
  fun_induction skipBlankLines cs with
  | case1 rest ih => simp only [List.length_cons]; omega
  | case2 c rest _ _ ih => simp only [List.length_cons]; omega
  | case3 => exact Nat.le_refl _
  | case4 => exact Nat.le_refl _

/-- A backslash at the end of a line takes the line end with it, and all blanks that follow. -/
def takeFold? (cs : List Char) : Option (List Char) :=
  (takeNewline? (skipSpace cs)).map skipBlankLines

theorem length_takeFold? {cs rest : List Char} (h : takeFold? cs = some rest) :
    rest.length < cs.length := by
  obtain ⟨r, hr, rfl⟩ := Option.map_eq_some_iff.1 h
  have := length_takeNewline? hr
  have : (skipSpace cs).length ≤ cs.length := length_dropWhile_le isSpace cs
  have := length_skipBlankLines_le r
  omega

def takeMultiBasic? : Reader (List Char)
  | [] => none
  | '"' :: '"' :: '"' :: rest => some (takeClosing '"' rest)
  | '\\' :: rest =>
    match _folded : takeFold? rest with
    | some rest => takeMultiBasic? rest
    | none =>
      match _taken : takeEscape? rest with
      | none => none
      | some (c, rest) => consTo c (takeMultiBasic? rest)
  | '\r' :: '\n' :: rest => consTo '\n' (takeMultiBasic? rest)
  | c :: rest => if c == '\n' || isPrintable c then consTo c (takeMultiBasic? rest) else none
termination_by cs => cs.length
decreasing_by
  · have := length_takeFold? _folded
    simp only [List.length_cons]
    omega
  · have := length_takeEscape? _taken
    simp only [List.length_cons]
    omega
  · simp only [List.length_cons]
    omega
  · simp

def takeMultiLiteral? : Reader (List Char)
  | [] => none
  | '\'' :: '\'' :: '\'' :: rest => some (takeClosing '\'' rest)
  | '\r' :: '\n' :: rest => consTo '\n' (takeMultiLiteral? rest)
  | c :: rest => if c == '\n' || isPrintable c then consTo c (takeMultiLiteral? rest) else none

/-! ## All four -/

def takeQuoted? (cs : List Char) : Option (String × List Char) :=
  (match cs with
    | '"' :: '"' :: '"' :: rest => takeMultiBasic? (skipFirstNewline rest)
    | '"' :: rest => takeBasic? rest
    | '\'' :: '\'' :: '\'' :: rest => takeMultiLiteral? (skipFirstNewline rest)
    | '\'' :: rest => takeLiteral? rest
    | _ => none).map fun (s, rest) => (String.ofList s, rest)

end MqttLink.Toml
