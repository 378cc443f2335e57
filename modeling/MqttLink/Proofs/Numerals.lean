import Mathlib.Data.List.Infix
import MqttLink.Toml.Number

/-!
# Numerals are read back

Main statement: a natural number that is written to the end of a line is read back, if an integer can be so large.
It is not taken for the beginning of a date or a time.
-/

namespace MqttLink.Toml

/-! ## The digits of a number -/

theorem isDigit_of_mem {n : Nat} : ∀ c ∈ Nat.toDigits 10 n, c.isDigit = true :=
  fun _ => Nat.isDigit_of_mem_toDigits (by decide) (by decide)

theorem exists_cons_of_digits (n : Nat) : ∃ d ds, Nat.toDigits 10 n = d :: ds ∧ d.isDigit = true := by
  obtain ⟨d, ds, e⟩ := List.exists_cons_of_ne_nil (Nat.toDigits_ne_nil (n := n) (b := 10))
  exact ⟨d, ds, e, isDigit_of_mem (n := n) d (by rw [e]; exact List.mem_cons_self)⟩

theorem ofDigits_toDigits (n : Nat) :
    ofDigits 10 ((Nat.toDigits 10 n).map fun c => c.toNat - 48) = n := by
  have value := Nat.ofDigitChars_toDigits (b := 10) (n := n) (by decide) (by decide)
  rw [ofDigits, List.foldl_map]
  simpa [Nat.ofDigitChars, Nat.mul_comm] using value

/-- No zero stands in front. -/
theorem head?_toDigits {n : Nat} (pos : 0 < n) : (Nat.toDigits 10 n).head? ≠ some '0' := by
  induction n using Nat.strong_induction_on with
  | _ n ih =>
    rw [Nat.toDigits_eq_if (by decide)]
    split
    · rename_i small
      have all : ∀ m : Fin 10, (m : Nat) ≠ 0 → [Nat.digitChar m].head? ≠ some '0' := by decide
      exact all ⟨n, small⟩ (Nat.ne_of_gt pos)
    · rename_i large
      rw [List.head?_append_of_ne_nil _ Nat.toDigits_ne_nil]
      exact ih (n / 10) (by omega) (by omega)

theorem toDigits_append_ne {n : Nat} (pos : 0 < n) (more rest : List Char) :
    Nat.toDigits 10 n ++ more ≠ '0' :: rest := by
  intro same
  apply head?_toDigits pos
  rw [← List.head?_append_of_ne_nil _ Nat.toDigits_ne_nil, same, List.head?_cons]

/-- A zero is the only number that begins with one, and a line end follows it. -/
theorem toDigits_ne {n : Nat} {c : Char} (other : c ≠ '\n') (more rest : List Char) :
    Nat.toDigits 10 n ++ '\n' :: more ≠ '0' :: c :: rest := by
  rcases Nat.eq_zero_or_pos n with rfl | pos
  · exact fun same => other (List.cons.inj (List.cons.inj same).2).1.symm
  · exact toDigits_append_ne pos _ _

/-! ## A line of digits

Every reader of a number stops at the end of the line, or finds something else than it needs.
-/

section

variable {ds more rest : List Char} {k n : Nat}

theorem digit?_of_isDigit {c : Char} (h : c.isDigit = true) :
    takeMoreDigits?.digit? 10 c = some (c.toNat - 48) := by
  have bounds : 48 ≤ c.toNat ∧ c.toNat ≤ 57 := by
    simpa [Char.isDigit, UInt32.le_iff_toNat_le] using h
  have below : c.toNat - 48 < 10 := by omega
  simp [takeMoreDigits?.digit?, Text.hexValue?, bounds, below]

theorem takeMoreDigits?_line (digits : ∀ c ∈ ds, c.isDigit = true) :
    takeMoreDigits? 10 (ds ++ '\n' :: more) = some (ds.map fun c => c.toNat - 48, '\n' :: more) := by
  induction ds with
  | nil => rfl
  | cons c ds ih =>
    obtain ⟨digit, digits⟩ := List.forall_mem_cons.1 digits
    rw [List.cons_append, takeMoreDigits?.eq_3, digit?_of_isDigit digit, ih digits]
    · rfl
    · rintro _ _ rfl
      cases digit
    · rintro rfl
      cases digit

theorem takeNatural?_line (digits : ∀ c ∈ ds, c.isDigit = true) (some_ : ds ≠ []) :
    takeNatural? 10 (ds ++ '\n' :: more) = some (ds.map fun c => c.toNat - 48, '\n' :: more) := by
  obtain ⟨c, ds, rfl⟩ := List.exists_cons_of_ne_nil some_
  obtain ⟨digit, digits⟩ := List.forall_mem_cons.1 digits
  rw [List.cons_append, takeNatural?.eq_1, digit?_of_isDigit digit]
  dsimp only
  rw [takeMoreDigits?_line digits]
  rfl

theorem takeSign_line (digits : ∀ c ∈ ds, c.isDigit = true) :
    takeSign (ds ++ '\n' :: more) = (false, ds ++ '\n' :: more) := by
  rcases ds with _ | ⟨c, ds⟩
  · rfl
  · have digit := digits c List.mem_cons_self
    apply takeSign.eq_3
    all_goals
      rintro _ same
      obtain ⟨rfl, -⟩ := List.cons.inj same
      cases digit

theorem takeSpecial?_line (digits : ∀ c ∈ ds, c.isDigit = true) :
    takeSpecial? (ds ++ '\n' :: more) = none := by
  rw [takeSpecial?, takeSign_line digits]
  rcases ds with _ | ⟨c, ds⟩
  · rfl
  · have digit := digits c List.mem_cons_self
    split
    any_goals
      rename_i same
      obtain ⟨rfl, -⟩ := List.cons.inj same
      cases digit
    rfl

/-! ### Neither date nor time -/

theorem length_of_mapM_digit? {taken : List Nat}
    (h : ((ds ++ '\n' :: more).take k).mapM Ipv4.digit? = some taken) : k ≤ ds.length := by
  induction ds generalizing k taken with
  | nil =>
    cases k with
    | zero => exact Nat.le_refl 0
    | succ k => simp [Ipv4.digit?] at h
  | cons d ds ih =>
    cases k with
    | zero => exact Nat.zero_le _
    | succ k =>
      rw [List.cons_append, List.take_succ_cons, List.mapM_cons] at h
      obtain ⟨_, -, h⟩ := Option.bind_eq_some_iff.1 h
      obtain ⟨_, later, -⟩ := Option.bind_eq_some_iff.1 h
      exact Nat.succ_le_succ (ih later)

theorem takeDigits?_line (h : takeDigits? k (ds ++ '\n' :: more) = some (n, rest)) :
    rest = ds.drop k ++ '\n' :: more := by
  unfold takeDigits? at h
  obtain ⟨taken, read, h⟩ := Option.bind_eq_some_iff.1 h
  split at h
  · cases h
    exact List.drop_append_of_le_length (length_of_mapM_digit? read)
  · cases h

theorem takeTwo?_line {low high : Nat}
    (h : takeTwo? low high (ds ++ '\n' :: more) = some (n, rest)) :
    rest = ds.drop 2 ++ '\n' :: more := by
  unfold takeTwo? at h
  obtain ⟨⟨n, rest⟩, read, h⟩ := Option.bind_eq_some_iff.1 h
  dsimp only at h
  split at h
  · cases h
    exact takeDigits?_line read
  · cases h

theorem takeChar?_line {mark : Char} (other : mark.isDigit = false) (line : mark ≠ '\n')
    (digits : ∀ c ∈ ds, c.isDigit = true) : takeChar? (· == mark) (ds ++ '\n' :: more) = none := by
  rcases ds with _ | ⟨c, ds⟩
  · exact if_neg (by simpa using line.symm)
  · refine if_neg ?_
    rw [beq_iff_eq]
    rintro rfl
    rw [digits c List.mem_cons_self] at other
    cases other

theorem takeMoment?_line (digits : ∀ c ∈ ds, c.isDigit = true) :
    takeMoment? (ds ++ '\n' :: more) = none := by
  have later : ∀ k, ∀ c ∈ ds.drop k, c.isDigit = true :=
    fun k c mem => digits c (List.mem_of_mem_drop mem)
  have date : skipDate? (ds ++ '\n' :: more) = none := by
    refine Option.bind_eq_none_iff.2 fun ⟨year, rest⟩ read => ?_
    rw [takeDigits?_line read]
    dsimp only
    rw [takeChar?_line rfl (by decide) (later 4)]
    rfl
  have time : skipTime? (ds ++ '\n' :: more) = none := by
    refine Option.bind_eq_none_iff.2 fun ⟨hour, rest⟩ read => ?_
    rw [takeTwo?_line read]
    dsimp only
    rw [takeChar?_line rfl (by decide) (later 2)]
    rfl
  rw [takeMoment?, skipMoment?, date]
  dsimp only
  rw [time]
  rfl

end

/-! ## A number on a line -/

theorem takeWhole?_line (n : Nat) (more : List Char) : ∃ ds,
    takeWhole? (Nat.toDigits 10 n ++ '\n' :: more) = some (ds, '\n' :: more) ∧ ofDigits 10 ds = n := by
  rcases Nat.eq_zero_or_pos n with rfl | pos
  · exact ⟨[0], rfl, rfl⟩
  · refine ⟨_, ?_, ofDigits_toDigits n⟩
    rw [takeWhole?.eq_2]
    · exact takeNatural?_line isDigit_of_mem Nat.toDigits_ne_nil
    · exact toDigits_append_ne pos _

theorem takePlain?_line {n : Nat} (fits : (n : Int) ≤ largest) (more : List Char) :
    takePlain? (Nat.toDigits 10 n ++ '\n' :: more) = some (.integer n, '\n' :: more) := by
  obtain ⟨ds, whole, value⟩ := takeWhole?_line n more
  have held : integer? (signed false (ofDigits 10 ds)) = some (.integer n) := by
    rw [value]
    exact if_pos ⟨Int.le_trans (by decide) (Int.natCast_nonneg n), fits⟩
  unfold takePlain?
  rw [takeSign_line isDigit_of_mem]
  simp only [whole, takeFraction?, takeExponent?, held, bind, Option.bind, pure]
  rfl

theorem takeNumber?_line {n : Nat} (fits : (n : Int) ≤ largest) (more : List Char) :
    takeNumber? (Nat.toDigits 10 n ++ '\n' :: more) = some (.integer n, '\n' :: more) := by
  rw [takeNumber?.eq_def, takeMoment?_line isDigit_of_mem, takeSpecial?_line isDigit_of_mem]
  dsimp only
  -- It begins with none of the marks of another base.
  split
  case h_4 => exact takePlain?_line fits more
  all_goals
    rename_i same
    exact absurd same (toDigits_ne (by decide) more _)

end MqttLink.Toml
