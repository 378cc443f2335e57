import Mathlib
import MqttLink.Rehearsal.Solo

/-!
# What happens while somebody waits

As long as a client alone waits, waits of the far side begin and acts of it come, one after the other.
There is a number of steps within which all this is over, and what the far side does goes neither by the
client nor by what has been read.
-/

namespace MqttLink

namespace Link

/-! ## Steps to come -/

theorem toCome_eq (l : Link) : l.toCome =
    (l.fresh.map fun entry => entry.2.size + 2).sum + (l.agenda.map fun entry => entry.2.size + 1).sum := by
  rw [List.sum_eq_foldl, List.sum_eq_foldl, List.foldl_map, List.foldl_map]
  rfl

theorem toCome_act (l : Link) (a : Act) : (l.act a).toCome = l.toCome + a.size := by
  cases a with
  | now deed =>
    cases deed with
    | feed bytes =>
      unfold act perform
      dsimp only
      split <;> rfl
    | _ => rfl
  | later wait a =>
    rw [toCome_eq, toCome_eq]
    simp only [act, Act.size, List.map_append, List.sum_append, List.map_singleton, List.sum_singleton]
    omega

theorem toCome_acts (acts : List (Appointment × Act)) (l : Link) :
    (acts.foldl (fun l entry => l.act entry.2) l).toCome =
      l.toCome + (acts.map fun entry => entry.2.size).sum := by
  induction acts generalizing l with
  | nil => rfl
  | cons entry acts ih =>
    rw [List.foldl_cons, ih, toCome_act, List.map_cons, List.sum_cons]
    omega

theorem sum_insertDue (a : Appointment) (act : Act) (agenda : List (Appointment × Act)) :
    ((insertDue a act agenda).map fun entry => entry.2.size + 1).sum =
      (agenda.map fun entry => entry.2.size + 1).sum + act.size + 1 := by
  induction agenda with
  | nil => simp [insertDue]
  | cons entry agenda ih =>
    unfold insertDue
    split
    · simp only [List.map_cons, List.sum_cons]
      omega
    · simp only [List.map_cons, List.sum_cons, ih]
      omega

/-- A wait that begins has its end before it, and one that takes no time is over. -/
theorem toCome_await_le (now wait number : Nat) (a : Act) (l : Link) :
    (l.await now wait a number).2.toCome ≤ l.toCome + a.size + 1 := by
  unfold await
  split
  · rw [toCome_act]
    omega
  · rw [toCome_eq, toCome_eq, sum_insertDue]
    dsimp only
    omega

theorem toCome_awaits_le (now number : Nat) (entries : List (Nat × Act)) (l : Link) :
    (entries.foldl (fun (number, l) (wait, act) => l.await now wait act number) (number, l)).2.toCome +
        entries.length ≤ l.toCome + (entries.map fun entry => entry.2.size + 2).sum := by
  induction entries generalizing number l with
  | nil => exact Nat.le_refl _
  | cons entry entries ih =>
    obtain ⟨wait, a⟩ := entry
    have first := toCome_await_le now wait number a l
    rw [List.foldl_cons, List.length_cons, List.map_cons, List.sum_cons]
    dsimp only
    generalize l.await now wait a number = begun at first ⊢
    obtain ⟨number, l⟩ := begun
    have rest := ih number l
    dsimp only at rest first ⊢
    omega

theorem toCome_begin_le (now number : Nat) (l : Link) :
    (l.begin now number).2.toCome + l.fresh.length ≤ l.toCome := by
  have begun := toCome_awaits_le now number l.fresh { l with fresh := [] }
  have rest : toCome { l with fresh := [] } + (l.fresh.map fun entry => entry.2.size + 2).sum = l.toCome := by
    rw [toCome_eq, toCome_eq, List.map_nil, List.sum_nil, Nat.zero_add, Nat.add_comm]
  exact rest ▸ begun

theorem toCome_elapse_le (now : Nat) (before : Option Nat) (l : Link) :
    (l.elapse now before).toCome + (l.agenda.takeWhile (comesBy now before)).length ≤ l.toCome := by
  have split := List.takeWhile_append_dropWhile (p := comesBy now before) (l := l.agenda)
  unfold elapse
  generalize l.agenda.takeWhile (comesBy now before) = come at split ⊢
  generalize l.agenda.dropWhile (comesBy now before) = left at split ⊢
  have lengths : (come.map fun entry => entry.2.size + 1).sum =
      (come.map fun entry => entry.2.size).sum + come.length := by
    clear split
    induction come with
    | nil => rfl
    | cons entry come ih =>
      simp only [List.map_cons, List.sum_cons, List.length_cons, ih]
      omega
  rw [toCome_acts, toCome_eq, toCome_eq, ← split, List.map_append, List.sum_append, lengths]
  dsimp only
  omega

/-! ## What has been read -/

/-- As if some chunks had not been read. -/
def behind (head : List Bytes) (l : Link) : Link := { l with inbox := head ++ l.inbox }

theorem act_behind (head : List Bytes) (l : Link) (a : Act) :
    (l.behind head).act a = (l.act a).behind head := by
  cases a with
  | now deed =>
    cases deed with
    | feed bytes =>
      unfold act perform behind
      dsimp only
      split
      · rfl
      · rw [List.append_assoc]
    | _ => rfl
  | later wait a => rfl

theorem await_behind (head : List Bytes) (now wait number : Nat) (a : Act) (l : Link) :
    (l.behind head).await now wait a number = (l.await now wait a number).map id (behind head) := by
  unfold await
  split
  · rw [act_behind]
    rfl
  · rfl

theorem begin_behind (head : List Bytes) (now number : Nat) (l : Link) :
    (l.behind head).begin now number = (l.begin now number).map id (behind head) := by
  have awaits : ∀ (entries : List (Nat × Act)) begun,
      entries.foldl (fun (number, l) (wait, act) => l.await now wait act number)
          (Prod.map id (behind head) begun) =
        Prod.map id (behind head)
          (entries.foldl (fun (number, l) (wait, act) => l.await now wait act number) begun) := by
    intro entries begun
    apply List.foldl_hom
    rintro ⟨number, l⟩ ⟨wait, a⟩
    exact await_behind head now wait number a l
  exact awaits l.fresh (number, { l with fresh := [] })

theorem elapse_behind (head : List Bytes) (now : Nat) (before : Option Nat) (l : Link) :
    (l.behind head).elapse now before = (l.elapse now before).behind head := by
  have acts : ∀ (entries : List (Appointment × Act)) l,
      entries.foldl (fun l entry => l.act entry.2) (behind head l) =
        behind head (entries.foldl (fun l entry => l.act entry.2) l) := by
    intro entries l
    apply List.foldl_hom
    exact fun l entry => act_behind head l entry.2
  exact acts _ { l with agenda := l.agenda.dropWhile (comesBy now before) }

end Link

namespace Solo

variable {x y : Solo} {deadline : Nat}

/-! ## One step of the far side -/

theorem beginAll_le (fuel : Nat) (x : Solo) : (x.beginAll fuel).client = x.client ∧
    (x.beginAll fuel).now = x.now ∧ (x.beginAll fuel).link.toCome ≤ x.link.toCome := by
  induction fuel generalizing x with
  | zero => exact ⟨rfl, rfl, Nat.le_refl _⟩
  | succ fuel ih =>
    unfold beginAll
    split
    · exact ⟨rfl, rfl, Nat.le_refl _⟩
    · obtain ⟨client, now, less⟩ := ih { x with link := (x.link.begin x.now 0).2 }
      have begun := Link.toCome_begin_le x.now 0 x.link
      exact ⟨client, now, Nat.le_trans less (by dsimp only; omega)⟩

theorem begin_le (x : Solo) : x.begin.client = x.client ∧ x.begin.now = x.now ∧
    x.begin.link.toCome ≤ x.link.toCome := beginAll_le _ x

/-- Where some wait has not begun yet, it does now. -/
theorem toCome_begin_lt (fresh : x.link.fresh ≠ []) : x.begin.link.toCome < x.link.toCome := by
  have begun := Link.toCome_begin_le x.now 0 x.link
  have some_ := List.length_pos_iff.2 fresh
  have less : ∀ fuel, 0 < fuel → (x.beginAll fuel).link.toCome < x.link.toCome := by
    rintro (_ | fuel) pos
    · omega
    · rw [beginAll, if_neg (by simpa using fresh)]
      apply Nat.lt_of_le_of_lt (beginAll_le fuel _).2.2
      dsimp only
      omega
  exact less _ (by omega)

theorem toCome_jump_lt {due : Nat} (next : x.link.nextDue = some due) :
    (x.jump due).link.toCome < x.link.toCome := by
  obtain ⟨entry, first, rfl⟩ := Option.map_eq_some_iff.1 next
  obtain ⟨agenda, whole⟩ := List.head?_eq_some_iff.1 first
  have comes : Link.comesBy (max x.now entry.1.due) none entry = true := by
    simp [Link.comesBy]
  have elapsed := Link.toCome_elapse_le (max x.now entry.1.due) none x.link
  rw [whole, List.takeWhile_cons, if_pos comes, List.length_cons] at elapsed
  apply Nat.lt_of_le_of_lt (begin_le _).2.2
  dsimp only
  omega

/-- What the far side does next while everybody waits, if that is before a deadline. -/
def next? (deadline : Nat) (x : Solo) : Option Solo :=
  if x.link.fresh = [] then (x.link.nextDue.filter (· < deadline)).map x.jump else some x.begin

/-- Some time passes, but not all there is, and something happens. -/
structure Step (deadline : Nat) (x y : Solo) : Prop where
  client : y.client = x.client
  early : x.now < deadline → y.now < deadline
  less : y.link.toCome < x.link.toCome

theorem step_of_next? (next : x.next? deadline = some y) : Step deadline x y := by
  unfold next? at next
  split at next
  · obtain ⟨due, found, rfl⟩ := Option.map_eq_some_iff.1 next
    obtain ⟨found, before⟩ := Option.filter_eq_some_iff.1 found
    have before : due < deadline := by simpa using before
    obtain ⟨client, now, -⟩ := begin_le { x with
      now := max x.now due
      link := x.link.elapse (max x.now due) none }
    constructor
    case client => exact client
    case early =>
      intro early
      rw [jump, now]
      exact Nat.max_lt.2 ⟨early, before⟩
    case less => exact toCome_jump_lt found
  · rename_i fresh
    cases next
    obtain ⟨client, now, -⟩ := x.begin_le
    exact ⟨client, fun early => now ▸ early, toCome_begin_lt fresh⟩

/-- The same far side with another client, which has not read some chunks. -/
def behind (c : Client) (head : List Bytes) (x : Solo) : Solo :=
  { x with client := c, link := x.link.behind head }

theorem beginAll_behind (c : Client) (head : List Bytes) (fuel : Nat) (x : Solo) :
    (x.behind c head).beginAll fuel = (x.beginAll fuel).behind c head := by
  induction fuel generalizing x with
  | zero => rfl
  | succ fuel ih =>
    unfold beginAll
    by_cases rest : x.link.fresh.isEmpty
    · rw [if_pos rest, if_pos (show (x.behind c head).link.fresh.isEmpty from rest)]
    · rw [if_neg rest, if_neg (show ¬ (x.behind c head).link.fresh.isEmpty from rest), ← ih]
      have begun := Link.begin_behind head x.now 0 x.link
      exact congrArg (fun r => beginAll fuel ⟨c, r.2, x.now⟩) begun

theorem jump_behind (c : Client) (head : List Bytes) (due : Nat) (x : Solo) :
    (x.behind c head).jump due = (x.jump due).behind c head := by
  have elapsed := Link.elapse_behind head (max x.now due) none x.link
  have begun := beginAll_behind c head (x.link.elapse (max x.now due) none).toCome
    { x with now := max x.now due, link := x.link.elapse (max x.now due) none }
  refine Eq.trans ?_ begun
  exact congrArg (fun l => Solo.begin ⟨c, l, max x.now due⟩) elapsed

/-- The far side does the same. -/
theorem next?_behind (deadline : Nat) (c : Client) (head : List Bytes) (x : Solo) :
    (x.behind c head).next? deadline = (x.next? deadline).map (behind c head) := by
  unfold next?
  by_cases rest : x.link.fresh = []
  · rw [if_pos rest, if_pos (show (x.behind c head).link.fresh = [] from rest), Option.map_map]
    exact congrArg (Option.map · _) (funext fun due => jump_behind c head due x)
  · rw [if_neg rest, if_neg (show (x.behind c head).link.fresh ≠ [] from rest), Option.map_some]
    exact congrArg some (beginAll_behind c head _ x)

/-- Whose client waits makes no difference either. -/
theorem next?_client (deadline : Nat) (c : Client) (x : Solo) :
    next? deadline { x with client := c } = (x.next? deadline).map ({ · with client := c }) :=
  next?_behind deadline c [] x

/-! ## Waiting -/

/-- What can be seen of the far side until a deadline by somebody who does nothing but wait. -/
def moments (deadline : Nat) (x : Solo) : List Solo :=
  x :: match _next : x.next? deadline with
    | some y => y.moments deadline
    | none => []
termination_by x.link.toCome
decreasing_by exact (step_of_next? _next).less

theorem moments_eq (deadline : Nat) (x : Solo) :
    x.moments deadline = x :: ((x.next? deadline).map (moments deadline)).getD [] := by
  rw [moments]
  split
  · rename_i next
    rw [next]
    rfl
  · rename_i next
    rw [next]
    rfl

theorem early_of_mem_moments (early : x.now < deadline) : ∀ m ∈ x.moments deadline, m.now < deadline := by
  fun_induction moments deadline x with
  | case1 x ih =>
    cases next : x.next? deadline with
    | some y =>
      rw [List.forall_mem_cons]
      exact ⟨early, ih y next ((step_of_next? next).early early)⟩
    | none =>
      rw [List.forall_mem_cons]
      exact ⟨early, by simp⟩

section

variable {π : Type}
  {poll : Nat → π → Client → Link → Progress π (Except Fault Unit) × Client × Link}
  {due : π → Nat} {fuel : Nat} {w w' : π} {c : Client} {l : Link}

theorem await_done {result : Except Fault Unit} (enough : fuel ≠ 0)
    (polled : poll x.now w x.client x.link = (.done result, c, l)) :
    await poll due fuel w x = (result, ⟨c, l, x.now⟩) := by
  obtain ⟨fuel, rfl⟩ := Nat.exists_eq_add_one_of_ne_zero enough
  rw [await, polled]

theorem await_next (enough : fuel ≠ 0) (polled : poll x.now w x.client x.link = (.waiting w', c, l))
    (next : next? (due w') ⟨c, l, x.now⟩ = some y) :
    await poll due fuel w x = await poll due (fuel - 1) w' y := by
  obtain ⟨fuel, rfl⟩ := Nat.exists_eq_add_one_of_ne_zero enough
  unfold next? at next
  rw [await, polled]
  dsimp only at next ⊢
  split at next
  · rename_i fresh
    obtain ⟨time, found, rfl⟩ := Option.map_eq_some_iff.1 next
    rw [if_neg (by simp [fresh]), found]
    rfl
  · rename_i fresh
    cases next
    rw [if_pos (by simpa using fresh)]
    rfl

/-- If the far side does nothing more in time, the next poll is the last one. -/
theorem await_late {result : Except Fault Unit} {c' : Client} {l' : Link} (enough : 2 ≤ fuel)
    (polled : poll x.now w x.client x.link = (.waiting w', c, l))
    (next : next? (due w') ⟨c, l, x.now⟩ = none)
    (last : poll (max x.now (due w')) w' c l = (.done result, c', l')) :
    await poll due fuel w x = (result, ⟨c', l', max x.now (due w')⟩) := by
  obtain ⟨fuel, rfl⟩ : ∃ n, fuel = n + 1 := ⟨fuel - 1, by omega⟩
  unfold next? at next
  rw [await, polled]
  dsimp only at next ⊢
  split at next
  · rename_i fresh
    rw [if_neg (by simp [fresh]), Option.map_eq_none_iff.1 next]
    exact await_done (x := ⟨c, l, max x.now (due w')⟩) (by omega) last
  · cases next

/-- Only what comes of the first poll matters. -/
theorem await_congr (enough : fuel ≠ 0)
    (same : poll x.now w x.client x.link = poll x.now w' c l) :
    await poll due fuel w x = await poll due fuel w' ⟨c, l, x.now⟩ := by
  obtain ⟨fuel, rfl⟩ := Nat.exists_eq_add_one_of_ne_zero enough
  rw [await, await, same]

end

end Solo

end MqttLink
