import MqttLink.Toml.Tree

/-!
# What statements build

Main statements: a header and the assignments behind it make a table of just these fields at the end of the
document, and several headers for the elements of a list make just these elements.
-/

namespace MqttLink.Toml

namespace Tree

/-! ## Fields -/

/-- A table whose fields are all values. -/
def ofFields (fs : List (String × Value)) : Tree := fs.map fun f => (f.1, .value f.2)

theorem toFields_ofFields (fs : List (String × Value)) : toFields (ofFields fs) = fs := by
  induction fs with
  | nil => rfl
  | cons f fs ih => exact congrArg (f :: ·) ih

theorem toFields_append (s t : Tree) : toFields (s ++ t) = toFields s ++ toFields t := by
  induction s with
  | nil => rfl
  | cons f s ih => exact congrArg ((f.1, f.2.toValue) :: ·) ih

section

variable {t before fields : Tree} {key name : String} {n m : Node}

theorem put_append (new : before.lookup key = none) (t : Tree) :
    put key n (before ++ t) = before ++ put key n t := by
  induction before with
  | nil => rfl
  | cons f before ih =>
    rw [List.lookup_cons] at new
    split at new
    · cases new
    · rename_i other
      rw [List.cons_append, put, if_neg (by rintro rfl; simp at other), ih new]
      rfl

theorem put_of_new (new : t.lookup key = none) : put key n t = t ++ [(key, n)] := by
  rw [← put.eq_1 key n, ← put_append new, List.append_nil]

theorem lookup_last (new : before.lookup key = none) :
    (before ++ [(key, n)]).lookup key = some n := by
  rw [List.lookup_append, new, Option.none_or, List.lookup_cons_self]

theorem put_last (new : before.lookup key = none) :
    put key m (before ++ [(key, n)]) = before ++ [(key, m)] := by
  rw [put_append new, put, if_pos rfl]

/-! ## Assignments -/

/-- What a header opens, with room for its fields. -/
inductive Opened : (Tree → Node) → Prop
  | table : Opened (.table .header)
  | element (done : List Tree) : Opened (.elements done)

variable {node : Tree → Node}

/-- The way into the table that was opened last. -/
theorem alter_last (opened : Opened node) (new : before.lookup name = none) (f : Tree → Option Tree)
    (origin : Origin) :
    alter .header (fun _ => f) [name] origin (before ++ [(name, node fields)]) =
      (f fields).map fun fields => before ++ [(name, node fields)] := by
  rw [alter, lookup_last new]
  cases opened with
  | table | element done =>
    simp only [Seeker.mayEnter, if_true, alter]
    congr 1
    funext fields
    exact put_last new

theorem assign_new (new : t.lookup key = none) (v : Value) :
    assign { key } v t = some (t ++ [(key, .value v)]) := by
  have free : (t.lookup key).isNone = true := by rw [new]; rfl
  rw [← put_of_new new]
  exact if_pos ⟨rfl, free⟩

theorem step_assign (opened : Opened node) (new : before.lookup name = none)
    (free : fields.lookup key = none) (v : Value) :
    Growing.step ⟨before ++ [(name, node fields)], [name]⟩ (.assign { key } v) =
      some ⟨before ++ [(name, node (fields ++ [(key, .value v)]))], [name]⟩ := by
  rw [Growing.step, alter_last opened new, assign_new free]
  rfl

end

end Tree

namespace Statement

def ofField (f : String × Value) : Statement := .assign { key := f.1 } f.2

/-- The next table of a list. -/
def ofElement (name : String) (fs : List (String × Value)) : List Statement :=
  .element { key := name } :: fs.map ofField

end Statement

namespace Tree

variable {before fields t : Tree} {name : String} {node : Tree → Node} {fs : List (String × Value)}

theorem foldlM_fields (opened : Opened node) (new : before.lookup name = none)
    (distinct : (fs.map Prod.fst).Nodup) (free : ∀ f ∈ fs, fields.lookup f.1 = none) :
    (fs.map Statement.ofField).foldlM Growing.step ⟨before ++ [(name, node fields)], [name]⟩ =
      some ⟨before ++ [(name, node (fields ++ ofFields fs))], [name]⟩ := by
  induction fs generalizing fields with
  | nil => simp [ofFields]
  | cons f fs ih =>
    rw [List.map_cons, List.nodup_cons] at distinct
    obtain ⟨first, free⟩ := List.forall_mem_cons.1 free
    have later : ∀ g ∈ fs, (fields ++ [(f.1, Node.value f.2)]).lookup g.1 = none := by
      intro g mem
      have other : g.1 ≠ f.1 := fun e => distinct.1 (List.mem_map.2 ⟨g, mem, e⟩)
      rw [List.lookup_append, free g mem, Option.none_or, List.lookup_cons, beq_false_of_ne other]
      rfl
    rw [List.map_cons, List.foldlM_cons, Statement.ofField, step_assign opened new first]
    change (fs.map Statement.ofField).foldlM Growing.step _ = _
    rw [ih distinct.2 later, List.append_assoc]
    rfl

/-! ## Sections -/

/-- Before the first header everything belongs to the document itself. -/
theorem step_root (new : t.lookup name = none) (v : Value) :
    Growing.step ⟨t, []⟩ (.assign { key := name } v) = some ⟨t ++ [(name, .value v)], []⟩ := by
  rw [Growing.step, alter, assign_new new]
  rfl

theorem step_table (new : t.lookup name = none) (place : List String) :
    Growing.step ⟨t, place⟩ (.table { key := name }) =
      some ⟨t ++ [(name, .table .header [])], [name]⟩ := by
  rw [Growing.step, openTable, alter, new, put_of_new new]
  rfl

theorem step_element (new : t.lookup name = none) (place : List String) :
    Growing.step ⟨t, place⟩ (.element { key := name }) =
      some ⟨t ++ [(name, .elements [] [])], [name]⟩ := by
  rw [Growing.step, openElement, alter, new, put_of_new new]
  rfl

theorem step_next_element (new : before.lookup name = none) (done : List Tree) (last : Tree)
    (place : List String) :
    Growing.step ⟨before ++ [(name, .elements done last)], place⟩ (.element { key := name }) =
      some ⟨before ++ [(name, .elements (done ++ [last]) [])], [name]⟩ := by
  rw [Growing.step, openElement, alter, lookup_last new]
  dsimp only
  rw [put_last new]
  rfl

theorem foldlM_table (new : t.lookup name = none) (place : List String)
    (distinct : (fs.map Prod.fst).Nodup) :
    (.table { key := name } :: fs.map Statement.ofField).foldlM Growing.step ⟨t, place⟩ =
      some ⟨t ++ [(name, .table .header (ofFields fs))], [name]⟩ := by
  rw [List.foldlM_cons, step_table new]
  exact foldlM_fields .table new distinct fun _ _ => rfl

/-- The last table of a list stands apart from the others. -/
def nodeOfTables (ts : List Tree) : Node := .elements ts.dropLast (ts.getLastD [])

theorem nodeOfTables_append (done : List Tree) (last : Tree) :
    nodeOfTables (done ++ [last]) = .elements done last := by
  simp [nodeOfTables]

theorem toItems_eq (ts : List Tree) : toItems ts = ts.map fun t => .table (toFields t) := by
  induction ts with
  | nil => rfl
  | cons t ts ih => exact congrArg (.table (toFields t) :: ·) ih

theorem toValue_nodeOfTables {ts : List Tree} (some_ : ts ≠ []) :
    (nodeOfTables ts).toValue = .array (ts.map fun t => .table (toFields t)) := by
  obtain ⟨done, last, rfl⟩ : ∃ done last, ts = done ++ [last] :=
    ⟨_, _, (List.dropLast_concat_getLast some_).symm⟩
  rw [nodeOfTables_append, Node.toValue, toItems_eq, List.map_append]
  rfl

theorem foldlM_element {done : List Tree} (new : before.lookup name = none)
    (distinct : (fs.map Prod.fst).Nodup) :
    (fs.map Statement.ofField).foldlM Growing.step ⟨before ++ [(name, .elements done [])], [name]⟩ =
      some ⟨before ++ [(name, .elements done (ofFields fs))], [name]⟩ :=
  foldlM_fields (.element done) new distinct fun _ _ => rfl

theorem foldlM_next_elements {fss : List (List (String × Value))} (new : before.lookup name = none)
    (distinct : ∀ fs ∈ fss, (fs.map Prod.fst).Nodup) (done : List Tree) (last : Tree) :
    (fss.flatMap (Statement.ofElement name)).foldlM Growing.step
        ⟨before ++ [(name, .elements done last)], [name]⟩ =
      some ⟨before ++ [(name, nodeOfTables (done ++ last :: fss.map ofFields))], [name]⟩ := by
  induction fss generalizing done last with
  | nil =>
    rw [List.map_nil, nodeOfTables_append]
    rfl
  | cons fs fss ih =>
    obtain ⟨first, others⟩ := List.forall_mem_cons.1 distinct
    rw [List.flatMap_cons, List.foldlM_append, Statement.ofElement, List.foldlM_cons,
      step_next_element new]
    change ((fs.map Statement.ofField).foldlM Growing.step _ >>= _) = _
    rw [foldlM_element new first]
    change (fss.flatMap (Statement.ofElement name)).foldlM Growing.step _ = _
    rw [ih others, List.append_assoc]
    rfl

theorem foldlM_elements {fss : List (List (String × Value))} (new : t.lookup name = none)
    (some_ : fss ≠ []) (distinct : ∀ fs ∈ fss, (fs.map Prod.fst).Nodup) (place : List String) :
    (fss.flatMap (Statement.ofElement name)).foldlM Growing.step ⟨t, place⟩ =
      some ⟨t ++ [(name, nodeOfTables (fss.map ofFields))], [name]⟩ := by
  obtain ⟨fs, fss, rfl⟩ := List.exists_cons_of_ne_nil some_
  obtain ⟨first, others⟩ := List.forall_mem_cons.1 distinct
  rw [List.flatMap_cons, List.foldlM_append, Statement.ofElement, List.foldlM_cons, step_element new]
  change ((fs.map Statement.ofField).foldlM Growing.step _ >>= _) = _
  rw [foldlM_element new first]
  exact foldlM_next_elements new others [] (ofFields fs)

end Tree

end MqttLink.Toml
