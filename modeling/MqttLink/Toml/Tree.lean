import MqttLink.Toml.Value

/-!
# From statements to a table

The statements of a document build one tree. No statement may change what an earlier one has said: a
value stands alone, a table is opened once, and a table that keys with points have made grows by
such keys only.
-/

namespace MqttLink.Toml

/-- How a table came to be. -/
inductive Origin where
  /-- A header names it. -/
  | header
  /-- A header names a table below it. -/
  | onTheWay
  /-- A key with points leads through it. -/
  | points
  deriving DecidableEq, Repr

inductive Node where
  | value (v : Value)
  | table (origin : Origin) (fields : List (String × Node))
  /-- A list of tables, of which the last one still grows. -/
  | elements (done : List (List (String × Node))) (last : List (String × Node))

abbrev Tree := List (String × Node)

namespace Tree

/-- A known key keeps its place. -/
def put (key : String) (n : Node) : Tree → Tree
  | [] => [(key, n)]
  | (k, m) :: rest => if k = key then (k, n) :: rest else (k, m) :: put key n rest

/-! ## The way to a table -/

/-- Who is looking for a table: a header, or a key with points. -/
inductive Seeker where
  | header
  | points
  deriving DecidableEq, Repr

/-- What a missing table on the way becomes. -/
def Seeker.makes : Seeker → Origin
  | header => .onTheWay
  | points => .points

/-- A key with points does not lead into a table that a header has opened. -/
def Seeker.mayEnter : Seeker → Origin → Bool
  | header, _ => true
  | points, origin => origin != .header

/-- Changes the table at the end of a path. In a list of tables the way leads into the last one. -/
def alter (seeker : Seeker) (f : Origin → Tree → Option Tree) :
    List String → Origin → Tree → Option Tree
  | [], origin, t => f origin t
  | key :: path, _, t =>
    match t.lookup key with
    | none => (alter seeker f path seeker.makes []).map fun sub => put key (.table seeker.makes sub) t
    | some (.value _) => none
    | some (.table origin sub) =>
      if seeker.mayEnter origin then
        (alter seeker f path origin sub).map fun sub => put key (.table origin sub) t
      else none
    | some (.elements done last) =>
      (alter seeker f path .header last).map fun last => put key (.elements done last) t

/-! ## Statements -/

/-- A new key with its value. Behind points it has to go into a table that points have made. -/
def addValue (behindPoints : Bool) (key : String) (v : Value) (origin : Origin) (t : Tree) :
    Option Tree :=
  if behindPoints = (origin == .points) ∧ (t.lookup key).isNone then some (put key (.value v) t)
  else none

def assign (path : Path) (v : Value) (t : Tree) : Option Tree :=
  alter .points (addValue (!path.parents.isEmpty) path.key v) path.parents .header t

/-- Opens a table that is new, or has only been on the way so far. -/
def openTable (path : Path) (t : Tree) : Option Tree :=
  alter .header (fun _ t =>
    match t.lookup path.key with
    | none => some (put path.key (.table .header []) t)
    | some (.table .onTheWay sub) => some (put path.key (.table .header sub) t)
    | some _ => none) path.parents .header t

/-- Opens one more table of a list. -/
def openElement (path : Path) (t : Tree) : Option Tree :=
  alter .header (fun _ t =>
    match t.lookup path.key with
    | none => some (put path.key (.elements [] []) t)
    | some (.elements done last) => some (put path.key (.elements (done ++ [last]) []) t)
    | some _ => none) path.parents .header t

/-- A tree and the path of the table that is open. -/
structure Growing where
  tree : Tree := []
  place : List String := []

def Growing.step (g : Growing) : Statement → Option Growing
  | .table path => (openTable path g.tree).map (⟨·, path.parents ++ [path.key]⟩)
  | .element path => (openElement path g.tree).map (⟨·, path.parents ++ [path.key]⟩)
  | .assign path v =>
    (alter .header (fun _ => assign path v) g.place .header g.tree).map fun tree => { g with tree }

def ofStatements? (ss : List Statement) : Option Tree := (ss.foldlM Growing.step {}).map (·.tree)

/-- The assignments within braces build a tree of their own. -/
def ofAssignments? (as : List (Path × Value)) : Option Tree :=
  as.foldlM (fun t (path, v) => assign path v t) []

end Tree

/-! ## Values -/

mutual

def Node.toValue : Node → Value
  | .value v => v
  | .table _ fields => .table (Tree.toFields fields)
  | .elements done last => .array (Tree.toItems done ++ [.table (Tree.toFields last)])

def Tree.toFields : List (String × Node) → List (String × Value)
  | [] => []
  | (key, n) :: rest => (key, n.toValue) :: Tree.toFields rest

def Tree.toItems : List (List (String × Node)) → List Value
  | [] => []
  | t :: rest => .table (Tree.toFields t) :: Tree.toItems rest

end

end MqttLink.Toml
