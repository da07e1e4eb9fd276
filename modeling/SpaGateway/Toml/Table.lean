import SpaGateway.Config.Datum

/-!
# TOML tables

A TOML document builds a tree of tables by headers and by dotted keys. A table may be made in
passing, by a path that leads through it, and completed later by its own header; a table made
by dotted keys may only be extended by dotted keys. The flags of a table keep this apart.
-/

namespace SpaGateway

namespace Toml

mutual

/-- What stands at a key. -/
inductive Node where
  | value (datum : Datum)
  | table (table : Table)
  /-- An array of tables, the last one first. -/
  | tables (last : Table) (others : List Table)

/-- A table that is being built. -/
inductive Table where
  /-- `implicit`: no header or inline table stands for it. `dotted`: a dotted key made it. -/
  | mk (entries : List (String × Node)) (implicit dotted : Bool)

end

namespace Table

def entries : Table → List (String × Node)
  | mk entries _ _ => entries

def isImplicit : Table → Bool
  | mk _ implicit _ => implicit

def isDotted : Table → Bool
  | mk _ _ dotted => dotted

/-- A table with a header of its own. -/
def fresh : Table := mk [] false false

instance : Inhabited Table := ⟨fresh⟩

/-- What stands at a key. -/
def get? (t : Table) (key : String) : Option Node :=
  (t.entries.find? (·.1 = key)).map (·.2)

/-- The table with something else at a key; a new key comes last. -/
def put (t : Table) (key : String) (node : Node) : Table :=
  let entries :=
    if (t.get? key).isSome then
      t.entries.map fun entry => if entry.1 = key then (key, node) else entry
    else t.entries ++ [(key, node)]
  mk entries t.isImplicit t.isDotted

/-- Changes the table at a path, making tables on the way. A dotted path may only go through
tables that dotted keys or headers further down made. -/
def modifyAt (dotted : Bool) (f : Table → Option Table) : List String → Table → Option Table
  | [], t => f t
  | key :: path, t =>
    match t.get? key with
    | none => do
      let child ← modifyAt dotted f path (mk [] true dotted)
      some (t.put key (.table child))
    | some (.value _) => none
    | some (.tables last others) => do
      let last ← modifyAt dotted f path last
      some (t.put key (.tables last others))
    | some (.table child) =>
      if dotted && !child.isImplicit then none
      else do
        let child ← modifyAt dotted f path child
        some (t.put key (.table child))

/-- The table that a path leads to, through the last tables of arrays. -/
def find? : List String → Table → Option Table
  | [], t => some t
  | key :: path, t =>
    match t.get? key with
    | some (.table child) => find? path child
    | some (.tables last _) => find? path last
    | _ => none

/-- Gives a value to a key at a dotted path. The key must be new, and tables on the way must
have been made by dotted keys. -/
def assign (path : List String) (key : String) (datum : Datum) (t : Table) : Option Table :=
  let put (t : Table) : Option Table :=
    if t.isDotted == path.isEmpty then none
    else if (t.get? key).isSome then none
    else some (t.put key (.value datum))
  modifyAt true put path t

end Table

mutual

/-- What a table says. -/
def Table.toDatum : Table → Datum
  | .mk entries _ _ => .record (entriesToData entries)

/-- What the entries of a table say. -/
def entriesToData : List (String × Node) → List (Option String × Datum)
  | [] => []
  | (key, node) :: entries => (some key, node.toDatum) :: entriesToData entries

/-- What stands at a key, as data. -/
def Node.toDatum : Node → Datum
  | .value datum => datum
  | .table t => t.toDatum
  | .tables last others => .list ((last.toDatum :: tablesToData others).reverse)

/-- What the tables of an array say. -/
def tablesToData : List Table → List Datum
  | [] => []
  | t :: ts => t.toDatum :: tablesToData ts

end

/-! ## Documents -/

/-- A document under construction: the finished part, and the table that is being filled
together with the path of its header. -/
structure Document where
  root : Table := .fresh
  current : Table := .fresh
  path : List String := []
  /-- Whether the current table belongs to an array of tables. -/
  inArray : Bool := false
  deriving Inhabited

namespace Document

/-- Puts a table at the end of an array of tables. -/
def pushTable (key : String) (table parent : Table) : Option Table :=
  match parent.get? key with
  | none => some (parent.put key (.tables table []))
  | some (.tables last others) => some (parent.put key (.tables table (last :: others)))
  | some _ => none

/-- Puts a table in place; only a table made in passing may stand there. -/
def placeTable (key : String) (table parent : Table) : Option Table :=
  match parent.get? key with
  | none => some (parent.put key (.table table))
  | some (.table old) => if old.isImplicit then some (parent.put key (.table table)) else none
  | some _ => none

/-- Moves the current table to its place. -/
def finish (d : Document) : Option Table :=
  match d.path.getLast? with
  | none => some d.current
  | some key =>
    let place := if d.inArray then pushTable key d.current else placeTable key d.current
    Table.modifyAt false place d.path.dropLast d.root

/-- The table that a header's parent path leads to, in the document as far as it is finished. -/
def parentOf (root : Table) (path : List String) : Option Table := do
  Table.find? path.dropLast (← Table.modifyAt false some path.dropLast root)

/-- Begins the table of a header. A table made in passing keeps what it holds. -/
def openTable (d : Document) (path : List String) : Option Document := do
  let root ← d.finish
  let parent ← parentOf root path
  let current ← match parent.get? (← path.getLast?) with
    | none => some Table.fresh
    | some (.table old) =>
      if old.isImplicit && !old.isDotted then some (.mk old.entries false false) else none
    | some _ => none
  some { root, current, path, inArray := false }

/-- Begins the next table of an array of tables. -/
def openArrayTable (d : Document) (path : List String) : Option Document := do
  let root ← d.finish
  let parent ← parentOf root path
  match parent.get? (← path.getLast?) with
  | none | some (.tables _ _) => some { root, path, inArray := true }
  | some _ => none

/-- Gives a value to a key of the current table. -/
def assign (d : Document) (path : List String) (key : String) (datum : Datum) :
    Option Document := do
  some { d with current := ← d.current.assign path key datum }

end Document

end Toml

end SpaGateway
