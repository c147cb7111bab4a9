import NamedSql.Entries
import NamedSql.Toml.Expr

/-!
# Tables of TOML

Lines are entered one after the other. A table can be named again only in the way in which it came
about:

* a header may claim a table that so far is only on the way to others, and no table twice;
* dotted keys extend tables that dotted keys made, and no others;
* an inline table is closed.
-/

namespace NamedSql.Toml

inductive Origin where
  /-- By its own header. -/
  | header
  /-- On the way of a header to another table. -/
  | implied
  /-- On the way of a dotted key. -/
  | dotted
  /-- As a value in braces. -/
  | inline
  deriving DecidableEq, Repr

inductive Value where
  | string (text : String)
  | integer (value : Int)
  | float (text : String)
  | boolean (value : Bool)
  | dateTime (text : String)
  | array (items : List Value)
  | table (origin : Origin) (entries : Entries Value)
  /-- An array of tables, each with its own header. -/
  | tables (items : List (Entries Value))
  deriving Inhabited

abbrev Table := Entries Value

/-! ## Finding the way -/

/-- What names the tables on the way. -/
inductive Route where
  | header
  | dotted
  deriving DecidableEq, Repr

namespace Route

def makes : Route → Origin
  | .header => .implied
  | .dotted => .dotted

def passes (r : Route) (o : Origin) : Bool :=
  match r with
  | .header => o ≠ .inline
  | .dotted => o = .implied || o = .dotted

end Route

/-- Edits the table at the end of a path, making the tables that are missing on the way. An array of
tables stands for its last one. -/
def edit (r : Route) (f : Origin → Table → Option Table) :
    List String → Origin → Table → Option Table
  | [], o, t => f o t
  | name :: path, _, t =>
    match t.get? name with
    | none => (edit r f path r.makes ∅).map fun inner => t.set name (.table r.makes inner)
    | some (.table o inner) =>
      if r.passes o then (edit r f path o inner).map fun inner => t.set name (.table o inner)
      else none
    | some (.tables items) =>
      match items.getLast? with
      | none => none
      | some last =>
        (edit r f path .header last).map fun last => t.set name (.tables (items.dropLast ++ [last]))
    | some _ => none

/-! ## Assignments -/

/-- Adds a value to the table at the end of a dotted key. That table was made by dotted keys if the
key has any path, and was not otherwise; and no name is assigned twice. -/
def assign (key : Key) (v : Value) (o : Origin) (t : Table) : Option Table :=
  let add (o : Origin) (t : Table) : Option Table :=
    if decide (o = .dotted) = key.path.isEmpty ∨ t.contains key.name then none
    else some (t.set key.name v)
  edit .dotted add key.path o t

mutual

/-- The value of an expression, unless an inline table in it contradicts itself. -/
def Expr.value? : Expr → Option Value
  | .string s => some (.string s)
  | .integer n => some (.integer n)
  | .float s => some (.float s)
  | .boolean b => some (.boolean b)
  | .dateTime s => some (.dateTime s)
  | .array items => (Expr.values? items).map .array
  | .inlineTable pairs => (Expr.table? ∅ pairs).map (.table .inline)

def Expr.values? : List Expr → Option (List Value)
  | [] => some []
  | e :: es =>
    match e.value?, Expr.values? es with
    | some v, some vs => some (v :: vs)
    | _, _ => none

def Expr.table? (t : Table) : List (Key × Expr) → Option Table
  | [] => some t
  | (key, e) :: pairs =>
    match e.value? with
    | none => none
    | some v =>
      match assign key v .inline t with
      | none => none
      | some t => Expr.table? t pairs

end

/-! ## Documents -/

/-- A document up to some line: its tables, and the path of the last header. -/
structure Document where
  root : Table := ∅
  current : List String := []

namespace Document

def claim (name : String) (_ : Origin) (t : Table) : Option Table :=
  match t.get? name with
  | none => some (t.set name (.table .header ∅))
  | some (.table .implied inner) => some (t.set name (.table .header inner))
  | some _ => none

def append (name : String) (_ : Origin) (t : Table) : Option Table :=
  match t.get? name with
  | none => some (t.set name (.tables [∅]))
  | some (.tables items) => some (t.set name (.tables (items ++ [∅])))
  | some _ => none

def enter (d : Document) : Line → Option Document
  | .header key =>
    (edit .header (claim key.name) key.path .header d.root).map fun root =>
      { root, current := key.path ++ [key.name] }
  | .arrayHeader key =>
    (edit .header (append key.name) key.path .header d.root).map fun root =>
      { root, current := key.path ++ [key.name] }
  | .assign key e =>
    e.value?.bind fun v =>
      (edit .header (assign key v) d.current .header d.root).map fun root => { d with root }

def ofLines? (lines : List Line) : Option Table :=
  (lines.foldlM enter {}).map Document.root

end Document
end NamedSql.Toml
