import NamedSql.Decimal.Numeral

/-!
# JSON values

Numbers are kept as they are written. A string is a list of code points: an escape may name one half
of a surrogate pair without the other, and such a string stands for no text.
-/

namespace NamedSql

inductive Json where
  | null
  | bool (value : Bool)
  | number (numeral : Decimal.Numeral)
  | string (points : List Nat)
  | array (items : List Json)
  /-- Members in the order in which they are written; names may repeat. -/
  | object (members : List (List Nat × Json))
  deriving Inhabited, Repr

namespace Json

/-! ## Texts and code points -/

def points (s : String) : List Nat := s.toList.map Char.toNat

/-- The character of a code point, unless it is half of a surrogate pair or out of range. -/
def char? (n : Nat) : Option Char := if n.isValidChar then some (Char.ofNat n) else none

def ofPoints? (ps : List Nat) : Option String := (ps.mapM char?).map String.ofList

def ofText (s : String) : Json := .string (points s)

def text? : Json → Option String
  | .string ps => ofPoints? ps
  | _ => none

/-! ## Words -/

/-- The word that a value stands for: a text, or an object whose only member is null. -/
def word? : Json → Option String
  | .string ps => ofPoints? ps
  | .object [(name, .null)] => ofPoints? name
  | _ => none

/-! ## Members -/

def members? (ms : List (List Nat × Json)) : Option (List (String × Json)) :=
  ms.mapM fun m => (ofPoints? m.1).map fun name => (name, m.2)

def single? (name : String) (ms : List (String × Json)) : Option Json :=
  match ms.filter fun m => m.1 = name with
  | [m] => some m.2
  | _ => none

def ofMembers (ms : List (String × Json)) : Json :=
  .object (ms.map fun m => (points m.1, m.2))

/-- Puts a member where its name belongs; a member of the same name gives way to it. -/
def insertMember (name : String) (value : Json) : List (String × Json) → List (String × Json)
  | [] => [(name, value)]
  | m :: ms =>
    if name < m.1 then (name, value) :: m :: ms
    else if name = m.1 then (name, value) :: ms
    else m :: insertMember name value ms

def sortMembers (ms : List (String × Json)) : List (String × Json) :=
  ms.foldl (fun sorted m => insertMember m.1 m.2 sorted) []

end Json
end NamedSql
