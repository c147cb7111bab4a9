import NamedSql.Text.Hex
import NamedSql.Toml.Blank

/-!
# Strings of TOML

A string stands in double quotes, with escapes, or in single quotes, without. Either kind can span
lines between tripled quotes. Each reader starts behind the opening quotes.
-/

namespace NamedSql.Toml

inductive StringKind where
  | basic
  | literal
  deriving DecidableEq, Repr

namespace StringKind

def quote : StringKind → Char
  | .basic => '\x22'
  | .literal => '\x27'

def escapes : StringKind → Bool
  | .basic => true
  | .literal => false

end StringKind

/-! ## Escapes -/

def unescape? (letter : Char) : Option Char :=
  if letter = '\x22' ∨ letter = '\x5C' then some letter
  else if letter = 'b' then some '\x08'
  else if letter = 'e' then some '\x1B'
  else if letter = 'f' then some '\x0C'
  else if letter = 'n' then some '\n'
  else if letter = 'r' then some '\r'
  else if letter = 't' then some '\t'
  else none

def coded? (digits : List Char) : Option Char :=
  match Text.readHex 0 digits.length digits with
  | some (n, _) => if n.isValidChar then some (Char.ofNat n) else none
  | none => none

def escape? : List Char → Option (Char × Nat)
  | [] => none
  | letter :: cs =>
    let count := if letter = 'x' then 2 else if letter = 'u' then 4 else if letter = 'U' then 8 else 0
    if count = 0 then (unescape? letter).map fun c => (c, 1)
    else if cs.length < count then none
    else (coded? (cs.take count)).map fun c => (c, count + 1)

def endsLine (cs : List Char) : Bool := (newline? (skipBlanks cs)).isSome

/-! ## Strings -/

/-- Reads a string within a line. The first `skip` characters belong to an escape. -/
def readLineString (kind : StringKind) (skip : Nat) : List Char → Option (List Char × List Char)
  | [] => none
  | c :: cs =>
    if 0 < skip then readLineString kind (skip - 1) cs
    else if c = kind.quote then some ([], cs)
    else if kind.escapes && c = '\x5C' then
      match escape? cs with
      | some (d, length) => (readLineString kind length cs).map fun r => (d :: r.1, r.2)
      | none => none
    else if isControl c then none
    else (readLineString kind 0 cs).map fun r => (c :: r.1, r.2)

/-- Where a string of several lines is being read. -/
inductive Spot where
  | text
  /-- In an escape with so many characters to go. -/
  | escape (left : Nat)
  /-- Behind a backslash that ends its line: blanks and empty lines do not count. -/
  | gap
  deriving DecidableEq, Repr

/-- The closing quotes at the start of a text: how many quotes before them belong to the string, and
what follows them. Up to two quotes may stand before the closing three. -/
def closing? (quote : Char) (cs : List Char) : Option (Nat × List Char) :=
  let count := min (cs.takeWhile (· = quote)).length 5
  if count < 3 then none else some (count - 3, cs.drop count)

def readBlockString (kind : StringKind) (spot : Spot) :
    List Char → Option (List Char × List Char)
  | [] => none
  | c :: cs =>
    let isEnd := c = '\n' || (c = '\r' && cs.head? = some '\n')
    match spot with
    | .escape (left + 1) => readBlockString kind (.escape left) cs
    | spot =>
      if spot = .gap && (isEnd || isBlank c) then readBlockString kind .gap cs
      else if c = kind.quote then
        match closing? kind.quote (c :: cs) with
        | some (count, rest) => some (List.replicate count kind.quote, rest)
        | none => (readBlockString kind .text cs).map fun r => (c :: r.1, r.2)
      else if kind.escapes && c = '\x5C' then
        if endsLine cs then readBlockString kind .gap cs
        else
          match escape? cs with
          | some (d, length) =>
            (readBlockString kind (.escape length) cs).map fun r => (d :: r.1, r.2)
          | none => none
      else if isControl c && !isEnd then none
      else (readBlockString kind .text cs).map fun r => (c :: r.1, r.2)

/-- Reads a string behind its first quote. A line end right behind tripled quotes does not count. -/
def readString (kind : StringKind) (cs : List Char) : Option (List Char × List Char) :=
  match cs with
  | c :: d :: rest =>
    if c = kind.quote ∧ d = kind.quote then
      readBlockString kind .text ((newline? rest).getD rest)
    else readLineString kind 0 cs
  | _ => readLineString kind 0 cs

end NamedSql.Toml
