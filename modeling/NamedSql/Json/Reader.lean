import NamedSql.Json
import NamedSql.Text.Hex

/-!
# Reading JSON

Each reader takes one item from the start of a text and gives the rest back, or refuses. `parse`
accepts a value with blanks around it and nothing else.
-/

namespace NamedSql.Json
open Decimal (Digit Numeral digit?)

def isBlank (c : Char) : Bool := c = ' ' || c = '\t' || c = '\n' || c = '\r'

def skipBlanks (cs : List Char) : List Char := cs.dropWhile isBlank

/-! ## Numbers -/

def takeDigits : List Char → List Digit × List Char
  | [] => ([], [])
  | c :: cs =>
    match digit? c with
    | some d => (d :: (takeDigits cs).1, (takeDigits cs).2)
    | none => ([], c :: cs)

/-- The digits before the point: a zero that stands alone, or digits that do not start with one. -/
def readWhole (cs : List Char) : Option (List Digit × List Char) :=
  match cs with
  | '0' :: rest => some ([Decimal.zero], rest)
  | cs => if (takeDigits cs).1.isEmpty then none else some (takeDigits cs)

def readFraction (cs : List Char) : Option (List Digit × List Char) :=
  match cs with
  | '.' :: rest => if (takeDigits rest).1.isEmpty then none else some (takeDigits rest)
  | cs => some ([], cs)

def readPower (negative : Bool) (cs : List Char) : Option (Option Int × List Char) :=
  let (ds, rest) := takeDigits cs
  let size : Int := Decimal.value ds
  if ds.isEmpty then none else some (some (if negative then -size else size), rest)

def readExponent (cs : List Char) : Option (Option Int × List Char) :=
  match cs with
  | c :: rest =>
    if c = 'e' ∨ c = 'E' then
      match rest with
      | '-' :: rest => readPower true rest
      | '+' :: rest => readPower false rest
      | rest => readPower false rest
    else some (none, cs)
  | [] => some (none, [])

def readUnsigned (negative : Bool) (cs : List Char) : Option (Numeral × List Char) := do
  let (whole, cs) ← readWhole cs
  let (fraction, cs) ← readFraction cs
  let (exponent, cs) ← readExponent cs
  return ({ negative, whole, fraction, exponent }, cs)

def readNumber (cs : List Char) : Option (Numeral × List Char) :=
  match cs with
  | '-' :: rest => readUnsigned true rest
  | cs => readUnsigned false cs

/-! ## Strings -/

def unescape? (letter : Char) : Option Nat :=
  if letter = '\x22' ∨ letter = '\x5C' ∨ letter = '/' then some letter.toNat
  else if letter = 'b' then some 0x08
  else if letter = 'f' then some 0x0C
  else if letter = 'n' then some 0x0A
  else if letter = 'r' then some 0x0D
  else if letter = 't' then some 0x09
  else none

/-- Reads on from an opening quote to the closing one. Each escape gives one unit. -/
def readUnits : List Char → Option (List Nat × List Char)
  | [] => none
  | c :: cs =>
    if c = '\x22' then some ([], cs)
    else if c = '\x5C' then
      match cs with
      | [] => none
      | 'u' :: a :: b :: c :: d :: rest =>
        match Text.readHex 0 4 [a, b, c, d], readUnits rest with
        | some (n, _), some (units, rest) => some (n :: units, rest)
        | _, _ => none
      | letter :: rest =>
        match unescape? letter, readUnits rest with
        | some n, some (units, rest) => some (n :: units, rest)
        | _, _ => none
    else if c.toNat < 0x20 then none
    else (readUnits cs).map fun r => (c.toNat :: r.1, r.2)

def isHigh (n : Nat) : Bool := 0xD800 ≤ n && n ≤ 0xDBFF

def isLow (n : Nat) : Bool := 0xDC00 ≤ n && n ≤ 0xDFFF

def joinPairs : List Nat → List Nat
  | u :: v :: rest =>
    if isHigh u && isLow v then
      (0x10000 + (u - 0xD800) * 0x400 + (v - 0xDC00)) :: joinPairs rest
    else u :: joinPairs (v :: rest)
  | us => us

def readString (cs : List Char) : Option (List Nat × List Char) :=
  (readUnits cs).map fun r => (joinPairs r.1, r.2)

/-! ## Values -/

mutual

/-- Reads a value. Each step into a value costs a unit of `fuel`. -/
def readValue (fuel : Nat) (cs : List Char) : Option (Json × List Char) :=
  match fuel with
  | 0 => none
  | fuel + 1 =>
    match skipBlanks cs with
    | 'n' :: 'u' :: 'l' :: 'l' :: rest => some (.null, rest)
    | 't' :: 'r' :: 'u' :: 'e' :: rest => some (.bool true, rest)
    | 'f' :: 'a' :: 'l' :: 's' :: 'e' :: rest => some (.bool false, rest)
    | '\x22' :: rest => (readString rest).map fun r => (.string r.1, r.2)
    | '[' :: rest =>
      match skipBlanks rest with
      | ']' :: rest => some (.array [], rest)
      | rest => (readItems fuel rest).map fun r => (.array r.1, r.2)
    | '\x7b' :: rest =>
      match skipBlanks rest with
      | '\x7d' :: rest => some (.object [], rest)
      | rest => (readMembers fuel rest).map fun r => (.object r.1, r.2)
    | rest => (readNumber rest).map fun r => (.number r.1, r.2)

def readItems (fuel : Nat) (cs : List Char) : Option (List Json × List Char) :=
  match fuel with
  | 0 => none
  | fuel + 1 =>
    match readValue fuel cs with
    | none => none
    | some (v, rest) =>
      match skipBlanks rest with
      | ',' :: rest => (readItems fuel rest).map fun r => (v :: r.1, r.2)
      | ']' :: rest => some ([v], rest)
      | _ => none

def readMembers (fuel : Nat) (cs : List Char) : Option (List (List Nat × Json) × List Char) :=
  match fuel with
  | 0 => none
  | fuel + 1 =>
    match skipBlanks cs with
    | '\x22' :: rest =>
      match readString rest with
      | none => none
      | some (name, rest) =>
        match skipBlanks rest with
        | ':' :: rest =>
          match readValue fuel rest with
          | none => none
          | some (v, rest) =>
            match skipBlanks rest with
            | ',' :: rest => (readMembers fuel rest).map fun r => ((name, v) :: r.1, r.2)
            | '\x7d' :: rest => some ([(name, v)], rest)
            | _ => none
        | _ => none
    | _ => none

end

/-- The value that a text holds. A value costs at most two units of fuel for each character. -/
def parse (s : String) : Option Json :=
  let cs := s.toList
  match readValue (2 * cs.length + 2) cs with
  | some (v, rest) => if skipBlanks rest = [] then some v else none
  | none => none

end NamedSql.Json
