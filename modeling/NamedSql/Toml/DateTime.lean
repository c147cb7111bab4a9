import NamedSql.Decimal.Digits

/-!
# Dates and times of TOML

A date, a time, or a date and a time joined by a letter `T` and perhaps followed by an offset. The
functions that end in a question mark accept one part at the start of a text and give back what
follows it.
-/

namespace NamedSql.Toml
open Decimal (digit?)

def pair? (a b : Char) : Option Nat :=
  match digit? a, digit? b with
  | some m, some n => some (10 * m.val + n.val)
  | _, _ => none

def isLeap (year : Nat) : Bool := year % 4 = 0 && (year % 100 ≠ 0 || year % 400 = 0)

def daysIn (year month : Nat) : Nat :=
  if month = 2 then if isLeap year then 29 else 28
  else if month = 4 ∨ month = 6 ∨ month = 9 ∨ month = 11 then 30
  else 31

def date? : List Char → Option (List Char)
  | a :: b :: c :: d :: '-' :: e :: f :: '-' :: g :: h :: rest =>
    match pair? a b, pair? c d, pair? e f, pair? g h with
    | some century, some year, some month, some day =>
      if 1 ≤ month ∧ month ≤ 12 ∧ 1 ≤ day ∧ day ≤ daysIn (100 * century + year) month then
        some rest
      else none
    | _, _, _, _ => none
  | _ => none

def fraction? : List Char → Option (List Char)
  | '.' :: c :: cs =>
    if (digit? c).isSome then some (cs.dropWhile fun c => (digit? c).isSome) else none
  | '.' :: [] => none
  | cs => some cs

/-- Accepts seconds, a leap second among them, or nothing. -/
def seconds? : List Char → Option (List Char)
  | ':' :: a :: b :: rest =>
    match pair? a b with
    | some s => if s ≤ 60 then fraction? rest else none
    | none => none
  | ':' :: _ => none
  | cs => some cs

def minutes? : List Char → Option (List Char)
  | a :: b :: ':' :: c :: d :: rest =>
    match pair? a b, pair? c d with
    | some h, some m => if h ≤ 23 ∧ m ≤ 59 then some rest else none
    | _, _ => none
  | _ => none

def time? (cs : List Char) : Option (List Char) := (minutes? cs).bind seconds?

def isOffset : List Char → Bool
  | [] => true
  | ['Z'] => true
  | ['z'] => true
  | c :: cs => (c = '+' || c = '-') && minutes? cs = some []

def isDate (cs : List Char) : Bool := date? cs = some []

def isZonedTime (cs : List Char) : Bool :=
  match time? cs with
  | some rest => isOffset rest
  | none => false

def isDateTime (cs : List Char) : Bool :=
  match date? cs with
  | some [] => true
  | some (c :: rest) => (c = 'T' || c = 't') && isZonedTime rest
  | none => time? cs = some []

end NamedSql.Toml
