import NamedSql.Decimal.Numeral
import NamedSql.Decimal.Scale
import NamedSql.Text.Hex

/-!
# Numbers of TOML

Integers are decimal with a sign, or unsigned with a base of sixteen, eight or two. Underscores may
stand between digits. Integers must fit into 128 bits and floats must not be too large for 64.
-/

namespace NamedSql.Toml
open Decimal (Digit Numeral digit?)

/-! ## Digits -/

def digitBelow? (base : Nat) (c : Char) : Option Nat :=
  (Text.hexValue? c).filter fun n => n < base

/-- The digits of a text in which single underscores may stand between digits. -/
def digits? (base : Nat) : List Char → Option (List Nat)
  | [] => none
  | [c] => (digitBelow? base c).map fun d => [d]
  | c :: d :: rest =>
    match digitBelow? base c with
    | none => none
    | some n =>
      if d = '_' then (digits? base rest).map fun ns => n :: ns
      else (digits? base (d :: rest)).map fun ns => n :: ns

def ofDigits (base : Nat) (ds : List Nat) : Nat := ds.foldl (fun n d => base * n + d) 0

def wholeDigits? (cs : List Char) : Option (List Nat) :=
  match digits? 10 cs with
  | some (0 :: _ :: _) => none
  | ds => ds

/-- A text without its sign, and whether the sign is a minus. -/
def signed : List Char → Bool × List Char
  | '-' :: cs => (true, cs)
  | '+' :: cs => (false, cs)
  | cs => (false, cs)

/-! ## Integers -/

def inRange (n : Int) : Bool := -(Nat.pow 2 127 : Int) ≤ n && n < (Nat.pow 2 128 : Int)

/-- The integer that a text denotes, whatever its size. -/
def unbounded? (cs : List Char) : Option Int :=
  match cs with
  | '0' :: 'x' :: rest => (digits? 16 rest).map fun ds => ofDigits 16 ds
  | '0' :: 'o' :: rest => (digits? 8 rest).map fun ds => ofDigits 8 ds
  | '0' :: 'b' :: rest => (digits? 2 rest).map fun ds => ofDigits 2 ds
  | cs =>
    let (negative, body) := signed cs
    (wholeDigits? body).map fun ds =>
      if negative then -(ofDigits 10 ds : Int) else ofDigits 10 ds

def integer? (cs : List Char) : Option Int := (unbounded? cs).filter inRange

/-! ## Floats -/

/-- Half way between the greatest float and the power of two above it. -/
def floatBound : Nat := Nat.pow 2 1024 - Nat.pow 2 970

/-- Whether `m * 10 ^ e` is too large for a float. Only where the number of digits leaves it open are
the numbers compared. -/
def isTooLarge (m : Nat) (e : Int) : Bool :=
  let places := (Decimal.digits m).length + e
  if m = 0 ∨ places < 300 then false
  else if 320 < places then true
  else floatBound * Decimal.upScale 10 (-e) ≤ m * Decimal.upScale 10 e

def exponent? : List Char → Option Int
  | [] => some 0
  | c :: cs =>
    if c = 'e' ∨ c = 'E' then
      let (negative, body) := signed cs
      (digits? 10 body).map fun ds => if negative then -(ofDigits 10 ds : Int) else ofDigits 10 ds
    else none

def isExponentMark (c : Char) : Bool := c = 'e' || c = 'E'

/-- Whether a text without its sign is a float, which has a point or an exponent. -/
def isUnsignedFloat (cs : List Char) : Bool :=
  let (whole, rest) := cs.span fun c => c ≠ '.' && !isExponentMark c
  let parts := match rest with
    | '.' :: rest =>
      let (fraction, power) := rest.span fun c => !isExponentMark c
      (digits? 10 fraction).bind fun ds => (exponent? power).map fun e => (ds, e)
    | [] => none
    | power => (exponent? power).map fun e => ([], e)
  match wholeDigits? whole, parts with
  | some ws, some (fs, e) => !isTooLarge (ofDigits 10 (ws ++ fs)) (e - fs.length)
  | _, _ => false

def isFloat (cs : List Char) : Bool :=
  let body := (signed cs).2
  body = ['i', 'n', 'f'] || body = ['n', 'a', 'n'] || isUnsignedFloat body

end NamedSql.Toml
