/-! # Hexadecimal digits -/

namespace NamedSql.Text

def hexValue? (c : Char) : Option Nat :=
  let n := c.toNat
  if 48 ≤ n ∧ n ≤ 57 then some (n - 48)
  else if 65 ≤ n ∧ n ≤ 70 then some (n - 55)
  else if 97 ≤ n ∧ n ≤ 102 then some (n - 87)
  else none

/-- Reads exactly `count` hexadecimal digits; `n` is what the digits before them denote. -/
def readHex (n : Nat) : Nat → List Char → Option (Nat × List Char)
  | 0, cs => some (n, cs)
  | _ + 1, [] => none
  | count + 1, c :: cs => (hexValue? c).bind fun d => readHex (16 * n + d) count cs

def hex4 (n : Nat) : List Char :=
  [n / 4096 % 16, n / 256 % 16, n / 16 % 16, n % 16].map Nat.digitChar

end NamedSql.Text
