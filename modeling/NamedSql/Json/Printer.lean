import NamedSql.Json
import NamedSql.Text.Hex

/-!
# Writing JSON

Values are written without blanks. A character is escaped only where it must be: the quote, the
backslash, and the control characters, five of which have escapes of one letter.
-/

namespace NamedSql.Json

def escapeLetter? (n : Nat) : Option Char :=
  if n = 0x22 then some '\x22'
  else if n = 0x5C then some '\x5C'
  else if n = 0x08 then some 'b'
  else if n = 0x0C then some 'f'
  else if n = 0x0A then some 'n'
  else if n = 0x0D then some 'r'
  else if n = 0x09 then some 't'
  else none

def pointChars (n : Nat) : List Char :=
  match escapeLetter? n with
  | some letter => ['\x5C', letter]
  | none =>
    if 0x20 ≤ n ∧ n.isValidChar then [Char.ofNat n] else '\x5C' :: 'u' :: Text.hex4 n

def stringChars (ps : List Nat) : List Char :=
  '\x22' :: (ps.flatMap pointChars ++ ['\x22'])

mutual

def chars : Json → List Char
  | .null => "null".toList
  | .bool b => (if b then "true" else "false").toList
  | .number n => n.chars
  | .string ps => stringChars ps
  | .array items => '[' :: (itemChars items ++ [']'])
  | .object members => '\x7b' :: (memberChars members ++ ['\x7d'])

def itemChars : List Json → List Char
  | [] => []
  | [v] => chars v
  | v :: vs => chars v ++ ',' :: itemChars vs

def memberChars : List (List Nat × Json) → List Char
  | [] => []
  | [(name, v)] => stringChars name ++ ':' :: chars v
  | (name, v) :: ms => stringChars name ++ ':' :: (chars v ++ ',' :: memberChars ms)

end

def text (v : Json) : String := String.ofList v.chars

end NamedSql.Json
