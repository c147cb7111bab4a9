import NamedSql.Toml.DateTime
import NamedSql.Toml.Expr
import NamedSql.Toml.Number
import NamedSql.Toml.Text

/-!
# Reading TOML

Each reader takes one item from the start of a text and gives the rest back, or refuses. `lines?`
reads a whole document.
-/

namespace NamedSql.Toml

/-! ## Keys -/

def isBare (c : Char) : Bool := c.isAlphanum || c = '_' || c = '-'

def readPart (cs : List Char) : Option (String × List Char) :=
  match cs with
  | [] => none
  | c :: rest =>
    if c = StringKind.basic.quote then
      (readLineString .basic 0 rest).map fun r => (String.ofList r.1, r.2)
    else if c = StringKind.literal.quote then
      (readLineString .literal 0 rest).map fun r => (String.ofList r.1, r.2)
    else if isBare c then some (String.ofList (cs.takeWhile isBare), cs.dropWhile isBare)
    else none

/-- The most parts of a key, and the most values inside each other. -/
def depthLimit : Nat := 80

def readKey (parts : Nat) (cs : List Char) : Option (Key × List Char) :=
  match parts with
  | 0 => none
  | parts + 1 =>
    match readPart (skipBlanks cs) with
    | none => none
    | some (part, rest) =>
      match skipBlanks rest with
      | '.' :: rest =>
        (readKey parts rest).map fun r => ({ r.1 with path := part :: r.1.path }, r.2)
      | rest => some ({ name := part }, rest)

/-! ## Values -/

def isDelimiter (c : Char) : Bool :=
  isBlank c || c = '\n' || c = '\r' || c = '#' || c = ',' || c = ']' || c = '\x7d'

def plain? (cs : List Char) : Option Expr :=
  if cs = "true".toList then some (.boolean true)
  else if cs = "false".toList then some (.boolean false)
  else if let some n := integer? cs then some (.integer n)
  else if isFloat cs then some (.float (String.ofList cs))
  else if isDateTime cs then some (.dateTime (String.ofList cs))
  else none

/-- Reads a value without quotes. Between a date and a time a space may stand for the `T`. -/
def readPlain (cs : List Char) : Option (Expr × List Char) :=
  let (word, rest) := cs.span fun c => !isDelimiter c
  match rest with
  | ' ' :: c :: rest' =>
    if isDate word && c.isDigit then
      let (time, rest) := (c :: rest').span fun c => !isDelimiter c
      if isZonedTime time then some (.dateTime (String.ofList (word ++ 'T' :: time)), rest) else none
    else (plain? word).map fun v => (v, rest)
  | rest => (plain? word).map fun v => (v, rest)

mutual

/-- Reads a value that may hold others to a depth of `depth`. Each step into a value costs a unit of
`fuel`. -/
def readValue (depth fuel : Nat) (cs : List Char) : Option (Expr × List Char) :=
  match fuel with
  | 0 => none
  | fuel + 1 =>
    match cs with
    | [] => none
    | c :: rest =>
      if c = StringKind.basic.quote then
        (readString .basic rest).map fun r => (.string (String.ofList r.1), r.2)
      else if c = StringKind.literal.quote then
        (readString .literal rest).map fun r => (.string (String.ofList r.1), r.2)
      else if c = '[' then
        if depth = 0 then none
        else (readItems (depth - 1) fuel rest).map fun r => (.array r.1, r.2)
      else if c = '\x7b' then
        if depth = 0 then none
        else (readPairs (depth - 1) fuel rest).map fun r => (.inlineTable r.1, r.2)
      else readPlain cs

def readItems (depth fuel : Nat) (cs : List Char) : Option (List Expr × List Char) :=
  match fuel with
  | 0 => none
  | fuel + 1 =>
    match skipLines false cs with
    | ']' :: rest => some ([], rest)
    | cs =>
      match readValue depth fuel cs with
      | none => none
      | some (v, rest) =>
        match skipLines false rest with
        | ',' :: rest => (readItems depth fuel rest).map fun r => (v :: r.1, r.2)
        | ']' :: rest => some ([v], rest)
        | _ => none

/-- Reads the assignments of an inline table up to its end. Comments and ends of lines may stand
around every token, but not between the parts of a key. -/
def readPairs (depth fuel : Nat) (cs : List Char) : Option (List (Key × Expr) × List Char) :=
  match fuel with
  | 0 => none
  | fuel + 1 =>
    match skipLines false cs with
    | '\x7d' :: rest => some ([], rest)
    | cs =>
      match readKey depthLimit cs with
      | none => none
      | some (key, rest) =>
        match skipLines false rest with
        | '=' :: rest =>
          match readValue depth fuel (skipLines false rest) with
          | none => none
          | some (v, rest) =>
            match skipLines false rest with
            | ',' :: rest => (readPairs depth fuel rest).map fun r => ((key, v) :: r.1, r.2)
            | '\x7d' :: rest => some ([(key, v)], rest)
            | _ => none
        | _ => none

end

/-! ## Lines -/

def readLine (cs : List Char) : Option (Line × List Char) :=
  match cs with
  | '[' :: '[' :: rest =>
    match readKey depthLimit rest with
    | some (key, ']' :: ']' :: rest) => some (.arrayHeader key, rest)
    | _ => none
  | '[' :: rest =>
    match readKey depthLimit rest with
    | some (key, ']' :: rest) => some (.header key, rest)
    | _ => none
  | cs =>
    match readKey depthLimit cs with
    | some (key, '=' :: rest) =>
      (readValue depthLimit (2 * rest.length + 2) (skipBlanks rest)).map fun r =>
        (.assign key r.1, r.2)
    | _ => none

def readLines (fuel : Nat) (cs : List Char) : Option (List Line) :=
  match fuel with
  | 0 => none
  | fuel + 1 =>
    match skipLines false cs with
    | [] => some []
    | cs =>
      match readLine cs with
      | none => none
      | some (line, rest) =>
        match endLine? rest with
        | none => none
        | some rest => (readLines fuel rest).map fun lines => line :: lines

/-- The lines of a document, which may start with a byte order mark. -/
def lines? (s : String) : Option (List Line) :=
  let cs := match s.toList with
    | '\uFEFF' :: cs => cs
    | cs => cs
  readLines (cs.length + 1) cs

end NamedSql.Toml
