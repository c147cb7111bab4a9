/-!
# Blanks and comments in TOML

Blanks within a line are spaces and tabs. A line ends with a line feed, or with a carriage return and
a line feed. A comment holds no control characters but tabs.
-/

namespace NamedSql.Toml

def isBlank (c : Char) : Bool := c = ' ' || c = '\t'

def isControl (c : Char) : Bool := (c.toNat < 0x20 && c ≠ '\t') || c.toNat = 0x7F

def skipBlanks (cs : List Char) : List Char := cs.dropWhile isBlank

/-- The text behind a comment, if one starts here. -/
def skipComment : List Char → List Char
  | '#' :: cs => cs.dropWhile fun c => !isControl c
  | cs => cs

def newline? : List Char → Option (List Char)
  | '\n' :: cs => some cs
  | '\r' :: '\n' :: cs => some cs
  | _ => none

/-- The text behind a line of which only blanks and a comment are left. -/
def endLine? (cs : List Char) : Option (List Char) :=
  match skipComment (skipBlanks cs) with
  | [] => some []
  | cs => newline? cs

/-- The text behind blanks, comments and ends of lines. -/
def skipLines (inComment : Bool) : List Char → List Char
  | [] => []
  | c :: cs =>
    if c = '\n' || (c = '\r' && cs.head? = some '\n') then skipLines false cs
    else if inComment then if isControl c then c :: cs else skipLines true cs
    else if isBlank c then skipLines false cs
    else if c = '#' then skipLines true cs
    else c :: cs

end NamedSql.Toml
