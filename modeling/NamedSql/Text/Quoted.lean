/-!
# Text in single quotes

A quote inside the text is written twice, so the text ends at the first quote that no other follows.
-/

namespace NamedSql.Text

def quoteMark : Char := '\x27'

def doubleQuotes (cs : List Char) : List Char :=
  cs.flatMap fun c => if c = quoteMark then [c, c] else [c]

def enclose (s : String) : String :=
  String.ofList (quoteMark :: (doubleQuotes s.toList ++ [quoteMark]))

/-- Reads on from an opening quote: the text up to the closing quote, and what follows it. -/
def readEnclosed : List Char → Option (List Char × List Char)
  | [] => none
  | c :: cs =>
    if c = quoteMark then
      match cs with
      | d :: rest =>
        if d = quoteMark then (readEnclosed rest).map fun r => (quoteMark :: r.1, r.2)
        else some ([], cs)
      | [] => some ([], [])
    else (readEnclosed cs).map fun r => (c :: r.1, r.2)

end NamedSql.Text
