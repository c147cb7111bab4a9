/-!
# Identifiers

A name is written in backticks, apart from the wildcard `*`, which stands bare. Nothing inside a
name is escaped. Lists are joined by commas without blanks.
-/

namespace NamedSql.Identifier

def quote (name : String) : String :=
  if name = "*" then name else "`" ++ name ++ "`"

def quoteList (names : List String) : String :=
  ",".intercalate (names.map quote)

theorem quote_wildcard : quote "*" = "*" := by simp [quote]

theorem quote_of_ne {name : String} (h : name ≠ "*") : quote name = "`" ++ name ++ "`" := by
  simp [quote, h]

theorem mem_quote {name : String} {c : Char} (mem : c ∈ (quote name).toList) :
    c = '`' ∨ c ∈ name.toList := by
  unfold quote at mem
  split at mem
  · exact .inr mem
  · simp only [String.toList_append, List.mem_append] at mem
    rcases mem with (opening | inside) | closing
    · exact .inl (List.mem_singleton.mp opening)
    · exact .inr inside
    · exact .inl (List.mem_singleton.mp closing)

end NamedSql.Identifier
