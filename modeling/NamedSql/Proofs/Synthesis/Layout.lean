import NamedSql.Proofs.Identifier.Listing
import NamedSql.Proofs.Synthesis.Parts
import NamedSql.Proofs.Text.Delimited
import NamedSql.Proofs.Text.Spacing

namespace NamedSql
open Text Identifier

/-! ## Visible characters -/

def StartsVisible (cs : List Char) : Prop := ∃ c rest, cs = c :: rest ∧ isBlank c = false

theorem StartsVisible.append {cs : List Char} (starts : StartsVisible cs) (ds : List Char) :
    StartsVisible (cs ++ ds) := by
  obtain ⟨c, rest, rfl, visible⟩ := starts
  exact ⟨c, rest ++ ds, rfl, visible⟩

theorem startsVisible_append (word : String) (starts : StartsVisible word.toList) (text : String) :
    StartsVisible (word ++ text).toList := by
  rw [String.toList_append]
  exact starts.append _

theorem startsVisible_quote (name : String) : StartsVisible (quote name).toList := by
  by_cases wildcard : name = "*"
  · rw [wildcard]
    exact ⟨'*', [], by decide, by decide⟩
  · rw [quote_of_ne wildcard, String.toList_append, String.toList_append, List.append_assoc]
    exact ⟨'`', _, rfl, by decide⟩

theorem endsVisible_quote (name : String) :
    ∃ cs c, (quote name).toList = cs ++ [c] ∧ isBlank c = false := by
  by_cases wildcard : name = "*"
  · rw [wildcard]
    exact ⟨[], '*', by decide, by decide⟩
  · rw [quote_of_ne wildcard, String.toList_append]
    exact ⟨_, '`', rfl, by decide⟩

theorem startsVisible_intercalate {α : Type} {text : α → String}
    (starts : ∀ a, StartsVisible (text a).toList) (separator : String) {items : List α}
    (nonempty : items ≠ []) : StartsVisible (separator.intercalate (items.map text)).toList := by
  refine intercalate_of (P := fun t => StartsVisible t.toList) ?_ (by simpa using nonempty) ?_
  · intro a b startsA _
    rw [String.append_assoc]
    exact startsVisible_append a startsA (separator ++ b)
  · intro t mem
    obtain ⟨a, -, rfl⟩ := List.mem_map.mp mem
    exact starts a

theorem trimRight_visible {cs : List Char} (visible : ∀ c ∈ cs, isBlank c = false) :
    trimRight cs = cs :=
  trimRight_of_last fun c mem => visible c (List.mem_of_getLast? mem)

/-! ## Trimmed lists -/

/-- The part of an assignment that trimming cannot reach. -/
def assignmentFront (field : String) : List Char := (quote field ++ "=:").toList

def Clause.Shape.front (h : Clause.Shape) : List Char :=
  (h.glue.lead ++ quote h.field ++ h.condition ++ ":").toList

def listedAssignments (fields : List String) : List Char :=
  listed ',' assignmentFront String.toList fields

def listedClauses (shapes : List Clause.Shape) : List Char :=
  listed ' ' Clause.Shape.front (fun h => h.field.toList) shapes

theorem listedClauses_ne_nil {shapes : List Clause.Shape} (nonempty : shapes ≠ []) :
    listedClauses shapes ≠ [] := by
  cases shapes with
  | nil => exact absurd rfl nonempty
  | cons h shapes =>
      obtain ⟨more, starts⟩ := exists_listed_cons ' ' Clause.Shape.front _ h shapes
      rw [listedClauses, starts]
      simp [Clause.Shape.front]

theorem trimRight_quoteList (names : List String) :
    trimRight (quoteList names).toList = (quoteList names).toList := by
  refine Eq.trans ?_ (toList_quoteList names).symm
  exact trimRight_intercalate rfl (fun _ => (List.append_nil _).symm) endsVisible_quote names

theorem trimRight_assignments (fields : List String) :
    trimRight (",".intercalate (fields.map Statement.assignment)).toList =
      listedAssignments fields := by
  refine trimRight_intercalate rfl ?_ ?_ fields
  · intro field
    simp [Statement.assignment, placeholder, assignmentFront]
  · intro field
    exact ⟨(quote field ++ "=").toList, ':', by simp [assignmentFront], by decide⟩

theorem trimRight_clauses (shapes : List Clause.Shape) :
    trimRight (" ".intercalate (shapes.map Clause.Shape.text)).toList = listedClauses shapes := by
  refine trimRight_intercalate rfl ?_ ?_ shapes
  · intro h
    simp [Clause.Shape.text, placeholder, Clause.Shape.front]
  · intro h
    exact ⟨(h.glue.lead ++ quote h.field ++ h.condition).toList, ':',
      by simp [Clause.Shape.front], by decide⟩

/-! ## Pieces that are kept -/

def trimEnd (text : String) : String := String.ofList (trimRight text.toList)

@[simp]
theorem toList_trimEnd (text : String) : (trimEnd text).toList = trimRight text.toList := by
  simp [trimEnd]

theorem kept?_of_startsVisible {text : String} (starts : StartsVisible text.toList) :
    Fragments.kept? (some text) = some (trimEnd text) := by
  obtain ⟨c, rest, head, visible⟩ := starts
  have trimmed : trim text = trimEnd text := by
    rw [trim, trimEnd, head, trimChars_cons visible]
  have kept : trimEnd text ≠ "" := by
    rw [ne_eq, ← String.toList_inj, toList_trimEnd, head, trimRight_cons visible]
    simp
  rw [Fragments.kept?_some, trimmed, if_neg kept]

theorem kept?_of_visible {text : String} (starts : StartsVisible text.toList)
    (whole : trimRight text.toList = text.toList) :
    Fragments.kept? (some text) = some text := by
  rw [kept?_of_startsVisible starts, trimEnd, whole, String.ofList_toList]

theorem kept?_quoteList {names : List String} (nonempty : names ≠ []) :
    Fragments.kept? (some (quoteList names)) = some (quoteList names) :=
  kept?_of_visible (startsVisible_intercalate startsVisible_quote "," nonempty)
    (trimRight_quoteList names)

theorem kept?_quote (name : String) :
    Fragments.kept? (some (quote name)) = some (quote name) := by
  simpa [quoteList] using kept?_quoteList (List.cons_ne_nil name [])

theorem kept?_parenthesised (text : String) :
    Fragments.kept? (some ("(" ++ text ++ ")")) = some ("(" ++ text ++ ")") := by
  have closed : trimRight ")".toList = ")".toList := by decide
  refine kept?_of_visible ⟨'(', text.toList ++ [')'], by simp, by decide⟩ ?_
  rw [String.toList_append, trimRight_append _ (by decide), closed]

theorem kept?_limit (n : Nat) :
    Fragments.kept? (some ("LIMIT " ++ Decimal.text n)) = some ("LIMIT " ++ Decimal.text n) := by
  obtain ⟨given, visible⟩ := visible_decimal n
  have whole : trimRight (Decimal.text n).toList = (Decimal.text n).toList :=
    trimRight_visible visible
  have kept : trimRight (Decimal.text n).toList ≠ [] := by
    rw [whole]
    exact String.toList_eq_nil_iff.not.mpr given
  refine kept?_of_visible ?_ ?_
  · exact startsVisible_append "LIMIT " ⟨'L', "IMIT ".toList, by decide, by decide⟩ _
  · rw [String.toList_append, trimRight_append _ kept, whole]

theorem startsVisible_condition (clauses : String) : StartsVisible ("WHERE " ++ clauses).toList :=
  startsVisible_append "WHERE " ⟨'W', "HERE ".toList, by decide, by decide⟩ clauses

theorem startsVisible_order (order : String) : StartsVisible ("ORDER BY " ++ order).toList :=
  startsVisible_append "ORDER BY " ⟨'O', "RDER BY ".toList, by decide, by decide⟩ order

/-! ## Pieces after a space -/

def spaced (piece : Option String) : List Char :=
  (Fragments.kept? piece).elim [] fun text => ' ' :: text.toList

theorem spaced_some {text : String} (starts : StartsVisible text.toList) :
    spaced (some text) = ' ' :: trimRight text.toList := by
  rw [spaced, kept?_of_startsVisible starts, Option.elim_some, toList_trimEnd]

theorem toList_intercalate_space (first : String) (texts : List String) :
    (" ".intercalate (first :: texts)).toList =
      first.toList ++ texts.flatMap fun text => ' ' :: text.toList := by
  induction texts generalizing first with
  | nil => simp
  | cons text texts ih =>
      rw [String.intercalate_cons_cons, String.toList_append, ih]
      simp

theorem toList_text_ofPieces {first : String} (kept : Fragments.kept? (some first) = some first)
    (pieces : List (Option String)) :
    (Fragments.ofPieces (some first :: pieces)).text.toList =
      first.toList ++ pieces.flatMap spaced := by
  rw [Fragments.text, Fragments.parts_ofPieces, List.filterMap_cons, kept]
  simp only [toList_intercalate_space]
  congr 1
  induction pieces with
  | nil => rfl
  | cons piece pieces ih =>
      rw [List.flatMap_cons, ← ih, List.filterMap_cons, spaced]
      cases Fragments.kept? piece <;> rfl

theorem spaced_quote (name : String) : spaced (some (quote name)) = ' ' :: (quote name).toList := by
  rw [spaced, kept?_quote, Option.elim_some]

theorem spaced_quoteList {names : List String} (nonempty : names ≠ []) :
    spaced (some (quoteList names)) = ' ' :: listedNames names := by
  rw [spaced, kept?_quoteList nonempty, Option.elim_some, toList_quoteList]

theorem spaced_parenthesised (text : String) :
    spaced (some ("(" ++ text ++ ")")) = ' ' :: '(' :: (text.toList ++ [')']) := by
  rw [spaced, kept?_parenthesised, Option.elim_some]
  simp

namespace Statement
variable {s : Statement}

theorem spaced_columns (s : Statement) :
    spaced (some s.columns) = ' ' :: listedNames s.shownColumns := by
  have nonempty : s.shownColumns ≠ [] := by
    unfold shownColumns
    split
    · exact List.cons_ne_nil _ _
    · assumption
  rw [columns_eq, spaced_quoteList nonempty]

theorem spaced_assignments (nonempty : s.fields.names ≠ []) :
    spaced (some s.assignments) = ' ' :: listedAssignments s.fields.names := by
  have starts (field : String) : StartsVisible (assignment field).toList := by
    rw [assignment]
    exact startsVisible_append _ (startsVisible_append _ (startsVisible_quote field) _) _
  rw [assignments, spaced_some (startsVisible_intercalate starts "," nonempty),
    trimRight_assignments]

theorem spaced_condition? (nonempty : s.clauses ≠ []) :
    spaced s.condition? = " WHERE ".toList ++ listedClauses (s.clauses.map Clause.shape) := by
  have texts : s.clauses.map Clause.text = (s.clauses.map Clause.shape).map Clause.Shape.text := by
    rw [List.map_map]
    rfl
  have kept : listedClauses (s.clauses.map Clause.shape) ≠ [] :=
    listedClauses_ne_nil (by simpa using nonempty)
  rw [condition?, if_neg nonempty, texts, spaced_some (startsVisible_condition _),
    String.toList_append,
    trimRight_append _ (trimRight_clauses _ ▸ kept), trimRight_clauses]
  simp

theorem spaced_order? (nonempty : s.orderBy ≠ []) (given : s.direction ≠ "")
    (visible : ∀ c ∈ s.direction.toList, isBlank c = false) :
    spaced s.order? =
      " ORDER BY ".toList ++ (listedNames s.orderBy ++ ' ' :: s.direction.toList) := by
  have direction := trimRight_visible visible
  have kept : trimRight s.direction.toList ≠ [] := by
    rw [direction]
    exact fun blank => given (String.toList_inj.mp blank)
  have starts := startsVisible_order (quoteList s.orderBy)
  rw [order?, if_neg nonempty,
    spaced_some (startsVisible_append _ (startsVisible_append _ starts _) _),
    String.toList_append, trimRight_append _ kept, direction]
  simp [toList_quoteList]

theorem spaced_limit? (nonempty : s.limit.getD 0 ≠ 0) :
    spaced s.limit? = " LIMIT ".toList ++ Decimal.chars (s.limit.getD 0) := by
  rw [limit?_eq, if_neg nonempty, spaced, kept?_limit, Option.elim_some, String.toList_append,
    Decimal.toList_text]
  simp

/-! ## The four templates -/

def ending (s : Statement) : List Char :=
  spaced s.condition? ++ (spaced s.order? ++ spaced s.limit?)

theorem toList_text_select (action : s.action = .select) :
    s.text.toList = "SELECT ".toList ++ (listedNames s.shownColumns ++
      (" FROM ".toList ++ ((quote s.table).toList ++ s.ending))) := by
  have keyword : spaced (some "FROM") = " FROM".toList := by decide
  simp only [text, pieces, action]
  rw [toList_text_ofPieces (by decide)]
  simp [keyword, spaced_columns, spaced_quote, ending]

theorem toList_text_insert (action : s.action = .insert) :
    s.text.toList = "INSERT INTO ".toList ++ ((quote s.table).toList ++ (" (".toList ++
      (listedNames s.fields.names ++ (") VALUES (".toList ++
        ((",".intercalate (s.fields.names.map placeholder)).toList ++ [')']))))) := by
  have keywords : spaced (some "INTO") = " INTO".toList ∧
      spaced (some "VALUES") = " VALUES".toList := by decide
  simp only [text, pieces, action]
  rw [toList_text_ofPieces (by decide)]
  simp [keywords, spaced_quote, spaced_parenthesised, fieldNames, fieldPlaceholders,
    toList_quoteList]

theorem toList_text_update (action : s.action = .update) (nonempty : s.fields.names ≠ []) :
    s.text.toList = "UPDATE ".toList ++ ((quote s.table).toList ++ (" SET ".toList ++
      (listedAssignments s.fields.names ++ s.ending))) := by
  have keyword : spaced (some "SET") = " SET".toList := by decide
  simp only [text, pieces, action]
  rw [toList_text_ofPieces (by decide)]
  simp [keyword, spaced_quote, spaced_assignments nonempty, ending]

theorem toList_text_delete (action : s.action = .delete) :
    s.text.toList = "DELETE FROM ".toList ++ ((quote s.table).toList ++ s.ending) := by
  have keyword : spaced (some "FROM") = " FROM".toList := by decide
  simp only [text, pieces, action]
  rw [toList_text_ofPieces (by decide)]
  simp [keyword, spaced_quote, ending]

end Statement
end NamedSql
