import Mathlib.Data.List.Basic
import NamedSql.Proofs.Synthesis.Layout

/-!
# The wording of the templates

`Statement.fragments` spells the four templates out, fragment by fragment. A text is these fragments
with single spaces between them. The blanks at the end of a fragment are not written, which only the
direction and the last placeholder of the assignments and of the condition can have: what stands in
backticks, a comparison and the start of a fragment are always written in full.

* `exists_fragments_sql`: the text of a statement, fragment by fragment.
-/

namespace NamedSql
open Text Identifier

/-- What the fragments say that may end in blanks. -/
structure Wording where
  assignments : String
  condition : String
  order : String

namespace Statement

def wordAssignment (field : String) : String := quote field ++ "=:" ++ field

def wordClause (c : Clause) : String :=
  let lead := match c.glue with
    | .none => ""
    | .and => "AND "
    | .or => "OR "
  lead ++ quote c.field ++ c.condition ++ ":" ++ c.field

def wording (s : Statement) : Wording where
  assignments := ",".intercalate (s.fields.names.map wordAssignment)
  condition := "WHERE " ++ " ".intercalate (s.clauses.map wordClause)
  order := "ORDER BY " ++ quoteList s.orderBy ++ " " ++ s.direction

def fragments (s : Statement) (w : Wording) : List String :=
  let fields := if s.selectFields = [] then "*" else quoteList s.selectFields
  let names := "(" ++ quoteList s.fields.names ++ ")"
  let placeholders := "(" ++ ",".intercalate (s.fields.names.map fun field => ":" ++ field) ++ ")"
  let condition := if s.clauses = [] then [] else [w.condition]
  let order := if s.orderBy = [] then [] else [w.order]
  let limit := match s.limit with
    | some (n + 1) => ["LIMIT " ++ toString (n + 1)]
    | _ => []
  match s.action with
  | .select => ["SELECT", fields, "FROM", quote s.table] ++ condition ++ order ++ limit
  | .insert => ["INSERT", "INTO", quote s.table, names, "VALUES", placeholders]
  | .update => ["UPDATE", quote s.table, "SET", w.assignments] ++ condition ++ order ++ limit
  | .delete => ["DELETE", "FROM", quote s.table] ++ condition ++ order ++ limit

/-- `cut` is `whole` up to blanks with which the name at the end of `whole` ends. -/
def CutsName (name whole cut : String) : Prop :=
  ∃ lost, whole = cut ++ lost ∧ (∀ c ∈ lost.toList, isBlank c) ∧ lost.toList <:+ name.toList

/-- `w` is what `s` has written: no blanks behind the direction, and nothing else is missing than
blanks at the end of the last field that is assigned or compared. -/
structure Writes (s : Statement) (w : Wording) : Prop where
  assignments : ∀ given : s.fields.names ≠ [],
    CutsName (s.fields.names.getLast given) s.wording.assignments w.assignments
  condition : ∀ given : s.clauses ≠ [],
    CutsName (s.clauses.getLast given).field s.wording.condition w.condition
  order : w.order = "ORDER BY " ++ quoteList s.orderBy ++ trimEnd (" " ++ s.direction)

/-! ## The ends of fragments -/

theorem trimEnd_append {front : String} (whole : trimRight front.toList = front.toList)
    (text : String) : trimEnd (front ++ text) = front ++ trimEnd text := by
  rw [← String.toList_inj]
  simp [trimRight_append_of_eq whole]

theorem cutsName_trimEnd {name whole : String} (front : String)
    (split : whole = front ++ ":" ++ name) : CutsName name whole (trimEnd whole) := by
  obtain ⟨lost, parts, blank⟩ := trimRight_split name.toList
  have colon : trimRight (front ++ ":").toList = (front ++ ":").toList := by
    have mark : trimRight ":".toList = ":".toList := by decide
    rw [String.toList_append, trimRight_append _ (by decide), mark]
  refine ⟨String.ofList lost, ?_, by simpa using blank, ⟨trimRight name.toList, ?_⟩⟩
  · rw [split, trimEnd_append colon, ← String.toList_inj]
    simp only [String.toList_append, toList_trimEnd, String.toList_ofList, List.append_assoc]
    rw [← parts]
  · rw [String.toList_ofList, ← parts]

theorem CutsName.eq_of_trimEnd {name whole cut : String} (cuts : CutsName name whole cut)
    (ends : trimEnd name = name) : cut = whole := by
  obtain ⟨lost, parts, blank, before, split⟩ := cuts
  have none : lost.toList = [] := by
    have kept : trimRight (before ++ lost.toList) = before ++ lost.toList := by
      rw [split, ← toList_trimEnd, ends]
    have shorter := (trimRight_isPrefix before).length_le
    rw [trimRight_append_of_blank blank] at kept
    rw [kept, List.length_append] at shorter
    exact List.length_eq_zero_iff.mp (by omega)
  rw [parts, String.toList_eq_nil_iff.mp none, String.append_empty]

theorem exists_intercalate_eq {α : Type} (separator : String) (text : α → String) {items : List α}
    (given : items ≠ []) :
    ∃ front, separator.intercalate (items.map text) = front ++ text (items.getLast given) := by
  have split : items.map text = items.dropLast.map text ++ [text (items.getLast given)] := by
    rw [← List.map_singleton, ← List.map_append, List.dropLast_concat_getLast given]
  rw [split]
  by_cases single : items.dropLast.map text = []
  · exact ⟨"", by simp [single]⟩
  · refine ⟨separator.intercalate (items.dropLast.map text) ++ separator, ?_⟩
    rw [String.intercalate_append_of_ne_nil single (List.cons_ne_nil _ _),
      String.intercalate_singleton]

/-! ## What is written -/

variable {s : Statement}

theorem text_eq_wordClause (c : Clause) : c.text = wordClause c := by
  have lead : c.glue.lead = match c.glue with
      | .none => ""
      | .and => "AND "
      | .or => "OR " := by
    cases c.glue <;> rfl
  rw [Clause.text, placeholder, wordClause, lead, ← String.append_assoc]

theorem assignment_eq_wordAssignment (field : String) :
    assignment field = wordAssignment field := by
  have sign : "=:" = "=" ++ ":" := rfl
  rw [assignment, placeholder, wordAssignment, sign, ← String.append_assoc, ← String.append_assoc]

def written (s : Statement) : Wording where
  assignments := trimEnd s.wording.assignments
  condition := trimEnd s.wording.condition
  order := "ORDER BY " ++ quoteList s.orderBy ++ trimEnd (" " ++ s.direction)

theorem writes_written (s : Statement) : s.Writes s.written where
  assignments := by
    intro given
    obtain ⟨front, ends⟩ := exists_intercalate_eq "," wordAssignment given
    have sign : "=:" = "=" ++ ":" := rfl
    refine cutsName_trimEnd (front ++ (quote (s.fields.names.getLast given) ++ "=")) ?_
    rw [wording, ends, wordAssignment, sign]
    simp only [String.append_assoc]
  condition := by
    intro given
    obtain ⟨front, ends⟩ := exists_intercalate_eq " " wordClause given
    obtain ⟨before, split⟩ : ∃ before,
        wordClause (s.clauses.getLast given) = before ++ ":" ++ (s.clauses.getLast given).field :=
      ⟨_, rfl⟩
    refine cutsName_trimEnd ("WHERE " ++ (front ++ before)) ?_
    rw [wording, ends, split]
    simp only [String.append_assoc]
  order := rfl

/-! ## The fragments of a text -/

theorem kept?_columns (s : Statement) : Fragments.kept? (some s.columns) =
    some (if s.selectFields = [] then "*" else quoteList s.selectFields) := by
  unfold columns
  split
  · decide
  · rename_i given
    exact kept?_quoteList given

theorem kept?_assignments (given : s.fields.names ≠ []) :
    Fragments.kept? (some s.assignments) = some s.written.assignments := by
  have starts (field : String) : StartsVisible (wordAssignment field).toList := by
    rw [wordAssignment]
    exact startsVisible_append _ (startsVisible_append _ (startsVisible_quote field) _) _
  have starting := startsVisible_intercalate starts "," given
  rw [assignments, funext assignment_eq_wordAssignment, kept?_of_startsVisible starting]
  rfl

theorem kept?_condition? (s : Statement) : (Fragments.kept? s.condition?).toList =
    if s.clauses = [] then [] else [s.written.condition] := by
  unfold condition?
  split
  · rfl
  · rw [funext text_eq_wordClause, kept?_of_startsVisible (startsVisible_condition _)]
    rfl

theorem kept?_order? (s : Statement) : (Fragments.kept? s.order?).toList =
    if s.orderBy = [] then [] else [s.written.order] := by
  unfold order?
  split
  · rfl
  · rename_i given
    -- The list of fields ends visibly, so trimming stops at the direction.
    have visible : trimRight ("ORDER BY " ++ quoteList s.orderBy).toList =
        ("ORDER BY " ++ quoteList s.orderBy).toList := by
      have kept : trimRight (quoteList s.orderBy).toList ≠ [] := by
        obtain ⟨c, rest, head, -⟩ : StartsVisible (quoteList s.orderBy).toList :=
          startsVisible_intercalate startsVisible_quote "," given
        rw [trimRight_quoteList, head]
        exact List.cons_ne_nil _ _
      rw [String.toList_append, trimRight_append _ kept, trimRight_quoteList]
    have starts := startsVisible_order (quoteList s.orderBy ++ (" " ++ s.direction))
    rw [← String.append_assoc] at starts
    rw [String.append_assoc, kept?_of_startsVisible starts, trimEnd_append visible]
    rfl

theorem kept?_limit? (s : Statement) : (Fragments.kept? s.limit?).toList =
    match s.limit with
    | some (n + 1) => ["LIMIT " ++ toString (n + 1)]
    | _ => [] := by
  unfold limit?
  cases s.limit with
  | none => rfl
  | some n =>
      cases n with
      | zero => rfl
      | succ n =>
          change (Fragments.kept? (some ("LIMIT " ++ Decimal.text (n + 1)))).toList =
            ["LIMIT " ++ toString (n + 1)]
          rw [kept?_limit, Decimal.text_eq_toString, Option.toList_some]

theorem text_eq_fragments (given : s.action.writesFields → s.fields.names ≠ []) :
    s.text = " ".intercalate (s.fragments s.written) := by
  have keywords :
      ∀ word ∈ ["SELECT", "FROM", "INSERT", "INTO", "VALUES", "UPDATE", "SET", "DELETE"],
      Fragments.kept? (some word) = some word := by decide
  simp only [List.forall_mem_cons] at keywords
  rw [text, Fragments.text, Fragments.parts_ofPieces, List.filterMap_eq_flatMap_toList]
  congr 1
  unfold pieces fragments
  cases action : s.action with
  | select =>
      simp only [List.flatMap_cons, List.flatMap_nil, keywords, kept?_columns, kept?_quote,
        kept?_condition?, kept?_order?, kept?_limit?]
      simp
  | insert =>
      simp only [List.flatMap_cons, List.flatMap_nil, keywords, kept?_quote, fieldNames,
        fieldPlaceholders, kept?_parenthesised]
      rfl
  | update =>
      have names := given (by rw [action]; rfl)
      simp only [List.flatMap_cons, List.flatMap_nil, keywords, kept?_quote,
        kept?_assignments names, kept?_condition?, kept?_order?, kept?_limit?]
      simp
  | delete =>
      simp only [List.flatMap_cons, List.flatMap_nil, keywords, kept?_quote, kept?_condition?,
        kept?_order?, kept?_limit?]
      simp

/-- Where neither the last field assigned nor the last one compared ends in a blank, `Writes` leaves
no choice: all that is missing is the blanks behind the direction. -/
theorem Writes.fragments_eq {w : Wording} (writes : s.Writes w)
    (given : s.action.writesFields → s.fields.names ≠ [])
    (assigned : ∀ field ∈ s.fields.names.getLast?, trimEnd field = field)
    (compared : ∀ c ∈ s.clauses.getLast?, trimEnd c.field = c.field) :
    s.fragments w = s.fragments { s.wording with
      order := "ORDER BY " ++ quoteList s.orderBy ++ trimEnd (" " ++ s.direction) } := by
  have assignments (names : s.fields.names ≠ []) : w.assignments = s.wording.assignments :=
    (writes.assignments names).eq_of_trimEnd (assigned _ (List.getLast_mem_getLast? names))
  have condition : (if s.clauses = [] then [] else [w.condition]) =
      if s.clauses = [] then [] else [s.wording.condition] := by
    split
    · rfl
    · rename_i clauses
      rw [(writes.condition clauses).eq_of_trimEnd
        (compared _ (List.getLast_mem_getLast? clauses))]
  unfold fragments
  cases action : s.action with
  | update => rw [condition, writes.order, assignments (given (by rw [action]; rfl))]
  | _ => simp only [condition, writes.order]

end Statement

theorem Synthesizer.exists_fragments_sql {x : Synthesizer} {s : Statement} {r : Registry}
    {sql : String} (ok : (x.synthesize s r).result = .ok sql) :
    ∃ w, s.Writes w ∧ sql = " ".intercalate (s.fragments w) := by
  have text : s.text = " ".intercalate (s.fragments s.written) :=
    Statement.text_eq_fragments (fields_of_synthesize ok)
  exact ⟨s.written, s.writes_written, (sql_synthesize ok).trans text⟩

def Statement.spacious : Statement where
  action := .update
  table := "users"
  fields := ⟨[("a ", .int 1), ("b", .int 2)]⟩
  clauses := [⟨.none, "id ", "=", .int 3⟩, ⟨.or, "n", " LIKE ", .null⟩]
  orderBy := ["*", "id"]
  direction := " DESC\t"
  limit := some 12

theorem Synthesizer.exists_fragments_sql_spacious :
    let sql := "UPDATE `users` SET `a `=:a ,`b`=:b WHERE `id `=:id  OR `n` LIKE :n " ++
      "ORDER BY *,`id`  DESC LIMIT 12"
    (synthesize {} .spacious ∅).result = .ok sql ∧
      ∃ w, Statement.spacious.Writes w ∧
        sql = " ".intercalate (Statement.spacious.fragments w) := by
  intro sql
  have ok : (synthesize {} .spacious ∅).result = .ok sql := by decide +kernel
  exact ⟨ok, exists_fragments_sql ok⟩

theorem Synthesizer.sql_ne_full_wording :
    let s : Statement := { action := .select, table := "t", orderBy := ["id"], direction := "" }
    let sql := "SELECT * FROM `t` ORDER BY `id`"
    (synthesize {} s ∅).result = .ok sql ∧ sql ≠ " ".intercalate (s.fragments s.wording) := by
  decide +kernel

end NamedSql
