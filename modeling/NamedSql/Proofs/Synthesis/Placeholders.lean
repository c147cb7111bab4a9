import NamedSql.Proofs.Synthesis.Parts
import NamedSql.Proofs.Synthesis.Registry
import NamedSql.Proofs.Text.Scan

namespace NamedSql
open Text Identifier

/-! ## Pieces without a placeholder -/

theorem notMem_quote {name : String} (plain : ':' ∉ name.toList) : ':' ∉ (quote name).toList := by
  intro mem
  rcases mem_quote mem with mark | inside
  · exact absurd mark (by decide)
  · exact plain inside

theorem colonWords_quote {name : String} (plain : ':' ∉ name.toList) :
    colonWords (quote name).toList = [] :=
  colonWords_of_notMem (notMem_quote plain)

theorem colonWords_commas (texts : List String) :
    colonWords (",".intercalate texts).toList = texts.flatMap fun t => colonWords t.toList := by
  rw [String.toList_intercalate]
  change colonWords ([','].intercalate _) = _
  rw [colonWords_intercalate (by decide) (by decide), List.flatMap_map]

theorem colonWords_quoteList {names : List String} (plain : ∀ n ∈ names, ':' ∉ n.toList) :
    colonWords (quoteList names).toList = [] := by
  rw [quoteList, colonWords_commas, List.flatMap_map, List.flatMap_eq_nil_iff]
  intro name mem
  exact colonWords_quote (plain name mem)

theorem colonWords_parenthesised (text : String) :
    colonWords ("(" ++ text ++ ")").toList = colonWords text.toList := by
  have closing : StartsOutside [')'] := by
    rintro c ⟨⟩
    decide
  simp only [String.toList_append]
  change colonWords ('(' :: text.toList ++ [')']) = _
  rw [colonWords_append _ closing]
  simp [colonWords]

/-! ## Pieces with placeholders -/

theorem colonWords_placeholder {front : List Char} {field : String} (plain : ':' ∉ front)
    (word : ∀ c ∈ field.toList, isWordChar c) :
    colonWords (front ++ (placeholder field).toList) = [field.toList] := by
  rw [colonWords_append_of_notMem plain, placeholder, String.toList_append]
  exact colonWords_colon word

theorem notMem_word {field : String} (word : ∀ c ∈ field.toList, isWordChar c) :
    ':' ∉ field.toList :=
  fun mem => absurd (word ':' mem) (by decide)

namespace Statement

theorem colonWords_assignment {field : String} (word : ∀ c ∈ field.toList, isWordChar c) :
    colonWords (assignment field).toList = [field.toList] := by
  rw [assignment, String.toList_append]
  refine colonWords_placeholder ?_ word
  simp [notMem_quote (notMem_word word)]

theorem colonWords_clause {c : Clause} (condition : ':' ∉ c.condition.toList)
    (word : ∀ d ∈ c.field.toList, isWordChar d) :
    colonWords c.text.toList = [c.field.toList] := by
  rw [Clause.text, String.toList_append]
  refine colonWords_placeholder ?_ word
  have lead : ':' ∉ c.glue.lead.toList := by cases c.glue <;> decide
  simp [lead, notMem_quote (notMem_word word), condition]

/-- A statement in whose text only placeholders have colons, and whose placeholders are words. -/
structure Scannable (s : Statement) : Prop where
  fields : ∀ f ∈ s.visitedFields, ∀ c ∈ f.toList, isWordChar c
  table : ':' ∉ s.table.toList
  selectFields : ∀ f ∈ s.selectFields, ':' ∉ f.toList
  conditions : ∀ c ∈ s.clauses, ':' ∉ c.condition.toList
  orderBy : ∀ f ∈ s.orderBy, ':' ∉ f.toList
  direction : ':' ∉ s.direction.toList

def pieceWords (piece : Option String) : List (List Char) :=
  piece.elim [] fun text => colonWords text.toList

theorem pieceWords_kept? (piece : Option String) :
    pieceWords (Fragments.kept? piece) = pieceWords piece := by
  cases piece with
  | none => rfl
  | some text =>
      have trimmed : colonWords (trim text).toList = colonWords text.toList := by
        rw [toList_trim, colonWords_trimChars]
      by_cases blank : trim text = ""
      · simpa [Fragments.kept?_some, blank, pieceWords, colonWords] using trimmed
      · simpa [Fragments.kept?_some, blank, pieceWords] using trimmed

theorem colonWords_ofPieces (pieces : List (Option String)) :
    colonWords (Fragments.ofPieces pieces).text.toList = pieces.flatMap pieceWords := by
  rw [Fragments.text, Fragments.parts_ofPieces, String.toList_intercalate]
  change colonWords ([' '].intercalate _) = _
  rw [colonWords_intercalate (by decide) (by decide), List.flatMap_map]
  induction pieces with
  | nil => rfl
  | cons piece pieces ih =>
      rw [List.flatMap_cons, ← ih, ← pieceWords_kept?, List.filterMap_cons]
      cases Fragments.kept? piece <;> rfl

variable {s : Statement}

theorem colonWords_columns (scannable : s.Scannable) : colonWords s.columns.toList = [] := by
  unfold columns
  split
  · decide
  · exact colonWords_quoteList scannable.selectFields

theorem pieceWords_limit? (s : Statement) : pieceWords s.limit? = [] := by
  rw [limit?_eq]
  split
  · rfl
  · have digits : ∀ d : Decimal.Digit, Decimal.digitChar d ≠ ':' := by decide
    have plain : ':' ∉ (Decimal.text (s.limit.getD 0)).toList := by
      simp [Decimal.text, Decimal.chars, digits]
    exact colonWords_of_notMem (by simp [plain])

theorem pieceWords_order? (scannable : s.Scannable) : pieceWords s.order? = [] := by
  unfold order?
  split
  · rfl
  · -- No word runs over the space in front of the direction.
    have seam : StartsOutside (' ' :: s.direction.toList) := by
      rintro c ⟨⟩
      decide
    simp only [pieceWords, Option.elim, String.toList_append, List.append_assoc]
    rw [colonWords_append_of_notMem (by decide)]
    change colonWords (_ ++ ' ' :: s.direction.toList) = []
    rw [colonWords_append _ seam, colonWords_quoteList scannable.orderBy]
    exact colonWords_of_notMem (by simp [scannable.direction])

theorem pieceWords_condition? (scannable : s.Scannable) (filters : s.action.filtersRows) :
    pieceWords s.condition? = (s.clauses.map Clause.field).map String.toList := by
  have each : ∀ c ∈ s.clauses, colonWords c.text.toList = [c.field.toList] := by
    intro c mem
    refine colonWords_clause (scannable.conditions c mem) (scannable.fields c.field ?_)
    rw [visitedFields, if_pos filters]
    exact List.mem_append_right _ (List.mem_map_of_mem mem)
  unfold condition?
  split
  · rename_i empty
    rw [empty]
    rfl
  · simp only [pieceWords, Option.elim, String.toList_append]
    rw [colonWords_append_of_notMem (by decide), String.toList_intercalate]
    change colonWords ([' '].intercalate _) = _
    rw [colonWords_intercalate (by decide) (by decide), List.flatMap_map, List.flatMap_map,
      List.map_map, List.map_eq_flatMap]
    exact List.flatMap_congr each

theorem word_of_mem_fields (scannable : s.Scannable) (writes : s.action.writesFields) :
    ∀ f ∈ s.fields.names, ∀ c ∈ f.toList, isWordChar c := by
  intro f mem
  refine scannable.fields f ?_
  rw [visitedFields, if_pos writes]
  exact List.mem_append_left _ mem

theorem colonWords_assignments (scannable : s.Scannable) (writes : s.action.writesFields) :
    colonWords s.assignments.toList = s.fields.names.map String.toList := by
  rw [assignments, colonWords_commas, List.flatMap_map, List.map_eq_flatMap]
  exact List.flatMap_congr fun f mem =>
    colonWords_assignment (word_of_mem_fields scannable writes f mem)

theorem colonWords_fieldPlaceholders (scannable : s.Scannable) (writes : s.action.writesFields) :
    colonWords s.fieldPlaceholders.toList = s.fields.names.map String.toList := by
  rw [fieldPlaceholders, colonWords_parenthesised, colonWords_commas, List.flatMap_map,
    List.map_eq_flatMap]
  refine List.flatMap_congr fun f mem => ?_
  exact colonWords_placeholder (List.not_mem_nil) (word_of_mem_fields scannable writes f mem)

theorem colonWords_fieldNames (scannable : s.Scannable) (writes : s.action.writesFields) :
    colonWords s.fieldNames.toList = [] := by
  rw [fieldNames, colonWords_parenthesised]
  exact colonWords_quoteList fun f mem => notMem_word (word_of_mem_fields scannable writes f mem)

theorem colonWords_text (scannable : s.Scannable) :
    colonWords s.text.toList = s.visitedFields.map String.toList := by
  have table : pieceWords (some (quote s.table)) = [] := colonWords_quote scannable.table
  have order := pieceWords_order? scannable
  have limit := pieceWords_limit? s
  rw [text, colonWords_ofPieces]
  unfold pieces visitedFields
  cases action : s.action with
  | select =>
      have filters : s.action.filtersRows := by rw [action]; rfl
      have columns : pieceWords (some s.columns) = [] := colonWords_columns scannable
      have keywords : pieceWords (some "SELECT") = [] ∧ pieceWords (some "FROM") = [] := by decide
      simp [table, order, limit, columns, keywords, pieceWords_condition? scannable filters,
        Action.writesFields, Action.filtersRows]
  | insert =>
      have writes : s.action.writesFields := by rw [action]; rfl
      have names : pieceWords (some s.fieldNames) = [] := colonWords_fieldNames scannable writes
      have placeholders : pieceWords (some s.fieldPlaceholders) = _ :=
        colonWords_fieldPlaceholders scannable writes
      have keywords : pieceWords (some "INSERT") = [] ∧ pieceWords (some "INTO") = [] ∧
          pieceWords (some "VALUES") = [] := by decide
      simp [table, names, placeholders, keywords, Action.writesFields, Action.filtersRows]
  | update =>
      have filters : s.action.filtersRows := by rw [action]; rfl
      have writes : s.action.writesFields := by rw [action]; rfl
      have assigned : pieceWords (some s.assignments) = _ := colonWords_assignments scannable writes
      have keywords : pieceWords (some "UPDATE") = [] ∧ pieceWords (some "SET") = [] := by decide
      simp [table, order, limit, assigned, keywords, pieceWords_condition? scannable filters,
        Action.writesFields, Action.filtersRows]
  | delete =>
      have filters : s.action.filtersRows := by rw [action]; rfl
      have keywords : pieceWords (some "DELETE") = [] ∧ pieceWords (some "FROM") = [] := by decide
      simp [table, order, limit, keywords, pieceWords_condition? scannable filters,
        Action.writesFields, Action.filtersRows]

end Statement

theorem Synthesizer.colonWords_synthesize {x : Synthesizer} {s : Statement} {r : Registry}
    {sql : String} (scannable : s.Scannable) (ok : (x.synthesize s r).result = .ok sql) :
    colonWords sql.toList = s.visitedFields.map String.toList ∧
    (r = ∅ →
      (x.synthesize s r).registry.names = (s.visitedFields.map placeholder).eraseDups) := by
  constructor
  · rw [sql_synthesize ok]
    exact Statement.colonWords_text scannable
  · rintro rfl
    rw [names_synthesize ok]
    simp

def Statement.prefixes : Statement where
  action := .update
  table := "users"
  fields := ⟨[("id", .int 1), ("id_2", .int 2)]⟩
  clauses := [⟨.none, "id_", ">", .int 3⟩, ⟨.and, "id", "<", .int 4⟩]
  orderBy := ["id"]
  limit := some 5

theorem Synthesizer.colonWords_synthesize_prefixes :
    let sql := "UPDATE `users` SET `id`=:id,`id_2`=:id_2 " ++
      "WHERE `id_`>:id_ AND `id`<:id ORDER BY `id` ASC LIMIT 5"
    colonWords sql.toList = ["id".toList, "id_2".toList, "id_".toList, "id".toList] ∧
    (synthesize {} .prefixes ∅).registry.names = [":id", ":id_2", ":id_"] := by
  intro sql
  have words : Statement.prefixes.visitedFields.all fun f => f.toList.all isWordChar := by decide
  have scannable : Statement.prefixes.Scannable := by
    constructor
    case fields => simpa only [List.all_eq_true] using words
    all_goals decide
  have ok : (synthesize {} .prefixes ∅).result = .ok sql := by decide +kernel
  obtain ⟨found, names⟩ := colonWords_synthesize scannable ok
  exact ⟨found, (names rfl).trans (by decide)⟩

end NamedSql
