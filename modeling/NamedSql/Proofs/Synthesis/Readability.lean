import NamedSql.Proofs.Synthesis.Layout

/-!
# Texts can be read back

A text can be taken apart from the left: a name ends at its second backtick, a condition at its
first colon, a list where no separator follows. Trimming makes the last placeholder of a list end
early, but its name has been read before, and no keyword looks like the blanks that are missing.

* `sql_eq_iff_showSame`: two texts are equal just if the statements show the same parts.
-/

namespace NamedSql
open Text Identifier

/-! ## What follows a trimmed list -/

/-- Nothing, or a text that opens with one of some words. -/
def Opens (words : List String) (x : List Char) : Prop :=
  x = [] ∨ ∃ w ∈ words, ∃ rest, x = w.toList ++ rest

/-- Blanks and a mark do not stand where a space and another visible character stand. -/
theorem lost_eq_nil {c mark : Char} {more lost rest : List Char} (visible : isBlank c = false)
    (other : c ≠ mark) (blank : ∀ d ∈ lost, isBlank d)
    (same : ' ' :: c :: more = lost ++ mark :: rest) : mark = ' ' ∧ c :: more = rest := by
  cases lost with
  | nil =>
      obtain ⟨space, rests⟩ := List.cons.inj same
      exact ⟨space.symm, rests⟩
  | cons d lost =>
      have later := (List.cons.inj same).2
      cases lost with
      | nil => exact absurd (List.cons.inj later).1 other
      | cons e lost =>
          have second : c = e := (List.cons.inj later).1
          have : isBlank c := second ▸ blank e (by simp)
          rw [visible] at this
          cases this

theorem assignments_readable :
    Readable ',' assignmentFront String.toList (fun field => '`' ∉ field.toList)
      (Opens [" WHERE ", " ORDER BY ", " LIMIT "]) where
  front_inj := by
    intro f g x y plainF plainG same
    simp only [assignmentFront, String.toList_append, List.append_assoc] at same
    obtain ⟨rfl, rests⟩ := quote_append_inj plainF plainG same
    exact ⟨rfl, List.append_cancel_left rests⟩
  follows_ne := by
    intro a b rest x y lost follows _ blank same
    rcases follows with ends | ⟨w, mem, more, opens⟩
    · simp [ends] at same
    · rw [opens] at same
      simp only [List.mem_cons, List.not_mem_nil, or_false] at mem
      rcases mem with rfl | rfl | rfl
      all_goals exact absurd (lost_eq_nil (by decide) (by decide) blank same).1 (by decide)

/-! ## Clauses -/

theorem lead_append_inj {g h : Glue} {f f' : String} {x y : List Char}
    (same : g.lead.toList ++ ((quote f).toList ++ x) = h.lead.toList ++ ((quote f').toList ++ y)) :
    g = h ∧ (quote f).toList ++ x = (quote f').toList ++ y := by
  obtain ⟨c, cs, startsF, nameF⟩ := quote_head f
  obtain ⟨d, ds, startsG, nameG⟩ := quote_head f'
  -- A name opens with a backtick or is the wildcard, so it is not mistaken for `AND` or `OR`.
  have letterF : c ≠ 'A' ∧ c ≠ 'O' := by rcases nameF with rfl | rfl <;> decide
  have letterG : 'A' ≠ d ∧ 'O' ≠ d := by rcases nameG with rfl | rfl <;> decide
  cases g <;> cases h
  all_goals simp_all [Glue.lead, Glue.keyword]

theorem shape_front_append (h : Clause.Shape) (x : List Char) :
    h.front ++ x = h.glue.lead.toList ++
      ((quote h.field).toList ++ (h.condition.toList ++ ':' :: x)) := by
  simp [Clause.Shape.front]

theorem front_ne_keyword {w : String} (mem : w ∈ ["ORDER BY ", "LIMIT "]) (h : Clause.Shape)
    (x rest : List Char) : h.front ++ x ≠ w.toList ++ rest := by
  intro same
  obtain ⟨c, cs, starts, name⟩ := quote_head h.field
  have letter : c ≠ 'O' ∧ c ≠ 'L' := by rcases name with rfl | rfl <;> decide
  rw [shape_front_append, starts] at same
  simp only [List.mem_cons, List.not_mem_nil, or_false] at mem
  rcases mem with rfl | rfl
  all_goals
    cases glue : h.glue
    all_goals simp_all [Glue.lead, Glue.keyword]

theorem clauses_readable :
    Readable ' ' Clause.Shape.front (fun h => h.field.toList)
      (fun h => '`' ∉ h.field.toList ∧ ':' ∉ h.condition.toList)
      (Opens [" ORDER BY ", " LIMIT "]) where
  front_inj := by
    intro g h x y plainG plainH same
    rw [shape_front_append, shape_front_append] at same
    obtain ⟨glues, names⟩ := lead_append_inj same
    obtain ⟨fields, rests⟩ := quote_append_inj plainG.1 plainH.1 names
    obtain ⟨conditions, ends⟩ := mark_append_inj plainG.2 plainH.2 rests
    cases g
    cases h
    simp only [Clause.Shape.mk.injEq]
    exact ⟨⟨glues, fields, String.toList_inj.mp conditions⟩, ends⟩
  follows_ne := by
    intro a b rest x y lost follows _ blank same
    obtain ⟨more, starts⟩ :=
      exists_listed_cons ' ' Clause.Shape.front (fun h => h.field.toList) b rest
    rcases follows with ends | ⟨w, mem, after, opens⟩
    · simp [ends] at same
    · rw [opens, starts, List.append_assoc] at same
      simp only [List.mem_cons, List.not_mem_nil, or_false] at mem
      rcases mem with rfl | rfl
      · exact front_ne_keyword (w := "ORDER BY ") (by simp) b (more ++ y) after
          (lost_eq_nil (by decide) (by decide) blank same).2.symm
      · exact front_ne_keyword (w := "LIMIT ") (by simp) b (more ++ y) after
          (lost_eq_nil (by decide) (by decide) blank same).2.symm

/-! ## What may follow the condition -/

namespace Statement

/-- A statement whose names and conditions leave the marks around them to the template, and whose
direction is a word. -/
structure Legible (s : Statement) : Prop where
  table : '`' ∉ s.table.toList
  selectFields : ∀ f ∈ s.selectFields, '`' ∉ f.toList
  fields : ∀ f ∈ s.fields.names, '`' ∉ f.toList
  clauses : ∀ c ∈ s.clauses, '`' ∉ c.field.toList
  orderBy : ∀ f ∈ s.orderBy, '`' ∉ f.toList
  conditions : ∀ c ∈ s.clauses, ':' ∉ c.condition.toList
  direction_ne : s.direction ≠ ""
  direction : ∀ c ∈ s.direction.toList, isBlank c = false

variable {s t : Statement}

theorem opens_limit (s : Statement) : Opens [" LIMIT "] (spaced s.limit?) := by
  by_cases zero : s.limit.getD 0 = 0
  · left
    rw [limit?_eq, if_pos zero]
    rfl
  · right
    exact ⟨" LIMIT ", by simp, _, spaced_limit? zero⟩

theorem limit_eq_of_spaced (same : spaced s.limit? = spaced t.limit?) :
    s.limit.getD 0 = t.limit.getD 0 := by
  by_cases zeroS : s.limit.getD 0 = 0
  · by_cases zeroT : t.limit.getD 0 = 0
    · rw [zeroS, zeroT]
    · rw [limit?_eq, if_pos zeroS, spaced_limit? zeroT] at same
      cases same
  · by_cases zeroT : t.limit.getD 0 = 0
    · rw [limit?_eq t, if_pos zeroT, spaced_limit? zeroS] at same
      cases same
    · rw [spaced_limit? zeroS, spaced_limit? zeroT] at same
      exact Decimal.chars_injective (List.append_cancel_left same)

theorem opens_order (s : Statement) (legible : s.Legible) :
    Opens [" ORDER BY ", " LIMIT "] (spaced s.order? ++ spaced s.limit?) := by
  by_cases empty : s.orderBy = []
  · rw [order?, if_pos empty]
    rcases s.opens_limit with ends | ⟨w, mem, rest, opens⟩
    · exact .inl ends
    · exact .inr ⟨w, List.mem_cons_of_mem _ mem, rest, opens⟩
  · right
    rw [spaced_order? empty legible.direction_ne legible.direction, List.append_assoc]
    exact ⟨" ORDER BY ", List.mem_cons_self, _, rfl⟩

theorem order_eq_of_spaced (legibleS : s.Legible) (legibleT : t.Legible)
    (same : spaced s.order? ++ spaced s.limit? = spaced t.order? ++ spaced t.limit?) :
    s.orderBy = t.orderBy ∧ (s.orderBy ≠ [] → s.direction = t.direction) ∧
      s.limit.getD 0 = t.limit.getD 0 := by
  -- Without an order, what follows is nothing or a limit, and no limit opens like an order.
  have apart {u : Statement} {x : List Char} : spaced u.limit? ≠ " ORDER BY ".toList ++ x := by
    intro eq
    rcases u.opens_limit with ends | ⟨w, mem, rest, opens⟩
    · simp [ends] at eq
    · rw [List.mem_singleton.mp mem] at opens
      simp [opens] at eq
  by_cases emptyS : s.orderBy = []
  · by_cases emptyT : t.orderBy = []
    · rw [order?, if_pos emptyS, order?, if_pos emptyT] at same
      exact ⟨by rw [emptyS, emptyT], fun ordered => absurd emptyS ordered,
        limit_eq_of_spaced same⟩
    · rw [order?, if_pos emptyS, spaced_order? emptyT legibleT.direction_ne legibleT.direction,
        List.append_assoc] at same
      exact absurd same apart
  · by_cases emptyT : t.orderBy = []
    · rw [spaced_order? emptyS legibleS.direction_ne legibleS.direction, order?, if_pos emptyT,
        List.append_assoc] at same
      exact absurd same.symm apart
    · rw [spaced_order? emptyS legibleS.direction_ne legibleS.direction,
        spaced_order? emptyT legibleT.direction_ne legibleT.direction] at same
      simp only [List.append_assoc] at same
      -- The direction is a word, so it ends at the blank in front of the limit.
      have stop (u : Statement) : ∀ c ∈ (spaced u.limit?).head?, (!isBlank c) = false := by
        rcases u.opens_limit with ends | ⟨w, mem, rest, opens⟩
        · simp [ends]
        · rw [List.mem_singleton.mp mem] at opens
          rw [opens]
          rintro c ⟨⟩
          decide
      obtain ⟨names, words⟩ := listedNames_append_inj emptyS emptyT legibleS.orderBy
        legibleT.orderBy (by simp) (by simp) (List.append_cancel_left same)
      obtain ⟨directions, limits⟩ := class_append_inj (by simpa using legibleS.direction)
        (by simpa using legibleT.direction) (stop s) (stop t) (List.cons.inj words).2
      exact ⟨names, fun _ => String.toList_inj.mp directions, limit_eq_of_spaced limits⟩

theorem opens_ending (s : Statement) (legible : s.Legible) :
    Opens [" WHERE ", " ORDER BY ", " LIMIT "] s.ending := by
  by_cases empty : s.clauses = []
  · rw [ending, condition?, if_pos empty]
    rcases s.opens_order legible with ends | ⟨w, mem, rest, opens⟩
    · exact .inl ends
    · exact .inr ⟨w, List.mem_cons_of_mem _ mem, rest, opens⟩
  · right
    rw [ending, spaced_condition? empty, List.append_assoc]
    exact ⟨" WHERE ", List.mem_cons_self, _, rfl⟩

theorem shapes_eq_of_ending (legibleS : s.Legible) (legibleT : t.Legible)
    (same : s.ending = t.ending) :
    s.clauses.map Clause.shape = t.clauses.map Clause.shape ∧
      spaced s.order? ++ spaced s.limit? = spaced t.order? ++ spaced t.limit? := by
  have apart {u : Statement} (legible : u.Legible) {x : List Char} :
      spaced u.order? ++ spaced u.limit? ≠ " WHERE ".toList ++ x := by
    intro eq
    rcases u.opens_order legible with ends | ⟨w, mem, rest, opens⟩
    · simp [ends] at eq
    · simp only [List.mem_cons, List.not_mem_nil, or_false] at mem
      rcases mem with rfl | rfl
      all_goals simp [opens] at eq
  by_cases emptyS : s.clauses = []
  · by_cases emptyT : t.clauses = []
    · rw [ending, condition?, if_pos emptyS, ending, condition?, if_pos emptyT] at same
      exact ⟨by rw [emptyS, emptyT], same⟩
    · rw [ending, condition?, if_pos emptyS, ending, spaced_condition? emptyT,
        List.append_assoc] at same
      exact absurd same (apart legibleS)
  · by_cases emptyT : t.clauses = []
    · rw [ending, spaced_condition? emptyS, List.append_assoc, ending, condition?,
        if_pos emptyT] at same
      exact absurd same.symm (apart legibleT)
    · rw [ending, ending, spaced_condition? emptyS, spaced_condition? emptyT, List.append_assoc,
        List.append_assoc] at same
      have plain {u : Statement} (legible : u.Legible) : ∀ h ∈ u.clauses.map Clause.shape,
          '`' ∉ h.field.toList ∧ ':' ∉ h.condition.toList := by
        intro h mem
        obtain ⟨c, member, rfl⟩ := List.mem_map.mp mem
        exact ⟨legible.clauses c member, legible.conditions c member⟩
      exact clauses_readable.listed_append_inj (by simpa using emptyS) (by simpa using emptyT)
        (plain legibleS) (plain legibleT) (s.opens_order legibleS) (t.opens_order legibleT)
        (List.append_cancel_left same)

/-! ## Whole texts -/

theorem exists_toList_text (nonempty : s.action.writesFields → s.fields.names ≠ []) :
    ∃ rest, s.text.toList = s.action.keyword.toList ++ ' ' :: rest := by
  cases action : s.action with
  | select => exact ⟨_, toList_text_select action⟩
  | insert => exact ⟨_, toList_text_insert action⟩
  | update =>
      have names := nonempty (by rw [action]; rfl)
      exact ⟨_, toList_text_update action names⟩
  | delete => exact ⟨_, toList_text_delete action⟩

theorem action_eq_of_text (someS : s.action.writesFields → s.fields.names ≠ [])
    (someT : t.action.writesFields → t.fields.names ≠ []) (same : s.text = t.text) :
    s.action = t.action := by
  obtain ⟨restS, startsS⟩ := exists_toList_text someS
  obtain ⟨restT, startsT⟩ := exists_toList_text someT
  -- The four keywords differ, and each ends at the first space.
  have word (a : Action) : ' ' ∉ a.keyword.toList := by cases a <;> decide
  rw [same, startsT] at startsS
  have keywords := (mark_append_inj (word _) (word _) startsS).1
  revert keywords
  cases s.action <;> cases t.action <;> decide

theorem showSame_of_ending (legibleS : s.Legible) (legibleT : t.Legible)
    (action : s.action = t.action) (table : s.table = t.table)
    (columns : s.action = .select → s.shownColumns = t.shownColumns)
    (fields : s.action.writesFields → s.fields.names = t.fields.names)
    (endings : s.action.filtersRows → s.ending = t.ending) : s.ShowSame t := by
  have parts (filters : s.action.filtersRows) :=
    shapes_eq_of_ending legibleS legibleT (endings filters)
  have orders (filters : s.action.filtersRows) :=
    order_eq_of_spaced legibleS legibleT (parts filters).2
  exact {
    action, table, columns, fields
    clauses := fun filters => (parts filters).1
    orderBy := fun filters => (orders filters).1
    direction := fun filters => (orders filters).2.1
    limit := fun filters => (orders filters).2.2 }

theorem Legible.shownColumns (legible : s.Legible) :
    s.shownColumns ≠ [] ∧ ∀ f ∈ s.shownColumns, '`' ∉ f.toList := by
  unfold Statement.shownColumns
  split
  · exact ⟨List.cons_ne_nil _ _, by decide⟩
  · exact ⟨by assumption, legible.selectFields⟩

theorem showSame_of_text_select (legibleS : s.Legible) (legibleT : t.Legible)
    (actionS : s.action = .select) (actionT : t.action = .select)
    (same : s.text.toList = t.text.toList) : s.ShowSame t := by
  obtain ⟨someS, plainS⟩ := legibleS.shownColumns
  obtain ⟨someT, plainT⟩ := legibleT.shownColumns
  rw [toList_text_select actionS, toList_text_select actionT] at same
  obtain ⟨columns, froms⟩ := listedNames_append_inj someS someT plainS plainT
    (by simp) (by simp) (List.append_cancel_left same)
  obtain ⟨table, endings⟩ :=
    quote_append_inj legibleS.table legibleT.table (List.append_cancel_left froms)
  refine showSame_of_ending legibleS legibleT (actionS.trans actionT.symm) table ?_ ?_ ?_
  · exact fun _ => columns
  · intro writes
    rw [actionS] at writes
    cases writes
  · exact fun _ => endings

theorem showSame_of_text_insert (legibleS : s.Legible) (legibleT : t.Legible)
    (actionS : s.action = .insert) (actionT : t.action = .insert)
    (someS : s.fields.names ≠ []) (someT : t.fields.names ≠ [])
    (same : s.text.toList = t.text.toList) : s.ShowSame t := by
  rw [toList_text_insert actionS, toList_text_insert actionT] at same
  obtain ⟨table, names⟩ :=
    quote_append_inj legibleS.table legibleT.table (List.append_cancel_left same)
  obtain ⟨fields, -⟩ := listedNames_append_inj someS someT legibleS.fields legibleT.fields
    (by simp) (by simp) (List.append_cancel_left names)
  refine showSame_of_ending legibleS legibleT (actionS.trans actionT.symm) table ?_ ?_ ?_
  · intro selects
    rw [actionS] at selects
    cases selects
  · exact fun _ => fields
  · intro filters
    rw [actionS] at filters
    cases filters

theorem showSame_of_text_update (legibleS : s.Legible) (legibleT : t.Legible)
    (actionS : s.action = .update) (actionT : t.action = .update)
    (someS : s.fields.names ≠ []) (someT : t.fields.names ≠ [])
    (same : s.text.toList = t.text.toList) : s.ShowSame t := by
  rw [toList_text_update actionS someS, toList_text_update actionT someT] at same
  obtain ⟨table, sets⟩ :=
    quote_append_inj legibleS.table legibleT.table (List.append_cancel_left same)
  obtain ⟨fields, endings⟩ := assignments_readable.listed_append_inj someS someT
    legibleS.fields legibleT.fields (s.opens_ending legibleS) (t.opens_ending legibleT)
    (List.append_cancel_left sets)
  refine showSame_of_ending legibleS legibleT (actionS.trans actionT.symm) table ?_ ?_ ?_
  · intro selects
    rw [actionS] at selects
    cases selects
  · exact fun _ => fields
  · exact fun _ => endings

theorem showSame_of_text_delete (legibleS : s.Legible) (legibleT : t.Legible)
    (actionS : s.action = .delete) (actionT : t.action = .delete)
    (same : s.text.toList = t.text.toList) : s.ShowSame t := by
  rw [toList_text_delete actionS, toList_text_delete actionT] at same
  obtain ⟨table, endings⟩ :=
    quote_append_inj legibleS.table legibleT.table (List.append_cancel_left same)
  refine showSame_of_ending legibleS legibleT (actionS.trans actionT.symm) table ?_ ?_ ?_
  · intro selects
    rw [actionS] at selects
    cases selects
  · intro writes
    rw [actionS] at writes
    cases writes
  · exact fun _ => endings

theorem showSame_of_text_eq (legibleS : s.Legible) (legibleT : t.Legible)
    (someS : s.action.writesFields → s.fields.names ≠ [])
    (someT : t.action.writesFields → t.fields.names ≠ []) (same : s.text = t.text) :
    s.ShowSame t := by
  have actions := action_eq_of_text someS someT same
  have texts := congrArg String.toList same
  cases actionS : s.action with
  | select =>
      exact showSame_of_text_select legibleS legibleT actionS (actions ▸ actionS) texts
  | insert =>
      have actionT : t.action = .insert := actions ▸ actionS
      have namesS := someS (by rw [actionS]; rfl)
      have namesT := someT (by rw [actionT]; rfl)
      exact showSame_of_text_insert legibleS legibleT actionS actionT namesS namesT texts
  | update =>
      have actionT : t.action = .update := actions ▸ actionS
      have namesS := someS (by rw [actionS]; rfl)
      have namesT := someT (by rw [actionT]; rfl)
      exact showSame_of_text_update legibleS legibleT actionS actionT namesS namesT texts
  | delete =>
      exact showSame_of_text_delete legibleS legibleT actionS (actions ▸ actionS) texts

end Statement

theorem Synthesizer.sql_eq_iff_showSame {x y : Synthesizer} {s t : Statement} {q r : Registry}
    {sql sql' : String} (legibleS : s.Legible) (legibleT : t.Legible)
    (okS : (x.synthesize s q).result = .ok sql) (okT : (y.synthesize t r).result = .ok sql') :
    sql = sql' ↔ s.ShowSame t := by
  rw [sql_synthesize okS, sql_synthesize okT]
  constructor
  · exact Statement.showSame_of_text_eq legibleS legibleT (fields_of_synthesize okS)
      (fields_of_synthesize okT)
  · exact Statement.text_eq_of_showSame

def Statement.choice : Statement where
  action := .delete
  table := "log"
  clauses := [⟨.none, "a\t", "=", .null⟩, ⟨.or, "b", "=", .int 1⟩]
  direction := "DESC"

def Statement.sorted : Statement where
  action := .delete
  table := "log"
  selectFields := ["hidden"]
  clauses := [⟨.none, "a\t", "=", .int 2⟩]
  orderBy := ["b"]
  direction := "=:b"

theorem Synthesizer.sql_eq_iff_showSame_choice :
    let sql := "DELETE FROM `log` WHERE `a\t`=:a\t OR `b`=:b"
    let sql' := "DELETE FROM `log` WHERE `a\t`=:a ORDER BY `b` =:b"
    (synthesize {} .choice ∅).result = .ok sql ∧ (synthesize {} .sorted ∅).result = .ok sql' ∧
      (sql = sql' ↔ Statement.choice.ShowSame .sorted) := by
  intro sql sql'
  have legibleS : Statement.choice.Legible := by
    constructor
    case direction => simp [Statement.choice, isBlank, blankRanges]
    all_goals decide
  have legibleT : Statement.sorted.Legible := by
    constructor
    case direction => simp [Statement.sorted, isBlank, blankRanges]
    all_goals decide
  have okS : (synthesize {} .choice ∅).result = .ok sql := by decide +kernel
  have okT : (synthesize {} .sorted ∅).result = .ok sql' := by decide +kernel
  exact ⟨okS, okT, sql_eq_iff_showSame legibleS legibleT okS okT⟩

end NamedSql
