import NamedSql.Proofs.Synthesis.Layout
import NamedSql.Proofs.Synthesis.Registry

/-!
# Placeholders in the text

A placeholder stands in the text under the name by which its value is registered, as long as its
piece goes on behind it or its field ends visibly. The last placeholder of the assignments and of the
condition loses the blanks at its end, and then the text and the registry do not agree on its name.

* `placeholder_infix_sql`: which part of each placeholder the text shows.
* `not_placeholder_infix_sql`: a name in the registry that the text does not show.
-/

namespace NamedSql
open Text Identifier

/-! ## Placeholders in a piece -/

theorem toList_placeholder (field : String) : (placeholder field).toList = ':' :: field.toList := by
  simp [placeholder]

theorem infix_intercalate {separator text : String} {texts : List String} (mem : text ∈ texts) :
    text.toList <:+: (separator.intercalate texts).toList := by
  induction texts with
  | nil => exact absurd mem List.not_mem_nil
  | cons first texts ih =>
      cases texts with
      | nil => rw [List.mem_singleton.mp mem, String.intercalate_singleton]
      | cons second rest =>
          rw [String.intercalate_cons_cons, String.toList_append, String.toList_append]
          rcases List.mem_cons.mp mem with rfl | later
          · exact ⟨[], _, List.append_assoc _ _ _ |>.symm⟩
          · exact (ih later).trans (List.suffix_append _ _).isInfix

theorem colon_infix_assignmentFront (field : String) (x : List Char) :
    ':' :: x <:+: assignmentFront field ++ x :=
  ⟨(quote field ++ "=").toList, [], by simp [assignmentFront]⟩

theorem colon_infix_front (h : Clause.Shape) (x : List Char) : ':' :: x <:+: h.front ++ x :=
  ⟨(h.glue.lead ++ quote h.field ++ h.condition).toList, [], by simp [Clause.Shape.front]⟩

theorem trimmed_infix_assignments {field : String} {fields : List String} (mem : field ∈ fields) :
    ':' :: trimRight field.toList <:+: listedAssignments fields :=
  (colon_infix_assignmentFront field _).trans (infix_listed ',' assignmentFront String.toList mem)

theorem placeholder_infix_assignments {field : String} {fields : List String}
    (mem : field ∈ fields.dropLast) :
    (placeholder field).toList <:+: listedAssignments fields := by
  rw [toList_placeholder]
  exact (colon_infix_assignmentFront field _).trans
    (infix_listed_of_mem_dropLast ',' assignmentFront String.toList mem)

theorem trimmed_infix_clauses {h : Clause.Shape} {shapes : List Clause.Shape} (mem : h ∈ shapes) :
    ':' :: trimRight h.field.toList <:+: listedClauses shapes :=
  (colon_infix_front h _).trans
    (infix_listed ' ' Clause.Shape.front (fun h => h.field.toList) mem)

theorem placeholder_infix_clauses {h : Clause.Shape} {shapes : List Clause.Shape}
    (mem : h ∈ shapes.dropLast) : (placeholder h.field).toList <:+: listedClauses shapes := by
  rw [toList_placeholder]
  exact (colon_infix_front h _).trans
    (infix_listed_of_mem_dropLast ' ' Clause.Shape.front (fun h => h.field.toList) mem)

namespace Statement
variable {s : Statement} {field : String}

/-! ## Pieces in the text -/

theorem ending_infix_text (filters : s.action.filtersRows)
    (given : s.action.writesFields → s.fields.names ≠ []) : s.ending <:+: s.text.toList := by
  apply List.IsSuffix.isInfix
  cases action : s.action with
  | select =>
      rw [toList_text_select action]
      simp only [← List.append_assoc]
      exact List.suffix_append _ _
  | insert =>
      rw [action] at filters
      cases filters
  | update =>
      rw [toList_text_update action (given (by rw [action]; rfl))]
      simp only [← List.append_assoc]
      exact List.suffix_append _ _
  | delete =>
      rw [toList_text_delete action]
      simp only [← List.append_assoc]
      exact List.suffix_append _ _

theorem clauses_infix_text (filters : s.action.filtersRows)
    (given : s.action.writesFields → s.fields.names ≠ []) (nonempty : s.clauses ≠ []) :
    listedClauses (s.clauses.map Clause.shape) <:+: s.text.toList := by
  refine List.IsInfix.trans ?_ (ending_infix_text filters given)
  rw [ending, spaced_condition? nonempty, List.append_assoc]
  exact ⟨" WHERE ".toList, spaced s.order? ++ spaced s.limit?, by simp⟩

theorem assignments_infix_text (action : s.action = .update) (given : s.fields.names ≠ []) :
    listedAssignments s.fields.names <:+: s.text.toList := by
  rw [toList_text_update action given]
  exact ⟨"UPDATE ".toList ++ ((quote s.table).toList ++ " SET ".toList), s.ending, by simp⟩

theorem placeholders_infix_text (action : s.action = .insert) :
    (",".intercalate (s.fields.names.map placeholder)).toList <:+: s.text.toList := by
  rw [toList_text_insert action]
  exact ⟨"INSERT INTO ".toList ++ ((quote s.table).toList ++ (" (".toList ++
    (listedNames s.fields.names ++ ") VALUES (".toList))), [')'], by simp⟩

/-! ## Placeholders in the text -/

/-- The fields whose placeholder has something behind it in its piece. -/
def enclosedFields (s : Statement) : List String :=
  (match s.action with
    | .insert => s.fields.names
    | .update => s.fields.names.dropLast
    | _ => []) ++
  if s.action.filtersRows then (s.clauses.map Clause.field).dropLast else []

theorem trimmed_infix_text (given : s.action.writesFields → s.fields.names ≠ [])
    (visited : field ∈ s.visitedFields) : ':' :: trimRight field.toList <:+: s.text.toList := by
  rcases List.mem_append.mp visited with written | compared
  · cases action : s.action with
    | select => simp [action, Action.writesFields] at written
    | delete => simp [action, Action.writesFields] at written
    | insert =>
        have mem : field ∈ s.fields.names := by simpa [action, Action.writesFields] using written
        have front : ':' :: trimRight field.toList <+: (placeholder field).toList := by
          rw [toList_placeholder, List.cons_prefix_cons]
          exact ⟨rfl, trimRight_isPrefix _⟩
        exact front.isInfix.trans ((infix_intercalate (List.mem_map_of_mem mem)).trans
          (placeholders_infix_text action))
    | update =>
        have mem : field ∈ s.fields.names := by simpa [action, Action.writesFields] using written
        exact (trimmed_infix_assignments mem).trans
          (assignments_infix_text action (given (by rw [action]; rfl)))
  · split at compared
    · rename_i filters
      obtain ⟨c, mem, rfl⟩ := List.mem_map.mp compared
      have nonempty : s.clauses ≠ [] := List.ne_nil_of_mem mem
      have shown : c.shape ∈ s.clauses.map Clause.shape := List.mem_map_of_mem mem
      exact (trimmed_infix_clauses shown).trans (clauses_infix_text filters given nonempty)
    · exact absurd compared List.not_mem_nil

theorem enclosed_infix_text (given : s.action.writesFields → s.fields.names ≠ [])
    (enclosed : field ∈ s.enclosedFields) : (placeholder field).toList <:+: s.text.toList := by
  rw [enclosedFields] at enclosed
  rcases List.mem_append.mp enclosed with written | compared
  · cases action : s.action with
    | select => simp [action] at written
    | delete => simp [action] at written
    | insert =>
        have mem : field ∈ s.fields.names := by simpa [action] using written
        exact (infix_intercalate (List.mem_map_of_mem mem)).trans (placeholders_infix_text action)
    | update =>
        have mem : field ∈ s.fields.names.dropLast := by simpa [action] using written
        exact (placeholder_infix_assignments mem).trans
          (assignments_infix_text action (given (by rw [action]; rfl)))
  · split at compared
    · rename_i filters
      rw [← List.map_dropLast] at compared
      obtain ⟨c, mem, rfl⟩ := List.mem_map.mp compared
      have nonempty : s.clauses ≠ [] := List.ne_nil_of_mem (List.mem_of_mem_dropLast mem)
      have inner : c.shape ∈ (s.clauses.map Clause.shape).dropLast := by
        rw [← List.map_dropLast]
        exact List.mem_map_of_mem mem
      exact (placeholder_infix_clauses inner).trans (clauses_infix_text filters given nonempty)
    · exact absurd compared List.not_mem_nil

end Statement

namespace Synthesizer
variable {x : Synthesizer} {s : Statement} {r : Registry} {sql field : String}

theorem placeholder_infix_sql (ok : (x.synthesize s r).result = .ok sql)
    (visited : field ∈ s.visitedFields) :
    ':' :: trimRight field.toList <:+: sql.toList ∧
    (field ∈ s.enclosedFields ∨ trimRight field.toList = field.toList →
      (placeholder field).toList <:+: sql.toList) := by
  rw [sql_synthesize ok]
  have given := fields_of_synthesize ok
  have trimmed := Statement.trimmed_infix_text given visited
  refine ⟨trimmed, ?_⟩
  rintro (enclosed | ends)
  · exact Statement.enclosed_infix_text given enclosed
  · rwa [ends, ← toList_placeholder] at trimmed

def ragged : Statement where
  action := .update
  table := "t"
  fields := ⟨[("a ", .int 1), ("b ", .int 2)]⟩
  clauses := [⟨.none, "c ", "=", .int 3⟩, ⟨.and, "d", "=", .int 4⟩]

theorem placeholder_infix_sql_ragged :
    let sql := "UPDATE `t` SET `a `=:a ,`b `=:b WHERE `c `=:c  AND `d`=:d"
    (synthesize {} ragged ∅).result = .ok sql ∧
      (∀ field ∈ ["a ", "c ", "d"], (placeholder field).toList <:+: sql.toList) ∧
      ":b".toList <:+: sql.toList := by
  intro sql
  have ok : (synthesize {} ragged ∅).result = .ok sql := by decide +kernel
  refine ⟨ok, ?_, ?_⟩
  · rw [List.forall_mem_cons, List.forall_mem_cons, List.forall_mem_singleton]
    refine ⟨?_, ?_, ?_⟩
    · exact (placeholder_infix_sql ok (by decide)).2 (.inl (by decide))
    · exact (placeholder_infix_sql ok (by decide)).2 (.inl (by decide))
    · exact (placeholder_infix_sql ok (by decide)).2 (.inr (by decide))
  · have visited : "b " ∈ ragged.visitedFields := by decide
    exact (placeholder_infix_sql ok visited).1

theorem not_placeholder_infix_sql :
    let s : Statement :=
      { action := .select, table := "t", clauses := [⟨.none, "id ", "=", .int 1⟩] }
    let after := synthesize {} s ∅
    let sql := "SELECT * FROM `t` WHERE `id `=:id"
    after.result = .ok sql ∧ "id " ∈ s.visitedFields ∧
      after.registry.names = [placeholder "id "] ∧
      ¬ (placeholder "id ").toList <:+: sql.toList := by
  decide +kernel

end Synthesizer
end NamedSql
