import Mathlib.Data.List.Nodup
import NamedSql.Entries

namespace NamedSql.Entries
variable {α : Type}

theorem names_extend (m : Entries α) (es : List (String × α)) :
    (m.extend es).names =
      m.names ++ ((es.map Prod.fst).filter fun name => name ∉ m.names).eraseDups := by
  induction es generalizing m with
  | nil => simp
  | cons e es ih =>
      rw [extend_cons, ih, names_set]
      by_cases known : e.1 ∈ m.names
      · simp [known]
      · -- A new name goes to the end, and the later writes of it find it there.
        have later : (es.map Prod.fst).filter (fun name => name ∉ m.names ++ [e.1]) =
            ((es.map Prod.fst).filter fun name => name ∉ m.names).filter
              fun name => !name == e.1 := by
          rw [List.filter_filter]
          apply List.filter_congr
          intro name _
          by_cases same : name = e.1 <;> simp [same, known]
        rw [if_neg known, later, List.map_cons, List.filter_cons_of_pos (by simpa using known),
          List.eraseDups_cons]
        simp

theorem get?_extend_of_notMem {es : List (String × α)} {name : String}
    (unwritten : name ∉ es.map Prod.fst) (m : Entries α) :
    (m.extend es).get? name = m.get? name := by
  induction es generalizing m with
  | nil => rfl
  | cons e es ih =>
      rw [List.map_cons, List.mem_cons, not_or] at unwritten
      rw [extend_cons, ih unwritten.2, get?_set, if_neg (Ne.symm unwritten.1)]

theorem get?_extend_of_last {later : List (String × α)} {name : String}
    (last : name ∉ later.map Prod.fst) (m : Entries α) (earlier : List (String × α)) (value : α) :
    (m.extend (earlier ++ (name, value) :: later)).get? name = some value := by
  rw [extend_append, extend_cons, get?_extend_of_notMem last, get?_set, if_pos rfl]

end NamedSql.Entries
