import Mathlib.Data.Finset.Card
import NamedSql.Proofs.Entries.Extensional
import NamedSql.Statement

namespace NamedSql

namespace Entries
variable {α : Type}

def lastWrite? (history : List (String × α)) (name : String) : Option α :=
  history.reverse.lookup name

/-- What a store holds when `history` is the list of writes since it was last empty. -/
structure Records (m : Entries α) (history : List (String × α)) : Prop where
  distinct : m.names.Nodup
  order : m.names = (history.map Prod.fst).eraseDups
  value : ∀ name, m.get? name = lastWrite? history name
  contains : ∀ name, m.contains name = (m.get? name).isSome
  size : m.size = (history.map Prod.fst).toFinset.card

theorem names_ofList (history : List (String × α)) :
    (ofList history).names = (history.map Prod.fst).eraseDups := by
  rw [ofList, names_extend]
  simp

theorem get?_ofList (history : List (String × α)) (name : String) :
    (ofList history).get? name = lastWrite? history name := by
  -- Along the history from its end, where the last write stands.
  induction history using List.reverseRecOn with
  | nil => rfl
  | append_singleton earlier e ih =>
      rw [ofList] at ih ⊢
      rw [extend_append, extend_cons, extend_nil, get?_set, ih, lastWrite?, lastWrite?,
        List.reverse_append, List.reverse_singleton, List.singleton_append, List.lookup_cons]
      by_cases here : e.1 = name
      · simp [here]
      · have other : (name == e.1) = false := by simpa using Ne.symm here
        simp [here, other]

theorem size_extend {m : Entries α} (distinct : m.names.Nodup) (es : List (String × α)) :
    (m.extend es).size = (m.names ++ es.map Prod.fst).toFinset.card := by
  rw [← length_names, ← List.toFinset_card_of_nodup (nodup_names_extend distinct es)]
  congr 1
  ext name
  rw [List.mem_toFinset, List.mem_toFinset, mem_names_extend, List.mem_append]

theorem size_ofList (history : List (String × α)) :
    (ofList history).size = (history.map Prod.fst).toFinset.card :=
  size_extend (m := ∅) List.nodup_nil history

theorem records_ofList (history : List (String × α)) : (ofList history).Records history where
  distinct := nodup_names_ofList history
  order := names_ofList history
  value := get?_ofList history
  contains := fun name => (isSome_get? _ name).symm
  size := size_ofList history

/-! ## Lists without repetitions -/

theorem set_of_notMem {m : Entries α} {name : String} (unknown : name ∉ m.names) (value : α) :
    m.set name value = ⟨m.toList ++ [(name, value)]⟩ := by
  obtain ⟨es⟩ := m
  simp only [set, names] at unknown ⊢
  congr 1
  induction es with
  | nil => rfl
  | cons e es ih =>
      rw [List.map_cons, List.mem_cons, not_or] at unknown
      rw [write, if_neg (Ne.symm unknown.1), ih unknown.2, List.cons_append]

theorem extend_of_nodup {m : Entries α} {es : List (String × α)}
    (distinct : (m.names ++ es.map Prod.fst).Nodup) : m.extend es = ⟨m.toList ++ es⟩ := by
  induction es generalizing m with
  | nil => simp
  | cons e es ih =>
      have unknown : e.1 ∉ m.names := by
        intro known
        exact (List.nodup_append.mp distinct).2.2 e.1 known e.1 List.mem_cons_self rfl
      have names : (m.set e.1 e.2).names = m.names ++ [e.1] := by
        rw [names_set, if_neg unknown]
      rw [extend_cons, ih (by simpa [names] using distinct), set_of_notMem unknown]
      simp

theorem ofList_toList {m : Entries α} (distinct : m.names.Nodup) : ofList m.toList = m :=
  extend_of_nodup (m := ∅) distinct

end Entries

/-! ## Field maps -/

namespace FieldMap

inductive Edit where
  | set (field : String) (value : Scalar)
  | extend (fields : List (String × Scalar))
  | collect (fields : List (String × Scalar))

def edit (m : FieldMap) : Edit → FieldMap
  | .set field value => m.set field value
  | .extend fields => m.extend fields
  | .collect fields => .ofList fields

def written (history : List (String × Scalar)) : Edit → List (String × Scalar)
  | .set field value => history ++ [(field, value)]
  | .extend fields => history ++ fields
  | .collect fields => fields

def run (edits : List Edit) : FieldMap := edits.foldl edit ∅

def history (edits : List Edit) : List (String × Scalar) := edits.foldl written []

theorem edit_ofList (history : List (String × Scalar)) (e : Edit) :
    edit (.ofList history) e = .ofList (written history e) := by
  cases e with
  | set field value => exact (Entries.extend_append ∅ history [(field, value)]).symm
  | extend fields => exact (Entries.extend_append ∅ history fields).symm
  | collect fields => rfl

theorem run_eq_ofList (edits : List Edit) : run edits = .ofList (history edits) := by
  change edits.foldl edit (.ofList []) = _
  exact List.foldl_hom Entries.ofList edit_ofList

theorem nodup_names_run (edits : List Edit) : (run edits).names.Nodup := by
  rw [run_eq_ofList]
  exact Entries.nodup_names_ofList _

end FieldMap

/-! ## Registries -/

namespace Registry

inductive Edit where
  | set (name : String) (value : Scalar)
  | register (field : String) (value : Scalar)
  | clear

def edit (r : Registry) : Edit → Registry
  | .set name value => r.set name value
  | .register field value => r.register field value
  | .clear => ∅

def written (history : List (String × Scalar)) : Edit → List (String × Scalar)
  | .set name value => history ++ [(name, value)]
  | .register field value => history ++ [(placeholder field, value)]
  | .clear => []

def run (edits : List Edit) : Registry := edits.foldl edit ∅

def history (edits : List Edit) : List (String × Scalar) := edits.foldl written []

theorem edit_ofList (history : List (String × Scalar)) (e : Edit) :
    edit (.ofList history) e = .ofList (written history e) := by
  cases e with
  | set name value => exact (Entries.extend_append ∅ history [(name, value)]).symm
  | register field value =>
      exact (Entries.extend_append ∅ history [(placeholder field, value)]).symm
  | clear => rfl

theorem run_eq_ofList (edits : List Edit) : run edits = .ofList (history edits) := by
  change edits.foldl edit (.ofList []) = _
  exact List.foldl_hom Entries.ofList edit_ofList

end Registry

/-! ## Both stores -/

namespace Entries

theorem records_histories (fieldEdits : List FieldMap.Edit) (registryEdits : List Registry.Edit) :
    let m := FieldMap.run fieldEdits
    let r := Registry.run registryEdits
    m.Records (FieldMap.history fieldEdits) ∧
    r.Records (Registry.history registryEdits) ∧
    ofList m.toList = m ∧
    ∀ xs ys, (m.extend xs).extend ys = m.extend (xs ++ ys) := by
  intro m r
  refine ⟨?_, ?_, ?_, ?_⟩
  · rw [show m = _ from FieldMap.run_eq_ofList fieldEdits]
    exact records_ofList _
  · rw [show r = _ from Registry.run_eq_ofList registryEdits]
    exact records_ofList _
  · exact ofList_toList (FieldMap.nodup_names_run fieldEdits)
  · intro xs ys
    exact (extend_append m xs ys).symm

example :
    let r := Registry.run [.set ":a" (.int 1), .clear, .register "b" .null, .register "a" .null,
      .set ":b" (.int 2)]
    r.names = [":b", ":a"] ∧ r.get? ":b" = some (.int 2) := by
  decide

end Entries
end NamedSql
