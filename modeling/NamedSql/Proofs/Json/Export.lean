import NamedSql.Proofs.Decimal.Float
import NamedSql.Proofs.Synthesis.Use
import NamedSql.Proofs.Text.ByteOrder
import NamedSql.Scalar.Json

namespace NamedSql

/-! ## Sorted members -/

namespace Json

def Ascending (ms : List (String × Json)) : Prop := ms.Pairwise fun m n => m.1 < n.1

theorem mem_insertMember {name : String} {value : Json} {ms : List (String × Json)}
    {m : String × Json} (mem : m ∈ insertMember name value ms) : m = (name, value) ∨ m ∈ ms := by
  induction ms with
  | nil => exact .inl (List.mem_singleton.mp mem)
  | cons n ms ih =>
      rw [insertMember] at mem
      split at mem
      · exact List.mem_cons.mp mem
      · split at mem
        · exact (List.mem_cons.mp mem).imp_right (List.mem_cons_of_mem n)
        · rcases List.mem_cons.mp mem with rfl | later
          · exact .inr List.mem_cons_self
          · exact (ih later).imp_right (List.mem_cons_of_mem n)

theorem Ascending.insertMember {ms : List (String × Json)} (ascending : Ascending ms)
    (name : String) (value : Json) : Ascending (insertMember name value ms) := by
  induction ms with
  | nil => exact List.pairwise_singleton _ _
  | cons n ms ih =>
      obtain ⟨first, rest⟩ := List.pairwise_cons.mp ascending
      rw [Json.insertMember]
      split
      · rename_i before
        refine List.pairwise_cons.mpr ⟨?_, ascending⟩
        intro m mem
        rcases List.mem_cons.mp mem with rfl | later
        · exact before
        · exact String.lt_trans before (first m later)
      · rename_i notBefore
        split
        · rename_i same
          exact List.pairwise_cons.mpr ⟨fun m mem => same ▸ first m mem, rest⟩
        · rename_i other
          have behind : n.1 < name := by
            by_contra notBehind
            exact other
              (String.le_antisymm (String.not_lt.mp notBehind) (String.not_lt.mp notBefore))
          refine List.pairwise_cons.mpr ⟨?_, ih rest⟩
          intro m mem
          rcases mem_insertMember mem with rfl | later
          · exact behind
          · exact first m later

theorem perm_insertMember {name : String} {ms : List (String × Json)}
    (unknown : name ∉ ms.map Prod.fst) (value : Json) :
    (insertMember name value ms).Perm ((name, value) :: ms) := by
  induction ms with
  | nil => exact .refl _
  | cons n ms ih =>
      rw [List.map_cons, List.mem_cons, not_or] at unknown
      rw [insertMember]
      split
      · exact .refl _
      · rw [if_neg unknown.1]
        exact ((ih unknown.2).cons n).trans (.swap _ _ ms)

theorem ascending_sortMembers (ms : List (String × Json)) : Ascending (sortMembers ms) := by
  have go {sorted : List (String × Json)} (ascending : Ascending sorted) :
      Ascending (ms.foldl (fun sorted m => insertMember m.1 m.2 sorted) sorted) := by
    induction ms generalizing sorted with
    | nil => exact ascending
    | cons m ms ih => exact ih (ascending.insertMember m.1 m.2)
  exact go List.Pairwise.nil

theorem perm_foldl_insertMember {sorted ms : List (String × Json)}
    (distinct : ((sorted ++ ms).map Prod.fst).Nodup) :
    (ms.foldl (fun sorted m => insertMember m.1 m.2 sorted) sorted).Perm (sorted ++ ms) := by
  induction ms generalizing sorted with
  | nil => simp
  | cons m ms ih =>
      have unknown : m.1 ∉ sorted.map Prod.fst := by
        intro known
        rw [List.map_append, List.nodup_append] at distinct
        exact distinct.2.2 m.1 known m.1 List.mem_cons_self rfl
      have placed : (insertMember m.1 m.2 sorted ++ ms).Perm (sorted ++ m :: ms) :=
        ((perm_insertMember unknown m.2).append_right ms).trans List.perm_middle.symm
      exact (ih ((placed.map Prod.fst).nodup_iff.mpr distinct)).trans placed

theorem perm_sortMembers {ms : List (String × Json)} (distinct : (ms.map Prod.fst).Nodup) :
    (sortMembers ms).Perm ms :=
  @perm_foldl_insertMember [] ms distinct

theorem Ascending.eq_of_perm {ms ns : List (String × Json)} (ascendingM : Ascending ms)
    (ascendingN : Ascending ns) (perm : ms.Perm ns) : ms = ns :=
  perm.eq_of_pairwise (fun _ _ _ _ before behind => absurd behind (String.lt_asymm before))
    ascendingM ascendingN

end Json

theorem Scalar.toJson_float_of_not_isFinite {x : Float} (notFinite : ¬x.isFinite) :
    (Scalar.float x).toJson = .null := by
  rw [← Decimal.isSome_numeral? jsonLayout, Option.not_isSome_iff_eq_none] at notFinite
  rw [toJson, notFinite]
  rfl

/-! ## Exports -/

namespace Entries

def members (r : Registry) : List (String × Json) := r.toList.map fun e => (e.1, e.2.toJson)

theorem names_members (r : Registry) : r.members.map Prod.fst = r.names := by
  rw [members, names, List.map_map]
  rfl

structure Exported (r : Registry) (ms : List (String × Json)) : Prop where
  object : r.toJsonObject = .ofMembers ms
  size : ms.length = r.size
  names : (ms.map Prod.fst).Perm r.names
  bytes : (ms.map Prod.fst).Pairwise fun a b => Text.bytes a < Text.bytes b
  points : (ms.map Prod.fst).Pairwise fun a b => a.toList < b.toList
  values : ∀ m ∈ ms, ∃ v, r.get? m.1 = some v ∧ m.2 = v.toJson
  notFinite : ∀ name x, r.get? name = some (.float x) → ¬x.isFinite → (name, Json.null) ∈ ms

theorem exported_sortMembers {r : Registry} (distinct : r.names.Nodup) :
    r.Exported (Json.sortMembers r.members) := by
  have perm : (Json.sortMembers r.members).Perm r.members :=
    Json.perm_sortMembers (by rwa [names_members])
  have ascending := Json.ascending_sortMembers r.members
  refine ⟨rfl, ?_, ?_, ?_, ?_, ?_, ?_⟩
  · rw [perm.length_eq, members, List.length_map]
    rfl
  · rw [← names_members]
    exact perm.map Prod.fst
  · exact List.pairwise_map.mpr (ascending.imp Text.bytes_lt_iff.mpr)
  · exact List.pairwise_map.mpr ascending
  · intro m mem
    obtain ⟨e, entry, rfl⟩ := List.mem_map.mp (perm.mem_iff.mp mem)
    exact ⟨e.2, get?_of_mem distinct entry, rfl⟩
  · intro name x read notFinite
    rw [← Scalar.toJson_float_of_not_isFinite notFinite]
    exact perm.mem_iff.mpr (List.mem_map_of_mem (mem_of_get? read))

theorem toJsonObject_eq_of_get? {q r : Registry} (distinctQ : q.names.Nodup)
    (distinctR : r.names.Nodup) (same : ∀ name, q.get? name = r.get? name) :
    q.toJsonObject = r.toJsonObject := by
  have names (name : String) : name ∈ q.names ↔ name ∈ r.names := by
    rw [← contains_iff, ← contains_iff, ← isSome_get?, ← isSome_get?, same]
  have entries : q.members.Perm r.members :=
    (perm_of_get? distinctQ distinctR names fun name _ => same name).map _
  have sorted : (Json.sortMembers q.members).Perm (Json.sortMembers r.members) :=
    ((Json.perm_sortMembers (by rwa [names_members])).trans entries).trans
      (Json.perm_sortMembers (by rwa [names_members])).symm
  -- The members are the same up to their order, and their names allow one order only.
  exact congrArg Json.ofMembers ((Json.ascending_sortMembers q.members).eq_of_perm
    (Json.ascending_sortMembers r.members) sorted)

end Entries

namespace Registry

theorem exported_uses :
    (∀ us, ∃ ms, (uses us).Exported ms) ∧
    (∀ a b : String, Text.bytes a < Text.bytes b ↔ a.toList < b.toList) ∧
    ∀ us vs, (∀ name, (uses us).get? name = (uses vs).get? name) →
      (uses us).toJsonObject.text = (uses vs).toJsonObject.text := by
  refine ⟨fun us => ?_, fun _ _ => Text.bytes_lt_iff, fun us vs same => ?_⟩
  · exact ⟨_, Entries.exported_sortMembers (nodup_names_uses us)⟩
  · rw [Entries.toJsonObject_eq_of_get? (nodup_names_uses us) (nodup_names_uses vs) same]

/-- Two histories of one registry, with a name that only code points put behind another one. -/
theorem exported_uses_shuffled :
    let us : List Use := [.edit (.set "😀" (.int 1)), .edit (.register "b" .null),
      .edit (.set "\uffff" (.text "x")), .edit (.set "😀" (.float (0.0 / 0.0))),
      .edit (.register "b" (.int 2))]
    let s : Statement := { action := .delete, clauses := [⟨.none, "b", "=", .int 2⟩] }
    let vs : List Use := [.edit (.set "old" .null), .edit .clear, .edit (.set "\uffff" (.text "x")),
      .synthesize {} s, .edit (.set "😀" (.float (0.0 / 0.0)))]
    (uses us).names = ["😀", ":b", "\uffff"] ∧ (uses vs).names = ["\uffff", ":b", "😀"] ∧
      (∀ name, (uses us).get? name = (uses vs).get? name) ∧
      (uses us).toJsonObject.text = (uses vs).toJsonObject.text ∧
      (uses vs).toJsonObject.text = "\x7b\":b\":2,\"\uffff\":\"x\",\"😀\":null\x7d" := by
  intro us s vs
  have one : uses us = ⟨[("😀", .float (0.0 / 0.0)), (":b", .int 2), ("\uffff", .text "x")]⟩ := rfl
  have other : uses vs = ⟨[("\uffff", .text "x"), (":b", .int 2), ("😀", .float (0.0 / 0.0))]⟩ := rfl
  have same : ∀ name, (uses us).get? name = (uses vs).get? name := by
    intro name
    rw [one, other]
    simp only [Entries.get?, List.find?_cons]
    by_cases smile : "😀" = name
    · subst smile; rfl
    · by_cases b : ":b" = name
      · subst b; rfl
      · simp [smile, b]
  exact ⟨by decide, by decide, same, exported_uses.2.2 us vs same, by decide +kernel⟩

end Registry
end NamedSql
