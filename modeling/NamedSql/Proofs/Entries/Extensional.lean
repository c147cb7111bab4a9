import NamedSql.Proofs.Entries.Writes

namespace NamedSql.Entries
variable {α : Type}

theorem toList_eq_filterMap {m : Entries α} (distinct : m.names.Nodup) :
    m.toList = m.names.filterMap fun name => (m.get? name).map (Prod.mk name) := by
  obtain ⟨es⟩ := m
  simp only [names, get?] at distinct ⊢
  induction es with
  | nil => rfl
  | cons e es ih =>
      rw [List.map_cons, List.nodup_cons] at distinct
      have rest : ∀ name ∈ es.map Prod.fst,
          (((e :: es).find? fun d => d.1 = name).map Prod.snd).map (Prod.mk name) =
            ((es.find? fun d => d.1 = name).map Prod.snd).map (Prod.mk name) := by
        intro name mem
        have other : e.1 ≠ name := fun same => distinct.1 (same ▸ mem)
        rw [List.find?_cons_of_neg (by simpa using other)]
      rw [List.map_cons, List.filterMap_cons, List.filterMap_congr rest, ← ih distinct.2]
      simp

theorem get?_of_mem {m : Entries α} (distinct : m.names.Nodup) {e : String × α}
    (mem : e ∈ m.toList) : m.get? e.1 = some e.2 := by
  rw [toList_eq_filterMap distinct, List.mem_filterMap] at mem
  obtain ⟨name, -, found⟩ := mem
  obtain ⟨value, read, rfl⟩ := Option.map_eq_some_iff.mp found
  exact read

theorem mem_of_get? {m : Entries α} {name : String} {value : α} (read : m.get? name = some value) :
    (name, value) ∈ m.toList := by
  obtain ⟨e, found, rfl⟩ := Option.map_eq_some_iff.mp read
  have named : e.1 = name := by simpa using List.find?_some found
  exact named ▸ List.mem_of_find?_eq_some found

theorem eq_of_get? {m n : Entries α} (distinct : m.names.Nodup) (names : m.names = n.names)
    (values : ∀ name ∈ m.names, m.get? name = n.get? name) : m = n := by
  obtain ⟨es⟩ := m
  obtain ⟨fs⟩ := n
  congr 1
  refine (toList_eq_filterMap distinct).trans ?_
  rw [List.filterMap_congr fun name mem => by rw [values name mem], names]
  exact (toList_eq_filterMap (names ▸ distinct)).symm

theorem perm_of_get? {m n : Entries α} (distinctM : m.names.Nodup) (distinctN : n.names.Nodup)
    (names : ∀ name, name ∈ m.names ↔ name ∈ n.names)
    (values : ∀ name ∈ m.names, m.get? name = n.get? name) : m.toList.Perm n.toList := by
  have order : m.names.Perm n.names := (List.perm_ext_iff_of_nodup distinctM distinctN).mpr names
  rw [toList_eq_filterMap distinctM, toList_eq_filterMap distinctN,
    List.filterMap_congr fun name mem => by rw [values name mem]]
  exact order.filterMap _

/-! ## Writing over a store -/

theorem mem_names_extend {m : Entries α} {es : List (String × α)} {name : String} :
    name ∈ (m.extend es).names ↔ name ∈ m.names ∨ name ∈ es.map Prod.fst := by
  rw [names_extend, List.mem_append, List.mem_eraseDups, List.mem_filter]
  by_cases known : name ∈ m.names <;> simp [known]

theorem isEmpty_ofList (es : List (String × α)) :
    (ofList es).isEmpty ↔ es = [] := by
  cases es with
  | nil => simp [ofList, isEmpty, extend, EmptyCollection.emptyCollection]
  | cons e es =>
      have known : e.1 ∈ (ofList (e :: es)).names := by
        rw [ofList, mem_names_extend]
        simp
      have filled : (ofList (e :: es)).toList ≠ [] := by
        intro none
        simp [names, none] at known
      simpa [isEmpty] using filled

theorem get?_extend_congr {es : List (String × α)} {name : String}
    (written : name ∈ es.map Prod.fst) (m n : Entries α) :
    (m.extend es).get? name = (n.extend es).get? name := by
  induction es generalizing m n with
  | nil => exact absurd written List.not_mem_nil
  | cons e es ih =>
      rw [extend_cons, extend_cons]
      by_cases again : name ∈ es.map Prod.fst
      · exact ih again _ _
      · have here : e.1 = name := by
          rw [List.map_cons, List.mem_cons] at written
          exact (written.resolve_right again).symm
        rw [get?_extend_of_notMem again, get?_extend_of_notMem again, get?_set, get?_set,
          if_pos here, if_pos here]

/-- Writing a list once more changes nothing: every name has its place, and the last write of it
comes last again. -/
theorem extend_extend {m : Entries α} (distinct : m.names.Nodup) (es : List (String × α)) :
    (m.extend es).extend es = m.extend es := by
  have known : ∀ name ∈ es.map Prod.fst, name ∈ (m.extend es).names := by
    intro name written
    exact mem_names_extend.mpr (.inr written)
  have names : ((m.extend es).extend es).names = (m.extend es).names := by
    rw [names_extend (m.extend es), List.filter_eq_nil_iff.mpr (by simpa using known)]
    simp
  refine eq_of_get? (names ▸ nodup_names_extend distinct es) names fun name _ => ?_
  by_cases written : name ∈ es.map Prod.fst
  · exact get?_extend_congr written _ _
  · exact get?_extend_of_notMem written _

/-! ## First occurrences -/

theorem eraseDups_filter (p : String → Bool) (names : List String) :
    (names.filter p).eraseDups = names.eraseDups.filter p := by
  match names with
  | [] => rfl
  | name :: names =>
      -- Dropping `name` and filtering by `p` may change places.
      have smaller : (names.filter fun other => !other == name).length < names.length + 1 :=
        Nat.lt_succ_of_le (List.length_filter_le _ _)
      have ih := eraseDups_filter p (names.filter fun other => !other == name)
      rw [List.filter_filter] at ih
      cases kept : p name with
      | true =>
          rw [List.filter_cons_of_pos kept, List.eraseDups_cons, List.eraseDups_cons,
            List.filter_cons_of_pos kept, ← ih, List.filter_filter]
          simp only [Bool.and_comm]
      | false =>
          have gone : names.filter p = names.filter fun other => p other && !other == name := by
            apply List.filter_congr
            intro other _
            by_cases same : other = name <;> simp [same, kept]
          rw [List.filter_cons_of_neg (by simp [kept]), List.eraseDups_cons,
            List.filter_cons_of_neg (by simp [kept]), ← ih, ← gone]
termination_by names.length

theorem nodup_eraseDups (names : List String) : names.eraseDups.Nodup := by
  have written : (ofList (names.map fun name => (name, ()))).names = names.eraseDups := by
    rw [ofList, names_extend]
    simp [Function.comp_def]
  exact written ▸ nodup_names_ofList _

theorem names_extend_of_prefix {m : Entries α} {es : List (String × α)}
    (first : m.names <+: (es.map Prod.fst).eraseDups) :
    (m.extend es).names = (es.map Prod.fst).eraseDups := by
  obtain ⟨rest, split⟩ := first
  have disjoint := List.nodup_append.mp (split ▸ nodup_eraseDups (es.map Prod.fst))
  have old : m.names.filter (fun name => name ∉ m.names) = [] := by simp
  have new : rest.filter (fun name => name ∉ m.names) = rest := by
    rw [List.filter_eq_self]
    intro name mem
    simpa using fun known => disjoint.2.2 name known name mem rfl
  rw [names_extend, eraseDups_filter, ← split, List.filter_append, old, new, List.nil_append]

end NamedSql.Entries
