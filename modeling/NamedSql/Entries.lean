/-!
# Ordered entries

`Entries α` keeps named values in the order in which the names were first written. Writing a name
again replaces its value and keeps its place.

* `get?_set`: a write is what its own name reads, and no other name notices it.
* `names_set`: a write adds its name at the end, unless the name is there already.
* `nodup_names_set`, `nodup_names_extend`: names stay distinct.
* `extend_append`: entries can be written in one go or in several.
-/

namespace NamedSql

/-- Named values in the order of first writing. -/
structure Entries (α : Type) where
  toList : List (String × α) := []
  deriving Repr, BEq

namespace Entries
variable {α : Type}

instance : EmptyCollection (Entries α) := ⟨{ toList := [] }⟩

instance : Inhabited (Entries α) := ⟨∅⟩

def write (name : String) (value : α) : List (String × α) → List (String × α)
  | [] => [(name, value)]
  | e :: es => if e.1 = name then (name, value) :: es else e :: write name value es

def set (m : Entries α) (name : String) (value : α) : Entries α :=
  ⟨write name value m.toList⟩

def extend (m : Entries α) (entries : List (String × α)) : Entries α :=
  entries.foldl (fun m e => m.set e.1 e.2) m

def ofList (entries : List (String × α)) : Entries α := extend ∅ entries

def get? (m : Entries α) (name : String) : Option α :=
  (m.toList.find? fun e => e.1 = name).map Prod.snd

def contains (m : Entries α) (name : String) : Bool :=
  m.toList.any fun e => e.1 = name

def names (m : Entries α) : List String := m.toList.map Prod.fst

def values (m : Entries α) : List α := m.toList.map Prod.snd

def size (m : Entries α) : Nat := m.toList.length

def isEmpty (m : Entries α) : Bool := m.toList.isEmpty

/-! ## Laws of writing -/

theorem get?_set (m : Entries α) (name other : String) (value : α) :
    (m.set name value).get? other = if name = other then some value else m.get? other := by
  obtain ⟨es⟩ := m
  simp only [get?, set]
  induction es with
  | nil => by_cases h : name = other <;> simp [write, h]
  | cons e es ih =>
      by_cases he : e.1 = name
      · by_cases h : name = other <;> simp_all [write]
      · by_cases h : e.1 = other
        · simp_all [write]
          grind
        · simp_all [write]

theorem names_set (m : Entries α) (name : String) (value : α) :
    (m.set name value).names = if name ∈ m.names then m.names else m.names ++ [name] := by
  obtain ⟨es⟩ := m
  simp only [names, set]
  induction es with
  | nil => simp [write]
  | cons e es ih =>
      by_cases h : e.1 = name
      · simp [write, h]
      · have h' : ¬ name = e.1 := fun eq => h eq.symm
        simp only [write, h, if_false, List.map_cons, ih, List.mem_cons, h', false_or]
        split <;> simp_all

theorem nodup_names_set {m : Entries α} (distinct : m.names.Nodup) (name : String) (value : α) :
    (m.set name value).names.Nodup := by
  rw [names_set]
  split
  · exact distinct
  · rename_i absent
    rw [List.nodup_append]
    exact ⟨distinct, by simp, by rintro x hx y hy rfl; simp at hy; exact absent (hy ▸ hx)⟩

/-! ## Laws of lists of entries -/

@[simp]
theorem extend_nil (m : Entries α) : m.extend [] = m := rfl

@[simp]
theorem extend_cons (m : Entries α) (e : String × α) (es : List (String × α)) :
    m.extend (e :: es) = (m.set e.1 e.2).extend es := rfl

theorem extend_append (m : Entries α) (es fs : List (String × α)) :
    m.extend (es ++ fs) = (m.extend es).extend fs := by
  simp [extend]

theorem nodup_names_extend {m : Entries α} (distinct : m.names.Nodup)
    (es : List (String × α)) : (m.extend es).names.Nodup := by
  induction es generalizing m with
  | nil => exact distinct
  | cons e es ih => exact ih (nodup_names_set distinct e.1 e.2)

theorem nodup_names_ofList (es : List (String × α)) : (ofList es).names.Nodup :=
  nodup_names_extend (m := ∅) List.nodup_nil es

/-! ## Views -/

@[simp]
theorem names_empty : (∅ : Entries α).names = [] := rfl

@[simp]
theorem get?_empty (name : String) : (∅ : Entries α).get? name = none := rfl

theorem length_names (m : Entries α) : m.names.length = m.size := by
  simp [names, size]

theorem contains_iff {m : Entries α} {name : String} :
    m.contains name = true ↔ name ∈ m.names := by
  simp [contains, names]

theorem isSome_get? (m : Entries α) (name : String) :
    (m.get? name).isSome = m.contains name := by
  rw [Bool.eq_iff_iff]
  simp [get?, contains, List.find?_isSome]

end Entries
end NamedSql
