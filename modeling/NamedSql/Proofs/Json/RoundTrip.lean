import NamedSql.Clause.Json
import NamedSql.Proofs.Decimal.Float
import NamedSql.Proofs.Entries.History
import NamedSql.Proofs.Json.Reading
import NamedSql.Proofs.Scalar.Kinds

/-!
# Reading back what is written

Scalars, lists of them, field maps and clauses are written as JSON texts and read from them. Nothing
is lost but the floats that are not finite: JSON has no form for them, and they come back as null.

Reading a float does not always find the nearest one, so that each float is assumed to be one that
the reader finds again (`FloatReadsBack`). That it stays a float is not assumed: it is written with
a point or an exponent, and an integer has neither.

* `data_reads_back`: each of the four kinds of data is read back from its text.
-/

namespace NamedSql

/-! ## Scalars -/

namespace Scalar
open Decimal (Numeral)

/-- A finite float is found again by the reader in the numeral that the printer writes for it. -/
def FloatReadsBack : Scalar → Prop
  | .float x => x.isFinite → (jsonLayout.numeral? x).bind Numeral.float? = some x
  | _ => True

instance (v : Scalar) : Decidable v.FloatReadsBack :=
  match v with
  | .float x => inferInstanceAs (Decidable (x.isFinite → _ = some x))
  | .null | .bool _ | .int _ | .text _ => isTrue trivial

/-- The seventeen digits are rounded before they are divided, and the quotient is another float. -/
example : ¬(Scalar.float 31.245270191439438).FloatReadsBack := by
  decide +kernel

def finiteOrNull : Scalar → Scalar
  | .float x => if x.isFinite then .float x else .null
  | v => v

theorem plain_toJson (v : Scalar) : v.toJson.Plain := by
  cases v with
  | null => exact .null
  | bool b => exact .bool b
  | int n => exact .number (Decimal.plain_of_whole_digits rfl)
  | float x =>
      rw [toJson]
      cases shown : jsonLayout.numeral? x with
      | none => exact .null
      | some n => exact .number (Decimal.plain_of_numeral? shown)
  | text s => exact .text s

theorem text_toJson (v : Scalar) : v.toJson.text = v.jsonText := by
  cases v with
  | null => rfl
  | bool b => cases b <;> rfl
  | int n => rfl
  | float x =>
      rw [toJson, jsonText]
      cases jsonLayout.numeral? x <;> rfl
  | text s => rfl

theorem ofNumeral?_of_numeral? {x : Float} {n : Numeral} (shown : jsonLayout.numeral? x = some n)
    (reads : (Scalar.float x).FloatReadsBack) : ofNumeral? n = some (.float x) := by
  have finite : x.isFinite = true := by rw [← Decimal.isSome_numeral? jsonLayout, shown]; rfl
  have float : n.float? = some x := by simpa [shown] using reads finite
  rw [ofNumeral?_of_float (.inl (Decimal.isWhole_of_numeral? rfl shown)), float]
  rfl

theorem ofNumeral?_ofInt (n : Int64) : ofNumeral? (.ofInt n.toInt) = some (.int n) := by
  have integer : (Numeral.ofInt n.toInt).integer = n.toInt := by
    rw [Numeral.integer, Numeral.ofInt, Decimal.value_digits]
    simp only [decide_eq_true_eq]
    omega
  have fits : (Numeral.ofInt n.toInt).FitsInteger := by
    have low : -0x8000000000000000 ≤ n.toInt := n.le_toInt
    have high : n.toInt < 0x8000000000000000 := n.toInt_lt
    have minus : (Numeral.ofInt n.toInt).negative = true → n.toInt < 0 := of_decide_eq_true
    constructor
    all_goals rw [integer]
    · exact low
    · omega
    · intro negative
      have := minus negative
      omega
  rw [ofNumeral?_of_fits rfl fits, integer, Int64.ofInt_toInt]

theorem ofJson?_toJson {v : Scalar} (reads : v.FloatReadsBack) :
    ofJson? v.toJson = some v.finiteOrNull := by
  cases v with
  | null => rfl
  | bool b => rfl
  | int n =>
      rw [toJson, ofJson?, ofNumeral?_ofInt]
      rfl
  | float x =>
      have known := Decimal.isSome_numeral? jsonLayout x
      rw [toJson, finiteOrNull, ← known]
      cases shown : jsonLayout.numeral? x with
      | none => rfl
      | some n => exact ofNumeral?_of_numeral? shown reads
  | text s =>
      rw [toJson, Json.ofText, ofJson?, Json.ofPoints?_points]
      rfl

end Scalar

/-! ## Lists -/

theorem mapM_map_eq_some {α β γ : Type} {f : β → Option γ} {g : α → β} {h : α → γ} {xs : List α}
    (each : ∀ x ∈ xs, f (g x) = some (h x)) : (xs.map g).mapM f = some (xs.map h) := by
  induction xs with
  | nil => rfl
  | cons x xs ih =>
      rw [List.map_cons, List.mapM_cons, each x List.mem_cons_self,
        ih fun y mem => each y (List.mem_cons_of_mem _ mem)]
      rfl

namespace Scalar

theorem plain_listToJson (vs : List Scalar) : (listToJson vs).Plain := by
  refine .array fun v mem => ?_
  obtain ⟨w, -, rfl⟩ := List.mem_map.mp mem
  exact plain_toJson w

theorem listOfJson?_listToJson {vs : List Scalar} (reads : ∀ v ∈ vs, v.FloatReadsBack) :
    listOfJson? (listToJson vs) = some (vs.map finiteOrNull) :=
  mapM_map_eq_some fun v mem => ofJson?_toJson (reads v mem)

end Scalar

/-! ## Field maps -/

namespace Entries

def finiteOrNull (m : FieldMap) : FieldMap := ⟨m.toList.map fun e => (e.1, e.2.finiteOrNull)⟩

theorem plain_toJsonPairs (m : FieldMap) : m.toJsonPairs.Plain := by
  refine .array fun _ mem => ?_
  obtain ⟨e, -, rfl⟩ := List.mem_map.mp mem
  refine .array fun w mem => ?_
  rcases List.mem_pair.mp mem with rfl | rfl
  · exact .text e.1
  · exact e.2.plain_toJson

theorem pairOfJson?_pair {e : String × Scalar} (reads : e.2.FloatReadsBack) :
    pairOfJson? (.array [.ofText e.1, e.2.toJson]) = some (e.1, e.2.finiteOrNull) := by
  rw [pairOfJson?, Scalar.ofJson?_toJson reads, Json.ofText, Json.text?, Json.ofPoints?_points]
  rfl

theorem names_finiteOrNull (m : FieldMap) : m.finiteOrNull.names = m.names := by
  rw [names, finiteOrNull, List.map_map]
  rfl

theorem ofJsonPairs?_toJsonPairs {m : FieldMap} (distinct : m.names.Nodup)
    (reads : ∀ v ∈ m.values, v.FloatReadsBack) :
    ofJsonPairs? m.toJsonPairs = some m.finiteOrNull := by
  have pairs : (m.toList.map fun e => Json.array [.ofText e.1, e.2.toJson]).mapM pairOfJson? =
      some m.finiteOrNull.toList :=
    mapM_map_eq_some fun e mem => pairOfJson?_pair (reads e.2 (List.mem_map_of_mem mem))
  rw [toJsonPairs, ofJsonPairs?, pairs, Option.map_some,
    ofList_toList (by rwa [names_finiteOrNull])]

end Entries

/-! ## Clauses -/

theorem Json.members?_points (ms : List (String × Json)) :
    Json.members? (ms.map fun m => (Json.points m.1, m.2)) = some ms := by
  have each : Json.members? (ms.map fun m => (Json.points m.1, m.2)) = some (ms.map id) :=
    mapM_map_eq_some fun m _ => by
      rw [Json.ofPoints?_points]
      rfl
  rwa [List.map_id] at each

theorem Glue.ofJson?_toJson (g : Glue) : Glue.ofJson? g.toJson = some g := by
  rw [Glue.ofJson?, Glue.toJson, Json.ofText, Json.word?, Json.ofPoints?_points]
  cases g <;> rfl

namespace Clause

def finiteOrNull (c : Clause) : Clause := { c with value := c.value.finiteOrNull }

theorem plain_toJson (c : Clause) : c.toJson.Plain := by
  refine .members fun m mem => ?_
  simp only [List.mem_cons, List.not_mem_nil, or_false] at mem
  rcases mem with rfl | rfl | rfl | rfl
  · exact .text c.glue.name
  · exact .text c.field
  · exact .text c.condition
  · exact c.value.plain_toJson

theorem ofJson?_toJson {c : Clause} (reads : c.value.FloatReadsBack) :
    ofJson? c.toJson = some c.finiteOrNull := by
  rw [toJson, Json.ofMembers, ofJson?, Json.members?_points]
  simp [Json.single?, ofParts?, Glue.ofJson?_toJson, Scalar.ofJson?_toJson reads, Json.ofText,
    Json.text?, Json.ofPoints?_points, finiteOrNull]

end Clause

/-! ## Texts -/

namespace Json

theorem bind_parse_text {α : Type} {v : Json} (plain : v.Plain) (read : Json → Option α) :
    (parse v.text).bind read = read v := by
  rw [parse_text plain, Option.bind_some]

theorem data_reads_back :
    (∀ v : Scalar, v.toJson.text = v.jsonText) ∧
    (∀ v : Scalar, v.FloatReadsBack →
      (parse v.jsonText).bind Scalar.ofJson? = some v.finiteOrNull) ∧
    (∀ vs : List Scalar, (∀ v ∈ vs, v.FloatReadsBack) →
      (parse (Scalar.listToJson vs).text).bind Scalar.listOfJson? =
        some (vs.map Scalar.finiteOrNull)) ∧
    (∀ edits : List FieldMap.Edit, (∀ v ∈ (FieldMap.run edits).values, v.FloatReadsBack) →
      (parse (FieldMap.run edits).toJsonPairs.text).bind Entries.ofJsonPairs? =
        some (FieldMap.run edits).finiteOrNull) ∧
    (∀ c : Clause, c.value.FloatReadsBack →
      (parse c.toJson.text).bind Clause.ofJson? = some c.finiteOrNull) := by
  refine ⟨Scalar.text_toJson, fun v reads => ?_, fun vs reads => ?_, fun edits reads => ?_,
    fun c reads => ?_⟩
  · rw [← v.text_toJson, bind_parse_text v.plain_toJson, Scalar.ofJson?_toJson reads]
  · rw [bind_parse_text (Scalar.plain_listToJson vs), Scalar.listOfJson?_listToJson reads]
  · rw [bind_parse_text (Entries.plain_toJsonPairs _)]
    exact Entries.ofJsonPairs?_toJsonPairs (FieldMap.nodup_names_run edits) reads
  · rw [bind_parse_text c.plain_toJson, Clause.ofJson?_toJson reads]

theorem data_reads_back_lookalikes :
    (parse (Scalar.float 3.0).jsonText).bind Scalar.ofJson? = some (.float 3.0) ∧
    (parse (Scalar.listToJson [.null, .bool true, .int (-9223372036854775808), .float (-0.0),
      .float (0.0 / 0.0), .text "null", .text "1", .text "a\"\\\n\x01"]).text).bind
        Scalar.listOfJson? =
      some [.null, .bool true, .int (-9223372036854775808), .float (-0.0),
        .null, .text "null", .text "1", .text "a\"\\\n\x01"] ∧
    (parse (FieldMap.run [.set "b" .null, .extend [("a", .float 1.5e300), ("b", .int 2)]]
      ).toJsonPairs.text).bind Entries.ofJsonPairs? =
      some ⟨[("b", .int 2), ("a", .float 1.5e300)]⟩ ∧
    (parse (Clause.toJson ⟨.or, "price", ">=", .float 0.1⟩).text).bind Clause.ofJson? =
      some ⟨.or, "price", ">=", .float 0.1⟩ := by
  refine ⟨?_, ?_, ?_, ?_⟩
  · rw [data_reads_back.2.1 (.float 3.0) (by decide +kernel)]
    decide +kernel
  · rw [data_reads_back.2.2.1 _ (by decide +kernel)]
    decide +kernel
  · rw [data_reads_back.2.2.2.1 _ (by decide +kernel), Entries.finiteOrNull]
    simp only [Option.some.injEq, Entries.mk.injEq]
    decide +kernel
  · rw [data_reads_back.2.2.2.2 _ (by decide +kernel)]
    decide +kernel

end Json
end NamedSql
