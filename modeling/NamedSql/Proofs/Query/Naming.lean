import NamedSql.Query.Any
import NamedSql.Query.Call

namespace NamedSql

namespace Text

def lower (c : Char) : Char :=
  if 'A' ≤ c ∧ c ≤ 'Z' then Char.ofNat (c.toNat + ('a'.toNat - 'A'.toNat)) else c

theorem toLower_eq_lower (c : Char) : c.toLower = lower c := by
  unfold Char.toLower lower
  split
  · rename_i capital
    have bound : c.toNat ≤ 90 := capital.2
    have valid : (c.toNat + 32).isValidChar := .inl (by omega)
    refine Eq.trans ?_ (if_pos capital).symm
    refine Eq.trans ?_ (dif_pos valid).symm
    apply Char.ext
    apply UInt32.toNat_inj.mp
    change (c.toNat + 32) % 4294967296 = c.toNat + 32
    omega
  · rename_i other
    exact (if_neg other).symm

end Text

/-! ## Names -/

namespace Action

/-- A word is the name of an action, up to the case of the letters `A` to `Z`. -/
def Spells (a : Action) (word : String) : Prop := word.toList.map Text.lower = a.name.toList

instance (a : Action) (word : String) : Decidable (a.Spells word) :=
  inferInstanceAs (Decidable (_ = _))

theorem map_toLower_name (a : Action) : a.name.toList.map Char.toLower = a.name.toList := by
  cases a <;> decide

theorem sameWord_name_iff {a : Action} {word : String} :
    Text.sameWord a.name.toList word.toList = true ↔ a.Spells word := by
  have fold : Char.toLower = Text.lower := funext Text.toLower_eq_lower
  rw [Text.sameWord_iff, map_toLower_name, fold, Spells, eq_comm]

theorem Spells.unique {a b : Action} {word : String} (left : a.Spells word)
    (right : b.Spells word) : a = b :=
  name_injective (String.toList_inj.mp (left.symm.trans right))

theorem named?_eq_none_iff {word : String} : named? word = none ↔ ∀ a : Action, ¬a.Spells word := by
  rw [named?, List.find?_eq_none]
  constructor
  · intro refused a spelled
    exact refused a (mem_all a) (sameWord_name_iff.mpr spelled)
  · intro unknown a _ same
    exact unknown a (sameWord_name_iff.mp same)

theorem spells_of_named? {word : String} {a : Action} (found : named? word = some a) :
    a.Spells word := by
  unfold named? at found
  have same := List.find?_some found
  exact sameWord_name_iff.mp same

theorem named?_eq_some_iff {word : String} {a : Action} : named? word = some a ↔ a.Spells word := by
  constructor
  · exact spells_of_named?
  · intro spelled
    cases found : named? word with
    | none => exact absurd spelled (named?_eq_none_iff.mp found a)
    | some b =>
        -- A name that is tried earlier is not in the way, as no word has two.
        rw [spelled.unique (spells_of_named? found)]

end Action

/-- Blanks, a longer word, and letters outside ASCII that fold to ASCII ones elsewhere: the long s
and the dotless i. -/
example : Action.named? "dElEtE" = some .delete ∧ Action.named? " select" = none ∧
    Action.named? "selects" = none ∧ Action.named? "\u017Felect" = none ∧
    Action.named? "\u0131nsert" = none := by decide +kernel

/-! ## Builders of an action put aside -/

namespace AnyQuery
variable {a : Action}

def written (q : AnyQuery) : Nat → AnyQuery
  | 0 => q
  | times + 1 => (q.written times).sql.2

/-- `q` gives what `p` would give, before and after it is taken back to its action. -/
structure Stands (q : AnyQuery) (p : Query a) : Prop where
  action : q.action = a
  sql : ∀ times, (q.written times).sql.1 = (p.run (.replicate times .sql)).sql.1
  build : ∀ times, (q.written times).build = (p.run (.replicate times .sql)).build
  back : ∀ times, ∃ r, (q.written times).as? a = some r ∧ ∀ steps : List (Step a),
    (r.run steps).sql = (p.run (.replicate times .sql ++ steps)).sql ∧
    (r.run steps).build = (p.run (.replicate times .sql ++ steps)).build
  only : ∀ times b, b ≠ a → (q.written times).as? b = none

theorem written_wrap (p : Query a) (times : Nat) :
    p.wrap.written times = (p.run (.replicate times .sql)).wrap := by
  induction times with
  | zero => rfl
  | succ times ih =>
      rw [written, ih, List.replicate_succ', Query.run_append]
      rfl

theorem as?_wrap_of_ne {b : Action} (p : Query a) (other : b ≠ a) : p.wrap.as? b = none :=
  dif_neg other.symm

theorem stands_wrap (p : Query a) : p.wrap.Stands p where
  action := rfl
  sql times := by
    rw [written_wrap]
    rfl
  build times := by
    rw [written_wrap]
    rfl
  back times := by
    refine ⟨p.run (.replicate times .sql), ?_, fun steps => ?_⟩
    · rw [written_wrap, as?_wrap]
    · rw [Query.run_append]
      exact ⟨rfl, rfl⟩
  only times b other := by rw [written_wrap, as?_wrap_of_ne _ other]

end AnyQuery

/-! ## Asking -/

structure Asked {β : Type} (word : String) (of : Action → β) (answer : Except Error β) : Prop where
  found : ∀ b, answer = .ok b ↔ ∃ a : Action, a.Spells word ∧ b = of a
  refused : ∀ e, answer = .error e ↔ (∀ a : Action, ¬a.Spells word) ∧ e = .unsupportedAction word

theorem asked_map_parse {β : Type} (word : String) (of : Action → β) :
    Asked word of ((Action.parse word).map of) := by
  cases parsed : Action.parse word with
  | ok a =>
      have spelled : a.Spells word :=
        Action.named?_eq_some_iff.mp (Action.parse_eq_ok_iff.mp parsed)
      constructor
      · intro b
        constructor
        · rintro ⟨⟩
          exact ⟨a, spelled, rfl⟩
        · rintro ⟨c, other, rfl⟩
          rw [spelled.unique other]
          rfl
      · intro e
        constructor
        · rintro ⟨⟩
        · rintro ⟨unknown, -⟩
          exact absurd spelled (unknown a)
  | error e =>
      obtain ⟨none, rfl⟩ := Action.parse_eq_error_iff.mp parsed
      have unknown := Action.named?_eq_none_iff.mp none
      constructor
      · intro b
        constructor
        · rintro ⟨⟩
        · rintro ⟨a, spelled, -⟩
          exact absurd spelled (unknown a)
      · intro e
        constructor
        · rintro ⟨⟩
          exact ⟨unknown, rfl⟩
        · rintro ⟨-, rfl⟩
          rfl

namespace Synthesizer

theorem queryNamed_spelled (x : Synthesizer) (word : String) :
    Asked word id (Action.parse word) ∧
    Asked word Statement.new (Statement.named word) ∧
    Asked word (fun a => (x.query a).wrap) (x.queryNamed word) ∧
    (∀ a b : Action, a.Spells word → b.Spells word → a = b) ∧
    ∀ (a : Action) (q : AnyQuery), a.Spells word → x.queryNamed word = .ok q →
      q.Stands (x.query a) := by
  have action : Asked word id (Action.parse word) := by
    have same : (Action.parse word).map id = Action.parse word := by
      cases Action.parse word <;> rfl
    exact same ▸ asked_map_parse word id
  have query : Asked word (fun a => (x.query a).wrap) (x.queryNamed word) :=
    asked_map_parse word _
  refine ⟨action, asked_map_parse word _, query, fun a b => Action.Spells.unique, ?_⟩
  intro a q spelled made
  obtain ⟨b, named, rfl⟩ := (query.found q).mp made
  cases spelled.unique named
  exact AnyQuery.stands_wrap (x.query a)

theorem queryNamed_spelled_mixed :
    Action.delete.Spells "DeLeTe" ∧
    ∃ q, ({} : Synthesizer).queryNamed "DeLeTe" = .ok q ∧
      q.Stands (({} : Synthesizer).query .delete) ∧ (q.written 1).as? .select = none := by
  have spelled : Action.delete.Spells "DeLeTe" := by decide
  obtain ⟨-, -, query, -, stands⟩ := queryNamed_spelled {} "DeLeTe"
  have made : ({} : Synthesizer).queryNamed "DeLeTe" =
      .ok (({} : Synthesizer).query .delete).wrap :=
    (query.found _).mpr ⟨.delete, spelled, rfl⟩
  have same := stands .delete _ spelled made
  exact ⟨spelled, _, made, same, same.only 1 .select (by decide)⟩

end Synthesizer
end NamedSql
