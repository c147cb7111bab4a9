import Mathlib.Data.List.Chain
import NamedSql.Decimal.Digits
import NamedSql.Text.Blank

namespace NamedSql.Text
variable {cs ds : List Char}

structure Flush (cs : List Char) : Prop where
  first : ∀ c ∈ cs.head?, isBlank c = false
  last : ∀ c ∈ cs.getLast?, isBlank c = false

structure Tidy (cs : List Char) : Prop extends Flush cs where
  spaces : ∀ c ∈ cs, isBlank c → c = ' '
  single : cs.IsChain fun c d => isBlank c → isBlank d = false

def Visible (text : String) : Prop := ∀ c ∈ text.toList, isBlank c = false

instance : DecidablePred Visible := fun text =>
  List.decidableBAll (fun c => isBlank c = false) text.toList

def AllBlank (text : String) : Prop := ∀ c ∈ text.toList, isBlank c

instance : DecidablePred AllBlank := fun text =>
  List.decidableBAll (fun c => isBlank c = true) text.toList

theorem flush_nil : Flush [] := by constructor <;> simp

theorem tidy_nil : Tidy [] := ⟨flush_nil, by simp, List.isChain_nil⟩

/-! ## Trimming -/

theorem flush_trimChars (cs : List Char) : Flush (trimChars cs) := by
  by_cases blank : trimChars cs = []
  · rw [blank]
    exact flush_nil
  · constructor
    · rintro c mem
      rw [List.head?_eq_some_head blank, Option.mem_some_iff] at mem
      rw [← mem]
      exact head_trimChars blank
    · rintro c mem
      rw [List.getLast?_eq_some_getLast blank, Option.mem_some_iff] at mem
      rw [← mem]
      exact getLast_trimChars blank

theorem trimRight_of_last (last : ∀ c ∈ cs.getLast?, isBlank c = false) : trimRight cs = cs := by
  rcases cs.eq_nil_or_concat with rfl | ⟨front, c, rfl⟩
  · rfl
  · rw [List.concat_eq_append] at last ⊢
    have visible : isBlank c = false := last c (by simp)
    have kept : trimRight [c] = [c] := trimRight_cons visible []
    rw [trimRight_append front (by simp [kept]), kept]

theorem Flush.trimChars_eq (flush : Flush cs) : trimChars cs = cs := by
  cases cs with
  | nil => rfl
  | cons c rest => rw [trimChars_cons (flush.first c rfl), trimRight_of_last flush.last]

/-! ## Joining by spaces -/

theorem Flush.append_space (someC : cs ≠ []) (someD : ds ≠ []) (flushC : Flush cs)
    (flushD : Flush ds) : Flush (cs ++ ' ' :: ds) where
  first := by
    rw [List.head?_append_of_ne_nil cs someC]
    exact flushC.first
  last := by
    rw [List.append_cons, List.getLast?_append_of_ne_nil _ someD]
    exact flushD.last

theorem Tidy.append_space (someC : cs ≠ []) (someD : ds ≠ []) (tidyC : Tidy cs)
    (tidyD : Tidy ds) : Tidy (cs ++ ' ' :: ds) where
  toFlush := tidyC.toFlush.append_space someC someD tidyD.toFlush
  spaces := by
    intro c mem blank
    rcases List.mem_append.mp mem with inC | inSpace
    · exact tidyC.spaces c inC blank
    · rcases List.mem_cons.mp inSpace with space | inD
      · exact space
      · exact tidyD.spaces c inD blank
  single := by
    -- The space stands between the last character of one text and the first of the other.
    refine List.isChain_append.mpr ⟨tidyC.single, ?_, ?_⟩
    · exact List.isChain_cons.mpr ⟨fun d first _ => tidyD.first d first, tidyD.single⟩
    · intro c last d _ blank
      rw [tidyC.last c last] at blank
      cases blank

theorem intercalate_of {P : String → Prop} {separator : String}
    (join : ∀ {a b}, P a → P b → P (a ++ separator ++ b)) {texts : List String}
    (nonempty : texts ≠ []) (each : ∀ t ∈ texts, P t) : P (separator.intercalate texts) := by
  induction texts with
  | nil => exact absurd rfl nonempty
  | cons t rest ih =>
      have first := each t List.mem_cons_self
      cases rest with
      | nil => rwa [String.intercalate_singleton]
      | cons u rest =>
          rw [String.intercalate_cons_cons]
          exact join first (ih (List.cons_ne_nil u rest) fun v mem =>
            each v (List.mem_cons_of_mem t mem))

theorem intercalate_space_of {P : List Char → Prop}
    (join : ∀ {cs ds}, cs ≠ [] → ds ≠ [] → P cs → P ds → P (cs ++ ' ' :: ds))
    {texts : List String} (nonempty : texts ≠ []) (each : ∀ t ∈ texts, t ≠ "" ∧ P t.toList) :
    " ".intercalate texts ≠ "" ∧ P (" ".intercalate texts).toList := by
  refine intercalate_of (P := fun t => t ≠ "" ∧ P t.toList) ?_ nonempty each
  rintro a b ⟨someA, ofA⟩ ⟨someB, ofB⟩
  constructor
  · rw [ne_eq, String.append_eq_empty_iff, String.append_eq_empty_iff]
    exact fun empty => someA empty.1.1
  · rw [String.toList_append, String.toList_append, List.append_assoc]
    exact join (String.toList_eq_nil_iff.not.mpr someA) (String.toList_eq_nil_iff.not.mpr someB)
      ofA ofB

/-! ## Texts without blanks -/

theorem Visible.tidy {text : String} (visible : Visible text) : Tidy text.toList where
  first := fun c mem => visible c (List.mem_of_mem_head? mem)
  last := fun c mem => visible c (List.mem_of_getLast? mem)
  spaces := by
    intro c mem blank
    rw [visible c mem] at blank
    cases blank
  single := by
    have pairs : text.toList.Pairwise fun c d => isBlank c → isBlank d = false :=
      List.pairwise_of_forall_mem_list fun _ _ d mem _ => visible d mem
    exact pairs.isChain

theorem tidy_words {words : List String} (nonempty : words ≠ [])
    (each : ∀ w ∈ words, w ≠ "" ∧ Visible w) : Tidy (" ".intercalate words).toList :=
  (intercalate_space_of Tidy.append_space nonempty fun w mem =>
    ⟨(each w mem).1, (each w mem).2.tidy⟩).2

@[simp]
theorem visible_append {a b : String} : Visible (a ++ b) ↔ Visible a ∧ Visible b := by
  simp only [Visible, String.toList_append, List.forall_mem_append]

theorem visible_intercalate {separator : String} (visible : Visible separator)
    {texts : List String} (each : ∀ t ∈ texts, Visible t) :
    Visible (separator.intercalate texts) := by
  by_cases none : texts = []
  · simp [none, Visible]
  · refine intercalate_of (fun visibleA visibleB => ?_) none each
    exact visible_append.mpr ⟨visible_append.mpr ⟨visibleA, visible⟩, visibleB⟩

theorem visible_decimal (n : Nat) : Decimal.text n ≠ "" ∧ Visible (Decimal.text n) := by
  constructor
  · rw [ne_eq, ← String.toList_eq_nil_iff, Decimal.toList_text, Decimal.chars, List.map_eq_nil_iff]
    exact Decimal.digits_ne_nil n
  · have digits : ∀ d, isBlank (Decimal.digitChar d) = false := by decide
    intro c mem
    rw [Decimal.toList_text, Decimal.chars] at mem
    obtain ⟨d, -, rfl⟩ := List.mem_map.mp mem
    exact digits d

end NamedSql.Text
