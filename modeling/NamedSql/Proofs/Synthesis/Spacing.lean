import NamedSql.Proofs.Identifier.Listing
import NamedSql.Proofs.Text.Spacing
import NamedSql.Synthesizer

namespace NamedSql
open Text Identifier

namespace Fragments

/-! ## Runs of additions -/

inductive Addition where
  | push (piece : String)
  | push? (piece : Option String)

namespace Addition

def apply (f : Fragments) : Addition → Fragments
  | push piece => f.push piece
  | push? piece => f.push? piece

def piece? : Addition → Option String
  | push piece => some piece
  | push? piece => piece

def Blank (a : Addition) : Prop := ∀ text ∈ a.piece?, AllBlank text

instance : DecidablePred Blank := fun a =>
  inferInstanceAs (Decidable (∀ text ∈ a.piece?, AllBlank text))

end Addition

def assemble (additions : List Addition) : Fragments := additions.foldl Addition.apply ∅

def Widens (text wide : String) : Prop :=
  ∃ before after, wide = before ++ text ++ after ∧ AllBlank before ∧ AllBlank after

/-- The second run adds what the first one does, with absent or blank pieces put in anywhere and
blanks put around any piece. -/
inductive Padded : List Addition → List Addition → Prop
  | nil : Padded [] []
  | insert {a as bs} (blank : a.Blank) (rest : Padded as bs) : Padded as (a :: bs)
  | widen {a b as bs} (pieces : Option.Rel Widens a.piece? b.piece?) (rest : Padded as bs) :
      Padded (a :: as) (b :: bs)

theorem assemble_eq_ofPieces (additions : List Addition) :
    assemble additions = ofPieces (additions.map Addition.piece?) := by
  have step : Addition.apply = fun f a => push? f a.piece? := by
    funext f a
    cases a <;> rfl
  rw [assemble, ofPieces, List.foldl_map, step]

/-! ## What is left of a piece -/

theorem kept?_eq_none_iff {piece : Option String} :
    kept? piece = none ↔ ∀ text ∈ piece, AllBlank text := by
  cases piece with
  | none => simp [kept?]
  | some text =>
      have blank := @trimChars_eq_nil_iff text.toList
      rw [← toList_trim, String.toList_eq_nil_iff] at blank
      simp [kept?_some, AllBlank, blank]

theorem kept?_of_widens {piece wide : Option String} (widens : Option.Rel Widens piece wide) :
    kept? wide = kept? piece := by
  cases widens with
  | none => rfl
  | some wider =>
      obtain ⟨before, after, rfl, blankBefore, blankAfter⟩ := wider
      rename_i text
      have trimmed : trim (before ++ text ++ after) = trim text := by
        rw [← String.toList_inj, toList_trim, toList_trim, String.toList_append,
          String.toList_append, List.append_assoc]
        exact trimChars_surrounded blankBefore blankAfter text.toList
      rw [kept?_some, kept?_some, trimmed]

/-! ## The assembled text -/

theorem exists_of_mem_parts {pieces : List (Option String)} {part : String}
    (mem : part ∈ (ofPieces pieces).parts) : part ≠ "" ∧ ∃ text, some text ∈ pieces ∧
      part = trim text := by
  rw [parts_ofPieces] at mem
  obtain ⟨piece, member, kept⟩ := List.mem_filterMap.mp mem
  cases piece with
  | none => cases kept
  | some text =>
      rw [kept?_some] at kept
      split at kept
      · cases kept
      · rename_i given
        cases kept
        exact ⟨given, text, member, rfl⟩

theorem text_of {P : List Char → Prop} (nil : P [])
    (join : ∀ {cs ds}, cs ≠ [] → ds ≠ [] → P cs → P ds → P (cs ++ ' ' :: ds))
    {pieces : List (Option String)}
    (each : ∀ piece ∈ pieces, ∀ text ∈ piece, P (trimChars text.toList)) :
    P (ofPieces pieces).text.toList := by
  by_cases none : (ofPieces pieces).parts = []
  · rw [text, none]
    exact nil
  · refine (intercalate_space_of join none fun part mem => ?_).2
    obtain ⟨given, text, member, rfl⟩ := exists_of_mem_parts mem
    exact ⟨given, toList_trim text ▸ each _ member text rfl⟩

theorem flush_text (pieces : List (Option String)) : Flush (ofPieces pieces).text.toList :=
  text_of flush_nil Flush.append_space fun _ _ text _ => flush_trimChars text.toList

theorem text_eq_empty_iff {pieces : List (Option String)} :
    (ofPieces pieces).text = "" ↔ ∀ piece ∈ pieces, kept? piece = none := by
  rw [← List.filterMap_eq_nil_iff, ← parts_ofPieces]
  constructor
  · intro empty
    by_contra some
    have given : ∀ part ∈ (ofPieces pieces).parts, part ≠ "" ∧ True :=
      fun part mem => ⟨(exists_of_mem_parts mem).1, trivial⟩
    have joined := intercalate_space_of (P := fun _ => True) (fun _ _ _ _ => trivial) some given
    exact joined.1 empty
  · intro none
    rw [text, none]
    rfl

theorem text_of_padded {additions padded : List Addition} (pads : Padded additions padded) :
    (assemble padded).text = (assemble additions).text := by
  have parts : (padded.map Addition.piece?).filterMap kept? =
      (additions.map Addition.piece?).filterMap kept? := by
    induction pads with
    | nil => rfl
    | insert blank rest ih =>
        rw [List.map_cons, List.filterMap_cons, kept?_eq_none_iff.mpr blank, ih]
    | widen pieces rest ih =>
        rw [List.map_cons, List.map_cons, List.filterMap_cons, List.filterMap_cons, ih,
          kept?_of_widens pieces]
  rw [text, text, assemble_eq_ofPieces, assemble_eq_ofPieces, parts_ofPieces, parts_ofPieces, parts]

def TidyPiece (piece : Option String) : Prop := ∀ text ∈ piece, Tidy (trimChars text.toList)

theorem tidyPiece_of_tidy {text : String} (tidy : Tidy text.toList) : TidyPiece (some text) := by
  rintro t ⟨⟩
  rw [tidy.toFlush.trimChars_eq]
  exact tidy

end Fragments

/-! ## Texts without blanks -/

theorem visible_quote {name : String} (visible : Visible name) : Visible (quote name) := by
  intro c mem
  rcases mem_quote mem with rfl | inside
  · decide
  · exact visible c inside

theorem quote_ne (name : String) : quote name ≠ "" := by
  obtain ⟨c, rest, opens, -⟩ := quote_head name
  rw [ne_eq, ← String.toList_eq_nil_iff, opens]
  exact List.cons_ne_nil c rest

theorem quoteList_ne {names : List String} (given : names ≠ []) : quoteList names ≠ "" := by
  rw [ne_eq, ← String.toList_eq_nil_iff, toList_quoteList, listedNames_eq_nil_iff]
  exact given

theorem visible_commas {names : List String} (visible : ∀ n ∈ names, Visible n)
    {text : String → String} (each : ∀ n, Visible n → Visible (text n)) :
    Visible (",".intercalate (names.map text)) := by
  refine visible_intercalate (by decide) fun t mem => ?_
  obtain ⟨n, member, rfl⟩ := List.mem_map.mp mem
  exact each n (visible n member)

theorem visible_quoteList {names : List String} (visible : ∀ n ∈ names, Visible n) :
    Visible (quoteList names) :=
  visible_commas visible fun _ => visible_quote

theorem visible_placeholder {field : String} (visible : Visible field) :
    Visible (placeholder field) := by
  rw [placeholder, visible_append]
  exact ⟨by decide, visible⟩

theorem visible_parenthesised {text : String} (visible : Visible text) :
    Visible ("(" ++ text ++ ")") := by
  rw [visible_append, visible_append]
  exact ⟨⟨by decide, visible⟩, by decide⟩

/-! ## The pieces of a statement -/

namespace Statement
open Fragments (TidyPiece tidyPiece_of_tidy)

/-- A statement whose names, conditions and direction have no blanks; each may be empty. -/
structure Compact (s : Statement) : Prop where
  table : Visible s.table
  selectFields : ∀ f ∈ s.selectFields, Visible f
  fields : ∀ f ∈ s.fields.names, Visible f
  clauses : ∀ c ∈ s.clauses, Visible c.field
  conditions : ∀ c ∈ s.clauses, Visible c.condition
  orderBy : ∀ f ∈ s.orderBy, Visible f
  direction : Visible s.direction

variable {s : Statement}

theorem visible_assignment {field : String} (visible : Visible field) :
    Visible (assignment field) := by
  rw [assignment, visible_append, visible_append]
  exact ⟨⟨visible_quote visible, by decide⟩, visible_placeholder visible⟩

theorem visible_columns (compact : s.Compact) : Visible s.columns := by
  unfold columns
  split
  · decide
  · exact visible_quoteList compact.selectFields

theorem tidy_clause {c : Clause} (field : Visible c.field) (condition : Visible c.condition) :
    c.text ≠ "" ∧ Tidy c.text.toList := by
  obtain ⟨body, whole⟩ : ∃ body, body = quote c.field ++ c.condition ++ placeholder c.field :=
    ⟨_, rfl⟩
  have given : body ≠ "" := by
    simp [whole, quote_ne]
  have visible : Visible body := by
    rw [whole, visible_append, visible_append]
    exact ⟨⟨visible_quote field, condition⟩, visible_placeholder field⟩
  have text : c.text = c.glue.lead ++ body := by
    rw [Clause.text, whole, String.append_assoc, String.append_assoc, String.append_assoc]
  have keywords : ∀ g : Glue, g ≠ .none → g.keyword ≠ "" ∧ Visible g.keyword := by
    intro g
    cases g <;> decide
  rw [text]
  refine ⟨by simp [given], ?_⟩
  by_cases none : c.glue = .none
  · rw [Glue.lead, if_pos none, String.empty_append]
    exact visible.tidy
  · have words : c.glue.lead ++ body = " ".intercalate [c.glue.keyword, body] := by
      simp [Glue.lead, none]
    rw [words]
    exact tidy_words (List.cons_ne_nil _ _) (by simp [keywords c.glue none, given, visible])

theorem tidyPiece_condition? (compact : s.Compact) : TidyPiece s.condition? := by
  have clauses : ∀ t ∈ s.clauses.map Clause.text, t ≠ "" ∧ Tidy t.toList := by
    intro t mem
    obtain ⟨c, member, rfl⟩ := List.mem_map.mp mem
    exact tidy_clause (compact.clauses c member) (compact.conditions c member)
  have keyword : "WHERE" ≠ "" ∧ Visible "WHERE" := by decide
  unfold condition?
  split
  · rintro t ⟨⟩
  · rename_i given
    have words : "WHERE " ++ " ".intercalate (s.clauses.map Clause.text) =
        " ".intercalate ("WHERE" :: s.clauses.map Clause.text) := by
      obtain ⟨c, rest, split⟩ := List.exists_cons_of_ne_nil given
      rw [split, List.map_cons, String.intercalate_cons_cons]
      rfl
    rw [words]
    refine tidyPiece_of_tidy (intercalate_space_of Tidy.append_space (List.cons_ne_nil _ _) ?_).2
    exact List.forall_mem_cons.mpr ⟨⟨keyword.1, keyword.2.tidy⟩, clauses⟩

theorem tidyPiece_order? (compact : s.Compact) : TidyPiece s.order? := by
  unfold order?
  split
  · rintro t ⟨⟩
  · rename_i given
    have words : "ORDER BY " ++ quoteList s.orderBy =
        " ".intercalate ["ORDER", "BY", quoteList s.orderBy] := by
      have keyword : "ORDER BY " = "ORDER " ++ "BY " := rfl
      rw [keyword, String.append_assoc]
      simp
    have keywords : ∀ w ∈ ["ORDER", "BY"], w ≠ "" ∧ Visible w := by decide
    have names : quoteList s.orderBy ≠ "" ∧ Visible (quoteList s.orderBy) :=
      ⟨quoteList_ne given, visible_quoteList compact.orderBy⟩
    have front : Tidy ("ORDER BY " ++ quoteList s.orderBy).toList := by
      rw [words]
      refine tidy_words (List.cons_ne_nil _ _) ?_
      simpa [names] using keywords
    by_cases none : s.direction = ""
    · -- The space in front of the direction ends the piece and is trimmed.
      have space : AllBlank " " := by decide
      rintro t ⟨⟩
      rw [none, String.append_empty, String.toList_append,
        trimChars_append_of_blank space, front.toFlush.trimChars_eq]
      exact front
    · refine tidyPiece_of_tidy ?_
      rw [String.toList_append, String.toList_append, List.append_assoc]
      exact front.append_space (by simp) (String.toList_eq_nil_iff.not.mpr none)
        compact.direction.tidy

theorem tidyPiece_limit? (s : Statement) : TidyPiece s.limit? := by
  unfold limit?
  split
  · rename_i n _
    split
    · rintro t ⟨⟩
    · have words : "LIMIT " ++ Decimal.text n = " ".intercalate ["LIMIT", Decimal.text n] := by
        simp
      have keyword : "LIMIT" ≠ "" ∧ Visible "LIMIT" := by decide
      rw [words]
      refine tidyPiece_of_tidy (tidy_words (List.cons_ne_nil _ _) ?_)
      simp [keyword, visible_decimal]
  · rintro t ⟨⟩

theorem tidy_text (compact : s.Compact) : Tidy s.text.toList := by
  have whole {text : String} (visible : Visible text) : TidyPiece (some text) :=
    tidyPiece_of_tidy visible.tidy
  have words : ∀ word ∈ ["SELECT", "FROM", "INSERT", "INTO", "VALUES", "UPDATE", "SET", "DELETE"],
      Visible word := by decide
  have keywords := fun word mem => whole (words word mem)
  simp only [List.forall_mem_cons] at keywords
  have table := whole (visible_quote compact.table)
  have condition := tidyPiece_condition? compact
  have order := tidyPiece_order? compact
  have limit := tidyPiece_limit? s
  have each : ∀ piece ∈ s.pieces, TidyPiece piece := by
    unfold pieces
    cases s.action with
    | select =>
        have columns := whole (visible_columns compact)
        simp [keywords, table, columns, condition, order, limit]
    | insert =>
        have names : TidyPiece (some s.fieldNames) :=
          whole (visible_parenthesised (visible_quoteList compact.fields))
        have placeholders : TidyPiece (some s.fieldPlaceholders) :=
          whole (visible_parenthesised (visible_commas compact.fields fun _ => visible_placeholder))
        simp [keywords, table, names, placeholders]
    | update =>
        have assigned : TidyPiece (some s.assignments) :=
          whole (visible_commas compact.fields fun _ => visible_assignment)
        simp [keywords, table, assigned, condition, order, limit]
    | delete => simp [keywords, table, condition, order, limit]
  exact Fragments.text_of tidy_nil Tidy.append_space each

end Statement

theorem leaves_no_stray_blanks :
    (∀ additions : List Fragments.Addition,
      Flush (Fragments.assemble additions).text.toList ∧
      ((Fragments.assemble additions).text = "" ↔ ∀ a ∈ additions, a.Blank) ∧
      ∀ padded, Fragments.Padded additions padded →
        (Fragments.assemble padded).text = (Fragments.assemble additions).text) ∧
    ∀ (x : Synthesizer) (s : Statement) (r : Registry) (sql : String), s.Compact →
      (x.synthesize s r).result = .ok sql → Tidy sql.toList := by
  constructor
  · intro additions
    refine ⟨?_, ?_, fun padded => Fragments.text_of_padded⟩
    · rw [Fragments.assemble_eq_ofPieces]
      exact Fragments.flush_text _
    · rw [Fragments.assemble_eq_ofPieces, Fragments.text_eq_empty_iff, List.forall_mem_map]
      exact forall₂_congr fun a _ => Fragments.kept?_eq_none_iff
  · intro x s r sql compact ok
    rw [Synthesizer.sql_synthesize ok]
    exact Statement.tidy_text compact

def Statement.bare : Statement where
  action := .update
  table := "users"
  fields := ⟨[("", .int 1), ("b", .int 2)]⟩
  clauses := [⟨.none, "id", "", .int 3⟩, ⟨.or, "n", "LIKE", .null⟩]
  orderBy := ["*", "id"]
  direction := ""
  limit := some 12

theorem leaves_no_stray_blanks_bare :
    let additions : List Fragments.Addition := [.push "SET", .push? (some "x y")]
    let padded : List Fragments.Addition :=
      [.push "\t", .push " SET\n", .push? none, .push? (some "\u3000x y "), .push ""]
    let sql := "UPDATE `users` SET ``=:,`b`=:b WHERE `id`:id OR `n`LIKE:n ORDER BY *,`id` LIMIT 12"
    Fragments.Padded additions padded ∧
      (Fragments.assemble padded).text = (Fragments.assemble additions).text ∧
      (Fragments.assemble additions).text ≠ "" ∧
    Statement.bare.Compact ∧ (Synthesizer.synthesize {} .bare ∅).result = .ok sql ∧
      Tidy sql.toList := by
  intro additions padded sql
  obtain ⟨fragments, statements⟩ := leaves_no_stray_blanks
  obtain ⟨-, empty, unchanged⟩ := fragments additions
  have wider : Fragments.Widens "SET" " SET\n" ∧ Fragments.Widens "x y" "\u3000x y " :=
    ⟨⟨" ", "\n", by decide⟩, ⟨"\u3000", " ", by decide⟩⟩
  have pads : Fragments.Padded additions padded :=
    .insert (by decide) <| .widen (.some wider.1) <| .insert (by decide) <|
      .widen (.some wider.2) <| .insert (by decide) .nil
  have compact : Statement.bare.Compact := by
    constructor
    all_goals decide
  have ok : (Synthesizer.synthesize {} .bare ∅).result = .ok sql := by decide +kernel
  exact ⟨pads, unchanged padded pads, empty.not.mpr (by decide), compact, ok,
    statements {} .bare ∅ sql compact ok⟩

end NamedSql
