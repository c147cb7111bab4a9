import NamedSql.Text.Blank

/-!
# Fragments

The pieces of a statement's text, joined by single spaces. A piece is trimmed when it is added, and
one that is blank leaves no trace: `parts_ofPieces` says what is left of a list of pieces.
-/

namespace NamedSql

/-- Pieces of text, trimmed and not blank, in order. -/
structure Fragments where
  parts : List String := []
  deriving DecidableEq, Repr

namespace Fragments

instance : EmptyCollection Fragments := ⟨{ parts := [] }⟩

def push (f : Fragments) (piece : String) : Fragments :=
  if Text.trim piece = "" then f else ⟨f.parts ++ [Text.trim piece]⟩

def push? (f : Fragments) : Option String → Fragments
  | some piece => f.push piece
  | none => f

def ofPieces (pieces : List (Option String)) : Fragments := pieces.foldl push? ∅

def text (f : Fragments) : String := " ".intercalate f.parts

/-! ## Parts -/

def kept? (piece : Option String) : Option String :=
  (piece.map Text.trim).filter fun p => p ≠ ""

theorem kept?_some (text : String) :
    kept? (some text) = if Text.trim text = "" then none else some (Text.trim text) := by
  by_cases blank : Text.trim text = "" <;> simp [kept?, Option.filter, blank]

theorem parts_push? (f : Fragments) (piece : Option String) :
    (f.push? piece).parts = f.parts ++ (kept? piece).toList := by
  cases piece with
  | none => simp [push?, kept?]
  | some p => by_cases h : Text.trim p = "" <;> simp [push?, push, kept?_some, h]

theorem parts_ofPieces (pieces : List (Option String)) :
    (ofPieces pieces).parts = pieces.filterMap kept? := by
  have go (f : Fragments) :
      (pieces.foldl push? f).parts = f.parts ++ pieces.filterMap kept? := by
    induction pieces generalizing f with
    | nil => simp
    | cons p ps ih =>
      rw [List.foldl_cons, ih, parts_push?, List.filterMap_cons]
      cases kept? p <;> simp
  exact go ∅

end Fragments
end NamedSql
