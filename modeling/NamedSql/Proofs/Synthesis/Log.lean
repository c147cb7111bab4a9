import NamedSql.Proofs.Synthesis.Use
import NamedSql.Proofs.Text.Cut

namespace NamedSql

/-! ## Sessions -/

namespace Registry.Use

def events (r : Registry) : Use → List Event
  | .edit _ => []
  | .synthesize x s => [(x.synthesize s r).event]

end Registry.Use

/-- A program's registries, each under a name of its own, and its log, the first event first. -/
structure Session where
  registry : String → Registry
  log : List Event

/-- A call of a synthesizer, with the registry as the call found it. -/
structure Synthesis where
  synthesizer : Synthesizer
  statement : Statement
  before : Registry

def Synthesis.outcome (c : Synthesis) : Outcome := c.synthesizer.synthesize c.statement c.before

namespace Session

structure Step where
  name : String
  use : Registry.Use

def step (t : Session) (a : Step) : Session where
  registry := fun name => if name = a.name then (t.registry name).use a.use else t.registry name
  log := t.log ++ a.use.events (t.registry a.name)

def run (t : Session) (steps : List Step) : Session := steps.foldl step t

def syntheses (t : Session) : List Step → List Synthesis
  | [] => []
  | a :: steps =>
    match a.use with
    | .edit _ => (t.step a).syntheses steps
    | .synthesize x s => ⟨x, s, t.registry a.name⟩ :: (t.step a).syntheses steps

end Session

/-! ## Reports -/

namespace Event

inductive Shows (max? : Option Nat) (sql : String) : String → Prop
  | whole (fits : ∀ max ∈ max?, sql.utf8ByteSize ≤ max) : Shows max? sql sql
  | cut {max : Nat} {start : String} (limit : max? = some max) (long : max < sql.utf8ByteSize)
      (longest : Text.LongestStart max sql start) : Shows max? sql (start ++ "...")

inductive Reports (c : Synthesis) (e : Event) : Prop
  | written {sql shown : String} (result : c.outcome.result = .ok sql)
      (level : e.level = c.synthesizer.config.logLevel)
      (shows : Shows c.synthesizer.config.maxLoggedLength sql shown)
      (values : e.values = [("action", .text c.statement.action.name),
        ("table", .text c.statement.table),
        ("placeholder_count", .number
          (c.before.names ++ c.statement.visitedFields.map placeholder).toFinset.card),
        ("sql", .text shown)])
  | failed {error : Error} (result : c.outcome.result = .error error) (level : e.level = .warn)
      (values : e.values = [("action", .text c.statement.action.name),
        ("table", .text c.statement.table), ("error", .text error.message),
        ("message", .text "synthesis failed")])

theorem shows_shown (x : Synthesizer) (sql : String) :
    Shows x.config.maxLoggedLength sql (x.shown sql) := by
  unfold Synthesizer.shown
  cases limit : x.config.maxLoggedLength with
  | none => exact .whole fun max mem => by cases mem
  | some max =>
      by_cases fits : sql.utf8ByteSize ≤ max
      · simp only [if_pos fits]
        exact .whole fun _ mem => by cases mem; exact fits
      · simp only [if_neg fits]
        exact .cut rfl (Nat.lt_of_not_le fits) (Text.longestStart_cut max sql)

theorem reports_outcome {c : Synthesis} (distinct : c.before.names.Nodup) :
    c.outcome.event.Reports c := by
  have said : c.outcome.event =
      c.synthesizer.event c.statement c.outcome.registry c.outcome.result := rfl
  cases result : c.outcome.result with
  | error e =>
      rw [result] at said
      refine .failed result ?_ ?_
      · rw [said]
        rfl
      · rw [said]
        rfl
  | ok sql =>
      rw [result] at said
      have count : c.outcome.registry.size =
          (c.before.names ++ c.statement.visitedFields.map placeholder).toFinset.card := by
        rw [← c.statement.names_visits, ← Entries.size_extend distinct]
        exact congrArg Entries.size (Synthesizer.registry_synthesize_of_result result)
      refine .written result ?_ (shows_shown c.synthesizer sql) ?_
      · rw [said]
        rfl
      · rw [said, ← count]
        rfl

end Event

namespace Session

theorem distinct_step {t : Session} (distinct : ∀ name, (t.registry name).names.Nodup) (a : Step)
    (name : String) : ((t.step a).registry name).names.Nodup := by
  unfold step
  by_cases used : name = a.name
  · simp only [if_pos used]
    exact Registry.nodup_names_use (distinct name) a.use
  · simp only [if_neg used]
    exact distinct name

theorem log_run {t : Session} (distinct : ∀ name, (t.registry name).names.Nodup)
    (steps : List Step) :
    ∃ events, (t.run steps).log = t.log ++ events ∧
      List.Forall₂ (fun c e => e.Reports c) (t.syntheses steps) events := by
  induction steps generalizing t with
  | nil => exact ⟨[], (List.append_nil _).symm, .nil⟩
  | cons a steps ih =>
      obtain ⟨later, log, reports⟩ := ih (distinct_step distinct a)
      refine ⟨a.use.events (t.registry a.name) ++ later, ?_, ?_⟩
      · rw [← List.append_assoc]
        exact log
      · rw [syntheses]
        cases a.use with
        | edit e => exact reports
        | synthesize x s => exact .cons (Event.reports_outcome (distinct a.name)) reports

theorem reports_run {t : Session} (distinct : ∀ name, (t.registry name).names.Nodup)
    (steps : List Step) :
    Event.target = "sqlporter.sql" ∧
    (∀ c : Synthesis, c.before.names.Nodup → c.outcome.event.Reports c) ∧
    ∃ events, (t.run steps).log = t.log ++ events ∧
      List.Forall₂ (fun c e => e.Reports c) (t.syntheses steps) events :=
  ⟨rfl, fun _ names => Event.reports_outcome names, log_run distinct steps⟩

/-- The first text is cut where a character of two bytes begins, one byte too early for it. Then its
registry is cleared, and another registry is asked to take a statement that is refused. -/
theorem reports_run_cut :
    let x : Synthesizer := ⟨{ logLevel := .info, maxLoggedLength := some 16 }⟩
    let y : Synthesizer := ⟨{ logLevel := .trace }⟩
    let clauses : List Clause := [⟨.none, "n", "=", .int 1⟩, ⟨.and, "m", "=", .int 2⟩]
    let s : Statement := { action := .select, table := "é", clauses }
    let refused : Statement := { action := .insert, table := "t" }
    let r : Registry := ⟨[(":n", .null), (":kept", .null)]⟩
    let t : Session := ⟨fun _ => r, []⟩
    let steps : List Step :=
      [⟨"a", .synthesize x s⟩, ⟨"a", .edit .clear⟩, ⟨"b", .synthesize y refused⟩]
    let first : Event := ⟨.info, .select, "é", .written 3 "SELECT * FROM `..."⟩
    let second : Event := ⟨.warn, .insert, "t", .failed (.missingFields .insert)⟩
    (∀ name, (t.registry name).names.Nodup) ∧ (t.run steps).log = [first, second] ∧
      first.Reports ⟨x, s, r⟩ ∧ second.Reports ⟨y, refused, r⟩ := by
  intro x y clauses s refused r t steps first second
  have names : r.names.Nodup := by decide
  have distinct : ∀ name, (t.registry name).names.Nodup := fun _ => names
  have log : (t.run steps).log = [first, second] := by decide +kernel
  obtain ⟨-, -, events, logged, reports⟩ := reports_run distinct steps
  have same : events = [first, second] := by rw [← log, logged]; rfl
  rw [same] at reports
  cases reports with
  | cons one more =>
      cases more with
      | cons other _ => exact ⟨distinct, log, one, other⟩

end Session
end NamedSql
