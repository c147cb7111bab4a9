import NamedSql.Proofs.Entries.History
import NamedSql.Proofs.Synthesis.Registry

namespace NamedSql

/-! ## Uses -/

namespace Registry

inductive Use where
  | edit (e : Edit)
  | synthesize (x : Synthesizer) (s : Statement)

def use (r : Registry) : Use → Registry
  | .edit e => r.edit e
  | .synthesize x s => (x.synthesize s r).registry

def uses (us : List Use) : Registry := us.foldl use ∅

theorem nodup_names_edit {r : Registry} (distinct : r.names.Nodup) (e : Edit) :
    (r.edit e).names.Nodup := by
  cases e with
  | set name value => exact Entries.nodup_names_set distinct name value
  | register field value => exact Entries.nodup_names_set distinct (placeholder field) value
  | clear => exact List.nodup_nil

theorem nodup_names_use {r : Registry} (distinct : r.names.Nodup) (u : Use) :
    (r.use u).names.Nodup := by
  cases u with
  | edit e => exact nodup_names_edit distinct e
  | synthesize x s =>
      rw [use]
      cases written : s.render with
      | error e => rwa [Synthesizer.registry_synthesize_of_error written]
      | ok sql =>
          rw [Synthesizer.registry_synthesize_of_ok written]
          exact Entries.nodup_names_extend distinct s.visits

theorem nodup_names_uses (us : List Use) : (uses us).names.Nodup := by
  have from_any {r : Registry} (distinct : r.names.Nodup) : (us.foldl use r).names.Nodup := by
    induction us generalizing r with
    | nil => exact distinct
    | cons u us ih => exact ih (nodup_names_use distinct u)
  exact from_any List.nodup_nil

end Registry

/-! ## The same synthesis again -/

namespace Synthesizer

theorem event_synthesize (x : Synthesizer) (s : Statement) (r : Registry) :
    (x.synthesize s r).event = x.event s (x.synthesize s r).registry (x.synthesize s r).result :=
  rfl

theorem registry_synthesize_again {r : Registry} (distinct : r.names.Nodup) (x y : Synthesizer)
    (s : Statement) :
    (y.synthesize s (x.synthesize s r).registry).registry = (x.synthesize s r).registry := by
  cases written : s.render with
  | error e =>
      rw [registry_synthesize_of_error written, registry_synthesize_of_error written]
  | ok sql =>
      rw [registry_synthesize_of_ok written, registry_synthesize_of_ok written,
        Entries.extend_extend distinct]

theorem synthesize_again {r : Registry} (distinct : r.names.Nodup) (x y : Synthesizer)
    (s : Statement) :
    let first := x.synthesize s r
    let again := y.synthesize s first.registry
    again.result = first.result ∧ again.registry.toList = first.registry.toList ∧
      (y = x → again.event = first.event) := by
  intro first again
  have result : again.result = first.result := by
    rw [result_synthesize, result_synthesize]
  have registry : again.registry = first.registry := registry_synthesize_again distinct x y s
  refine ⟨result, by rw [registry], ?_⟩
  rintro rfl
  rw [event_synthesize, event_synthesize, registry, result]

/-- The first call finds one of the names in the registry. The second one writes over `:status` and
`:id` what the clauses then write over again. -/
theorem synthesize_again_overlapping :
    let r : Registry := ⟨[(":id", .bool true), (":kept", .text "here")]⟩
    let first := synthesize {} overlapping r
    let again := synthesize {} overlapping first.registry
    r.names.Nodup ∧ again.result = first.result ∧
      again.registry.toList = [(":id", .null), (":kept", .text "here"), (":status", .text "old"),
        (":age", .int 4)] := by
  intro r first again
  have distinct : r.names.Nodup := by decide
  obtain ⟨result, entries, -⟩ := synthesize_again distinct {} {} overlapping
  exact ⟨distinct, result, entries.trans (by decide)⟩

end Synthesizer
end NamedSql
