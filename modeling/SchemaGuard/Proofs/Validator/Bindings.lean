import SchemaGuard.Proofs.Validator.CheckedList

/-! # What a run changes in its scope

The names that are bound when a program begins keep their places, and those that it does not
bind keep their values. Names that are bound for the first time come after them, and the
program binds each of these. So a field validator that does not bind `value` judges its value
without replacing it.
-/

namespace SchemaGuard

open Outcome

/-- A scope that has grown out of another one: the names of the first are where they were, and what
follows them are new names that the program binds. -/
def Program.Extends (program : Program) (scope final : Scope) : Prop :=
  ∃ added, Table.keys final = Table.keys scope ++ added ∧ added.Nodup ∧
    ∀ name ∈ added, name ∉ Table.keys scope ∧ program.Binds name

namespace Program

variable {program : Program} {scope reached : Scope}

theorem extends_refl (program : Program) (scope : Scope) : program.Extends scope scope :=
  ⟨[], by simp⟩

/-- A name that is bound anew stays where it is, and a new one comes last. -/
theorem Extends.insert (hreached : program.Extends scope reached) {name : String}
    (hname : program.Binds name) (value : Value) :
    program.Extends scope (Table.insert reached name value) := by
  obtain ⟨added, hkeys, hnodup, hadded⟩ := hreached
  unfold Extends
  rw [Table.keys_insert]
  split
  next => exact ⟨added, hkeys, hnodup, hadded⟩
  next hnew =>
    rw [hkeys, List.mem_append, not_or] at hnew
    obtain ⟨hscope, hnotadded⟩ := hnew
    have hnodup' : (added ++ [name]).Nodup := by
      rw [← List.concat_eq_append]
      exact hnodup.concat hnotadded
    refine ⟨added ++ [name], by rw [hkeys, List.append_assoc], hnodup', ?_⟩
    intro other hother
    rcases List.mem_append.mp hother with hold | hlast
    · exact hadded other hold
    · rw [List.mem_singleton.mp hlast]
      exact ⟨hscope, hname⟩

end Program

/-- A run keeps the places of the names it begins with and adds only names that the program
binds. -/
theorem Evaluator.run_extends {ev : Evaluator} {program : Program} {scope final : Scope}
    (hrun : ev.run program scope = .ok final) : program.Extends scope final := by
  refine run_keeps (program.Extends scope) (fun use huse name hname reached value hreached => ?_)
    (program.extends_refl scope) hrun
  exact hreached.insert ⟨use, huse, hname⟩ value

/-- A validator that does not bind `value` answers with the value that it judges, unless its run
fails. -/
theorem Validator.callField_eq_run {validator : Validator}
    (hvalue : ¬ validator.program.Binds "value") (value : Value) (context : Table Value)
    (data : Value) :
    validator.callField value context data =
      (validator.evaluator.run validator.program
        (validator.fieldScope value context data)).map fun _ => value := by
  unfold callField
  cases hrun : validator.evaluator.run validator.program
      (validator.fieldScope value context data) with
  | error failure => rfl
  | ok final =>
      have hfinal : Table.get? final "value" = some value := by
        rw [Evaluator.run_frame hvalue hrun, get?_fieldScope, if_pos (.inl rfl)]
      rw [ok_bind, hfinal]
      rfl

/-- A run that comes to its end changes only what the program binds. A name that the program does
not bind has the value that it had, or is still unbound; the names of the beginning stand first, in
their order, and every name after them is new and bound by the program. So a field validator that
does not bind `value` answers with the value it was given whenever its program comes to an end. -/
theorem run_changes_only_bound :
    (∀ (ev : Evaluator) (program : Program) (scope final : Scope),
      ev.run program scope = .ok final →
        (∀ name, ¬ program.Binds name → Table.get? final name = Table.get? scope name) ∧
        program.Extends scope final) ∧
    ∀ (validator : Validator) (value : Value) (context : Table Value) (data : Value),
      ¬ validator.program.Binds "value" →
        validator.callField value context data =
          (validator.evaluator.run validator.program
            (validator.fieldScope value context data)).map fun _ => value := by
  constructor
  · intro ev program scope final hrun
    refine ⟨fun name hname => ?_, Evaluator.run_extends hrun⟩
    exact Evaluator.run_frame hname hrun
  · intro validator value context data hvalue
    exact Validator.callField_eq_run hvalue value context data

/-- A program that adds up items, notes whether there were any, and imports a module. -/
def totalProgram : Program :=
  [.loop "item" (.var "value") [.assign "total" (.binary .add (.var "total") (.var "item"))],
    .branch [(.compare (.var "total") [(.greater, .int 2)], [.assign "large" (.bool true)])]
      [.assign "small" (.bool true)],
    .importModule ["string"]]

/-- A validator of a list of numbers that runs the program. -/
def totalValidator : Validator :=
  let request := ValidatorRequest.forField "counts" "" .after true
  { request with bindings := [("total", .int 0)] }.validator (.withBuiltins {} .restricted)
    totalProgram

/-- The names of the branch that is not taken are not bound, and the list stays as it is. -/
theorem totalProgram_adds_names :
    let ev := Evaluator.withBuiltins {} .restricted
    let scope : Scope := [("total", .int 0), ("value", .list [.int 1, .int 2])]
    let final : Scope := [("total", .int 3), ("value", .list [.int 1, .int 2]),
      ("item", .int 2), ("large", .bool true), ("string", Eval.stringModule)]
    ev.run totalProgram scope = .ok final ∧
      Table.get? final "value" = Table.get? scope "value" ∧
      (∃ added, Table.keys final = Table.keys scope ++ added ∧ "large" ∈ added) ∧
      ¬ totalValidator.program.Binds "value" ∧
      totalValidator.callField (.list [.int 1, .int 2]) [] (.dict []) =
        .ok (.list [.int 1, .int 2]) := by
  intro ev scope final
  have hrun : ev.run totalProgram scope = .ok final := rfl
  have hvalue : ¬ totalProgram.Binds "value" := by decide
  have hvalue' : ¬ totalValidator.program.Binds "value" := hvalue
  obtain ⟨hruns, hvalidators⟩ := run_changes_only_bound
  obtain ⟨hkept, added, hkeys, _⟩ := hruns ev totalProgram scope final hrun
  refine ⟨hrun, hkept "value" hvalue, ⟨added, hkeys, ?_⟩, hvalue', ?_⟩
  · have hadded : added = ["item", "large", "string"] := by
      simpa [Table.keys, scope, final, eq_comm] using hkeys
    simp [hadded]
  · rw [hvalidators totalValidator _ [] (.dict []) hvalue']
    rfl

end SchemaGuard
