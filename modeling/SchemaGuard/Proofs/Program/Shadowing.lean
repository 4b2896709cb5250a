import SchemaGuard.Proofs.Program.Frame

/-! # What is bound under a refused name

Under the restricted guard a run neither reads nor binds a name that is refused. So runs from
two scopes that agree on the other names that a program reads cannot be told apart, and what is
bound under a refused name stays as it is. This holds of programs that no screen has seen.
-/

namespace SchemaGuard

open Outcome Eval

/-- A program reads a name when the name stands in it as a variable or as the root of a path. -/
def Program.Reads (program : Program) (name : String) : Prop :=
  .reads name ∈ program.uses

/-- A refused name stands for no kind of values. -/
theorem namesKind_of_denied {name : String} (hname : isDenied name = true) (scope : Scope) :
    namesKind scope name = false := by
  have hkind : ∀ denied ∈ deniedModules ++ deniedCallables,
      (Value.null.hasKind? denied).isSome = false := by
    decide
  have hmem : name ∈ deniedModules ++ deniedCallables := by
    simpa [isDenied, List.mem_append] using hname
  unfold namesKind
  rw [hkind name hmem, Bool.and_false]

namespace Evaluator

/-- Runs with the same limits from scopes that agree on some names. -/
def scopeCoupling {ev ev' : Evaluator} (hlimits : ev.limits = ev'.limits)
    (agreed : String → Prop) : Coupling ev ev' where
  Related scope scope' := ∀ name, agreed name → Table.get? scope name = Table.get? scope' name
  limits := hlimits
  insert name value hscope := by
    intro other hother
    rw [Table.get?_insert, Table.get?_insert, hscope other hother]

/-- Reading a name has the same effect in scopes that agree on it, and in all scopes when the name
is refused. -/
theorem scopeCoupling_alike {ev : Evaluator} (hguard : ev.guard = .restricted)
    {agreed : String → Prop} {use : Use}
    (hreads : ∀ name, use = .reads name → isDenied name = false → agreed name) :
    (scopeCoupling (Eq.refl ev.limits) agreed).Alike use := by
  intro scope scope' hscope
  refine ⟨rfl, ?_⟩
  cases use with
  | reads name =>
      by_cases hdenied : isDenied name = true
      · -- The guard answers before either scope is consulted.
        have hcheck : guarded (ev.guard.checkName name) = .error (.forbidden name) := by
          simp [hguard, Guard.checkName, Guard.hides, Guard.restricted, hdenied, guarded]
        constructor
        · unfold resolve
          rw [hcheck, error_bind, error_bind]
        · rw [namesKind_of_denied hdenied, namesKind_of_denied hdenied]
      · have hget := hscope name (hreads name rfl (by simpa using hdenied))
        constructor
        · unfold resolve
          rw [hget]
        · unfold namesKind Table.contains
          rw [hget]
  | calls name | invokes name => exact fun _ => ⟨rfl, fun _ => rfl⟩
  | binds name | imports name | selects name => exact trivial

/-- A run that comes to its end has not changed what is bound under a refused name. -/
theorem run_keeps_denied {ev : Evaluator} (hguard : ev.guard = .restricted) {program : Program}
    {scope final : Scope} (hrun : ev.run program scope = .ok final) {name : String}
    (hname : isDenied name = true) : Table.get? final name = Table.get? scope name := by
  refine run_keepsUnder (fun reached => Table.get? reached name = Table.get? scope name) ?_ rfl hrun
  intro use _ hcheck bound hbound reached value hreached
  have hne : bound ≠ name := by
    rintro rfl
    -- A use that binds the name would have been refused.
    cases use with
    | binds _ =>
        cases hbound
        simp [hguard, Guard.check, Guard.checkName, Guard.hides, Guard.restricted, hname] at hcheck
    | imports root =>
        have hstring : isDenied "string" = false := by decide
        obtain ⟨rfl, rfl⟩ : root = "string" ∧ root = bound := by simpa [Use.bound?] using hbound
        rw [hstring] at hname
        cases hname
    | reads _ | calls _ | selects _ | invokes _ => cases hbound
  show Table.get? (Table.insert reached bound value) name = Table.get? scope name
  rw [Table.get?_insert, if_neg hne]
  exact hreached

/-- Under the restricted guard, runs of a program from two scopes that agree on all names that the
program reads and that are not refused end with the same failure, or with scopes that agree
wherever the first ones did; and then what is bound under a refused name is what it was. -/
theorem run_blind_to_denied {ev : Evaluator} (hguard : ev.guard = .restricted)
    (program : Program) {scope scope' : Scope}
    (hreads : ∀ name, program.Reads name → isDenied name = false →
      Table.get? scope name = Table.get? scope' name) :
    (∃ error, ev.run program scope = .error error ∧ ev.run program scope' = .error error) ∨
    ∃ final final', ev.run program scope = .ok final ∧ ev.run program scope' = .ok final' ∧
      (∀ name, Table.get? scope name = Table.get? scope' name →
        Table.get? final name = Table.get? final' name) ∧
      ∀ name, isDenied name = true →
        Table.get? final name = Table.get? scope name ∧
          Table.get? final' name = Table.get? scope' name := by
  let agreed : String → Prop := fun name => Table.get? scope name = Table.get? scope' name
  have halike : ∀ use ∈ program.uses, (scopeCoupling (Eq.refl ev.limits) agreed).Alike use := by
    intro use huse
    apply scopeCoupling_alike hguard
    rintro name rfl hname
    exact hreads name huse hname
  have hagree := (scopeCoupling (Eq.refl ev.limits) agreed).run_coupled halike
    (fun name hname => hname)
  cases hrun : ev.run program scope with
  | error error =>
      cases hrun' : ev.run program scope' with
      | error error' =>
          rw [hrun, hrun'] at hagree
          obtain rfl : error = error' := hagree
          exact .inl ⟨error, rfl, rfl⟩
      | ok final' =>
          rw [hrun, hrun'] at hagree
          exact hagree.elim
  | ok final =>
      cases hrun' : ev.run program scope' with
      | error error' =>
          rw [hrun, hrun'] at hagree
          exact hagree.elim
      | ok final' =>
          rw [hrun, hrun'] at hagree
          refine .inr ⟨final, final', rfl, rfl, hagree, ?_⟩
          intro name hname
          exact ⟨run_keeps_denied hguard hrun hname, run_keeps_denied hguard hrun' hname⟩

end Evaluator

/-- A program that no screen would pass: it binds a refused name unless it is told to go on. -/
def unscreenedProgram : Program :=
  [.branch [(.var "ready", [.assign "total" (.binary .add (.var "total") (.int 1))])]
    [.assign "os" (.var "total")]]

/-- A scope that binds a refused name to a secret. -/
def secretScope (secret : Value) : Scope :=
  [("os", secret), ("ready", .bool true), ("total", .int 2)]

/-- The program cannot tell one secret from another, and it leaves both alone. -/
theorem unscreenedProgram_blind :
    ∃ final final',
      (Evaluator.withBuiltins {} .restricted).run unscreenedProgram (secretScope (.int 7)) =
        .ok final ∧
      (Evaluator.withBuiltins {} .restricted).run unscreenedProgram (secretScope (.str "key")) =
        .ok final' ∧
      Table.get? final "total" = some (.int 3) ∧ Table.get? final' "total" = some (.int 3) ∧
      Table.get? final "os" = some (.int 7) ∧ Table.get? final' "os" = some (.str "key") := by
  have hrun : (Evaluator.withBuiltins {} .restricted).run unscreenedProgram
      (secretScope (.int 7)) =
        .ok [("os", .int 7), ("ready", .bool true), ("total", .int 3)] := rfl
  have hreads (name : String) (hname : unscreenedProgram.Reads name) (_ : isDenied name = false) :
      Table.get? (secretScope (.int 7)) name = Table.get? (secretScope (.str "key")) name := by
    have hcases : name = "ready" ∨ name = "total" := by
      simpa [Program.Reads, unscreenedProgram, Program.uses, Statement.usesOfBlock,
        Statement.uses, Statement.usesOfBranches, Expr.uses] using hname
    rcases hcases with rfl | rfl <;> rfl
  have hguard : (Evaluator.withBuiltins {} .restricted).guard = .restricted := rfl
  rcases Evaluator.run_blind_to_denied hguard unscreenedProgram hreads with
    ⟨error, herror, _⟩ | ⟨final, final', hfinal, hfinal', hagree, hdenied⟩
  · rw [hrun] at herror
    cases herror
  · obtain ⟨hos, hos'⟩ := hdenied "os" (by decide)
    rw [hrun] at hfinal
    cases hfinal
    exact ⟨_, final', hrun, hfinal', rfl, (hagree "total" rfl).symm, rfl, hos'⟩

end SchemaGuard
