import SchemaGuard.Catalog
import SchemaGuard.Proofs.Model.Totality

/-! # Calls on a catalog

Validating data and building an instance of it run the model of an entry once and remember the
records of that run, and nothing else about a call stays behind. So whatever has been called
before, a call answers as on an entry that has never been used.
-/

namespace SchemaGuard

open Outcome

/-- The instance that a pass gives, if nothing is reported. -/
def Model.made? (model : Model) (pass : Pass) : Option Instance :=
  if pass.isValid then some ⟨model.name, pass.values⟩ else none

theorem Model.instanceOf_eq_ok {model : Model} {pass : Pass} {made : Instance} :
    model.instanceOf pass = .ok made ↔ model.made? pass = some made := by
  unfold instanceOf made?
  split
  · simp
  · simp

namespace Catalog

variable {catalog : Catalog} {handle : Handle} {model : Model} {errors : List FieldError}

/-! ## Remembered errors -/

theorem entry_remember (hentry : catalog.entry handle = .ok ⟨model, errors⟩)
    (errors' : List FieldError) :
    (catalog.remember handle errors').entry handle = .ok ⟨model, errors'⟩ := by
  unfold entry at hentry ⊢
  split at hentry
  next found hfound =>
    cases hentry
    simp [remember, hfound]
  next => cases hentry

theorem entry_remember_of_ne {other : Handle} (hne : other ≠ handle)
    (errors' : List FieldError) :
    (catalog.remember other errors').entry handle = catalog.entry handle := by
  unfold entry remember
  simp [hne]

/-! ## Single calls -/

theorem validate_eq (hentry : catalog.entry handle = .ok ⟨model, errors⟩) (data : Value) :
    catalog.validate handle data = (model.run data).map fun pass =>
      (⟨model.jsonSchema, pass.report, data⟩, catalog.remember handle pass.report.errors) := by
  rw [validate, hentry, ok_bind, Model.validate]
  cases model.run data <;> rfl

theorem build_eq (hentry : catalog.entry handle = .ok ⟨model, errors⟩) (data : Value) :
    catalog.build handle data = (model.run data).map fun pass =>
      (model.made? pass, catalog.remember handle pass.report.errors) := by
  rw [build, hentry, ok_bind]
  cases model.run data with
  | error failure => rfl
  | ok pass =>
      rw [ok_bind, map_ok, Model.instanceOf, Model.made?]
      by_cases hvalid : pass.isValid = true
      · simp [hvalid, pure_eq_ok, ok_bind]
      · simp [hvalid, pure_eq_ok]

/-! ## Sequences of calls -/

/-- A call of one of the two entry points for an entry of a catalog. -/
inductive Call where
  | validate (handle : Handle) (data : Value)
  | build (handle : Handle) (data : Value)

/-- The catalog that a call leaves behind, if it does not fail. -/
def Call.perform (catalog : Catalog) : Call → Except Failure Catalog
  | validate handle data => (catalog.validate handle data).map Prod.snd
  | build handle data => (catalog.build handle data).map Prod.snd

/-- The catalog after a call. One that fails changes nothing. -/
def after (catalog : Catalog) (call : Call) : Catalog :=
  match call.perform catalog with
  | .ok next => next
  | .error _ => catalog

/-- The catalog after calls in their order. -/
def afterAll (catalog : Catalog) (calls : List Call) : Catalog :=
  calls.foldl after catalog

/-- A call remembers errors, and changes nothing else. -/
theorem remembered_of_perform {call : Call} {next : Catalog}
    (hperform : call.perform catalog = .ok next) :
    ∃ handle errors, next = catalog.remember handle errors := by
  cases call with
  | validate handle data =>
      obtain ⟨⟨results, last⟩, hvalidate, rfl⟩ := map_eq_ok.mp hperform
      rw [validate, bind_eq_ok] at hvalidate
      obtain ⟨⟨model, errors⟩, hentry, hvalidate⟩ := hvalidate
      obtain ⟨found, _, hnext⟩ := bind_eq_ok.mp hvalidate
      cases hnext
      exact ⟨handle, _, rfl⟩
  | build handle data =>
      obtain ⟨⟨made, last⟩, hbuild, rfl⟩ := map_eq_ok.mp hperform
      obtain ⟨⟨model, errors⟩, hentry, _⟩ := bind_eq_ok.mp hbuild
      rw [build_eq hentry] at hbuild
      obtain ⟨pass, _, hnext⟩ := map_eq_ok.mp hbuild
      cases hnext
      exact ⟨handle, _, rfl⟩

/-- A call leaves every entry its model. -/
theorem entry_after (hentry : catalog.entry handle = .ok ⟨model, errors⟩) (call : Call) :
    ∃ errors', (catalog.after call).entry handle = .ok ⟨model, errors'⟩ := by
  unfold after
  split
  next next hperform =>
    obtain ⟨other, errors', rfl⟩ := remembered_of_perform hperform
    by_cases hother : other = handle
    · exact ⟨errors', hother ▸ entry_remember hentry errors'⟩
    · exact ⟨errors, (entry_remember_of_ne hother errors').trans hentry⟩
  next => exact ⟨errors, hentry⟩

/-- Calls leave every entry its model. -/
theorem entry_afterAll (hentry : catalog.entry handle = .ok ⟨model, errors⟩) (calls : List Call) :
    ∃ errors', (catalog.afterAll calls).entry handle = .ok ⟨model, errors'⟩ := by
  induction calls generalizing catalog errors with
  | nil => exact ⟨errors, hentry⟩
  | cons call rest ih =>
      obtain ⟨errors', hnext⟩ := entry_after hentry call
      exact ih hnext

/-! ## Answers -/

/-- The entry points for a model refuse data for the same reason. -/
structure Refuses (catalog : Catalog) (handle : Handle) (model : Model) (data : Value)
    (failure : Failure) : Prop where
  validate : catalog.validate handle data = .error failure
  build : catalog.build handle data = .error failure
  construct : model.construct data = .error failure

/-- The entry points for a model agree on data whose validation gives results: they find the same
errors and remember them, and data that is valid is built and constructed. -/
structure Answers (catalog : Catalog) (handle : Handle) (model : Model) (data : Value)
    (results : Results) : Prop where
  validated : ∃ next, catalog.validate handle data = .ok (results, next) ∧
    next.entry handle = .ok ⟨model, results.report.errors⟩
  built : ∃ made next, catalog.build handle data = .ok (made, next) ∧
    next.entry handle = .ok ⟨model, results.report.errors⟩
  echoed : results.data = data
  valid_iff_empty : results.valid = true ↔ results.report.errors = []
  valid_iff_built : results.valid = true ↔
    ∃ made next, catalog.build handle data = .ok (some made, next)
  valid_iff_constructed : results.valid = true ↔ ∃ made, model.construct data = .ok made
  construction : ∀ failure, model.construct data = .error failure →
    failure = .construction model.name results.report.errors

/-- The entry points run the model once, and all that they answer follows from its pass. -/
theorem answers_of_run (hentry : catalog.entry handle = .ok ⟨model, errors⟩) {data : Value}
    {pass : Pass} (hrun : model.run data = .ok pass) :
    catalog.Answers handle model data ⟨model.jsonSchema, pass.report, data⟩ := by
  have hvalidate := validate_eq hentry data
  have hbuild := build_eq hentry data
  rw [hrun, map_ok] at hvalidate hbuild
  have hconstruct : model.construct data = model.instanceOf pass := by
    rw [Model.construct, hrun, ok_bind]
  have hremembered := entry_remember hentry pass.report.errors
  have hvalid : pass.isValid = true ↔ ∃ made, model.made? pass = some made := by
    unfold Model.made?
    split
    next hvalid => simp [hvalid]
    next hvalid => simp [hvalid]
  constructor
  case validated => exact ⟨_, hvalidate, hremembered⟩
  case built => exact ⟨_, _, hbuild, hremembered⟩
  case echoed => rfl
  case valid_iff_empty => exact List.isEmpty_iff
  case valid_iff_built =>
    rw [hbuild]
    apply hvalid.trans
    simp
  case valid_iff_constructed =>
    rw [hconstruct]
    apply hvalid.trans
    simp only [Model.instanceOf_eq_ok]
  case construction =>
    intro failure hfailure
    rw [hconstruct, Model.instanceOf] at hfailure
    split at hfailure
    next => cases hfailure
    next =>
      cases hfailure
      rfl

theorem refuses_of_run (hentry : catalog.entry handle = .ok ⟨model, errors⟩) {data : Value}
    {failure : Failure} (hrun : model.run data = .error failure) :
    catalog.Refuses handle model data failure := by
  constructor
  case validate => rw [validate_eq hentry, hrun, map_error]
  case build => rw [build_eq hentry, hrun, map_error]
  case construct => rw [Model.construct, hrun, error_bind]

/-- After any calls, the entry points for a model answer as they do for an entry that has never been
used. They agree with one another on all data, and what the last call has found is what is
remembered. -/
theorem calls_carry_no_history {fresh : Catalog} {other : Handle}
    (hentry : catalog.entry handle = .ok ⟨model, errors⟩)
    (hfresh : fresh.entry other = .ok ⟨model, []⟩) (calls : List Call) (data : Value) :
    ((catalog.afterAll calls).validate handle data).map Prod.fst =
        (fresh.validate other data).map Prod.fst ∧
      ((catalog.afterAll calls).build handle data).map Prod.fst =
        (fresh.build other data).map Prod.fst ∧
      ((∃ failure, (catalog.afterAll calls).Refuses handle model data failure) ∨
        ∃ results, (catalog.afterAll calls).Answers handle model data results) := by
  obtain ⟨errors', hlater⟩ := entry_afterAll hentry calls
  refine ⟨?_, ?_, ?_⟩
  · rw [validate_eq hlater, validate_eq hfresh]
    cases model.run data <;> rfl
  · rw [build_eq hlater, build_eq hfresh]
    cases model.run data <;> rfl
  · cases hrun : model.run data with
    | error failure => exact .inl ⟨failure, refuses_of_run hlater hrun⟩
    | ok pass => exact .inr ⟨_, answers_of_run hlater hrun⟩

/-- After a call with a city that is no text and one with data that is no table, an empty table is
answered as if nothing had been called. -/
theorem addressDocument_answers_again :
    ∃ model, addressDocument.compile (.withBuiltins {} .restricted) = .ok model ∧
      ∃ results, ((register ⟨{}, [], []⟩ model).afterAll
          [.validate 0 (.dict [("address", .dict [("city", .int 7)])]), .build 0 .null]).Answers
        0 model (.dict []) results := by
  obtain ⟨model, hcompile⟩ := addressDocument_compile
  refine ⟨model, hcompile, ?_⟩
  have hentry : (register ⟨{}, [], []⟩ model).entry 0 = .ok ⟨model, []⟩ := rfl
  obtain ⟨pass, hrun⟩ : ∃ pass, model.run (.dict []) = .ok pass :=
    Model.pass_ok model model.name (.dict []) (Document.compile_screened hcompile)
  obtain ⟨hsame, _, ⟨failure, hrefuses⟩ | hanswers⟩ :=
    calls_carry_no_history hentry hentry
      [.validate 0 (.dict [("address", .dict [("city", .int 7)])]), .build 0 .null] (.dict [])
  · rw [hrefuses.validate, validate_eq hentry, hrun] at hsame
    cases hsame
  · exact hanswers

end Catalog

end SchemaGuard
