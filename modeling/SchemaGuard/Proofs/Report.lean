import SchemaGuard.Report
import Mathlib.Data.List.Induction
import Mathlib.Data.List.Nodup

/-! # Laws of reports

The records of a report are those that were added to it, each once, in the order in which they
came first. So it makes no difference whether records are added directly or by way of the report
of a part, which has dropped repetitions of its own. The names of the records of a nested model are
changed, but no two of its records become one by that.
-/

namespace SchemaGuard

/-- Only a record about a nested model as a whole is named like the field that holds it; the names
of all others are longer. -/
theorem FieldError.qualified_injective (outer : String) :
    Function.Injective (FieldError.qualified outer) := by
  have hlonger : ∀ name : String, outer ≠ outer ++ "." ++ name := by
    intro name heq
    have hlength := congrArg String.length heq
    simp only [String.length_append] at hlength
    have hpoint : ".".length = 1 := rfl
    omega
  rintro ⟨field, message⟩ ⟨field', message'⟩ heq
  unfold qualified at heq
  split at heq
  next hwhole =>
    split at heq
    next hwhole' =>
      cases heq
      rw [FieldError.mk.injEq]
      exact ⟨hwhole.trans hwhole'.symm, rfl⟩
    next =>
      injection heq with hfield
      exact absurd hfield (hlonger _)
  next =>
    split at heq
    next =>
      injection heq with hfield
      exact absurd hfield.symm (hlonger _)
    next =>
      injection heq with hfield hmessage
      rw [FieldError.mk.injEq]
      exact ⟨(String.append_right_inj _).mp hfield, hmessage⟩

namespace Report

theorem add_of_mem {report : Report} {error : FieldError} (herror : error ∈ report.errors) :
    report.add error = report :=
  dif_pos herror

@[simp] theorem addAll_nil (report : Report) : report.addAll [] = report := rfl

@[simp] theorem addAll_cons (report : Report) (error : FieldError) (errors : List FieldError) :
    report.addAll (error :: errors) = (report.add error).addAll errors := rfl

theorem addAll_append (report : Report) (first second : List FieldError) :
    report.addAll (first ++ second) = (report.addAll first).addAll second :=
  List.foldl_append

theorem addAll_concat (report : Report) (errors : List FieldError) (error : FieldError) :
    report.addAll (errors ++ [error]) = (report.addAll errors).add error :=
  report.addAll_append errors [error]

theorem ofList_concat (errors : List FieldError) (error : FieldError) :
    ofList (errors ++ [error]) = (ofList errors).add error :=
  empty.addAll_concat errors error

/-- Only the records themselves count, not the repetitions of them that a report drops. -/
theorem addAll_ofList (report : Report) (errors : List FieldError) :
    report.addAll (ofList errors).errors = report.addAll errors := by
  induction errors using List.reverseRecOn with
  | nil => rfl
  | append_singleton errors error ih =>
      rw [ofList_concat, errors_add, addAll_concat, ← ih]
      -- The report of the part may have dropped the last record, but only if it had it before.
      split
      next hknown =>
        exact (add_of_mem ((report.mem_errors_addAll _ error).mpr (.inr hknown))).symm
      next => rw [addAll_concat]

/-- The report of records keeps the first of every group of equal ones. -/
theorem errors_ofList (errors : List FieldError) : (ofList errors).errors = errors.eraseDups := by
  induction errors using List.reverseRecOn with
  | nil => rfl
  | append_singleton errors error ih =>
      rw [ofList_concat, errors_add, ih, List.eraseDups_append]
      by_cases hknown : error ∈ errors
      · simp [List.removeAll, hknown]
      · simp [List.removeAll, List.eraseDups_cons, hknown]

theorem addAll_flatMap {α : Type} (report : Report) (parts : List α)
    (errors : α → List FieldError) :
    report.addAll (parts.flatMap fun part => (ofList (errors part)).errors) =
      report.addAll (parts.flatMap errors) := by
  induction parts generalizing report with
  | nil => rfl
  | cons part rest ih =>
      rw [List.flatMap_cons, List.flatMap_cons, addAll_append, addAll_append, addAll_ofList, ih]

/-- The records of a report stand in the order in which each of them came first. -/
theorem ofList_ordered (errors : List FieldError) :
    (ofList errors).errors.Pairwise fun earlier later =>
      errors.idxOf earlier < errors.idxOf later := by
  induction errors using List.reverseRecOn with
  | nil => exact List.Pairwise.nil
  | append_singleton errors error ih =>
      have hmem : ∀ seen, seen ∈ (ofList errors).errors ↔ seen ∈ errors := by
        intro seen
        rw [errors_ofList, List.mem_eraseDups]
      -- One more record at the end does not move the first places of those before it.
      have hbefore : (ofList errors).errors.Pairwise fun earlier later =>
          (errors ++ [error]).idxOf earlier < (errors ++ [error]).idxOf later := by
        refine ih.imp_of_mem fun hearlier hlater hlt => ?_
        rwa [List.idxOf_append_of_mem ((hmem _).mp hearlier),
          List.idxOf_append_of_mem ((hmem _).mp hlater)]
      rw [ofList_concat, errors_add]
      split
      next => exact hbefore
      next hnew =>
        refine List.pairwise_append.mpr ⟨hbefore, List.pairwise_singleton _ _, ?_⟩
        intro earlier hearlier later hlater
        have hseen := (hmem _).mp hearlier
        rw [List.mem_singleton.mp hlater, List.idxOf_append_of_mem hseen,
          List.idxOf_append_of_notMem (mt (hmem _).mpr hnew)]
        exact Nat.lt_add_right _ (List.idxOf_lt_length_of_mem hseen)

theorem addAll_of_forall_mem {report : Report} {errors : List FieldError}
    (herrors : ∀ error ∈ errors, error ∈ report.errors) : report.addAll errors = report := by
  induction errors with
  | nil => rfl
  | cons error rest ih =>
      obtain ⟨herror, hrest⟩ := List.forall_mem_cons.mp herrors
      rw [addAll_cons, add_of_mem herror, ih hrest]

/-! ## Operations one after the other -/

/-- What is done to a report. -/
inductive Operation where
  | record (field message : String)
  | push (error : FieldError)
  | extend (errors : List FieldError)
  | mergeNested (outer : String) (nested : Report)

/-- The records that an operation offers to a report. -/
def Operation.offered : Operation → List FieldError
  | record field message => [⟨field, message⟩]
  | push error => [error]
  | extend errors => errors
  | mergeNested outer nested => nested.errors.map (·.qualified outer)

/-- The report after an operation, and the answer of one that adds a single record: whether it was
new. -/
def perform (report : Report) : Operation → Report × Option Bool
  | .record field message => (report.add ⟨field, message⟩, some (report.isNew ⟨field, message⟩))
  | .push error => (report.add error, some (report.isNew error))
  | .extend errors => (report.addAll errors, none)
  | .mergeNested outer nested => (report.addNested outer nested, none)

/-- The report after some operations on one without records. -/
def run (operations : List Operation) : Report :=
  operations.foldl (fun report operation => (report.perform operation).1) empty

theorem perform_eq_addAll (report : Report) (operation : Operation) :
    (report.perform operation).1 = report.addAll operation.offered := by
  cases operation <;> rfl

theorem run_eq_ofList (operations : List Operation) :
    run operations = ofList (operations.flatMap Operation.offered) := by
  induction operations using List.reverseRecOn with
  | nil => rfl
  | append_singleton operations operation ih =>
      have hlast : run (operations ++ [operation]) = ((run operations).perform operation).1 :=
        List.foldl_append
      rw [hlast, perform_eq_addAll, ih, List.flatMap_append, List.flatMap_singleton, ofList,
        ← addAll_append]
      rfl

theorem mem_errors_run {operations : List Operation} {error : FieldError} :
    error ∈ (run operations).errors ↔ error ∈ operations.flatMap Operation.offered := by
  rw [run_eq_ofList, errors_ofList, List.mem_eraseDups]

theorem isNew_run (operations : List Operation) (error : FieldError) :
    (run operations).isNew error = decide (error ∉ operations.flatMap Operation.offered) :=
  decide_eq_decide.mpr (not_congr mem_errors_run)

/-- Nothing is dropped from distinct records. -/
theorem errors_ofList_of_nodup {errors : List FieldError} (herrors : errors.Nodup) :
    (ofList errors).errors = errors := by
  induction errors using List.reverseRecOn with
  | nil => rfl
  | append_singleton errors error ih =>
      obtain ⟨hbefore, -, hapart⟩ := List.nodup_append.mp herrors
      have hnew : error ∉ errors := fun hknown =>
        hapart error hknown error (List.mem_singleton_self error) rfl
      rw [ofList_concat, errors_add, ih hbefore, if_neg hnew]

/-- A report without records takes in all records of a nested one. -/
theorem errors_addNested_empty (outer : String) (nested : Report) :
    (empty.addNested outer nested).errors = nested.errors.map (·.qualified outer) :=
  errors_ofList_of_nodup (nested.nodup.map (FieldError.qualified_injective outer))

/-- After any operations a report holds the records that have been offered to it, those of nested
reports under their qualified names, in the order in which each was offered first. Adding a record
tells whether it has not been offered before. Merging a nested report once more under the same name
changes nothing, whatever is done in between, and an empty report takes in as many records as the
nested one has, since qualified records are equal only if the records are. -/
theorem run_collects (operations : List Operation) :
    let report := run operations
    let offered := operations.flatMap Operation.offered
    (∀ error, error ∈ report.errors ↔ error ∈ offered) ∧
      report.errors.Pairwise (fun earlier later =>
        offered.idxOf earlier < offered.idxOf later) ∧
      (∀ field message, (report.perform (.record field message)).2 =
        some (decide (⟨field, message⟩ ∉ offered))) ∧
      (∀ error, (report.perform (.push error)).2 = some (decide (error ∉ offered))) ∧
      (∀ outer nested later,
        let merged := run (operations ++ .mergeNested outer nested :: later)
        (merged.perform (.mergeNested outer nested)).1 = merged) ∧
      (∀ outer nested, (empty.perform (.mergeNested outer nested)).1.size = nested.size) ∧
      ∀ outer, Function.Injective (FieldError.qualified outer) := by
  intro report offered
  refine ⟨fun error => mem_errors_run, ?_, ?_, ?_, ?_, ?_, FieldError.qualified_injective⟩
  · have hordered := ofList_ordered offered
    rwa [← run_eq_ofList] at hordered
  · intro field message
    exact congrArg some (isNew_run operations ⟨field, message⟩)
  · intro error
    exact congrArg some (isNew_run operations error)
  · intro outer nested later merged
    refine addAll_of_forall_mem fun error herror => mem_errors_run.mpr ?_
    rw [List.flatMap_append, List.flatMap_cons]
    exact List.mem_append_right _ (List.mem_append_left _ herror)
  · intro outer nested
    have herrors := errors_addNested_empty outer nested
    exact (congrArg List.length herrors).trans (List.length_map _)

example :
    let nested : Report := ofList [⟨"city", "Field required"⟩, ⟨wholeModel, "Not a real address"⟩,
      ⟨"address", "Too short"⟩]
    (run [.mergeNested "address" nested, .mergeNested "address" nested]).errors =
      [⟨"address.city", "Field required"⟩, ⟨"address", "Not a real address"⟩,
        ⟨"address.address", "Too short"⟩] := by
  decide

end Report

end SchemaGuard
