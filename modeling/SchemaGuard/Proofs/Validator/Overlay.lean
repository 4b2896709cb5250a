import SchemaGuard.Proofs.Program.Frame
import SchemaGuard.Proofs.Validator.Scope

/-! # What a model validator makes of its input

A model validator answers with the names of its input in their order. An entry whose name
the program binds carries the value that the name has at the end, and every other entry
stays as it was. The one exception is an entry called `data`: its name means the whole input
while the program runs, and so the whole input takes its place.
-/

namespace SchemaGuard

open Outcome

namespace Value

theorem identicalEntries_get? {entries other : Table Value} {name : String} {value : Value}
    (hidentical : identicalEntries entries other = true)
    (hvalue : Table.get? entries name = some value) :
    ∃ found, Table.get? other name = some found ∧ value.identical found = true := by
  have hentry := Table.mem_of_get? hvalue
  clear hvalue
  induction entries with
  | nil => cases hentry
  | cons entry rest ih =>
      obtain ⟨key, bound⟩ := entry
      rw [identicalEntries, Bool.and_eq_true] at hidentical
      obtain ⟨hbound, hrest⟩ := hidentical
      rcases List.mem_cons.mp hentry with heq | hentry
      · cases heq
        cases hfound : Table.get? other name with
        | none =>
            rw [hfound] at hbound
            cases hbound
        | some found =>
            rw [hfound] at hbound
            exact ⟨found, rfl, hbound⟩
      · exact ih hrest hentry

/-- A table is never identical to one of its own entries. -/
theorem not_identical_of_get? (value : Value) {entries : Table Value} {name : String}
    (hvalue : Table.get? entries name = some value) : (dict entries).identical value = false := by
  rw [Bool.eq_false_iff]
  intro hidentical
  cases value with
  | dict inner =>
      rw [identical, Bool.and_eq_true] at hidentical
      -- The entry would be a table with an entry of that name to which it is identical in turn.
      obtain ⟨found, hfound, hagain⟩ := identicalEntries_get? hidentical.2 hvalue
      have hsmaller := sizeOf_get?_lt hfound
      rw [not_identical_of_get? found hfound] at hagain
      cases hagain
  | _ => simp [identical] at hidentical
termination_by sizeOf value

end Value

namespace Validator

/-- The value of an entry after a run in which its name has come to mean something. -/
def overlaid (before now : Value) : Value :=
  if now.identical before then before else now

@[simp] theorem overlaid_self (value : Value) : overlaid value value = value := by
  simp [overlaid]

variable {scope : Scope} {entries : Table Value}

theorem rebound_cons (name : String) (before : Value) (rest : Table Value) :
    rebound scope ((name, before) :: rest) =
      match Table.get? scope name with
      | some now =>
          if now.identical before then rebound scope rest else (name, now) :: rebound scope rest
      | none => rebound scope rest := by
  unfold rebound
  rw [List.filterMap_cons]
  dsimp only
  cases Table.get? scope name with
  | none => rfl
  | some now => cases hidentical : now.identical before <;> simp [hidentical]

theorem keys_rebound_sublist :
    (Table.keys (rebound scope entries)).Sublist (Table.keys entries) := by
  induction entries with
  | nil => exact List.Sublist.refl []
  | cons entry rest ih =>
      obtain ⟨name, before⟩ := entry
      rw [rebound_cons, Table.keys_cons]
      split
      · split
        · exact ih.cons name
        · exact ih.cons_cons name
      · exact ih.cons name

theorem get?_rebound (hkeys : (Table.keys entries).Nodup) {name : String} {before now : Value}
    (hbefore : Table.get? entries name = some before)
    (hnow : Table.get? scope name = some now) :
    Table.get? (rebound scope entries) name =
      if now.identical before then none else some now := by
  induction entries with
  | nil => cases hbefore
  | cons entry rest ih =>
      obtain ⟨key, value⟩ := entry
      rw [Table.keys_cons, List.nodup_cons] at hkeys
      obtain ⟨hkey, hrest⟩ := hkeys
      rw [Table.get?_cons] at hbefore
      rw [rebound_cons]
      by_cases hname : key = name
      · subst hname
        rw [if_pos rfl, Option.some.injEq] at hbefore
        have habsent : Table.get? (rebound scope rest) key = none :=
          Table.get?_eq_none_iff.mpr fun hmem => hkey (keys_rebound_sublist.subset hmem)
        rw [hnow, hbefore]
        cases hidentical : now.identical before
        · simp [Table.get?_cons, hidentical]
        · simp [habsent, hidentical]
      · rw [if_neg hname] at hbefore
        rw [← ih hrest hbefore]
        split
        · split
          · rfl
          · rw [Table.get?_cons, if_neg hname]
        · rfl

/-- The table of the entries of an input as they are at the end of a run. -/
def overlay (scope : Scope) (entries : Table Value) : Table Value :=
  Table.insertAll entries (rebound scope entries)

theorem keys_overlay : Table.keys (overlay scope entries) = Table.keys entries :=
  Table.keys_insertAll _ fun _ hname => keys_rebound_sublist.subset hname

theorem get?_overlay (hkeys : (Table.keys entries).Nodup) {name : String} {before now : Value}
    (hbefore : Table.get? entries name = some before)
    (hnow : Table.get? scope name = some now) :
    Table.get? (overlay scope entries) name = some (overlaid before now) := by
  rw [overlay, Table.get?_insertAll _ (keys_rebound_sublist.nodup hkeys),
    get?_rebound hkeys hbefore hnow, hbefore, overlaid]
  split <;> rfl

/-- What a model validator finds under a name of its input at the beginning. -/
theorem get?_modelScope_of_entry (validator : Validator) (context : Table Value)
    (hkeys : (Table.keys entries).Nodup) {name : String} {before : Value}
    (hbefore : Table.get? entries name = some before) :
    Table.get? (validator.modelScope (.dict entries) context) name =
      some (if name = "data" then .dict entries else before) := by
  rw [validator.get?_modelScope context (.dict entries) hkeys, entriesOf, hbefore]
  split <;> rfl

variable {validator : Validator} {context : Table Value} {result : Value}

/-- A program that leaves `data` alone makes of its input the overlay of the final scope. -/
theorem callModel_eq_ok (hkeys : (Table.keys entries).Nodup)
    (hdata : ¬ validator.program.Binds "data") :
    validator.callModel (.dict entries) context = .ok result ↔
      ∃ final, validator.evaluator.run validator.program
          (validator.modelScope (.dict entries) context) = .ok final ∧
        .dict (overlay final entries) = result := by
  have hresult (final : Scope)
      (hrun : validator.evaluator.run validator.program
        (validator.modelScope (.dict entries) context) = .ok final) :
      reworked final (.dict entries) = .dict (overlay final entries) := by
    have hinput : Table.get? final "data" = some (.dict entries) := by
      rw [Evaluator.run_frame hdata hrun, validator.get?_modelScope context (.dict entries) hkeys,
        if_pos rfl]
    unfold reworked
    rw [hinput]
    rfl
  unfold callModel
  rw [bind_eq_ok]
  constructor
  · rintro ⟨final, hrun, hreworked⟩
    rw [hresult final hrun] at hreworked
    exact ⟨final, hrun, Except.ok.inj hreworked⟩
  · rintro ⟨final, hrun, rfl⟩
    exact ⟨final, hrun, congrArg Except.ok (hresult final hrun)⟩

/-- A model validator whose program leaves `data` alone answers a table with the same names in the
same order. An entry whose name the program does not bind stays as it was, and one whose name it
binds carries the value bound last. An entry called `data` is lost: the whole input takes its
place. So a program that binds none of the names of an input without such an entry gives the
input back. -/
theorem callModel_overlays (hkeys : (Table.keys entries).Nodup)
    (hdata : ¬ validator.program.Binds "data")
    (hcall : validator.callModel (.dict entries) context = .ok result) :
    ∃ final out, validator.evaluator.run validator.program
        (validator.modelScope (.dict entries) context) = .ok final ∧
      result = .dict out ∧ Table.keys out = Table.keys entries ∧
      (∀ name before, Table.get? entries name = some before → name ≠ "data" →
        (¬ validator.program.Binds name → Table.get? out name = some before) ∧
        (validator.program.Binds name → ∃ now, Table.get? final name = some now ∧
          Table.get? out name = some (overlaid before now))) ∧
      (∀ before, Table.get? entries "data" = some before →
        Table.get? out "data" = some (.dict entries) ∧ before ≠ .dict entries) ∧
      ((∀ name ∈ Table.keys entries, name ≠ "data" ∧ ¬ validator.program.Binds name) →
        out = entries) := by
  obtain ⟨final, hrun, rfl⟩ := (callModel_eq_ok hkeys hdata).mp hcall
  have hstart {name before} (hbefore : Table.get? entries name = some before) :=
    get?_modelScope_of_entry validator context hkeys hbefore
  have hunbound {name before} (hbefore : Table.get? entries name = some before)
      (hname : name ≠ "data") (hbinds : ¬ validator.program.Binds name) :
      Table.get? (overlay final entries) name = some before := by
    have hfinal := Evaluator.run_frame hbinds hrun
    rw [hstart hbefore, if_neg hname] at hfinal
    rw [get?_overlay hkeys hbefore hfinal, overlaid_self]
  refine ⟨final, overlay final entries, hrun, rfl, keys_overlay, ?_, ?_, ?_⟩
  · intro name before hbefore hname
    refine ⟨hunbound hbefore hname, fun _ => ?_⟩
    obtain ⟨now, hnow⟩ := Evaluator.run_bound (hstart hbefore) hrun
    exact ⟨now, hnow, get?_overlay hkeys hbefore hnow⟩
  · intro before hbefore
    have hfinal := Evaluator.run_frame hdata hrun
    rw [hstart hbefore, if_pos rfl] at hfinal
    constructor
    · rw [get?_overlay hkeys hbefore hfinal, overlaid, Value.not_identical_of_get? before hbefore]
      rfl
    · rintro rfl
      exact absurd (Value.sizeOf_get?_lt hbefore) (Nat.lt_irrefl _)
  · intro hnames
    refine Table.ext keys_overlay (by rwa [keys_overlay]) fun name => ?_
    cases hbefore : Table.get? entries name with
    | none =>
        rw [Table.get?_eq_none_iff] at hbefore ⊢
        rwa [keys_overlay]
    | some before =>
        obtain ⟨hname, hbinds⟩ := hnames name (Table.mem_keys_of_get? hbefore)
        exact hunbound hbefore hname hbinds

end Validator

/-- A request for a model validator that trims a name. -/
def trimRequest : ValidatorRequest :=
  .forModel "validate_person" "name = name.strip()" .before

/-- The validator that the request compiles to. -/
def trimValidator : Validator :=
  trimRequest.validator (.withBuiltins {} .restricted)
    [.assign "name" (.call (.attr (.var "name") "strip") [])]

theorem trimRequest_compile :
    trimRequest.compile (.withBuiltins {} .restricted) = .ok trimValidator := by
  have hsource : (Evaluator.withBuiltins {} .restricted).compile trimRequest.source =
      .ok trimValidator.program := by
    refine Evaluator.compile_of_scan rfl (by cbv) (by cbv)
      ⟨?final, ?scan, ?read⟩ rfl
    case scan =>
      cbv
      rfl
    case read => cbv
  exact ValidatorRequest.compile_of_source rfl hsource

/-- A person with an entry called `data`. -/
def personEntries : Table Value :=
  [("name", .str " Ada "), ("data", .int 1)]

/-- The name is trimmed, and the input takes the place of the other entry. -/
theorem trimValidator_overlays :
    trimRequest.compile (.withBuiltins {} .restricted) = .ok trimValidator ∧
      ∃ out, trimValidator.callModel (.dict personEntries) [] = .ok (.dict out) ∧
        Table.keys out = Table.keys personEntries ∧
        Table.get? out "name" = some (.str "Ada") ∧
        Table.get? out "data" = some (.dict personEntries) := by
  have hcall : trimValidator.callModel (.dict personEntries) [] =
      .ok (.dict [("name", .str "Ada"), ("data", .dict personEntries)]) := rfl
  have hdata : ¬ trimValidator.program.Binds "data" := by decide
  have hkeys : (Table.keys personEntries).Nodup := by decide
  obtain ⟨_, out, _, hout, hkeys, _, hwhole, _⟩ :=
    Validator.callModel_overlays hkeys hdata hcall
  obtain rfl := Value.dict.inj hout
  exact ⟨trimRequest_compile, _, hcall, hkeys, rfl, (hwhole _ rfl).1⟩

end SchemaGuard
