import SchemaGuard.Proofs.Program.Shadowing
import SchemaGuard.Proofs.Validator.CheckedList
import SchemaGuard.Proofs.Validator.Overlay

/-! # What the answer of a validator depends on

A field validator finds the input around its value in the record of its call and nowhere else,
so a program that does not read `info` answers alike in every input. A model validator finds
each entry of its input under a name, so a program that mentions neither the name of an entry
nor `data` and `info` makes the same of the other entries whether or not that entry is there.
-/

namespace SchemaGuard

open Outcome

/-- A program mentions a name when it reads or binds it somewhere. -/
def Program.Mentions (program : Program) (name : String) : Prop :=
  program.Reads name ∨ program.Binds name

instance (program : Program) (name : String) : Decidable (program.Reads name) :=
  inferInstanceAs (Decidable (.reads name ∈ program.uses))

instance (program : Program) (name : String) : Decidable (program.Mentions name) :=
  inferInstanceAs (Decidable (program.Reads name ∨ program.Binds name))

theorem Program.reads_append {first second : Program} {name : String} :
    Program.Reads (first ++ second) name ↔ first.Reads name ∨ second.Reads name := by
  unfold Program.Reads Program.uses
  rw [Statement.usesOfBlock_append, List.mem_append]

/-- Runs of a program from scopes that agree on all names that it reads end with the same failure,
or with scopes that agree wherever the first ones did. -/
theorem Evaluator.run_agrees (ev : Evaluator) {program : Program} {agreed : String → Prop}
    (hreads : ∀ name, program.Reads name → agreed name) {scope scope' : Scope}
    (hscope : ∀ name, agreed name → Table.get? scope name = Table.get? scope' name) :
    Agree (fun final final' => ∀ name, agreed name → Table.get? final name = Table.get? final' name)
      (ev.run program scope) (ev.run program scope') := by
  refine (scopeCoupling (Eq.refl ev.limits) agreed).run_coupled (fun use huse => ?_) hscope
  intro scope scope' hscope
  refine ⟨rfl, ?_⟩
  cases use with
  | reads name =>
      have hget := hscope name (hreads name huse)
      constructor
      · unfold Eval.resolve
        rw [hget]
      · unfold Eval.namesKind Table.contains
        rw [hget]
  | calls name | invokes name => exact fun _ => ⟨rfl, fun _ => rfl⟩
  | binds name | imports name | selects name => exact trivial

namespace Validator

variable {validator : Validator} {context : Table Value}

/-- A field validator that does not read the record of its call answers alike in every input. -/
theorem callField_anywhere (hinfo : ¬ validator.program.Reads "info") (value : Value)
    (context : Table Value) (data data' : Value) :
    validator.callField value context data = validator.callField value context data' := by
  have hreads (name : String) (hname : validator.program.Reads name) : name ≠ "info" := by
    rintro rfl
    exact hinfo hname
  have hscope (name : String) (hname : name ≠ "info") :
      Table.get? (validator.fieldScope value context data) name =
        Table.get? (validator.fieldScope value context data') name := by
    rw [get?_fieldScope, get?_fieldScope, get?_opening, get?_opening, if_neg hname, if_neg hname]
  have hrun := validator.evaluator.run_agrees hreads hscope
  refine Agree.eq (hrun.bind fun final final' hfinal => ?_)
  have hvalue : Table.get? final "value" = Table.get? final' "value" := hfinal "value" (by decide)
  rw [hvalue]
  exact rfl

/-! ## Inputs with one more entry -/

variable {entries entries' : Table Value} {extra : String}

/-- Two tables of distinct names that agree on every name but one. -/
structure AgreeBeside (extra : String) (entries entries' : Table Value) : Prop where
  nodup : (Table.keys entries).Nodup
  nodup' : (Table.keys entries').Nodup
  get?_eq : ∀ name, name ≠ extra → Table.get? entries name = Table.get? entries' name

theorem AgreeBeside.modelScope (hbeside : AgreeBeside extra entries entries') {name : String}
    (hextra : name ≠ extra) (hdata : name ≠ "data")
    (hinfo : name = "info" → name ∈ Table.keys entries) :
    Table.get? (validator.modelScope (.dict entries) context) name =
      Table.get? (validator.modelScope (.dict entries') context) name := by
  rw [get?_modelScope _ _ (.dict entries) hbeside.nodup,
    get?_modelScope _ _ (.dict entries') hbeside.nodup', if_neg hdata, if_neg hdata, entriesOf,
    entriesOf, ← hbeside.get?_eq name hextra, get?_opening, get?_opening]
  by_cases hname : name = "info"
  · -- An entry of the name hides the record of the call, in which the inputs differ.
    cases hvalue : Table.get? entries name with
    | none => exact absurd (hinfo hname) (Table.get?_eq_none_iff.mp hvalue)
    | some value => rfl
  · rw [if_neg hname, if_neg hname]

theorem AgreeBeside.overlay {final final' : Scope} (hbeside : AgreeBeside extra entries entries')
    {name : String} (hextra : name ≠ extra)
    (hfinal : name ∈ Table.keys entries → ∃ now, Table.get? final name = some now ∧
      Table.get? final' name = some now) :
    Table.get? (Validator.overlay final entries) name =
      Table.get? (Validator.overlay final' entries') name := by
  cases hbefore : Table.get? entries name with
  | none =>
      have hbefore' : Table.get? entries' name = none := by
        rw [← hbeside.get?_eq name hextra, hbefore]
      rw [Table.get?_eq_none_iff] at hbefore hbefore'
      rw [Table.get?_eq_none_iff.mpr (by rwa [keys_overlay]),
        Table.get?_eq_none_iff.mpr (by rwa [keys_overlay])]
  | some before =>
      have hbefore' : Table.get? entries' name = some before := by
        rw [← hbeside.get?_eq name hextra, hbefore]
      obtain ⟨now, hnow, hnow'⟩ := hfinal (Table.mem_keys_of_get? hbefore)
      rw [get?_overlay hbeside.nodup hbefore hnow, get?_overlay hbeside.nodup' hbefore' hnow']

/-- Two tables in which every name means the same but one, and but `data`. -/
def SameBeside (extra : String) (result result' : Value) : Prop :=
  ∃ out out', result = .dict out ∧ result' = .dict out' ∧
    ∀ name, name ≠ extra → name ≠ "data" → Table.get? out name = Table.get? out' name

/-- A model validator that mentions neither `data` nor `info` nor the name of an entry fails alike
with and without the entry, or it makes the same of all other entries. An entry called `data` is
replaced by the whole input, so it alone is not the same. -/
theorem callModel_beside (hbeside : AgreeBeside extra entries entries')
    (hdata : ¬ validator.program.Mentions "data") (hinfo : ¬ validator.program.Mentions "info")
    (hextra : ¬ validator.program.Mentions extra) :
    Agree (SameBeside extra) (validator.callModel (.dict entries) context)
      (validator.callModel (.dict entries') context) := by
  let agreed (name : String) : Prop :=
    name ≠ extra ∧ name ≠ "data" ∧ (name = "info" → name ∈ Table.keys entries)
  have hreads (name : String) (hname : validator.program.Reads name) : agreed name := by
    refine ⟨?_, ?_, ?_⟩
    · rintro rfl
      exact hextra (.inl hname)
    · rintro rfl
      exact hdata (.inl hname)
    · rintro rfl
      exact absurd (.inl hname) hinfo
  have hscope (name : String) (hname : agreed name) :
      Table.get? (validator.modelScope (.dict entries) context) name =
        Table.get? (validator.modelScope (.dict entries') context) name :=
    hbeside.modelScope hname.1 hname.2.1 hname.2.2
  have hagree := validator.evaluator.run_agrees hreads hscope
  have hbinds : ¬ validator.program.Binds "data" := fun hname => hdata (.inr hname)
  obtain ⟨failure, hrun, hrun'⟩ | ⟨final, final', hrun, hrun', hfinal⟩ := hagree.cases
  · unfold callModel
    rw [hrun, hrun']
    exact rfl
  · rw [(callModel_eq_ok hbeside.nodup hbinds).mpr ⟨final, hrun, rfl⟩,
      (callModel_eq_ok hbeside.nodup' hbinds).mpr ⟨final', hrun', rfl⟩]
    refine ⟨_, _, rfl, rfl, fun name hname hnamed => hbeside.overlay hname fun hmem => ?_⟩
    obtain ⟨before, hbefore⟩ := Table.exists_of_mem_keys hmem
    have hstart := get?_modelScope_of_entry validator context hbeside.nodup hbefore
    obtain ⟨now, hnow⟩ := Evaluator.run_bound hstart hrun
    exact ⟨now, hnow, by rw [← hfinal name ⟨hname, hnamed, fun _ => hmem⟩, hnow]⟩

end Validator

end SchemaGuard
