import SchemaGuard.Proofs.Model.Independence

/-! # Entries that nothing asks for

An input may hold entries that no field declares. They reach a model in two ways only: in the
record of the call of a validator, and under their own names in the scope of a validator of the
model. Where neither is looked at, an input with such an entry is judged like the input without
it.
-/

namespace SchemaGuard

open Outcome

variable {extra : String} {entries entries' : Table Value}

namespace ModelHeader

/-- A model whose validator, if it has one, mentions neither a name nor `data` and `info`. -/
def IgnoresEntry (header : ModelHeader) (extra : String) : Prop :=
  ∀ validator, header.validator = some validator → ¬ validator.program.Mentions "data" ∧
    ¬ validator.program.Mentions "info" ∧ ¬ validator.program.Mentions extra

/-- What is made of an input before its fields are judged is the same beside the entry. -/
theorem prepare_beside {header : ModelHeader} (hignores : header.IgnoresEntry extra)
    (hbeside : Validator.AgreeBeside extra entries entries') (tag : String) :
    Agree (fun prepared prepared' =>
        Validator.SameBeside extra prepared.1 prepared'.1 ∧ prepared.2 = prepared'.2)
      (header.prepare tag (.dict entries)) (header.prepare tag (.dict entries')) := by
  have hinput : Validator.SameBeside extra (.dict entries) (.dict entries') :=
    ⟨_, _, rfl, rfl, fun name hname _ => hbeside.get?_eq name hname⟩
  unfold prepare
  cases hvalidator : header.validatorAt true with
  | none => exact ⟨hinput, rfl⟩
  | some validator =>
      have hsome : header.validator = some validator := (Option.filter_eq_some_iff.mp hvalidator).1
      obtain ⟨hdata, hinfo, hextra⟩ := hignores validator hsome
      have hagree : Agree (Validator.SameBeside extra)
          (validator.callModel (.dict entries) header.context)
          (validator.callModel (.dict entries') header.context) :=
        Validator.callModel_beside hbeside hdata hinfo hextra
      obtain ⟨failure, hcall, hcall'⟩ | ⟨out, out', hcall, hcall', hsame⟩ := hagree.cases
      · simp only [hcall, hcall']
        cases validator.verdict failure with
        | ok message => exact ⟨hinput, rfl⟩
        | error refusal => exact rfl
      · simp only [hcall, hcall']
        exact ⟨hsame, rfl⟩

end ModelHeader

/-- A model that declares neither the name of an entry nor `data` makes the same pass with and
without the entry. -/
theorem Model.pass_beside {model : Model} (hextra : extra ∉ model.fieldNames)
    (hdata : "data" ∉ model.fieldNames) (hinfo : ∀ entry ∈ model.fields, entry.2.IgnoresRecord)
    (hignores : model.header.IgnoresEntry extra)
    (hbeside : Validator.AgreeBeside extra entries entries') (tag : String) :
    model.pass tag (.dict entries) = model.pass tag (.dict entries') := by
  rw [Model.pass_eq, Model.pass_eq]
  -- The prepared inputs differ in the entry and in `data` at most, and no field is called so.
  refine Agree.eq ((ModelHeader.prepare_beside hignores hbeside tag).bind ?_)
  rintro ⟨_, opening⟩ ⟨_, _⟩ ⟨⟨out, out', rfl, rfl, hsame⟩, rfl⟩
  have hjudged : judgements model.header.context (.dict out) out model.fields =
      judgements model.header.context (.dict out') out' model.fields := by
    refine judgements_congr fun entry hentry => ?_
    have hname : entry.1 ∈ model.fieldNames := List.mem_map_of_mem hentry
    have hne : entry.1 ≠ extra := fun heq => hextra (heq ▸ hname)
    have hnedata : entry.1 ≠ "data" := fun heq => hdata (heq ▸ hname)
    exact Field.judgeIn_congr (hinfo entry hentry) _ _ _ (hsame entry.1 hne hnedata)
  dsimp only [Model.passFrom]
  refine Agree.bind_eq hjudged fun judged => ?_
  cases model.header.conclude tag (opening.enterAll judged) with
  | ok pass => exact rfl
  | error failure => exact rfl

theorem Validator.agreeBeside_insert {before after : Table Value} {name : String}
    (hkeys : (Table.keys (before ++ after)).Nodup) (hnew : name ∉ Table.keys (before ++ after))
    (value : Value) : AgreeBeside name (before ++ after) (before ++ (name, value) :: after) where
  nodup := hkeys
  nodup' := by
    have hmiddle : Table.keys (before ++ (name, value) :: after) =
        Table.keys before ++ name :: Table.keys after := by
      simp [Table.keys]
    have hwhole : Table.keys (before ++ after) = Table.keys before ++ Table.keys after := by
      simp [Table.keys]
    rw [hwhole] at hkeys hnew
    rw [hmiddle, List.nodup_middle, List.nodup_cons]
    exact ⟨hnew, hkeys⟩
  get?_eq other hother := by
    rw [Table.get?_append, Table.get?_append, Table.get?_cons, if_neg (Ne.symm hother)]

/-- An entry whose name is neither declared by the model nor mentioned by its own validator makes no
difference, wherever it stands in the input. The model must not declare `data`, its own validator
must not mention `data` or `info`, and the validators of its fields must not read `info`, for by
these names the whole input can be reached. -/
theorem Document.unknown_entry_inert {ev : Evaluator} {document : Document} {model : Model}
    (hcompile : document.compile ev = .ok model) (hdata : "data" ∉ model.fieldNames)
    (hinfo : ∀ entry ∈ model.fields, entry.2.IgnoresRecord) {before after : Table Value}
    (hkeys : (Table.keys (before ++ after)).Nodup) {name : String}
    (hignores : model.header.IgnoresEntry name) (hunknown : name ∉ model.fieldNames)
    (hnew : name ∉ Table.keys (before ++ after)) (value : Value) :
    ∃ pass, model.run (.dict (before ++ after)) = .ok pass ∧
      model.run (.dict (before ++ (name, value) :: after)) = .ok pass := by
  obtain ⟨pass, hrun⟩ : ∃ pass, model.run (.dict (before ++ after)) = .ok pass :=
    Model.pass_ok model model.name _ (Document.compile_screened hcompile)
  refine ⟨pass, hrun, ?_⟩
  rw [← hrun]
  exact (Model.pass_beside hunknown hdata hinfo hignores
    (Validator.agreeBeside_insert hkeys hnew value) model.name).symm

/-- The document of a member with a validator that trims the nickname first. -/
def trimmedDocument : Document :=
  { memberDocument with validator := some (.source nicknameRequest.source) }

/-- The model that the document compiles to. -/
def trimmedModel : Model :=
  ⟨⟨"Member", "1", "", [], some nicknameValidator⟩, memberFields⟩

theorem nicknameRequest_compile :
    nicknameRequest.compile defaultEvaluator = .ok nicknameValidator :=
  ValidatorRequest.compile_of_source rfl nicknameSource_compile

theorem trimmedDocument_compile : trimmedDocument.compile defaultEvaluator = .ok trimmedModel := by
  have hname : trimmedDocument.validatorName = "validate_member" := by cbv
  have hrequest : Property.modelRequest? trimmedDocument.validatorName
      trimmedDocument.validator = some nicknameRequest := by
    rw [hname]
    rfl
  have hvalidator : Property.modelValidator defaultEvaluator trimmedDocument.validatorName
      trimmedDocument.validator = .ok (some nicknameValidator) := by
    rw [Property.modelValidator_eq, hrequest]
    exact map_eq_ok.mpr ⟨_, nicknameRequest_compile, rfl⟩
  exact Document.compile_eq_ok.mpr ⟨by decide, _, _, memberFields_compile, hvalidator, rfl⟩

/-- Even under the name that the shared context bears in the scope of the validator, an entry makes
no difference to a member. -/
theorem trimmedDocument_unknown_entry :
    ∃ pass, trimmedModel.run (.dict [("nickname", .str " Ann "), ("age", .int 20)]) = .ok pass ∧
      trimmedModel.run (.dict
        [("nickname", .str " Ann "), ("context", .null), ("age", .int 20)]) = .ok pass := by
  have hinfo : ∀ entry ∈ trimmedModel.fields, entry.2.IgnoresRecord := by
    have hage : ¬ ageValidator.program.Reads "info" := by decide
    simpa [trimmedModel, memberFields, Field.IgnoresRecord, Field.validator?] using hage
  have hignores : trimmedModel.header.IgnoresEntry "context" := by
    rintro _ ⟨⟩
    decide
  have hkeys : (Table.keys ([("nickname", Value.str " Ann ")] ++ [("age", .int 20)])).Nodup := by
    decide
  exact Document.unknown_entry_inert trimmedDocument_compile (by decide) hinfo hkeys hignores
    (by decide) (by decide) .null

end SchemaGuard
