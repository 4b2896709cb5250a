import SchemaGuard.Proofs.Validator.Bindings
import SchemaGuard.Proofs.Validator.Blindness
import SchemaGuard.Proofs.Validator.ItemScreen

/-! # What the check of items leaves alone

The check of the items of a collection is meant to judge them and to leave the collection as it
is. The name of the field is a part of its text, so this is a condition on the program that the
text compiles to, and it holds of every name that can stand in a literal.
-/

namespace SchemaGuard

open Outcome

namespace Validator

/-- A validator that does not bind `value` answers with the value that it judges. -/
theorem callField_keeps {validator : Validator} (hvalue : ¬ validator.program.Binds "value")
    {value replaced : Value} {context : Table Value} {data : Value}
    (hcall : validator.callField value context data = .ok replaced) : replaced = value := by
  rw [callField_eq_run hvalue] at hcall
  obtain ⟨_, _, rfl⟩ := map_eq_ok.mp hcall
  rfl

end Validator

theorem ValidatorRequest.opening_ignoresRecord {request : ValidatorRequest} {opening : Program}
    (hopening : request.opening = .ok opening) : ¬ opening.Reads "info" := by
  unfold ValidatorRequest.opening at hopening
  split at hopening
  · rw [parse_refusalOfEmpty] at hopening
    cases hopening
    decide
  · cases hopening
    decide

namespace ItemCheck

/-- The check of the items of a field leaves the value of the field alone. -/
def KeepsValue (ev : Evaluator) (field : String) (item : ScalarType) : Prop :=
  ∀ program, ev.compile (itemCheck field item) = .ok program → ¬ program.Binds "value"

/-- The check of the items of a field does not ask for the record of its call. -/
def IgnoresRecord (ev : Evaluator) (field : String) (item : ScalarType) : Prop :=
  ∀ program, ev.compile (itemCheck field item) = .ok program → ¬ program.Reads "info"

variable {ev : Evaluator} {field : String} {body : List Char}

/-- A check that compiles compiles to its loop. -/
theorem eq_program_of_compile (hfield : Lexer.Quotes field.toList body) {item : ScalarType}
    {whole : Program} (hcompile : ev.compile (itemCheck field item) = .ok whole) :
    whole = program item (wrongItem body item) := by
  obtain ⟨_, hparse, _⟩ := Evaluator.compile_eq_ok.mp hcompile
  obtain ⟨line, hmem, hblank, hwidth⟩ := itemCheck_line field item
  obtain ⟨scanned, hscan, hfinish⟩ := itemCheck_scansTo hfield item 1 []
  obtain ⟨final, _, hfinal, hprogram⟩ := Program.parse_eq_ok.mp hparse
  rw [Text.dedent_eq hmem hblank hwidth] at hfinal
  -- The tokens of the text are known, and the parser reads the loop from them.
  cases hscan.symm.trans hfinal
  have hnewline := tokens_apart item (wrongItem body item) 1 .newline (by simp)
  rw [List.reverse_nil, List.nil_append] at hfinish
  rw [hfinish, Parser.InStep.skipNewlines_eq hnewline] at hprogram
  refine (program_tokens_eq ?_ hprogram).2
  simp [Parser.budget, tokens_length]

theorem keepsValue_of_quotes (hfield : Lexer.Quotes field.toList body) (item : ScalarType) :
    KeepsValue ev field item := by
  rintro _ hcompile hbinds
  rw [eq_program_of_compile hfield hcompile] at hbinds
  simp [Program.Binds, program_uses, Use.bound?] at hbinds

theorem ignoresRecord_of_quotes (hfield : Lexer.Quotes field.toList body) (item : ScalarType) :
    IgnoresRecord ev field item := by
  rintro _ hcompile hreads
  rw [eq_program_of_compile hfield hcompile] at hreads
  cases item <;> simp [Program.Reads, program_uses, ScalarType.name] at hreads

end ItemCheck

end SchemaGuard
