import SchemaGuard.Expr.Parser
import SchemaGuard.Proofs.Outcome

/-! # Reading under wider limits

The limits and the budget under which a source is read serve to refuse it and for nothing
else. So what is read under some limits is read under wider ones too, and so is every
refusal that does not speak of the limits.
-/

namespace SchemaGuard

open Outcome

namespace Parser

/-- Limits, and a budget larger by an amount, under which reading stops for no reason that would
not stop it before, reasons of a kind apart. -/
structure Wider (kind : Halt → Prop) (limits limits' : ParseLimits) (extra : Nat) : Prop where
  exhausted : kind .exhausted ∨ extra = 0
  enter : ∀ depth, Persists kind (enter limits depth) (enter limits' depth)

namespace Wider

variable {kind : Halt → Prop} {limits limits' : ParseLimits} {extra : Nat}

/-- Where the budget is used up, either that is a reason of the kind or there is no other budget. -/
theorem spent (hwider : Wider kind limits limits' extra) {α : Type} {second : Except Halt α}
    (hsecond : extra = 0 → second = .error .exhausted) :
    Persists kind (.error .exhausted) second := by
  obtain hkind | hextra := hwider.exhausted
  · exact Persists.error hkind second
  · rw [hsecond hextra]
    exact Persists.refl _

/-! ## Expressions -/

mutual

theorem expression (hwider : Wider kind limits limits' extra) :
    ∀ (fuel depth : Nat) (tokens : List Lexeme),
      Persists kind (expression limits fuel depth tokens)
        (expression limits' (extra + fuel) depth tokens)
  | 0, depth, tokens => by
      rw [Parser.expression]
      exact hwider.spent fun hextra => by rw [hextra, Nat.add_zero, Parser.expression]
  | fuel + 1, depth, tokens => by
      rw [Parser.expression, ← Nat.add_assoc, Parser.expression]
      refine (hwider.enter depth).bind fun depth => ?_
      refine (hwider.chain fuel .disjunction depth tokens).bind fun (value, tokens) => ?_
      dsimp only
      split
      · refine (hwider.chain fuel .disjunction depth tokens.tail).bind
          fun (condition, tokens) => ?_
        refine (Persists.refl _).bind fun tokens => ?_
        exact (hwider.expression fuel depth tokens).bind fun _ => Persists.refl _
      · exact Persists.refl _

theorem chain (hwider : Wider kind limits limits' extra) :
    ∀ (fuel : Nat) (level : Level) (depth : Nat) (tokens : List Lexeme),
      Persists kind (chain limits fuel level depth tokens)
        (chain limits' (extra + fuel) level depth tokens)
  | 0, level, depth, tokens => by
      rw [Parser.chain]
      exact hwider.spent fun hextra => by rw [hextra, Nat.add_zero, Parser.chain]
  | fuel + 1, level, depth, tokens => by
      rw [Parser.chain, ← Nat.add_assoc, Parser.chain]
      exact (hwider.operand fuel level depth tokens).bind fun (left, tokens) =>
        hwider.chainFrom fuel level depth left tokens

theorem chainFrom (hwider : Wider kind limits limits' extra) :
    ∀ (fuel : Nat) (level : Level) (depth : Nat) (left : Expr) (tokens : List Lexeme),
      Persists kind (chainFrom limits fuel level depth left tokens)
        (chainFrom limits' (extra + fuel) level depth left tokens)
  | 0, level, depth, left, tokens => by
      rw [Parser.chainFrom]
      exact hwider.spent fun hextra => by rw [hextra, Nat.add_zero, Parser.chainFrom]
  | fuel + 1, level, depth, left, tokens => by
      rw [Parser.chainFrom, ← Nat.add_assoc, Parser.chainFrom]
      split
      · exact (hwider.operand fuel level depth tokens.tail).bind fun (right, tokens) =>
          hwider.chainFrom fuel level depth _ tokens
      · exact Persists.refl _

theorem operand (hwider : Wider kind limits limits' extra) :
    ∀ (fuel : Nat) (level : Level) (depth : Nat) (tokens : List Lexeme),
      Persists kind (operand limits fuel level depth tokens)
        (operand limits' (extra + fuel) level depth tokens)
  | 0, level, depth, tokens => by
      rw [Parser.operand]
      exact hwider.spent fun hextra => by rw [hextra, Nat.add_zero, Parser.operand]
  | fuel + 1, .disjunction, depth, tokens => by
      rw [Parser.operand, ← Nat.add_assoc, Parser.operand]
      exact hwider.chain fuel .conjunction depth tokens
  | fuel + 1, .conjunction, depth, tokens => by
      rw [Parser.operand, ← Nat.add_assoc, Parser.operand]
      exact hwider.negation fuel depth tokens
  | fuel + 1, .sum, depth, tokens => by
      rw [Parser.operand, ← Nat.add_assoc, Parser.operand]
      exact hwider.chain fuel .term depth tokens
  | fuel + 1, .term, depth, tokens => by
      rw [Parser.operand, ← Nat.add_assoc, Parser.operand]
      exact hwider.signed fuel depth tokens

theorem negation (hwider : Wider kind limits limits' extra) :
    ∀ (fuel depth : Nat) (tokens : List Lexeme),
      Persists kind (negation limits fuel depth tokens)
        (negation limits' (extra + fuel) depth tokens)
  | 0, depth, tokens => by
      rw [Parser.negation]
      exact hwider.spent fun hextra => by rw [hextra, Nat.add_zero, Parser.negation]
  | fuel + 1, depth, tokens => by
      rw [Parser.negation, ← Nat.add_assoc, Parser.negation]
      split
      · refine (hwider.enter depth).bind fun depth => ?_
        exact (hwider.negation fuel depth tokens.tail).bind fun _ => Persists.refl _
      · refine (hwider.chain fuel .sum depth tokens).bind fun (first, tokens) => ?_
        exact (hwider.comparisons fuel depth tokens).bind fun _ => Persists.refl _

theorem comparisons (hwider : Wider kind limits limits' extra) :
    ∀ (fuel depth : Nat) (tokens : List Lexeme),
      Persists kind (comparisons limits fuel depth tokens)
        (comparisons limits' (extra + fuel) depth tokens)
  | 0, depth, tokens => by
      rw [Parser.comparisons]
      exact hwider.spent fun hextra => by rw [hextra, Nat.add_zero, Parser.comparisons]
  | fuel + 1, depth, tokens => by
      rw [Parser.comparisons, ← Nat.add_assoc, Parser.comparisons]
      split
      · refine (hwider.chain fuel .sum depth _).bind fun (right, tokens) => ?_
        exact (hwider.comparisons fuel depth tokens).bind fun _ => Persists.refl _
      · exact Persists.refl _

theorem signed (hwider : Wider kind limits limits' extra) :
    ∀ (fuel depth : Nat) (tokens : List Lexeme),
      Persists kind (signed limits fuel depth tokens)
        (signed limits' (extra + fuel) depth tokens)
  | 0, depth, tokens => by
      rw [Parser.signed]
      exact hwider.spent fun hextra => by rw [hextra, Nat.add_zero, Parser.signed]
  | fuel + 1, depth, tokens => by
      rw [Parser.signed, ← Nat.add_assoc, Parser.signed]
      split
      · refine (hwider.enter depth).bind fun depth => ?_
        exact (hwider.signed fuel depth tokens.tail).bind fun _ => Persists.refl _
      · exact (hwider.enter depth).bind fun depth => hwider.signed fuel depth tokens.tail
      · exact (hwider.primary fuel depth tokens).bind fun (base, tokens) =>
          hwider.suffixes fuel depth base tokens

theorem suffixes (hwider : Wider kind limits limits' extra) :
    ∀ (fuel depth : Nat) (base : Expr) (tokens : List Lexeme),
      Persists kind (suffixes limits fuel depth base tokens)
        (suffixes limits' (extra + fuel) depth base tokens)
  | 0, depth, base, tokens => by
      rw [Parser.suffixes]
      exact hwider.spent fun hextra => by rw [hextra, Nat.add_zero, Parser.suffixes]
  | fuel + 1, depth, base, tokens => by
      rw [Parser.suffixes, ← Nat.add_assoc, Parser.suffixes]
      split
      · exact (Persists.refl _).bind fun (name, tokens) =>
          hwider.suffixes fuel depth (.attr base name) tokens
      · refine (hwider.expression fuel depth tokens.tail).bind fun (position, tokens) => ?_
        exact (Persists.refl _).bind fun tokens =>
          hwider.suffixes fuel depth (.index base position) tokens
      · exact (hwider.items fuel .rightParen depth tokens.tail).bind fun (args, tokens) =>
          hwider.suffixes fuel depth (.call base args) tokens
      · exact Persists.refl _

theorem items (hwider : Wider kind limits limits' extra) :
    ∀ (fuel : Nat) (close : Token) (depth : Nat) (tokens : List Lexeme),
      Persists kind (items limits fuel close depth tokens)
        (items limits' (extra + fuel) close depth tokens)
  | 0, close, depth, tokens => by
      rw [Parser.items]
      exact hwider.spent fun hextra => by rw [hextra, Nat.add_zero, Parser.items]
  | fuel + 1, close, depth, tokens => by
      rw [Parser.items, ← Nat.add_assoc, Parser.items]
      split
      · exact Persists.refl _
      · refine (hwider.expression fuel depth tokens).bind fun (item, tokens) => ?_
        dsimp only
        split
        · exact (hwider.items fuel close depth tokens.tail).bind fun _ => Persists.refl _
        · exact Persists.refl _

theorem primary (hwider : Wider kind limits limits' extra) :
    ∀ (fuel depth : Nat) (tokens : List Lexeme),
      Persists kind (primary limits fuel depth tokens)
        (primary limits' (extra + fuel) depth tokens)
  | 0, depth, tokens => by
      rw [Parser.primary]
      exact hwider.spent fun hextra => by rw [hextra, Nat.add_zero, Parser.primary]
  | fuel + 1, depth, tokens => by
      rw [Parser.primary, ← Nat.add_assoc, Parser.primary]
      split
      case h_8 =>
        exact (hwider.enter depth).bind fun depth =>
          hwider.parenthesised fuel depth tokens.tail
      case h_9 =>
        refine (hwider.enter depth).bind fun depth => ?_
        exact (hwider.items fuel .rightBracket depth tokens.tail).bind fun _ => Persists.refl _
      all_goals exact Persists.refl _

theorem parenthesised (hwider : Wider kind limits limits' extra) :
    ∀ (fuel depth : Nat) (tokens : List Lexeme),
      Persists kind (parenthesised limits fuel depth tokens)
        (parenthesised limits' (extra + fuel) depth tokens)
  | 0, depth, tokens => by
      rw [Parser.parenthesised]
      exact hwider.spent fun hextra => by rw [hextra, Nat.add_zero, Parser.parenthesised]
  | fuel + 1, depth, tokens => by
      rw [Parser.parenthesised, ← Nat.add_assoc, Parser.parenthesised]
      split
      · exact Persists.refl _
      · refine (hwider.expression fuel depth tokens).bind fun (first, tokens) => ?_
        dsimp only
        split
        · exact Persists.refl _
        · exact (hwider.items fuel .rightParen depth tokens.tail).bind fun _ => Persists.refl _
        · exact Persists.refl _

end

/-! ## Statements -/

theorem dottedName (hwider : Wider kind limits limits' extra) :
    ∀ (fuel : Nat) (tokens : List Lexeme),
      Persists kind (dottedName fuel tokens) (dottedName (extra + fuel) tokens)
  | 0, tokens => by
      rw [Parser.dottedName]
      exact hwider.spent fun hextra => by rw [hextra, Nat.add_zero, Parser.dottedName]
  | fuel + 1, tokens => by
      rw [Parser.dottedName, ← Nat.add_assoc, Parser.dottedName]
      refine (Persists.refl _).bind fun (name, tokens) => ?_
      dsimp only
      split
      · exact (hwider.dottedName fuel tokens.tail).bind fun _ => Persists.refl _
      · exact Persists.refl _

theorem imports (hwider : Wider kind limits limits' extra) :
    ∀ (fuel : Nat) (tokens : List Lexeme),
      Persists kind (imports fuel tokens) (imports (extra + fuel) tokens)
  | 0, tokens => by
      rw [Parser.imports]
      exact hwider.spent fun hextra => by rw [hextra, Nat.add_zero, Parser.imports]
  | fuel + 1, tokens => by
      rw [Parser.imports, ← Nat.add_assoc, Parser.imports]
      refine (hwider.dottedName fuel tokens).bind fun (path, tokens) => ?_
      dsimp only
      split
      · exact (hwider.imports fuel tokens.tail).bind fun _ => Persists.refl _
      · exact Persists.refl _

theorem raised (hwider : Wider kind limits limits' extra) (fuel depth : Nat)
    (tokens : List Lexeme) :
    Persists kind (raised limits fuel depth tokens)
      (raised limits' (extra + fuel) depth tokens) := by
  unfold Parser.raised
  split
  case h_5 =>
    refine (Persists.refl _).bind fun (name, tokens) => ?_
    dsimp only
    split
    · split
      · exact Persists.refl _
      · exact (hwider.expression fuel depth tokens.tail).bind fun _ => Persists.refl _
    · exact Persists.refl _
  all_goals exact Persists.refl _

theorem asserted (hwider : Wider kind limits limits' extra) (fuel depth : Nat)
    (tokens : List Lexeme) :
    Persists kind (asserted limits fuel depth tokens)
      (asserted limits' (extra + fuel) depth tokens) := by
  unfold Parser.asserted
  refine (hwider.expression fuel depth tokens).bind fun (condition, tokens) => ?_
  dsimp only
  split
  · exact (hwider.expression fuel depth tokens.tail).bind fun _ => Persists.refl _
  · exact Persists.refl _

theorem assignment (hwider : Wider kind limits limits' extra) (fuel depth : Nat)
    (tokens : List Lexeme) :
    Persists kind (assignment limits fuel depth tokens)
      (assignment limits' (extra + fuel) depth tokens) := by
  unfold Parser.assignment
  refine (hwider.expression fuel depth tokens).bind fun (e, tokens) => ?_
  dsimp only
  split
  · split
    · exact (hwider.expression fuel depth tokens.tail).bind fun _ => Persists.refl _
    · exact Persists.refl _
  · exact Persists.refl _

theorem simple (hwider : Wider kind limits limits' extra) (fuel depth : Nat)
    (tokens : List Lexeme) :
    Persists kind (simple limits fuel depth tokens)
      (simple limits' (extra + fuel) depth tokens) := by
  unfold Parser.simple
  split
  · exact Persists.refl _
  · exact (hwider.raised fuel depth tokens.tail).map _
  · exact (hwider.asserted fuel depth tokens.tail).map _
  · exact hwider.imports fuel tokens.tail
  · exact (hwider.assignment fuel depth tokens).map _

theorem simpleLine (hwider : Wider kind limits limits' extra) :
    ∀ (fuel depth : Nat) (tokens : List Lexeme),
      Persists kind (simpleLine limits fuel depth tokens)
        (simpleLine limits' (extra + fuel) depth tokens)
  | 0, depth, tokens => by
      rw [Parser.simpleLine]
      exact hwider.spent fun hextra => by rw [hextra, Nat.add_zero, Parser.simpleLine]
  | fuel + 1, depth, tokens => by
      rw [Parser.simpleLine, ← Nat.add_assoc, Parser.simpleLine]
      refine (hwider.simple fuel depth tokens).bind fun (first, tokens) => ?_
      dsimp only
      split
      case h_4 =>
        split
        case h_3 =>
          exact (hwider.simpleLine fuel depth tokens.tail).bind fun _ => Persists.refl _
        all_goals exact Persists.refl _
      all_goals exact Persists.refl _

mutual

theorem statement (hwider : Wider kind limits limits' extra) :
    ∀ (fuel depth : Nat) (tokens : List Lexeme),
      Persists kind (statement limits fuel depth tokens)
        (statement limits' (extra + fuel) depth tokens)
  | 0, depth, tokens => by
      rw [Parser.statement]
      exact hwider.spent fun hextra => by rw [hextra, Nat.add_zero, Parser.statement]
  | fuel + 1, depth, tokens => by
      rw [Parser.statement, ← Nat.add_assoc, Parser.statement]
      split
      · refine (hwider.expression fuel depth tokens.tail).bind fun (condition, tokens) => ?_
        refine (hwider.suite fuel depth tokens).bind fun (body, tokens) => ?_
        exact (hwider.alternatives fuel depth tokens).bind fun _ => Persists.refl _
      · refine (Persists.refl _).bind fun (name, tokens) => ?_
        refine (Persists.refl _).bind fun tokens => ?_
        refine (hwider.expression fuel depth tokens).bind fun (iterable, tokens) => ?_
        exact (hwider.suite fuel depth tokens).bind fun _ => Persists.refl _
      · exact hwider.simpleLine fuel depth tokens

theorem alternatives (hwider : Wider kind limits limits' extra) :
    ∀ (fuel depth : Nat) (tokens : List Lexeme),
      Persists kind (alternatives limits fuel depth tokens)
        (alternatives limits' (extra + fuel) depth tokens)
  | 0, depth, tokens => by
      rw [Parser.alternatives]
      exact hwider.spent fun hextra => by rw [hextra, Nat.add_zero, Parser.alternatives]
  | fuel + 1, depth, tokens => by
      rw [Parser.alternatives, ← Nat.add_assoc, Parser.alternatives]
      split
      · refine (hwider.expression fuel depth tokens.tail).bind fun (condition, tokens) => ?_
        refine (hwider.suite fuel depth tokens).bind fun (body, tokens) => ?_
        exact (hwider.alternatives fuel depth tokens).bind fun _ => Persists.refl _
      · exact (hwider.suite fuel depth tokens.tail).bind fun _ => Persists.refl _
      · exact Persists.refl _

theorem suite (hwider : Wider kind limits limits' extra) :
    ∀ (fuel depth : Nat) (tokens : List Lexeme),
      Persists kind (suite limits fuel depth tokens)
        (suite limits' (extra + fuel) depth tokens)
  | 0, depth, tokens => by
      rw [Parser.suite]
      exact hwider.spent fun hextra => by rw [hextra, Nat.add_zero, Parser.suite]
  | fuel + 1, depth, tokens => by
      rw [Parser.suite, ← Nat.add_assoc, Parser.suite]
      refine (Persists.refl _).bind fun tokens => ?_
      split
      · refine (Persists.refl _).bind fun tokens => ?_
        exact (hwider.enter depth).bind fun depth => hwider.block fuel depth tokens
      · exact hwider.simpleLine fuel depth tokens

theorem block (hwider : Wider kind limits limits' extra) :
    ∀ (fuel depth : Nat) (tokens : List Lexeme),
      Persists kind (block limits fuel depth tokens)
        (block limits' (extra + fuel) depth tokens)
  | 0, depth, tokens => by
      rw [Parser.block]
      exact hwider.spent fun hextra => by rw [hextra, Nat.add_zero, Parser.block]
  | fuel + 1, depth, tokens => by
      rw [Parser.block, ← Nat.add_assoc, Parser.block]
      split
      · exact Persists.refl _
      · exact Persists.refl _
      · refine (hwider.statement fuel depth tokens).bind fun (first, tokens) => ?_
        exact (hwider.block fuel depth (skipNewlines tokens)).bind fun _ => Persists.refl _

end

theorem program (hwider : Wider kind limits limits' extra) :
    ∀ (fuel : Nat) (tokens : List Lexeme),
      Persists kind (program limits fuel tokens) (program limits' (extra + fuel) tokens)
  | 0, tokens => by
      rw [Parser.program]
      exact hwider.spent fun hextra => by rw [hextra, Nat.add_zero, Parser.program]
  | fuel + 1, tokens => by
      rw [Parser.program, ← Nat.add_assoc, Parser.program]
      split
      · exact Persists.refl _
      · refine (hwider.statement fuel 0 tokens).bind fun (first, tokens) => ?_
        exact (hwider.program fuel (skipNewlines tokens)).bind fun _ => Persists.refl _

end Wider

end Parser

/-! ## Sources -/

/-- A refusal that speaks of a limit. -/
def ParseError.OfLimits : ParseError → Prop
  | .tooDeep _ _ | .tooLong _ _ => True
  | _ => False

namespace Parser

/-- A reason to stop that speaks of a limit. The budget is none. -/
def Halt.OfLimits : Halt → Prop
  | .exhausted => False
  | .refused error => error.OfLimits

variable {limits limits' : ParseLimits}

theorem enter_persists (hdepth : limits.maxDepth ≤ limits'.maxDepth) (depth : Nat) :
    Persists Halt.OfLimits (enter limits depth) (enter limits' depth) := by
  unfold enter
  split
  next hle =>
    rw [if_pos (Nat.le_trans hle hdepth)]
    exact Persists.refl _
  next => exact Persists.error trivial _

theorem wider_of_le (hdepth : limits.maxDepth ≤ limits'.maxDepth) :
    Wider Halt.OfLimits limits limits' 0 :=
  ⟨.inr rfl, enter_persists hdepth⟩

theorem tokens_persists (hlength : limits.maxLength ≤ limits'.maxLength) (source : List Char) :
    Persists ParseError.OfLimits (tokens limits source) (tokens limits' source) := by
  unfold tokens
  dsimp only
  split
  next => exact Persists.error trivial _
  next hle =>
    rw [if_neg (fun hlt => hle (Nat.lt_of_le_of_lt hlength hlt))]
    exact Persists.refl _

theorem settle_persists {α : Type} {first second : Except Halt α}
    (hfirst : Persists Halt.OfLimits first second) :
    Persists ParseError.OfLimits (settle first) (settle second) := by
  obtain rfl | ⟨halt, hhalt, rfl⟩ := hfirst
  · exact Persists.refl _
  · cases halt with
    | exhausted => exact hhalt.elim
    | refused error =>
        have herror : error.OfLimits := hhalt
        exact Persists.error herror _

end Parser

/-- Under wider limits a source is the same program, or refused with the same error, unless it was
refused for a limit. -/
theorem Program.parse_persists {limits limits' : ParseLimits}
    (hdepth : limits.maxDepth ≤ limits'.maxDepth) (hlength : limits.maxLength ≤ limits'.maxLength)
    (source : String) :
    Persists ParseError.OfLimits (Program.parse limits source) (Program.parse limits' source) := by
  refine (Parser.tokens_persists hlength _).bind fun tokens => ?_
  have hread := (Parser.wider_of_le hdepth).program (Parser.budget tokens)
    (Parser.skipNewlines tokens)
  rw [Nat.zero_add] at hread
  exact Parser.settle_persists hread

end SchemaGuard
