import SchemaGuard.Proofs.Source.Budget

/-! # Productions of the grammar

What the functions of the reader do with tokens that are of one form, one law for each form.
Each reading is followed with a budget that is large enough, so the laws say nothing of the
calls that a reading takes.
-/

namespace SchemaGuard.Parser

open Outcome

/-- A reading comes to a result with any budget that is large enough. -/
def Reaches {α : Type} (reading : Nat → Except Halt α) (a : α) : Prop :=
  ∃ enough, ∀ fuel, enough ≤ fuel → reading fuel = .ok a

namespace Reaches

variable {α β : Type} {a : α} {b : β}

theorem ok (a : α) : Reaches (fun _ => .ok a) a :=
  ⟨0, fun _ _ => rfl⟩

/-- A function that lowers its budget by a call. -/
theorem called {reading : Nat → Except Halt α}
    (hbody : Reaches (fun fuel => reading (fuel + 1)) a) : Reaches reading a := by
  obtain ⟨enough, hbody⟩ := hbody
  refine ⟨enough + 1, fun fuel hfuel => ?_⟩
  obtain ⟨fuel, rfl⟩ := Nat.exists_eq_add_of_le' hfuel
  exact hbody (fuel + enough) (Nat.le_add_left enough fuel)

theorem bind {first : Nat → Except Halt α} {next : Nat → α → Except Halt β}
    (hfirst : Reaches first a) (hnext : Reaches (fun fuel => next fuel a) b) :
    Reaches (fun fuel => first fuel >>= next fuel) b := by
  obtain ⟨enough, hfirst⟩ := hfirst
  obtain ⟨more, hnext⟩ := hnext
  refine ⟨max enough more, fun fuel hfuel => ?_⟩
  dsimp only
  rw [hfirst fuel (Nat.le_trans (Nat.le_max_left _ _) hfuel), ok_bind]
  exact hnext fuel (Nat.le_trans (Nat.le_max_right _ _) hfuel)

theorem enter {limits : ParseLimits} {depth : Nat} {next : Nat → Nat → Except Halt β}
    (hdepth : depth + 1 ≤ limits.maxDepth) (hnext : Reaches (fun fuel => next fuel (depth + 1)) b) :
    Reaches (fun fuel => Parser.enter limits depth >>= next fuel) b := by
  have henter : Reaches (fun _ => Parser.enter limits depth) (depth + 1) :=
    ⟨0, fun _ _ => if_pos hdepth⟩
  exact henter.bind hnext

end Reaches

variable {limits : ParseLimits} {depth line : Nat} {e left right : Expr}
  {tokens middle rest : List Lexeme} {read : Expr × List Lexeme}

/-! ## Expressions -/

theorem expression_plain (hdepth : depth + 1 ≤ limits.maxDepth)
    (hvalue : Reaches (fun fuel => chain limits fuel .disjunction (depth + 1) tokens) (e, rest))
    (hrest : current rest ≠ .ifWord) :
    Reaches (fun fuel => expression limits fuel depth tokens) (e, rest) := by
  refine .called ?_
  simp only [expression]
  refine .enter hdepth (hvalue.bind ?_)
  dsimp only
  split
  next hcurrent => exact absurd hcurrent hrest
  next => exact .ok _

theorem expression_cond {condition value other : Expr} {after : List Lexeme}
    (hdepth : depth + 1 ≤ limits.maxDepth)
    (hvalue : Reaches (fun fuel => chain limits fuel .disjunction (depth + 1) tokens)
      (value, ⟨.ifWord, line⟩ :: middle))
    (hcondition : Reaches (fun fuel => chain limits fuel .disjunction (depth + 1) middle)
      (condition, ⟨.elseWord, line⟩ :: after))
    (hother : Reaches (fun fuel => expression limits fuel (depth + 1) after) (other, rest)) :
    Reaches (fun fuel => expression limits fuel depth tokens)
      (.cond condition value other, rest) := by
  refine .called ?_
  simp only [expression]
  exact .enter hdepth (hvalue.bind (hcondition.bind (hother.bind (.ok _))))

/-! ## Operations of a level -/

section

variable {level : Level}

theorem chainFrom_done (left : Expr) (hrest : level.operator? (current rest) = none) :
    Reaches (fun fuel => chainFrom limits fuel level depth left rest) (left, rest) := by
  refine .called ?_
  simp only [chainFrom, hrest]
  exact .ok _

theorem chain_single
    (hoperand : Reaches (fun fuel => operand limits fuel level depth tokens) (e, rest))
    (hrest : level.operator? (current rest) = none) :
    Reaches (fun fuel => chain limits fuel level depth tokens) (e, rest) := by
  refine .called ?_
  simp only [chain]
  exact hoperand.bind (chainFrom_done e hrest)

theorem chain_operation {token : Token} {build : Expr → Expr → Expr}
    (hbuild : level.operator? token = some build)
    (hleft : Reaches (fun fuel => operand limits fuel level depth tokens)
      (left, ⟨token, line⟩ :: middle))
    (hright : Reaches (fun fuel => operand limits fuel level depth middle) (right, rest))
    (hrest : level.operator? (current rest) = none) :
    Reaches (fun fuel => chain limits fuel level depth tokens) (build left right, rest) := by
  refine .called ?_
  simp only [chain]
  refine hleft.bind (.called ?_)
  simp only [chainFrom, current_cons, hbuild, List.tail_cons]
  exact hright.bind (chainFrom_done _ hrest)

end

theorem operand_disjunction
    (hchain : Reaches (fun fuel => chain limits fuel .conjunction depth tokens) (e, rest)) :
    Reaches (fun fuel => operand limits fuel .disjunction depth tokens) (e, rest) := by
  refine .called ?_
  simpa only [operand] using hchain

theorem operand_conjunction
    (hnegation : Reaches (fun fuel => negation limits fuel depth tokens) (e, rest)) :
    Reaches (fun fuel => operand limits fuel .conjunction depth tokens) (e, rest) := by
  refine .called ?_
  simpa only [operand] using hnegation

theorem operand_sum
    (hchain : Reaches (fun fuel => chain limits fuel .term depth tokens) (e, rest)) :
    Reaches (fun fuel => operand limits fuel .sum depth tokens) (e, rest) := by
  refine .called ?_
  simpa only [operand] using hchain

theorem operand_term
    (hsigned : Reaches (fun fuel => signed limits fuel depth tokens) (e, rest)) :
    Reaches (fun fuel => operand limits fuel .term depth tokens) (e, rest) := by
  refine .called ?_
  simpa only [operand] using hsigned

/-! ## Negations and comparisons -/

theorem negation_not (hdepth : depth + 1 ≤ limits.maxDepth)
    (hinner : Reaches (fun fuel => negation limits fuel (depth + 1) tokens) (e, rest)) :
    Reaches (fun fuel => negation limits fuel depth (⟨.not, line⟩ :: tokens)) (.not e, rest) := by
  refine .called ?_
  simp only [negation, current_cons, List.tail_cons]
  exact .enter hdepth (hinner.bind (.ok _))

theorem comparisons_done (hrest : comparison? rest = none) :
    Reaches (fun fuel => comparisons limits fuel depth rest) ([], rest) := by
  refine .called ?_
  simp only [comparisons, hrest]
  exact .ok _

theorem comparisons_link {op : CompareOp} {links : List (CompareOp × Expr)} {after : List Lexeme}
    (hop : comparison? tokens = some (op, middle))
    (hright : Reaches (fun fuel => chain limits fuel .sum depth middle) (right, after))
    (hlinks : Reaches (fun fuel => comparisons limits fuel depth after) (links, rest)) :
    Reaches (fun fuel => comparisons limits fuel depth tokens) ((op, right) :: links, rest) := by
  refine .called ?_
  simp only [comparisons, hop]
  exact hright.bind (hlinks.bind (.ok _))

theorem negation_plain (hcurrent : current tokens ≠ .not)
    (hfirst : Reaches (fun fuel => chain limits fuel .sum depth tokens) (e, rest))
    (hrest : comparison? rest = none) :
    Reaches (fun fuel => negation limits fuel depth tokens) (e, rest) := by
  refine .called ?_
  simp only [negation]
  exact hfirst.bind ((comparisons_done hrest).bind (.ok _))

theorem negation_compare {first : Expr} {links : List (CompareOp × Expr)}
    (hcurrent : current tokens ≠ .not)
    (hfirst : Reaches (fun fuel => chain limits fuel .sum depth tokens) (first, middle))
    (hlinks : Reaches (fun fuel => comparisons limits fuel depth middle) (links, rest))
    (hne : links ≠ []) :
    Reaches (fun fuel => negation limits fuel depth tokens) (.compare first links, rest) := by
  obtain ⟨link, links, rfl⟩ := List.exists_cons_of_ne_nil hne
  refine .called ?_
  simp only [negation]
  exact hfirst.bind (hlinks.bind (.ok _))

/-! ## Signs and suffixes -/

theorem signed_minus (hdepth : depth + 1 ≤ limits.maxDepth)
    (hinner : Reaches (fun fuel => signed limits fuel (depth + 1) tokens) (e, rest)) :
    Reaches (fun fuel => signed limits fuel depth (⟨.minus, line⟩ :: tokens))
      (.negate e, rest) := by
  refine .called ?_
  simp only [signed, current_cons, List.tail_cons]
  exact .enter hdepth (hinner.bind (.ok _))

/-- What stands at the front, with everything that is attached to it. -/
def suffixed (limits : ParseLimits) (depth : Nat) (tokens : List Lexeme) (fuel : Nat) :
    Except Halt (Expr × List Lexeme) := do
  let (base, tokens) ← primary limits fuel depth tokens
  suffixes limits fuel depth base tokens

theorem signed_plain (hminus : current tokens ≠ .minus) (hplus : current tokens ≠ .plus)
    (hsuffixed : Reaches (suffixed limits depth tokens) read) :
    Reaches (fun fuel => signed limits fuel depth tokens) read := by
  refine .called ?_
  simp only [signed]
  exact hsuffixed

theorem suffixed_primary
    (hprimary : Reaches (fun fuel => primary limits fuel depth tokens) (e, rest))
    (hsuffixes : Reaches (fun fuel => suffixes limits fuel depth e rest) read) :
    Reaches (suffixed limits depth tokens) read :=
  hprimary.bind hsuffixes

theorem suffixes_done (hdot : current rest ≠ .dot) (hbracket : current rest ≠ .leftBracket)
    (hparen : current rest ≠ .leftParen) :
    Reaches (fun fuel => suffixes limits fuel depth e rest) (e, rest) := by
  refine .called ?_
  simp only [suffixes]
  exact .ok _

theorem suffixes_attr {name : String}
    (hmore : Reaches (fun fuel => suffixes limits fuel depth (.attr e name) rest) read) :
    Reaches (fun fuel => suffixes limits fuel depth e
      (⟨.dot, line⟩ :: ⟨.identifier name, line⟩ :: rest)) read := by
  refine .called ?_
  simp only [suffixes, current_cons, List.tail_cons, expectName]
  exact hmore

theorem suffixes_index {position : Expr}
    (hposition : Reaches (fun fuel => expression limits fuel depth tokens)
      (position, ⟨.rightBracket, line⟩ :: rest))
    (hmore : Reaches (fun fuel => suffixes limits fuel depth (.index e position) rest) read) :
    Reaches (fun fuel => suffixes limits fuel depth e (⟨.leftBracket, line⟩ :: tokens)) read := by
  refine .called ?_
  simp only [suffixes, current_cons, List.tail_cons]
  exact hposition.bind hmore

theorem suffixes_call {args : List Expr}
    (hargs : Reaches (fun fuel => items limits fuel .rightParen depth tokens) (args, rest))
    (hmore : Reaches (fun fuel => suffixes limits fuel depth (.call e args) rest) read) :
    Reaches (fun fuel => suffixes limits fuel depth e (⟨.leftParen, line⟩ :: tokens)) read := by
  refine .called ?_
  simp only [suffixes, current_cons, List.tail_cons]
  exact hargs.bind hmore

/-! ## Items and brackets -/

section

variable {close : Token} {list : List Expr}

theorem items_none :
    Reaches (fun fuel => items limits fuel close depth (⟨close, line⟩ :: rest)) ([], rest) := by
  refine .called ?_
  simp only [items, current_cons, if_true, List.tail_cons]
  exact .ok _

theorem items_last (hcurrent : current tokens ≠ close) (hclose : close ≠ .comma)
    (hitem : Reaches (fun fuel => expression limits fuel depth tokens)
      (e, ⟨close, line⟩ :: rest)) :
    Reaches (fun fuel => items limits fuel close depth tokens) ([e], rest) := by
  refine .called ?_
  simp only [items, if_neg hcurrent]
  refine hitem.bind ?_
  simp only [current_cons, if_neg hclose, if_true, List.tail_cons]
  exact .ok _

theorem items_more (hcurrent : current tokens ≠ close)
    (hitem : Reaches (fun fuel => expression limits fuel depth tokens)
      (e, ⟨.comma, line⟩ :: middle))
    (hmore : Reaches (fun fuel => items limits fuel close depth middle) (list, rest)) :
    Reaches (fun fuel => items limits fuel close depth tokens) (e :: list, rest) := by
  refine .called ?_
  simp only [items, if_neg hcurrent]
  refine hitem.bind ?_
  simp only [current_cons, if_true, List.tail_cons]
  exact hmore.bind (.ok _)

end

theorem primary_list {list : List Expr} (hdepth : depth + 1 ≤ limits.maxDepth)
    (hitems : Reaches (fun fuel => items limits fuel .rightBracket (depth + 1) tokens)
      (list, rest)) :
    Reaches (fun fuel => primary limits fuel depth (⟨.leftBracket, line⟩ :: tokens))
      (.list list, rest) := by
  refine .called ?_
  simp only [primary, current_cons, List.tail_cons]
  exact .enter hdepth (hitems.bind (.ok _))

theorem primary_parenthesised (hdepth : depth + 1 ≤ limits.maxDepth)
    (hcurrent : current tokens ≠ .rightParen)
    (hinner : Reaches (fun fuel => expression limits fuel (depth + 1) tokens)
      (e, ⟨.rightParen, line⟩ :: rest)) :
    Reaches (fun fuel => primary limits fuel depth (⟨.leftParen, line⟩ :: tokens)) (e, rest) := by
  refine .called ?_
  simp only [primary, current_cons, List.tail_cons]
  refine .enter hdepth (.called ?_)
  simp only [parenthesised, if_neg hcurrent]
  exact hinner.bind (.ok _)

theorem primary_str {s : String} (hrest : ∀ other, current rest ≠ .str other) :
    Reaches (fun fuel => primary limits fuel depth (⟨.str s, line⟩ :: rest)) (.str s, rest) := by
  have hstrings : adjacentStrings (⟨.str s, line⟩ :: rest) = (s, rest) := by
    have hnone : adjacentStrings rest = ("", rest) := by
      cases rest with
      | nil => rfl
      | cons lexeme rest =>
          rw [adjacentStrings]
          split
          next other hother => exact absurd hother (hrest other)
          next => rfl
    rw [adjacentStrings, hnone]
    simp
  refine .called ?_
  simp only [primary, current_cons, hstrings]
  exact .ok _

/-! ## A whole source -/

/-- The budget that the tokens of an expression are granted is large enough. -/
theorem wholeExpression_of_reaches
    (hexpression : Reaches (fun fuel => expression limits fuel 0 tokens) (e, rest))
    (hend : current (skipNewlines rest) = .eof) :
    wholeExpression limits (budget tokens) tokens = .ok e := by
  obtain ⟨enough, hexpression⟩ := hexpression
  have hleaves : Leaves tokens.length (expression limits (budget tokens) 0 tokens) :=
    expression_leaves _ _ _ (by unfold budget; omega)
  have hwider : Wider (· = .exhausted) limits limits enough :=
    ⟨.inl rfl, fun depth => Persists.refl _⟩
  have hpersists := hwider.expression (budget tokens) 0 tokens
  have hread := hpersists.eq fun halt hhalt hexhausted => hleaves.1 halt hhalt hexhausted
  rw [wholeExpression, ← hread]
  dsimp only at hexpression
  rw [hexpression _ (Nat.le_add_right _ _), ok_bind]
  exact if_pos hend

end SchemaGuard.Parser
