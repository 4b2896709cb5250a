import SchemaGuard.Expr.Parser
import SchemaGuard.Proofs.Outcome

/-! # Reading tokens before different ends

Where the tokens of a program stand before an end that closes its blocks and its lines, the
program is read in the same way whatever the end is, as long as the end begins with nothing
that could continue a statement. Reading keeps two lists of tokens in step, down to the
brackets and the blocks that are open; so what follows a program is read after it, at the
top level.
-/

namespace SchemaGuard

open Outcome

namespace Token

/-- Whether a token stands within a line. -/
def isInline : Token → Bool
  | newline | indent | dedent | eof => false
  | _ => true

/-- The number of open brackets after a token. -/
def bracketsAfter (count : Nat) : Token → Nat
  | leftParen | leftBracket => count + 1
  | rightParen | rightBracket => count - 1
  | _ => count

end Token

namespace Parser

@[simp] theorem current_cons (lexeme : Lexeme) (rest : List Lexeme) :
    current (lexeme :: rest) = lexeme.token := rfl

/-! ## Tokens in step -/

/-- Tokens that do not continue the statement before them. -/
def Apart (tokens : List Lexeme) : Prop :=
  ∀ token ∈ [Token.newline, .indent, .elifWord, .elseWord], current tokens ≠ token

/-- Two ends before which the same tokens stand, and the number of brackets that are open there. -/
structure Ends where
  brackets : Nat
  first : List Lexeme
  second : List Lexeme
  first_apart : Apart first
  second_apart : Apart second

/-- Two lists hold the same tokens, on whatever lines, before two ends. The indices tell whether
one of the tokens has to come next, and how many brackets and blocks are open; at the ends no
block is open, and no line. -/
inductive InStep (ends : Ends) : Bool → Nat → Nat → List Lexeme → List Lexeme → Prop
  | done : InStep ends false ends.brackets 0 ends.first ends.second
  | inline {within : Bool} {brackets blocks line line' : Nat} {token : Token}
      {tokens tokens' : List Lexeme} (htoken : token.isInline = true)
      (hrest : InStep ends true (token.bracketsAfter brackets) blocks tokens tokens') :
      InStep ends within brackets blocks (⟨token, line⟩ :: tokens) (⟨token, line'⟩ :: tokens')
  | newline {within : Bool} {brackets blocks line line' : Nat} {tokens tokens' : List Lexeme}
      (hrest : InStep ends false brackets blocks tokens tokens') :
      InStep ends within brackets blocks (⟨.newline, line⟩ :: tokens) (⟨.newline, line'⟩ :: tokens')
  | indent {within : Bool} {brackets blocks line line' : Nat} {tokens tokens' : List Lexeme}
      (hrest : InStep ends false brackets (blocks + 1) tokens tokens') :
      InStep ends within brackets blocks (⟨.indent, line⟩ :: tokens) (⟨.indent, line'⟩ :: tokens')
  | dedent {within : Bool} {brackets blocks line line' : Nat} {tokens tokens' : List Lexeme}
      (hrest : InStep ends false brackets blocks tokens tokens') :
      InStep ends within brackets (blocks + 1) (⟨.dedent, line⟩ :: tokens)
        (⟨.dedent, line'⟩ :: tokens')

namespace InStep

variable {ends : Ends} {within : Bool} {brackets blocks : Nat} {tokens tokens' : List Lexeme}

theorem current_eq (htokens : InStep ends true brackets blocks tokens tokens') :
    current tokens' = current tokens := by
  cases htokens <;> rfl

theorem anywhere (htokens : InStep ends true brackets blocks tokens tokens') :
    InStep ends within brackets blocks tokens tokens' := by
  cases htokens with
  | inline htoken hrest => exact .inline htoken hrest
  | newline hrest => exact .newline hrest
  | indent hrest => exact .indent hrest
  | dedent hrest => exact .dedent hrest

/-- In an open block there are further tokens, at least those that close it. -/
theorem within_block (htokens : InStep ends within brackets (blocks + 1) tokens tokens') :
    InStep ends true brackets (blocks + 1) tokens tokens' := by
  cases htokens with
  | inline htoken hrest => exact .inline htoken hrest
  | newline hrest => exact .newline hrest
  | indent hrest => exact .indent hrest
  | dedent hrest => exact .dedent hrest

/-- Before the ends, or at them. -/
theorem within_or_done (htokens : InStep ends within brackets blocks tokens tokens') :
    InStep ends true brackets blocks tokens tokens' ∨
      brackets = ends.brackets ∧ blocks = 0 ∧ tokens = ends.first ∧ tokens' = ends.second := by
  cases htokens with
  | done => exact .inr ⟨rfl, rfl, rfl, rfl⟩
  | inline htoken hrest => exact .inl (.inline htoken hrest)
  | newline hrest => exact .inl (.newline hrest)
  | indent hrest => exact .inl (.indent hrest)
  | dedent hrest => exact .inl (.dedent hrest)

theorem current_ne_eof (htokens : InStep ends true brackets blocks tokens tokens') :
    current tokens ≠ .eof := by
  cases htokens with
  | @inline _ _ _ _ _ token _ _ htoken _ =>
      rintro rfl
      cases htoken
  | _ => exact Token.noConfusion

/-- After a token within a line another one comes. -/
theorem tail {token : Token} (htokens : InStep ends true brackets blocks tokens tokens')
    (hcurrent : current tokens = token) (htoken : token.isInline = true) :
    InStep ends true (token.bracketsAfter brackets) blocks tokens.tail tokens'.tail := by
  subst hcurrent
  cases htokens with
  | inline _ hrest => exact hrest
  | _ => cases htoken

/-- The sign of an operator stands within a line and is no bracket. -/
theorem tail_operator {level : Level} {build : Expr → Expr → Expr}
    (htokens : InStep ends true brackets blocks tokens tokens')
    (hbuild : level.operator? (current tokens) = some build) :
    InStep ends true brackets blocks tokens.tail tokens'.tail := by
  cases hcurrent : current tokens <;> rw [hcurrent] at hbuild <;> first
    | exact htokens.tail hcurrent rfl
    | (cases level <;> cases hbuild)

theorem tail_newline (htokens : InStep ends true brackets blocks tokens tokens')
    (hcurrent : current tokens = .newline) :
    InStep ends false brackets blocks tokens.tail tokens'.tail := by
  cases htokens with
  | newline hrest => exact hrest
  | inline htoken _ =>
      cases hcurrent
      cases htoken
  | _ => cases hcurrent

theorem tail_indent (htokens : InStep ends true brackets blocks tokens tokens')
    (hcurrent : current tokens = .indent) :
    InStep ends false brackets (blocks + 1) tokens.tail tokens'.tail := by
  cases htokens with
  | indent hrest => exact hrest
  | inline htoken _ =>
      cases hcurrent
      cases htoken
  | _ => cases hcurrent

theorem tail_dedent (htokens : InStep ends true brackets (blocks + 1) tokens tokens')
    (hcurrent : current tokens = .dedent) :
    InStep ends false brackets blocks tokens.tail tokens'.tail := by
  cases htokens with
  | dedent hrest => exact hrest
  | inline htoken _ =>
      cases hcurrent
      cases htoken
  | _ => cases hcurrent

theorem skipNewlines_eq {tokens : List Lexeme} (hcurrent : current tokens ≠ .newline) :
    Parser.skipNewlines tokens = tokens := by
  cases tokens with
  | nil => rfl
  | cons lexeme rest => exact if_neg hcurrent

theorem skipNewlines (htokens : InStep ends within brackets blocks tokens tokens') :
    InStep ends false brackets blocks (Parser.skipNewlines tokens)
      (Parser.skipNewlines tokens') := by
  induction htokens with
  | done =>
      rw [skipNewlines_eq (ends.first_apart .newline (by simp)),
        skipNewlines_eq (ends.second_apart .newline (by simp))]
      exact .done
  | @inline _ _ _ _ _ token _ _ htoken hrest _ =>
      have hne : ∀ line rest, current (⟨token, line⟩ :: rest) ≠ .newline := by
        rintro _ _ rfl
        cases htoken
      rw [skipNewlines_eq (hne _ _), skipNewlines_eq (hne _ _)]
      exact .inline htoken hrest
  | newline _ ih => exact ih
  | indent hrest _ => exact .indent hrest
  | dedent hrest _ => exact .dedent hrest

end InStep

/-! ## What is read -/

/-- The same is read, and what follows it is in step. -/
def Ends.Read {α : Type} (ends : Ends) (within : Bool) (brackets blocks : Nat)
    (first second : α × List Lexeme) : Prop :=
  first.1 = second.1 ∧ InStep ends within brackets blocks first.2 second.2

section

variable {limits : ParseLimits} {ends : Ends} {within within' : Bool}
  {brackets brackets' blocks blocks' extra : Nat} {tokens tokens' : List Lexeme}

theorem read_ok {α : Type} {a : α}
    (htokens : InStep ends within brackets blocks tokens tokens') :
    Carries (ends.Read within brackets blocks) (.ok (a, tokens) : Except Halt _)
      (.ok (a, tokens')) :=
  Carries.ok ⟨rfl, htokens⟩

theorem read_bind {α β : Type} {first second : Except Halt (α × List Lexeme)}
    {next next' : α × List Lexeme → Except Halt (β × List Lexeme)}
    (hfirst : Carries (ends.Read within brackets blocks) first second)
    (hnext : ∀ a tokens tokens', InStep ends within brackets blocks tokens tokens' →
      Carries (ends.Read within' brackets' blocks') (next (a, tokens)) (next' (a, tokens'))) :
    Carries (ends.Read within' brackets' blocks') (first >>= next) (second >>= next') := by
  refine hfirst.bind ?_
  rintro ⟨a, tokens⟩ ⟨_, tokens'⟩ ⟨rfl, htokens⟩
  exact hnext a tokens tokens' htokens

theorem expect_inStep {token : Token} (htokens : InStep ends true brackets blocks tokens tokens')
    (htoken : token.isInline = true) :
    Carries (InStep ends true (token.bracketsAfter brackets) blocks) (expect token tokens)
      (expect token tokens') := by
  unfold expect
  rw [htokens.current_eq]
  split
  next hcurrent => exact Carries.ok (htokens.tail hcurrent htoken)
  next => exact Carries.error _ _

/-- A block begins where the tokens in step go on; none begins at the ends. -/
theorem expect_indent (htokens : InStep ends false brackets blocks tokens tokens') :
    Carries (InStep ends false brackets (blocks + 1)) (expect .indent tokens)
      (expect .indent tokens') := by
  obtain htokens | ⟨rfl, rfl, rfl, rfl⟩ := htokens.within_or_done
  · unfold expect
    rw [htokens.current_eq]
    split
    next hcurrent => exact Carries.ok (htokens.tail_indent hcurrent)
    next => exact Carries.error _ _
  · have hcurrent := ends.first_apart .indent (by simp)
    rw [expect, if_neg hcurrent]
    exact Carries.error _ _

theorem expectName_inStep (htokens : InStep ends true brackets blocks tokens tokens') :
    Carries (ends.Read true brackets blocks) (expectName tokens) (expectName tokens') := by
  unfold expectName
  rw [htokens.current_eq]
  split
  next name hcurrent => exact read_ok (htokens.tail hcurrent rfl)
  next => exact Carries.error _ _

theorem comparison?_inStep (htokens : InStep ends true brackets blocks tokens tokens') :
    Option.Rel (ends.Read true brackets blocks) (comparison? tokens) (comparison? tokens') := by
  cases htokens with
  | @inline _ _ _ _ _ token rest rest' htoken hrest =>
      simp only [comparison?, current_cons, List.tail_cons, hrest.current_eq]
      split
      -- Two signs of the comparison are words that another word may follow.
      case h_8 hnext => exact .some ⟨rfl, hrest.tail hnext rfl⟩
      case h_9 hnext => exact .some ⟨rfl, hrest.tail hnext rfl⟩
      case h_11 => exact .none
      all_goals exact .some ⟨rfl, hrest⟩
  | newline _ => exact .none
  | indent _ => exact .none
  | dedent _ => exact .none

theorem adjacentStrings_inStep (htokens : InStep ends true brackets blocks tokens tokens') :
    ends.Read true brackets blocks (adjacentStrings tokens) (adjacentStrings tokens') := by
  induction tokens generalizing brackets tokens' with
  | nil => cases htokens
  | cons lexeme rest ih =>
      cases htokens with
      | @inline _ _ _ _ _ token _ rest' htoken hrest =>
          simp only [adjacentStrings]
          split
          · obtain ⟨hmore, htokens⟩ := ih hrest
            exact ⟨by simp only [hmore], htokens⟩
          · exact ⟨rfl, .inline htoken hrest⟩
      | newline hrest => exact ⟨rfl, .newline hrest⟩
      | indent hrest => exact ⟨rfl, .indent hrest⟩
      | dedent hrest => exact ⟨rfl, .dedent hrest⟩

/-! ## Expressions -/

mutual

theorem expression_inStep : ∀ (fuel depth : Nat) {brackets blocks : Nat}
    {tokens tokens' : List Lexeme}, InStep ends true brackets blocks tokens tokens' →
      Carries (ends.Read true brackets blocks) (expression limits fuel depth tokens)
        (expression limits (extra + fuel) depth tokens')
  | 0, _, _, _, _, _, _ => by
      rw [expression]
      exact Carries.error _ _
  | fuel + 1, depth, _, _, _, _, htokens => by
      rw [expression, ← Nat.add_assoc, expression]
      refine Carries.bind_same fun depth => ?_
      refine read_bind (chain_inStep fuel .disjunction depth htokens)
        fun value tokens tokens' htokens => ?_
      simp only [htokens.current_eq]
      split
      next hcurrent =>
        refine read_bind (chain_inStep fuel .disjunction depth (htokens.tail hcurrent rfl))
          fun condition tokens tokens' htokens => ?_
        refine (expect_inStep htokens rfl).bind fun tokens tokens' htokens => ?_
        exact read_bind (expression_inStep fuel depth htokens)
          fun other tokens tokens' htokens => read_ok htokens
      next => exact read_ok htokens

theorem chain_inStep : ∀ (fuel : Nat) (level : Level) (depth : Nat) {brackets blocks : Nat}
    {tokens tokens' : List Lexeme}, InStep ends true brackets blocks tokens tokens' →
      Carries (ends.Read true brackets blocks) (chain limits fuel level depth tokens)
        (chain limits (extra + fuel) level depth tokens')
  | 0, _, _, _, _, _, _, _ => by
      rw [chain]
      exact Carries.error _ _
  | fuel + 1, level, depth, _, _, _, _, htokens => by
      rw [chain, ← Nat.add_assoc, chain]
      exact read_bind (operand_inStep fuel level depth htokens)
        fun left tokens tokens' htokens => chainFrom_inStep fuel level depth left htokens

theorem chainFrom_inStep : ∀ (fuel : Nat) (level : Level) (depth : Nat) (left : Expr)
    {brackets blocks : Nat} {tokens tokens' : List Lexeme},
      InStep ends true brackets blocks tokens tokens' →
      Carries (ends.Read true brackets blocks) (chainFrom limits fuel level depth left tokens)
        (chainFrom limits (extra + fuel) level depth left tokens')
  | 0, _, _, _, _, _, _, _, _ => by
      rw [chainFrom]
      exact Carries.error _ _
  | fuel + 1, level, depth, left, _, _, _, _, htokens => by
      rw [chainFrom, ← Nat.add_assoc, chainFrom, htokens.current_eq]
      split
      next build hbuild =>
        have htail := htokens.tail_operator hbuild
        exact read_bind (operand_inStep fuel level depth htail)
          fun right tokens tokens' htokens =>
            chainFrom_inStep fuel level depth (build left right) htokens
      next => exact read_ok htokens

theorem operand_inStep : ∀ (fuel : Nat) (level : Level) (depth : Nat) {brackets blocks : Nat}
    {tokens tokens' : List Lexeme}, InStep ends true brackets blocks tokens tokens' →
      Carries (ends.Read true brackets blocks) (operand limits fuel level depth tokens)
        (operand limits (extra + fuel) level depth tokens')
  | 0, _, _, _, _, _, _, _ => by
      rw [operand]
      exact Carries.error _ _
  | fuel + 1, .disjunction, depth, _, _, _, _, htokens => by
      rw [operand, ← Nat.add_assoc, operand]
      exact chain_inStep fuel .conjunction depth htokens
  | fuel + 1, .conjunction, depth, _, _, _, _, htokens => by
      rw [operand, ← Nat.add_assoc, operand]
      exact negation_inStep fuel depth htokens
  | fuel + 1, .sum, depth, _, _, _, _, htokens => by
      rw [operand, ← Nat.add_assoc, operand]
      exact chain_inStep fuel .term depth htokens
  | fuel + 1, .term, depth, _, _, _, _, htokens => by
      rw [operand, ← Nat.add_assoc, operand]
      exact signed_inStep fuel depth htokens

theorem negation_inStep : ∀ (fuel depth : Nat) {brackets blocks : Nat}
    {tokens tokens' : List Lexeme}, InStep ends true brackets blocks tokens tokens' →
      Carries (ends.Read true brackets blocks) (negation limits fuel depth tokens)
        (negation limits (extra + fuel) depth tokens')
  | 0, _, _, _, _, _, _ => by
      rw [negation]
      exact Carries.error _ _
  | fuel + 1, depth, _, _, _, _, htokens => by
      rw [negation, ← Nat.add_assoc, negation, htokens.current_eq]
      split
      next hcurrent =>
        refine Carries.bind_same fun depth => ?_
        exact read_bind (negation_inStep fuel depth (htokens.tail hcurrent rfl))
          fun inner tokens tokens' htokens => read_ok htokens
      next =>
        refine read_bind (chain_inStep fuel .sum depth htokens)
          fun first tokens tokens' htokens => ?_
        refine read_bind (comparisons_inStep fuel depth htokens)
          fun links tokens tokens' htokens => ?_
        cases links with
        | nil => exact read_ok htokens
        | cons link links => exact read_ok htokens

theorem comparisons_inStep : ∀ (fuel depth : Nat) {brackets blocks : Nat}
    {tokens tokens' : List Lexeme}, InStep ends true brackets blocks tokens tokens' →
      Carries (ends.Read true brackets blocks) (comparisons limits fuel depth tokens)
        (comparisons limits (extra + fuel) depth tokens')
  | 0, _, _, _, _, _, _ => by
      rw [comparisons]
      exact Carries.error _ _
  | fuel + 1, depth, _, _, tokens, tokens', htokens => by
      rw [comparisons, ← Nat.add_assoc, comparisons]
      have hcompare := comparison?_inStep htokens
      generalize comparison? tokens = link, comparison? tokens' = link' at hcompare ⊢
      cases hcompare with
      | none => exact read_ok htokens
      | @some first second hlink =>
          obtain ⟨op, tokens⟩ := first
          obtain ⟨_, tokens'⟩ := second
          obtain ⟨rfl, htokens⟩ := hlink
          refine read_bind (chain_inStep fuel .sum depth htokens)
            fun right tokens tokens' htokens => ?_
          exact read_bind (comparisons_inStep fuel depth htokens)
            fun links tokens tokens' htokens => read_ok htokens

theorem signed_inStep : ∀ (fuel depth : Nat) {brackets blocks : Nat}
    {tokens tokens' : List Lexeme}, InStep ends true brackets blocks tokens tokens' →
      Carries (ends.Read true brackets blocks) (signed limits fuel depth tokens)
        (signed limits (extra + fuel) depth tokens')
  | 0, _, _, _, _, _, _ => by
      rw [signed]
      exact Carries.error _ _
  | fuel + 1, depth, _, _, _, _, htokens => by
      rw [signed, ← Nat.add_assoc, signed, htokens.current_eq]
      split
      next hcurrent =>
        refine Carries.bind_same fun depth => ?_
        exact read_bind (signed_inStep fuel depth (htokens.tail hcurrent rfl))
          fun inner tokens tokens' htokens => read_ok htokens
      next hcurrent =>
        exact Carries.bind_same fun depth =>
          signed_inStep fuel depth (htokens.tail hcurrent rfl)
      next =>
        exact read_bind (primary_inStep fuel depth htokens)
          fun base tokens tokens' htokens => suffixes_inStep fuel depth base htokens

theorem suffixes_inStep : ∀ (fuel depth : Nat) (base : Expr) {brackets blocks : Nat}
    {tokens tokens' : List Lexeme}, InStep ends true brackets blocks tokens tokens' →
      Carries (ends.Read true brackets blocks) (suffixes limits fuel depth base tokens)
        (suffixes limits (extra + fuel) depth base tokens')
  | 0, _, _, _, _, _, _, _ => by
      rw [suffixes]
      exact Carries.error _ _
  | fuel + 1, depth, base, _, _, _, _, htokens => by
      rw [suffixes, ← Nat.add_assoc, suffixes, htokens.current_eq]
      split
      next hcurrent =>
        exact read_bind (expectName_inStep (htokens.tail hcurrent rfl))
          fun name tokens tokens' htokens => suffixes_inStep fuel depth (.attr base name) htokens
      next hcurrent =>
        refine read_bind (expression_inStep fuel depth (htokens.tail hcurrent rfl))
          fun position tokens tokens' htokens => ?_
        exact (expect_inStep htokens rfl).bind fun tokens tokens' htokens =>
          suffixes_inStep fuel depth (.index base position) htokens
      next hcurrent =>
        exact read_bind (items_inStep fuel depth (.inl rfl) (htokens.tail hcurrent rfl))
          fun args tokens tokens' htokens => suffixes_inStep fuel depth (.call base args) htokens
      next => exact read_ok htokens

/-- The closing token of a list of expressions closes the bracket that is open there. -/
theorem items_inStep : ∀ (fuel depth : Nat) {close : Token} {brackets blocks : Nat}
    {tokens tokens' : List Lexeme}, close = .rightParen ∨ close = .rightBracket →
      InStep ends true (brackets + 1) blocks tokens tokens' →
      Carries (ends.Read true brackets blocks) (items limits fuel close depth tokens)
        (items limits (extra + fuel) close depth tokens')
  | 0, _, _, _, _, _, _, _, _ => by
      rw [items]
      exact Carries.error _ _
  | fuel + 1, depth, close, brackets, blocks, _, _, hclose, htokens => by
      have hclosed : ∀ {tokens tokens' : List Lexeme}, current tokens = close →
          InStep ends true (brackets + 1) blocks tokens tokens' →
          InStep ends true brackets blocks tokens.tail tokens'.tail := by
        intro tokens tokens' hcurrent htokens
        obtain rfl | rfl := hclose
        · exact htokens.tail hcurrent rfl
        · exact htokens.tail hcurrent rfl
      rw [items, ← Nat.add_assoc, items, htokens.current_eq]
      split
      next hcurrent => exact read_ok (hclosed hcurrent htokens)
      next =>
        refine read_bind (expression_inStep fuel depth htokens)
          fun item tokens tokens' htokens => ?_
        simp only [htokens.current_eq]
        split
        next hcurrent =>
          exact read_bind (items_inStep fuel depth hclose (htokens.tail hcurrent rfl))
            fun rest tokens tokens' htokens => read_ok htokens
        next =>
          split
          next hcurrent => exact read_ok (hclosed hcurrent htokens)
          next => exact Carries.error _ _

theorem primary_inStep : ∀ (fuel depth : Nat) {brackets blocks : Nat}
    {tokens tokens' : List Lexeme}, InStep ends true brackets blocks tokens tokens' →
      Carries (ends.Read true brackets blocks) (primary limits fuel depth tokens)
        (primary limits (extra + fuel) depth tokens')
  | 0, _, _, _, _, _, _ => by
      rw [primary]
      exact Carries.error _ _
  | fuel + 1, depth, _, _, _, _, htokens => by
      rw [primary, ← Nat.add_assoc, primary, htokens.current_eq]
      split
      case h_5 =>
        have hstrings := adjacentStrings_inStep htokens
        exact Carries.ok ⟨congrArg Expr.str hstrings.1, hstrings.2⟩
      case h_8 hcurrent =>
        exact Carries.bind_same fun depth =>
          parenthesised_inStep fuel depth (htokens.tail hcurrent rfl)
      case h_9 hcurrent =>
        refine Carries.bind_same fun depth => ?_
        exact read_bind (items_inStep fuel depth (.inr rfl) (htokens.tail hcurrent rfl))
          fun list tokens tokens' htokens => read_ok htokens
      case h_10 => exact Carries.error _ _
      -- The others are a single token each.
      all_goals
        next hcurrent => exact read_ok (htokens.tail hcurrent rfl)

theorem parenthesised_inStep : ∀ (fuel depth : Nat) {brackets blocks : Nat}
    {tokens tokens' : List Lexeme}, InStep ends true (brackets + 1) blocks tokens tokens' →
      Carries (ends.Read true brackets blocks) (parenthesised limits fuel depth tokens)
        (parenthesised limits (extra + fuel) depth tokens')
  | 0, _, _, _, _, _, _ => by
      rw [parenthesised]
      exact Carries.error _ _
  | fuel + 1, depth, _, _, _, _, htokens => by
      rw [parenthesised, ← Nat.add_assoc, parenthesised, htokens.current_eq]
      split
      next hcurrent => exact read_ok (htokens.tail hcurrent rfl)
      next =>
        refine read_bind (expression_inStep fuel depth htokens)
          fun first tokens tokens' htokens => ?_
        simp only [htokens.current_eq]
        split
        next hcurrent => exact read_ok (htokens.tail hcurrent rfl)
        next hcurrent =>
          exact read_bind (items_inStep fuel depth (.inl rfl) (htokens.tail hcurrent rfl))
            fun rest tokens tokens' htokens => read_ok htokens
        next => exact Carries.error _ _

end

/-! ## Simple statements -/

theorem dottedName_inStep : ∀ (fuel : Nat) {tokens tokens' : List Lexeme},
    InStep ends true brackets blocks tokens tokens' →
      Carries (ends.Read true brackets blocks) (dottedName fuel tokens)
        (dottedName (extra + fuel) tokens')
  | 0, _, _, _ => by
      rw [dottedName]
      exact Carries.error _ _
  | fuel + 1, _, _, htokens => by
      rw [dottedName, ← Nat.add_assoc, dottedName]
      refine read_bind (expectName_inStep htokens) fun name tokens tokens' htokens => ?_
      simp only [htokens.current_eq]
      split
      next hcurrent =>
        exact read_bind (dottedName_inStep fuel (htokens.tail hcurrent rfl))
          fun rest tokens tokens' htokens => read_ok htokens
      next => exact read_ok htokens

theorem imports_inStep : ∀ (fuel : Nat) {tokens tokens' : List Lexeme},
    InStep ends true brackets blocks tokens tokens' →
      Carries (ends.Read true brackets blocks) (imports fuel tokens)
        (imports (extra + fuel) tokens')
  | 0, _, _, _ => by
      rw [imports]
      exact Carries.error _ _
  | fuel + 1, _, _, htokens => by
      rw [imports, ← Nat.add_assoc, imports]
      refine read_bind (dottedName_inStep fuel htokens) fun path tokens tokens' htokens => ?_
      simp only [htokens.current_eq]
      split
      next hcurrent =>
        exact read_bind (imports_inStep fuel (htokens.tail hcurrent rfl))
          fun rest tokens tokens' htokens => read_ok htokens
      next => exact read_ok htokens

theorem raised_inStep (fuel depth : Nat)
    (htokens : InStep ends true brackets blocks tokens tokens') :
    Carries (ends.Read true brackets blocks) (raised limits fuel depth tokens)
      (raised limits (extra + fuel) depth tokens') := by
  unfold raised
  rw [htokens.current_eq]
  split
  case h_5 =>
    refine read_bind (expectName_inStep htokens) fun kind tokens tokens' htokens => ?_
    simp only [htokens.current_eq]
    split
    next hcurrent =>
      have hinside := htokens.tail hcurrent rfl
      simp only [hinside.current_eq]
      split
      next hcurrent => exact read_ok (hinside.tail hcurrent rfl)
      next =>
        refine read_bind (expression_inStep fuel depth hinside)
          fun message tokens tokens' htokens => ?_
        simp only [htokens.current_eq]
        split
        next hcurrent =>
          exact (expect_inStep (htokens.tail hcurrent rfl) rfl).bind
            fun tokens tokens' htokens => read_ok htokens
        next =>
          exact (expect_inStep htokens rfl).bind fun tokens tokens' htokens => read_ok htokens
    next => exact read_ok htokens
  all_goals exact read_ok htokens

theorem asserted_inStep (fuel depth : Nat)
    (htokens : InStep ends true brackets blocks tokens tokens') :
    Carries (ends.Read true brackets blocks) (asserted limits fuel depth tokens)
      (asserted limits (extra + fuel) depth tokens') := by
  unfold asserted
  refine read_bind (expression_inStep fuel depth htokens)
    fun condition tokens tokens' htokens => ?_
  simp only [htokens.current_eq]
  split
  next hcurrent =>
    exact read_bind (expression_inStep fuel depth (htokens.tail hcurrent rfl))
      fun message tokens tokens' htokens => read_ok htokens
  next => exact read_ok htokens

theorem assignment_inStep (fuel depth : Nat)
    (htokens : InStep ends true brackets blocks tokens tokens') :
    Carries (ends.Read true brackets blocks) (assignment limits fuel depth tokens)
      (assignment limits (extra + fuel) depth tokens') := by
  unfold assignment
  refine read_bind (expression_inStep fuel depth htokens) fun e tokens tokens' htokens => ?_
  simp only [htokens.current_eq]
  split
  next hcurrent =>
    split
    · exact read_bind (expression_inStep fuel depth (htokens.tail hcurrent rfl))
        fun value tokens tokens' htokens => read_ok htokens
    · exact Carries.error _ _
  next => exact read_ok htokens

theorem simple_inStep (fuel depth : Nat)
    (htokens : InStep ends true brackets blocks tokens tokens') :
    Carries (ends.Read true brackets blocks) (simple limits fuel depth tokens)
      (simple limits (extra + fuel) depth tokens') := by
  have hsingle : ∀ read read' : Statement × List Lexeme, ends.Read true brackets blocks read read' →
      ends.Read true brackets blocks ([read.1], read.2) ([read'.1], read'.2) := by
    rintro ⟨statement, tokens⟩ ⟨_, tokens'⟩ ⟨rfl, htokens⟩
    exact ⟨rfl, htokens⟩
  unfold simple
  rw [htokens.current_eq]
  split
  next hcurrent => exact read_ok (htokens.tail hcurrent rfl)
  next hcurrent => exact (raised_inStep fuel depth (htokens.tail hcurrent rfl)).map hsingle
  next hcurrent => exact (asserted_inStep fuel depth (htokens.tail hcurrent rfl)).map hsingle
  next hcurrent => exact imports_inStep fuel (htokens.tail hcurrent rfl)
  next => exact (assignment_inStep fuel depth htokens).map hsingle

/-- A line of statements ends with a line end or before the end of a block. -/
theorem simpleLine_inStep : ∀ (fuel depth : Nat) {tokens tokens' : List Lexeme},
    InStep ends true brackets blocks tokens tokens' →
      Carries (ends.Read false brackets blocks) (simpleLine limits fuel depth tokens)
        (simpleLine limits (extra + fuel) depth tokens')
  | 0, _, _, _, _ => by
      rw [simpleLine]
      exact Carries.error _ _
  | fuel + 1, depth, _, _, htokens => by
      rw [simpleLine, ← Nat.add_assoc, simpleLine]
      refine read_bind (simple_inStep fuel depth htokens) fun first tokens tokens' htokens => ?_
      simp only [htokens.current_eq]
      split
      next hcurrent => exact read_ok (htokens.tail_newline hcurrent)
      next hcurrent => exact absurd hcurrent htokens.current_ne_eof
      next => exact read_ok htokens.anywhere
      next hcurrent =>
        have hafter := htokens.tail hcurrent rfl
        simp only [hafter.current_eq]
        split
        next hcurrent => exact read_ok (hafter.tail_newline hcurrent)
        next hcurrent => exact absurd hcurrent hafter.current_ne_eof
        next =>
          exact read_bind (simpleLine_inStep fuel depth hafter)
            fun rest tokens tokens' htokens => read_ok htokens
      next => exact Carries.error _ _

/-! ## Compound statements -/

theorem alternatives_of_apart {tokens : List Lexeme} (hapart : Apart tokens) (fuel depth : Nat) :
    alternatives limits (fuel + 1) depth tokens = .ok (([], []), tokens) := by
  have helif := hapart .elifWord (by simp)
  have helse := hapart .elseWord (by simp)
  rw [alternatives]
  split <;> first | contradiction | rfl

mutual

theorem statement_inStep : ∀ (fuel depth : Nat) {blocks : Nat} {tokens tokens' : List Lexeme},
    InStep ends true brackets blocks tokens tokens' →
      Carries (ends.Read false brackets blocks) (statement limits fuel depth tokens)
        (statement limits (extra + fuel) depth tokens')
  | 0, _, _, _, _, _ => by
      rw [statement]
      exact Carries.error _ _
  | fuel + 1, depth, _, _, _, htokens => by
      rw [statement, ← Nat.add_assoc, statement, htokens.current_eq]
      split
      next hcurrent =>
        refine read_bind (expression_inStep fuel depth (htokens.tail hcurrent rfl))
          fun condition tokens tokens' htokens => ?_
        refine read_bind (suite_inStep fuel depth htokens) fun body tokens tokens' htokens => ?_
        exact read_bind (alternatives_inStep fuel depth htokens)
          fun others tokens tokens' htokens => read_ok htokens
      next hcurrent =>
        refine read_bind (expectName_inStep (htokens.tail hcurrent rfl))
          fun name tokens tokens' htokens => ?_
        refine (expect_inStep htokens rfl).bind fun tokens tokens' htokens => ?_
        refine read_bind (expression_inStep fuel depth htokens)
          fun iterable tokens tokens' htokens => ?_
        exact read_bind (suite_inStep fuel depth htokens)
          fun body tokens tokens' htokens => read_ok htokens
      next => exact simpleLine_inStep fuel depth htokens

theorem alternatives_inStep : ∀ (fuel depth : Nat) {blocks : Nat} {tokens tokens' : List Lexeme},
    InStep ends false brackets blocks tokens tokens' →
      Carries (ends.Read false brackets blocks) (alternatives limits fuel depth tokens)
        (alternatives limits (extra + fuel) depth tokens')
  | 0, _, _, _, _, _ => by
      rw [alternatives]
      exact Carries.error _ _
  | fuel + 1, depth, _, _, _, htokens => by
      obtain htokens | ⟨rfl, rfl, rfl, rfl⟩ := htokens.within_or_done
      · rw [alternatives, ← Nat.add_assoc, alternatives, htokens.current_eq]
        split
        next hcurrent =>
          refine read_bind (expression_inStep fuel depth (htokens.tail hcurrent rfl))
            fun condition tokens tokens' htokens => ?_
          refine read_bind (suite_inStep fuel depth htokens)
            fun body tokens tokens' htokens => ?_
          exact read_bind (alternatives_inStep fuel depth htokens)
            fun others tokens tokens' htokens => read_ok htokens
        next hcurrent =>
          exact read_bind (suite_inStep fuel depth (htokens.tail hcurrent rfl))
            fun body tokens tokens' htokens => read_ok htokens
        next => exact read_ok htokens.anywhere
      · rw [alternatives_of_apart ends.first_apart, ← Nat.add_assoc,
          alternatives_of_apart ends.second_apart]
        exact read_ok .done

theorem suite_inStep : ∀ (fuel depth : Nat) {blocks : Nat} {tokens tokens' : List Lexeme},
    InStep ends true brackets blocks tokens tokens' →
      Carries (ends.Read false brackets blocks) (suite limits fuel depth tokens)
        (suite limits (extra + fuel) depth tokens')
  | 0, _, _, _, _, _ => by
      rw [suite]
      exact Carries.error _ _
  | fuel + 1, depth, _, _, _, htokens => by
      rw [suite, ← Nat.add_assoc, suite]
      refine (expect_inStep htokens rfl).bind fun tokens tokens' htokens => ?_
      rw [htokens.current_eq]
      split
      next hcurrent =>
        refine (expect_indent (htokens.tail_newline hcurrent)).bind
          fun tokens tokens' htokens => ?_
        exact Carries.bind_same fun depth => block_inStep fuel depth htokens
      next => exact simpleLine_inStep fuel depth htokens

theorem block_inStep : ∀ (fuel depth : Nat) {blocks : Nat} {tokens tokens' : List Lexeme},
    InStep ends false brackets (blocks + 1) tokens tokens' →
      Carries (ends.Read false brackets blocks) (block limits fuel depth tokens)
        (block limits (extra + fuel) depth tokens')
  | 0, _, _, _, _, _ => by
      rw [block]
      exact Carries.error _ _
  | fuel + 1, depth, _, _, _, htokens => by
      replace htokens := htokens.within_block
      rw [block, ← Nat.add_assoc, block, htokens.current_eq]
      split
      next hcurrent => exact read_ok (htokens.tail_dedent hcurrent)
      next hcurrent => exact absurd hcurrent htokens.current_ne_eof
      next =>
        refine read_bind (statement_inStep fuel depth htokens)
          fun first tokens tokens' htokens => ?_
        exact read_bind (block_inStep fuel depth htokens.skipNewlines)
          fun rest tokens tokens' htokens => read_ok htokens

end

/-! ## Programs -/

theorem program_of_ne_eof (fuel : Nat) (hcurrent : current tokens ≠ .eof) :
    program limits (fuel + 1) tokens = (do
      let (first, tokens) ← statement limits fuel 0 tokens
      let rest ← program limits fuel (skipNewlines tokens)
      pure (first ++ rest)) := by
  rw [program]
  split
  next heof => exact absurd heof hcurrent
  next => rfl

/-- A program that is read to the end of its source is read before any other end too, and what
stands there is read after it. No bracket is left open. -/
theorem program_inStep (hend : current ends.first = .eof) : ∀ (fuel : Nat) {brackets : Nat}
    {tokens tokens' : List Lexeme} {before : List Statement},
    InStep ends false brackets 0 tokens tokens' → program limits fuel tokens = .ok before →
      brackets = ends.brackets ∧ ∃ left, program limits (extra + fuel) tokens' =
        (program limits (extra + left) ends.second).map (before ++ ·)
  | 0, _, _, _, _, _, hprogram => by
      rw [program] at hprogram
      cases hprogram
  | fuel + 1, brackets, tokens, tokens', before, htokens, hprogram => by
      obtain htokens | ⟨rfl, _, rfl, rfl⟩ := htokens.within_or_done
      · have hcurrent := htokens.current_ne_eof
        rw [program_of_ne_eof fuel hcurrent] at hprogram
        obtain ⟨⟨first, rest⟩, hfirst, hprogram⟩ := bind_eq_ok.mp hprogram
        obtain ⟨others, hothers, hbefore⟩ := bind_eq_ok.mp hprogram
        cases hbefore
        -- The second list has the same statement in front, and the rest is in step again.
        obtain ⟨⟨_, rest'⟩, hfirst', rfl, hrest⟩ := statement_inStep fuel 0 htokens _ hfirst
        dsimp only at hfirst' hrest
        obtain ⟨hbrackets, left, hleft⟩ := program_inStep hend fuel hrest.skipNewlines hothers
        refine ⟨hbrackets, left, ?_⟩
        rw [← Nat.add_assoc, program_of_ne_eof (extra + fuel) (htokens.current_eq ▸ hcurrent),
          hfirst']
        simp only [ok_bind, hleft]
        cases program limits (extra + left) ends.second with
        | error halt => rfl
        | ok more => simp [List.append_assoc]
      · rw [program, hend] at hprogram
        cases hprogram
        refine ⟨rfl, fuel + 1, ?_⟩
        cases program limits (extra + (fuel + 1)) ends.second <;> rfl

end

end Parser

end SchemaGuard
