import SchemaGuard.Proofs.Program.Causes
import SchemaGuard.Proofs.Source.Sequence

/-! # How deep the expressions of a source are

Reading counts some of the levels of an expression against the permitted depth: brackets,
signs, negations, positions, arguments and the last part of a choice. The levels that it
builds in loops, by operators, comparisons and suffixes, it does not count. So the height of
what is read exceeds the permitted depth by no more than the levels that are not counted.
-/

namespace SchemaGuard

open Outcome

namespace Expr

mutual

/-- The levels of an expression that reading counts, on the way on which they are the most. -/
def levels : Expr → Nat
  | .null | .bool _ | .int _ | .float _ | .str _ | .var _ | .path _ => 0
  | .list items => 1 + levelsOfList items
  | .negate e | .not e => 1 + e.levels
  | .attr object _ => object.levels
  | .binary _ l r | .and l r | .or l r => max l.levels r.levels
  | .compare first links => max first.levels (levelsOfLinks links)
  | .index object position => max object.levels (1 + position.levels)
  | .call callee args => max callee.levels (levelsOfList args)
  | .cond c t e => max c.levels (max t.levels (1 + e.levels))

/-- The levels of the items of a list, each of which is a whole expression. -/
def levelsOfList : List Expr → Nat
  | [] => 0
  | e :: rest => max (1 + e.levels) (levelsOfList rest)

/-- The levels of the operands of a comparison after the first. -/
def levelsOfLinks : List (CompareOp × Expr) → Nat
  | [] => 0
  | (_, e) :: rest => max e.levels (levelsOfLinks rest)

end

mutual

/-- The levels of an expression that reading does not count, on the way on which they are the
most. -/
def uncounted : Expr → Nat
  | .null | .bool _ | .int _ | .float _ | .str _ | .var _ | .path _ => 0
  | .list items => uncountedOfList items
  | .negate e | .not e => e.uncounted
  | .attr object _ => 1 + object.uncounted
  | .binary _ l r | .and l r | .or l r => 1 + max l.uncounted r.uncounted
  | .compare first links => 1 + max first.uncounted (uncountedOfLinks links)
  | .index object position => max (1 + object.uncounted) position.uncounted
  | .call callee args => max (1 + callee.uncounted) (uncountedOfList args)
  | .cond c t e => max (1 + max c.uncounted t.uncounted) e.uncounted

/-- The uncounted levels of expressions. -/
def uncountedOfList : List Expr → Nat
  | [] => 0
  | e :: rest => max e.uncounted (uncountedOfList rest)

/-- The uncounted levels of the operands of a comparison after the first. -/
def uncountedOfLinks : List (CompareOp × Expr) → Nat
  | [] => 0
  | (_, e) :: rest => max e.uncounted (uncountedOfLinks rest)

end

mutual

/-- Every level of an expression is counted or uncounted, its lowest one apart. -/
theorem depth_le : ∀ e : Expr, e.depth ≤ 1 + e.levels + e.uncounted
  | .null | .bool _ | .int _ | .float _ | .str _ | .var _ | .path _ => Nat.le_refl 1
  | .list items => by
      have hitems := depthOfList_le items
      rw [depth, levels, uncounted]
      omega
  | .negate e | .not e => by
      have he := depth_le e
      rw [depth, levels, uncounted]
      omega
  | .attr object _ => by
      have hobject := depth_le object
      rw [depth, levels, uncounted]
      omega
  | .binary _ l r | .and l r | .or l r => by
      have hl := depth_le l
      have hr := depth_le r
      rw [depth, levels, uncounted]
      omega
  | .compare first links => by
      have hfirst := depth_le first
      have hlinks := depthOfLinks_le links
      rw [depth, levels, uncounted]
      omega
  | .index object position => by
      have hobject := depth_le object
      have hposition := depth_le position
      rw [depth, levels, uncounted]
      omega
  | .call callee args => by
      have hcallee := depth_le callee
      have hargs := depthOfList_le args
      rw [depth, levels, uncounted]
      omega
  | .cond c t e => by
      have hc := depth_le c
      have ht := depth_le t
      have he := depth_le e
      rw [depth, levels, uncounted]
      omega

theorem depthOfList_le : ∀ items : List Expr,
    depthOfList items ≤ levelsOfList items + uncountedOfList items
  | [] => by
      rw [depthOfList]
      exact Nat.zero_le _
  | e :: rest => by
      have he := depth_le e
      have hrest := depthOfList_le rest
      rw [depthOfList, levelsOfList, uncountedOfList]
      omega

theorem depthOfLinks_le : ∀ links : List (CompareOp × Expr),
    depthOfLinks links ≤ 1 + levelsOfLinks links + uncountedOfLinks links
  | [] => by
      rw [depthOfLinks]
      exact Nat.zero_le _
  | (_, e) :: rest => by
      have he := depth_le e
      have hrest := depthOfLinks_le rest
      rw [depthOfLinks, levelsOfLinks, uncountedOfLinks]
      omega

end

end Expr

namespace Parser

variable {limits : ParseLimits}

theorem enter_eq_ok {depth next : Nat} :
    enter limits depth = .ok next ↔ depth + 1 ≤ limits.maxDepth ∧ next = depth + 1 := by
  unfold enter
  split
  next hle => simp [hle, eq_comm]
  next hle => simp [hle]

/-- A step down that succeeds leads one level deeper, and no deeper than permitted. -/
theorem enter_yields (depth : Nat) :
    Yields (fun next => next = depth + 1 ∧ next ≤ limits.maxDepth) (enter limits depth) := by
  intro next hnext
  obtain ⟨hle, rfl⟩ := enter_eq_ok.mp hnext
  exact ⟨rfl, hle⟩

theorem levels_of_operator {level : Level} {token : Token} {build : Expr → Expr → Expr}
    (hbuild : level.operator? token = some build) (left right : Expr) :
    (build left right).levels = max left.levels right.levels := by
  unfold Level.operator? at hbuild
  split at hbuild <;> cases hbuild <;> rw [Expr.levels]

/-! ## Expressions -/

/-- What is read at a depth goes down from there by the levels that are counted. -/
abbrev Within (limits : ParseLimits) (depth : Nat) {α : Type} (levels : α → Nat)
    (outcome : Except Halt (α × List Lexeme)) : Prop :=
  Yields (fun read => depth + levels read.1 ≤ limits.maxDepth) outcome

theorem within_ok {depth : Nat} {α : Type} {levels : α → Nat} {a : α} {tokens : List Lexeme}
    (hlevels : depth + levels a ≤ limits.maxDepth) : Within limits depth levels (.ok (a, tokens)) :=
  (Yields.ok_iff _).mpr hlevels

mutual

/-- An expression is itself a level. -/
theorem expression_within : ∀ (fuel depth : Nat) (tokens : List Lexeme),
    Within limits (depth + 1) Expr.levels (expression limits fuel depth tokens)
  | 0, _, _ => by
      rw [expression]
      exact Yields.error _
  | fuel + 1, depth, tokens => by
      rw [expression]
      refine (enter_yields depth).next fun deeper ⟨hdeeper, hdepth⟩ => ?_
      subst hdeeper
      refine (chain_within fuel .disjunction _ tokens hdepth).next fun (value, tokens) hvalue => ?_
      dsimp only at hvalue ⊢
      split
      · refine (chain_within fuel .disjunction _ tokens.tail hdepth).next
          fun (condition, tokens) hcondition => Yields.bind fun tokens _ => ?_
        refine (expression_within fuel _ tokens).next fun (other, tokens) hother => ?_
        dsimp only at hcondition hother ⊢
        refine within_ok ?_
        rw [Expr.levels]
        omega
      · exact within_ok hvalue

theorem chain_within : ∀ (fuel : Nat) (level : Level) (depth : Nat) (tokens : List Lexeme),
    depth ≤ limits.maxDepth → Within limits depth Expr.levels (chain limits fuel level depth tokens)
  | 0, _, _, _, _ => by
      rw [chain]
      exact Yields.error _
  | fuel + 1, level, depth, tokens, hdepth => by
      rw [chain]
      exact (operand_within fuel level depth tokens hdepth).next fun (left, tokens) hleft =>
        chainFrom_within fuel level depth left tokens hdepth hleft

theorem chainFrom_within : ∀ (fuel : Nat) (level : Level) (depth : Nat) (left : Expr)
    (tokens : List Lexeme), depth ≤ limits.maxDepth → depth + left.levels ≤ limits.maxDepth →
      Within limits depth Expr.levels (chainFrom limits fuel level depth left tokens)
  | 0, _, _, _, _, _, _ => by
      rw [chainFrom]
      exact Yields.error _
  | fuel + 1, level, depth, left, tokens, hdepth, hleft => by
      rw [chainFrom]
      split
      next build hbuild =>
        refine (operand_within fuel level depth tokens.tail hdepth).next
          fun (right, tokens) hright => chainFrom_within fuel level depth _ tokens hdepth ?_
        dsimp only at hright
        rw [levels_of_operator hbuild]
        omega
      next => exact within_ok hleft

theorem operand_within : ∀ (fuel : Nat) (level : Level) (depth : Nat) (tokens : List Lexeme),
    depth ≤ limits.maxDepth →
      Within limits depth Expr.levels (operand limits fuel level depth tokens)
  | 0, _, _, _, _ => by
      rw [operand]
      exact Yields.error _
  | fuel + 1, .disjunction, depth, tokens, hdepth => by
      rw [operand]
      exact chain_within fuel .conjunction depth tokens hdepth
  | fuel + 1, .conjunction, depth, tokens, hdepth => by
      rw [operand]
      exact negation_within fuel depth tokens hdepth
  | fuel + 1, .sum, depth, tokens, hdepth => by
      rw [operand]
      exact chain_within fuel .term depth tokens hdepth
  | fuel + 1, .term, depth, tokens, hdepth => by
      rw [operand]
      exact signed_within fuel depth tokens hdepth

theorem negation_within : ∀ (fuel depth : Nat) (tokens : List Lexeme),
    depth ≤ limits.maxDepth → Within limits depth Expr.levels (negation limits fuel depth tokens)
  | 0, _, _, _ => by
      rw [negation]
      exact Yields.error _
  | fuel + 1, depth, tokens, hdepth => by
      rw [negation]
      split
      · refine (enter_yields depth).next fun deeper ⟨hdeeper, hdepth⟩ => ?_
        subst hdeeper
        refine (negation_within fuel _ tokens.tail hdepth).next fun (inner, tokens) hinner => ?_
        dsimp only at hinner
        refine within_ok ?_
        rw [Expr.levels]
        omega
      · refine (chain_within fuel .sum depth tokens hdepth).next fun (first, tokens) hfirst => ?_
        refine (comparisons_within fuel depth tokens hdepth).next fun (links, tokens) hlinks => ?_
        dsimp only at hfirst hlinks ⊢
        split
        · exact within_ok hfirst
        · refine within_ok ?_
          rw [Expr.levels]
          omega

theorem comparisons_within : ∀ (fuel depth : Nat) (tokens : List Lexeme),
    depth ≤ limits.maxDepth →
      Within limits depth Expr.levelsOfLinks (comparisons limits fuel depth tokens)
  | 0, _, _, _ => by
      rw [comparisons]
      exact Yields.error _
  | fuel + 1, depth, tokens, hdepth => by
      rw [comparisons]
      split
      · refine (chain_within fuel .sum depth _ hdepth).next fun (right, tokens) hright => ?_
        refine (comparisons_within fuel depth tokens hdepth).next fun (links, tokens) hlinks => ?_
        dsimp only at hright hlinks
        refine within_ok ?_
        rw [Expr.levelsOfLinks]
        omega
      · exact within_ok (by rw [Expr.levelsOfLinks]; omega)

theorem signed_within : ∀ (fuel depth : Nat) (tokens : List Lexeme),
    depth ≤ limits.maxDepth → Within limits depth Expr.levels (signed limits fuel depth tokens)
  | 0, _, _, _ => by
      rw [signed]
      exact Yields.error _
  | fuel + 1, depth, tokens, hdepth => by
      rw [signed]
      split
      · refine (enter_yields depth).next fun deeper ⟨hdeeper, hdepth⟩ => ?_
        subst hdeeper
        refine (signed_within fuel _ tokens.tail hdepth).next fun (inner, tokens) hinner => ?_
        dsimp only at hinner
        refine within_ok ?_
        rw [Expr.levels]
        omega
      · refine (enter_yields depth).next fun deeper ⟨hdeeper, hdepth⟩ => ?_
        subst hdeeper
        intro read hread
        have hlevels := signed_within fuel _ tokens.tail hdepth read hread
        dsimp only at hlevels ⊢
        omega
      · exact (primary_within fuel depth tokens hdepth).next fun (base, tokens) hbase =>
          suffixes_within fuel depth base tokens hdepth hbase

theorem suffixes_within : ∀ (fuel depth : Nat) (base : Expr) (tokens : List Lexeme),
    depth ≤ limits.maxDepth → depth + base.levels ≤ limits.maxDepth →
      Within limits depth Expr.levels (suffixes limits fuel depth base tokens)
  | 0, _, _, _, _, _ => by
      rw [suffixes]
      exact Yields.error _
  | fuel + 1, depth, base, tokens, hdepth, hbase => by
      rw [suffixes]
      split
      · refine Yields.bind fun (name, tokens) _ =>
          suffixes_within fuel depth (.attr base name) tokens hdepth ?_
        rw [Expr.levels]
        exact hbase
      · refine (expression_within fuel depth tokens.tail).next
          fun (position, tokens) hposition => Yields.bind fun tokens _ =>
            suffixes_within fuel depth (.index base position) tokens hdepth ?_
        dsimp only at hposition
        rw [Expr.levels]
        omega
      · refine (items_within fuel .rightParen depth tokens.tail hdepth).next
          fun (args, tokens) hargs =>
            suffixes_within fuel depth (.call base args) tokens hdepth ?_
        dsimp only at hargs
        rw [Expr.levels]
        omega
      · exact within_ok hbase

theorem items_within : ∀ (fuel : Nat) (close : Token) (depth : Nat) (tokens : List Lexeme),
    depth ≤ limits.maxDepth →
      Within limits depth Expr.levelsOfList (items limits fuel close depth tokens)
  | 0, _, _, _, _ => by
      rw [items]
      exact Yields.error _
  | fuel + 1, close, depth, tokens, hdepth => by
      rw [items]
      split
      · exact within_ok (by rw [Expr.levelsOfList]; omega)
      · refine (expression_within fuel depth tokens).next fun (item, tokens) hitem => ?_
        dsimp only at hitem ⊢
        split
        · refine (items_within fuel close depth tokens.tail hdepth).next
            fun (rest, tokens) hrest => ?_
          dsimp only at hrest ⊢
          refine within_ok ?_
          rw [Expr.levelsOfList]
          omega
        · split
          · refine within_ok ?_
            rw [Expr.levelsOfList, Expr.levelsOfList]
            omega
          · exact Yields.error _

theorem primary_within : ∀ (fuel depth : Nat) (tokens : List Lexeme),
    depth ≤ limits.maxDepth → Within limits depth Expr.levels (primary limits fuel depth tokens)
  | 0, _, _, _ => by
      rw [primary]
      exact Yields.error _
  | fuel + 1, depth, tokens, hdepth => by
      rw [primary]
      split
      case h_8 =>
        refine (enter_yields depth).next fun deeper ⟨hdeeper, hdepth⟩ => ?_
        subst hdeeper
        intro read hread
        have hlevels := parenthesised_within fuel _ tokens.tail hdepth read hread
        dsimp only at hlevels ⊢
        omega
      case h_9 =>
        refine (enter_yields depth).next fun deeper ⟨hdeeper, hdepth⟩ => ?_
        subst hdeeper
        refine (items_within fuel .rightBracket _ tokens.tail hdepth).next
          fun (list, tokens) hlist => ?_
        dsimp only at hlist
        refine within_ok ?_
        rw [Expr.levels]
        omega
      case h_10 => exact Yields.error _
      -- The others are a single level each.
      all_goals exact within_ok (by rw [Expr.levels]; exact hdepth)

/-- The bracket that has been opened is the level of a list in parentheses. -/
theorem parenthesised_within : ∀ (fuel depth : Nat) (tokens : List Lexeme),
    depth ≤ limits.maxDepth →
      Yields (fun read => depth + read.1.levels ≤ limits.maxDepth + 1)
        (parenthesised limits fuel depth tokens)
  | 0, _, _, _ => by
      rw [parenthesised]
      exact Yields.error _
  | fuel + 1, depth, tokens, hdepth => by
      rw [parenthesised]
      split
      · refine (Yields.ok_iff _).mpr ?_
        rw [Expr.levels, Expr.levelsOfList]
        omega
      · refine (expression_within fuel depth tokens).next fun (first, tokens) hfirst => ?_
        dsimp only at hfirst ⊢
        split
        · refine (Yields.ok_iff _).mpr ?_
          dsimp only
          omega
        · refine (items_within fuel .rightParen depth tokens.tail hdepth).next
            fun (rest, tokens) hrest => ?_
          dsimp only at hrest ⊢
          refine (Yields.ok_iff _).mpr ?_
          rw [Expr.levels, Expr.levelsOfList]
          omega
        · exact Yields.error _

end

/-! ## Statements -/

/-- Expressions whose counted levels are within the permitted depth. -/
def Shallow (limits : ParseLimits) (expressions : List Expr) : Prop :=
  ∀ e ∈ expressions, 1 + e.levels ≤ limits.maxDepth

@[simp] theorem shallow_nil : Shallow limits [] := by
  simp [Shallow]

@[simp] theorem shallow_cons (e : Expr) (rest : List Expr) :
    Shallow limits (e :: rest) ↔ 1 + e.levels ≤ limits.maxDepth ∧ Shallow limits rest := by
  simp [Shallow]

@[simp] theorem shallow_append (first second : List Expr) :
    Shallow limits (first ++ second) ↔ Shallow limits first ∧ Shallow limits second := by
  simp [Shallow, or_imp, forall_and]

/-- What is read of a source holds shallow expressions only. -/
abbrev ReadsShallow (limits : ParseLimits) {α : Type} (expressions : α → List Expr)
    (outcome : Except Halt (α × List Lexeme)) : Prop :=
  Yields (fun read => Shallow limits (expressions read.1)) outcome

theorem reads_ok {α : Type} {expressions : α → List Expr} {a : α} {tokens : List Lexeme}
    (hshallow : Shallow limits (expressions a)) :
    ReadsShallow limits expressions (.ok (a, tokens)) :=
  (Yields.ok_iff _).mpr hshallow

theorem expression_shallow (fuel depth : Nat) (tokens : List Lexeme) :
    Yields (fun read => 1 + read.1.levels ≤ limits.maxDepth)
      (expression limits fuel depth tokens) := by
  intro read hread
  have hlevels := expression_within fuel depth tokens read hread
  dsimp only at hlevels ⊢
  omega

theorem imports_shallow : ∀ (fuel : Nat) (tokens : List Lexeme),
    ReadsShallow limits Statement.expressionsOfBlock (imports fuel tokens)
  | 0, _ => by
      rw [imports]
      exact Yields.error _
  | fuel + 1, tokens => by
      rw [imports]
      refine Yields.bind ?_
      rintro ⟨path, tokens⟩ _
      dsimp only
      split
      · refine (imports_shallow fuel tokens.tail).next ?_
        rintro ⟨rest, tokens⟩ hrest
        refine reads_ok ?_
        simpa [Statement.expressionsOfBlock, Statement.expressions] using hrest
      · exact reads_ok (by simp [Statement.expressionsOfBlock, Statement.expressions])

theorem raised_shallow (fuel depth : Nat) (tokens : List Lexeme) :
    ReadsShallow limits Statement.expressions (raised limits fuel depth tokens) := by
  unfold raised
  split
  case h_5 =>
    refine Yields.bind fun (kind, tokens) _ => ?_
    dsimp only
    split
    · split
      · exact reads_ok (by simp [Statement.expressions])
      · refine (expression_shallow fuel depth tokens.tail).next fun (message, tokens) hmessage => ?_
        refine Yields.bind fun tokens _ => reads_ok ?_
        simpa [Statement.expressions] using hmessage
    · exact reads_ok (by simp [Statement.expressions])
  all_goals exact reads_ok (by simp [Statement.expressions])

theorem asserted_shallow (fuel depth : Nat) (tokens : List Lexeme) :
    ReadsShallow limits Statement.expressions (asserted limits fuel depth tokens) := by
  unfold asserted
  refine (expression_shallow fuel depth tokens).next fun (condition, tokens) hcondition => ?_
  dsimp only at hcondition ⊢
  split
  · refine (expression_shallow fuel depth tokens.tail).next fun (message, tokens) hmessage =>
      reads_ok ?_
    simpa [Statement.expressions] using ⟨hcondition, hmessage⟩
  · exact reads_ok (by simpa [Statement.expressions] using hcondition)

theorem assignment_shallow (fuel depth : Nat) (tokens : List Lexeme) :
    ReadsShallow limits Statement.expressions (assignment limits fuel depth tokens) := by
  unfold assignment
  refine (expression_shallow fuel depth tokens).next fun (e, tokens) he => ?_
  dsimp only at he ⊢
  split
  · split
    · refine (expression_shallow fuel depth tokens.tail).next fun (value, tokens) hvalue =>
        reads_ok ?_
      simpa [Statement.expressions] using hvalue
    · exact Yields.error _
  · exact reads_ok (by simpa [Statement.expressions] using he)

theorem simple_shallow (fuel depth : Nat) (tokens : List Lexeme) :
    ReadsShallow limits Statement.expressionsOfBlock (simple limits fuel depth tokens) := by
  have hsingle : ∀ read : Statement × List Lexeme, Shallow limits read.1.expressions →
      Shallow limits (Statement.expressionsOfBlock [read.1]) := by
    intro read hread
    simpa [Statement.expressionsOfBlock] using hread
  unfold simple
  split
  · exact reads_ok (by simp [Statement.expressionsOfBlock, Statement.expressions])
  · exact (raised_shallow fuel depth tokens.tail).map hsingle
  · exact (asserted_shallow fuel depth tokens.tail).map hsingle
  · exact imports_shallow fuel tokens.tail
  · exact (assignment_shallow fuel depth tokens).map hsingle

theorem simpleLine_shallow : ∀ (fuel depth : Nat) (tokens : List Lexeme),
    ReadsShallow limits Statement.expressionsOfBlock (simpleLine limits fuel depth tokens)
  | 0, _, _ => by
      rw [simpleLine]
      exact Yields.error _
  | fuel + 1, depth, tokens => by
      rw [simpleLine]
      refine (simple_shallow fuel depth tokens).next ?_
      rintro ⟨first, tokens⟩ hfirst
      dsimp only at hfirst ⊢
      split
      case h_4 =>
        split
        case h_3 =>
          refine (simpleLine_shallow fuel depth tokens.tail).next ?_
          rintro ⟨rest, tokens⟩ hrest
          refine reads_ok ?_
          rw [Statement.expressionsOfBlock_append]
          exact (shallow_append _ _).mpr ⟨hfirst, hrest⟩
        all_goals exact reads_ok hfirst
      case h_5 => exact Yields.error _
      all_goals exact reads_ok hfirst

mutual

theorem statement_shallow : ∀ (fuel depth : Nat) (tokens : List Lexeme),
    ReadsShallow limits Statement.expressionsOfBlock (statement limits fuel depth tokens)
  | 0, _, _ => by
      rw [statement]
      exact Yields.error _
  | fuel + 1, depth, tokens => by
      rw [statement]
      split
      · refine (expression_shallow fuel depth tokens.tail).next
          fun (condition, tokens) hcondition => ?_
        refine (suite_shallow fuel depth tokens).next fun (body, tokens) hbody => ?_
        refine (alternatives_shallow fuel depth tokens).next fun (others, tokens) hothers =>
          reads_ok ?_
        simp_all [Statement.expressionsOfBlock, Statement.expressions,
          Statement.expressionsOfBranches]
      · refine Yields.bind fun (name, tokens) _ => Yields.bind fun tokens _ => ?_
        refine (expression_shallow fuel depth tokens).next fun (iterable, tokens) hiterable => ?_
        refine (suite_shallow fuel depth tokens).next fun (body, tokens) hbody => reads_ok ?_
        simp_all [Statement.expressionsOfBlock, Statement.expressions]
      · exact simpleLine_shallow fuel depth tokens

theorem alternatives_shallow : ∀ (fuel depth : Nat) (tokens : List Lexeme),
    ReadsShallow limits
      (fun others => Statement.expressionsOfBranches others.1 ++
        Statement.expressionsOfBlock others.2) (alternatives limits fuel depth tokens)
  | 0, _, _ => by
      rw [alternatives]
      exact Yields.error _
  | fuel + 1, depth, tokens => by
      rw [alternatives]
      split
      · refine (expression_shallow fuel depth tokens.tail).next
          fun (condition, tokens) hcondition => ?_
        refine (suite_shallow fuel depth tokens).next fun (body, tokens) hbody => ?_
        refine (alternatives_shallow fuel depth tokens).next fun (others, tokens) hothers =>
          (Yields.ok_iff _).mpr ?_
        simp_all [Statement.expressionsOfBranches]
      · refine (suite_shallow fuel depth tokens.tail).next fun (body, tokens) hbody =>
          (Yields.ok_iff _).mpr ?_
        simpa [Statement.expressionsOfBranches] using hbody
      · exact reads_ok (by simp [Statement.expressionsOfBranches, Statement.expressionsOfBlock])

theorem suite_shallow : ∀ (fuel depth : Nat) (tokens : List Lexeme),
    ReadsShallow limits Statement.expressionsOfBlock (suite limits fuel depth tokens)
  | 0, _, _ => by
      rw [suite]
      exact Yields.error _
  | fuel + 1, depth, tokens => by
      rw [suite]
      refine Yields.bind fun tokens _ => ?_
      split
      · exact Yields.bind fun tokens _ => Yields.bind fun depth _ => block_shallow fuel depth tokens
      · exact simpleLine_shallow fuel depth tokens

theorem block_shallow : ∀ (fuel depth : Nat) (tokens : List Lexeme),
    ReadsShallow limits Statement.expressionsOfBlock (block limits fuel depth tokens)
  | 0, _, _ => by
      rw [block]
      exact Yields.error _
  | fuel + 1, depth, tokens => by
      rw [block]
      split
      · exact reads_ok (by simp [Statement.expressionsOfBlock])
      · exact reads_ok (by simp [Statement.expressionsOfBlock])
      · refine (statement_shallow fuel depth tokens).next fun (first, tokens) hfirst => ?_
        refine (block_shallow fuel depth (skipNewlines tokens)).next fun (rest, tokens) hrest =>
          reads_ok ?_
        rw [Statement.expressionsOfBlock_append]
        exact (shallow_append _ _).mpr ⟨hfirst, hrest⟩

end

theorem program_shallow : ∀ (fuel : Nat) (tokens : List Lexeme),
    Yields (fun statements => Shallow limits (Statement.expressionsOfBlock statements))
      (program limits fuel tokens)
  | 0, _ => by
      rw [program]
      exact Yields.error _
  | fuel + 1, tokens => by
      rw [program]
      split
      · exact (Yields.ok_iff _).mpr (by simp [Statement.expressionsOfBlock])
      · refine (statement_shallow fuel 0 tokens).next fun (first, tokens) hfirst => ?_
        refine (program_shallow fuel (skipNewlines tokens)).next fun rest hrest =>
          (Yields.ok_iff _).mpr ?_
        rw [Statement.expressionsOfBlock_append]
        exact (shallow_append _ _).mpr ⟨hfirst, hrest⟩

end Parser

/-- The expressions of a source that is read exceed the permitted depth by no more than their
levels that reading does not count. -/
theorem Program.depth_le_of_parse {limits : ParseLimits} {source : String} {program : Program}
    (hparse : Program.parse limits source = .ok program) {e : Expr}
    (he : e ∈ program.expressions) : e.depth ≤ limits.maxDepth + e.uncounted := by
  obtain ⟨_, _, _, hprogram⟩ := Program.parse_eq_ok.mp hparse
  have hlevels := Parser.program_shallow _ _ program hprogram e he
  have hdepth := e.depth_le
  omega

end SchemaGuard
