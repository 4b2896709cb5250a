import SchemaGuard.Proofs.Source.Productions

/-! # The tokens of printed expressions

A printed expression puts every operation between two operands in parentheses, so its tokens
are read back as the expression that they come from, whatever operation comes after them that
does not reach into it.
-/

namespace SchemaGuard

namespace BinaryOp

/-- The token of an arithmetic operator. -/
def token : BinaryOp → Token
  | add => .plus
  | subtract => .minus
  | multiply => .star
  | divide => .slash
  | floorDivide => .doubleSlash
  | modulo => .percent

/-- The level at which an arithmetic operator groups its operands. -/
def level : BinaryOp → Parser.Level
  | add | subtract => .sum
  | _ => .term

theorem operator?_token (op : BinaryOp) : op.level.operator? op.token = some (.binary op) := by
  cases op <;> rfl

theorem level_eq (op : BinaryOp) : op.level = .sum ∨ op.level = .term := by
  cases op <;> first | exact .inl rfl | exact .inr rfl

end BinaryOp

namespace CompareOp

/-- The tokens of a comparison operator. -/
def tokens : CompareOp → List Token
  | equal => [.equal]
  | notEqual => [.notEqual]
  | less => [.less]
  | greater => [.greater]
  | lessOrEqual => [.lessEqual]
  | greaterOrEqual => [.greaterEqual]
  | isIn => [.isIn]
  | notIn => [.not, .isIn]
  | isSame => [.isSame]
  | isNotSame => [.isSame, .not]

end CompareOp

namespace Expr

/-! ## Tokens -/

mutual

/-- The tokens of a printed expression. -/
def tokens : Expr → List Token
  | .null => [.null]
  | .bool b => [.bool b]
  | .int n => [.int n]
  | .float x => [.float x]
  | .str s => [.str s]
  | .list items => .leftBracket :: (itemTokens items ++ [.rightBracket])
  | .var name => [.identifier name]
  | .path parts => [.path parts]
  | .binary op l r => .leftParen :: (l.tokens ++ op.token :: (r.tokens ++ [.rightParen]))
  | .compare first links => .leftParen :: (first.tokens ++ (linkTokens links ++ [.rightParen]))
  | .negate e => .minus :: e.tokens
  | .and l r => .leftParen :: (l.tokens ++ .and :: (r.tokens ++ [.rightParen]))
  | .or l r => .leftParen :: (l.tokens ++ .or :: (r.tokens ++ [.rightParen]))
  | .not e => .not :: e.tokens
  | .attr object name => object.tokens ++ [.dot, .identifier name]
  | .index object position =>
      object.tokens ++ .leftBracket :: (position.tokens ++ [.rightBracket])
  | .call callee args => callee.tokens ++ .leftParen :: (itemTokens args ++ [.rightParen])
  | .cond c t e => .leftParen ::
      (t.tokens ++ .ifWord :: (c.tokens ++ .elseWord :: (e.tokens ++ [.rightParen])))

/-- The tokens of expressions with commas between them. -/
def itemTokens : List Expr → List Token
  | [] => []
  | e :: rest => e.tokens ++ (if rest.isEmpty then [] else .comma :: itemTokens rest)

/-- The tokens of the operators and operands of a comparison after its first operand. -/
def linkTokens : List (CompareOp × Expr) → List Token
  | [] => []
  | (op, e) :: rest => op.tokens ++ (e.tokens ++ linkTokens rest)

end

/-- The first token of a printed expression. -/
def opening : Expr → Token
  | .null => .null
  | .bool b => .bool b
  | .int n => .int n
  | .float x => .float x
  | .str s => .str s
  | .list _ => .leftBracket
  | .var name => .identifier name
  | .path parts => .path parts
  | .negate _ => .minus
  | .not _ => .not
  | .attr object _ | .index object _ => object.opening
  | .call callee _ => callee.opening
  | .binary .. | .compare .. | .and .. | .or .. | .cond .. => .leftParen

theorem tokens_opening : ∀ e : Expr, ∃ rest, e.tokens = e.opening :: rest
  | .null | .bool _ | .int _ | .float _ | .str _ | .list _ | .var _ | .path _ | .negate _
  | .not _ | .binary .. | .compare .. | .and .. | .or .. | .cond .. => ⟨_, rfl⟩
  | .attr object name => by
      obtain ⟨rest, hrest⟩ := tokens_opening object
      exact ⟨_, by rw [tokens, hrest, List.cons_append, opening]⟩
  | .index object position => by
      obtain ⟨rest, hrest⟩ := tokens_opening object
      exact ⟨_, by rw [tokens, hrest, List.cons_append, opening]⟩
  | .call callee args => by
      obtain ⟨rest, hrest⟩ := tokens_opening callee
      exact ⟨_, by rw [tokens, hrest, List.cons_append, opening]⟩

/-! ## Expressions that can be read back -/

/-- Whether an expression is a negation. -/
def isNot : Expr → Bool
  | .not _ => true
  | _ => false

/-- Whether an expression begins with a minus. -/
def isNegate : Expr → Bool
  | .negate _ => true
  | _ => false

/-- Whether an expression is an integer. -/
def isInt : Expr → Bool
  | .int _ => true
  | _ => false

/-- Whether an expression is printed without a sign or a word before it, so that something can be
attached to it. -/
def isTight (e : Expr) : Bool :=
  !e.isNot && !e.isNegate

/-- Names that are no keywords. -/
def IsIdentifier (name : String) : Prop :=
  Lexer.isName name.toList = true ∧ Token.ofWord name = .identifier name

instance (name : String) : Decidable (IsIdentifier name) :=
  inferInstanceAs (Decidable (_ ∧ _))

/-- Characters that a literal shows as they are or with one of its short escapes. -/
def IsShown (c : Char) : Prop :=
  Text.Quoted.escape c = [c] ∨ c ∈ ['\n', '\r', '\t', '\x00', '\\', '"']

instance (c : Char) : Decidable (IsShown c) :=
  inferInstanceAs (Decidable (_ ∨ _))

mutual

/-- Expressions whose printed form says all about them: their names are identifiers, their paths
are names, of which there is at least one, their numbers are integers that are not negative, their
texts need no other escapes than the short ones, a comparison compares something, and nothing is
attached to a sign or to a `not` that stands without parentheses. -/
def Printable : Expr → Prop
  | .null | .bool _ => True
  | .int n => 0 ≤ n ∧ Int64Range.check? n = some n
  | .float _ => False
  | .str s => ∀ c ∈ s.toList, IsShown c
  | .list items => PrintableAll items
  | .var name => IsIdentifier name
  | .path parts => parts ≠ [] ∧ ∀ part ∈ parts, Lexer.isName part.toList = true
  | .binary _ l r => l.isNot = false ∧ r.isNot = false ∧ l.Printable ∧ r.Printable
  | .compare first links => links ≠ [] ∧ first.isNot = false ∧ first.Printable ∧
      PrintableLinks links
  | .negate e => e.isNot = false ∧ e.Printable
  | .and l r | .or l r => l.Printable ∧ r.Printable
  | .not e => e.Printable
  | .attr object name => object.isTight = true ∧ object.isInt = false ∧ object.Printable ∧
      IsIdentifier name
  | .index object position => object.isTight = true ∧ object.Printable ∧ position.Printable
  | .call callee args => callee.isTight = true ∧ callee.Printable ∧ PrintableAll args
  | .cond c t e => c.Printable ∧ t.Printable ∧ e.Printable

/-- Each of some expressions can be read back. -/
def PrintableAll : List Expr → Prop
  | [] => True
  | e :: rest => e.Printable ∧ PrintableAll rest

/-- Each operand of a comparison after the first can be read back and is no negation. -/
def PrintableLinks : List (CompareOp × Expr) → Prop
  | [] => True
  | (_, e) :: rest => e.isNot = false ∧ e.Printable ∧ PrintableLinks rest

end

/-- What something can be attached to begins with no sign, no `not` and no closing bracket. -/
theorem opening_notMem : ∀ {e : Expr}, e.Printable → e.isTight = true →
    e.opening ∉ [Token.not, .minus, .plus, .rightParen, .rightBracket]
  | .null, _, _ | .bool _, _, _ | .int _, _, _ | .str _, _, _ | .list _, _, _ | .var _, _, _
  | .path _, _, _ | .binary .., _, _ | .compare .., _, _ | .and .., _, _ | .or .., _, _
  | .cond .., _, _ => by simp [opening]
  | .attr _ _, ⟨htight, _, hobject, _⟩, _ => by
      rw [opening]
      exact opening_notMem hobject htight
  | .index _ _, ⟨htight, hobject, _⟩, _ => by
      rw [opening]
      exact opening_notMem hobject htight
  | .call _ _, ⟨htight, hcallee, _⟩, _ => by
      rw [opening]
      exact opening_notMem hcallee htight

theorem opening_ne_not {e : Expr} (hprintable : e.Printable) (hnot : e.isNot = false) :
    e.opening ≠ .not := by
  cases htight : e.isTight with
  | true =>
      have hopening := opening_notMem hprintable htight
      simp_all
  | false => cases e <;> first | (cases htight; done) | (cases hnot; done) | exact nofun

theorem opening_ne_close {e : Expr} (hprintable : e.Printable) :
    e.opening ≠ .rightParen ∧ e.opening ≠ .rightBracket := by
  cases htight : e.isTight with
  | true =>
      have hopening := opening_notMem hprintable htight
      simp_all
  | false => cases e <;> first | (cases htight; done) | exact ⟨nofun, nofun⟩

end Expr

/-- How tightly a token joins what comes before it to what comes after it; what cannot come between
two parts of an expression does not join at all. -/
def Token.grip : Token → Nat
  | str _ | dot | leftBracket | leftParen => 7
  | star | slash | doubleSlash | percent => 6
  | plus | minus => 5
  | equal | notEqual | less | greater | lessEqual | greaterEqual | isIn | not | isSame => 4
  | and => 3
  | or => 2
  | ifWord => 1
  | _ => 0

namespace Parser

/-- How tightly the operators of a level join their operands. -/
def Level.grip : Level → Nat
  | .disjunction => 2
  | .conjunction => 3
  | .sum => 5
  | .term => 6

theorem grip_token (op : BinaryOp) : op.token.grip = op.level.grip := by
  cases op <;> rfl

theorem operator?_of_grip {level : Level} {token : Token} (hgrip : token.grip < level.grip) :
    level.operator? token = none := by
  cases level <;> cases token <;> first | rfl | (simp [Token.grip, Level.grip] at hgrip)

theorem comparison?_of_grip {tokens : List Lexeme} (hgrip : (current tokens).grip < 4) :
    comparison? tokens = none := by
  unfold comparison?
  split <;> simp_all [Token.grip]

/-- Tokens on the only line of a text. -/
def oneLine (tokens : List Token) : List Lexeme :=
  tokens.map (⟨·, 1⟩)

theorem oneLine_cons (token : Token) (tokens : List Token) :
    oneLine (token :: tokens) = ⟨token, 1⟩ :: oneLine tokens := rfl

theorem oneLine_append (tokens tokens' : List Token) :
    oneLine (tokens ++ tokens') = oneLine tokens ++ oneLine tokens' :=
  List.map_append

theorem current_tokens (e : Expr) (rest : List Lexeme) :
    current (oneLine e.tokens ++ rest) = e.opening := by
  obtain ⟨others, hothers⟩ := e.tokens_opening
  rw [hothers, oneLine_cons, List.cons_append, current_cons]

/-! ## Reading the tokens of an expression -/

/-- The tokens of an expression are read as this expression, by each function that can come to it,
before anything that does not reach into it. Three levels are enough for each level of the tree. -/
structure ReadsBack (limits : ParseLimits) (e : Expr) : Prop where
  negation : ∀ {depth : Nat} {rest : List Lexeme}, depth + 3 * e.depth ≤ limits.maxDepth + 2 →
    (current rest).grip < 4 →
      Reaches (fun fuel => negation limits fuel depth (oneLine e.tokens ++ rest)) (e, rest)
  signed : e.isNot = false → ∀ {depth : Nat} {rest : List Lexeme},
    depth + 3 * e.depth ≤ limits.maxDepth + 2 → (current rest).grip < 7 →
      Reaches (fun fuel => signed limits fuel depth (oneLine e.tokens ++ rest)) (e, rest)
  suffixed : e.isTight = true → ∀ {depth : Nat} {rest : List Lexeme} {read : Expr × List Lexeme},
    depth + 3 * e.depth ≤ limits.maxDepth + 2 → (∀ s, current rest ≠ .str s) →
      Reaches (fun fuel => suffixes limits fuel depth e rest) read →
        Reaches (suffixed limits depth (oneLine e.tokens ++ rest)) read

variable {limits : ParseLimits} {depth : Nat} {e : Expr} {rest : List Lexeme}

namespace ReadsBack

theorem term (he : ReadsBack limits e) (hnot : e.isNot = false)
    (hdepth : depth + 3 * e.depth ≤ limits.maxDepth + 2) (hrest : (current rest).grip < 6) :
    Reaches (fun fuel => chain limits fuel .term depth (oneLine e.tokens ++ rest)) (e, rest) :=
  chain_single (operand_term (he.signed hnot hdepth (Nat.lt_succ_of_lt hrest)))
    (operator?_of_grip hrest)

theorem sum_of_signed {tokens : List Lexeme}
    (hsigned : Reaches (fun fuel => Parser.signed limits fuel depth tokens) (e, rest))
    (hrest : (current rest).grip < 5) :
    Reaches (fun fuel => chain limits fuel .sum depth tokens) (e, rest) :=
  chain_single (operand_sum (chain_single (operand_term hsigned)
    (operator?_of_grip (Nat.lt_succ_of_lt hrest)))) (operator?_of_grip hrest)

theorem sum (he : ReadsBack limits e) (hnot : e.isNot = false)
    (hdepth : depth + 3 * e.depth ≤ limits.maxDepth + 2) (hrest : (current rest).grip < 5) :
    Reaches (fun fuel => chain limits fuel .sum depth (oneLine e.tokens ++ rest)) (e, rest) :=
  sum_of_signed (he.signed hnot hdepth (Nat.lt_of_lt_of_le hrest (by decide))) hrest

theorem disjunction_of_negation {tokens : List Lexeme}
    (hnegation : Reaches (fun fuel => Parser.negation limits fuel depth tokens) (e, rest))
    (hrest : (current rest).grip < 2) :
    Reaches (fun fuel => chain limits fuel .disjunction depth tokens) (e, rest) :=
  chain_single (operand_disjunction (chain_single (operand_conjunction hnegation)
    (operator?_of_grip (Nat.lt_succ_of_lt hrest)))) (operator?_of_grip hrest)

theorem conjunction (he : ReadsBack limits e)
    (hdepth : depth + 3 * e.depth ≤ limits.maxDepth + 2) (hrest : (current rest).grip < 3) :
    Reaches (fun fuel => chain limits fuel .conjunction depth (oneLine e.tokens ++ rest))
      (e, rest) :=
  chain_single (operand_conjunction (he.negation hdepth (Nat.lt_succ_of_lt hrest)))
    (operator?_of_grip hrest)

theorem disjunction (he : ReadsBack limits e)
    (hdepth : depth + 3 * e.depth ≤ limits.maxDepth + 2) (hrest : (current rest).grip < 2) :
    Reaches (fun fuel => chain limits fuel .disjunction depth (oneLine e.tokens ++ rest))
      (e, rest) :=
  disjunction_of_negation (he.negation hdepth (Nat.lt_of_lt_of_le hrest (by decide))) hrest

theorem depth_pos (e : Expr) : 0 < e.depth := by
  cases e <;> simp only [Expr.depth] <;> omega

theorem expression (he : ReadsBack limits e)
    (hdepth : depth + 3 * e.depth ≤ limits.maxDepth + 1) (hrest : (current rest).grip < 1) :
    Reaches (fun fuel => expression limits fuel depth (oneLine e.tokens ++ rest)) (e, rest) := by
  have hpos := depth_pos e
  refine expression_plain (by omega) (he.disjunction (by omega) (Nat.lt_succ_of_lt hrest)) ?_
  intro hcurrent
  rw [hcurrent] at hrest
  cases Nat.lt_one_iff.mp hrest

/-- It is enough to read an expression to which something can be attached as such. -/
theorem of_suffixed (hprintable : e.Printable) (htight : e.isTight = true)
    (hsuffixed : ∀ {depth : Nat} {rest : List Lexeme} {read : Expr × List Lexeme},
      depth + 3 * e.depth ≤ limits.maxDepth + 2 → (∀ s, current rest ≠ .str s) →
        Reaches (fun fuel => suffixes limits fuel depth e rest) read →
          Reaches (Parser.suffixed limits depth (oneLine e.tokens ++ rest)) read) :
    ReadsBack limits e := by
  have hopening := Expr.opening_notMem hprintable htight
  simp only [List.mem_cons, not_or] at hopening
  obtain ⟨hnot, hminus, hplus, _⟩ := hopening
  have hsigned : ∀ {depth : Nat} {rest : List Lexeme}, depth + 3 * e.depth ≤ limits.maxDepth + 2 →
      (current rest).grip < 7 →
      Reaches (fun fuel => Parser.signed limits fuel depth (oneLine e.tokens ++ rest))
        (e, rest) := by
    intro depth rest hdepth hrest
    have hne : ∀ token : Token, 7 ≤ token.grip → current rest ≠ token := by
      rintro token hgrip rfl
      omega
    refine signed_plain (by rwa [current_tokens]) (by rwa [current_tokens]) ?_
    exact hsuffixed hdepth (fun s => hne (.str s) (Nat.le_refl 7))
      (suffixes_done (hne .dot (Nat.le_refl 7)) (hne .leftBracket (Nat.le_refl 7))
        (hne .leftParen (Nat.le_refl 7)))
  refine ⟨fun hdepth hrest => ?_, fun _ _ _ => hsigned, fun _ _ _ _ => hsuffixed⟩
  refine negation_plain (by rwa [current_tokens]) ?_ (comparison?_of_grip hrest)
  exact sum_of_signed (hsigned hdepth (Nat.lt_of_lt_of_le hrest (by decide)))
    (Nat.lt_succ_of_lt hrest)

theorem of_primary (hprintable : e.Printable) (htight : e.isTight = true)
    (hprimary : ∀ {depth : Nat} {rest : List Lexeme}, depth + 3 * e.depth ≤ limits.maxDepth + 2 →
      (∀ s, current rest ≠ .str s) →
        Reaches (fun fuel => primary limits fuel depth (oneLine e.tokens ++ rest)) (e, rest)) :
    ReadsBack limits e :=
  of_suffixed hprintable htight fun hdepth hrest => suffixed_primary (hprimary hdepth hrest)

/-- What is printed in parentheses, with one of its parts first, is read back if the text between
them is. -/
theorem of_parenthesised (first : Expr) (others : List Token) (hprintable : e.Printable)
    (htight : e.isTight = true) (hfirst : first.Printable) (htree : first.depth < e.depth)
    (htokens : e.tokens = .leftParen :: (first.tokens ++ (others ++ [.rightParen])))
    (hinner : ∀ {depth : Nat} {rest : List Lexeme}, depth + 3 * e.depth ≤ limits.maxDepth + 2 →
      (current rest).grip < 1 →
        Reaches (fun fuel => Parser.expression limits fuel (depth + 1)
          (oneLine first.tokens ++ (oneLine others ++ rest))) (e, rest)) :
    ReadsBack limits e := by
  have hpos := depth_pos first
  refine of_primary hprintable htight fun hdepth _ => ?_
  rw [htokens, oneLine_cons, oneLine_append, oneLine_append, List.cons_append, List.append_assoc,
    List.append_assoc]
  refine primary_parenthesised (by omega) ?_ (hinner hdepth Nat.one_pos)
  rw [current_tokens]
  exact (Expr.opening_ne_close hfirst).1

/-- What is printed in parentheses is read back if the operation between them is, two levels
deeper. -/
theorem of_operation (first : Expr) (others : List Token) (hprintable : e.Printable)
    (htight : e.isTight = true) (hfirst : first.Printable) (htree : first.depth < e.depth)
    (htokens : e.tokens = .leftParen :: (first.tokens ++ (others ++ [.rightParen])))
    (hinner : ∀ {depth : Nat} {rest : List Lexeme}, depth + 3 * e.depth ≤ limits.maxDepth + 4 →
      (current rest).grip < 2 →
        Reaches (fun fuel => chain limits fuel .disjunction depth
          (oneLine first.tokens ++ (oneLine others ++ rest))) (e, rest)) :
    ReadsBack limits e := by
  have hpos := depth_pos first
  refine of_parenthesised first others hprintable htight hfirst htree htokens fun hdepth hrest => ?_
  refine expression_plain (by omega) (hinner (by omega) (Nat.lt_succ_of_lt hrest)) ?_
  intro hcurrent
  rw [hcurrent] at hrest
  cases Nat.lt_one_iff.mp hrest

theorem of_negate (he : ReadsBack limits e) (hnot : e.isNot = false) :
    ReadsBack limits (.negate e) := by
  have hpos := depth_pos e
  have hsigned : ∀ {depth : Nat} {rest : List Lexeme},
      depth + 3 * (Expr.negate e).depth ≤ limits.maxDepth + 2 → (current rest).grip < 7 →
      Reaches (fun fuel => Parser.signed limits fuel depth
        (oneLine (Expr.negate e).tokens ++ rest)) (.negate e, rest) := by
    intro depth rest hdepth hrest
    rw [Expr.depth] at hdepth
    exact signed_minus (by omega) (he.signed hnot (by omega) hrest)
  refine ⟨fun hdepth hrest => ?_, fun _ _ _ => hsigned, nofun⟩
  refine negation_plain nofun ?_ (comparison?_of_grip hrest)
  exact sum_of_signed (hsigned hdepth (Nat.lt_of_lt_of_le hrest (by decide)))
    (Nat.lt_succ_of_lt hrest)

theorem of_not (he : ReadsBack limits e) : ReadsBack limits (.not e) := by
  have hpos := depth_pos e
  refine ⟨fun hdepth hrest => ?_, nofun, nofun⟩
  rw [Expr.depth] at hdepth
  exact negation_not (by omega) (he.negation (by omega) hrest)

end ReadsBack

/-! ## Operands between operators -/

theorem items_readBack {close : Token} (hclose : close = .rightParen ∨ close = .rightBracket)
    {list : List Expr} (hlist : ∀ item ∈ list, item.Printable ∧ ReadsBack limits item)
    (hdepth : depth + 3 * Expr.depthOfList list ≤ limits.maxDepth + 1) :
    Reaches (fun fuel => items limits fuel close depth
      (oneLine (Expr.itemTokens list ++ [close]) ++ rest)) (list, rest) := by
  induction list with
  | nil => exact items_none
  | cons e list ih =>
      obtain ⟨⟨hprintable, he⟩, hlist⟩ := List.forall_mem_cons.mp hlist
      rw [Expr.depthOfList] at hdepth
      have hopening : ∀ rest, current (oneLine e.tokens ++ rest) ≠ close := by
        intro rest
        rw [current_tokens]
        obtain rfl | rfl := hclose
        · exact (Expr.opening_ne_close hprintable).1
        · exact (Expr.opening_ne_close hprintable).2
      have hgrip : close.grip < 1 ∧ close ≠ .comma := by
        obtain rfl | rfl := hclose <;> decide
      rw [Expr.itemTokens]
      cases list with
      | nil =>
          rw [List.isEmpty_nil, if_pos rfl, List.append_nil, oneLine_append, List.append_assoc]
          exact items_last (hopening _) hgrip.2 (he.expression (by omega) hgrip.1)
      | cons next list =>
          rw [if_neg (by simp), List.append_assoc, List.cons_append, oneLine_append,
            List.append_assoc, oneLine_cons, List.cons_append]
          exact items_more (hopening _) (he.expression (by omega) Nat.one_pos)
            (ih hlist (by omega))

theorem comparison?_tokens (op : CompareOp) {rest : List Lexeme} (hrest : current rest ≠ .not) :
    comparison? (oneLine op.tokens ++ rest) = some (op, rest) := by
  cases op <;> simp [comparison?, CompareOp.tokens, oneLine]

theorem grip_linkTokens (links : List (CompareOp × Expr)) (hrest : (current rest).grip < 5) :
    (current (oneLine (Expr.linkTokens links) ++ rest)).grip < 5 := by
  cases links with
  | nil => exact hrest
  | cons link links =>
      obtain ⟨op, e⟩ := link
      cases op <;> exact (by decide : 4 < 5)

theorem comparisons_readBack {links : List (CompareOp × Expr)}
    (hlinks : ∀ link ∈ links, link.2.isNot = false ∧ link.2.Printable ∧ ReadsBack limits link.2)
    (hdepth : depth + 3 * Expr.depthOfLinks links ≤ limits.maxDepth + 2)
    (hrest : (current rest).grip < 4) :
    Reaches (fun fuel => comparisons limits fuel depth (oneLine (Expr.linkTokens links) ++ rest))
      (links, rest) := by
  induction links with
  | nil => exact comparisons_done (comparison?_of_grip hrest)
  | cons link links ih =>
      obtain ⟨op, e⟩ := link
      obtain ⟨⟨hnot, hprintable, he⟩, hlinks⟩ := List.forall_mem_cons.mp hlinks
      rw [Expr.depthOfLinks] at hdepth
      dsimp only at hdepth hnot hprintable he
      rw [Expr.linkTokens, oneLine_append, oneLine_append, List.append_assoc, List.append_assoc]
      refine comparisons_link (comparison?_tokens op ?_) (he.sum hnot (by omega) ?_)
        (ih hlinks (by omega))
      · rw [current_tokens]
        exact Expr.opening_ne_not hprintable hnot
      · exact grip_linkTokens links (Nat.lt_succ_of_lt hrest)

/-! ## Each kind of expression -/

namespace ReadsBack

variable {left right object : Expr} {name : String} {list : List Expr}

theorem of_binary {op : BinaryOp} (hprintable : (Expr.binary op left right).Printable)
    (hleft : ReadsBack limits left) (hright : ReadsBack limits right) :
    ReadsBack limits (.binary op left right) := by
  have hkeep := hprintable
  obtain ⟨hnotLeft, hnotRight, hprintableLeft, _⟩ := hkeep
  have hop := op.operator?_token
  have hgrip := grip_token op
  refine of_operation left (op.token :: right.tokens) hprintable rfl hprintableLeft
    (by rw [Expr.depth]; omega) rfl fun hdepth hrest => ?_
  rw [Expr.depth] at hdepth
  refine disjunction_of_negation (negation_plain ?_ ?_ (comparison?_of_grip (by omega))) hrest
  · rw [current_tokens]
    exact Expr.opening_ne_not hprintableLeft hnotLeft
  rw [oneLine_cons, List.cons_append]
  obtain hlevel | hlevel := op.level_eq
  · rw [hlevel] at hop hgrip
    have hless : op.token.grip < 6 := hgrip ▸ (by decide : 5 < 6)
    exact chain_operation hop
      (operand_sum (hleft.term hnotLeft (by omega) hless))
      (operand_sum (hright.term hnotRight (by omega) (by omega)))
      (operator?_of_grip (Nat.lt_of_lt_of_le hrest (by decide)))
  · -- An operation of the tighter level is the only operand of a sum.
    rw [hlevel] at hop hgrip
    have hless : op.token.grip < 7 := hgrip ▸ (by decide : 6 < 7)
    exact chain_single (operand_sum (chain_operation hop
        (operand_term (hleft.signed hnotLeft (by omega) hless))
        (operand_term (hright.signed hnotRight (by omega) (by omega)))
        (operator?_of_grip (Nat.lt_of_lt_of_le hrest (by decide)))))
      (operator?_of_grip (Nat.lt_of_lt_of_le hrest (by decide)))

theorem of_compare {first : Expr} {links : List (CompareOp × Expr)}
    (hprintable : (Expr.compare first links).Printable) (hfirst : ReadsBack limits first)
    (hlinks : ∀ link ∈ links,
      link.2.isNot = false ∧ link.2.Printable ∧ ReadsBack limits link.2) :
    ReadsBack limits (.compare first links) := by
  have hkeep := hprintable
  obtain ⟨hne, hnot, hprintableFirst, _⟩ := hkeep
  refine of_operation first (Expr.linkTokens links) hprintable rfl hprintableFirst
    (by rw [Expr.depth]; omega) rfl fun hdepth hrest => ?_
  rw [Expr.depth] at hdepth
  have hrest' : (current _).grip < 4 := Nat.lt_of_lt_of_le hrest (by decide)
  refine disjunction_of_negation (negation_compare ?_ (hfirst.sum hnot (by omega) ?_)
    (comparisons_readBack hlinks (by omega) hrest') hne) hrest
  · rw [current_tokens]
    exact Expr.opening_ne_not hprintableFirst hnot
  · exact grip_linkTokens links (Nat.lt_succ_of_lt hrest')

theorem of_and (hprintable : (Expr.and left right).Printable) (hleft : ReadsBack limits left)
    (hright : ReadsBack limits right) : ReadsBack limits (.and left right) := by
  refine of_operation left (.and :: right.tokens) hprintable rfl hprintable.1
    (by rw [Expr.depth]; omega) rfl fun hdepth hrest => ?_
  rw [Expr.depth] at hdepth
  have hop : Level.conjunction.operator? .and = some .and := rfl
  exact chain_single (operand_disjunction (chain_operation hop
      (operand_conjunction (hleft.negation (by omega) (Nat.lt_succ_self 3)))
      (operand_conjunction (hright.negation (by omega) (Nat.lt_of_lt_of_le hrest (by decide))))
      (operator?_of_grip (Nat.lt_of_lt_of_le hrest (by decide)))))
    (operator?_of_grip hrest)

theorem of_or (hprintable : (Expr.or left right).Printable) (hleft : ReadsBack limits left)
    (hright : ReadsBack limits right) : ReadsBack limits (.or left right) := by
  refine of_operation left (.or :: right.tokens) hprintable rfl hprintable.1
    (by rw [Expr.depth]; omega) rfl fun hdepth hrest => ?_
  rw [Expr.depth] at hdepth
  exact chain_operation rfl
    (operand_disjunction (hleft.conjunction (by omega) (Nat.lt_succ_self 2)))
    (operand_disjunction (hright.conjunction (by omega) (Nat.lt_succ_of_lt hrest)))
    (operator?_of_grip hrest)

theorem of_cond {condition value other : Expr}
    (hprintable : (Expr.cond condition value other).Printable)
    (hcondition : ReadsBack limits condition) (hvalue : ReadsBack limits value)
    (hother : ReadsBack limits other) : ReadsBack limits (.cond condition value other) := by
  refine of_parenthesised value (.ifWord :: (condition.tokens ++ .elseWord :: other.tokens))
    hprintable rfl hprintable.2.1 (by rw [Expr.depth]; omega) (by simp [Expr.tokens])
    fun hdepth hrest => ?_
  rw [Expr.depth] at hdepth
  rw [oneLine_cons, oneLine_append, oneLine_cons, List.cons_append, List.append_assoc]
  have hpos := depth_pos value
  -- The last part is an expression of its own, which is one level deeper than the choice.
  exact expression_cond (by omega) (hvalue.disjunction (by omega) (Nat.lt_succ_self 1))
    (hcondition.disjunction (by omega) Nat.two_pos) (hother.expression (by omega) hrest)

theorem of_list (hprintable : (Expr.list list).Printable)
    (hlist : ∀ item ∈ list, item.Printable ∧ ReadsBack limits item) :
    ReadsBack limits (.list list) := by
  refine of_primary hprintable rfl fun hdepth _ => ?_
  rw [Expr.depth] at hdepth
  exact primary_list (by omega) (items_readBack (.inr rfl) hlist (by omega))

theorem of_attr (hprintable : (Expr.attr object name).Printable)
    (hobject : ReadsBack limits object) : ReadsBack limits (.attr object name) := by
  refine of_suffixed hprintable rfl fun hdepth _ hsuffixes => ?_
  rw [Expr.depth] at hdepth
  rw [Expr.tokens, oneLine_append, List.append_assoc]
  exact hobject.suffixed hprintable.1 (by omega) nofun (suffixes_attr hsuffixes)

theorem of_index {position : Expr} (hprintable : (Expr.index object position).Printable)
    (hobject : ReadsBack limits object) (hposition : ReadsBack limits position) :
    ReadsBack limits (.index object position) := by
  refine of_suffixed hprintable rfl fun hdepth _ hsuffixes => ?_
  rw [Expr.depth] at hdepth
  rw [Expr.tokens, oneLine_append, oneLine_cons, oneLine_append, List.append_assoc,
    List.cons_append, List.append_assoc]
  exact hobject.suffixed hprintable.1 (by omega) nofun
    (suffixes_index (hposition.expression (by omega) Nat.one_pos) hsuffixes)

theorem of_call {callee : Expr} (hprintable : (Expr.call callee list).Printable)
    (hcallee : ReadsBack limits callee)
    (hlist : ∀ item ∈ list, item.Printable ∧ ReadsBack limits item) :
    ReadsBack limits (.call callee list) := by
  refine of_suffixed hprintable rfl fun hdepth _ hsuffixes => ?_
  rw [Expr.depth] at hdepth
  rw [Expr.tokens, oneLine_append, oneLine_cons, List.append_assoc, List.cons_append]
  exact hcallee.suffixed hprintable.1 (by omega) nofun
    (suffixes_call (items_readBack (.inl rfl) hlist (by omega)) hsuffixes)

end ReadsBack

mutual

/-- The tokens of every expression that can be read back are read back. -/
theorem readsBack : ∀ {e : Expr}, e.Printable → ReadsBack limits e
  | .null, hprintable | .bool _, hprintable | .int _, hprintable | .var _, hprintable
  | .path _, hprintable => .of_primary hprintable rfl fun _ _ => .called <| by
      simp only [Expr.tokens, oneLine_cons, List.cons_append, primary, current_cons]
      exact .ok _
  | .str _, hprintable => .of_primary hprintable rfl fun _ hrest => primary_str hrest
  | .list _, hprintable => .of_list hprintable (readsBack_all hprintable)
  | .binary .., hprintable =>
      .of_binary hprintable (readsBack hprintable.2.2.1) (readsBack hprintable.2.2.2)
  | .compare .., hprintable =>
      .of_compare hprintable (readsBack hprintable.2.2.1) (readsBack_links hprintable.2.2.2)
  | .negate _, hprintable => .of_negate (readsBack hprintable.2) hprintable.1
  | .and .., hprintable => .of_and hprintable (readsBack hprintable.1) (readsBack hprintable.2)
  | .or .., hprintable => .of_or hprintable (readsBack hprintable.1) (readsBack hprintable.2)
  | .not _, hprintable => .of_not (readsBack hprintable)
  | .attr .., hprintable => .of_attr hprintable (readsBack hprintable.2.2.1)
  | .index .., hprintable =>
      .of_index hprintable (readsBack hprintable.2.1) (readsBack hprintable.2.2)
  | .call .., hprintable =>
      .of_call hprintable (readsBack hprintable.2.1) (readsBack_all hprintable.2.2)
  | .cond .., hprintable =>
      .of_cond hprintable (readsBack hprintable.1) (readsBack hprintable.2.1)
        (readsBack hprintable.2.2)

theorem readsBack_all : ∀ {list : List Expr}, Expr.PrintableAll list →
    ∀ item ∈ list, item.Printable ∧ ReadsBack limits item
  | [], _ => nofun
  | _ :: _, hlist => List.forall_mem_cons.mpr
      ⟨⟨hlist.1, readsBack hlist.1⟩, readsBack_all hlist.2⟩

theorem readsBack_links : ∀ {links : List (CompareOp × Expr)}, Expr.PrintableLinks links →
    ∀ link ∈ links, link.2.isNot = false ∧ link.2.Printable ∧ ReadsBack limits link.2
  | [], _ => nofun
  | (_, _) :: _, hlinks => List.forall_mem_cons.mpr
      ⟨⟨hlinks.1, hlinks.2.1, readsBack hlinks.2.1⟩, readsBack_links hlinks.2.2⟩

end

end Parser

end SchemaGuard
