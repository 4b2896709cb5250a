import SchemaGuard.Eval.Error
import SchemaGuard.Value.Membership
import SchemaGuard.Value.Text

/-! # Operators

Arithmetic, comparison, and the reading of attributes and positions. Operations on 64-bit
integers give the exact result or fail; as soon as a floating point number takes part,
the result is rounded, and one that is not finite is a failure.
-/

namespace SchemaGuard.Eval

/-- The numeric view of an operand: truth values count as integers. -/
inductive Num where
  | int (i : Int)
  | real (x : Binary64)

/-- The numeric view of a value. -/
def Num.of? : Value → Option Num
  | .bool b => some (.int (if b then 1 else 0))
  | .int i => if Int64Range.holds i then some (.int i) else some (.real (Binary64.ofInt i))
  | .float x => some (.real x)
  | _ => none

/-- The floating point view of an operand. -/
def Num.toReal : Num → Binary64
  | .int i => Binary64.ofInt i
  | .real x => x

/-- An integer result, unless it needs more than 64 bits. -/
def ofInt (i : Int) : Except EvalError Value :=
  if Int64Range.holds i then .ok (.int i) else .error .overflow

/-- A floating point result, unless it is not finite. -/
def ofReal : Option Binary64 → Except EvalError Value
  | some x => .ok (.float x)
  | none => .error .overflow

/-- The remainder of floored division. It is taken together with the quotient, so it fails where the
quotient needs more than 64 bits. -/
def intModulo (a b : Int) : Except EvalError Value :=
  if Int64Range.holds (a.tdiv b) then ofInt (a.fmod b) else .error .overflow

/-- An operation on two integers; the divisor of an integer division is not zero. -/
def intArithmetic : BinaryOp → Int → Int → Except EvalError Value
  | .add, a, b => ofInt (a + b)
  | .subtract, a, b => ofInt (a - b)
  | .multiply, a, b => ofInt (a * b)
  | .floorDivide, a, b => ofInt (a.fdiv b)
  | .modulo, a, b => intModulo a b
  | .divide, a, b => ofReal ((Binary64.ofInt a).div? (Binary64.ofInt b))

/-- An operation on two floating point numbers. -/
def realArithmetic : BinaryOp → Binary64 → Binary64 → Except EvalError Value
  | .add, a, b => ofReal (a.add? b)
  | .subtract, a, b => ofReal (a.sub? b)
  | .multiply, a, b => ofReal (a.mul? b)
  | .floorDivide, a, b => ofReal (a.floorDiv? b)
  | .modulo, a, b => ofReal (a.floorMod? b)
  | .divide, a, b => ofReal (a.div? b)

/-- Whether an operator divides. -/
def divides : BinaryOp → Bool
  | .divide | .floorDivide | .modulo => true
  | _ => false

/-- An operation on two numbers. -/
def numArithmetic (op : BinaryOp) (left right : Num) : Except EvalError Value :=
  if divides op && right.toReal.isZero then .error .divisionByZero
  else match left, right with
    | .int a, .int b => intArithmetic op a b
    | left, right => realArithmetic op left.toReal right.toReal

/-- A list repeated. Both the count and the size of the result are held below a limit. -/
def repeatList {α : Type} (items : List α) (count : Int) (max : Nat) :
    Except EvalError (List α) :=
  let count := count.toNat
  if max < count ∨ max < items.length * count then .error (.tooManySteps max)
  else .ok (List.replicate count items).flatten

/-- A text repeated. -/
def repeatText (s : String) (count : Int) (max : Nat) : Except EvalError Value :=
  (repeatList s.toList count max).map (fun text => .str (String.ofList text))

/-- The repetition of a sequence, if that is what two factors ask for. -/
def repetition? (max : Nat) : Value → Value → Option (Except EvalError Value)
  | .str s, .int n => if Int64Range.holds n then some (repeatText s n max) else none
  | .int n, .str s => if Int64Range.holds n then some (repeatText s n max) else none
  | .list items, .int n =>
      if Int64Range.holds n then some ((repeatList items n max).map .list) else none
  | .int n, .list items =>
      if Int64Range.holds n then some ((repeatList items n max).map .list) else none
  | _, _ => none

/-- The result of an operation on sequences, if that is what the operands ask for. -/
def sequenceArithmetic? (max : Nat) :
    BinaryOp → Value → Value → Option (Except EvalError Value)
  | .add, .str l, .str r => some (.ok (.str (l ++ r)))
  | .add, .list l, .list r => some (.ok (.list (l ++ r)))
  | .multiply, l, r => repetition? max l r
  | _, _, _ => none

/-- An arithmetic operation; `max` limits the size of repeated sequences. -/
def arithmetic (op : BinaryOp) (left right : Value) (max : Nat) : Except EvalError Value :=
  match sequenceArithmetic? max op left right with
  | some result => result
  | none =>
      match Num.of? left, Num.of? right with
      | some l, some r => numArithmetic op l r
      | _, _ => .error (.wrongKind (.operands op left.kindName right.kindName))

/-- The negative of a number. -/
def negate (value : Value) : Except EvalError Value :=
  match Num.of? value with
  | some (.int i) => ofInt (-i)
  | some (.real x) => .ok (.float x.neg)
  | none => .error (.wrongKind (.negation value.kindName))

/-- A comparison by order. -/
def ordered (op : CompareOp) (accept : Ordering → Bool) (left right : Value) :
    Except EvalError Bool :=
  match left.order? right with
  | some order => .ok (accept order)
  | none => .error (.wrongKind (.unordered op left.kindName right.kindName))

/-- Whether the right operand contains the left one. -/
def membership (left right : Value) : Except EvalError Bool :=
  match right.contains? left with
  | some found => .ok found
  | none => .error (.wrongKind (.noContainer left.kindName right.kindName))

/-- A comparison of two values. -/
def compare (op : CompareOp) (left right : Value) : Except EvalError Bool :=
  match op with
  | .equal => .ok (left.equal right)
  | .notEqual => .ok (!left.equal right)
  | .less => ordered op Ordering.isLT left right
  | .greater => ordered op Ordering.isGT left right
  | .lessOrEqual => ordered op Ordering.isLE left right
  | .greaterOrEqual => ordered op Ordering.isGE left right
  | .isIn => membership left right
  | .notIn => (membership left right).map (fun found => !found)
  | .isSame => .ok (left.identical right)
  | .isNotSame => .ok (!left.identical right)

/-- The value of a name in a table. -/
def readAttribute (receiver : Value) (name : String) : Except EvalError Value :=
  let missing : Except EvalError Value := .error (.missingAttribute receiver.kindName name)
  match receiver with
  | .dict entries =>
      match Table.get? entries name with
      | some value => .ok value
      | none => missing
  | _ => missing

/-- The values of attributes of attributes. -/
def readAttributes : Value → List String → Except EvalError Value
  | receiver, [] => .ok receiver
  | receiver, name :: rest => do
      let inner ← readAttribute receiver name
      readAttributes inner rest

/-- The element at an index, which counts from the end when it is negative. -/
def elementAt {α : Type} (items : List α) (index : Int) : Except EvalError α :=
  let position := if index < 0 then items.length + index else index
  if position < 0 then .error (.indexOutOfRange index)
  else match items[position.toNat]? with
    | some item => .ok item
    | none => .error (.indexOutOfRange index)

/-- The element, character or entry at a position. -/
def readIndex (receiver position : Value) : Except EvalError Value :=
  let wrong : Except EvalError Value :=
    .error (.wrongKind (.badIndex receiver.kindName position.kindName))
  match receiver, position with
  | .list items, .int i => if Int64Range.holds i then elementAt items i else wrong
  | .str s, .int i =>
      if Int64Range.holds i then
        (elementAt s.toList i).map (fun c => .str (String.singleton c))
      else wrong
  | .dict entries, .str name =>
      match Table.get? entries name with
      | some value => .ok value
      | none => .error (.raised "KeyError" position.quoted)
  | _, _ => wrong

end SchemaGuard.Eval
