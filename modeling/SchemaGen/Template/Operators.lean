import SchemaGen.Template.Ast
import SchemaGen.Template.Value

/-!
# Operators of templates

Integers have 128 bits, and an operation that leaves them is a fault; an
operation with a floating-point number is done on such numbers. Division by the
slash is always done on floating-point numbers, the other division and the
remainder round so that the remainder is never negative.
-/

namespace SchemaGen.Template.Operators

open SchemaGen.Number

/-- The operation fails on its operands. -/
def refuse {α : Type} : Op α :=
  .error .invalidOperation

/-- Does an integer have at most 128 bits, one of them for the sign? -/
def fits (n : Int) : Bool :=
  if n < 0 then n.natAbs ≤ Nat.pow 2 127 else n.natAbs < Nat.pow 2 127

/-- An integer result, if it fits. -/
def integer (n : Int) : Op Val :=
  if fits n then .ok (.int n) else refuse

/-- Do an operation on two numbers: on integers if both are. -/
def arithmetic (onInts : Int → Int → Op Val) (onFloats : Binary64 → Binary64 → Binary64)
    (a b : Val) : Op Val :=
  match a.numeral?, b.numeral? with
  | some (.int m), some (.int n) => onInts m n
  | some x, some y => .ok (.float (onFloats x.toFloat y.toFloat))
  | _, _ => refuse

/-- Sum of numbers, or two texts or rows put together. -/
def add (a b : Val) : Op Val :=
  match a, b with
  | .str _ s, .str _ t => .ok (.text (s ++ t))
  | .seq _ xs, .seq _ ys => .ok (.seq false (xs ++ ys))
  | a, b => arithmetic (fun m n => integer (m + n)) (Binary64.lift₂ (· + ·)) a b

/-- Difference of numbers. -/
def sub (a b : Val) : Op Val :=
  arithmetic (fun m n => integer (m - n)) (Binary64.lift₂ (· - ·)) a b

/-- How often a text or a row is to be repeated. -/
def times (v : Val) : Op Nat :=
  match v.int? with
  | some n => if 0 ≤ n then .ok n.toNat else refuse
  | none => refuse

/-- Product of numbers, or a text or a row repeated. -/
def mul (a b : Val) : Op Val :=
  match a, b with
  | .str _ s, n => do return .text (String.join (List.replicate (← times n) s))
  | n, .str _ s => do return .text (String.join (List.replicate (← times n) s))
  | .seq _ xs, n => do return .seq false (List.replicate (← times n) xs).flatten
  | n, .seq _ xs => do return .seq false (List.replicate (← times n) xs).flatten
  | a, b => arithmetic (fun m n => integer (m * n)) (Binary64.lift₂ (· * ·)) a b

/-- Quotient of numbers, never an integer. -/
def div (a b : Val) : Op Val :=
  match a.numeral?, b.numeral? with
  | some x, some y =>
    .ok (.float (Binary64.lift₂ (· / ·) x.toFloat y.toFloat))
  | _, _ => refuse

/-- The whole quotient of two floating-point numbers. -/
def wholeQuotient (x y : Binary64) : Binary64 :=
  let q := Binary64.lift₂ (· / ·) x y
  let whole := if q.isNegative then (q.neg.floor).neg else q.floor
  let r := Binary64.truncRem x y
  if r.isNegative && r.significand != 0 && !r.isNaN then
    let one := Binary64.ofInt 1
    if y.isNegative then Binary64.lift₂ (· + ·) whole one
    else Binary64.lift₂ (· - ·) whole one
  else whole

/-- Whole quotient of numbers. -/
def floorDiv (a b : Val) : Op Val :=
  arithmetic (fun m n => if n = 0 then refuse else integer (m / n)) wholeQuotient a b

/-- Remainder of numbers. -/
def rem (a b : Val) : Op Val :=
  arithmetic (fun m n => if n = 0 then refuse else integer (m % n)) Binary64.truncRem a b

/-- Multiply by a base again and again, as long as the result fits. -/
def powerWithin (base : Int) : Nat → Int → Op Val
  | 0, n => integer n
  | k + 1, n =>
    if base = 0 ∨ base = 1 then integer (n * base)
    else if base = -1 then integer (if k % 2 = 0 then -n else n)
    else match integer (n * base) with
      | .ok _ => powerWithin base k (n * base)
      | .error e => .error e

/-- Power of integers with a non-negative exponent. -/
def intPower (m n : Int) : Op Val :=
  if 0 ≤ n ∧ n.natAbs < Nat.pow 2 32 then powerWithin m n.toNat 1 else refuse

/-- Power of numbers. -/
def pow (a b : Val) : Op Val :=
  arithmetic intPower (Binary64.lift₂ Float.pow) a b

/-- The number with the opposite sign. -/
def negate : Val → Op Val
  | .int n => integer (-n)
  | .float x => .ok (.float x.neg)
  | _ => refuse

/-- Does a list hold another as a run? -/
def hasRun (run : List Char) : List Char → Bool
  | [] => run.isEmpty
  | c :: rest => run.isPrefixOf (c :: rest) || hasRun run rest

/-- Is a value in a container? -/
def contains (container v : Val) : Op Val :=
  match container with
  | .undefined => .ok (.bool false)
  | .str _ s => .ok (.bool (hasRun v.print.toList s.toList))
  | .seq _ items => .ok (.bool (items.any (·.same v)))
  | .map entries => .ok (.bool (Val.lookup entries v).isSome)
  | .routine _ _ | .builtin _ => .ok (.bool false)
  | _ => refuse

/-- Apply an operator. -/
def apply (op : BinaryOp) (a b : Val) : Op Val :=
  match op with
  | .eq => .ok (.bool (a.same b))
  | .ne => .ok (.bool (!a.same b))
  | .lt => .ok (.bool (a.order b == .lt))
  | .le => .ok (.bool (a.order b != .gt))
  | .gt => .ok (.bool (a.order b == .gt))
  | .ge => .ok (.bool (a.order b != .lt))
  | .add => add a b
  | .sub => sub a b
  | .mul => mul a b
  | .div => div a b
  | .floorDiv => floorDiv a b
  | .rem => rem a b
  | .pow => pow a b
  | .concat => .ok (.text (a.print ++ b.print))
  | .contains => contains b a

/-! ## Subscripts -/

/-- The place that an index means in a row of `n`; a negative one counts from
the end. -/
def place? (n : Nat) (index : Val) : Option Nat :=
  match index.int? with
  | some i => if 0 ≤ i then some i.toNat else if -i ≤ n then some (n - (-i).toNat) else none
  | none => none

/-- The item under an index or a key, if there is one. -/
def item? (v index : Val) : Option Val :=
  match v with
  | .seq _ items => do items[← place? items.length index]?
  | .str _ s => do
    let c ← s.toList[← place? s.length index]?
    return .text (String.ofList [c])
  | .map entries => Val.lookup entries index
  | _ => none

/-- An item; an undefined value has none. -/
def item (v index : Val) : Op Val :=
  match v with
  | .undefined => .error .undefined
  | v => .ok ((item? v index).getD .undefined)

/-- An attribute of a mapping; an undefined value has none. -/
def attr (v : Val) (name : String) : Op Val :=
  match v with
  | .undefined => .error .undefined
  | .map entries => .ok ((Val.lookup entries (.text name)).getD .undefined)
  | _ => .ok .undefined

/-- A bound of a slice. -/
def bound (v : Val) : Op (Option Int) :=
  match v with
  | .none => .ok none
  | v => match v.int? with
    | some n => .ok (some n)
    | none => refuse

/-- A bound counted from the start of a row of `n`. -/
def fromStart (n : Nat) (i : Int) : Int :=
  if i < 0 then n + i else i

/-- Every `step`-th item, beginning with the first. -/
def everyNth {α : Type} (step : Nat) : Nat → List α → List α
  | _, [] => []
  | 0, x :: rest => x :: everyNth step (step - 1) rest
  | k + 1, _ :: rest => everyNth step k rest

/-- The items from a start up to a stop, forward. -/
def forward {α : Type} (start stop : Option Int) (step : Nat) (xs : List α) : List α :=
  let low := (fromStart xs.length (start.getD 0)).toNat
  let high := (fromStart xs.length (stop.getD xs.length)).toNat
  everyNth step 0 ((xs.take high).drop low)

/-- The items from a start down to a stop, backward. -/
def backward {α : Type} (start stop : Option Int) (step : Nat) (xs : List α) : List α :=
  let n := xs.length
  let high := match start with
    | none => n
    | some i => (fromStart n i + 1).toNat
  let low := match stop with
    | none => 0
    | some i => (fromStart n i + 1).toNat
  everyNth step 0 ((xs.take high).drop low).reverse

/-- The items of a slice. A negative step runs backward. -/
def sliceItems {α : Type} (start stop : Option Int) (step : Int) (xs : List α) : List α :=
  if 0 < step then forward start stop step.toNat xs
  else backward start stop (-step).toNat xs

/-- A slice of a text or a row. -/
def slice (v start stop step : Val) : Op Val := do
  let start ← bound start
  let stop ← bound stop
  let step := (← bound step).getD 1
  if step = 0 then refuse
  match v with
  | .undefined | .none => return .seq true []
  | .str _ s => return .text (String.ofList (sliceItems start stop step s.toList))
  | .seq _ items => return .seq false (sliceItems start stop step items)
  | _ => refuse

end SchemaGen.Template.Operators
