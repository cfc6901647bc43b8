import SchemaGen.Number.Binary64

/-!
# Templates as trees

Expressions and statements of templates. Names and literals carry the line they
stand on, so that a fault can be reported where it is met: an operation is met
on the line of the last operand read before it.
-/

namespace SchemaGen.Template

open SchemaGen.Number

/-- A literal. -/
inductive Literal where
  | none
  | bool (b : Bool)
  | int (n : Nat)
  | float (x : Binary64)
  | str (s : String)
  deriving Repr, DecidableEq

/-- An operator with two operands that are both evaluated. -/
inductive BinaryOp where
  | eq | ne | lt | le | gt | ge
  | add | sub | mul | div | floorDiv | rem | pow
  | concat | contains
  deriving Repr, DecidableEq

mutual

/-- An expression. -/
inductive Expr where
  | literal (line : Nat) (l : Literal)
  | var (line : Nat) (name : String)
  | list (line : Nat) (items : List Expr)
  | map (line : Nat) (entries : List (Expr × Expr))
  | negate (e : Expr)
  | not (e : Expr)
  | binary (op : BinaryOp) (left right : Expr)
  | and (left right : Expr)
  | or (left right : Expr)
  | choose (test whenTrue : Expr) (whenFalse : Option Expr)
  | attr (e : Expr) (name : String)
  | item (e index : Expr)
  | slice (e : Expr) (start stop step : Option Expr)
  /-- A filter; without an operand it takes the text of a block. -/
  | filter (line : Nat) (name : String) (operand : Option Expr) (args : List Argument)
  | test (name : String) (operand : Expr) (args : List Argument)
  | call (callee : Expr) (args : List Argument)

/-- An argument of a call. -/
inductive Argument where
  | positional (e : Expr)
  | keyword (name : String) (e : Expr)
  | spread (e : Expr)
  | spreadKeywords (e : Expr)

end

instance : Inhabited Expr := ⟨.literal 0 .none⟩

/-- What a value is assigned to. -/
inductive Target where
  | var (name : String)
  | attr (e : Expr) (name : String)
  | list (targets : List Target)

/-- The parameters of a routine, with the defaults of some. -/
abbrev Params := List (String × Option Expr)

/-- A statement. -/
inductive Stmt where
  | text (s : String)
  | emit (e : Expr)
  | loop (target : Target) (source : Expr) (condition : Option Expr) (recursive : Bool)
      (body otherwise : List Stmt)
  | cond (test : Expr) (whenTrue whenFalse : List Stmt)
  | scope (bindings : List (Target × Expr)) (body : List Stmt)
  | assign (target : Target) (e : Expr)
  | capture (target : Target) (filter : Option Expr) (body : List Stmt)
  | escaping (mode : Expr) (body : List Stmt)
  | filtered (filter : Expr) (body : List Stmt)
  | block (line : Nat) (name : String) (body : List Stmt)
  | extend (parent : Expr)
  | embed (source : Expr) (ignoreMissing : Bool)
  | load (source : Expr) (target : Target)
  | loadNames (source : Expr) (names : List (Target × Expr))
  | define (name : String) (params : Params) (body : List Stmt)
  | callWith (callee : Expr) (args : List Argument) (params : Params) (body : List Stmt)
  | run (e : Expr)

instance : Inhabited Stmt := ⟨.text ""⟩

/-! ## Lines -/

namespace Expr

mutual

/-- The line of the last name or literal of an expression. -/
def lastLine : Expr → Nat
  | .literal line _ => line
  | .var line _ => line
  | .list line items => (lastOfItems items).getD line
  | .map line entries => (lastOfEntries entries).getD line
  | .negate e => lastLine e
  | .not e => lastLine e
  | .binary _ _ right => lastLine right
  | .and _ right => lastLine right
  | .or _ right => lastLine right
  | .choose _ whenTrue whenFalse => (lastOfOption whenFalse).getD (lastLine whenTrue)
  | .attr e _ => lastLine e
  | .item _ index => lastLine index
  | .slice e start stop step =>
    ((lastOfOption step).or ((lastOfOption stop).or (lastOfOption start))).getD (lastLine e)
  | .filter line _ operand args =>
    ((lastOfArgs args).or (lastOfOption operand)).getD line
  | .test _ operand args => (lastOfArgs args).getD (lastLine operand)
  | .call callee args => (lastOfArgs args).getD (lastLine callee)

/-- The last line of an expression that may be absent. -/
def lastOfOption : Option Expr → Option Nat
  | none => none
  | some e => some (lastLine e)

/-- The last line of the items. -/
def lastOfItems : List Expr → Option Nat
  | [] => none
  | e :: rest => (lastOfItems rest).or (some (lastLine e))

/-- The last line of the entries. -/
def lastOfEntries : List (Expr × Expr) → Option Nat
  | [] => none
  | (_, v) :: rest => (lastOfEntries rest).or (some (lastLine v))

/-- The last line of the arguments. -/
def lastOfArgs : List Argument → Option Nat
  | [] => none
  | a :: rest => (lastOfArgs rest).or (some (lineOfArgument a))

/-- The last line of an argument. -/
def lineOfArgument : Argument → Nat
  | .positional e => lastLine e
  | .keyword _ e => lastLine e
  | .spread e => lastLine e
  | .spreadKeywords e => lastLine e

end

end Expr

/-! ## Blocks -/

/-- A named block of a template. -/
structure BlockDef where
  template : String
  name : String
  body : List Stmt

namespace Stmt

mutual

/-- The blocks of a statement, with those inside of others. -/
def blocks (template : String) : Stmt → List BlockDef
  | .block _ name body => ⟨template, name, body⟩ :: blocksOf template body
  | .loop _ _ _ _ body otherwise => blocksOf template body ++ blocksOf template otherwise
  | .cond _ whenTrue whenFalse => blocksOf template whenTrue ++ blocksOf template whenFalse
  | .scope _ body => blocksOf template body
  | .capture _ _ body => blocksOf template body
  | .escaping _ body => blocksOf template body
  | .filtered _ body => blocksOf template body
  | .callWith _ _ _ body => blocksOf template body
  | .text _ | .emit _ | .assign _ _ | .extend _ | .embed _ _ | .load _ _ | .loadNames _ _
  | .define _ _ _ | .run _ => []

/-- The blocks of several statements. -/
def blocksOf (template : String) : List Stmt → List BlockDef
  | [] => []
  | s :: rest => blocks template s ++ blocksOf template rest

end

end Stmt

end SchemaGen.Template
