import SchemaGen.Template.Grammar.Stream

/-!
# The grammar of expressions

From the loosest to the tightest: the choice by a condition, `or`, `and`,
`not`, comparisons, sums, joined texts, products, powers, and signs, to whose
result subscripts, calls, filters and tests apply.
-/

namespace SchemaGen.Template.Grammar

/-- The meaning of an operator between two operands. -/
abbrev Operators := Token → Option (Expr → Expr → Expr)

/-- Operators written as marks. -/
def marks (table : List (String × BinaryOp)) : Operators
  | .mark chars => (table.lookup chars).map Expr.binary
  | _ => none

/-- The sums. -/
def sums : Operators := marks [("+", .add), ("-", .sub)]

/-- The joined texts. -/
def joins : Operators := marks [("~", .concat)]

/-- The products. -/
def products : Operators :=
  marks [("*", .mul), ("/", .div), ("//", .floorDiv), ("%", .rem)]

/-- The powers. -/
def powers : Operators := marks [("**", .pow)]

/-- The word `or`. -/
def eithers : Operators
  | .word "or" => some .or
  | _ => none

/-- The word `and`. -/
def boths : Operators
  | .word "and" => some .and
  | _ => none

/-- The comparisons. -/
def comparisons : Operators
  | .word "in" => some (.binary .contains)
  | t => marks [("==", .eq), ("!=", .ne), ("<", .lt), ("<=", .le), (">", .gt), (">=", .ge)] t

/-- More operators and operands after an expression, grouped to the left. -/
def chain (ops : Operators) (operand : Grammar Expr) : Nat → Expr → Grammar Expr
  | 0, e => return e
  | fuel + 1, e => do
    match (← peek).bind ops with
    | none => return e
    | some build =>
      advance
      chain ops operand fuel (build e (← operand))

/-- Operands with operators of one strength between them. -/
def level (fuel : Nat) (ops : Operators) (operand : Grammar Expr) : Grammar Expr := do
  chain ops operand fuel (← operand)

/-- Comparisons after an expression; `not in` is one of them. -/
def compared (operand : Grammar Expr) : Nat → Expr → Grammar Expr
  | 0, e => return e
  | fuel + 1, e => do
    if ← accept (.word "not") then
      expect (.word "in")
      compared operand fuel (.not (.binary .contains e (← operand)))
    else match (← peek).bind comparisons with
      | none => return e
      | some build =>
        advance
        compared operand fuel (build e (← operand))

/-- The words that name values. -/
def constant? : String → Option Literal
  | "true" | "True" => some (.bool true)
  | "false" | "False" => some (.bool false)
  | "none" | "None" => some .none
  | _ => none

/-- String literals that follow each other are one. -/
def moreText : Nat → String → Grammar String
  | 0, s => return s
  | fuel + 1, s => do
    match ← peek with
    | some (.str t) =>
      advance
      moreText fuel (s ++ t)
    | _ => return s

/-- May the token begin the argument of a test that has no parentheses? -/
def startsTestArgument : Token → Bool
  | .word name => !(["and", "or", "else", "is"].contains name)
  | .str _ | .int _ | .float _ => true
  | .mark chars => ["+", "-", "[", "\x7b"].contains chars
  | _ => false

mutual

/-- An expression, with its conditions. -/
def expr : Nat → Grammar Expr
  | 0 => fail
  | fuel + 1 => do choices fuel (← plain fuel)

/-- Conditions after an expression. -/
def choices : Nat → Expr → Grammar Expr
  | 0, e => return e
  | fuel + 1, e => do
    if ← accept (.word "if") then
      let test ← plain fuel
      let otherwise ← if ← accept (.word "else") then some <$> expr fuel else pure none
      choices fuel (.choose test e otherwise)
    else return e

/-- An expression without conditions. -/
def plain : Nat → Grammar Expr
  | 0 => fail
  | fuel + 1 => level fuel eithers (level fuel boths (denial fuel))

/-- A comparison, denied or not. -/
def denial : Nat → Grammar Expr
  | 0 => fail
  | fuel + 1 => do
    if ← accept (.word "not") then return .not (← denial fuel)
    else
      let operand :=
        level fuel sums (level fuel joins (level fuel products (level fuel powers (operand fuel))))
      compared operand fuel (← operand)

/-- A signed value with all that applies to it. -/
def operand : Nat → Grammar Expr
  | 0 => fail
  | fuel + 1 => do filters fuel (← trailers fuel (← signed fuel))

/-- A value with its signs. -/
def signed : Nat → Grammar Expr
  | 0 => fail
  | fuel + 1 => do
    if ← accept (.mark "-") then return .negate (← signed fuel)
    else nested (primary fuel)

/-- A literal, a name or something in brackets. -/
def primary : Nat → Grammar Expr
  | 0 => fail
  | fuel + 1 => do
    let line ← nextLine
    match ← next with
    | .word name =>
      match constant? name with
      | some l => return .literal line l
      | none => return .var line name
    | .str s => return .literal line (.str (← moreText fuel s))
    | .int n => return .literal line (.int n)
    | .float x => return .literal line (.float x)
    | .mark "(" => group fuel line
    | .mark "[" => return .list line (← items fuel "]" true)
    | .mark "\x7b" => return .map line (← entries fuel true)
    | _ => fail

/-- What stands in round brackets: nothing, one expression, or a list. -/
def group : Nat → Nat → Grammar Expr
  | 0, _ => fail
  | fuel + 1, line => do
    if ← accept (.mark ")") then return .list line []
    let e ← expr fuel
    if ← isNext (.mark ",") then return .list line (e :: (← items fuel ")" false))
    else
      expect (.mark ")")
      return e

/-- The items of a list up to its bracket. A comma may follow the last. -/
def items : Nat → (closing : String) → (first : Bool) → Grammar (List Expr)
  | 0, _, _ => fail
  | fuel + 1, closing, first => do
    if ← accept (.mark closing) then return []
    if !first then
      expect (.mark ",")
      if ← accept (.mark closing) then return []
    let e ← expr fuel
    return e :: (← items fuel closing false)

/-- The entries of a mapping up to its brace. -/
def entries : Nat → (first : Bool) → Grammar (List (Expr × Expr))
  | 0, _ => fail
  | fuel + 1, first => do
    if ← accept (.mark "\x7d") then return []
    if !first then
      expect (.mark ",")
      if ← accept (.mark "\x7d") then return []
    let k ← expr fuel
    expect (.mark ":")
    let v ← expr fuel
    return (k, v) :: (← entries fuel false)

/-- Attributes, subscripts and calls after a value. -/
def trailers : Nat → Expr → Grammar Expr
  | 0, e => return e
  | fuel + 1, e => do
    if ← accept (.mark ".") then trailers fuel (.attr e (← name))
    else if ← accept (.mark "[") then trailers fuel (← subscript fuel e)
    else if ← isNext (.mark "(") then trailers fuel (.call e (← arguments fuel))
    else return e

/-- An index or a slice, after its bracket. -/
def subscript : Nat → Expr → Grammar Expr
  | 0, _ => fail
  | fuel + 1, e => do
    let start ← if ← isNext (.mark ":") then pure none else some <$> expr fuel
    if ← accept (.mark ":") then
      let stop ←
        if ← atOneOf [.mark "]", .mark ":"] then pure none else some <$> expr fuel
      let step ←
        if ← accept (.mark ":") then
          if ← isNext (.mark "]") then pure none else some <$> expr fuel
        else pure none
      expect (.mark "]")
      return .slice e start stop step
    else
      expect (.mark "]")
      match start with
      | some index => return .item e index
      | none => fail

/-- The arguments of a call, with their parentheses. -/
def arguments : Nat → Grammar (List Argument)
  | 0 => fail
  | fuel + 1 => do
    expect (.mark "(")
    moreArguments fuel true false

/-- Arguments up to the parenthesis. After a keyword no positional argument may
follow. -/
def moreArguments : Nat → (first keywords : Bool) → Grammar (List Argument)
  | 0, _, _ => fail
  | fuel + 1, first, keywords => do
    if ← accept (.mark ")") then return []
    if !first then
      expect (.mark ",")
      if ← accept (.mark ")") then return []
    if ← accept (.mark "**") then
      let e ← expr fuel
      return .spreadKeywords e :: (← moreArguments fuel false true)
    else if ← accept (.mark "*") then
      let e ← expr fuel
      return .spread e :: (← moreArguments fuel false keywords)
    else
      let e ← expr fuel
      match e with
      | .var _ name =>
        if ← accept (.mark "=") then
          let v ← plain fuel
          return .keyword name v :: (← moreArguments fuel false true)
        else if keywords then fail
        else return .positional e :: (← moreArguments fuel false keywords)
      | e =>
        if keywords then fail
        else return .positional e :: (← moreArguments fuel false keywords)

/-- Filters and tests after a value. -/
def filters : Nat → Expr → Grammar Expr
  | 0, e => return e
  | fuel + 1, e => do
    if ← accept (.mark "|") then
      let name ← name
      let line := (← get).line
      let args ← if ← isNext (.mark "(") then arguments fuel else pure []
      filters fuel (.filter line name (some e) args)
    else if ← accept (.word "is") then
      let denied ← accept (.word "not")
      let name ← name
      let args ← testArguments fuel
      let test : Expr := .test name e args
      filters fuel (if denied then .not test else test)
    else return e

/-- The arguments of a test: in parentheses, or one without them. -/
def testArguments : Nat → Grammar (List Argument)
  | 0 => fail
  | fuel + 1 => do
    if ← isNext (.mark "(") then arguments fuel
    else if ((← peek).map startsTestArgument).getD false then
      return [.positional (← trailers fuel (← signed fuel))]
    else return []

end

end SchemaGen.Template.Grammar
