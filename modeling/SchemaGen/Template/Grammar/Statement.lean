import SchemaGen.Template.Grammar.Expression

/-!
# The grammar of statements

Text, values to print, and block statements with their bodies. A body ends
before the block mark whose word closes it.
-/

namespace SchemaGen.Template.Grammar

/-- An expression. -/
def expression : Grammar Expr := do
  expr (← fuel)

/-- An expression without conditions. -/
def plainExpression : Grammar Expr := do
  plain (← fuel)

/-- The names that nothing may be assigned to. -/
def reserved : List String :=
  ["true", "True", "false", "False", "none", "None", "loop", "self"]

/-- A name to assign to. -/
def newName : Grammar String := do
  let name ← name
  if reserved.contains name then fail
  return name

/-- Attributes after a name to assign to. -/
def attributes : Nat → Expr → String → Grammar Target
  | 0, e, name => return .attr e name
  | fuel + 1, e, name => do
    if ← accept (.mark ".") then attributes fuel (.attr e name) (← Grammar.name)
    else return .attr e name

/-- A name to assign to, which may be an attribute of another. -/
def dottedTarget : Grammar Target := do
  let line ← nextLine
  let name ← newName
  if ← accept (.mark ".") then attributes (← fuel) (.var line name) (← Grammar.name)
  else return .var name

mutual

/-- Targets with commas between them: one, or a list to unpack into. -/
def target : Nat → Grammar Target
  | 0 => fail
  | fuel + 1 => do
    let (targets, isList) ← targets fuel true
    match targets, isList with
    | [single], false => return single
    | targets, _ => return .list targets

/-- The targets of a list, and whether a comma was met. -/
def targets : Nat → (first : Bool) → Grammar (List Target × Bool)
  | 0, _ => fail
  | fuel + 1, first => do
    if !first then expect (.mark ",")
    if ← atOneOf [.mark ")", .variableEnd, .blockEnd, .word "in"] then return ([], false)
    let t ←
      if ← accept (.mark "(") then
        let t ← target fuel
        expect (.mark ")")
        pure t
      else pure (.var (← newName))
    if ← isNext (.mark ",") then
      let (more, _) ← targets fuel false
      return (t :: more, true)
    else return ([t], false)

end

/-- A target in parentheses, or the alternative. -/
def targetOr (other : Grammar Target) : Grammar (Target × Bool) := do
  if ← accept (.mark "(") then
    let t ← target (← fuel)
    expect (.mark ")")
    return (t, true)
  else return (← other, false)

/-- Filters with bars between them, up to the end of the block mark. -/
def filterChain : Nat → Option Expr → Grammar Expr
  | 0, _ => fail
  | n + 1, sofar => do
    if ← isNext .blockEnd then
      match sofar with
      | some e => return e
      | none => fail
    else
      if sofar.isSome then expect (.mark "|")
      let name ← name
      let line := (← get).line
      let args ← if ← isNext (.mark "(") then arguments (← fuel) else pure []
      filterChain n (some (.filter line name sofar args))

/-- The parameters of a routine, after the parenthesis. -/
def params : Nat → (first needDefault : Bool) → Grammar Params
  | 0, _, _ => fail
  | n + 1, first, needDefault => do
    if ← accept (.mark ")") then return []
    if !first then
      expect (.mark ",")
      if ← accept (.mark ")") then return []
    let name ← newName
    if ← accept (.mark "=") then
      let e ← expression
      return (name, some e) :: (← params n false true)
    else if needDefault then fail
    else return (name, none) :: (← params n false false)

/-- Step over the words about context, which change nothing. -/
def contextWords : Grammar Unit := do
  if ← atOneOf [.word "with", .word "without"] then
    advance
    expect (.word "context")

/-- The names of a load statement. -/
def loadedNames : Nat → (first : Bool) → Grammar (List (Target × Expr))
  | 0, _ => fail
  | n + 1, first => do
    if ← atOneOf [.blockEnd, .word "with", .word "without"] then return []
    if !first then
      expect (.mark ",")
    if ← atOneOf [.blockEnd, .word "with", .word "without"] then return []
    let line ← nextLine
    let name ← newName
    let target ← if ← accept (.word "as") then newName else pure name
    return (.var target, .var line name) :: (← loadedNames n false)

/-- Read a body with the flag on routines set as given. -/
def within {α : Type} (inRoutine : Bool) (body : Grammar α) : Grammar α := do
  let before := (← get).inRoutine
  modify fun s => { s with inRoutine }
  let result ← body
  modify fun s => { s with inRoutine := before }
  return result

/-- The callee and the arguments of a call. -/
def callParts : Expr → Grammar (Expr × List Argument)
  | .call callee args => return (callee, args)
  | _ => fail

mutual

/-- Statements up to a block mark whose word is one of `ends`, or to the end of
the template. -/
def body : Nat → (ends : List String) → Grammar (List Stmt)
  | 0, _ => fail
  | fuel + 1, ends => do
    match ← next? with
    | none => return []
    | some (.text s) => return .text s :: (← body fuel ends)
    | some .variableStart =>
      let e ← expression
      expect .variableEnd
      return .emit e :: (← body fuel ends)
    | some .blockStart =>
      match ← peek with
      | none => fail
      | some t =>
        if ends.any (t = .word ·) then return []
        let s ← nested (statement fuel)
        expect .blockEnd
        return s :: (← body fuel ends)
    | some _ => fail

/-- A body whose closing word is read too. -/
def closedBody : Nat → String → Grammar (List Stmt)
  | 0, _ => fail
  | fuel + 1, closing => do
    expect .blockEnd
    let stmts ← body fuel [closing]
    let _ ← next?
    return stmts

/-- The statement whose word comes next. -/
def statement : Nat → Grammar Stmt
  | 0 => fail
  | fuel + 1 => do
    match ← next with
    | .word "for" => loop fuel
    | .word "if" => cond fuel
    | .word "with" =>
      let bindings ← bindings fuel true
      return .scope bindings (← closedBody fuel "endwith")
    | .word "set" => assign fuel
    | .word "autoescape" =>
      let mode ← expression
      return .escaping mode (← closedBody fuel "endautoescape")
    | .word "filter" =>
      let filter ← filterChain fuel none
      return .filtered filter (← closedBody fuel "endfilter")
    | .word "block" => block fuel
    | .word "extends" => return .extend (← expression)
    | .word "include" =>
      let source ← expression
      let ignoreMissing ← accept (.word "ignore")
      if ignoreMissing then expect (.word "missing")
      contextWords
      return .embed source ignoreMissing
    | .word "import" =>
      let source ← expression
      expect (.word "as")
      let name ← newName
      contextWords
      return .load source (.var name)
    | .word "from" =>
      let source ← expression
      expect (.word "import")
      let names ← loadedNames fuel true
      contextWords
      return .loadNames source names
    | .word "macro" =>
      let name ← newName
      expect (.mark "(")
      let params ← params fuel true false
      return .define name params (← within true (closedBody fuel "endmacro"))
    | .word "call" =>
      let params ← if ← accept (.mark "(") then params fuel true false else pure []
      let (callee, args) ← callParts (← expression)
      return .callWith callee args params (← within true (closedBody fuel "endcall"))
    | .word "do" =>
      let e ← expression
      let _ ← callParts e
      return .run e
    | _ => fail

/-- A loop, after its word. -/
def loop : Nat → Grammar Stmt
  | 0 => fail
  | fuel + 1 => do
    let target ← target fuel
    expect (.word "in")
    let source ← plainExpression
    let condition ← if ← accept (.word "if") then some <$> expression else pure none
    let recursive ← accept (.word "recursive")
    expect .blockEnd
    let stmts ← body fuel ["endfor", "else"]
    let otherwise ←
      if ← accept (.word "else") then
        expect .blockEnd
        body fuel ["endfor"]
      else pure []
    let _ ← next?
    return .loop target source condition recursive stmts otherwise

/-- A condition, after its word. -/
def cond : Nat → Grammar Stmt
  | 0 => fail
  | fuel + 1 => do
    let test ← expression
    expect .blockEnd
    let whenTrue ← body fuel ["endif", "else", "elif"]
    match ← next? with
    | some (.word "else") => return .cond test whenTrue (← closedBody fuel "endif")
    | some (.word "elif") => return .cond test whenTrue [← cond fuel]
    | _ => return .cond test whenTrue []

/-- The bindings of a scope. -/
def bindings : Nat → (first : Bool) → Grammar (List (Target × Expr))
  | 0, _ => fail
  | fuel + 1, first => do
    if ← isNext .blockEnd then return []
    if !first then expect (.mark ",")
    let (target, _) ← targetOr (do return .var (← newName))
    expect (.mark "=")
    let e ← expression
    return (target, e) :: (← bindings fuel false)

/-- An assignment of a value or of a captured text, after its word. -/
def assign : Nat → Grammar Stmt
  | 0 => fail
  | fuel + 1 => do
    let (target, grouped) ← targetOr dottedTarget
    if !grouped && (← atOneOf [.blockEnd, .mark "|"]) then
      let filter ← if ← accept (.mark "|") then some <$> filterChain fuel none else pure none
      return .capture target filter (← closedBody fuel "endset")
    else
      expect (.mark "=")
      return .assign target (← expression)

/-- A named block, after its word. Its name may stand again at its end. -/
def block : Nat → Grammar Stmt
  | 0 => fail
  | fuel + 1 => do
    if (← get).inRoutine then fail
    let name ← name
    let line := (← get).line
    if (← get).blocks.contains name then fail
    modify fun s => { s with blocks := name :: s.blocks }
    let stmts ← closedBody fuel "endblock"
    if let some (.word again) ← peek then
      if again ≠ name then fail
      advance
    return .block line name stmts

end

/-- A whole template. -/
def template : Grammar (List Stmt) := do
  body (← fuel) []

end SchemaGen.Template.Grammar

namespace SchemaGen.Template

/-- The statements of a template. -/
def parse (source : String) : Except Trouble (List Stmt) :=
  let tokens := Tokens.ofSource source
  (·.1) <$> Grammar.template.run { tokens := tokens.all, fault := tokens.fault }

end SchemaGen.Template
