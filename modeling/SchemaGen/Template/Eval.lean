import SchemaGen.Template.State

/-!
# Rendering

Expressions are evaluated and statements are carried out, left to right. A
fault is met on the line of the last operand that was read. Descent is bounded
by fuel; nesting of calls and frames is refused long before it is used up.
-/

namespace SchemaGen.Template

namespace Render

/-- Unpack a value for a list of targets. -/
def unpack (n : Nat) (v : Val) : Op (List Val) :=
  let items : Option (List Val) := match v with
    | .seq _ items => some items
    | .map entries => some (entries.map (·.1))
    | _ => none
  match items with
  | some items => if items.length = n then .ok items else .error .cannotUnpack
  | none => .error .cannotUnpack

/-- Put a value under a name of a record. -/
def setRecord (n : Nat) (name : String) (v : Val) : Render Unit :=
  modify fun s => { s with records := s.records.modify n (Val.insert · (.text name) v) }

/-- Make a changeable record of a mapping or of keywords. -/
def newRecord (a : Args) : Render (Op Val) := do
  let start : Op (List (Val × Val)) := match a.positional with
    | [] | [.undefined] | [.none] => .ok []
    | [.map entries] => .ok entries
    | [_] => .error .invalidOperation
    | _ => .error .tooManyArguments
  match start with
  | .error kind => return .error kind
  | .ok entries =>
    let n := (← get).records.size
    let all := a.keywordMap.foldl (fun m e => Val.insert m e.1 e.2) entries
    modify fun s => { s with records := s.records.push all }
    return .ok (.record n)

/-- The item that a loop gives for `cycle`. -/
def cycle (l : LoopState) (a : Args) : Op Val :=
  match a.positional with
  | [] => .ok .undefined
  | xs => .ok ((xs[l.index % xs.length]?).getD .undefined)

/-- Call a method of a running loop. -/
def callLoop (n : Nat) (name : String) (a : Args) : Render (Op Val) := do
  match (← get).loops[n]? with
  | none => return .error .unknownMethod
  | some l =>
    if name = "cycle" then return cycle l a
    else if name = "changed" then
      let changed := match l.lastSeen with
        | some seen => !Val.sameItems seen a.positional
        | none => true
      if changed then
        modify fun s => { s with
          loops := s.loops.modify n fun l => { l with lastSeen := some a.positional } }
      return .ok (.bool changed)
    else return .error .unknownMethod

/-- The value that a routine gets for a parameter, if any is given. -/
def argumentFor (a : Args) (i : Nat) (name : String) : Op (Option Val) :=
  match a.positional[i]?, a.keywords.lookup name with
  | some _, some _ => .error .tooManyArguments
  | some v, none => .ok (some v)
  | none, some v => .ok (some v)
  | none, none => .ok none

/-- The values that a routine gets for its parameters. -/
def argumentsFor (params : Params) (a : Args) : Op (List ((String × Option Expr) × Option Val)) := do
  if params.length < a.positional.length then .error .tooManyArguments
  let known := "caller" :: params.map (·.1)
  let values ← params.zipIdx.mapM fun ((name, default), i) => do
    return ((name, default), ← argumentFor a i name)
  if a.keywords.all fun k => known.contains k.1 then return values
  else .error .tooManyArguments

/-- Does a value ask for escapes? -/
def asksForEscapes : Val → Op Bool
  | .str _ "html" => .ok true
  | .str _ "none" => .ok false
  | .str _ _ => .error .invalidOperation
  | v => .ok (v.same (.bool true))

/-- The names of the templates to include, in the order in which they are
tried. -/
def templateNames (v : Val) : Op (List String) :=
  let choices : List Val := match v with
    | .seq _ items => items
    | .map entries => entries.map (·.1)
    | v => [v]
  choices.mapM fun c => match c with
    | .str _ name => .ok name
    | _ => .error .invalidOperation

/-- The values that a loop runs through. -/
def loopItems (v : Val) : Render (Op (List Val)) := do
  match ((← get).settle v).items? with
  | some items => return .ok items
  | none => return .error .invalidOperation

/-- Set a running loop to an item. -/
def enterItem (n i : Nat) (previous next : Val) : Render Unit :=
  modify fun s => { s with
    loops := s.loops.modify n fun l => { l with index := i, previous, next } }

/-- Do a step for every item of a running loop. -/
def eachItem (n : Nat) (step : Val → Render Unit) :
    (i : Nat) → (previous : Val) → List Val → Render Unit
  | _, _, [] => pure ()
  | i, previous, v :: rest => do
    enterItem n i previous (rest.head?.getD .undefined)
    step v
    eachItem n step (i + 1) v rest

mutual

/-- The value of an expression. -/
def eval (l : Library) : Nat → Place → Expr → Render Val
  | 0, p, e => p.fail e.lastLine .invalidOperation
  | fuel + 1, p, e => do
    let line := e.lastLine
    match e with
    | .literal _ c =>
      match c with
      | .none => return .none
      | .bool b => return .bool b
      | .int n => return .int n
      | .float x => return .float x
      | .str s => return .text s
    | .var _ name => return ((← get).find? name).getD .undefined
    | .list _ items => return .seq true (← items.mapM (eval l fuel p))
    | .map _ entries =>
      let entries ← entries.mapM fun e => do
        let k ← eval l fuel p e.1
        return (k, ← eval l fuel p e.2)
      return .map (entries.foldl (fun m e => Val.insert m e.1 e.2) [])
    | .negate e =>
      let v ← eval l fuel p e
      p.lift line (Operators.negate v)
    | .not e => return .bool (!(← eval l fuel p e).isTrue)
    | .binary op left right =>
      let a ← eval l fuel p left
      let b ← eval l fuel p right
      let s ← get
      p.lift line (Operators.apply op (s.settle a) (s.settle b))
    | .and left right =>
      let a ← eval l fuel p left
      if a.isTrue then eval l fuel p right else return a
    | .or left right =>
      let a ← eval l fuel p left
      if a.isTrue then return a else eval l fuel p right
    | .choose test whenTrue whenFalse =>
      if (← eval l fuel p test).isTrue then eval l fuel p whenTrue
      else match whenFalse with
        | some e => eval l fuel p e
        | none => return .undefined
    | .attr e name =>
      let v ← eval l fuel p e
      p.lift line (← attributeOf v name)
    | .item e index =>
      let v ← eval l fuel p e
      let i ← eval l fuel p index
      p.lift line (← itemAt v i)
    | .slice e start stop step =>
      let v ← eval l fuel p e
      let part (e : Option Expr) : Render Val := match e with
        | some e => eval l fuel p e
        | none => pure .none
      let start ← part start
      let stop ← part stop
      let step ← part step
      p.lift line (Operators.slice v start stop step)
    | .filter _ name operand args =>
      let v ← match operand with
        | some e => eval l fuel p e
        | none => pure .undefined
      let a ← evalArgs l fuel p args
      p.lift line (Filter.apply name ((← get).settle v) a)
    | .test name operand args =>
      let v ← eval l fuel p operand
      let a ← evalArgs l fuel p args
      return .bool (← p.lift line (Test.apply name ((← get).settle v) a))
    | .call callee args => evalCall l fuel p line callee args []

/-- The arguments of a call. -/
def evalArgs (l : Library) : Nat → Place → List Argument → Render Args
  | 0, p, _ => p.fail 0 .invalidOperation
  | fuel + 1, p, args =>
    args.foldlM (fun (a : Args) arg => do
      match arg with
      | .positional e => return { a with positional := a.positional ++ [← eval l fuel p e] }
      | .keyword name e =>
        return { a with keywords := State.putName a.keywords name (← eval l fuel p e) }
      | .spread e =>
        let v ← eval l fuel p e
        let items ← p.lift e.lastLine (← loopItems v)
        return { a with positional := a.positional ++ items }
      | .spreadKeywords e =>
        let v ← eval l fuel p e
        match (← get).settle v with
        | .map entries =>
          return { a with keywords := entries.foldl (fun ks e =>
            State.putName ks e.1.print e.2) a.keywords }
        | _ => p.fail e.lastLine .invalidOperation) {}

/-- A call, with keywords that are handed over besides its arguments. -/
def evalCall (l : Library) :
    Nat → Place → Nat → Expr → List Argument → (more : Names) → Render Val
  | 0, p, line, _, _, _ => p.fail line .invalidOperation
  | fuel + 1, p, line, callee, args, more => do
    let handed (a : Args) : Args := { a with keywords := more ++ a.keywords }
    match callee with
    | .var _ "super" =>
      let a ← evalArgs l fuel p args
      if a.count ≠ 0 then p.fail line .invalidOperation
      return .str p.escape (← captureText (renderSuper l fuel p line))
    | .var _ "loop" =>
      let a ← evalArgs l fuel p args
      match a.positional with
      | [v] => return .str p.escape (← captureText (runAgain l fuel p line v))
      | _ => p.fail line .invalidOperation
    | .var _ name =>
      let a ← evalArgs l fuel p args
      match (← get).find? name with
      | some v => callValue l fuel p line v (handed a)
      | none => p.fail line .unknownFunction
    | .attr (.var _ "self") name =>
      let _ ← evalArgs l fuel p args
      return .str p.escape (← captureText (renderBlock l fuel p line name))
    | .attr e name =>
      let v ← eval l fuel p e
      let a ← evalArgs l fuel p args
      match (← get).settle v with
      | .loop n => p.lift line (← callLoop n name a)
      | .map entries =>
        match Val.lookup entries (.text name) with
        | some f => callValue l fuel p line f (handed a)
        | none => p.fail line .unknownMethod
      | _ => p.fail line .unknownMethod
    | callee =>
      let v ← eval l fuel p callee
      let a ← evalArgs l fuel p args
      callValue l fuel p line v (handed a)

/-- Call a value. -/
def callValue (l : Library) : Nat → Place → Nat → Val → Args → Render Val
  | 0, p, line, _, _ => p.fail line .invalidOperation
  | fuel + 1, p, line, v, a => do
    match v with
    | .builtin "namespace" => p.lift line (← newRecord a)
    | .builtin name => p.lift line (Function.call name a)
    | .routine n _ =>
      match (← get).routines[n]? with
      | none => p.fail line .invalidOperation
      | some r =>
        let values ← p.lift line (argumentsFor r.params a)
        let before ← get
        let inner : Place := { template := r.template, escape := p.escape }
        set { before with
          frames := [{ outer := some r.captured }]
          depth := before.depth + before.frames.length + State.routineWeight }
        if (← get).tooDeep then p.fail line .invalidOperation
        if let some caller := a.keywords.lookup "caller" then
          modify (·.store "caller" caller)
        values.reverse.forM fun ((name, default), given) => do
          let v ← match given, default with
            | some .undefined, some e => eval l fuel inner e
            | none, some e => eval l fuel inner e
            | some v, _ => pure v
            | none, none => pure .undefined
          modify (·.store name v)
        let text ← captureText (r.body.forM (exec l fuel inner))
        modify fun s => { s with frames := before.frames, depth := before.depth }
        return .str p.escape text
    | _ => p.fail line .invalidOperation

/-- Assign a value. -/
def assign (l : Library) : Nat → Place → Nat → Target → Val → Render Unit
  | 0, p, line, _, _ => p.fail line .invalidOperation
  | fuel + 1, p, line, target, v => do
    match target with
    | .var name => modify (·.store name v)
    | .attr e name =>
      match ← eval l fuel p e with
      | .record n => setRecord n name v
      | _ => p.fail e.lastLine .invalidOperation
    | .list targets =>
      let items ← p.lift line (unpack targets.length v)
      (targets.zip items).forM fun (t, v) => assign l fuel p line t v

/-- Carry out a statement. -/
def exec (l : Library) : Nat → Place → Stmt → Render Unit
  | 0, p, _ => p.fail 0 .invalidOperation
  | fuel + 1, p, s => do
    match s with
    | .text s => emit s
    | .emit e =>
      let v ← eval l fuel p e
      let v := (← get).settle v
      emit (if p.escape then v.printEscaped else v.print)
    | .loop target source condition recursive body otherwise =>
      let v ← eval l fuel p source
      let line := source.lastLine
      let items ← p.lift line (← loopItems v)
      let items ← match condition with
        | none => pure items
        | some e => inFrame p line {} (items.filterM fun v => do
            assign l fuel p line target v
            return (← eval l fuel p e).isTrue)
      runLoop l fuel p line target body recursive 0 items
      if items.isEmpty then otherwise.forM (exec l fuel p)
    | .cond test whenTrue whenFalse =>
      if (← eval l fuel p test).isTrue then whenTrue.forM (exec l fuel p)
      else whenFalse.forM (exec l fuel p)
    | .scope bindings body =>
      inFrame p 0 {} do
        bindings.forM fun (t, e) => do
          assign l fuel p e.lastLine t (← eval l fuel p e)
        body.forM (exec l fuel p)
    | .assign target e =>
      let v ← eval l fuel p e
      assign l fuel p e.lastLine target v
    | .capture target filter body =>
      let text ← captureText (body.forM (exec l fuel p))
      let v ← match filter with
        | none => pure (.str p.escape text)
        | some f => evalChain l fuel p f (.str p.escape text)
      assign l fuel p 0 target v
    | .escaping mode body =>
      let v ← eval l fuel p mode
      let escape ← p.lift mode.lastLine (asksForEscapes v)
      body.forM (exec l fuel { p with escape })
    | .filtered filter body =>
      let text ← captureText (body.forM (exec l fuel p))
      let v ← evalChain l fuel p filter (.str p.escape text)
      emit (if p.escape then v.printEscaped else v.print)
    | .block line name _ =>
      let s ← get
      if s.parent.isNone && !s.discarding then renderBlock l fuel p line name
    | .extend e =>
      let v ← eval l fuel p e
      let line := e.lastLine
      let s ← get
      if s.parent.isSome then p.fail line .invalidOperation
      match v with
      | .str _ name =>
        if s.chain.contains name then p.fail line .invalidOperation
        match l.get? name with
        | none => p.fail line .missingTemplate
        | some stmts =>
          set { s with
            chain := name :: s.chain
            blocks := addBlocks s.blocks (Stmt.blocksOf name stmts)
            parent := some ⟨name, stmts, s.out, s.discarding⟩
            discarding := true }
      | _ => p.fail line .invalidOperation
    | .embed e ignoreMissing =>
      let v ← eval l fuel p e
      embed l fuel p e.lastLine v ignoreMissing
    | .load e target =>
      let line := e.lastLine
      let before ← get
      set { before with discarding := true }
      let names ← inFrame p line {} do
        let v ← eval l fuel p e
        embed l fuel p line v false
        return ((← get).frames.head?.map (·.locals)).getD []
      modify fun s => { s with out := before.out, discarding := before.discarding }
      let sorted := Text.sortBy (·.1) names
      assign l fuel p line target (.map (sorted.map fun (n, v) => (.text n, v)))
    | .loadNames e names =>
      let line := e.lastLine
      let before ← get
      set { before with discarding := true }
      let values ← inFrame p line {} do
        let v ← eval l fuel p e
        embed l fuel p line v false
        names.mapM fun (t, e) => do return (t, ← eval l fuel p e)
      modify fun s => { s with out := before.out, discarding := before.discarding }
      values.forM fun (t, v) => assign l fuel p line t v
    | .define name params body =>
      let v ← defineRoutine p name params body
      modify (·.store name v)
    | .callWith callee args params body =>
      let caller ← defineRoutine p "caller" params body
      let line := (Expr.call callee args).lastLine
      let v ← evalCall l fuel p line callee args [("caller", caller)]
      let v := (← get).settle v
      emit (if p.escape then v.printEscaped else v.print)
    | .run e =>
      let _ ← eval l fuel p e

/-- Apply the filters of a block to its text. -/
def evalChain (l : Library) : Nat → Place → Expr → Val → Render Val
  | 0, p, e, _ => p.fail e.lastLine .invalidOperation
  | fuel + 1, p, e, v => do
    match e with
    | .filter _ name operand args =>
      let v ← match operand with
        | some inner => evalChain l fuel p inner v
        | none => pure v
      let a ← evalArgs l fuel p args
      p.lift e.lastLine (Filter.apply name v a)
    | e => eval l fuel p e

/-- Run a loop body for each of the items. -/
def runLoop (l : Library) :
    Nat → Place → Nat → Target → List Stmt → Bool → (depth : Nat) → List Val → Render Unit
  | 0, p, line, _, _, _, _, _ => p.fail line .invalidOperation
  | fuel + 1, p, line, target, body, recursive, depth, items => do
    let n := (← get).loops.size
    let state : LoopState :=
      { index := 0, count := items.length, depth, previous := .undefined, next := .undefined,
        lastSeen := none, target, body, recursive }
    modify fun s => { s with loops := s.loops.push state }
    inFrame p line { loop := some n } do
      eachItem n (fun v => do
        assign l fuel p line target v
        body.forM (exec l fuel p)) 0 .undefined items

/-- Run the innermost loop once more, for another value. -/
def runAgain (l : Library) : Nat → Place → Nat → Val → Render Unit
  | 0, p, line, _ => p.fail line .invalidOperation
  | fuel + 1, p, line, v => do
    let s ← get
    match (s.frames.findSome? (·.loop)).bind (s.loops[·]?) with
    | none => p.fail line .invalidOperation
    | some loop =>
      if !loop.recursive then p.fail line .invalidOperation
      let items ← p.lift line (← loopItems v)
      runLoop l fuel p line loop.target loop.body true (loop.depth + 1) items

/-- Define a routine in the innermost frame. -/
def defineRoutine (p : Place) (name : String) (params : Params) (body : List Stmt) :
    Render Val := do
  let (s, captured) := (← get).capture
  let n := s.routines.size
  set { s with routines := s.routines.push ⟨p.template, name, params, body, captured⟩ }
  return .routine n name

/-- Add the blocks of a parent behind those of its children. -/
def addBlocks (blocks : List (String × List BlockDef)) (more : List BlockDef) :
    List (String × List BlockDef) :=
  more.foldl (fun blocks b =>
    if blocks.any (·.1 = b.name) then
      blocks.map fun e => if e.1 = b.name then (e.1, e.2 ++ [b]) else e
    else blocks ++ [(b.name, [b])]) blocks

/-- Render a template in the present frame, and then its parents. -/
def renderBody (l : Library) : Nat → Place → List Stmt → Render Unit
  | 0, p, _ => p.fail 0 .invalidOperation
  | fuel + 1, p, stmts => do
    let before := (← get).parent
    modify fun s => { s with parent := none }
    stmts.forM (exec l fuel p)
    let parent := (← get).parent
    modify fun s => { s with parent := before }
    match parent with
    | none => return ()
    | some parent =>
      modify fun s => { s with out := parent.out, discarding := parent.discarding }
      renderBody l fuel { p with template := parent.template } parent.body

/-- Render the definition of a block at a level. -/
def renderLevel (l : Library) : Nat → Place → Nat → String → Nat → BlockDef → Render Unit
  | 0, p, line, _, _, _ => p.fail line .invalidOperation
  | fuel + 1, p, line, name, level, b => do
    let inner : Place := { p with template := b.template, block := some (name, level) }
    inFrame p line {} (renderBody l fuel inner b.body)

/-- Render a block by its outermost definition. -/
def renderBlock (l : Library) : Nat → Place → Nat → String → Render Unit
  | 0, p, line, _ => p.fail line .invalidOperation
  | fuel + 1, p, line, name => do
    match (((← get).blocks.lookup name).getD []).head? with
    | some b => renderLevel l fuel p line name 0 b
    | none => p.fail line .unknownBlock

/-- Render the definition that the present block overrides. -/
def renderSuper (l : Library) : Nat → Place → Nat → Render Unit
  | 0, p, line => p.fail line .invalidOperation
  | fuel + 1, p, line => do
    match p.block with
    | none => p.fail line .invalidOperation
    | some (name, level) =>
      match (((← get).blocks.lookup name).getD [])[level + 1]? with
      | none => p.fail line .invalidOperation
      | some b => p.guard line .badBlock (renderLevel l fuel p line name (level + 1) b)

/-- Include the first of the named templates that there is. -/
def embed (l : Library) : Nat → Place → Nat → Val → (ignoreMissing : Bool) → Render Unit
  | 0, p, line, _, _ => p.fail line .invalidOperation
  | fuel + 1, p, line, v, ignoreMissing => do
    let names ← p.lift line (templateNames v)
    match names.find? l.holds with
    | none => if names.isEmpty || ignoreMissing then return () else p.fail line .missingTemplate
    | some name =>
      let stmts := (l.get? name).getD []
      let before ← get
      set { before with
        depth := before.depth + State.embedWeight
        blocks := addBlocks [] (Stmt.blocksOf name stmts) }
      if (← get).tooDeep then p.fail line .invalidOperation
      let inner : Place := { p with template := name, escape := isMarkedUp name }
      p.guard line .badInclude (renderBody l fuel inner stmts)
      modify fun s => { s with depth := before.depth, blocks := before.blocks, chain := before.chain }

end

end Render

namespace Library

/-- More steps than any rendering within the depth limit can nest. -/
def fuel (l : Library) : Nat :=
  8 * (State.depthLimit + 1) * (l.size + 16)

/-- Render a template with the given names. -/
def renderWith (l : Library) (name : String) (stmts : List Stmt) (names : Names) :
    Except Fault String := do
  let p : Place := { template := name, escape := isMarkedUp name }
  let start : State :=
    { context := names
      blocks := Render.addBlocks [] (Stmt.blocksOf name stmts)
      chain := [name] }
  let (_, s) ← (Render.renderBody l l.fuel p stmts).run start
  return String.join s.out.reverse

end Library

end SchemaGen.Template
