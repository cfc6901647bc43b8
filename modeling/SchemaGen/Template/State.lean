import SchemaGen.Template.Builtins
import SchemaGen.Template.Library

/-!
# The state of a rendering

Names are looked up in frames, innermost first, then in the context that the
template was given, then among the functions. Things that change while a
template is rendered are held in tables and referred to by number.
-/

namespace SchemaGen.Template

/-- Names with values; the first entry of a name counts. -/
abbrev Names := List (String × Val)

/-- A frame of names. -/
structure Frame where
  locals : Names := []
  /-- The loop whose body the frame is for. -/
  loop : Option Nat := none
  /-- What the routines defined in the frame have captured. -/
  captured : Option Nat := none
  /-- The captured names of the routine whose body the frame is for. -/
  outer : Option Nat := none

/-- A routine: parameters and a body, with the names captured at its definition. -/
structure Routine where
  template : String
  name : String
  params : Params
  body : List Stmt
  captured : Nat

/-- A running loop. -/
structure LoopState where
  index : Nat
  count : Nat
  depth : Nat
  previous : Val
  next : Val
  lastSeen : Option (List Val)
  target : Target
  body : List Stmt
  recursive : Bool

/-- A parent template that waits for its child to end, and the output so far. -/
structure Parent where
  template : String
  body : List Stmt
  out : List String
  discarding : Bool

/-- The state of a rendering. -/
structure State where
  context : Names
  frames : List Frame := [{}]
  /-- The output, last piece first. -/
  out : List String := []
  /-- Is the output to be thrown away? -/
  discarding : Bool := false
  records : Array (List (Val × Val)) := #[]
  captured : Array Names := #[]
  routines : Array Routine := #[]
  loops : Array LoopState := #[]
  /-- The weight of the calls around the present one. -/
  depth : Nat := 0
  /-- The definitions of each block, the outermost child first. -/
  blocks : List (String × List BlockDef) := []
  /-- The templates of the present chain of parents. -/
  chain : List String := []
  parent : Option Parent := none

/-- A step of a rendering. -/
abbrev Render := StateT State (Except Fault)

/-- Where a rendering stands. -/
structure Place where
  template : String
  /-- Are values escaped? -/
  escape : Bool
  /-- The block being rendered, and how many children overrode it. -/
  block : Option (String × Nat) := none

namespace Place

/-- Fail on a line. -/
def fail {α : Type} (p : Place) (line : Nat) (kind : FaultKind) : Render α :=
  throw ⟨kind, p.template, line⟩

/-- Do an operation that is met on a line. -/
def lift {α : Type} (p : Place) (line : Nat) : Op α → Render α
  | .ok a => return a
  | .error kind => p.fail line kind

/-- Do a step whose faults are reported as one fault on a line. -/
def guard {α : Type} (p : Place) (line : Nat) (kind : FaultKind) (step : Render α) : Render α :=
  fun s => match step s with
    | .ok r => .ok r
    | .error _ => .error ⟨kind, p.template, line⟩

end Place

namespace State

/-! ## Names -/

/-- The value of a name in a frame. -/
def inFrame (s : State) (name : String) (f : Frame) : Option Val :=
  match f.locals.lookup name with
  | some v => some v
  | none =>
    match f.loop, name with
    | some n, "loop" => some (.loop n)
    | _, _ => (f.outer.bind (s.captured[·]?)).bind (·.lookup name)

/-- The value of a name. -/
def find? (s : State) (name : String) : Option Val :=
  match s.frames.findSome? (s.inFrame name) with
  | some v => some v
  | none =>
    match s.context.lookup name with
    | some v => some v
    | none => if Function.names.contains name then some (.builtin name) else none

/-- Put a name in front of the names, in the place of what it meant. -/
def putName (names : Names) (name : String) (v : Val) : Names :=
  (name, v) :: names.filter (·.1 != name)

/-- Give a name a value in the innermost frame, and in what was captured there. -/
def store (s : State) (name : String) (v : Val) : State :=
  match s.frames with
  | [] => s
  | f :: rest =>
    let captured := match f.captured with
      | some n => s.captured.modify n (putName · name v)
      | none => s.captured
    { s with frames := { f with locals := putName f.locals name v } :: rest, captured }

/-- All names of the frames, innermost first. -/
def visible (s : State) : Names :=
  s.frames.flatMap fun f =>
    f.locals ++ (f.loop.map fun n => ("loop", Val.loop n)).toList ++
      ((f.outer.bind (s.captured[·]?)).getD [])

/-- Capture the visible names for routines of the innermost frame. Names that
were captured there before stay as they are. -/
def capture (s : State) : State × Nat :=
  match s.frames with
  | [] => (s, 0)
  | f :: rest =>
    let names := s.visible
    match f.captured with
    | some n =>
      ({ s with captured := s.captured.modify n fun old =>
        old ++ names.filter fun e => !old.any (·.1 = e.1) }, n)
    | none =>
      let n := s.captured.size
      ({ s with
        captured := s.captured.push names
        frames := { f with captured := some n } :: rest }, n)

/-! ## Frames -/

/-- How deep calls and frames may be nested. -/
def depthLimit : Nat := 500

/-- What the call of a routine weighs beside its frames. -/
def routineWeight : Nat := 4

/-- What the inclusion of a template weighs. -/
def embedWeight : Nat := 10

/-- Is the nesting too deep? -/
def tooDeep (s : State) : Bool :=
  depthLimit < s.depth + s.frames.length

/-! ## Records -/

/-- A record as the mapping it is now; other values stay. -/
def settle (s : State) : Val → Val
  | .record n => .map ((s.records[n]?).getD [])
  | v => v

end State

namespace Render

/-- Add to the output. -/
def emit (text : String) : Render Unit :=
  modify fun s => { s with out := text :: s.out }

/-- Do a step inside of a new frame. -/
def inFrame {α : Type} (p : Place) (line : Nat) (f : Frame) (step : Render α) : Render α := do
  modify fun s => { s with frames := f :: s.frames }
  if (← get).tooDeep then p.fail line .invalidOperation
  let a ← step
  modify fun s => { s with frames := s.frames.tail }
  return a

/-- The output of a step, which is taken out of the output. -/
def captureText (step : Render Unit) : Render String := do
  let before ← get
  set { before with out := [], discarding := false }
  step
  let after ← get
  set { after with out := before.out, discarding := before.discarding }
  return String.join after.out.reverse

/-- The attributes of a running loop. -/
def loopAttribute (l : LoopState) : String → Val
  | "index" => .int (l.index + 1)
  | "index0" => .int l.index
  | "first" => .bool (l.index = 0)
  | "last" => .bool (l.index + 1 = l.count)
  | "length" => .int l.count
  | "revindex" => .int (l.count - l.index : Nat)
  | "revindex0" => .int (l.count - l.index - 1 : Nat)
  | "depth" => .int (l.depth + 1)
  | "depth0" => .int l.depth
  | "previtem" => l.previous
  | "nextitem" => l.next
  | _ => .undefined

/-- An attribute of a value. -/
def attributeOf (v : Val) (name : String) : Render (Op Val) := do
  let s ← get
  match v with
  | .loop n => return .ok (((s.loops[n]?).map (loopAttribute · name)).getD .undefined)
  | .routine n routineName =>
    if name = "name" then return .ok (.text routineName)
    else if name = "arguments" then
      let params := ((s.routines[n]?).map (·.params)).getD []
      return .ok (.seq true (params.map fun e => .text e.1))
    else return .ok .undefined
  | v => return Operators.attr (s.settle v) name

/-- An item of a value. -/
def itemAt (v index : Val) : Render (Op Val) := do
  match v, index with
  | .loop _, .str _ name => attributeOf v name
  | .routine _ _, .str _ name => attributeOf v name
  | v, index => return Operators.item ((← get).settle v) index

end Render

end SchemaGen.Template
