import SchemaGen.Yaml.Error
import SchemaGen.Yaml.Node

/-!
# The grammar of nodes

Recursive descent over the tokens of a document. What stands where a node may
be left out is the empty scalar. An anchor is numbered by how many names were
anchored before it, and an alias stands for the last number of its name.
-/

namespace SchemaGen.Yaml

/-- What is left to read, and the names declared so far. -/
structure Reading where
  rest : List Token
  /-- The tag handles and what they stand for. -/
  handles : List (String × String)
  /-- The last number of every anchored name. -/
  numbers : List (String × Nat) := []

/-- A reader of part of a document. -/
abbrev Grammar := StateT Reading (Except Fault)

namespace Grammar

/-- The handles that need no directive. -/
def standardHandles : List (String × String) :=
  [("!", "!"), ("!!", "tag:yaml.org,2002:")]

/-- The next token. -/
def peek : Grammar (Option Token) :=
  return (← get).rest.head?

/-- Step over the next token. -/
def advance : Grammar Unit :=
  modify fun r => { r with rest := r.rest.tail }

/-- Step over the token if it comes next, and tell whether it did. -/
def accept (t : Token) : Grammar Bool := do
  if (← peek) = some t then
    advance
    return true
  else return false

/-- Is the next token one of these, or is nothing left? -/
def atOneOf (ts : List Token) : Grammar Bool := do
  match ← peek with
  | some t => return ts.contains t
  | none => return true

/-! ## Properties -/

/-- Give the name the next number. -/
def anchorNumber (name : String) : Grammar Nat := do
  let r ← get
  let number := r.numbers.length
  set { r with numbers := (name, number) :: r.numbers.filter (·.1 != name) }
  return number

/-- The number an alias stands for. -/
def aliasNumber (name : String) : Grammar Nat := do
  match (← get).numbers.lookup name with
  | some number => return number
  | none => throw .unknownAnchor

/-- A tag in full. -/
def fullTag (handle suffix : String) : Grammar String := do
  if handle.isEmpty then return suffix
  match (← get).handles.lookup handle with
  | some address => return address ++ suffix
  | none => throw .unknownHandle

/-- An anchor, if one comes next. -/
def anchor? : Grammar (Option Nat) := do
  match ← peek with
  | some (.anchor name) =>
    advance
    return some (← anchorNumber name)
  | _ => return none

/-- A tag, if one comes next. -/
def tag? : Grammar (Option String) := do
  match ← peek with
  | some (.tag handle suffix) =>
    advance
    return some (← fullTag handle suffix)
  | _ => return none

/-- The properties of a node: an anchor and a tag, in either order. -/
def props : Grammar Props := do
  match ← anchor? with
  | some number => return { anchor := some number, tag := ← tag? }
  | none =>
    let tag ← tag?
    return { anchor := ← anchor?, tag }

/-! ## Nodes -/

mutual

/-- A node. In a block, block collections are admitted, and if `dashes` is set
also a sequence that is indented no deeper than the key it belongs to. -/
def node : Nat → (block dashes : Bool) → Grammar Node
  | 0, _, _ => throw .unexpectedToken
  | fuel + 1, block, dashes => do
    if let some (.alias name) ← peek then
      advance
      return .alias (← aliasNumber name)
    let props ← props
    match ← peek with
    | some .blockEntry =>
      if dashes then return .seq props (← dashItems fuel)
      else absent props
    | some (.scalar style text) =>
      advance
      return .scalar { props with tag := props.tag.filter (· != "!") } style text
    | some .flowSequenceStart =>
      advance
      return .seq props (← flowItems fuel true)
    | some .flowMappingStart =>
      advance
      return .map props (← flowEntries fuel true)
    | some .blockSequenceStart =>
      if block then
        advance
        return .seq props (← blockItems fuel)
      else absent props
    | some .blockMappingStart =>
      if block then
        advance
        return .map props (← blockEntries fuel)
      else absent props
    | _ => absent props

/-- A node of which only properties are written. -/
def absent (props : Props) : Grammar Node :=
  if props = {} then throw .unexpectedToken else return .empty props

/-- A node, or the empty one before a token of the list. -/
def nodeUnless : Nat → List Token → (block dashes : Bool) → Grammar Node
  | 0, _, _, _ => throw .unexpectedToken
  | fuel + 1, ts, block, dashes => do
    if ← atOneOf ts then return .empty {}
    else node fuel block dashes

/-- The items of a block sequence, up to its end. -/
def blockItems : Nat → Grammar (List Node)
  | 0 => throw .unexpectedToken
  | fuel + 1 => do
    if ← accept .blockEntry then
      let item ← nodeUnless fuel [.blockEntry, .blockEnd] true false
      return item :: (← blockItems fuel)
    else if ← accept .blockEnd then return []
    else throw .unexpectedToken

/-- The items of a sequence that ends where the dashes do. -/
def dashItems : Nat → Grammar (List Node)
  | 0 => throw .unexpectedToken
  | fuel + 1 => do
    if ← accept .blockEntry then
      let item ← nodeUnless fuel [.blockEntry, .key, .value, .blockEnd] true false
      return item :: (← dashItems fuel)
    else return []

/-- The entries of a block mapping, up to its end. -/
def blockEntries : Nat → Grammar (List (Node × Node))
  | 0 => throw .unexpectedToken
  | fuel + 1 => do
    if ← accept .key then
      let k ← nodeUnless fuel [.key, .value, .blockEnd] true true
      let v ←
        if ← accept .value then nodeUnless fuel [.key, .value, .blockEnd] true true
        else pure (.empty {})
      return (k, v) :: (← blockEntries fuel)
    else if ← accept .blockEnd then return []
    else throw .unexpectedToken

/-- The items of a flow sequence, up to its bracket. An item may be a single
pair without braces. -/
def flowItems : Nat → (first : Bool) → Grammar (List Node)
  | 0, _ => throw .unexpectedToken
  | fuel + 1, first => do
    if ← accept .flowSequenceEnd then return []
    if !first then
      unless ← accept .flowEntry do throw .unexpectedToken
    if ← accept .flowSequenceEnd then return []
    if ← accept .key then
      let pair ← flowPair fuel
      return .map {} [pair] :: (← flowItems fuel false)
    else
      let item ← node fuel false false
      return item :: (← flowItems fuel false)

/-- The single pair of a flow sequence, after its key mark. Where the key is
left out, the token in its place is passed over. -/
def flowPair : Nat → Grammar (Node × Node)
  | 0 => throw .unexpectedToken
  | fuel + 1 => do
    let k ←
      if ← atOneOf [.value, .flowEntry, .flowSequenceEnd] then
        advance
        pure (Node.empty {})
      else node fuel false false
    let v ←
      if ← accept .value then nodeUnless fuel [.flowEntry, .flowSequenceEnd] false false
      else pure (.empty {})
    return (k, v)

/-- The entries of a flow mapping, up to its brace. -/
def flowEntries : Nat → (first : Bool) → Grammar (List (Node × Node))
  | 0, _ => throw .unexpectedToken
  | fuel + 1, first => do
    if ← accept .flowMappingEnd then return []
    if !first then
      unless ← accept .flowEntry do throw .unexpectedToken
    if ← accept .flowMappingEnd then return []
    if ← accept .key then
      let k ← nodeUnless fuel [.value, .flowEntry, .flowMappingEnd] false false
      let v ←
        if ← accept .value then nodeUnless fuel [.flowEntry, .flowMappingEnd] false false
        else pure (.empty {})
      return (k, v) :: (← flowEntries fuel false)
    else
      let k ← node fuel false false
      return (k, .empty {}) :: (← flowEntries fuel false)

end

/-- More steps than any descent over the tokens can take. -/
def fuelFor (ts : List Token) : Nat :=
  4 * ts.length + 8

/-- The node that the tokens to come begin with. -/
def rootNode : Grammar Node := do
  node (fuelFor (← get).rest) true false

/-! ## Documents -/

/-- Read the directives before a document. `seen` tells that a version was
given. -/
def directives : Bool → List (String × String) → List Token →
    Except Fault (List (String × String) × List Token)
  | seen, handles, .versionDirective major minor :: rest =>
    if seen then .error .badDirective
    else if major = 1 && (minor = 1 || minor = 2) then directives true handles rest
    else .error .badVersion
  | seen, handles, .tagDirective handle address :: rest =>
    if handles.any (·.1 = handle) then .error .badDirective
    else directives seen ((handle, address) :: handles) rest
  | _, handles, rest => .ok (handles, rest)

/-- Does the token belong to a document of its own, or to none? -/
def beginsDocument : Token → Bool
  | .versionDirective _ _ | .tagDirective _ _ | .documentStart => true
  | _ => false

/-- The node of the document, whose start mark has been read. -/
def content : Grammar Node := do
  match ← peek with
  | none => return .empty {}
  | some t =>
    if beginsDocument t || t = .documentEnd then return .empty {}
    else rootNode

/-- The root of the one document that the tokens form, or nothing if there are
no tokens. -/
def document (ts : List Token) : Except Fault (Option Node) :=
  match ts with
  | [] => .ok none
  | t :: _ => do
    let (root, r) ←
      if beginsDocument t then do
        let (handles, rest) ← directives false [] ts
        match rest with
        | .documentStart :: rest => content { rest, handles := handles ++ standardHandles }
        | _ => throw .unexpectedToken
      else rootNode { rest := ts, handles := standardHandles }
    match r.rest with
    | [] => return some root
    | t :: rest =>
      if t = .documentEnd && rest.all (· = .documentEnd) then return some root
      else if t = .documentEnd || beginsDocument t then throw .severalDocuments
      else throw .unexpectedToken

end Grammar

end SchemaGen.Yaml
