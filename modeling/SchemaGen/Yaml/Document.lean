import SchemaGen.Yaml.Node.Grammar
import SchemaGen.Yaml.Scalar.Resolve
import SchemaGen.Yaml.Token.Stream

/-!
# Documents

A text holds at most one document. Its value is read off the tree of nodes:
aliases are followed, collections may be nested 128 deep with the aliases
followed, and a mapping may not hold a key twice. The number of aliases
followed is bounded by the size of the document.
-/

namespace SchemaGen.Yaml

/-- A document: its root, unless nothing is written at all, and the nodes that
aliases stand for. -/
structure Document where
  root : Option Node
  anchors : List (Nat × Node)
  /-- How many aliases may be followed. -/
  aliasLimit : Nat

namespace Document

/-- The document of a root. Of nodes with one number the last counts. -/
def ofRoot (root : Option Node) : Document :=
  { root
    anchors := (root.elim [] Node.anchored).reverse
    aliasLimit := 100 * root.elim 1 Node.eventCount }

/-- The one document of a text. -/
def ofText (text : String) : Except Fault Document := do
  return ofRoot (← Grammar.document (← Token.ofText text))

/-- A reading of part of a document, which counts the aliases it may still
follow. -/
abbrev Following := StateT Nat (Except Fault)

/-- The node itself, or the one that it stands for. -/
def follow (d : Document) (n : Node) : Following Node :=
  match n with
  | .alias number => do
    match ← get, d.anchors.lookup number with
    | 0, _ => throw .tooManyAliases
    | _, none => throw .unknownAnchor
    | left + 1, some target =>
      set left
      return target
  | n => return n

/-- Put the tag of a collection around its value, if the tag is local. -/
def tagCollection (props : Props) (v : Value) : Value :=
  match props.tag.bind Scalar.localTag? with
  | some name => .tagged name v
  | none => v

/-- Add an entry whose key must be new. -/
def addEntry (entries : Entries) (k v : Value) : Except Fault Entries :=
  if Entries.hasAlike entries k then .error .repeatedKey
  else .ok (entries ++ [(k, v)])

/-- The value of a node at which collections may be nested `depth` deep. -/
def compose (d : Document) : (depth : Nat) → Node → Following Value
  | 0, n => do
    match ← d.follow n with
    | .scalar props style text => Scalar.value props.tag style text
    | .alias _ => throw .unknownAnchor
    | .seq _ _ | .map _ _ => throw .tooDeep
  | depth + 1, n => do
    match ← d.follow n with
    | .scalar props style text => Scalar.value props.tag style text
    | .alias _ => throw .unknownAnchor
    | .seq props items =>
      return tagCollection props (.seq (← items.mapM (compose d depth)))
    | .map props entries => do
      let entries ← entries.foldlM (fun done (k, v) => do
        let k ← compose d depth k
        let v ← compose d depth v
        addEntry done k v) []
      return tagCollection props (.map entries)

/-- How deep collections may be nested. -/
def depthLimit : Nat := 128

/-- The value of a document; one without a root is null. -/
def value (d : Document) : Except Fault Value :=
  match d.root with
  | none => .ok .null
  | some root => (·.1) <$> (d.compose depthLimit root).run d.aliasLimit

end Document

/-- The value that a text holds. -/
def Value.ofText (text : String) : Except Fault Value := do
  (← Document.ofText text).value

end SchemaGen.Yaml
