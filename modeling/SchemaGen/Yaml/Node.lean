import SchemaGen.Yaml.Token

/-!
# Nodes

What the grammar makes of the tokens of a document: a tree of scalars and
collections whose scalars are still text. Anchors are numbered, and an alias
holds the number it stands for.
-/

namespace SchemaGen.Yaml

/-- The properties before a node. The tag is written out in full. -/
structure Props where
  anchor : Option Nat := none
  tag : Option String := none
  deriving Repr, DecidableEq

/-- A node of a document. -/
inductive Node where
  | alias (number : Nat)
  | scalar (props : Props) (style : Style) (text : String)
  | seq (props : Props) (items : List Node)
  | map (props : Props) (entries : List (Node × Node))
  deriving Repr, Inhabited

namespace Node

/-- The node that stands where nothing is written. -/
def empty (props : Props) : Node :=
  .scalar props .plain ""

mutual

/-- How many events a reader of the node sees: one for a scalar or an alias,
and an opening and a closing one for a collection. -/
def eventCount : Node → Nat
  | .alias _ => 1
  | .scalar _ _ _ => 1
  | .seq _ items => 2 + itemEvents items
  | .map _ entries => 2 + entryEvents entries

/-- The events of all items. -/
def itemEvents : List Node → Nat
  | [] => 0
  | n :: rest => eventCount n + itemEvents rest

/-- The events of all entries. -/
def entryEvents : List (Node × Node) → Nat
  | [] => 0
  | (k, v) :: rest => eventCount k + eventCount v + entryEvents rest

end

/-- A node with an anchor, as a list. -/
def anchoredHere (props : Props) (n : Node) : List (Nat × Node) :=
  match props.anchor with
  | some number => [(number, n)]
  | none => []

mutual

/-- The anchored nodes in the order in which they begin. -/
def anchored : Node → List (Nat × Node)
  | .alias _ => []
  | .scalar props style text => anchoredHere props (.scalar props style text)
  | .seq props items => anchoredHere props (.seq props items) ++ anchoredItems items
  | .map props entries => anchoredHere props (.map props entries) ++ anchoredEntries entries

/-- The anchored nodes of all items. -/
def anchoredItems : List Node → List (Nat × Node)
  | [] => []
  | n :: rest => anchored n ++ anchoredItems rest

/-- The anchored nodes of all entries. -/
def anchoredEntries : List (Node × Node) → List (Nat × Node)
  | [] => []
  | (k, v) :: rest => anchored k ++ anchored v ++ anchoredEntries rest

end

end Node

end SchemaGen.Yaml
