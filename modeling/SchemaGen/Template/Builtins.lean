import SchemaGen.Number.Decimal
import SchemaGen.Template.Operators
import SchemaGen.Template.TypeName

/-!
# Filters, tests and functions

What templates can call by name. Arguments that are texts are taken as they
print. Some of what the engine has is not here, and its names are unknown: the filters
`map`, `select`, `reject`, `selectattr`, `rejectattr`, `groupby`, `dictsort`, `split`,
`lines`, `round`, `attr`, `slice`, `batch`, `indent` and `pprint`, the tests `sameas`,
`filter` and `test`, and the function `debug`.
-/

namespace SchemaGen.Template

open SchemaGen.Number SchemaGen.Text

/-- The arguments of a call. -/
structure Args where
  positional : List Val := []
  keywords : List (String × Val) := []
  deriving Repr, Inhabited

namespace Args

/-- How many values are handed over; the keywords together are one. -/
def count (a : Args) : Nat :=
  a.positional.length + if a.keywords.isEmpty then 0 else 1

/-- Refuse more than `n` values. -/
def atMost (a : Args) (n : Nat) : Op Unit :=
  if n < a.count then .error .tooManyArguments else .ok ()

/-- An argument that may be absent. Keywords in its place are no value. -/
def optional (a : Args) (i : Nat) : Op (Option Val) :=
  match a.positional[i]? with
  | some .undefined | some .none => .ok none
  | some v => .ok (some v)
  | none =>
    if i = a.positional.length && !a.keywords.isEmpty then .error .invalidOperation else .ok none

/-- An argument that must be there. -/
def required (a : Args) (i : Nat) : Op Val :=
  match a.positional[i]? with
  | some v => .ok v
  | none =>
    if i = a.positional.length && !a.keywords.isEmpty then .error .invalidOperation
    else .error .missingArgument

/-- The text of an argument that must be there. -/
def text (a : Args) (i : Nat) : Op String := do
  return (← a.required i).print

/-- The keywords as a mapping. -/
def keywordMap (a : Args) : List (Val × Val) :=
  a.keywords.map fun (name, v) => (.text name, v)

/-- Refuse keywords other than these. -/
def onlyKeywords (a : Args) (names : List String) : Op Unit :=
  if a.keywords.all fun k => names.contains k.1 then .ok () else .error .tooManyArguments

/-- Is a keyword given and true? -/
def hasFlag (a : Args) (name : String) : Bool :=
  ((a.keywords.lookup name).map Val.isTrue).getD false

end Args

/-! ## Escaping -/

/-- The text of a character in marked-up output. -/
def escapeChar : Char → String
  | '<' => "&lt;"
  | '>' => "&gt;"
  | '&' => "&amp;"
  | '"' => "&quot;"
  | '\'' => "&#x27;"
  | '/' => "&#x2f;"
  | c => String.ofList [c]

/-- A text in marked-up output. -/
def escapeText (s : String) : String :=
  String.join (s.toList.map escapeChar)

namespace Val

/-- The text of a value in marked-up output. -/
def printEscaped : Val → String
  | .str true s => s
  | v => escapeText v.print

end Val

/-! ## Filters -/

namespace Filter

/-- A filter on the text of a value. -/
def onText (f : String → String) (v : Val) (a : Args) : Op Val := do
  a.atMost 0
  return .text (f v.print)

/-- A filter without arguments. -/
def simple (f : Val → Op Val) (v : Val) (a : Args) : Op Val := do
  a.atMost 0
  f v

/-- The items of a value that must have some. -/
def itemsOf (v : Val) : Op (List Val) :=
  match v.items? with
  | some items => .ok items
  | none => .error .invalidOperation

/-- Is the character a punctuation mark? -/
def isPunctuation (c : Char) : Bool :=
  let n := c.toNat
  (33 ≤ n && n ≤ 47) || (58 ≤ n && n ≤ 64) || (91 ≤ n && n ≤ 96) || (123 ≤ n && n ≤ 126)

/-- The first letter of every word in upper case, the others in lower case.
`first` tells that a word is about to begin. -/
def titleFrom (first : Bool) : List Char → List Char
  | [] => []
  | c :: rest =>
    if isPunctuation c || isBlank c then c :: titleFrom true rest
    else (if first then upperFull c else lowerFull c) ++ titleFrom false rest

/-- The first letter in upper case, the others in lower case. -/
def capitalize (s : String) : String :=
  match s.toList with
  | [] => ""
  | c :: rest => String.ofList (upperFull c) ++ lower (String.ofList rest)

/-- Put `new` in the place of every `old`; `skip` characters belong to one that
was replaced. An empty `old` stands between all characters. -/
def replaceFrom (old new : List Char) : (skip : Nat) → List Char → List Char
  | _, [] => if old.isEmpty then new else []
  | skip + 1, _ :: rest => replaceFrom old new skip rest
  | 0, c :: rest =>
    if old.isEmpty then new ++ c :: replaceFrom old new 0 rest
    else if old.isPrefixOf (c :: rest) then new ++ replaceFrom old new (old.length - 1) rest
    else c :: replaceFrom old new 0 rest

/-- Replace a text by another. -/
def replace (v : Val) (a : Args) : Op Val := do
  let old ← a.text 0
  let new ← a.text 1
  a.atMost 2
  return .text (String.ofList (replaceFrom old.toList new.toList 0 v.print.toList))

/-- Remove white space, or the characters given, from both ends. -/
def trim (v : Val) (a : Args) : Op Val := do
  let chars ← a.optional 0
  a.atMost 1
  match chars with
  | none => return .text (Text.trim v.print)
  | some chars =>
    let set := chars.print.toList
    return .text (String.ofList (trimChars (set.contains ·) v.print.toList))

/-- Put texts one after another. The joiner comes before an item if anything
stands before it. -/
def joinTexts (joiner : String) : (before : String) → List Val → String
  | before, [] => before
  | before, v :: rest =>
    let lead := if before.isEmpty then before else before ++ joiner
    joinTexts joiner (lead ++ v.print) rest

/-- Join the items of a value. -/
def join (v : Val) (a : Args) : Op Val := do
  let joiner ← a.optional 0
  a.atMost 1
  let items ← itemsOf v
  return .text (joinTexts (joiner.elim "" Val.print) "" items)

/-- The value itself, or another one if it is undefined or, when asked, false. -/
def orDefault (v : Val) (a : Args) : Op Val := do
  let other := a.positional[0]?.getD (.text "")
  let strict ← a.optional 1
  a.atMost 2
  let lax := (strict.map Val.isTrue).getD false
  match v with
  | .undefined => return other
  | v => return if lax && !v.isTrue then other else v

/-- The number of items or characters. -/
def length (v : Val) : Op Val :=
  match v.length? with
  | some n => .ok (.int n)
  | none => .error .invalidOperation

/-- The entries of a mapping as pairs. -/
def pairs : Val → Op Val
  | .map entries => .ok (.seq false (entries.map fun e => .seq true [e.1, e.2]))
  | _ => .error .invalidOperation

/-- The first item. -/
def first : Val → Op Val
  | .str _ s => .ok ((s.toList.head?.map fun c => .text (String.ofList [c])).getD .undefined)
  | .seq _ items => .ok (items.head?.getD .undefined)
  | .map entries => .ok ((entries.head?.map (·.1)).getD .undefined)
  | _ => .error .invalidOperation

/-- The last item. -/
def last : Val → Op Val
  | .str _ s => .ok ((s.toList.getLast?.map fun c => .text (String.ofList [c])).getD .undefined)
  | .seq _ items => .ok (items.getLast?.getD .undefined)
  | _ => .error .invalidOperation

/-- The items as a list. -/
def list (v : Val) : Op Val := do
  return .seq true (← itemsOf v)

/-- The items in the opposite order. -/
def reverse : Val → Op Val
  | .undefined => .ok .undefined
  | .none => .ok .none
  | .str _ s => .ok (.text (String.ofList s.toList.reverse))
  | .seq _ items => .ok (.seq false items.reverse)
  | .map entries => .ok (.seq false (entries.map (·.1)).reverse)
  | _ => .error .invalidOperation

/-- The order of values in which the case of ASCII letters may not count. -/
def looseOrder (caseSensitive : Bool) (a b : Val) : Ordering :=
  match a, b with
  | .str _ s, .str _ t =>
    if caseSensitive then Val.textOrder s t
    else Val.textOrder (s.map Char.toLower) (t.map Char.toLower)
  | a, b => a.order b

/-- Follow a dotted path of attributes. -/
def atPath (path : Option Val) (v : Val) : Val :=
  match path with
  | none => v
  | some path =>
    (path.print.splitOn ".").foldl (fun v name =>
      match v with
      | .map entries => (Val.lookup entries (.text name)).getD .undefined
      | v => (name.toNat?.bind fun n => Operators.item? v (.int n)).getD .undefined) v

/-- The items in order. -/
def sort (v : Val) (a : Args) : Op Val := do
  let items ← itemsOf v
  if !a.positional.isEmpty then .error .tooManyArguments
  a.onlyKeywords ["case_sensitive", "attribute", "reverse"]
  let sensitive := a.hasFlag "case_sensitive"
  let key := atPath (a.keywords.lookup "attribute")
  let sorted := items.mergeSort fun x y => looseOrder sensitive (key x) (key y) != .gt
  return .seq true (if a.hasFlag "reverse" then sorted.reverse else sorted)

/-- The items that are not equal to an earlier one. -/
def unique (v : Val) : Op Val := do
  let items ← itemsOf v
  return .seq true (items.foldl (fun kept x =>
    if kept.any fun y => looseOrder false x y == .eq && x.kind == y.kind then kept
    else kept ++ [x]) [])

/-- The item that stands before all others in an order. -/
def extreme (better : Ordering) (v : Val) : Op Val := do
  match ← itemsOf v with
  | [] => return .undefined
  | x :: rest => return rest.foldl (fun best y => if y.order best == better then y else best) x

/-- The sum of the items. -/
def sum (v : Val) : Op Val := do
  (← itemsOf v).foldlM (fun total x => Operators.add total x) (.int 0)

/-- The number without its sign. -/
def abs : Val → Op Val
  | .int n => Operators.integer n.natAbs
  | .float x => .ok (.float (if x.isNegative then x.neg else x))
  | _ => .error .invalidOperation

/-- The integer part of a floating-point number. -/
def wholePart (x : Binary64) : Op Val :=
  let whole := if x.isNegative then (x.neg.floor).neg else x.floor
  match whole.toInt? with
  | some n => Operators.integer n
  | none => .error .invalidOperation

/-- A value as an integer. -/
def int : Val → Op Val
  | .undefined => .ok (.int 0)
  | .none => .ok (.int 0)
  | .bool b => .ok (.int (if b then 1 else 0))
  | .int n => .ok (.int n)
  | .float x => wholePart x
  | .str _ s =>
    let (negative, digits) := splitSign s.toList
    match natOfDigits? 10 digits with
    | some n => Operators.integer (if negative then -(n : Int) else n)
    | none => match readDecimal? s.toList with
      | some x => wholePart x
      | none => .error .invalidOperation
  | _ => .error .invalidOperation

/-- A value as a floating-point number. -/
def float : Val → Op Val
  | .undefined => .ok (.float (.zero false))
  | .none => .ok (.float (.zero false))
  | .str _ s =>
    match readDecimal? s.toList with
    | some x => .ok (.float x)
    | none => .error .invalidOperation
  | v => match v.numeral? with
    | some n => .ok (.float n.toFloat)
    | none => .error .invalidOperation

/-- The filter of a name. -/
def named? : String → Option (Val → Args → Op Val)
  | "upper" => some (onText upper)
  | "lower" => some (onText lower)
  | "title" => some (onText fun s => String.ofList (titleFrom true s.toList))
  | "capitalize" => some (onText capitalize)
  | "trim" => some trim
  | "replace" => some replace
  | "length" | "count" => some (simple length)
  | "items" => some (simple pairs)
  | "join" => some join
  | "default" | "d" => some orDefault
  | "first" => some (simple first)
  | "last" => some (simple last)
  | "list" => some (simple list)
  | "reverse" => some (simple reverse)
  | "sort" => some sort
  | "unique" => some (simple unique)
  | "min" => some (simple (extreme .lt))
  | "max" => some (simple (extreme .gt))
  | "sum" => some (simple sum)
  | "abs" => some (simple abs)
  | "int" => some (simple int)
  | "float" => some (simple float)
  | "bool" => some (simple fun v => .ok (.bool v.isTrue))
  | "string" => some (simple fun v => .ok (match v with | .str safe s => .str safe s | v => .text v.print))
  | "safe" => some (simple fun v => .ok (.str true v.print))
  | "escape" | "e" => some (simple fun v => .ok (.str true v.printEscaped))
  | "sql_type" => some (simple fun v => .ok (.text (TypeName.ofColumn (TypeName.described v))))
  | "py_type" => some (simple fun v => .ok (.text (TypeName.ofField (TypeName.described v))))
  | _ => none

/-- Apply the filter of a name. -/
def apply (name : String) (v : Val) (a : Args) : Op Val :=
  match named? name with
  | some filter => filter v a
  | none => .error .unknownFilter

end Filter

/-! ## Tests -/

namespace Test

/-- A test without arguments. -/
def simple (p : Val → Bool) (v : Val) (a : Args) : Op Bool := do
  a.atMost 0
  return p v

/-- A test against one other value. -/
def against (p : Val → Val → Op Bool) (v : Val) (a : Args) : Op Bool := do
  let other ← a.required 0
  a.atMost 1
  p v other

/-- The comparison by an operator. -/
def comparison (op : BinaryOp) (v other : Val) : Op Bool := do
  return (← Operators.apply op v other).isTrue

/-- Does the remainder by a divisor satisfy a condition? -/
def remainder (p : Int → Bool) (divisor : Int) (v : Val) : Bool :=
  match v.int? with
  | some n => divisor != 0 && p (n % divisor)
  | none => false

/-- Is the value an integer? -/
def isInteger : Val → Bool
  | .int _ => true
  | _ => false

/-- Is the value a floating-point number? -/
def isFloat : Val → Bool
  | .float _ => true
  | _ => false

/-- Is the value free of escapes? -/
def isSafe : Val → Bool
  | .str safe _ => safe
  | _ => false

/-- The test of a name. -/
def named? : String → Option (Val → Args → Op Bool)
  | "defined" => some (simple fun v => v.kind != .undefined)
  | "undefined" => some (simple fun v => v.kind == .undefined)
  | "none" => some (simple fun v => v.kind == .none)
  | "boolean" => some (simple fun v => v.kind == .bool)
  | "true" => some (simple fun v => v.kind == .bool && v.isTrue)
  | "false" => some (simple fun v => v.kind == .bool && !v.isTrue)
  | "number" => some (simple fun v => v.kind == .number)
  | "integer" => some (simple isInteger)
  | "float" => some (simple isFloat)
  | "string" => some (simple fun v => v.kind == .text)
  | "sequence" => some (simple fun v => v.kind == .seq)
  | "mapping" => some (simple fun v => v.kind == .map)
  | "iterable" => some (simple fun v => v.items?.isSome && v.kind != .none && v.kind != .undefined)
  | "odd" => some (simple (remainder (· = 1) 2))
  | "even" => some (simple (remainder (· = 0) 2))
  | "divisibleby" => some (against fun v d => .ok ((d.int?.map (remainder (· = 0) · v)).getD false))
  | "startingwith" => some (against fun v t => .ok (t.print.toList.isPrefixOf v.print.toList))
  | "endingwith" => some (against fun v t => .ok (t.print.toList.isSuffixOf v.print.toList))
  | "lower" => some (simple fun v => v.print.toList.all fun c => lowerFull c == [c])
  | "upper" => some (simple fun v => v.print.toList.all fun c => upperFull c == [c])
  | "safe" | "escaped" => some (simple isSafe)
  | "eq" | "equalto" => some (against (comparison .eq))
  | "ne" => some (against (comparison .ne))
  | "lt" | "lessthan" => some (against (comparison .lt))
  | "le" => some (against (comparison .le))
  | "gt" | "greaterthan" => some (against (comparison .gt))
  | "ge" => some (against (comparison .ge))
  | "in" => some (against (comparison .contains))
  | _ => none

/-- Apply the test of a name. -/
def apply (name : String) (v : Val) (a : Args) : Op Bool :=
  match named? name with
  | some test => test v a
  | none => .error .unknownTest

end Test

/-! ## Functions -/

namespace Function

/-- The most items a range may have. -/
def rangeLimit : Nat := 100000

/-- A number of 32 bits without a sign. -/
def smallNat (v : Val) : Op Nat :=
  match v.int? with
  | some n => if 0 ≤ n ∧ n.natAbs < Nat.pow 2 32 then .ok n.toNat else .error .invalidOperation
  | none => .error .invalidOperation

/-- A number argument that may be absent. -/
def optionalNat (a : Args) (i : Nat) : Op (Option Nat) := do
  match ← a.optional i with
  | some v => return some (← smallNat v)
  | none => return none

/-- The numbers from one bound up to another, in steps. -/
def range (a : Args) : Op Val := do
  let lower ← smallNat (← a.required 0)
  let upper ← optionalNat a 1
  let step := (← optionalNat a 2).getD 1
  a.atMost 3
  let (low, high) := match upper with
    | some upper => (lower, upper)
    | none => (0, lower)
  if step = 0 then .error .invalidOperation
  let count := (high - low + step - 1) / step
  if rangeLimit < count then .error .invalidOperation
  return .seq false ((List.range count).map fun (i : Nat) => .int ((low + i * step : Nat) : Int))

/-- A mapping of the keywords. -/
def dict (a : Args) : Op Val := do
  let start : List (Val × Val) ← match a.positional[0]? with
    | none | some Val.undefined | some Val.none => pure []
    | some (Val.map entries) => pure entries
    | some _ => .error .invalidOperation
  if 1 < a.positional.length then .error .tooManyArguments
  return .map (a.keywordMap.foldl (fun m e => Val.insert m e.1 e.2) start)

/-- The name of a table in its schema, each in double quotes. -/
def tableRef (schema table : String) : String :=
  "\"" ++ schema ++ "\".\"" ++ table ++ "\""

/-- The name of a table in its schema. -/
def tableReference (a : Args) : Op Val := do
  let schema ← a.text 0
  let table ← a.text 1
  a.atMost 2
  return .text (tableRef schema table)

/-- The names of the functions. -/
def names : List String :=
  ["range", "dict", "namespace", "table_ref"]

/-- Call the function of a name, unless it makes a changeable record. -/
def call (name : String) (a : Args) : Op Val :=
  match name with
  | "range" => range a
  | "dict" => dict a
  | "table_ref" => tableReference a
  | _ => .error .unknownFunction

end Function

end SchemaGen.Template
