import SchemaGen.Number.Decimal
import SchemaGen.Template.Token
import SchemaGen.Text.Blank

/-!
# Reading tokens of templates

Outside of marks, text stands for itself; comments vanish, and raw blocks give
their content as text. A minus inside a mark removes the white space on its
side. Inside of marks stand words, literals and operators.
-/

namespace SchemaGen.Template

open SchemaGen.Number SchemaGen.Text

/-- A reading position: what is left, and its line. -/
structure Here where
  rest : List Char
  line : Nat
  deriving Repr, DecidableEq

namespace Here

/-- Step over `n` characters. -/
def skip (h : Here) (n : Nat) : Here :=
  ⟨h.rest.drop n, h.line + (h.rest.take n).count '\n'⟩

/-- Step over white space. -/
def skipBlanks (h : Here) : Here :=
  h.skip (h.rest.takeWhile isBlank).length

end Here

/-! ## Literals -/

/-- The characters of one-letter escapes. -/
def letterEscape? : Char → Option Char
  | '"' => some '"'
  | '\\' => some '\\'
  | '/' => some '/'
  | '\'' => some '\''
  | 'b' => some '\x08'
  | 'f' => some '\x0C'
  | 'n' => some '\n'
  | 'r' => some '\r'
  | 't' => some '\t'
  | _ => none

/-- The code of an escape: up to four hexadecimal digits, of which a first plus
sign is one. -/
def escapeCode? (cs : List Char) : Option Nat :=
  match cs with
  | '+' :: digits => natOfDigits? 16 digits
  | digits => natOfDigits? 16 digits

/-- Is the code one half of a character pair? -/
def isHalf (n : Nat) : Bool :=
  0xD800 ≤ n && n ≤ 0xDFFF

/-- The character of two halves. -/
def joinHalves? (high low : Nat) : Option Char :=
  if high < 0xDC00 ∧ 0xDC00 ≤ low then
    some (Char.ofNat (0x10000 + (high - 0xD800) * 0x400 + (low - 0xDC00)))
  else none

/-- Resolve the escapes of a string literal. `half` is the first half of a pair
that waits for the other one. -/
def unescape : Nat → (half : Option Nat) → List Char → Option (List Char)
  | 0, _, _ => none
  | _ + 1, none, [] => some []
  | _ + 1, some _, [] => none
  | fuel + 1, half, '\\' :: 'u' :: rest => do
    let code ← escapeCode? (rest.take 4)
    let rest := rest.drop 4
    match half, isHalf code with
    | none, false => return Char.ofNat code :: (← unescape fuel none rest)
    | none, true => unescape fuel (some code) rest
    | some _, false => none
    | some high, true => return (← joinHalves? high code) :: (← unescape fuel none rest)
  | _ + 1, some _, _ => none
  | fuel + 1, none, '\\' :: c :: rest => do
    return (← letterEscape? c) :: (← unescape fuel none rest)
  | _ + 1, none, ['\\'] => none
  | fuel + 1, none, c :: rest => do
    return c :: (← unescape fuel none rest)

/-- How many characters a string literal has before its closing quote, if it has
one. A backslash hides the character after it. -/
def literalLength? (quote : Char) : List Char → Option Nat
  | [] => none
  | '\\' :: _ :: rest => (literalLength? quote rest).map (· + 2)
  | c :: rest => if c = quote then some 0 else (literalLength? quote rest).map (· + 1)

/-- The parts of a number literal. -/
inductive NumberPart where
  | based
  | whole
  | fraction
  | exponent
  | exponentSign
  deriving Repr, DecidableEq

/-- The part that a character continues or begins, after `part`. -/
def NumberPart.next? (hexadecimal : Bool) (part : NumberPart) (c : Char) : Option NumberPart :=
  match part with
  | .based =>
    if isDecimalDigit c || c = '_' || (hexadecimal && (digitValue? c).isSome) then some .based
    else none
  | .whole =>
    if isDecimalDigit c || c = '_' then some .whole
    else if c = '.' then some .fraction
    else if c = 'e' || c = 'E' then some .exponent
    else none
  | .fraction =>
    if isDecimalDigit c || c = '_' then some .fraction
    else if c = 'e' || c = 'E' then some .exponent
    else none
  | .exponent =>
    if isDecimalDigit c || c = '_' then some .exponent
    else if c = '+' || c = '-' then some .exponentSign
    else none
  | .exponentSign =>
    if isDecimalDigit c then some .exponent
    else if c = '_' then some .exponentSign
    else none

/-- The length of a number literal, and its last part. -/
def numberLength (hexadecimal : Bool) (part : NumberPart) : List Char → Nat × NumberPart
  | [] => (0, part)
  | c :: rest =>
    match part.next? hexadecimal c with
    | none => (0, part)
    | some next =>
      let (n, last) := numberLength hexadecimal next rest
      (n + 1, last)

/-- The base that the first two characters of a number name. -/
def numberBase : List Char → Nat
  | '0' :: c :: _ =>
    if c = 'x' || c = 'X' then 16
    else if c = 'o' || c = 'O' then 8
    else if c = 'b' || c = 'B' then 2
    else 10
  | _ => 10

/-- The largest integer literal. -/
def intLimit : Nat := Nat.pow 2 128

/-- Read a number literal: its length, and its token if it is well formed. -/
def number (cs : List Char) : Nat × Option Token :=
  let base := numberBase cs
  let lead := if base = 10 then 0 else 2
  let start : NumberPart := if base = 10 then .whole else .based
  let (n, last) := numberLength (base = 16) start (cs.drop lead)
  let chars := (cs.drop lead).take n
  let digits := chars.filter (· != '_')
  let token :=
    if chars.getLast? = some '_' then none
    else if last = .whole || last = .based then
      (natOfDigits? base digits).bind fun n => if n < intLimit then some (.int n) else none
    else (readDecimal? digits).map .float
  (lead + n, token)

/-! ## Words and operators -/

/-- May a word begin with the character? -/
def startsWord (c : Char) : Bool :=
  c.isAlpha || c = '_'

/-- May a word go on with the character? -/
def inWord (c : Char) : Bool :=
  c.isAlphanum || c = '_'

/-- The operators of two characters. -/
def longMarks : List String :=
  ["//", "**", "==", "!=", ">=", "<="]

/-- The operators and brackets of one character. -/
def shortMarks : List Char :=
  "+-*/%.,:~|=><()[]\x7b\x7d".toList

/-- The operator or bracket at the position. -/
def mark? (cs : List Char) : Option String :=
  let two := String.ofList (cs.take 2)
  if longMarks.contains two then some two
  else match cs with
    | c :: _ => if shortMarks.contains c then some (String.ofList [c]) else none
    | [] => none

/-- Read the token at a position inside of marks: a word, a literal or an
operator. -/
def innerToken (h : Here) : Except LexFault (Token × Here) :=
  match mark? h.rest, h.rest with
  | some chars, _ => .ok (.mark chars, h.skip chars.length)
  | none, c :: rest =>
    if c = '\'' || c = '"' then
      match literalLength? c rest with
      | none => .error ⟨.malformed, some h.line⟩
      | some n =>
        match unescape (n + 1) none (rest.take n) with
        | some chars => .ok (.str (String.ofList chars), h.skip (n + 2))
        | none => .error ⟨.badEscape, none⟩
    else if isDecimalDigit c then
      match number h.rest with
      | (n, some token) => .ok (token, h.skip n)
      | (n, none) => .error ⟨.malformed, some (h.skip n).line⟩
    else if startsWord c then
      let chars := h.rest.takeWhile inWord
      .ok (.word (String.ofList chars), h.skip chars.length)
    else .error ⟨.malformed, some h.line⟩
  | none, [] => .error ⟨.malformed, some h.line⟩

/-! ## Marks -/

/-- What begins outside of marks. -/
inductive Opening where
  | variable
  | block
  | comment
  deriving Repr, DecidableEq

/-- What happens to the white space beside a mark. -/
inductive Trim where
  | keep
  | remove
  deriving Repr, DecidableEq

/-- The trim that a sign asks for, if it is one. -/
def trim? : Char → Option Trim
  | '-' => some .remove
  | '+' => some .keep
  | _ => none

/-- The trim at the start of a text, and how long its sign is. -/
def trimSign (cs : List Char) : Trim × Nat :=
  match cs.head?.bind trim? with
  | some t => (t, 1)
  | none => (.keep, 0)

/-- The opening at the start of a text, its trim, and its length. -/
def opening? : List Char → Option (Opening × Trim × Nat)
  | '\x7b' :: c :: rest =>
    let kind? :=
      if c = '\x7b' then some Opening.variable
      else if c = '%' then some .block
      else if c = '#' then some .comment
      else none
    kind?.map fun kind =>
      let (t, n) := trimSign rest
      (kind, t, 2 + n)
  | _ => none

/-- Does a text begin with these characters? -/
def startsWith (start : String) (cs : List Char) : Bool :=
  start.toList.isPrefixOf cs

/-- The text before the first place where `p` holds, if there is one. -/
def before? (p : List Char → Bool) : List Char → Option (List Char)
  | [] => if p [] then some [] else none
  | c :: rest => if p (c :: rest) then some [] else (before? p rest).map (c :: ·)

/-- The closing mark of a variable or a block. -/
def closing (kind : Opening) : String :=
  match kind with
  | .variable => "\x7d\x7d"
  | .block => "%\x7d"
  | .comment => "#\x7d"

/-- The closing mark at the start of a text, with its trim and its length. -/
def closing? (kind : Opening) (cs : List Char) : Option (Trim × Nat) :=
  let (t, n) := trimSign cs
  if 0 < n && startsWith (closing kind) (cs.drop n) then some (t, n + 2)
  else if startsWith (closing kind) cs then some (.keep, 2)
  else none

/-- Is the character white space between the words of a raw mark? -/
def isPlainBlank (c : Char) : Bool :=
  c = ' ' || c = '\t' || c = '\n' || c = '\r' || c = '\x0C'

/-- The rest of a block mark that holds one word only, after its opening: its
length, and the trim of its end. -/
def wordMark? (name : String) (cs : List Char) : Option (Nat × Trim) := do
  let rest := cs.dropWhile isPlainBlank
  if !startsWith name rest then none
  let rest := (rest.drop name.length).dropWhile isPlainBlank
  let (t, n) := trimSign rest
  let rest := rest.drop n
  if !startsWith (closing .block) rest then none
  return (cs.length - (rest.length - 2), t)

/-! ## The whole template -/

/-- The state of the lexer: inside which mark, and whether white space is to be
removed at the start of the text to come. -/
structure LexState where
  here : Here
  inside : Option Opening := none
  trimNext : Bool := false

/-- What one step yields: tokens, and the state after them. -/
abbrev LexStep := Except LexFault (List Located × LexState)

/-- A text token, unless the text is empty. -/
def textToken (chars : List Char) (line : Nat) : List Located :=
  if chars.isEmpty then [] else [⟨.text (String.ofList chars), line⟩]

/-- Is the text at the end of the block mark that closes a raw block? -/
def rawEnd? (cs : List Char) : Option (Nat × Trim × Trim) :=
  if startsWith "\x7b%" cs then
    let (t, n) := trimSign (cs.drop 2)
    (wordMark? "endraw" (cs.drop (2 + n))).map fun (m, after) => (2 + n + m, t, after)
  else none

/-- Read a raw block whose opening mark has been read. -/
def rawBlock (h : Here) (first : Trim) : LexStep :=
  match before? (fun cs => (rawEnd? cs).isSome) h.rest with
  | none => .error ⟨.malformed, some h.line⟩
  | some body =>
    let after := h.skip body.length
    match rawEnd? after.rest with
    | none => .error ⟨.malformed, some h.line⟩
    | some (n, trimBefore, trimAfter) =>
      let body := if first = .remove then body.dropWhile isBlank else body
      let body := if trimBefore = .remove then dropTail isBlank body else body
      .ok ([⟨.text (String.ofList body), h.line⟩],
        { here := after.skip n, trimNext := trimAfter = .remove })

/-- Step over a comment whose opening mark has been read. -/
def comment (h : Here) (atMark : Here) : LexStep :=
  match before? (startsWith (closing .comment)) h.rest with
  | none => .error ⟨.malformed, some atMark.line⟩
  | some body =>
    .ok ([], { here := h.skip (body.length + 2), trimNext := body.getLast? = some '-' })

/-- One step outside of marks, where something is left. -/
def outerStep (s : LexState) : LexStep :=
  let h := if s.trimNext then s.here.skipBlanks else s.here
  match opening? h.rest with
  | some (.comment, _, n) => comment (h.skip n) h
  | some (.variable, _, n) =>
    .ok ([⟨.variableStart, h.line⟩], { here := h.skip n, inside := some .variable })
  | some (.block, _, n) =>
    let inner := h.skip n
    match wordMark? "raw" inner.rest with
    | some (m, t) => rawBlock (inner.skip m) t
    | none => .ok ([⟨.blockStart, h.line⟩], { here := inner, inside := some .block })
  | none =>
    match before? (fun cs => (opening? cs).isSome) h.rest with
    | none => .ok (textToken h.rest h.line, { here := h.skip h.rest.length })
    | some lead =>
      let after := h.skip lead.length
      let trimmed := match opening? after.rest with
        | some (_, .remove, _) => dropTail isBlank lead
        | _ => lead
      .ok (textToken trimmed h.line, { here := after })

/-- One step inside of a mark. -/
def innerStep (s : LexState) (kind : Opening) : LexStep :=
  let h := s.here.skipBlanks
  if h.rest.isEmpty then .ok ([], { s with here := h })
  else match closing? kind h.rest with
    | some (t, n) =>
      let token := if kind = .variable then Token.variableEnd else .blockEnd
      .ok ([⟨token, h.line⟩], { here := h.skip n, trimNext := t = .remove })
    | none => do
      let (token, after) ← innerToken h
      return ([⟨token, h.line⟩], { s with here := after })

/-- Read tokens until nothing is left or a fault is met. -/
def lexAll : Nat → LexState → Tokens
  | 0, _ => ⟨[], none⟩
  | fuel + 1, s =>
    if s.here.rest.isEmpty then ⟨[], none⟩
    else
      match match s.inside with
        | none => outerStep s
        | some kind => innerStep s kind with
      | .error fault => ⟨[], some fault⟩
      | .ok (tokens, s) =>
        let more := lexAll fuel s
        { more with all := tokens ++ more.all }

/-- The text of a template without the one line end at its end. -/
def dropLineEnd (cs : List Char) : List Char :=
  match cs.reverse with
  | '\n' :: '\r' :: rest => rest.reverse
  | '\n' :: rest => rest.reverse
  | '\r' :: rest => rest.reverse
  | _ => cs

/-- The tokens of a template. -/
def Tokens.ofSource (source : String) : Tokens :=
  let cs := dropLineEnd source.toList
  lexAll (2 * cs.length + 2) { here := ⟨cs, 1⟩ }

end SchemaGen.Template
