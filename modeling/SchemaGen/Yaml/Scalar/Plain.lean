import SchemaGen.Yaml.Folding

/-!
# Plain scalars

A scalar without quotes runs over several words and lines. It ends before a
comment, before a colon that is followed by a gap, before a flow indicator
inside a flow collection, before a document marker, and where the indentation
falls back.
-/

namespace SchemaGen.Yaml.Plain

/-- Does a plain scalar end before this text? -/
def stopsAt (inFlow : Bool) : List Char → Bool
  | [] => true
  | c :: rest => isGap c || (c = ':' && atGap rest) || (inFlow && isFlowIndicator c)

/-- Inside a flow collection a colon must not touch an indicator. -/
def badColon (inFlow : Bool) : List Char → Bool
  | ':' :: c :: _ => inFlow && (isFlowIndicator c || c = '?')
  | _ => false

/-- Read one word. -/
def word (inFlow : Bool) : Nat → List Char → Cursor → Except Fault (List Char × Cursor)
  | 0, acc, c => .ok (acc.reverse, c)
  | fuel + 1, acc, c =>
    match c.rest with
    | [] => .ok (acc.reverse, c)
    | x :: _ =>
      if isGap x then .ok (acc.reverse, c)
      else if badColon inFlow c.rest then .error .strayCharacter
      else if stopsAt inFlow c.rest then .ok (acc.reverse, c)
      else word inFlow fuel (x :: acc) c.skip

/-- Read words and the white space between them. The last component tells
whether the scalar was left on a later line than its last word. -/
def words (inFlow : Bool) (minColumn : Nat) :
    Nat → List Char → Folding → Cursor → Except Fault (List Char × Bool × Cursor)
  | 0, acc, f, c => .ok (acc, f.broken, c)
  | fuel + 1, acc, f, c =>
    if c.atMarkerLine || c.at? (· = '#') then .ok (acc, f.broken, c)
    else do
      let (chars, c') ← word inFlow c.fuel [] c
      let acc' := if chars = [] then acc else acc ++ f.text ++ chars
      let f' := if chars = [] then f else {}
      if !c'.at? isGap then .ok (acc', f'.broken, c')
      else
        let (g, c'') ← Folding.read minColumn c'.fuel f' c'
        if !inFlow && c''.column < minColumn then .ok (acc', g.broken, c'')
        else words inFlow minColumn fuel acc' g c''

/-- Read a plain scalar that may not continue left of `minColumn`. -/
def read (inFlow : Bool) (minColumn : Nat) (c : Cursor) :
    Except Fault (List Char × Bool × Cursor) :=
  words inFlow minColumn c.fuel [] {} c

end SchemaGen.Yaml.Plain
