import SchemaGen.Text.CaseTable

/-!
# Letter case

Full Unicode lower- and upper-casing of texts. Both are character by character,
with two exceptions on the lower side: the dotted capital I becomes two
characters, and a capital sigma at the end of a word becomes the final sigma.
ASCII is decided by arithmetic, everything else by the tables of
`SchemaGen.Text.CaseTable`.
-/

namespace SchemaGen.Text

/-! ## Single characters -/

/-- Move a code by the first run that covers it. -/
def shiftBy (runs : List CaseRun) (n : Nat) : Nat :=
  match runs.find? (·.covers n) with
  | some run => ((n : Int) + run.shift).toNat
  | none => n

/-- The simple lower-case form. -/
def lowerChar (c : Char) : Char :=
  if c.toNat < 128 then
    if 'A' ≤ c ∧ c ≤ 'Z' then Char.ofNat (c.toNat + 32) else c
  else Char.ofNat (shiftBy lowerRuns c.toNat)

/-- The full lower-case form of a character on its own. The dotted capital I
keeps its dot as a combining character. -/
def lowerFull (c : Char) : List Char :=
  if c = 'İ' then ['i', '\u0307'] else [lowerChar c]

/-- The full upper-case form of a character. -/
def upperFull (c : Char) : List Char :=
  if c.toNat < 128 then
    if 'a' ≤ c ∧ c ≤ 'z' then [Char.ofNat (c.toNat - 32)] else [c]
  else match upperExpansions.lookup c.toNat with
    | some codes => codes.map Char.ofNat
    | none => [Char.ofNat (shiftBy upperRuns c.toNat)]

/-- Does the character have a letter case? -/
def isCased (c : Char) : Bool :=
  if c.toNat < 128 then ('A' ≤ c && c ≤ 'Z') || ('a' ≤ c && c ≤ 'z')
  else casedRanges.holds c.toNat

/-- Is the character passed over when the neighbours of a letter are sought? -/
def isCaseIgnorable (c : Char) : Bool :=
  if c.toNat < 128 then c = '\'' || c = '.' || c = ':' || c = '^' || c = '\x60'
  else caseIgnorableRanges.holds c.toNat

/-! ## Texts -/

/-- Is the nearest character that counts a cased letter? -/
def meetsCased (cs : List Char) : Bool :=
  match cs.dropWhile isCaseIgnorable with
  | c :: _ => isCased c
  | [] => false

/-- The lower-case form of `cs`, where `before` holds the characters already
passed, nearest first. A capital sigma with a letter before it and none after
it ends a word and takes the final form. -/
def lowerFrom (before : List Char) : List Char → List Char
  | [] => []
  | c :: rest =>
    let form :=
      if c = 'Σ' then
        [if meetsCased before && !meetsCased rest then 'ς' else 'σ']
      else lowerFull c
    form ++ lowerFrom (c :: before) rest

/-- The text in lower case. -/
def lower (s : String) : String :=
  String.ofList (lowerFrom [] s.toList)

/-- The text in upper case. -/
def upper (s : String) : String :=
  String.ofList (s.toList.flatMap upperFull)

/-! ## Laws -/

/-- Only the empty text has an empty lower-case form. -/
theorem lowerFrom_eq_nil_iff (before cs : List Char) :
    lowerFrom before cs = [] ↔ cs = [] := by
  cases cs with
  | nil => simp [lowerFrom]
  | cons c rest =>
    simp only [lowerFrom, reduceCtorEq, iff_false]
    unfold lowerFull
    split <;> try split
    all_goals simp

end SchemaGen.Text
