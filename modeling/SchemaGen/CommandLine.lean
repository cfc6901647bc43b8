import SchemaGen.Project

/-!
# The command line

The program takes no arguments but those that ask for help or its version. They
are read from left to right, and the first one that matters decides.
-/

namespace SchemaGen

open SchemaGen.File

namespace CommandLine

/-- The name of the program. -/
def programName : String := "modelgen"

/-- Its version. -/
def versionNumber : String := "0.1.0"

/-- What a command asks for. -/
inductive Request where
  | run
  | help
  | version
  deriving Repr, DecidableEq

/-- Why a command is refused. -/
inductive Refusal where
  /-- An argument that means nothing, and an option that it resembles. -/
  | unknown (argument : String) (similar : Option String)
  /-- A value for an option that takes none. -/
  | needlessValue (value option : String)
  deriving Repr, DecidableEq

/-! ## Likeness of words -/

/-- Take the first character of `b` that equals `c`, stands at a place from `low`
up to `high`, and is not taken yet. The places run from `i`. -/
def takeMatch (c : Char) (low high : Nat) : (i : Nat) → List (Char × Bool) →
    Option (List (Char × Bool))
  | _, [] => none
  | i, (d, taken) :: rest =>
    if low ≤ i && i < high && c = d && !taken then some ((d, true) :: rest)
    else (takeMatch c low high (i + 1) rest).map ((d, taken) :: ·)

/-- The characters of `a` that have a partner in `b`, and `b` with the partners
marked. Partners are at most `reach` places apart. -/
def matchChars (reach : Nat) : (i : Nat) → List Char → List (Char × Bool) →
    List Char × List (Char × Bool)
  | _, [], b => ([], b)
  | i, c :: rest, b =>
    match takeMatch c (i - reach) (i + reach + 1) 0 b with
    | some b =>
      let (found, b) := matchChars reach (i + 1) rest b
      (c :: found, b)
    | none => matchChars reach (i + 1) rest b

/-- How alike two words are, as a fraction: the mean of the shares of partnered
characters in either word and of those that stand in the same order. -/
def likeness (a b : List Char) : Nat × Nat :=
  let reach := max a.length b.length / 2 - 1
  let (left, marked) := matchChars reach 0 a (b.map (·, false))
  let right := (marked.filter (·.2)).map (·.1)
  let m := left.length
  let moved := ((left.zip right).filter fun (x, y) => x != y).length / 2
  let n := a.length
  let k := b.length
  if m = 0 then (0, 1)
  else (m * m * k + m * m * n + (m - moved) * n * k, 3 * n * k * m)

/-- Are two words alike enough to suggest one for the other? -/
def isSimilar (a b : List Char) : Bool :=
  let (num, den) := likeness a b
  7 * den < 10 * num

/-! ## Arguments -/

/-- The long options. -/
def longOptions : List (String × Request) :=
  [("help", .help), ("version", .version)]

/-- The option that a mistyped one resembles most. -/
def suggestion? (name : List Char) : Option String :=
  let similar := longOptions.filter fun o => isSimilar name o.1.toList
  let better (x y : String) : String :=
    let (a, b) := likeness name x.toList
    let (c, d) := likeness name y.toList
    if a * d ≤ c * b then y else x
  match similar.map (·.1) with
  | [] => none
  | first :: rest => some (rest.foldl better first)

/-- Read a long option, after its dashes. -/
def longOption (cs : List Char) : Except Refusal Request :=
  let name := cs.takeWhile (· != '=')
  let value := cs.drop name.length
  match longOptions.lookup (String.ofList name) with
  | some request =>
    match value with
    | [] => .ok request
    | _ :: value => .error (.needlessValue (String.ofList value) ("--" ++ String.ofList name))
  | none => .error (.unknown ("--" ++ String.ofList name) ((suggestion? name).map ("--" ++ ·)))

/-- Read one argument. Two dashes alone mean nothing by themselves. -/
def argument (arg : String) : Except Refusal (Option Request) :=
  match arg.toList with
  | ['-', '-'] => .ok none
  | '-' :: '-' :: cs => (longOption cs).map some
  | '-' :: 'h' :: _ => .ok (some .help)
  | '-' :: 'V' :: _ => .ok (some .version)
  | '-' :: c :: _ => .error (.unknown (String.ofList ['-', c]) none)
  | _ => .error (.unknown arg none)

/-- Read the arguments. After two dashes every argument is refused. -/
def parse : List String → Except Refusal Request
  | [] => .ok .run
  | arg :: rest => do
    match ← argument arg with
    | some request => return request
    | none =>
      match rest with
      | [] => return .run
      | arg :: _ => .error (.unknown arg none)

/-! ## Replies -/

/-- What the program answers: an exit status and two texts. -/
structure Reply where
  status : Nat
  out : String
  err : String
  deriving Repr, DecidableEq

/-- The text of the help. -/
def helpText : String :=
  "Generates model stubs and table definitions from YAML domain schemas\n\n" ++
    "Usage: " ++ programName ++ "\n\nOptions:\n" ++
    "  -h, --help     Print help\n  -V, --version  Print version\n"

/-- The text of the version. -/
def versionText : String :=
  programName ++ " " ++ versionNumber ++ "\n"

/-- The end of every refusal. -/
def usageText (option : Option String) : String :=
  let shown := match option with
    | some option => " " ++ option
    | none => ""
  "\n\nUsage: " ++ programName ++ shown ++ "\n\nFor more information, try '--help'.\n"

/-- The text of a refusal. -/
def Refusal.message : Refusal → String
  | .unknown argument similar =>
    let tip := match similar with
      | some option => "\n\n  tip: a similar argument exists: '" ++ option ++ "'"
      | none => ""
    "error: unexpected argument '" ++ argument ++ "' found" ++ tip ++ usageText similar
  | .needlessValue value option =>
    "error: unexpected value '" ++ value ++ "' for '" ++ option ++
      "' found; no more were expected" ++ usageText (some option)

/-- Generate the project where relative paths begin. -/
def generateHere (d : Disk) (env : Environment) : Reply × Disk :=
  let outcome := Project.execute d env ⟨"."⟩
  match outcome.result with
  | .ok n => (⟨0, "Generated " ++ toString n ++ " models\n", ""⟩, outcome.disk)
  | .error e => (⟨1, "", "Error: " ++ e.message ++ "\n"⟩, outcome.disk)

/-- Answer a command. -/
def answer (d : Disk) (env : Environment) (args : List String) : Reply × Disk :=
  match parse args with
  | .error refusal => (⟨2, "", refusal.message⟩, d)
  | .ok .help => (⟨0, helpText, ""⟩, d)
  | .ok .version => (⟨0, versionText, ""⟩, d)
  | .ok .run => generateHere d env

end CommandLine

end SchemaGen
