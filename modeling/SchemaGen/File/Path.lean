/-!
# Paths

A path is text; nothing about it is normalised. Its segments are what stands
between slashes. Empty segments and dots are passed over when a path is taken
apart, except for a dot at the start.
-/

namespace SchemaGen.File

/-- A path, as it is written. -/
structure FilePath where
  text : String
  deriving Repr, DecidableEq, Inhabited

/-- A part of a path. -/
inductive Component where
  | root
  | here
  | up
  | name (chars : List Char)
  deriving Repr, DecidableEq

namespace FilePath

/-- What stands between slashes. -/
def splitSlashes : List Char → List (List Char)
  | [] => [[]]
  | c :: rest =>
    if c = '/' then [] :: splitSlashes rest
    else match splitSlashes rest with
      | segment :: more => (c :: segment) :: more
      | [] => [[c]]

/-- The segments of a path. -/
def segments (p : FilePath) : List (List Char) :=
  splitSlashes p.text.toList

/-- Does the path begin at the root? -/
def isAbsolute (p : FilePath) : Bool :=
  p.text.toList.head? = some '/'

/-- Write one path after another. A slash comes between them unless the left one
is empty or ends in one; an absolute right side stands alone. -/
def join (p : FilePath) (right : String) : FilePath :=
  let left := p.text.toList
  if (FilePath.mk right).isAbsolute then ⟨right⟩
  else if left.isEmpty || left.getLast? = some '/' then ⟨p.text ++ right⟩
  else ⟨p.text ++ "/" ++ right⟩

/-! ## Components -/

/-- The component of a segment that is not the first. -/
def component? (segment : List Char) : Option Component :=
  if segment = [] || segment = ['.'] then none
  else if segment = ['.', '.'] then some .up
  else some (.name segment)

/-- The components of a path. -/
def components (p : FilePath) : List Component :=
  match p.segments with
  | [] => []
  | first :: rest =>
    let head :=
      if p.isAbsolute then some .root
      else if first = ['.'] then some .here
      else component? first
    head.toList ++ rest.filterMap component?

/-- The last component, if it is a name. -/
def fileName? (p : FilePath) : Option (List Char) :=
  match p.components.getLast? with
  | some (.name chars) => some chars
  | _ => none

/-- What follows the last dot of a file name, unless the name has no dot or
begins with its only one. -/
def extension? (p : FilePath) : Option String := do
  let name ← p.fileName?
  let after := (name.reverse.takeWhile (· != '.')).reverse
  let before := name.take (name.length - after.length)
  if before.length ≤ 1 then none else some (String.ofList after)

/-! ## Parents -/

/-- Write segments with slashes between them. -/
def unsplit (segments : List (List Char)) : List Char :=
  ['/'].intercalate segments

/-- Drop what is passed over at the end of a list of segments. -/
def dropIdle (segments : List (List Char)) : List (List Char) :=
  (segments.reverse.dropWhile fun s => (component? s).isNone).reverse

/-- The path without its last component; the root and the empty path have none. -/
def parent? (p : FilePath) : Option FilePath :=
  match p.segments with
  | [] => none
  | first :: rest =>
    match dropIdle rest with
    | [] => if first = [] then none else some ⟨""⟩
    | kept@(_ :: _) =>
      match dropIdle kept.dropLast with
      | [] => some ⟨if p.isAbsolute then "/" else String.ofList first⟩
      | above => some ⟨String.ofList (unsplit (first :: above))⟩

end FilePath

end SchemaGen.File
