import Mathlib.Data.List.Basic
import SchemaGen.Template.Engine

/-!
# References to tables

A reference is the name of a schema and the name of a table, each in double quotes, with a
dot between them. The names are written as they are, so a quote in a name ends it early:
a reference reads back as what it was made from just if neither name has a quote, and two
contexts share a reference just if their names are the same or the schema of one goes on
with what closes that of the other (`reference_faithful_iff`).
-/

namespace SchemaGen.Template

/-! ## Reading references -/

/-- Read an identifier behind its opening quote. A doubled quote stands for one. -/
def readQuoted : List Char → Option (List Char × List Char)
  | [] => none
  | '"' :: '"' :: rest => (readQuoted rest).map fun (name, behind) => ('"' :: name, behind)
  | c :: rest =>
    if c = '"' then some ([], rest)
    else (readQuoted rest).map fun (name, behind) => (c :: name, behind)

/-- Read an identifier in double quotes. -/
def readIdentifier : List Char → Option (List Char × List Char)
  | [] => none
  | c :: rest => if c = '"' then readQuoted rest else none

/-- Read two identifiers with a dot between them, and nothing else. -/
def readReference (text : String) : Option (String × String) :=
  match readIdentifier text.toList with
  | some (schema, '.' :: rest) =>
    match readIdentifier rest with
    | some (table, []) => some (String.ofList schema, String.ofList table)
    | _ => none
  | _ => none

/-- A name with its quotes doubled. -/
def doubled (name : List Char) : List Char :=
  name.flatMap fun c => if c = '"' then ['"', '"'] else [c]

theorem doubled_cons (c : Char) (rest : List Char) :
    doubled (c :: rest) = (if c = '"' then ['"', '"'] else [c]) ++ doubled rest :=
  List.flatMap_cons

/-- An identifier in double quotes. -/
def identifier (name : List Char) : List Char :=
  '"' :: doubled name ++ ['"']

variable {cs name behind : List Char}

theorem eq_of_readQuoted (read : readQuoted cs = some (name, behind)) :
    cs = doubled name ++ '"' :: behind := by
  fun_induction readQuoted cs generalizing name with
  | case1 => cases read
  | case2 rest ih =>
    obtain ⟨⟨more, _⟩, found, same⟩ := Option.map_eq_some_iff.mp read
    cases same
    rw [ih found, doubled_cons, if_pos rfl]
    rfl
  | case3 rest =>
    cases read
    rfl
  | case4 c rest _ plain ih =>
    obtain ⟨⟨more, _⟩, found, same⟩ := Option.map_eq_some_iff.mp read
    cases same
    rw [ih found, doubled_cons, if_neg plain]
    rfl

/-- An identifier is read to its closing quote: the one behind which there is no other. -/
theorem readQuoted_doubled (name : List Char) (ends : behind.head? ≠ some '"') :
    readQuoted (doubled name ++ '"' :: behind) = some (name, behind) := by
  induction name with
  | nil =>
    change readQuoted ('"' :: behind) = some ([], behind)
    unfold readQuoted
    split
    · rename_i same
      cases same
    · rename_i same
      cases same
      exact absurd rfl ends
    · rename_i same
      cases same
      rw [if_pos rfl]
  | cons c rest ih =>
    rw [doubled_cons]
    by_cases quote : c = '"'
    · subst quote
      rw [if_pos rfl]
      change readQuoted ('"' :: '"' :: (doubled rest ++ '"' :: behind)) = _
      rw [readQuoted, ih]
      rfl
    · rw [if_neg quote]
      change readQuoted (c :: (doubled rest ++ '"' :: behind)) = _
      rw [readQuoted, if_neg quote, ih]
      · rfl
      · exact fun _ same _ => quote same

theorem eq_of_readIdentifier (read : readIdentifier cs = some (name, behind)) :
    cs = identifier name ++ behind := by
  cases cs with
  | nil => cases read
  | cons c rest =>
    by_cases quote : c = '"'
    · rw [readIdentifier, if_pos quote] at read
      rw [quote, eq_of_readQuoted read, identifier]
      simp
    · rw [readIdentifier, if_neg quote] at read
      cases read

theorem readIdentifier_identifier (name : List Char) (ends : behind.head? ≠ some '"') :
    readIdentifier (identifier name ++ behind) = some (name, behind) := by
  have written : identifier name ++ behind = '"' :: (doubled name ++ '"' :: behind) := by
    simp [identifier]
  rw [written, readIdentifier, if_pos rfl, readQuoted_doubled name ends]

/-- **One text reads as two names**: the one with all their quotes doubled. -/
theorem readReference_eq_some_iff {text schema table : String} :
    readReference text = some (schema, table) ↔
      text.toList = identifier schema.toList ++ '.' :: identifier table.toList := by
  constructor
  · intro read
    unfold readReference at read
    split at read
    · rename_i first rest found
      split at read
      · rename_i second found'
        cases read
        rw [eq_of_readIdentifier found, eq_of_readIdentifier found']
        simp
      · cases read
    · cases read
  · intro written
    have first : readIdentifier (identifier schema.toList ++ '.' :: identifier table.toList) =
        some (schema.toList, '.' :: identifier table.toList) :=
      readIdentifier_identifier _ (by simp)
    have second : readIdentifier (identifier table.toList ++ []) = some (table.toList, []) :=
      readIdentifier_identifier _ (by simp)
    rw [List.append_nil] at second
    simp [readReference, written, first, second]

/-! ## References -/

/-- The reference that a template makes of the names in a context. -/
def referenceTo (c : Context) : Op Val := do
  let entity := Val.ofData c.toValue
  let schema ← Operators.attr entity "schema"
  let table ← Operators.attr entity "table"
  Function.call "table_ref" { positional := [schema, table] }

theorem attr_context (c : Context) :
    Operators.attr (Val.ofData c.toValue) "schema" = .ok (.text c.schema) ∧
      Operators.attr (Val.ofData c.toValue) "table" = .ok (.text c.table) := by
  simp [Context.toValue, Operators.attr, Val.ofData, Val.ofEntries, Val.insert, Val.lookup,
    Val.same, Val.text]

theorem referenceTo_eq (c : Context) :
    referenceTo c = .ok (.text (Function.tableRef c.schema c.table)) := by
  obtain ⟨schema, table⟩ := attr_context c
  rw [referenceTo, schema, table]
  rfl

theorem toList_tableRef (schema table : String) :
    (Function.tableRef schema table).toList =
      '"' :: (schema.toList ++ '"' :: '.' :: '"' :: (table.toList ++ ['"'])) := by
  simp [Function.tableRef]

theorem length_doubled (name : List Char) :
    (doubled name).length = name.length + name.count '"' := by
  induction name with
  | nil => rfl
  | cons c rest ih =>
    rw [doubled_cons, List.length_append, ih]
    by_cases quote : c = '"'
    · simp [quote]
      omega
    · simp [quote]
      omega

theorem doubled_of_not_mem (plain : '"' ∉ name) : doubled name = name := by
  induction name with
  | nil => rfl
  | cons c rest ih =>
    obtain ⟨other, plain⟩ := not_or.mp (mt List.mem_cons.mpr plain)
    rw [doubled_cons, if_neg (Ne.symm other), ih plain]
    rfl

/-- A reference reads back just if neither name has a quote. -/
theorem readReference_tableRef_iff {schema table : String} :
    readReference (Function.tableRef schema table) = some (schema, table) ↔
      '"' ∉ schema.toList ∧ '"' ∉ table.toList := by
  rw [readReference_eq_some_iff, toList_tableRef]
  constructor
  · intro same
    -- Every quote in a name makes the text that would be read one longer.
    have lengths := congrArg List.length same
    simp only [identifier, List.length_append, List.length_cons, List.length_nil,
      length_doubled] at lengths
    rw [← List.count_eq_zero, ← List.count_eq_zero]
    omega
  · rintro ⟨schemaPlain, tablePlain⟩
    simp [identifier, doubled_of_not_mem schemaPlain, doubled_of_not_mem tablePlain]

/-! ## References that are shared -/

/-- The second schema goes on where the first one ends, with what closes it; so the names
are divided at another place of the same text. -/
def Overlap (schema table schema' table' : String) : Prop :=
  ∃ more, schema'.toList = schema.toList ++ '"' :: '.' :: more ∧
    '"' :: table.toList = more ++ '"' :: '.' :: '"' :: table'.toList

/-- What stands between a schema and the end of the reference. -/
def behindSchema (table : List Char) : List Char :=
  '"' :: '.' :: '"' :: (table ++ ['"'])

theorem behindSchema_eq_append_iff {table table' front : List Char} :
    behindSchema table = front ++ behindSchema table' ↔ front = [] ∧ table = table' ∨
      ∃ more, front = '"' :: '.' :: more ∧
        '"' :: table = more ++ '"' :: '.' :: '"' :: table' := by
  have ended : ∀ cs : List Char, cs ++ behindSchema table' =
      (cs ++ '"' :: '.' :: '"' :: table') ++ ['"'] := by
    simp [behindSchema]
  -- The dot after the quote decides: a front of one character would have a quote there.
  match front with
  | [] => simp [behindSchema]
  | [c] => simp [behindSchema]
  | c :: d :: more =>
    have whole : behindSchema table = '"' :: '.' :: (('"' :: table) ++ ['"']) := rfl
    rw [List.cons_append, List.cons_append, ended, whole]
    simp only [List.cons.injEq, List.append_cancel_right_eq, reduceCtorEq, false_and, false_or]
    constructor
    · rintro ⟨rfl, rfl, same⟩
      exact ⟨more, ⟨rfl, rfl, rfl⟩, same⟩
    · rintro ⟨_, ⟨rfl, rfl, rfl⟩, same⟩
      exact ⟨rfl, rfl, same⟩

theorem tableRef_eq_iff {schema table schema' table' : String} :
    Function.tableRef schema table = Function.tableRef schema' table' ↔
      schema = schema' ∧ table = table' ∨ Overlap schema table schema' table' ∨
        Overlap schema' table' schema table := by
  have written : ∀ schema table, (Function.tableRef schema table).toList =
      '"' :: (schema.toList ++ behindSchema table.toList) := toList_tableRef
  rw [← String.toList_inj, written, written, List.cons.injEq, List.append_eq_append_iff]
  simp only [behindSchema_eq_append_iff, Overlap, true_and]
  have bySchema : schema.toList = schema'.toList ↔ schema = schema' := String.toList_inj
  have byTable : table.toList = table'.toList ↔ table = table' := String.toList_inj
  rw [← bySchema, ← byTable]
  constructor
  · rintro (⟨front, longer, ⟨rfl, same⟩ | ⟨more, rfl, rest⟩⟩ |
      ⟨front, longer, ⟨rfl, same⟩ | ⟨more, rfl, rest⟩⟩)
    · exact .inl ⟨by simpa using longer.symm, same⟩
    · exact .inr (.inl ⟨more, longer, rest⟩)
    · exact .inl ⟨by simpa using longer, same.symm⟩
    · exact .inr (.inr ⟨more, longer, rest⟩)
  · rintro (⟨schemas, tables⟩ | ⟨more, longer, rest⟩ | ⟨more, longer, rest⟩)
    · exact .inl ⟨[], by simpa using schemas.symm, .inl ⟨rfl, tables⟩⟩
    · exact .inl ⟨_, longer, .inr ⟨more, rfl, rest⟩⟩
    · exact .inr ⟨_, longer, .inr ⟨more, rfl, rest⟩⟩

/-- **A reference is faithful** just if there are no quotes in its way. Whatever the model,
the storage and the names of two entities are, each has a reference; it reads back as the
schema and the table it was made from just if neither has a quote, and it is the same for
both entities just if schema and table are, or if one schema goes on with what closes the
other. -/
theorem reference_faithful_iff (m m' : Model) (fallback fallback' name name' : String)
    (e e' : Entity) :
    let c := m.contextOf fallback name e
    let c' := m'.contextOf fallback' name' e'
    ∃ text text', referenceTo c = .ok (.text text) ∧ referenceTo c' = .ok (.text text') ∧
      (readReference text = some (c.schema, c.table) ↔
        '"' ∉ c.schema.toList ∧ '"' ∉ c.table.toList) ∧
      (text = text' ↔ c.schema = c'.schema ∧ c.table = c'.table ∨
        Overlap c.schema c.table c'.schema c'.table ∨
          Overlap c'.schema c'.table c.schema c.table) :=
  ⟨_, _, referenceTo_eq _, referenceTo_eq _, readReference_tableRef_iff, tableRef_eq_iff⟩

/-! ## A reference of two entities -/

/-- An entity whose storage names a schema and a table. -/
def storedIn (schema table : String) : Entity :=
  { storage := { schema := some (.str schema), table := some (.str table) } }

/-- **A reference is shared** by two contexts with other names, and reads back as neither of
them. -/
theorem reference_shared :
    let red := Model.contextOf {} "main" "Red" (storedIn "wine\".\"red" "dry")
    let dry := Model.contextOf {} "main" "Dry" (storedIn "wine" "red\".\"dry")
    red.schema ≠ dry.schema ∧ red.table ≠ dry.table ∧
      ∃ text, referenceTo red = .ok (.text text) ∧ referenceTo dry = .ok (.text text) ∧
        readReference text = none := by
  refine ⟨by decide, by decide, "\"wine\".\"red\".\"dry\"", ?_, ?_, by decide +kernel⟩
  · rw [referenceTo_eq]
    rfl
  · rw [referenceTo_eq]
    rfl

end SchemaGen.Template
