import Mathlib.Tactic.SplitIfs
import SchemaGen.Proofs.Text.Lowering
import SchemaGen.Proofs.Text.Trimming
import SchemaGen.Template.Builtins

/-!
# Types of columns and of fields

The type of a column and the type of a field come from one description, each by a filter
of its own. They agree on every description, those with unknown names included
(`types_agree`). A question mark behind the name changes neither, unless blanks come
before it: those behind a name are dropped, but only as long as nothing follows them
(`marked_iff`).
-/

namespace SchemaGen.Template.TypeName

open SchemaGen.Text

/-- The description gives a text as the type: it is the text, or a mapping that has it
under `type`. -/
inductive Gives : Val → String → Prop
  | text (safe : Bool) (s : String) : Gives (.str safe s) s
  | mapping {entries : List (Val × Val)} {safe : Bool} {s : String}
      (held : Val.lookup entries (.text "type") = some (.str safe s)) : Gives (.map entries) s

variable {v w : Val} {s name : String}

theorem Gives.described_eq (gives : Gives v s) : described v = trim s := by
  cases gives with
  | text => rfl
  | mapping held => rw [described, held]

/-! ## The filters -/

theorem apply_column (v : Val) :
    Filter.apply "sql_type" v {} = .ok (.text (ofColumn (described v))) :=
  rfl

theorem apply_field (v : Val) :
    Filter.apply "py_type" v {} = .ok (.text (ofField (described v))) :=
  rfl

/-! ## Columns and fields -/

/-- The type of a column whose field has a certain type. -/
def columnFor (field : String) : String :=
  if field = "int" ∨ field = "bool" then "INTEGER"
  else if field = "float" ∨ field = "Decimal" then "REAL"
  else if field = "bytes" then "BLOB"
  else "TEXT"

section

variable {table : Table}

theorem Table.exists_row_of_typeOf? {type : String} (known : table.typeOf? name = some type) :
    ∃ row ∈ table, lower (required name) ∈ row.2 ∧ row.1 = type := by
  obtain ⟨row, first, rfl⟩ := Option.map_eq_some_iff.mp known
  have listed := List.find?_some first
  exact ⟨row, List.mem_of_find?_eq_some first, List.contains_iff_mem.mp listed, rfl⟩

theorem Table.typeOf?_eq_none_iff :
    table.typeOf? name = none ↔ ∀ row ∈ table, lower (required name) ∉ row.2 := by
  simp [Table.typeOf?]

end

/-- Each name in the table of fields has the column that its field calls for. -/
theorem columns_agree : ∀ row ∈ fields, ∀ word ∈ row.2,
    ((columns.find? fun other => other.2.contains word).map (·.1)).getD "TEXT" =
      columnFor row.1 := by
  decide +kernel

/-- The table of columns has no name that the table of fields lacks. -/
theorem columns_covered : ∀ row ∈ columns, ∀ word ∈ row.2, ∃ other ∈ fields, word ∈ other.2 := by
  decide +kernel

theorem ofField_of_unknown (unknown : fields.typeOf? name = none) :
    ofField name = required name := by
  rw [ofField, unknown]
  rfl

theorem ofColumn_of_unknown (unknown : fields.typeOf? name = none) : ofColumn name = "TEXT" := by
  have absent : columns.typeOf? name = none := by
    rw [Table.typeOf?_eq_none_iff] at unknown ⊢
    intro row listed word
    obtain ⟨other, listed', word'⟩ := columns_covered row listed _ word
    exact unknown other listed' word'
  rw [ofColumn, absent]
  rfl

/-- An unknown name is no type that a known one leads to. -/
theorem columnFor_required (unknown : fields.typeOf? name = none) :
    columnFor (required name) = "TEXT" := by
  have other : ∀ word, (fields.find? fun row => row.2.contains (lower word)).isSome = true →
      required name ≠ word := by
    rintro word known rfl
    rw [Table.typeOf?, Option.map_eq_none_iff] at unknown
    rw [unknown] at known
    cases known
  rw [columnFor, if_neg, if_neg, if_neg (other "bytes" (by decide))]
  · exact not_or.mpr ⟨other "float" (by decide), other "Decimal" (by decide)⟩
  · exact not_or.mpr ⟨other "int" (by decide), other "bool" (by decide)⟩

/-- **The field decides the column**, although each has its own table. -/
theorem ofColumn_eq_columnFor (name : String) : ofColumn name = columnFor (ofField name) := by
  cases known : fields.typeOf? name with
  | none => rw [ofField_of_unknown known, columnFor_required known, ofColumn_of_unknown known]
  | some field =>
    obtain ⟨row, listed, word, rfl⟩ := Table.exists_row_of_typeOf? known
    rw [ofField, known]
    exact columns_agree row listed _ word

theorem columnFor_eq_iff (field : String) :
    (columnFor field = "INTEGER" ↔ field = "int" ∨ field = "bool") ∧
    (columnFor field = "REAL" ↔ field = "float" ∨ field = "Decimal") ∧
    (columnFor field = "BLOB" ↔ field = "bytes") ∧
    (columnFor field = "TEXT" ↔ field ∉ ["int", "bool", "float", "Decimal", "bytes"]) := by
  unfold columnFor
  split_ifs with whole number bytes
  · rcases whole with rfl | rfl <;> decide
  · rcases number with rfl | rfl <;> decide
  · subst bytes
    decide
  · simp [bytes, not_or.mp whole, not_or.mp number]

/-- **Columns and fields agree** on every description: each type of a column goes with
certain types of fields, and with no others. An unknown name is the type of the field
itself, and its column holds text. It does not matter whether a description is the name or
a mapping that has it. -/
theorem types_agree (v : Val) :
    ∃ column field, Filter.apply "sql_type" v {} = .ok (.text column) ∧
      Filter.apply "py_type" v {} = .ok (.text field) ∧
      (column = "INTEGER" ↔ field = "int" ∨ field = "bool") ∧
      (column = "REAL" ↔ field = "float" ∨ field = "Decimal") ∧
      (column = "BLOB" ↔ field = "bytes") ∧
      (column = "TEXT" ↔ field ∉ ["int", "bool", "float", "Decimal", "bytes"]) ∧
      (fields.typeOf? (described v) = none → column = "TEXT" ∧ field = required (described v)) ∧
      ∀ w s, Gives v s → Gives w s →
        Filter.apply "sql_type" w {} = Filter.apply "sql_type" v {} ∧
        Filter.apply "py_type" w {} = Filter.apply "py_type" v {} := by
  obtain ⟨whole, number, bytes, text⟩ := columnFor_eq_iff (ofField (described v))
  rw [← ofColumn_eq_columnFor] at whole number bytes text
  refine ⟨_, _, apply_column v, apply_field v, whole, number, bytes, text, fun unknown => ?_,
    fun w s gives gives' => ?_⟩
  · exact ⟨ofColumn_of_unknown unknown, ofField_of_unknown unknown⟩
  · rw [apply_column, apply_column, apply_field, apply_field, gives.described_eq,
      gives'.described_eq]
    exact ⟨rfl, rfl⟩

/-- A price, as a mapping and as a name. -/
theorem types_agree_price :
    Gives (.map [(.text "optional", .bool true), (.text "type", .text " Money?")]) " Money?" ∧
    Gives (.text " Money?") " Money?" ∧
    Filter.apply "py_type" (.text " Money?") {} = .ok (.text "Decimal") ∧
    Filter.apply "py_type"
      (.map [(.text "optional", .bool true), (.text "type", .text " Money?")]) {} =
        .ok (.text "Decimal") := by
  have mapping : Gives (.map [(.text "optional", .bool true), (.text "type", .text " Money?")])
      " Money?" := .mapping rfl
  have text : Gives (.text " Money?") " Money?" := .text false _
  have decimal : Filter.apply "py_type" (.text " Money?") {} = .ok (.text "Decimal") := rfl
  obtain ⟨_, _, _, _, _, _, _, _, _, alike⟩ := types_agree (.text " Money?")
  exact ⟨mapping, text, decimal, (alike _ _ text mapping).2.trans decimal⟩

/-! ## Question marks -/

theorem required_marked (name : String) : required (name ++ "?") = required name := by
  have mark : ("?" : String).toList = ['?'] := rfl
  rw [required, required, trimEndWhere, trimEndWhere, String.toList_append, mark,
    dropTail_concat_of_pos (by decide)]

/-- Before a question mark, blanks are kept. -/
theorem trim_marked (s : String) : trim (s ++ "?") = trimStartWhere isBlank s ++ "?" := by
  rw [trim_concat (by decide) (String.toList_append (s := s) (t := "?")), String.ofList_append]
  rfl

/-- Names count without their question marks. -/
theorem types_congr {other : String} (same : required name = required other) :
    ofColumn name = ofColumn other ∧ ofField name = ofField other := by
  have found : ∀ table : Table, table.typeOf? name = table.typeOf? other := by
    intro table
    rw [Table.typeOf?, Table.typeOf?, same]
  rw [ofColumn, ofColumn, ofField, ofField, found, found, same]
  exact ⟨rfl, rfl⟩

/-- No field is named or known by a word that ends in a blank. -/
theorem fields_filled : ∀ row ∈ fields, ∀ word ∈ row.1 :: row.2,
    word.toList.getLast?.any isBlank = false := by
  decide +kernel

/-- A name that ends in a blank is unknown. -/
theorem unknown_of_blank {front : List Char} {blank : Char} (isBlank : isBlank blank = true)
    (ends : required name = String.ofList (front ++ [blank])) : fields.typeOf? name = none := by
  obtain ⟨lowered, same⟩ := exists_lower_concat isBlank front
  rw [Table.typeOf?_eq_none_iff]
  intro row listed word
  have filled := fields_filled row listed _ (List.mem_cons_of_mem _ word)
  rw [ends, same, List.getLast?_concat] at filled
  exact absurd isBlank (by simpa using filled)

/-- A shorter name does not lead to a type that ends in a blank. -/
theorem ofField_ne {front : List Char} {blank : Char} (isBlank : isBlank blank = true)
    (short : name.toList.length ≤ front.length) :
    ofField name ≠ String.ofList (front ++ [blank]) := by
  intro same
  cases known : fields.typeOf? name with
  | none =>
    have length := congrArg (·.toList.length) ((ofField_of_unknown known).symm.trans same)
    have shorter := length_dropTail_le (· = '?') name.toList
    simp only [required, trimEndWhere, String.toList_ofList, List.length_append,
      List.length_singleton] at length
    omega
  | some field =>
    obtain ⟨row, listed, _, rfl⟩ := Table.exists_row_of_typeOf? known
    have filled := fields_filled row listed row.1 List.mem_cons_self
    rw [ofField, known, Option.getD_some] at same
    rw [same, String.toList_ofList, List.getLast?_concat] at filled
    exact absurd isBlank (by simpa using filled)

/-- **A question mark changes no type** just if no blanks come before it, those at the
start of the name apart; the column stays the same also if it holds text. Behind blanks
the name with its question mark is unknown, and the blanks become part of the type. -/
theorem marked_iff (gives : Gives v s) (marked : Gives w (s ++ "?")) :
    (Filter.apply "py_type" w {} = Filter.apply "py_type" v {} ↔ ¬ EndsBlank s) ∧
    (Filter.apply "sql_type" w {} = Filter.apply "sql_type" v {} ↔
      (EndsBlank s → Filter.apply "sql_type" v {} = .ok (.text "TEXT"))) ∧
    (EndsBlank s → Filter.apply "sql_type" w {} = .ok (.text "TEXT") ∧
      Filter.apply "py_type" w {} = .ok (.text (trimStartWhere isBlank s))) := by
  have base : required (trim (s ++ "?")) = required (trimStartWhere isBlank s) := by
    rw [trim_marked, required_marked]
  simp only [apply_column, apply_field, gives.described_eq, marked.described_eq]
  by_cases ends : EndsBlank s
  · obtain ⟨front, blank, isBlank, start, short⟩ := trim_of_endsBlank ends
    have noMark : blank ≠ '?' := fun same => absurd (same ▸ isBlank) (by decide)
    have whole : required (trim (s ++ "?")) = trimStartWhere Text.isBlank s := by
      rw [base, start, required, trimEndWhere, String.toList_ofList,
        dropTail_concat_of_not (by simpa using noMark)]
    have unknown := unknown_of_blank isBlank (whole.trans start)
    have field := (ofField_of_unknown unknown).trans whole
    have column := ofColumn_of_unknown unknown
    have other := ofField_ne isBlank short
    rw [← start] at other
    simp [field, column, ends, other.symm, Val.text, eq_comm]
  · rw [← trim_of_not_endsBlank ends] at base
    obtain ⟨column, field⟩ := types_congr base
    simp [column, field, ends]

/-- An optional price. -/
theorem marked_iff_price :
    Gives (.text " money") " money" ∧
    Gives (.map [(.text "type", .text " money?")]) (" money" ++ "?") ∧ ¬ EndsBlank " money" ∧
    Filter.apply "py_type" (.map [(.text "type", .text " money?")]) {} =
      Filter.apply "py_type" (.text " money") {} := by
  have plain : Gives (.text " money") " money" := .text false _
  have marked : Gives (.map [(.text "type", .text " money?")]) (" money" ++ "?") := .mapping rfl
  have ends : ¬ EndsBlank " money" := by
    rintro ⟨_, front, blank, split, isBlank⟩
    have last : some 'y' = some blank := (congrArg List.getLast? split).trans List.getLast?_concat
    obtain rfl := Option.some.inj last
    exact absurd isBlank (by decide)
  exact ⟨plain, marked, ends, (marked_iff plain marked).1.mpr ends⟩

/-- **The question mark changes the type** behind a blank: a whole number becomes an
unknown type. -/
theorem changed_by_mark :
    Gives (.text "int ") "int " ∧ Gives (.text "int ?") ("int " ++ "?") ∧
    Filter.apply "sql_type" (.text "int ") {} = .ok (.text "INTEGER") ∧
    Filter.apply "sql_type" (.text "int ?") {} = .ok (.text "TEXT") ∧
    Filter.apply "py_type" (.text "int ") {} = .ok (.text "int") ∧
    Filter.apply "py_type" (.text "int ?") {} = .ok (.text "int ") :=
  ⟨.text false _, .text false _, rfl, rfl, rfl, rfl⟩

end SchemaGen.Template.TypeName
