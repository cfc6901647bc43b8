import SchemaGen.Proofs.Steps
import SchemaGen.Proofs.Yaml.Inheriting
import SchemaGen.Proofs.Yaml.Likeness
import SchemaGen.Yaml.Document

/-!
# Values and the nodes they are read from

Every mapping in the value of a document, the keys of mappings included, is that of
a mapping node of the document, entry by entry and in the same order, and its keys
are distinct (`exists_writes_of_part`). So no mapping of a data file has a key twice
(`neat_ofText`).
-/

namespace SchemaGen.Yaml

/-! ## Scalars -/

/-- The value is neither a collection nor tagged. -/
def Value.IsPlain : Value → Prop
  | .seq _ | .map _ | .tagged _ _ => False
  | .null | .bool _ | .int _ | .float _ | .str _ => True

namespace Scalar

variable {v : Value}

theorem isPlain_plain {s : String} (reads : plain s = .ok v) : v.IsPlain := by
  unfold plain at reads
  split at reads
  · cases reads
    trivial
  · split at reads
    · cases reads
      trivial
    · split at reads
      · rename_i n _
        cases n with
        | error fault => cases reads
        | ok n =>
          cases reads
          trivial
      · split at reads <;>
        · cases reads
          trivial

theorem isPlain_untagged {style : Style} {s : String} (reads : untagged style s = .ok v) :
    v.IsPlain := by
  unfold untagged at reads
  split at reads
  · exact isPlain_plain reads
  · cases reads
    trivial

theorem isPlain_withCoreTag {tag s : String} (reads : withCoreTag tag s = .ok v) :
    v.IsPlain := by
  unfold withCoreTag at reads
  split at reads
  · cases flag : boolOf? s with
    | none =>
      rw [flag] at reads
      cases reads
    | some b =>
      rw [flag] at reads
      cases reads
      trivial
  · split at reads
    · cases number : intOf? s with
      | none =>
        rw [number] at reads
        cases reads
      | some read =>
        rw [number] at reads
        cases read with
        | error fault => cases reads
        | ok n =>
          cases reads
          trivial
    · split at reads
      · cases number : floatOf? s with
        | none =>
          rw [number] at reads
          cases reads
        | some x =>
          rw [number] at reads
          cases reads
          trivial
      · split at reads
        · split at reads
          · cases reads
            trivial
          · cases reads
        · cases reads
          trivial

/-- Below its tag a scalar is plain. -/
theorem isPlain_value {tag : Option String} {style : Style} {s : String}
    (reads : value tag style s = .ok v) : v.untagged.IsPlain := by
  have plain : ∀ {v : Value}, v.IsPlain → v.untagged.IsPlain := by
    intro v holds
    cases v with
    | tagged t v => exact holds.elim
    | _ => exact holds
  unfold value at reads
  split at reads
  · exact plain (isPlain_untagged reads)
  · split at reads
    · cases inner : untagged style s with
      | error fault =>
        rw [inner] at reads
        cases reads
      | ok u =>
        rw [inner] at reads
        cases reads
        rw [Value.untagged_tagged]
        exact plain (isPlain_untagged inner)
    · exact plain (isPlain_withCoreTag reads)

end Scalar

/-! ## Nodes -/

/-- The node stands in the other one: it is the other one, or an item, or the key or
the value of an entry, at any depth. -/
inductive Node.Within (m : Node) : Node → Prop where
  | here : Within m m
  | item {n : Node} {props : Props} {items : List Node} (member : n ∈ items)
      (within : Within m n) : Within m (.seq props items)
  | key {e : Node × Node} {props : Props} {entries : List (Node × Node)} (member : e ∈ entries)
      (within : Within m e.1) : Within m (.map props entries)
  | value {e : Node × Node} {props : Props} {entries : List (Node × Node)} (member : e ∈ entries)
      (within : Within m e.2) : Within m (.map props entries)

theorem Node.within_of_anchoredHere {props : Props} {n m : Node} {number : Nat}
    (anchored : (number, m) ∈ anchoredHere props n) : m.Within n := by
  unfold anchoredHere at anchored
  split at anchored
  · cases List.mem_singleton.mp anchored
    exact .here
  · cases anchored

theorem Node.Within.trans {l m n : Node} (within : l.Within m) (around : m.Within n) :
    l.Within n := by
  induction around with
  | here => exact within
  | item member _ ih => exact .item member ih
  | key member _ ih => exact .key member ih
  | value member _ ih => exact .value member ih

namespace Node

mutual

theorem within_of_anchored : (root : Node) → {number : Nat} → {m : Node} →
    (number, m) ∈ root.anchored → m.Within root
  | .alias _, _, _, anchored => nomatch anchored
  | .scalar props style text, _, _, anchored => within_of_anchoredHere anchored
  | .seq props items, _, _, anchored => by
    rcases List.mem_append.mp anchored with here | inner
    · exact within_of_anchoredHere here
    · obtain ⟨n, member, within⟩ := within_of_anchoredItems items inner
      exact .item member within
  | .map props entries, _, _, anchored => by
    rcases List.mem_append.mp anchored with here | inner
    · exact within_of_anchoredHere here
    · obtain ⟨e, member, within | within⟩ := within_of_anchoredEntries entries inner
      · exact .key member within
      · exact .value member within

theorem within_of_anchoredItems : (items : List Node) → {number : Nat} → {m : Node} →
    (number, m) ∈ anchoredItems items → ∃ n ∈ items, m.Within n
  | n :: rest, _, _, anchored => by
    rcases List.mem_append.mp anchored with here | later
    · exact ⟨n, List.mem_cons_self, within_of_anchored n here⟩
    · obtain ⟨n', member, within⟩ := within_of_anchoredItems rest later
      exact ⟨n', List.mem_cons_of_mem n member, within⟩

theorem within_of_anchoredEntries : (entries : List (Node × Node)) → {number : Nat} →
    {m : Node} → (number, m) ∈ anchoredEntries entries →
    ∃ e ∈ entries, m.Within e.1 ∨ m.Within e.2
  | (k, v) :: rest, _, _, anchored => by
    rcases List.mem_append.mp anchored with here | later
    · rcases List.mem_append.mp here with key | value
      · exact ⟨(k, v), List.mem_cons_self, .inl (within_of_anchored k key)⟩
      · exact ⟨(k, v), List.mem_cons_self, .inr (within_of_anchored v value)⟩
    · obtain ⟨e, member, within⟩ := within_of_anchoredEntries rest later
      exact ⟨e, List.mem_cons_of_mem (k, v) member, within⟩

end

end Node

namespace Document

open MergeKey

variable {d : Document} {n m : Node} {v : Value}

/-- The document reads the node as this value. -/
def Reads (d : Document) (n : Node) (v : Value) : Prop :=
  ∃ depth s s', (d.compose depth n).run s = .ok (v, s')

/-- The entries are read from these nodes, in the same order. -/
def Writes (d : Document) (nodes : List (Node × Node)) (es : Entries) : Prop :=
  List.Forall₂ (fun n e => d.Reads n.1 e.1 ∧ d.Reads n.2 e.2) nodes es

/-- The node is the other one, or an alias for it. -/
def Means (d : Document) (n m : Node) : Prop :=
  n = m ∨ ∃ number, n = .alias number ∧ d.anchors.lookup number = some m

/-- What a node without aliases may be read as. -/
inductive Forms (d : Document) : Node → Value → Prop where
  | scalar {props : Props} {style : Style} {text : String} {v : Value}
      (reads : Scalar.value props.tag style text = .ok v) : Forms d (.scalar props style text) v
  | seq {props : Props} {items : List Node} {vs : List Value}
      (each : List.Forall₂ d.Reads items vs) :
      Forms d (.seq props items) (tagCollection props (.seq vs))
  | map {props : Props} {nodes : List (Node × Node)} {es : Entries}
      (each : d.Writes nodes es) (distinct : Entries.Distinct es) :
      Forms d (.map props nodes) (tagCollection props (.map es))

theorem means_of_follow {s s' : Nat} (run : (d.follow n).run s = .ok (m, s')) : d.Means n m := by
  cases n with
  | «alias» number =>
    unfold follow at run
    obtain ⟨left, s₁, get, run⟩ := run_bind_eq_ok.mp run
    split at run
    · cases run
    · cases run
    · rename_i found
      cases run
      exact .inr ⟨number, rfl, found⟩
  | _ =>
    cases run
    exact .inl rfl

/-- A node means only one node that is no alias. -/
theorem Means.unique {m' : Node} (means : d.Means n m) (means' : d.Means n m')
    (solid : ∀ number, m ≠ .alias number) (solid' : ∀ number, m' ≠ .alias number) : m = m' := by
  rcases means with rfl | ⟨number, rfl, found⟩
  · rcases means' with same | ⟨number, here, _⟩
    · exact same
    · exact absurd here (solid number)
  · rcases means' with same | ⟨number', same, found'⟩
    · exact absurd same.symm (solid' number)
    · cases same
      exact Option.some.inj (found.symm.trans found')

/-- A step that follows no alias. -/
theorem of_run_lift {α : Type} {x : Except Fault α} {a : α} {s s' : Nat}
    (run : (liftM x : Following α).run s = .ok (a, s')) : x = .ok a := by
  cases x with
  | error fault => cases run
  | ok b =>
    cases run
    rfl

theorem eq_of_addEntry {es es' : Entries} {k v : Value} (distinct : Entries.Distinct es)
    (added : addEntry es k v = .ok es') : es' = es ++ [(k, v)] ∧ Entries.Distinct es' := by
  unfold addEntry at added
  split at added
  · cases added
  · rename_i fresh
    cases added
    refine ⟨rfl, List.pairwise_append.mpr ⟨distinct, List.pairwise_singleton _ _, ?_⟩⟩
    intro e member new last
    rw [List.mem_singleton.mp last]
    exact Bool.eq_false_iff.mpr (List.any_eq_false.mp (Bool.eq_false_iff.mpr fresh) e member)

/-- What a node that is no alias is read as fits its kind. -/
theorem Reads.exists_forms (reads : d.Reads n v) : ∃ m, d.Means n m ∧ d.Forms m v := by
  obtain ⟨depth, s, s', run⟩ := reads
  cases depth with
  | zero =>
    rw [compose] at run
    obtain ⟨m, s₁, followed, run⟩ := run_bind_eq_ok.mp run
    refine ⟨m, means_of_follow followed, ?_⟩
    split at run
    · exact .scalar (of_run_lift run)
    · cases run
    · cases run
    · cases run
  | succ depth =>
    rw [compose] at run
    obtain ⟨m, s₁, followed, run⟩ := run_bind_eq_ok.mp run
    refine ⟨m, means_of_follow followed, ?_⟩
    split at run
    · exact .scalar (of_run_lift run)
    · cases run
    · obtain ⟨vs, s₂, each, run⟩ := run_bind_eq_ok.mp run
      cases run
      exact .seq (forall₂_of_run_mapM (fun a s b s' run => ⟨depth, s, s', run⟩) each)
    · rename_i props nodes
      obtain ⟨es, s₂, folded, run⟩ := run_bind_eq_ok.mp run
      cases run
      -- The entries so far are read from the nodes so far, and have distinct keys.
      have built : d.Writes nodes es ∧ Entries.Distinct es := by
        refine run_foldlM_front_induction
          (P := fun nodes es => d.Writes nodes es ∧ Entries.Distinct es) ?_
          ⟨.nil, .nil⟩ folded
        rintro front es ⟨key, value⟩ s es' s' ⟨writes, distinct⟩ run
        obtain ⟨k, s₁, readKey, run⟩ := run_bind_eq_ok.mp run
        obtain ⟨v, s₂, readValue, run⟩ := run_bind_eq_ok.mp run
        obtain ⟨rfl, distinct⟩ := eq_of_addEntry distinct (of_run_lift run)
        have last : d.Writes [(key, value)] [(k, v)] :=
          .cons ⟨⟨depth, s, s₁, readKey⟩, ⟨depth, s₁, s₂, readValue⟩⟩ .nil
        exact ⟨List.rel_append writes last, distinct⟩
      exact .map built.1 built.2

/-- The tag of a collection is all that stands around it. -/
theorem untagged_tagCollection (props : Props) (v : Value) :
    (tagCollection props v).untagged = v.untagged := by
  unfold tagCollection
  split <;> rfl

theorem Reads.exists_of_seq {items : List Value} (reads : d.Reads n v)
    (collection : v.untagged = .seq items) : ∃ props nodes, d.Means n (.seq props nodes) ∧
      List.Forall₂ d.Reads nodes items := by
  obtain ⟨m, means, forms⟩ := reads.exists_forms
  cases forms with
  | scalar reads =>
    have plain := Scalar.isPlain_value reads
    rw [collection] at plain
    exact plain.elim
  | @seq props nodes vs each =>
    rw [untagged_tagCollection] at collection
    cases collection
    exact ⟨props, nodes, means, each⟩
  | map _ _ =>
    rw [untagged_tagCollection] at collection
    cases collection

theorem Reads.exists_of_map {es : Entries} (reads : d.Reads n v)
    (collection : v.untagged = .map es) : ∃ props nodes, d.Means n (.map props nodes) ∧
      d.Writes nodes es ∧ Entries.Distinct es := by
  obtain ⟨m, means, forms⟩ := reads.exists_forms
  cases forms with
  | scalar reads =>
    have plain := Scalar.isPlain_value reads
    rw [collection] at plain
    exact plain.elim
  | seq _ =>
    rw [untagged_tagCollection] at collection
    cases collection
  | @map props nodes es each distinct =>
    rw [untagged_tagCollection] at collection
    cases collection
    exact ⟨props, nodes, means, each, distinct⟩

/-- The document has the node somewhere. -/
def Holds (d : Document) (m : Node) : Prop :=
  ∃ root, d.root = some root ∧ m.Within root

/-- What aliases stand for stands in the document. -/
def Closed (d : Document) : Prop :=
  ∀ number m, d.anchors.lookup number = some m → d.Holds m

theorem Means.holds (means : d.Means n m) (closed : d.Closed) (holds : d.Holds n) :
    d.Holds m := by
  rcases means with rfl | ⟨number, rfl, found⟩
  · exact holds
  · exact closed number m found

/-- An anchored node stands where it is anchored. -/
theorem closed_ofRoot (root : Option Node) : (ofRoot root).Closed := by
  intro number m found
  cases root with
  | none => cases found
  | some root =>
    obtain ⟨front, back, split, _⟩ := List.lookup_eq_some_iff.mp found
    have anchored : (number, m) ∈ root.anchored := by
      have listed : (number, m) ∈ root.anchored.reverse := by
        change root.anchored.reverse = _ at split
        rw [split]
        simp
      exact List.mem_reverse.mp listed
    exact ⟨root, rfl, Node.within_of_anchored root anchored⟩

variable {es : Entries}

/-- **A mapping in a value** is that of a mapping node, entry by entry. -/
theorem exists_writes_of_part (closed : d.Closed) (holds : d.Holds n) (reads : d.Reads n v)
    (within : (Value.map es).Part v) : ∃ props nodes, d.Holds (.map props nodes) ∧
      d.Writes nodes es ∧ Entries.Distinct es := by
  -- A tag belongs to the node of what it stands around, so only what is below it counts.
  have general : ∀ {u : Value}, (Value.map es).Part u → ∀ n v, d.Holds n → d.Reads n v →
      v.untagged = u.untagged → ∃ props nodes, d.Holds (.map props nodes) ∧
        d.Writes nodes es ∧ Entries.Distinct es := by
    intro u within
    induction within with
    | here =>
      intro n v holds reads same
      obtain ⟨props, nodes, means, found⟩ := reads.exists_of_map same
      exact ⟨props, nodes, means.holds closed holds, found⟩
    | item member _ ih =>
      intro n v holds reads same
      obtain ⟨props, nodes, means, each⟩ := reads.exists_of_seq same
      obtain ⟨item, listed, reads'⟩ := exists_left each member
      obtain ⟨root, top, around⟩ := means.holds closed holds
      exact ih item _ ⟨root, top, (Node.Within.item listed .here).trans around⟩ reads' rfl
    | key member _ ih =>
      intro n v holds reads same
      obtain ⟨props, nodes, means, writes, _⟩ := reads.exists_of_map same
      obtain ⟨entry, listed, reads', _⟩ := exists_left writes member
      obtain ⟨root, top, around⟩ := means.holds closed holds
      exact ih entry.1 _ ⟨root, top, (Node.Within.key listed .here).trans around⟩ reads' rfl
    | entry member _ ih =>
      intro n v holds reads same
      obtain ⟨props, nodes, means, writes, _⟩ := reads.exists_of_map same
      obtain ⟨entry, listed, _, reads'⟩ := exists_left writes member
      obtain ⟨root, top, around⟩ := means.holds closed holds
      exact ih entry.2 _ ⟨root, top, (Node.Within.value listed .here).trans around⟩ reads' rfl
    | under _ ih => exact ih
  exact general within n v holds reads rfl

end Document

/-- The text has a mapping with these entries, in the same order. -/
def Writes (text : String) (es : Entries) : Prop :=
  ∃ d props nodes, Document.ofText text = .ok d ∧ d.Holds (.map props nodes) ∧ d.Writes nodes es

/-- Every mapping in the value of a text is written there, its keys distinct. -/
theorem writes_of_part {text : String} {v : Value} {es : Entries}
    (read : Value.ofText text = .ok v) (within : (Value.map es).Part v) :
    Writes text es ∧ Entries.Distinct es := by
  obtain ⟨d, parsed, read⟩ := bind_eq_ok.mp read
  obtain ⟨tokens, scanned, built⟩ := bind_eq_ok.mp parsed
  obtain ⟨root, _, built⟩ := bind_eq_ok.mp built
  cases built
  unfold Document.value at read
  split at read
  · cases read
    cases within
  · rename_i top found
    cases run : (Document.ofRoot root).compose Document.depthLimit top |>.run
        (Document.ofRoot root).aliasLimit with
    | error fault =>
      rw [run] at read
      cases read
    | ok result =>
      rw [run] at read
      cases read
      have reads : (Document.ofRoot root).Reads top result.1 :=
        ⟨_, _, result.2, run⟩
      obtain ⟨props, nodes, holds, writes, distinct⟩ := Document.exists_writes_of_part
        (Document.closed_ofRoot root) ⟨top, found, .here⟩ reads within
      exact ⟨⟨_, props, nodes, parsed, holds, writes⟩, distinct⟩

theorem writes_of_inside {text : String} {v : Value} {es : Entries}
    (read : Value.ofText text = .ok v) (within : (Value.map es).Inside v) :
    Writes text es ∧ Entries.Distinct es :=
  writes_of_part read within.part

theorem neat_ofText {text : String} {v : Value} (read : Value.ofText text = .ok v) : v.Neat :=
  fun _ within => (writes_of_part read within).2

theorem tidy_ofText {text : String} {v : Value} (read : Value.ofText text = .ok v) : v.Tidy :=
  fun _ within => (writes_of_inside read within).2

end SchemaGen.Yaml
