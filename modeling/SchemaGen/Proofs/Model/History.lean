import SchemaGen.Proofs.Model.Definitions
import SchemaGen.Proofs.Model.Merging

/-!
# The history of a merge

The fragments that have a key, in their order, are its `definers`. A merge keeps
three things tied to them (`Merge.Records`): the model has what the last definer
describes, the origin of a key is the file of its last definer, and the
collisions of a key link each definer to the next. The main results say this of
whole merges: the last fragment wins the whole key (`last_wins`), and the
collisions are the history of what was overwritten, no more and no less
(`history_mergeFragments`).
-/

namespace SchemaGen

open SchemaGen.File

/-! ## Definers -/

/-- No section of the models has a key in common. -/
def Model.Apart (m n : Model) : Prop :=
  ∀ s key, key ∈ m.keys s → key ∉ n.keys s

theorem Model.Apart.symm {m n : Model} (apart : m.Apart n) : n.Apart m :=
  fun s key own other => apart s key other own

namespace Fragment

/-- The part of the model that the fragment describes. One that cannot be read
describes nothing. -/
def described (marker : String) (f : Fragment) : Model :=
  match f.decode marker with
  | .ok part => part
  | .error _ => {}

/-- Does the fragment have the key in the section? -/
def defines (marker : String) (s : Section) (key : String) (f : Fragment) : Bool :=
  ((f.described marker).keys s).contains key

variable {marker : String} {f : Fragment} {part : Model} {s : Section} {key : String}

theorem described_eq (decoded : f.decode marker = .ok part) : f.described marker = part := by
  rw [described, decoded]

theorem defines_iff : f.defines marker s key = true ↔ key ∈ (f.described marker).keys s := by
  simp [defines]

/-- No key is defined by both fragments in one section. -/
def Apart (marker : String) (f g : Fragment) : Prop :=
  (f.described marker).Apart (g.described marker)

end Fragment

/-- The fragments that have the key in the section, in their order. -/
def definers (marker : String) (s : Section) (key : String) (fragments : List Fragment) :
    List Fragment :=
  fragments.filter (·.defines marker s key)

/-- Is the collision one of this key? -/
def Collision.concerns (s : Section) (key : String) (c : Collision) : Bool :=
  c.part = s && c.key = key

/-- One collision of the key for every two files that follow each other. -/
def links (s : Section) (key : String) (paths : List FilePath) : List Collision :=
  (paths.zip paths.tail).map fun step => ⟨s, key, step.1, step.2⟩

section

variable {marker : String} {s : Section} {key : String}

theorem definers_concat (fragments : List Fragment) (f : Fragment) :
    definers marker s key (fragments ++ [f]) =
      definers marker s key fragments ++ if f.defines marker s key then [f] else [] := by
  unfold definers
  rw [List.filter_append, List.filter_singleton]
  cases f.defines marker s key <;> rfl

theorem mem_definers {fragments : List Fragment} {f : Fragment} :
    f ∈ definers marker s key fragments ↔ f ∈ fragments ∧ f.defines marker s key = true :=
  List.mem_filter

theorem links_concat (paths : List FilePath) (path : FilePath) :
    links s key (paths ++ [path]) =
      links s key paths ++ (paths.getLast?.map fun last => ⟨s, key, last, path⟩).toList := by
  induction paths with
  | nil => rfl
  | cons first rest ih =>
    cases rest with
    | nil => rfl
    | cons second rest =>
      have step : ∀ others, links s key (first :: second :: others) =
          ⟨s, key, first, second⟩ :: links s key (second :: others) := fun _ => rfl
      rw [List.cons_append, List.cons_append, step, ← List.cons_append, ih, step]
      rfl

theorem length_links (paths : List FilePath) : (links s key paths).length = paths.length - 1 := by
  simp [links]

/-- The last collision of a key is won by the last file. -/
theorem winner_of_getLast?_links {paths : List FilePath} {c : Collision}
    (last : (links s key paths).getLast? = some c) : paths.getLast? = some c.winner := by
  rcases List.eq_nil_or_concat paths with rfl | ⟨front, path, rfl⟩
  · cases last
  · rw [List.concat_eq_append, links_concat] at last
    rcases List.eq_nil_or_concat front with rfl | ⟨_, previous, rfl⟩
    · cases last
    · simp only [List.concat_eq_append, List.getLast?_concat, Option.map_some, Option.toList_some,
        Option.some.injEq] at last
      simp [← last]

/-- A key has no collision just if at most one fragment has it. -/
theorem links_eq_nil_iff {paths : List FilePath} : links s key paths = [] ↔ paths.length ≤ 1 := by
  rw [← List.length_eq_zero_iff, length_links]
  omega

end

/-- No key is defined twice just if the fragments are pairwise apart. -/
theorem pairwise_apart_iff {marker : String} {fragments : List Fragment} :
    fragments.Pairwise (Fragment.Apart marker) ↔
      ∀ s key, (definers marker s key fragments).length ≤ 1 := by
  induction fragments with
  | nil => simp [definers]
  | cons f rest ih =>
    rw [List.pairwise_cons, ih]
    constructor
    · rintro ⟨apart, others⟩ s key
      by_cases own : f.defines marker s key = true
      · have none : definers marker s key rest = [] :=
          List.filter_eq_nil_iff.mpr fun g member has =>
            apart g member s key (Fragment.defines_iff.mp own) (Fragment.defines_iff.mp has)
        rw [definers, List.filter_cons_of_pos own]
        change (f :: definers marker s key rest).length ≤ 1
        rw [none]
        exact Nat.le_refl 1
      · rw [definers, List.filter_cons_of_neg own]
        exact others s key
    · intro single
      refine ⟨fun g member s key own has => ?_, fun s key => ?_⟩
      · have one := single s key
        rw [definers, List.filter_cons_of_pos (Fragment.defines_iff.mpr own),
          List.length_cons] at one
        have none : definers marker s key rest = [] :=
          List.eq_nil_of_length_eq_zero (Nat.le_zero.mp (Nat.le_of_succ_le_succ one))
        exact List.filter_eq_nil_iff.mp none g member (Fragment.defines_iff.mpr has)
      · have shorter : (definers marker s key rest).Sublist (definers marker s key (f :: rest)) :=
          (List.sublist_cons_self f rest).filter _
        exact Nat.le_trans shorter.length_le (single s key)

/-! ## Where the records stand -/

/-- One record stands before another: by the fragments that overwrite, then by
the keys. -/
def RecordBefore (a b : Nat × Collision) : Prop :=
  a.1 < b.1 ∨ a.1 = b.1 ∧ Model.KeyBefore (a.2.part, a.2.key) (b.2.part, b.2.key)

/-- The collision is what the fragment at the position overwrites: a key of its
own that was last defined, before it, in the other file. -/
def Overwrote (marker : String) (fragments : List Fragment) (i : Nat) (c : Collision) : Prop :=
  ∃ f last, fragments[i]? = some f ∧ f.defines marker c.part c.key = true ∧ c.winner = f.path ∧
    (definers marker c.part c.key (fragments.take i)).getLast? = some last ∧
    c.previous = last.path

/-- The collisions, each with the position of the fragment that overwrites, stand
in their order, and they are all there are. -/
def InOrder (marker : String) (fragments : List Fragment) (collisions : List Collision) : Prop :=
  ∃ placed : List (Nat × Collision), placed.map (·.2) = collisions ∧
    placed.Pairwise RecordBefore ∧
    ∀ i c, (i, c) ∈ placed ↔ Overwrote marker fragments i c

/-- One more fragment overwrites at its own position only. -/
theorem overwrote_concat {marker : String} {before : List Fragment} {f : Fragment} {i : Nat}
    {c : Collision} : Overwrote marker (before ++ [f]) i c ↔
      Overwrote marker before i c ∨ i = before.length ∧
        f.defines marker c.part c.key = true ∧ c.winner = f.path ∧
          ∃ last, (definers marker c.part c.key before).getLast? = some last ∧
            c.previous = last.path := by
  constructor
  · rintro ⟨g, last, here, own, winner, overwritten, previous⟩
    by_cases earlier : i < before.length
    · rw [List.getElem?_append_left earlier] at here
      rw [List.take_append_of_le_length (Nat.le_of_lt earlier)] at overwritten
      exact .inl ⟨g, last, here, own, winner, overwritten, previous⟩
    · have inside : i < (before ++ [f]).length := (List.getElem?_eq_some_iff.mp here).1
      obtain rfl : i = before.length := by
        simp only [List.length_append, List.length_singleton] at inside
        omega
      obtain rfl : f = g := by simpa using here
      rw [List.take_left] at overwritten
      exact .inr ⟨rfl, own, winner, last, overwritten, previous⟩
  · rintro (⟨g, last, here, own, winner, overwritten, previous⟩ |
      ⟨rfl, own, winner, last, overwritten, previous⟩)
    · have earlier : i < before.length := (List.getElem?_eq_some_iff.mp here).1
      refine ⟨g, last, ?_, own, winner, ?_, previous⟩
      · rwa [List.getElem?_append_left earlier]
      · rwa [List.take_append_of_le_length (Nat.le_of_lt earlier)]
    · refine ⟨f, last, by simp, own, winner, ?_, previous⟩
      rwa [List.take_left]

namespace Merge

variable {marker : String} {m : Merge}

/-! ## The collisions of one fragment -/

theorem collision?_eq_some {path : FilePath} {k : Section × String} {c : Collision} :
    m.collision? path k = some c ↔
      ∃ previous, m.origins.lookup k = some previous ∧ ⟨k.1, k.2, previous, path⟩ = c := by
  simp [collision?]

/-- The new collisions of one key: at most one, if the fragment has the key. -/
private theorem filter_collisions {part : Model} (ordered : part.Ordered) (path : FilePath)
    (s : Section) (key : String) :
    (part.allKeys.filterMap (m.collision? path)).filter (Collision.concerns s key) =
      if key ∈ part.keys s then (m.collision? path (s, key)).toList else [] := by
  have same : ∀ k : Section × String,
      (m.collision? path k).filter (Collision.concerns s key) =
        if k = (s, key) then m.collision? path k else none := by
    intro k
    cases found : m.collision? path k with
    | none => simp
    | some c =>
      obtain ⟨previous, _, rfl⟩ := collision?_eq_some.mp found
      obtain ⟨t, name⟩ := k
      by_cases here : t = s ∧ name = key <;> simp_all [Collision.concerns, Option.filter]
  rw [List.filter_filterMap]
  simp only [same]
  have only : ∀ keys : List (Section × String),
      keys.filterMap (fun k => if k = (s, key) then m.collision? path k else none) =
        (keys.filter (· = (s, key))).filterMap (m.collision? path) := by
    intro keys
    rw [List.filterMap_filter]
    simp
  rw [only, List.filter_eq]
  by_cases member : key ∈ part.keys s
  · rw [if_pos member,
      List.count_eq_one_of_mem ordered.nodup_allKeys (Model.mem_allKeys.mpr member)]
    cases found : m.collision? path (s, key) <;> simp [found]
  · rw [if_neg member, List.count_eq_zero_of_not_mem fun k => member (Model.mem_allKeys.mp k)]
    rfl

theorem lookup_map_path (keys : List (Section × String)) (path : FilePath)
    (k : Section × String) :
    (keys.map (·, path)).lookup k = if k ∈ keys then some path else none := by
  induction keys with
  | nil => simp
  | cons first rest ih =>
    rw [List.map_cons, List.lookup_cons, ih]
    by_cases here : k = first
    · simp [here]
    · simp [here, beq_eq_false_iff_ne.mpr here]

/-! ## What a merge keeps -/

/-- What a merge has recorded of the fragments it has absorbed. -/
structure Records (marker : String) (absorbed : List Fragment) (m : Merge) : Prop where
  decoded : ∀ f ∈ absorbed, f.decode marker = .ok (f.described marker)
  ordered : m.model.Ordered
  latest : ∀ s key, m.model.definition? s key =
    (definers marker s key absorbed).getLast?.bind fun f => (f.described marker).definition? s key
  origin : ∀ s key,
    m.origins.lookup (s, key) = (definers marker s key absorbed).getLast?.map (·.path)
  chain : ∀ s key, m.collisions.filter (Collision.concerns s key) =
    links s key ((definers marker s key absorbed).map (·.path))
  inOrder : InOrder marker absorbed m.collisions

namespace Records

variable {before : List Fragment} {f : Fragment} {part : Model}

theorem start : Records marker [] {} where
  decoded := by simp
  ordered := Model.ordered_empty
  latest s key := by cases s <;> rfl
  origin _ _ := rfl
  chain _ _ := rfl
  inOrder := ⟨[], rfl, .nil, by simp [Overwrote]⟩

/-- The new collisions are those of keys that the fragment has and one before it
had. -/
private theorem mem_newCollisions (records : Records marker before m) {path : FilePath}
    {c : Collision} : c ∈ part.allKeys.filterMap (m.collision? path) ↔
      c.key ∈ part.keys c.part ∧ c.winner = path ∧
        ∃ last, (definers marker c.part c.key before).getLast? = some last ∧
          c.previous = last.path := by
  rw [List.mem_filterMap]
  constructor
  · rintro ⟨⟨s, key⟩, member, collided⟩
    obtain ⟨previous, origin, rfl⟩ := collision?_eq_some.mp collided
    rw [records.origin] at origin
    obtain ⟨last, overwritten, rfl⟩ := Option.map_eq_some_iff.mp origin
    exact ⟨Model.mem_allKeys.mp member, rfl, last, overwritten, rfl⟩
  · obtain ⟨s, key, previous, winner⟩ := c
    rintro ⟨own, rfl, last, overwritten, rfl⟩
    refine ⟨(s, key), Model.mem_allKeys.mpr own, collision?_eq_some.mpr ⟨last.path, ?_, rfl⟩⟩
    rw [records.origin, overwritten]
    rfl

/-- The new collisions stand behind the old ones, at the position of the new
fragment and in the order of its keys. -/
private theorem inOrder_add (records : Records marker before m)
    (decoded : f.decode marker = .ok part) :
    InOrder marker (before ++ [f]) (m.add f.path part).collisions := by
  obtain ⟨placed, old, sorted, complete⟩ := records.inOrder
  have inside : ∀ i c, (i, c) ∈ placed → i < before.length := by
    intro i c member
    obtain ⟨g, _, here, _⟩ := (complete i c).mp member
    exact (List.getElem?_eq_some_iff.mp here).1
  have keys : (part.allKeys.filterMap (m.collision? f.path)).Pairwise fun c d =>
      Model.KeyBefore (c.part, c.key) (d.part, d.key) := by
    refine (Fragment.ordered_of_decode decoded).allKeys.filterMap _ ?_
    intro k l earlier c found d found'
    obtain ⟨_, _, rfl⟩ := collision?_eq_some.mp found
    obtain ⟨_, _, rfl⟩ := collision?_eq_some.mp found'
    exact earlier
  refine ⟨placed ++ (part.allKeys.filterMap (m.collision? f.path)).map (before.length, ·), ?_, ?_,
    fun i c => ?_⟩
  · simp [add, old, Function.comp_def]
  · refine List.pairwise_append.mpr ⟨sorted, List.pairwise_map.mpr ?_, ?_⟩
    · exact keys.imp fun earlier => .inr ⟨rfl, earlier⟩
    · intro a member b new
      obtain ⟨d, _, rfl⟩ := List.mem_map.mp new
      exact .inl (inside a.1 a.2 member)
  · rw [List.mem_append, complete, overwrote_concat, Fragment.defines_iff,
      Fragment.described_eq decoded, ← records.mem_newCollisions]
    refine or_congr_right ?_
    rw [List.mem_map]
    constructor
    · rintro ⟨d, new, same⟩
      obtain ⟨rfl, rfl⟩ := Prod.mk.inj same
      exact ⟨rfl, new⟩
    · rintro ⟨rfl, new⟩
      exact ⟨c, new, rfl⟩

theorem add (records : Records marker before m) (decoded : f.decode marker = .ok part) :
    Records marker (before ++ [f]) (m.add f.path part) := by
  have described := Fragment.described_eq decoded
  have ordered := Fragment.ordered_of_decode decoded
  have own : ∀ s key, f.defines marker s key = true ↔ key ∈ part.keys s := fun s key => by
    rw [Fragment.defines_iff, described]
  refine ⟨?_, records.ordered.overlay part, fun s key => ?_, fun s key => ?_, fun s key => ?_,
    records.inOrder_add decoded⟩
  · intro g member
    rcases List.mem_append.mp member with member | member
    · exact records.decoded g member
    · obtain rfl := List.mem_singleton.mp member
      rw [decoded, described]
  · change (m.model.overlay part).definition? s key = _
    rw [Model.definition?_overlay ordered, records.latest, definers_concat]
    by_cases member : key ∈ part.keys s
    · obtain ⟨d, defined⟩ := Option.isSome_iff_exists.mp (Model.mem_keys_iff.mp member)
      simp [(own s key).mpr member, described, defined]
    · have absent : f.defines marker s key = false := by simpa [← own] using member
      simp [absent, Model.definition?_eq_none_iff.mpr member]
  · change (part.allKeys.map (·, f.path) ++ m.origins).lookup (s, key) = _
    rw [List.lookup_append, lookup_map_path, records.origin, definers_concat]
    by_cases member : key ∈ part.keys s
    · simp [(own s key).mpr member, Model.mem_allKeys.mpr member]
    · have absent : f.defines marker s key = false := by simpa [← own] using member
      simp [absent, Model.mem_allKeys, member]
  · change (m.collisions ++ part.allKeys.filterMap (m.collision? f.path)).filter _ = _
    rw [List.filter_append, records.chain, filter_collisions ordered, definers_concat]
    by_cases member : key ∈ part.keys s
    · rw [if_pos member, if_pos ((own s key).mpr member), List.map_append, List.map_singleton,
        links_concat, collision?, records.origin, List.getLast?_map]
    · have absent : ¬ f.defines marker s key = true := by simpa [own] using member
      rw [if_neg member, if_neg absent, List.append_nil, List.append_nil]

theorem absorb {m' : Merge} (records : Records marker before m)
    (absorbed : m.absorb marker f = .ok m') : Records marker (before ++ [f]) m' := by
  obtain ⟨part, decoded, rfl⟩ := absorb_eq_ok absorbed
  exact records.add decoded

end Records

end Merge

/-! ## An order book -/

/-- Three files, the later ones with other views of what the first one has. -/
def orderBook : List Fragment :=
  [⟨⟨"a.yaml"⟩, .map
      [(.str "types", .map [(.str "Money", .str "decimal")]),
        (.str "entities", .map [(.str "Order", .map
          [(.str "storage", .map [(.str "table", .str "orders")]),
            (.str "attributes", .map [(.str "id", .str "int")])])])]⟩,
    ⟨⟨"b.yaml"⟩, .map [(.str "entities", .map
      [(.str "Order", .map [(.str "attributes", .map [(.str "ref", .str "str")])]),
        (.str "Money", .null)])]⟩,
    ⟨⟨"c.yaml"⟩, .map
      [(.str "entities", .map
          [(.str "Order", .map [(.str "attributes", .map [(.str "total", .str "Money")])])]),
        (.str "types", .map [(.str "Money", .str "float")])]⟩]

/-- What the three files come to. -/
def orderBookMerged : Merged :=
  { model :=
      { entities := ⟨[("Money", {}), ("Order", { attributes := [(.str "total", .str "Money")] })]⟩
        types := ⟨[("Money", .str "float")]⟩ }
    collisions :=
      [⟨.entities, "Order", ⟨"a.yaml"⟩, ⟨"b.yaml"⟩⟩, ⟨.entities, "Order", ⟨"b.yaml"⟩, ⟨"c.yaml"⟩⟩,
        ⟨.types, "Money", ⟨"a.yaml"⟩, ⟨"c.yaml"⟩⟩] }

/-! ## Whole merges -/

section

variable {marker : String} {fragments : List Fragment} {merged : Merged}

/-- What is recorded of the fragments stands in the merged model and in the
collisions. -/
theorem records_of_mergeFragments (done : mergeFragments marker fragments = .ok merged) :
    ∃ m : Merge, m.Records marker fragments ∧ m.model = merged.model ∧
      m.collisions = merged.collisions := by
  obtain ⟨m, absorbed, _, rfl⟩ := mergeFragments_eq_ok done
  have all := Merge.foldlM_absorb_induction (fun _ _ _ _ records => records.absorb)
    Merge.Records.start absorbed
  exact ⟨m, all, rfl, rfl⟩

/-- What the last fragment with a key describes there is what is merged. -/
theorem definition?_of_last (done : mergeFragments marker fragments = .ok merged) {s : Section}
    {key : String} {front back : List Fragment} {f : Fragment}
    (split : fragments = front ++ f :: back) (own : key ∈ (f.described marker).keys s)
    (others : ∀ g ∈ back, key ∉ (g.described marker).keys s) :
    merged.model.definition? s key = (f.described marker).definition? s key := by
  obtain ⟨m, records, model, _⟩ := records_of_mergeFragments done
  have none : back.filter (·.defines marker s key) = [] :=
    List.filter_eq_nil_iff.mpr fun g member has => others g member (Fragment.defines_iff.mp has)
  have last : (definers marker s key fragments).getLast? = some f := by
    rw [split, definers, List.filter_append, List.filter_cons_of_pos (Fragment.defines_iff.mpr own),
      none, List.getLast?_concat]
  rw [← model, records.latest s key, last]
  rfl

/-- **The last fragment wins.** A section of the merged model has the keys that
any fragment has in it, and under each one all that the last of these fragments
describes there, whatever stood there before. -/
theorem last_wins (done : mergeFragments marker fragments = .ok merged) (s : Section)
    (key : String) :
    (∀ f ∈ fragments, f.decode marker = .ok (f.described marker)) ∧
    (key ∈ merged.model.keys s ↔ ∃ f ∈ fragments, key ∈ (f.described marker).keys s) ∧
    ∀ front f back, fragments = front ++ f :: back → key ∈ (f.described marker).keys s →
      (∀ g ∈ back, key ∉ (g.described marker).keys s) →
      ∃ definition, (f.described marker).definition? s key = some definition ∧
        merged.model.definition? s key = some definition := by
  obtain ⟨m, records, model, _⟩ := records_of_mergeFragments done
  have latest := records.latest s key
  rw [model] at latest
  refine ⟨records.decoded, ?_, ?_⟩
  · rw [Model.mem_keys_iff, latest]
    constructor
    · intro found
      obtain ⟨definition, defined⟩ := Option.isSome_iff_exists.mp found
      obtain ⟨f, last, _⟩ := Option.bind_eq_some_iff.mp defined
      obtain ⟨member, own⟩ := mem_definers.mp (List.mem_of_getLast? last)
      exact ⟨f, member, Fragment.defines_iff.mp own⟩
    · rintro ⟨f, member, own⟩
      have some' : f ∈ definers marker s key fragments :=
        mem_definers.mpr ⟨member, Fragment.defines_iff.mpr own⟩
      -- The last definer need not be this one, but it has the key as well.
      obtain ⟨last, ends⟩ := List.getLast?_isSome.mpr (List.ne_nil_of_mem some') |>
        Option.isSome_iff_exists.mp
      have has := (mem_definers.mp (List.mem_of_getLast? ends)).2
      rw [ends]
      exact Model.mem_keys_iff.mp (Fragment.defines_iff.mp has)
  · intro front f back split own others
    obtain ⟨definition, defined⟩ :=
      Option.isSome_iff_exists.mp (Model.mem_keys_iff.mp own)
    exact ⟨definition, defined, (definition?_of_last done split own others).trans defined⟩

theorem last_wins_orderBook :
    mergeFragments "shop" orderBook = .ok orderBookMerged ∧
      (∀ f ∈ orderBook, f.decode "shop" = .ok (f.described "shop")) ∧
      ("Order" ∈ orderBookMerged.model.keys .entities ↔
        ∃ f ∈ orderBook, "Order" ∈ (f.described "shop").keys .entities) ∧
      ∀ front f back, orderBook = front ++ f :: back →
        "Order" ∈ (f.described "shop").keys .entities →
        (∀ g ∈ back, "Order" ∉ (g.described "shop").keys .entities) →
        ∃ definition, (f.described "shop").definition? .entities "Order" = some definition ∧
          orderBookMerged.model.definition? .entities "Order" = some definition := by
  have done : mergeFragments "shop" orderBook = .ok orderBookMerged := by decide +kernel
  exact ⟨done, last_wins done .entities "Order"⟩

/-- A merge without collisions is one of fragments that are pairwise apart. -/
theorem collisions_eq_nil_iff (done : mergeFragments marker fragments = .ok merged) :
    merged.collisions = [] ↔ fragments.Pairwise (Fragment.Apart marker) := by
  obtain ⟨m, records, _, collisions⟩ := records_of_mergeFragments done
  have chain := records.chain
  rw [collisions] at chain
  rw [pairwise_apart_iff]
  constructor
  · intro none s key
    have empty : links s key ((definers marker s key fragments).map (·.path)) = [] := by
      rw [← chain, none]
      rfl
    simpa using links_eq_nil_iff.mp empty
  · intro single
    refine List.eq_nil_iff_forall_not_mem.mpr fun c member => ?_
    -- A collision would be one of its own key, which has none.
    have own : c ∈ merged.collisions.filter (Collision.concerns c.part c.key) :=
      List.mem_filter.mpr ⟨member, by simp [Collision.concerns]⟩
    have short : ((definers marker c.part c.key fragments).map (·.path)).length ≤ 1 := by
      simpa using single c.part c.key
    rw [chain, links_eq_nil_iff.mpr short] at own
    cases own

/-- What the collisions of a merge tell. -/
structure History (marker : String) (fragments : List Fragment) (merged : Merged) : Prop where
  /-- Of each key, one for every two definers that follow each other. -/
  chain : ∀ s key, merged.collisions.filter (Collision.concerns s key) =
    links s key ((definers marker s key fragments).map (·.path))
  /-- So one less than the definers, if there are any. -/
  count : ∀ s key, (merged.collisions.filter (Collision.concerns s key)).length =
    (definers marker s key fragments).length - 1
  /-- The last winner is the file that the merged model has the key from. -/
  winner : ∀ s key c, (merged.collisions.filter (Collision.concerns s key)).getLast? = some c →
    ∃ f, (definers marker s key fragments).getLast? = some f ∧ c.winner = f.path ∧
      merged.model.definition? s key = (f.described marker).definition? s key
  inOrder : InOrder marker fragments merged.collisions
  /-- There is none just if no key is defined twice. -/
  silent : merged.collisions = [] ↔ fragments.Pairwise (Fragment.Apart marker)

/-- **The collisions of a merge are its history.** -/
theorem history_mergeFragments (done : mergeFragments marker fragments = .ok merged) :
    History marker fragments merged := by
  have silent := collisions_eq_nil_iff done
  obtain ⟨m, records, model, collisions⟩ := records_of_mergeFragments done
  have chain := records.chain
  rw [collisions] at chain
  refine ⟨chain, fun s key => ?_, fun s key c last => ?_, collisions ▸ records.inOrder, silent⟩
  · rw [chain, length_links, List.length_map]
  · rw [chain] at last
    have path := winner_of_getLast?_links last
    rw [List.getLast?_map] at path
    obtain ⟨f, ends, same⟩ := Option.map_eq_some_iff.mp path
    refine ⟨f, ends, same.symm, ?_⟩
    rw [← model, records.latest, ends]
    rfl

theorem history_orderBook :
    mergeFragments "shop" orderBook = .ok orderBookMerged ∧
      History "shop" orderBook orderBookMerged := by
  have done : mergeFragments "shop" orderBook = .ok orderBookMerged := by decide +kernel
  exact ⟨done, history_mergeFragments done⟩

end

end SchemaGen
