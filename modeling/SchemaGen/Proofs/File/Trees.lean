import Mathlib.Data.List.Nodup
import SchemaGen.Proofs.File.Growth

/-!
# Trees

A disk is well-formed (`Disk.WellFormed`) if it is one that a file system can have,
and a tree (`Disk.Tree`) if moreover no link stands on it. Every name below the root is
then a proper name in a directory, so a path that goes on by a name leads one name
further, over no link (`WellFormed.locate_join`).
What makes directories and writes files makes trees of trees, and to put a file
where it stands already changes nothing (`Tree.put_eq_self`).
-/

namespace SchemaGen.File

/-- May the text be the name of something in a directory? -/
structure ProperName (name : String) : Prop where
  isName : IsName name.toList
  noSlash : '/' ∉ name.toList
  noNul : '\x00' ∉ name.toList
  short : name.utf8ByteSize ≤ Disk.nameLimit

theorem FilePath.filled_join (p : FilePath) {name : String} (proper : ProperName name) :
    (p.join name).text.isEmpty = false := by
  obtain ⟨between, _, text⟩ := FilePath.toList_join p proper.noSlash
  have filled : (p.join name).text.toList ≠ [] := by
    rw [text]
    exact List.append_ne_nil_of_right_ne_nil _ proper.isName.1
  simpa [String.isEmpty_iff] using filled

theorem FilePath.noNul_join {p : FilePath} {name : String} (proper : ProperName name)
    (noNul : '\x00' ∉ p.text.toList) : '\x00' ∉ (p.join name).text.toList := by
  obtain ⟨between, slashes, text⟩ := FilePath.toList_join p proper.noSlash
  rw [text]
  simp only [List.mem_append, not_or]
  exact ⟨⟨noNul, fun nul => absurd (slashes _ nul) (by decide)⟩, proper.noNul⟩

theorem Location.under_toList (loc : Location) (name : String) :
    loc.under name.toList = loc ++ [name] := by
  rw [Location.under, String.ofList_toList]

/-- Every location stands once, in a directory and under proper names. What cannot be
listed is a directory. -/
structure Disk.WellFormed (d : Disk) : Prop where
  distinct : (d.items.map (·.1)).Nodup
  inside : ∀ e ∈ d.items, d.get? e.1.dropLast = some .directory
  named : ∀ e ∈ d.items, ∀ name ∈ e.1, ProperName name
  shut : ∀ e ∈ d.closed, d.get? e.1 = some .directory

/-- Every location stands once, in a directory and under proper names, and no
link stands anywhere. What cannot be listed is a directory. -/
structure Disk.Tree (d : Disk) : Prop where
  distinct : (d.items.map (·.1)).Nodup
  inside : ∀ e ∈ d.items, d.get? e.1.dropLast = some .directory
  named : ∀ e ∈ d.items, ∀ name ∈ e.1, ProperName name
  shut : ∀ e ∈ d.closed, d.get? e.1 = some .directory
  solid : ∀ e ∈ d.items, ∀ target, e.2 ≠ .link target

theorem Disk.Tree.wellFormed {d : Disk} (tree : d.Tree) : d.WellFormed :=
  ⟨tree.distinct, tree.inside, tree.named, tree.shut⟩

/-! ## Whether a disk is a tree -/

instance (segment : List Char) : Decidable (IsName segment) :=
  inferInstanceAs (Decidable (_ ∧ _ ∧ _))

instance (name : String) : Decidable (ProperName name) :=
  decidable_of_iff (IsName name.toList ∧ '/' ∉ name.toList ∧ '\x00' ∉ name.toList ∧
      name.utf8ByteSize ≤ Disk.nameLimit)
    ⟨fun ⟨isName, noSlash, noNul, short⟩ => ⟨isName, noSlash, noNul, short⟩,
      fun proper => ⟨proper.isName, proper.noSlash, proper.noNul, proper.short⟩⟩

-- Not derived, since libraries differ in how they compare byte arrays.
instance : DecidableEq Item
  | .directory, .directory => .isTrue rfl
  | .file a, .file b =>
    decidable_of_iff (a.data = b.data)
      ⟨fun same => congrArg Item.file (ByteArray.ext same),
        fun same => congrArg ByteArray.data (Item.file.inj same)⟩
  | .link a, .link b => decidable_of_iff (a = b) ⟨congrArg Item.link, Item.link.inj⟩
  | .directory, .file _ | .directory, .link _ => .isFalse nofun
  | .file _, .directory | .file _, .link _ => .isFalse nofun
  | .link _, .directory | .link _, .file _ => .isFalse nofun

instance (item : Item) : Decidable (∀ target, item ≠ .link target) :=
  match item with
  | .link target => .isFalse fun solid => solid target rfl
  | .file _ => .isTrue fun _ => nofun
  | .directory => .isTrue fun _ => nofun

instance (d : Disk) : Decidable d.WellFormed :=
  decidable_of_iff ((d.items.map (·.1)).Nodup ∧
      (∀ e ∈ d.items, d.get? e.1.dropLast = some .directory) ∧
      (∀ e ∈ d.items, ∀ name ∈ e.1, ProperName name) ∧
      ∀ e ∈ d.closed, d.get? e.1 = some .directory)
    ⟨fun ⟨distinct, inside, named, shut⟩ => ⟨distinct, inside, named, shut⟩,
      fun formed => ⟨formed.distinct, formed.inside, formed.named, formed.shut⟩⟩

instance (d : Disk) : Decidable d.Tree :=
  decidable_of_iff ((d.items.map (·.1)).Nodup ∧
      (∀ e ∈ d.items, d.get? e.1.dropLast = some .directory) ∧
      (∀ e ∈ d.items, ∀ name ∈ e.1, ProperName name) ∧
      (∀ e ∈ d.closed, d.get? e.1 = some .directory) ∧
      ∀ e ∈ d.items, ∀ target, e.2 ≠ .link target)
    ⟨fun ⟨distinct, inside, named, shut, solid⟩ => ⟨distinct, inside, named, shut, solid⟩,
      fun tree => ⟨tree.distinct, tree.inside, tree.named, tree.shut, tree.solid⟩⟩

/-! ## Ways that end in a slash -/

/-- A slash at the end of a way leads nowhere else. -/
theorem Follows.dropSlash {d : Disk} {n : Nat} {loc place : Location}
    {segments : List (List Char)} (way : Follows d true n loc (segments ++ [[]]) place) :
    Follows d true n loc segments place := by
  generalize whole : segments ++ [[]] = ended at way
  -- The rules go through the segments in turn, so the empty one is met last.
  induction way generalizing segments with
  | here => simp at whole
  | @idle n loc segment rest place inside passed next ih =>
    rcases segments with _ | ⟨s, segments⟩
    · obtain ⟨rfl, rfl⟩ := List.cons.inj whole
      exact next
    · obtain ⟨rfl, rest⟩ := List.cons.inj whole
      exact .idle inside passed (ih rest)
  | @up n loc rest place inside next ih =>
    rcases segments with _ | ⟨s, segments⟩
    · cases (List.cons.inj whole).1
    · obtain ⟨rfl, rest⟩ := List.cons.inj whole
      exact .up inside (ih rest)
  | @into n loc segment rest place item inside name fits there solid next ih =>
    rcases segments with _ | ⟨s, segments⟩
    · exact absurd (List.cons.inj whole).1.symm name.1
    · obtain ⟨rfl, rest⟩ := List.cons.inj whole
      exact .into inside name fits there solid (ih rest)
  | @missing n loc segment rest inside name fits absent last =>
    rcases segments with _ | ⟨s, segments⟩
    · exact absurd (List.cons.inj whole).1.symm name.1
    · obtain ⟨rfl, rfl⟩ := List.cons.inj whole
      exact .missing inside name fits absent fun s member => last s (List.mem_append_left _ member)
  | @halt n loc segment target inside name fits link stop => cases stop
  | @jump n loc segment rest place target inside name fits link onward next ih =>
    rcases segments with _ | ⟨s, segments⟩
    · exact absurd (List.cons.inj whole).1.symm name.1
    · obtain ⟨rfl, rfl⟩ := List.cons.inj whole
      exact .jump inside name fits link (.inr rfl) (ih (List.append_assoc _ _ _))

namespace Disk

variable {d d' : Disk} {p : FilePath} {loc place : Location} {name : String} {item : Item}

/-- Where a path is looked up is where it leads. -/
theorem leads_of_locate (located : d.locate true p = .ok place) : d.Leads p place := by
  obtain ⟨_, way⟩ := locate_eq_ok_iff.mp located
  rcases p.segments_eq_stem with plain | ended
  · rw [plain] at way
    exact way
  · rw [ended] at way
    exact way.dropSlash

/-! ## What stands on a tree -/

theorem mem_items_of_get? (there : d.get? loc = some item) (below : loc ≠ []) :
    (loc, item) ∈ d.items := by
  rw [get?, if_neg below] at there
  obtain ⟨front, back, items, _⟩ := List.lookup_eq_some_iff.mp there
  simp [items]

/-- What is listed is what stands there, if locations are listed once. -/
theorem mem_items_iff_of_distinct (distinct : (d.items.map (·.1)).Nodup) (below : loc ≠ []) :
    (loc, item) ∈ d.items ↔ d.get? loc = some item := by
  refine ⟨fun member => ?_, fun there => mem_items_of_get? there below⟩
  obtain ⟨front, back, items⟩ := List.append_of_mem member
  have first : ∀ e ∈ front, loc ≠ e.1 := by
    intro e before
    rw [items, List.map_append, List.map_cons] at distinct
    exact fun same => (List.nodup_append.mp distinct).2.2 e.1 (List.mem_map_of_mem before) loc
      List.mem_cons_self same.symm
  rw [get?, if_neg below]
  exact List.lookup_eq_some_iff.mpr ⟨front, back, items, fun e before => by simp [first e before]⟩

namespace WellFormed

variable (formed : d.WellFormed)

include formed

theorem mem_items_iff (below : loc ≠ []) : (loc, item) ∈ d.items ↔ d.get? loc = some item :=
  mem_items_iff_of_distinct formed.distinct below

/-- What stands somewhere stands in a directory. -/
theorem parent (there : d.get? (loc ++ [name]) = some item) : d.get? loc = some .directory := by
  have member := mem_items_of_get? there (by simp)
  simpa using formed.inside _ member

theorem proper (there : d.get? (loc ++ [name]) = some item) : ProperName name :=
  formed.named _ (mem_items_of_get? there (by simp)) name (by simp)

theorem get?_dropLast (there : d.get? loc = some item) :
    d.get? loc.dropLast = some .directory := by
  rcases List.eq_nil_or_concat loc with rfl | ⟨front, name, rfl⟩
  · simp [get?]
  · rw [List.concat_eq_append] at there ⊢
    simpa using formed.parent there

/-- A path that goes on by a name leads to what has the name in the directory that
the path leads to, unless the path has become too long. A link is halted at. -/
theorem locate_join_of_halt {followLast : Bool} (there : d.get? (loc ++ [name]) = some item)
    (halt : ∀ target, item = .link target → followLast = false)
    (located : d.locate true p = .ok loc)
    (short : (p.join name).text.utf8ByteSize ≤ pathLimit) :
    d.locate followLast (p.join name) = .ok (loc ++ [name]) := by
  have proper := formed.proper there
  have inside := formed.parent there
  obtain ⟨fits, _⟩ := locate_eq_ok_iff.mp located
  have fits' : (p.join name).Fits :=
    ⟨FilePath.filled_join p proper, FilePath.noNul_join proper fits.noNul, short⟩
  have start : d.start (p.join name) = d.start p := by
    simp [start, FilePath.isAbsolute_join p proper.noSlash]
  have step : Follows d followLast 0 loc [name.toList] (loc ++ [name]) := by
    have named : (String.ofList name.toList).utf8ByteSize ≤ nameLimit := by
      simpa using proper.short
    rw [← loc.under_toList] at there ⊢
    cases item with
    | link target => exact .halt inside proper.isName named there (halt target rfl)
    | file bytes => exact .into inside proper.isName named there (by simp) .here
    | directory => exact .into inside proper.isName named there (by simp) .here
  rw [locate_eq_ok_iff, FilePath.segments_join p proper.noSlash, start]
  exact ⟨fits', (leads_of_locate located).append (by simp) step⟩

/-- **A path that goes on by a name** leads to what has the name in the directory
that the path leads to, unless that is a link or the path has become too long. -/
theorem locate_join (there : d.get? (loc ++ [name]) = some item)
    (solid : ∀ target, item ≠ .link target) (located : d.locate true p = .ok loc)
    (short : (p.join name).text.utf8ByteSize ≤ pathLimit) :
    d.locate true (p.join name) = .ok (loc ++ [name]) :=
  formed.locate_join_of_halt there (fun target link => absurd link (solid target)) located short

end WellFormed

namespace Tree

variable (tree : d.Tree)

include tree

theorem linkFree : d.LinkFree :=
  linkFree_of_items tree.solid

theorem parent (there : d.get? (loc ++ [name]) = some item) : d.get? loc = some .directory :=
  tree.wellFormed.parent there

theorem proper (there : d.get? (loc ++ [name]) = some item) : ProperName name :=
  tree.wellFormed.proper there

/-- All above it are directories. -/
theorem above {rest : Location} (there : d.get? (loc ++ rest) = some item) (further : rest ≠ []) :
    d.get? loc = some .directory := by
  induction rest generalizing loc with
  | nil => exact absurd rfl further
  | cons name rest ih =>
    rw [← List.singleton_append, ← List.append_assoc] at there
    rcases rest with _ | ⟨next, rest⟩
    · rw [List.append_nil] at there
      exact tree.parent there
    · exact tree.parent (ih there (by simp))

/-- A path that goes on by a name leads to what has the name, unless it has become
too long. -/
theorem locate_join (there : d.get? (loc ++ [name]) = some item)
    (located : d.locate true p = .ok loc)
    (short : (p.join name).text.utf8ByteSize ≤ pathLimit) :
    d.locate true (p.join name) = .ok (loc ++ [name]) :=
  tree.wellFormed.locate_join there (fun target link => tree.linkFree _ target (link ▸ there))
    located short

end Tree

/-- Without links a way does not depend on what becomes of a link at its end. -/
theorem LinkFree.follows {a b : Bool} {n : Nat} {segments : List (List Char)} (free : d.LinkFree)
    (way : Follows d a n loc segments place) : Follows d b n loc segments place := by
  induction way with
  | here => exact .here
  | idle inside passed _ ih => exact .idle inside passed ih
  | up inside _ ih => exact .up inside ih
  | into inside name fits there solid _ ih => exact .into inside name fits there solid ih
  | missing inside name fits absent last => exact .missing inside name fits absent last
  | halt _ _ _ link _ => exact absurd link (free _ _)
  | jump _ _ _ link _ _ => exact absurd link (free _ _)

theorem LinkFree.locate {a b : Bool} (free : d.LinkFree) (located : d.locate a p = .ok place) :
    d.locate b p = .ok place := by
  rw [locate_eq_ok_iff] at located ⊢
  exact ⟨located.1, free.follows located.2⟩

theorem LinkFree.linkFreeUnder (free : d.LinkFree) (loc : Location) : d.LinkFreeUnder loc :=
  fun rest target _ => free (loc ++ rest) target

/-! ## Paths that go on by a name -/

/-- What a path that goes on by a name leads to bears the name. -/
theorem Tree.exists_of_locate_join (tree : d.Tree) (proper : ProperName name)
    (located : d.locate true (p.join name) = .ok place) :
    ∃ loc, d.Leads p loc ∧ place = loc ++ [name] := by
  obtain ⟨_, way⟩ := locate_eq_ok_iff.mp located
  have start : d.start (p.join name) = d.start p := by
    simp [start, FilePath.isAbsolute_join p proper.noSlash]
  rw [FilePath.segments_join p proper.noSlash, start] at way
  obtain ⟨m, mid, leads, next⟩ := way.split ⟨_, List.mem_cons_self, proper.isName.1⟩
  have named := next.of_names (by simpa using proper.isName) (tree.linkFree.linkFreeUnder mid)
  exact ⟨mid, leads, by simpa using named⟩

/-- If a path that goes on by a name leads somewhere, it leads one name further. -/
theorem Tree.eq_of_locate_join (tree : d.Tree) (proper : ProperName name)
    (located : d.locate true p = .ok loc) (located' : d.locate true (p.join name) = .ok place) :
    place = loc ++ [name] := by
  obtain ⟨mid, leads, rfl⟩ := tree.exists_of_locate_join proper located'
  rw [(leads_of_locate located).unique leads]

/-! ## Changes that keep a tree -/

private theorem locations_put (d : Disk) (loc : Location) (item : Item) :
    (d.put loc item).items.map (·.1) =
      if d.items.any (·.1 = loc) then d.items.map (·.1) else d.items.map (·.1) ++ [loc] := by
  unfold put
  split
  · rw [List.map_map]
    refine List.map_congr_left fun e _ => ?_
    by_cases here : e.1 = loc <;> simp [here]
  · simp

private theorem mem_items_put {e : Location × Item} (member : e ∈ (d.put loc item).items) :
    e = (loc, item) ∨ e ∈ d.items := by
  unfold put at member
  split at member
  · obtain ⟨old, there, rfl⟩ := List.mem_map.mp member
    by_cases here : old.1 = loc
    · exact .inl (if_pos here)
    · rw [if_neg here]
      exact .inr there
  · rcases List.mem_append.mp member with old | new
    · exact .inr old
    · exact .inl (List.mem_singleton.mp new)

/-- Where no directory stands none is closed. -/
theorem Tree.closed?_eq_none (tree : d.Tree) (other : d.get? loc ≠ some .directory) :
    d.closed? loc = none := by
  refine Option.eq_none_iff_forall_ne_some.mpr fun reason shut => other ?_
  obtain ⟨front, back, split, _⟩ := List.lookup_eq_some_iff.mp shut
  exact tree.shut (loc, reason) (by simp [split])

theorem closed_put (d : Disk) (loc : Location) (item : Item) :
    (d.put loc item).closed = d.closed := by
  unfold put
  split <;> rfl

/-- **A tree stays one** when an item other than a link is put under a proper name
in a directory, unless it takes the place of a directory. -/
theorem Tree.put (tree : d.Tree) (inside : d.get? loc = some .directory)
    (proper : ProperName name) (solid : ∀ target, item ≠ .link target)
    (free : item = .directory ∨ d.get? (loc ++ [name]) ≠ some .directory) :
    (d.put (loc ++ [name]) item).Tree := by
  have changed := d.get?_put (show loc ++ [name] ≠ [] by simp) item
  have names : ∀ name' ∈ loc ++ [name], ProperName name' := by
    intro name' member
    rcases List.mem_append.mp member with old | new
    · have below : loc ≠ [] := List.ne_nil_of_mem old
      exact tree.named _ (mem_items_of_get? inside below) name' old
    · exact List.mem_singleton.mp new ▸ proper
  constructor
  · rw [locations_put]
    split
    · exact tree.distinct
    · rename_i new
      refine List.nodup_append.mpr ⟨tree.distinct, by simp, fun a old b member => ?_⟩
      rintro rfl
      obtain rfl := List.mem_singleton.mp member
      obtain ⟨e, there, same⟩ := List.mem_map.mp old
      exact new (List.any_eq_true.mpr ⟨e, there, by simpa using same⟩)
  · intro e member
    rw [changed]
    rcases mem_items_put member with rfl | old
    · rw [List.dropLast_concat, if_neg (by simp), inside]
    · have stood := tree.inside e old
      split
      · -- What stands below the new item stood in a directory before.
        rename_i here
        rw [here] at stood
        rw [free.resolve_right fun other => other stood]
      · exact stood
  · intro e member
    rcases mem_items_put member with rfl | old
    · exact names
    · exact tree.named e old
  · intro e member
    rw [closed_put] at member
    have stood := tree.shut e member
    rw [changed]
    split
    · rename_i here
      rw [here] at stood
      rw [free.resolve_right fun other => other stood]
    · exact stood
  · intro e member
    rcases mem_items_put member with rfl | old
    · exact solid
    · exact tree.solid e old

/-- To put what stands there already changes nothing. -/
theorem Tree.put_eq_self (tree : d.Tree) (there : d.get? loc = some item) (below : loc ≠ []) :
    d.put loc item = d := by
  have member := mem_items_of_get? there below
  have held : d.items.any (·.1 = loc) = true := List.any_eq_true.mpr ⟨_, member, by simp⟩
  have same : d.items.map (fun e => if e.1 = loc then (loc, item) else e) = d.items := by
    conv_rhs => rw [← List.map_id d.items]
    refine List.map_congr_left fun e old => ?_
    split
    · -- The location is listed once.
      rename_i here
      obtain ⟨loc', item'⟩ := e
      cases here
      have stood := (tree.wellFormed.mem_items_iff below).mp old
      rw [there] at stood
      cases stood
      rfl
    · rfl
  rw [Disk.put, if_pos held, same]

/-! ## Where something can be put -/

/-- The place has one of the segments for its name, in a directory. -/
def NamedBy (d : Disk) (segments : List (List Char)) (place : Location) : Prop :=
  ∃ above, ∃ segment ∈ segments, place = above.under segment ∧ d.get? above = some .directory ∧
    IsName segment ∧ (String.ofList segment).utf8ByteSize ≤ nameLimit

/-- A way on from where something stands goes on by a segment, if it leads to
nothing. -/
private theorem NamedBy.later {followLast : Bool} {n : Nat} {rest : List (List Char)}
    (there : d.get? loc ≠ none) (next : Follows d followLast n loc rest place)
    (absent : d.get? place = none) (named : rest ≠ [] → d.NamedBy rest place)
    (first : List Char) : d.NamedBy (first :: rest) place := by
  rcases rest with _ | ⟨s, rest⟩
  · cases next
    exact absurd absent there
  · obtain ⟨above, segment, member, found⟩ := named (by simp)
    exact ⟨above, segment, List.mem_cons_of_mem _ member, found⟩

/-- A way that leads to nothing ends in a new name in a directory. -/
private theorem namedBy_of_absent {followLast : Bool} {n : Nat} {segments : List (List Char)}
    (tree : d.Tree) (way : Follows d followLast n loc segments place) (goesOn : segments ≠ [])
    (absent : d.get? place = none) : d.NamedBy segments place := by
  induction way with
  | here => exact absurd rfl goesOn
  | idle inside passed next ih =>
    exact .later (by simp [inside]) next absent (fun goesOn => ih goesOn absent) _
  | up inside next ih =>
    have above := tree.wellFormed.get?_dropLast inside
    exact .later (by simp [above]) next absent (fun goesOn => ih goesOn absent) _
  | into inside name fits there solid next ih =>
    exact .later (by simp [there]) next absent (fun goesOn => ih goesOn absent) _
  | missing inside name fits _ _ =>
    exact ⟨_, _, List.mem_cons_self, rfl, inside, name, fits⟩
  | halt _ _ _ link _ => exact absurd link (tree.linkFree _ _)
  | jump _ _ _ link _ _ => exact absurd link (tree.linkFree _ _)

/-- **Where a path leads**, unless to a directory, a proper name stands or can
stand in a directory. -/
theorem Tree.exists_of_locate {followLast : Bool} (tree : d.Tree)
    (located : d.locate followLast p = .ok place) (notDirectory : d.get? place ≠ some .directory) :
    ∃ above name, place = above ++ [name] ∧ d.get? above = some .directory ∧ ProperName name := by
  cases there : d.get? place with
  | some item =>
    have below : place ≠ [] := ne_nil_of_get? notDirectory
    obtain ⟨above, name, rfl⟩ := (List.eq_nil_or_concat place).resolve_left below
    rw [List.concat_eq_append] at there ⊢
    exact ⟨above, name, rfl, tree.parent there, tree.proper there⟩
  | none =>
    obtain ⟨fits, way⟩ := locate_eq_ok_iff.mp located
    obtain ⟨above, segment, member, rfl, inside, isName, short⟩ :=
      namedBy_of_absent tree way (FilePath.splitSlashes_ne_nil _) there
    have held : ∀ c ∈ segment, c ∈ p.text.toList ∧ c ≠ '/' := fun c held =>
      FilePath.mem_of_mem_splitSlashes member held
    refine ⟨above, _, rfl, inside, ⟨?_, ?_, ?_, short⟩⟩
    · simpa using isName
    · simpa using fun slash => (held _ slash).2 rfl
    · simpa using fun nul => fits.noNul (held _ nul).1

/-! ## Operations on trees -/

theorem Tree.makeDirectory (tree : d.Tree) (made : d.makeDirectory p = .ok d') : d'.Tree := by
  obtain ⟨loc, located, absent, _, rfl⟩ := makeDirectory_eq_ok_iff.mp made
  obtain ⟨above, name, rfl, inside, proper⟩ := tree.exists_of_locate located (by simp [absent])
  exact tree.put inside proper (by simp) (.inl rfl)

theorem Tree.writeBytes {bytes : ByteArray} (tree : d.Tree)
    (written : d.writeBytes p bytes = .ok d') : d'.Tree := by
  obtain ⟨loc, located, notDirectory, rfl⟩ := writeBytes_eq_ok written
  obtain ⟨above, name, rfl, inside, proper⟩ := tree.exists_of_locate located notDirectory
  exact tree.put inside proper (by simp) (.inr notDirectory)

theorem Tree.makeDirectoriesWithin (tree : d.Tree) (fuel : Nat) (p : FilePath) :
    (makeDirectoriesWithin fuel d p).2.Tree :=
  makeDirectoriesWithin_induction fuel p (fun _ tree made => Tree.makeDirectory tree made) tree

/-! ## Directories that are there -/

theorem isDirectory_iff :
    d.isDirectory p = true ↔ ∃ loc, d.locate true p = .ok loc ∧ d.get? loc = some .directory := by
  rw [← lookup_eq_ok_iff, isDirectory]
  split
  · rename_i found
    simp [found]
  · rename_i other
    simpa using other

theorem Grows.isDirectory (grows : d.Grows d') (there : d.isDirectory p = true) :
    d'.isDirectory p = true := by
  obtain ⟨loc, located, inside⟩ := isDirectory_iff.mp there
  exact isDirectory_iff.mpr ⟨loc, grows.locate located inside, grows.directory inside⟩

/-- What leads to a directory once it is made. -/
private theorem Follows.made {n : Nat} {segments : List (List Char)} (grows : d.Grows d')
    (way : Follows d true n loc segments place) (made : d'.get? place = some .directory) :
    Follows d' true n loc segments place := by
  induction way with
  | here => exact .here
  | idle inside passed _ ih => exact .idle (grows.directory inside) passed (ih made)
  | up inside _ ih => exact .up (grows.directory inside) (ih made)
  | into inside name fits there solid _ ih =>
    obtain ⟨item, there', solid'⟩ := grows.there there
    exact .into (grows.directory inside) name fits there' (solid' solid) (ih made)
  | @missing n loc segment rest inside name fits _ last =>
    refine .into (grows.directory inside) name fits made (by simp) ?_
    -- Only slashes come after the directory that has been made.
    induction rest with
    | nil => exact .here
    | cons s rest ih =>
      have slash : s = [] := last s List.mem_cons_self
      exact .idle made (.inl slash) (ih fun s member => last s (List.mem_cons_of_mem _ member))
  | halt _ _ _ _ stop => cases stop
  | jump inside name fits link onward _ ih =>
    exact .jump (grows.directory inside) name fits (grows.link.mpr link) onward (ih made)

private theorem Tree.isDirectory_of_makeDirectory (tree : d.Tree)
    (made : d.makeDirectory p = .ok d') : d'.isDirectory p = true := by
  have grows := (addsDirectories_makeDirectory made).grows
  obtain ⟨loc, located, absent, _, put⟩ := makeDirectory_eq_ok_iff.mp made
  have below : loc ≠ [] := ne_nil_of_get? (d := d) (by simp [absent])
  have stands : d'.get? loc = some .directory := by
    rw [put, d.get?_put below, if_pos rfl]
  obtain ⟨fits, way⟩ := locate_eq_ok_iff.mp (tree.linkFree.locate (b := true) located)
  refine isDirectory_iff.mpr ⟨loc, locate_eq_ok_iff.mpr ⟨fits, ?_⟩, stands⟩
  rw [grows.start]
  exact Follows.made grows way stands

private theorem Tree.isDirectory_of_ensureDirectory (tree : d.Tree)
    (ensured : d.ensureDirectory p = (.ok (), d')) : d'.isDirectory p = true := by
  unfold ensureDirectory at ensured
  split at ensured
  · rename_i d₁ made
    obtain ⟨_, rfl⟩ := Prod.mk.inj ensured
    exact tree.isDirectory_of_makeDirectory made
  · obtain ⟨result, rfl⟩ := Prod.mk.inj ensured
    split at result
    · assumption
    · cases result

/-- **Making directories, if it succeeds, makes the directory.** -/
theorem Tree.isDirectory_of_makeDirectoriesWithin (tree : d.Tree) {fuel : Nat}
    (filled : p.text.isEmpty = false) (made : Disk.makeDirectoriesWithin fuel d p = (.ok (), d')) :
    d'.isDirectory p = true := by
  cases fuel with
  | zero => exact tree.isDirectory_of_ensureDirectory made
  | succ fuel =>
    rw [Disk.makeDirectoriesWithin, if_neg (by simp [filled])] at made
    split at made
    · -- The directory is made after those above it.
      rename_i d₁ missing
      have tree₁ : d₁.Tree := by
        have kept := tree.makeDirectoriesWithin 0 p
        rwa [Disk.makeDirectoriesWithin, missing] at kept
      split at made
      · cases made
      · rename_i above _
        have kept := tree₁.makeDirectoriesWithin fuel above
        split at made
        · rename_i d₂ above'
          rw [above'] at kept
          exact kept.isDirectory_of_ensureDirectory made
        · cases made
    · rename_i ensured
      exact tree.isDirectory_of_ensureDirectory (ensured.trans made)

theorem Tree.isDirectory_of_makeDirectories (tree : d.Tree)
    (filled : p.text.isEmpty = false) (made : d.makeDirectories p = (.ok (), d')) :
    d'.isDirectory p = true :=
  tree.isDirectory_of_makeDirectoriesWithin filled made

theorem Tree.ensureDirectory_eq_self (tree : d.Tree) (there : d.isDirectory p = true) :
    d.ensureDirectory p = (.ok (), d) := by
  obtain ⟨loc, located, inside⟩ := isDirectory_iff.mp there
  have exists' : d.makeDirectory p = .error .fileExists := by
    rw [Disk.makeDirectory, tree.linkFree.locate (b := false) located]
    simp [bind, Except.bind, inside]
  rw [ensureDirectory, exists']
  simp [there]

/-- To make a directory that is there changes nothing. -/
theorem Tree.makeDirectories_eq_self (tree : d.Tree) (there : d.isDirectory p = true) :
    d.makeDirectories p = (.ok (), d) := by
  have ensured := tree.ensureDirectory_eq_self there
  unfold Disk.makeDirectories
  cases p.text.length with
  | zero => exact ensured
  | succ fuel =>
    rw [Disk.makeDirectoriesWithin, ensured]
    split <;> rfl

/-! ## Files that are there -/

theorem refusal?_put (d : Disk) (loc : Location) (item : Item) :
    (d.put loc item).refusal? = d.refusal? := by
  unfold put
  split <;> rfl

/-- Where a file was written the system lets files be written. -/
theorem refusal?_of_writeBytes {bytes : ByteArray} (located : d.locate true p = .ok loc)
    (written : d.writeBytes p bytes = .ok d') : d.refusal? loc = none := by
  obtain ⟨loc', located', _, _, allowed, _⟩ := writeBytes_eq_ok_iff.mp written
  obtain rfl := Except.ok.inj (located.symm.trans located')
  exact allowed

/-- To write what a file holds already changes nothing. -/
theorem Tree.writeBytes_eq_self {bytes : ByteArray} (tree : d.Tree)
    (located : d.locate true p = .ok loc) (there : d.get? loc = some (.file bytes))
    (allowed : d.refusal? loc = none) : d.writeBytes p bytes = .ok d := by
  have below : loc ≠ [] := ne_nil_of_get? (d := d) (by simp [there])
  rw [Disk.writeBytes, located]
  simp only [bind, Except.bind, there, place, allowed]
  rw [tree.put_eq_self there below]

end Disk

end SchemaGen.File
