import SchemaGen.File.Disk
import SchemaGen.Proofs.File.Segments

/-!
# Where paths lead

`Follows` is following a path as a relation, one rule for each thing that can
stand under the next segment; `follow_eq_ok_iff` says that it is what
`Disk.follow` computes. Two facts are drawn from it:

* a way can be cut after any of its segments (`Follows.split`), and
* names below a directory without links lead where they are written
  (`Follows.of_names`).
-/

namespace SchemaGen.File

/-- Is the segment the name of something, and not one that is passed over or
that leads upwards? -/
def IsName (segment : List Char) : Prop :=
  segment ≠ [] ∧ segment ≠ ['.'] ∧ segment ≠ ['.', '.']

theorem IsName.component?_eq {segment : List Char} (isName : IsName segment) :
    FilePath.component? segment = some (.name segment) := by
  obtain ⟨filled, notHere, notUp⟩ := isName
  simp [FilePath.component?, filled, notHere, notUp]

/-- The location of a name in a directory. -/
abbrev Location.under (loc : Location) (segment : List Char) : Location :=
  loc ++ [String.ofList segment]

/-- From the location, the segments lead to the place, over at most so many
links. -/
inductive Follows (d : Disk) (followLast : Bool) :
    Nat → Location → List (List Char) → Location → Prop
  | here {n loc} : Follows d followLast n loc [] loc
  | idle {n loc segment rest place} (inside : d.get? loc = some .directory)
      (passed : segment = [] ∨ segment = ['.'])
      (next : Follows d followLast n loc rest place) :
      Follows d followLast n loc (segment :: rest) place
  | up {n loc rest place} (inside : d.get? loc = some .directory)
      (next : Follows d followLast n loc.dropLast rest place) :
      Follows d followLast n loc (['.', '.'] :: rest) place
  | into {n loc segment rest place item} (inside : d.get? loc = some .directory)
      (name : IsName segment) (fits : (String.ofList segment).utf8ByteSize ≤ Disk.nameLimit)
      (there : d.get? (loc.under segment) = some item) (solid : ∀ target, item ≠ .link target)
      (next : Follows d followLast n (loc.under segment) rest place) :
      Follows d followLast n loc (segment :: rest) place
  | missing {n loc segment rest} (inside : d.get? loc = some .directory)
      (name : IsName segment) (fits : (String.ofList segment).utf8ByteSize ≤ Disk.nameLimit)
      (absent : d.get? (loc.under segment) = none) (last : ∀ s ∈ rest, s = []) :
      Follows d followLast n loc (segment :: rest) (loc.under segment)
  | halt {n loc segment target} (inside : d.get? loc = some .directory)
      (name : IsName segment) (fits : (String.ofList segment).utf8ByteSize ≤ Disk.nameLimit)
      (link : d.get? (loc.under segment) = some (.link target)) (stop : followLast = false) :
      Follows d followLast n loc [segment] (loc.under segment)
  | jump {n loc segment rest place target} (inside : d.get? loc = some .directory)
      (name : IsName segment) (fits : (String.ofList segment).utf8ByteSize ≤ Disk.nameLimit)
      (link : d.get? (loc.under segment) = some (.link target))
      (onward : rest ≠ [] ∨ followLast = true)
      (next : Follows d followLast n (if (FilePath.mk target).isAbsolute then [] else loc)
        ((FilePath.mk target).segments ++ rest) place) :
      Follows d followLast (n + 1) loc (segment :: rest) place

namespace Disk

/-- How a link is followed when so many may still be. -/
def jumpWithin (d : Disk) (followLast : Bool) :
    Nat → Location → List (List Char) → Except Fault Location
  | 0 => fun _ _ => .error .tooManyLinks
  | n + 1 => d.follow followLast n

theorem follow_eq (d : Disk) (followLast : Bool) (n : Nat) :
    d.follow followLast n = d.followSegments (d.jumpWithin followLast n) followLast := by
  cases n <;> rfl

private theorem isName_of_not {segment : List Char}
    (kept : ¬(decide (segment = []) || decide (segment = ['.'])) = true)
    (notUp : ¬segment = ['.', '.']) : IsName segment := by
  simp only [Bool.or_eq_true, decide_eq_true_eq, not_or] at kept
  exact ⟨kept.1, kept.2, notUp⟩

/-- What is followed is a way, if the links on it are followed along ways. -/
theorem follows_of_followSegments {d : Disk} {followLast : Bool} {n : Nat}
    {jump : Location → List (List Char) → Except Fault Location}
    (jumps : ∀ loc segments place, jump loc segments = .ok place →
      ∃ m, n = m + 1 ∧ Follows d followLast m loc segments place)
    {segments : List (List Char)} {loc place : Location}
    (found : d.followSegments jump followLast loc segments = .ok place) :
    Follows d followLast n loc segments place := by
  fun_induction followSegments d jump followLast loc segments with
  | case1 loc =>
    cases found
    exact .here
  | case2 | case3 | case4 | case7 | case13 => cases found
  | case5 loc segment rest inside passed ih =>
    exact .idle inside (by simpa using passed) (ih found)
  | case6 loc rest inside _ ih => exact .up inside (ih found)
  | case8 loc segment rest inside kept notUp name below fits target link stop =>
    simp only [Bool.and_eq_true, decide_eq_true_eq, Bool.not_eq_true'] at stop
    obtain ⟨rfl, stop⟩ := stop
    rw [← Except.ok.inj found]
    exact .halt inside (isName_of_not kept notUp) (Nat.le_of_not_lt fits) link stop
  | case9 loc segment rest inside kept notUp name below fits target link onward start =>
    obtain ⟨m, rfl, next⟩ := jumps _ _ _ found
    refine .jump inside (isName_of_not kept notUp) (Nat.le_of_not_lt fits) link ?_ next
    simp only [Bool.and_eq_true, decide_eq_true_eq, Bool.not_eq_true', not_and,
      Bool.not_eq_false] at onward
    exact (Decidable.em (rest = [])).symm.imp_right onward
  | case10 loc segment rest inside kept notUp name below fits bytes there ih =>
    exact .into inside (isName_of_not kept notUp) (Nat.le_of_not_lt fits) there (by simp) (ih found)
  | case11 loc segment rest inside kept notUp name below fits there ih =>
    exact .into inside (isName_of_not kept notUp) (Nat.le_of_not_lt fits) there (by simp) (ih found)
  | case12 loc segment rest inside kept notUp name below fits absent last =>
    rw [← Except.ok.inj found]
    exact .missing inside (isName_of_not kept notUp) (Nat.le_of_not_lt fits) absent
      (by simpa using last)

theorem follows_of_follow {d : Disk} {followLast : Bool} {n : Nat} {loc place : Location}
    {segments : List (List Char)} (found : d.follow followLast n loc segments = .ok place) :
    Follows d followLast n loc segments place := by
  induction n generalizing loc segments place with
  | zero =>
    rw [follow_eq] at found
    exact follows_of_followSegments (fun _ _ _ h => by cases h) found
  | succ n ih =>
    rw [follow_eq] at found
    exact follows_of_followSegments (fun _ _ _ h => ⟨n, rfl, ih h⟩) found

theorem follow_of_follows {d : Disk} {followLast : Bool} {n : Nat} {loc place : Location}
    {segments : List (List Char)} (way : Follows d followLast n loc segments place) :
    d.follow followLast n loc segments = .ok place := by
  induction way with
  | here => rw [follow_eq, followSegments]
  | idle inside passed _ ih =>
    rw [follow_eq] at ih ⊢
    rw [followSegments, inside]
    rcases passed with rfl | rfl <;> simpa using ih
  | up inside _ ih =>
    rw [follow_eq] at ih ⊢
    rw [followSegments, inside]
    simpa using ih
  | @into n loc segment rest place item inside name fits there solid _ ih =>
    obtain ⟨notEmpty, notHere, notUp⟩ := name
    rw [follow_eq] at ih ⊢
    rw [followSegments, inside]
    cases item with
    | link target => exact absurd rfl (solid target)
    | file bytes => simpa [notEmpty, notHere, notUp, Nat.not_lt.mpr fits, there] using ih
    | directory => simpa [notEmpty, notHere, notUp, Nat.not_lt.mpr fits, there] using ih
  | missing inside name fits absent last =>
    obtain ⟨notEmpty, notHere, notUp⟩ := name
    rw [follow_eq, followSegments, inside]
    simpa [notEmpty, notHere, notUp, Nat.not_lt.mpr fits, absent] using last
  | halt inside name fits link stop =>
    obtain ⟨notEmpty, notHere, notUp⟩ := name
    rw [follow_eq, followSegments, inside]
    simp [notEmpty, notHere, notUp, Nat.not_lt.mpr fits, link, stop]
  | jump inside name fits link onward _ ih =>
    obtain ⟨notEmpty, notHere, notUp⟩ := name
    rw [follow_eq, followSegments, inside]
    rcases onward with more | last
    · simpa [notEmpty, notHere, notUp, Nat.not_lt.mpr fits, link, more, jumpWithin] using ih
    · simpa [notEmpty, notHere, notUp, Nat.not_lt.mpr fits, link, last, jumpWithin] using ih

/-- The ways are what is computed. -/
theorem follow_eq_ok_iff {d : Disk} {followLast : Bool} {n : Nat} {loc place : Location}
    {segments : List (List Char)} :
    d.follow followLast n loc segments = .ok place ↔ Follows d followLast n loc segments place :=
  ⟨follows_of_follow, follow_of_follows⟩

end Disk

/-! ## Cutting ways -/

namespace Follows

variable {d : Disk} {followLast : Bool} {n : Nat} {loc place : Location}

/-- There is one place to a way. -/
theorem unique {segments : List (List Char)} {other : Location}
    (way : Follows d followLast n loc segments place)
    (again : Follows d followLast n loc segments other) : place = other :=
  Except.ok.inj ((Disk.follow_of_follows way).symm.trans (Disk.follow_of_follows again))

/-- What goes on begins in a directory. -/
theorem inside {segment : List Char} {rest : List (List Char)}
    (way : Follows d followLast n loc (segment :: rest) place) :
    d.get? loc = some .directory := by
  cases way <;> assumption

/-- **A way can be cut** before a part that names something. The links before
the cut are all followed. -/
theorem split {front back : List (List Char)} (named : ∃ s ∈ back, s ≠ [])
    (way : Follows d followLast n loc (front ++ back) place) :
    ∃ m mid, Follows d true n loc front mid ∧ Follows d followLast m mid back place := by
  generalize whole : front ++ back = segments at way
  -- Each rule consumes the first segment, which belongs to the front unless that is used up.
  induction way generalizing front with
  | here =>
    obtain ⟨s, member, _⟩ := named
    simp [(List.append_eq_nil_iff.mp whole).2] at member
  | @idle n loc segment rest place inside passed next ih =>
    rcases front with _ | ⟨s, front⟩
    · obtain rfl : back = segment :: rest := whole
      exact ⟨n, loc, .here, .idle inside passed next⟩
    · obtain ⟨rfl, rest⟩ := List.cons.inj whole
      obtain ⟨m, mid, before, after⟩ := ih rest
      exact ⟨m, mid, .idle inside passed before, after⟩
  | @up n loc rest place inside next ih =>
    rcases front with _ | ⟨s, front⟩
    · obtain rfl : back = ['.', '.'] :: rest := whole
      exact ⟨n, loc, .here, .up inside next⟩
    · obtain ⟨rfl, rest⟩ := List.cons.inj whole
      obtain ⟨m, mid, before, after⟩ := ih rest
      exact ⟨m, mid, .up inside before, after⟩
  | @into n loc segment rest place item inside name fits there solid next ih =>
    rcases front with _ | ⟨s, front⟩
    · obtain rfl : back = segment :: rest := whole
      exact ⟨n, loc, .here, .into inside name fits there solid next⟩
    · obtain ⟨rfl, rest⟩ := List.cons.inj whole
      obtain ⟨m, mid, before, after⟩ := ih rest
      exact ⟨m, mid, .into inside name fits there solid before, after⟩
  | @missing n loc segment rest inside name fits absent last =>
    rcases front with _ | ⟨s, front⟩
    · obtain rfl : back = segment :: rest := whole
      exact ⟨n, loc, .here, .missing inside name fits absent last⟩
    · obtain ⟨rfl, rfl⟩ := List.cons.inj whole
      obtain ⟨s, member, filled⟩ := named
      exact absurd (last s (List.mem_append_right _ member)) filled
  | @halt n loc segment target inside name fits link stop =>
    rcases front with _ | ⟨s, front⟩
    · obtain rfl : back = [segment] := whole
      exact ⟨n, loc, .here, .halt inside name fits link stop⟩
    · obtain ⟨rfl, rest⟩ := List.cons.inj whole
      obtain ⟨s, member, _⟩ := named
      simp [(List.append_eq_nil_iff.mp rest).2] at member
  | @jump n loc segment rest place target inside name fits link onward next ih =>
    rcases front with _ | ⟨s, front⟩
    · obtain rfl : back = segment :: rest := whole
      exact ⟨n + 1, loc, .here, .jump inside name fits link onward next⟩
    · -- The target of the link is now part of the front.
      obtain ⟨rfl, rfl⟩ := List.cons.inj whole
      obtain ⟨m, mid, before, after⟩ := ih (List.append_assoc _ _ _)
      exact ⟨m, mid, .jump inside name fits link (.inr rfl) before, after⟩

/-- A way stays one when more links may be followed. -/
theorem more {m : Nat} {segments : List (List Char)} (le : n ≤ m)
    (way : Follows d followLast n loc segments place) :
    Follows d followLast m loc segments place := by
  induction way generalizing m with
  | here => exact .here
  | idle inside passed _ ih => exact .idle inside passed (ih le)
  | up inside _ ih => exact .up inside (ih le)
  | into inside name fits there solid _ ih => exact .into inside name fits there solid (ih le)
  | missing inside name fits absent last => exact .missing inside name fits absent last
  | halt inside name fits link stop => exact .halt inside name fits link stop
  | jump inside name fits link onward _ ih =>
    -- The link uses one of the links that may be followed, on both sides.
    obtain ⟨m, rfl⟩ : ∃ k, m = k + 1 := ⟨m - 1, by omega⟩
    exact .jump inside name fits link onward (ih (Nat.le_of_succ_le_succ le))

/-- A way goes on along one that follows no link. -/
theorem append {front back : List (List Char)} {mid : Location} (goesOn : back ≠ [])
    (way : Follows d true n loc front mid) (next : Follows d followLast 0 mid back place) :
    Follows d followLast n loc (front ++ back) place := by
  induction way with
  | here => exact next.more (Nat.zero_le _)
  | idle inside passed _ ih => exact .idle inside passed (ih next)
  | up inside _ ih => exact .up inside (ih next)
  | into inside name fits there solid _ ih => exact .into inside name fits there solid (ih next)
  | missing _ _ _ absent _ =>
    -- The way goes on, so a directory stands where the first part ends.
    obtain ⟨s, back, rfl⟩ := List.exists_cons_of_ne_nil goesOn
    rw [next.inside] at absent
    cases absent
  | halt _ _ _ _ stop => cases stop
  | jump inside name fits link _ _ ih =>
    refine .jump inside name fits link (.inl (by simp [goesOn])) ?_
    simpa using ih next

end Follows

/-! ## Names below a directory without links -/

/-- No link stands anywhere below the location. -/
def Disk.LinkFreeUnder (d : Disk) (loc : Location) : Prop :=
  ∀ rest target, rest ≠ [] → d.get? (loc ++ rest) ≠ some (.link target)

theorem Disk.LinkFreeUnder.descend {d : Disk} {loc : Location} (free : d.LinkFreeUnder loc)
    (segment : List Char) : d.LinkFreeUnder (loc.under segment) := by
  intro rest target _
  rw [List.append_assoc]
  exact free _ target (by simp)

/-- The first of some names, below a directory without links, enters what stands there, or
it is the last one and nothing stands there. -/
theorem Follows.first_name {d : Disk} {n : Nat} {loc place : Location} {segment : List Char}
    {rest : List (List Char)} (plain : ∀ s ∈ segment :: rest, IsName s)
    (free : d.LinkFreeUnder loc) (way : Follows d true n loc (segment :: rest) place) :
    d.get? loc = some .directory ∧ (String.ofList segment).utf8ByteSize ≤ Disk.nameLimit ∧
      ((∃ item, d.get? (loc.under segment) = some item ∧ (∀ target, item ≠ .link target) ∧
          Follows d true n (loc.under segment) rest place) ∨
        rest = [] ∧ place = loc.under segment) := by
  obtain ⟨isName, others⟩ := List.forall_mem_cons.mp plain
  cases way with
  | idle _ passed _ => exact absurd passed (by simp [isName.1, isName.2.1])
  | up _ _ => exact absurd rfl isName.2.2
  | into inside _ fits there solid next => exact ⟨inside, fits, .inl ⟨_, there, solid, next⟩⟩
  | missing inside _ fits _ last =>
    -- A later name would have to be empty.
    cases rest with
    | nil => exact ⟨inside, fits, .inr ⟨rfl, rfl⟩⟩
    | cons s rest => exact absurd (last s List.mem_cons_self) (others s List.mem_cons_self).1
  | halt _ _ _ _ stop => cases stop
  | jump _ _ _ link _ _ => exact absurd link (free _ _ (by simp))

/-- **Names lead where they are written** as long as no link is met. -/
theorem Follows.of_names {d : Disk} {n : Nat} {loc place : Location}
    {names : List (List Char)} (plain : ∀ s ∈ names, IsName s) (free : d.LinkFreeUnder loc)
    (way : Follows d true n loc names place) : place = loc ++ names.map String.ofList := by
  induction names generalizing loc with
  | nil =>
    cases way
    simp
  | cons segment rest ih =>
    have others : ∀ s ∈ rest, IsName s := fun s member => plain s (List.mem_cons_of_mem _ member)
    obtain ⟨_, _, ⟨_, _, _, next⟩ | ⟨rfl, rfl⟩⟩ := way.first_name plain free
    · simpa using ih others (free.descend segment) next
    · simp

/-! ## Paths -/

/-- May the path be looked up at all? -/
structure FilePath.Fits (p : FilePath) : Prop where
  filled : p.text.isEmpty = false
  noNul : '\x00' ∉ p.text.toList
  short : p.text.utf8ByteSize ≤ Disk.pathLimit

namespace Disk

/-- Where a path begins. -/
def start (d : Disk) (p : FilePath) : Location :=
  if p.isAbsolute then [] else d.home

/-- Where a path leads, however it is written at its end. The empty path leads
to where relative paths begin. -/
def Leads (d : Disk) (p : FilePath) (place : Location) : Prop :=
  Follows d true linkLimit (d.start p) p.stem place

theorem locate_eq_ok_iff {d : Disk} {followLast : Bool} {p : FilePath} {place : Location} :
    d.locate followLast p = .ok place ↔
      p.Fits ∧ Follows d followLast linkLimit (d.start p) p.segments place := by
  rw [locate, ← follow_eq_ok_iff]
  constructor
  · intro found
    split at found
    · cases found
    · split at found
      · cases found
      · split at found
        · cases found
        · rename_i filled noNul short
          exact ⟨⟨by simpa using filled, by simpa using noNul, Nat.le_of_not_lt short⟩, found⟩
  · rintro ⟨fits, found⟩
    have noNul : ¬ p.text.toList.contains '\x00' = true := by simpa using fits.noNul
    rw [if_neg (by simp [fits.filled]), if_neg noNul, if_neg (Nat.not_lt.mpr fits.short)]
    exact found

end Disk

end SchemaGen.File
