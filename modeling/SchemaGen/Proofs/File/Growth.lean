import SchemaGen.Proofs.File.Parents
import SchemaGen.Proofs.Steps

/-!
# How disks grow

Two relations say what an operation may do to a disk. `AddsDirectories` is what
making directories does, whether or not it succeeds: new directories, and
nothing else. `Grows` is what a whole run does: files may also be new or have
other contents. What a path leads to on a disk it leads to on every disk that
the first one grows to (`Follows.grows`).
-/

namespace SchemaGen.File.Disk

/-- Directories are made where nothing stood, and nothing else changes. -/
structure AddsDirectories (d d' : Disk) : Prop where
  home : d'.home = d.home
  refusal? : d'.refusal? = d.refusal?
  closed : d'.closed = d.closed
  get? : ∀ loc, d'.get? loc = d.get? loc ∨ d.get? loc = none ∧ d'.get? loc = some .directory

/-- Directories and links stay, files stay files, and no links are made. -/
structure Grows (d d' : Disk) : Prop where
  home : d'.home = d.home
  directory : ∀ {loc}, d.get? loc = some .directory → d'.get? loc = some .directory
  file : ∀ {loc bytes}, d.get? loc = some (.file bytes) →
    ∃ bytes', d'.get? loc = some (.file bytes')
  link : ∀ {loc target}, d'.get? loc = some (.link target) ↔ d.get? loc = some (.link target)

namespace AddsDirectories

variable {d d' d'' : Disk}

theorem refl (d : Disk) : d.AddsDirectories d :=
  ⟨rfl, rfl, rfl, fun _ => .inl rfl⟩

theorem trans (first : d.AddsDirectories d') (second : d'.AddsDirectories d'') :
    d.AddsDirectories d'' := by
  refine ⟨second.home.trans first.home, second.refusal?.trans first.refusal?,
    second.closed.trans first.closed, fun loc => ?_⟩
  rcases second.get? loc with same | ⟨absent, made⟩
  · rw [same]
    exact first.get? loc
  · rcases first.get? loc with same | ⟨absent', made'⟩
    · exact .inr ⟨same ▸ absent, made⟩
    · rw [made'] at absent
      cases absent

/-- What stands there is not touched. -/
theorem keeps (adds : d.AddsDirectories d') {loc : Location} {item : Item}
    (there : d.get? loc = some item) : d'.get? loc = some item := by
  rcases adds.get? loc with same | ⟨absent, _⟩
  · rw [same, there]
  · rw [there] at absent
    cases absent

/-- Only directories are new. -/
theorem old (adds : d.AddsDirectories d') {loc : Location} {item : Item}
    (notDirectory : item ≠ .directory) (there : d'.get? loc = some item) :
    d.get? loc = some item := by
  rcases adds.get? loc with same | ⟨_, made⟩
  · rw [← same, there]
  · rw [there] at made
    exact absurd (Option.some.inj made) notDirectory

theorem grows (adds : d.AddsDirectories d') : d.Grows d' where
  home := adds.home
  directory := adds.keeps
  file there := ⟨_, adds.keeps there⟩
  link := ⟨adds.old (by simp), adds.keeps⟩

end AddsDirectories

namespace Grows

variable {d d' d'' : Disk}

theorem refl (d : Disk) : d.Grows d :=
  (AddsDirectories.refl d).grows

theorem trans (first : d.Grows d') (second : d'.Grows d'') : d.Grows d'' where
  home := second.home.trans first.home
  directory there := second.directory (first.directory there)
  file there :=
    have ⟨_, there'⟩ := first.file there
    second.file there'
  link := second.link.trans first.link

/-- What stands there is of the same kind later, links included. -/
theorem there (grows : d.Grows d') {loc : Location} {item : Item}
    (there : d.get? loc = some item) : ∃ item', d'.get? loc = some item' ∧
      ((∀ target, item ≠ .link target) → ∀ target, item' ≠ .link target) := by
  cases item with
  | file bytes =>
    obtain ⟨bytes', there'⟩ := grows.file there
    exact ⟨_, there', fun _ target => by simp⟩
  | link target => exact ⟨_, grows.link.mpr there, fun solid => absurd rfl (solid target)⟩
  | directory => exact ⟨_, grows.directory there, fun _ target => by simp⟩

theorem linkFreeUnder (grows : d.Grows d') {loc : Location} (free : d.LinkFreeUnder loc) :
    d'.LinkFreeUnder loc :=
  fun rest target more link => free rest target more (grows.link.mp link)

end Grows

end Disk

/-- What leads to something leads to it on every disk that has the same directories
and links, if something of that kind stands there as well: no file is passed on a way. -/
theorem Follows.of_kept {d d' : Disk} {followLast : Bool} {n : Nat} {loc place : Location}
    {segments : List (List Char)}
    (directory : ∀ {loc}, d.get? loc = some .directory → d'.get? loc = some .directory)
    (link : ∀ {loc target}, d.get? loc = some (.link target) → d'.get? loc = some (.link target))
    (way : Follows d followLast n loc segments place) {item item' : Item}
    (there : d.get? place = some item) (there' : d'.get? place = some item')
    (solid' : (∀ target, item ≠ .link target) → ∀ target, item' ≠ .link target) :
    Follows d' followLast n loc segments place := by
  induction way with
  | here => exact .here
  | idle inside passed _ ih => exact .idle (directory inside) passed (ih there there')
  | up inside _ ih => exact .up (directory inside) (ih there there')
  | @into n loc segment rest place met inside name fits stands solid next ih =>
    cases met with
    | link target => exact absurd rfl (solid target)
    | directory =>
      exact .into (directory inside) name fits (directory stands) (by simp) (ih there there')
    | file bytes =>
      cases rest with
      | nil =>
        cases next
        obtain rfl := Option.some.inj (stands.symm.trans there)
        exact .into (directory inside) name fits there' (solid' solid) .here
      | cons s rest => exact nomatch stands.symm.trans next.inside
  | missing _ _ _ absent _ =>
    rw [there] at absent
    cases absent
  | halt inside name fits met stop => exact .halt (directory inside) name fits (link met) stop
  | jump inside name fits met onward _ ih =>
    exact .jump (directory inside) name fits (link met) onward (ih there there')

/-- **Ways stay.** What leads to something leads to it on a grown disk. -/
theorem Follows.grows {d d' : Disk} {followLast : Bool} {n : Nat} {loc place : Location}
    {segments : List (List Char)} (grows : d.Grows d')
    (way : Follows d followLast n loc segments place) {item : Item}
    (there : d.get? place = some item) : Follows d' followLast n loc segments place := by
  obtain ⟨item', there', solid'⟩ := grows.there there
  exact way.of_kept grows.directory grows.link.mpr there there' solid'

/-- Names below a directory without links lead, over no link, to what stands or
is made where they are written. -/
theorem Follows.names_grow {d d' : Disk} {n : Nat} {loc place : Location}
    {names : List (List Char)} (plain : ∀ s ∈ names, IsName s) (free : d.LinkFreeUnder loc)
    (way : Follows d true n loc names place) (grows : d.Grows d') {bytes : ByteArray}
    (there : d'.get? place = some (.file bytes)) : Follows d' true 0 loc names place := by
  induction names generalizing loc with
  | nil =>
    cases way
    exact .here
  | cons segment rest ih =>
    obtain ⟨name, others⟩ := List.forall_mem_cons.mp plain
    obtain ⟨inside, fits, ⟨item, met, solid, next⟩ | ⟨rfl, rfl⟩⟩ := way.first_name plain free
    · obtain ⟨item', met', solid'⟩ := grows.there met
      exact .into (grows.directory inside) name fits met' (solid' solid)
        (ih others (free.descend segment) next)
    · -- What was missing is the file that has been made.
      exact .into (grows.directory inside) name fits there (by simp) .here

namespace Disk

variable {d d' : Disk} {p : FilePath} {place : Location} {item : Item}

theorem Grows.start (grows : d.Grows d') (p : FilePath) : d'.start p = d.start p := by
  simp [Disk.start, grows.home]

theorem Leads.grows (leads : d.Leads p place) (grows : d.Grows d')
    (there : d.get? place = some item) : d'.Leads p place := by
  rw [Leads, grows.start]
  exact Follows.grows grows leads there

theorem Grows.locate {followLast : Bool} (grows : d.Grows d')
    (located : d.locate followLast p = .ok place) (there : d.get? place = some item) :
    d'.locate followLast p = .ok place := by
  rw [locate_eq_ok_iff] at located ⊢
  rw [grows.start]
  exact ⟨located.1, located.2.grows grows there⟩

/-! ## What paths lead to -/

theorem lookup_eq_ok_iff {d : Disk} {p : FilePath} {item : Item} :
    d.lookup p = .ok item ↔ ∃ loc, d.locate true p = .ok loc ∧ d.get? loc = some item := by
  unfold lookup
  cases located : d.locate true p with
  | error fault => exact ⟨nofun, fun ⟨_, other, _⟩ => nomatch other⟩
  | ok loc =>
    simp only [Except.ok.injEq, exists_eq_left', bind, Except.bind]
    cases d.get? loc with
    | none => exact ⟨nofun, nofun⟩
    | some found => exact ⟨fun same => congrArg some (Except.ok.inj same),
        fun same => congrArg Except.ok (Option.some.inj same)⟩

theorem pathExists_iff : d.pathExists p = true ↔ ∃ item, d.lookup p = .ok item := by
  unfold pathExists
  cases d.lookup p <;> simp [Except.isOk, Except.toBool]

/-- Text that was written is read again. -/
private theorem fromUTF8?_toUTF8 (text : String) : String.fromUTF8? text.toUTF8 = some text :=
  dif_pos text.isValidUTF8

/-- A file with text can be read. -/
theorem readText_of_lookup {text : String} (found : d.lookup p = .ok (.file text.toUTF8)) :
    d.readText p = .ok text := by
  simp only [readText, found, bind, Except.bind, fromUTF8?_toUTF8]
  rfl

/-- What leads to the same reads the same. -/
theorem readText_congr {e : Disk} (same : d.lookup p = e.lookup p) :
    d.readText p = e.readText p := by
  rw [readText, readText, same]

/-- Paths that are too long are so on every disk. -/
theorem lookup_eq_of_long {e : Disk} (long : pathLimit < p.text.utf8ByteSize) :
    d.lookup p = e.lookup p := by
  have refused : d.locate true p = e.locate true p := by
    unfold locate
    simp only [if_pos long]
  unfold lookup
  rw [refused]
  cases located : e.locate true p with
  | error fault => rfl
  | ok place => exact absurd (locate_eq_ok_iff.mp located).1.short (Nat.not_le.mpr long)

/-- A path that leads to something leads there later. -/
theorem Grows.locate_eq (grows : d.Grows d') (found : d.lookup p = .ok item) :
    d'.locate true p = d.locate true p := by
  obtain ⟨loc, located, there⟩ := lookup_eq_ok_iff.mp found
  rw [located]
  exact grows.locate located there

theorem AddsDirectories.lookup (adds : d.AddsDirectories d') (found : d.lookup p = .ok item) :
    d'.lookup p = .ok item := by
  obtain ⟨loc, located, there⟩ := lookup_eq_ok_iff.mp found
  exact lookup_eq_ok_iff.mpr ⟨loc, adds.grows.locate located there, adds.keeps there⟩

/-- What is a file later was that file before. -/
theorem AddsDirectories.file_iff (adds : d.AddsDirectories d') {loc : Location}
    {bytes : ByteArray} : d'.get? loc = some (.file bytes) ↔ d.get? loc = some (.file bytes) :=
  ⟨adds.old (by simp), adds.keeps⟩

/-! ## Disks without links -/

/-- No link stands anywhere. -/
def LinkFree (d : Disk) : Prop :=
  ∀ loc target, d.get? loc ≠ some (.link target)

/-- To have no link below a location, it is enough that no item is one. -/
theorem linkFreeUnder_of_items {loc : Location}
    (solid : ∀ e ∈ d.items, ∀ target, e.2 = .link target → ¬ loc <+: e.1) :
    d.LinkFreeUnder loc := by
  intro rest target _ there
  unfold get? at there
  split at there
  · cases there
  · obtain ⟨front, back, items, _⟩ := List.lookup_eq_some_iff.mp there
    exact solid (loc ++ rest, .link target) (by simp [items]) target rfl ⟨rest, rfl⟩

/-- No link stands below the place to which the path leads, be it now or once
missing directories on its way are made. -/
def LinkFreeBelow (d : Disk) (p : FilePath) : Prop :=
  ∀ d' loc, d.Grows d' → d'.Leads p loc → d.LinkFreeUnder loc

theorem linkFree_of_items (solid : ∀ e ∈ d.items, ∀ target, e.2 ≠ .link target) :
    d.LinkFree := by
  intro loc target there
  have free : d.LinkFreeUnder [] :=
    linkFreeUnder_of_items fun e member target link => absurd link (solid e member target)
  by_cases root : loc = []
  · simp [root, get?] at there
  · exact free loc target root there

theorem LinkFree.linkFreeBelow (free : d.LinkFree) (p : FilePath) : d.LinkFreeBelow p :=
  fun _ loc _ _ rest target _ => free (loc ++ rest) target

/-- If the path leads to something now, it is enough to look there. -/
theorem LinkFreeUnder.linkFreeBelow (free : d.LinkFreeUnder place) (leads : d.Leads p place)
    (there : d.get? place = some item) : d.LinkFreeBelow p := by
  intro d' loc grows leads'
  obtain rfl := (leads.grows grows there).unique leads'
  exact free

theorem LinkFreeBelow.grows (free : d.LinkFreeBelow p) (grows : d.Grows d') :
    d'.LinkFreeBelow p :=
  fun d'' loc grows' leads => grows.linkFreeUnder (free d'' loc (grows.trans grows') leads)

/-! ## Changes at one location -/

private theorem lookup_cons_ite (l loc : Location) (item : Item) (rest : List (Location × Item)) :
    List.lookup l ((loc, item) :: rest) = if l = loc then some item else List.lookup l rest := by
  by_cases h : l = loc
  · rw [List.lookup_cons, if_pos h, beq_iff_eq.2 h]
  · rw [List.lookup_cons, if_neg h, beq_eq_false_iff_ne.2 h]

private theorem lookup_replace_self {loc : Location} (item : Item)
    {items : List (Location × Item)} (held : ∃ e ∈ items, e.1 = loc) :
    (items.map fun e => if e.1 = loc then (loc, item) else e).lookup loc = some item := by
  induction items with
  | nil => simp at held
  | cons e rest ih =>
    obtain ⟨loc', item'⟩ := e
    by_cases here : loc' = loc
    · simp [here]
    · have more : ∃ e ∈ rest, e.1 = loc := by simpa [here] using held
      simpa [here, lookup_cons_ite, Ne.symm here] using ih more

private theorem lookup_replace_ne {l loc : Location} (other : l ≠ loc) (item : Item)
    (items : List (Location × Item)) :
    (items.map fun e => if e.1 = loc then (loc, item) else e).lookup l = items.lookup l := by
  induction items with
  | nil => rfl
  | cons e rest ih =>
    obtain ⟨loc', item'⟩ := e
    by_cases here : loc' = loc
    · simpa [here, lookup_cons_ite, other] using ih
    · simpa [here, lookup_cons_ite] using congrArg (if l = loc' then some item' else ·) ih

/-- Putting an item changes what stands at its location only. -/
theorem get?_put (d : Disk) {loc : Location} (below : loc ≠ []) (item : Item) (l : Location) :
    (d.put loc item).get? l = if l = loc then some item else d.get? l := by
  unfold get?
  by_cases root : l = []
  · simp [root, Ne.symm below]
  · rw [if_neg root, if_neg root]
    unfold put
    by_cases held : d.items.any (·.1 = loc) = true
    · rw [if_pos held]
      simp only [List.any_eq_true, decide_eq_true_eq] at held
      by_cases here : l = loc
      · rw [if_pos here, here, lookup_replace_self item held]
      · rw [if_neg here, lookup_replace_ne here]
    · rw [if_neg held, List.lookup_append, lookup_cons_ite]
      by_cases here : l = loc
      · have absent : d.items.lookup loc = none := by
          simp only [List.any_eq_true, decide_eq_true_eq, not_exists, not_and] at held
          simpa [List.lookup_eq_none_iff] using fun a b member => Ne.symm (held (a, b) member)
        simp [here, absent]
      · simp [here]

/-- The root is always there. -/
theorem ne_nil_of_get? {d : Disk} {loc : Location} (h : d.get? loc ≠ some .directory) :
    loc ≠ [] := by
  rintro rfl
  exact h (by simp [get?])

theorem addsDirectories_put {d : Disk} {loc : Location} (absent : d.get? loc = none) :
    d.AddsDirectories (d.put loc .directory) := by
  have below : loc ≠ [] := ne_nil_of_get? (d := d) (by simp [absent])
  refine ⟨?_, ?_, ?_, fun l => ?_⟩
  · unfold put; split <;> rfl
  · unfold put; split <;> rfl
  · unfold put; split <;> rfl
  · rw [get?_put d below]
    by_cases here : l = loc
    · exact .inr (by simp [here, absent])
    · exact .inl (if_neg here)

theorem grows_put_file {d : Disk} {loc : Location} (bytes : ByteArray)
    (notDirectory : d.get? loc ≠ some .directory)
    (solid : ∀ target, d.get? loc ≠ some (.link target)) :
    d.Grows (d.put loc (.file bytes)) := by
  have below := ne_nil_of_get? notDirectory
  constructor
  · unfold put; split <;> rfl
  · intro l there
    have other : l ≠ loc := by
      rintro rfl
      exact notDirectory there
    rw [get?_put d below, if_neg other, there]
  · intro l old there
    rw [get?_put d below]
    split
    · exact ⟨bytes, rfl⟩
    · exact ⟨old, there⟩
  · intro l target
    rw [get?_put d below]
    split
    · rename_i here
      simpa [here] using solid target
    · rfl

/-! ## Operations -/

theorem place_eq_ok_iff {d d' : Disk} {loc : Location} {item : Item} :
    d.place loc item = .ok d' ↔ d.refusal? loc = none ∧ d' = d.put loc item := by
  unfold place
  cases d.refusal? loc with
  | some reason => exact ⟨nofun, fun ⟨refused, _⟩ => nomatch refused⟩
  | none => exact ⟨fun placed => ⟨rfl, (Except.ok.inj placed).symm⟩, fun ⟨_, put⟩ => put ▸ rfl⟩

/-- One directory is made where nothing stands, unless the system refuses. -/
theorem makeDirectory_eq_ok_iff {d d' : Disk} {p : FilePath} :
    d.makeDirectory p = .ok d' ↔ ∃ loc, d.locate false p = .ok loc ∧ d.get? loc = none ∧
      d.refusal? loc = none ∧ d' = d.put loc .directory := by
  rw [makeDirectory, bind_eq_ok]
  refine exists_congr fun loc => and_congr_right fun _ => ?_
  cases d.get? loc with
  | none => simpa using place_eq_ok_iff
  | some item => simp

theorem addsDirectories_makeDirectory {d d' : Disk} {p : FilePath}
    (made : d.makeDirectory p = .ok d') : d.AddsDirectories d' := by
  obtain ⟨loc, _, absent, _, rfl⟩ := makeDirectory_eq_ok_iff.mp made
  exact addsDirectories_put absent

private theorem ensureDirectory_keeps {P : Disk → Prop} {d : Disk} {p : FilePath}
    (step : ∀ {d'}, d.makeDirectory p = .ok d' → P d') (start : P d) :
    P (d.ensureDirectory p).2 := by
  unfold ensureDirectory
  split
  · rename_i made
    exact step made
  · exact start

/-- What making one directory keeps is kept by making all that are missing, which are
the directory itself and some above it. -/
theorem makeDirectoriesWithin_induction {P : Disk → Prop} (fuel : Nat) {d : Disk} (p : FilePath)
    (step : ∀ {d q d'}, q = p ∨ q.Above p → P d → d.makeDirectory q = .ok d' → P d')
    (start : P d) : P (makeDirectoriesWithin fuel d p).2 := by
  induction fuel generalizing d p with
  | zero => exact ensureDirectory_keeps (step (.inl rfl) start) start
  | succ fuel ih =>
    have first := ensureDirectory_keeps (step (.inl rfl) start) start
    unfold makeDirectoriesWithin
    split
    · exact start
    · split
      · -- The directory above is missing, so that one is made first.
        rename_i d₁ missing
        rw [missing] at first
        split
        · exact first
        · rename_i above found
          have second := ih above
            (fun onWay => step (.inr ((FilePath.above_iff found).mpr onWay))) first
          split
          · rename_i d₂ made
            rw [made] at second
            exact ensureDirectory_keeps (step (.inl rfl) second) second
          · rename_i made
            rw [made] at second
            exact second
      · rename_i result
        rw [result] at first
        exact first

theorem addsDirectories_makeDirectoriesWithin (fuel : Nat) (d : Disk) (p : FilePath) :
    d.AddsDirectories (makeDirectoriesWithin fuel d p).2 :=
  makeDirectoriesWithin_induction fuel p
    (fun _ adds made => adds.trans (addsDirectories_makeDirectory made)) (.refl d)

/-- Making directories does nothing but that, also when it fails halfway. -/
theorem addsDirectories_makeDirectories (d : Disk) (p : FilePath) :
    d.AddsDirectories (d.makeDirectories p).2 :=
  addsDirectories_makeDirectoriesWithin _ d p

/-- A write puts a file where the path leads, unless the system refuses. Nothing new is
written under a name with a slash after it. -/
theorem writeBytes_eq_ok_iff {d d' : Disk} {p : FilePath} {bytes : ByteArray} :
    d.writeBytes p bytes = .ok d' ↔ ∃ loc, d.locate true p = .ok loc ∧
      d.get? loc ≠ some .directory ∧ (d.get? loc = none → endsInSlash p = false) ∧
      d.refusal? loc = none ∧ d' = d.put loc (.file bytes) := by
  rw [writeBytes, bind_eq_ok]
  refine exists_congr fun loc => and_congr_right fun _ => ?_
  cases d.get? loc with
  | none => cases endsInSlash p <;> simp [place_eq_ok_iff]
  | some item => cases item <;> simp [place_eq_ok_iff]

theorem writeBytes_eq_ok {d d' : Disk} {p : FilePath} {bytes : ByteArray}
    (written : d.writeBytes p bytes = .ok d') :
    ∃ loc, d.locate true p = .ok loc ∧ d.get? loc ≠ some .directory ∧
      d' = d.put loc (.file bytes) := by
  obtain ⟨loc, located, notDirectory, _, _, put⟩ := writeBytes_eq_ok_iff.mp written
  exact ⟨loc, located, notDirectory, put⟩

end Disk

end SchemaGen.File
