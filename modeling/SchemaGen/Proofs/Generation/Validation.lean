import Mathlib.Data.List.Nodup
import Mathlib.Data.List.ProdSigma
import SchemaGen.Proofs.Generation.Course
import SchemaGen.Proofs.Model.Merging
import SchemaGen.Proofs.Output.Naming

/-!
# Which models pass the check

The check goes through the names in their order, and through the wanted kinds for each
of them. Kinds never get in each other's way, and names do just if their lower-case forms
are the same, so a model passes if its names are `Clear` (`checkPaths_product_iff`). What
has passed only leaves its paths behind (`checkPaths_append`), so the first name that
offends is the one that is reported (`checkPaths_of_first`). `validated_or_first` says
this of whole runs.
-/

namespace SchemaGen

open SchemaGen.File

namespace Generation

/-- All names are nameable, and their lower-case forms are different. -/
structure Clear (names : List String) : Prop where
  nameable : ∀ name ∈ names, Nameable name
  distinct : (names.map Text.lower).Nodup

/-- The name is unsafe, or it has the lower-case form of a smaller one. -/
def Offends (names : List String) (name : String) : Prop :=
  ¬ Nameable name ∨ ∃ smaller ∈ names, smaller < name ∧ Text.lower smaller = Text.lower name

instance (names : List String) (name : String) : Decidable (Offends names name) :=
  inferInstanceAs (Decidable (_ ∨ _))

/-- The least of the names that offend. -/
structure FirstOffender (names : List String) (name : String) : Prop where
  member : name ∈ names
  offends : Offends names name
  least : ∀ other ∈ names, Offends names other → name ≤ other

/-! ## Names without offenders -/

section

variable {names : List String} {name : String}

/-- Names in their order are clear just if none offends. -/
theorem clear_iff (ascending : names.Pairwise (· < ·)) :
    Clear names ↔ ∀ name ∈ names, ¬ Offends names name := by
  constructor
  · rintro clear name member (bad | ⟨smaller, member', less, same⟩)
    · exact bad (clear.nameable name member)
    · have equal := List.inj_on_of_nodup_map clear.distinct member' member same
      exact String.lt_irrefl name (equal ▸ less)
  · intro none
    refine ⟨fun name member => ?_, ?_⟩
    · exact Decidable.byContradiction fun bad => none name member (.inl bad)
    · rw [List.Nodup, List.pairwise_map]
      refine ascending.imp_of_mem fun {smaller name} member' member less same => ?_
      exact none name member (.inr ⟨smaller, member', less, same⟩)

/-- If any name offends, one is the first. -/
theorem exists_firstOffender (ascending : names.Pairwise (· < ·)) (unclear : ¬ Clear names) :
    ∃ name, FirstOffender names name := by
  rw [clear_iff ascending] at unclear
  simp only [not_forall, not_not] at unclear
  obtain ⟨other, member, offends⟩ := unclear
  obtain ⟨name, found⟩ : ∃ name, names.find? (Offends names ·) = some name := by
    rw [← Option.isSome_iff_exists, List.find?_isSome]
    exact ⟨other, member, decide_eq_true offends⟩
  obtain ⟨offends, before, after, rfl, none⟩ := List.find?_eq_some_iff_append.mp found
  refine ⟨name, by simp, of_decide_eq_true offends, fun other member offends => ?_⟩
  rcases List.mem_append.mp member with earlier | later
  · have clean := none other earlier
    simp [offends] at clean
  · rcases List.mem_cons.mp later with rfl | later
    · exact String.le_refl _
    · have after := (List.pairwise_cons.mp (List.pairwise_append.mp ascending).2.1).1
      exact String.not_lt.mp (String.lt_asymm (after other later))

/-- The names before the first offender are clear, and they are the smaller ones. -/
theorem FirstOffender.split (first : FirstOffender names name)
    (ascending : names.Pairwise (· < ·)) : ∃ before after, names = before ++ name :: after ∧
      Clear before ∧ ∀ other, other ∈ before ↔ other ∈ names ∧ other < name := by
  obtain ⟨before, after, rfl⟩ := List.append_of_mem first.member
  obtain ⟨sorted, later, across⟩ := List.pairwise_append.mp ascending
  have smaller : ∀ other ∈ before, other < name := fun other member =>
    across other member name List.mem_cons_self
  refine ⟨before, after, rfl, (clear_iff sorted).mpr ?_, fun other => ⟨?_, ?_⟩⟩
  · rintro other member offends
    -- An offender among the smaller names offends among all of them.
    have offends' : Offends (before ++ name :: after) other := by
      rcases offends with bad | ⟨least, member', less, same⟩
      · exact .inl bad
      · exact .inr ⟨least, List.mem_append_left _ member', less, same⟩
    have least := first.least other (List.mem_append_left _ member) offends'
    exact String.not_lt.mpr least (smaller other member)
  · intro member
    exact ⟨List.mem_append_left _ member, smaller other member⟩
  · rintro ⟨member, less⟩
    rcases List.mem_append.mp member with earlier | here
    · exact earlier
    · rcases List.mem_cons.mp here with rfl | beyond
      · exact absurd less (String.lt_irrefl _)
      · have greater := (List.pairwise_cons.mp later).1 other beyond
        exact absurd less (String.lt_asymm greater)

/-- A first offender whose name is good has the lower-case form of one smaller name. -/
theorem FirstOffender.exists_holder (first : FirstOffender names name)
    (ascending : names.Pairwise (· < ·)) (safe : Nameable name) :
    ∃ smaller ∈ names, smaller < name ∧ Text.lower smaller = Text.lower name ∧
      ∀ other ∈ names, other < name → Text.lower other = Text.lower name → other = smaller := by
  obtain ⟨before, _, _, clear, smaller_iff⟩ := first.split ascending
  obtain ⟨smaller, member, less, same⟩ := first.offends.resolve_left (not_not_intro safe)
  have here := (smaller_iff smaller).mpr ⟨member, less⟩
  refine ⟨smaller, member, less, same, fun other member' less' same' => ?_⟩
  have here' := (smaller_iff other).mpr ⟨member', less'⟩
  exact List.inj_on_of_nodup_map clear.distinct here' here (same'.trans same.symm)

end

/-! ## What the check goes through -/

section

variable {root : FilePath} {taken : List (FilePath × String)}
  {front back : List (String × OutputKind)} {names : List String} {kinds : List OutputKind}

/-- The paths of claims that have passed, each with its entity, the last ones first. -/
def claimed (root : FilePath) (passed : List (String × OutputKind)) : List (FilePath × String) :=
  (passed.map fun claim => (claim.2.target root claim.1, claim.1)).reverse

/-- **Claims that pass only leave their paths behind.** -/
theorem checkPaths_append (passes : checkPaths root taken front = .ok ()) :
    checkPaths root taken (front ++ back) =
      checkPaths root (claimed root front ++ taken) back := by
  induction front generalizing taken with
  | nil => rfl
  | cons claim rest ih =>
    obtain ⟨path, found, free, others⟩ := checkPaths_cons.mp passes
    obtain ⟨name, kind⟩ := claim
    obtain ⟨-, rfl⟩ := OutputKind.pathFor_eq_ok_iff.mp found
    have new : taken.lookup (kind.target root name) = none := by
      rw [List.lookup_eq_none_iff]
      intro entry member
      simp only [bne_iff_ne, ne_eq]
      rintro same
      exact free (List.mem_map.mpr ⟨entry, member, same.symm⟩)
    have step : checkPaths root taken ((name, kind) :: (rest ++ back)) =
        checkPaths root ((kind.target root name, name) :: taken) (rest ++ back) := by
      rw [checkPaths, found]
      simp only [bind, Except.bind, new]
    rw [List.cons_append, step, ih others]
    simp [claimed]

/-- Claims with a path each have it at their targets. -/
theorem havePaths_iff {wanted : List (String × OutputKind)} {paths : List FilePath} :
    HavePaths root wanted paths ↔
      (∀ claim ∈ wanted, Nameable claim.1) ∧
        paths = wanted.map fun claim => claim.2.target root claim.1 := by
  induction wanted generalizing paths with
  | nil => simp [HavePaths]
  | cons claim rest ih =>
    constructor
    · rintro (_ | ⟨found, others⟩)
      obtain ⟨safe, rfl⟩ := OutputKind.pathFor_eq_ok_iff.mp found
      obtain ⟨safe', rfl⟩ := ih.mp others
      exact ⟨List.forall_mem_cons.mpr ⟨safe, safe'⟩, rfl⟩
    · rintro ⟨safe, rfl⟩
      obtain ⟨first, others⟩ := List.forall_mem_cons.mp safe
      exact .cons (OutputKind.pathFor_eq_ok_iff.mpr ⟨first, rfl⟩) (ih.mpr ⟨others, rfl⟩)

/-- **A model passes just if its names are clear**: each name claims a path of its own in
every kind, and those of different kinds stand in different directories. -/
theorem checkPaths_product_iff (distinct : names.Nodup) (apart : kinds.Nodup)
    (any : kinds ≠ []) :
    checkPaths root [] (names.product kinds) = .ok () ↔ Clear names := by
  obtain ⟨kind, wanted⟩ := List.exists_mem_of_ne_nil kinds any
  have nameable : (∀ claim ∈ names.product kinds, Nameable claim.1) ↔
      ∀ name ∈ names, Nameable name := by
    constructor
    · intro all name member
      exact all (name, kind) (List.pair_mem_product.mpr ⟨member, wanted⟩)
    · intro all claim member
      exact all claim.1 (List.pair_mem_product.mp member).1
  simp only [checkPaths_iff, havePaths_iff, nameable]
  constructor
  · rintro ⟨_, ⟨safe, rfl⟩, nodup⟩
    refine ⟨safe, List.Nodup.map_on ?_ distinct⟩
    intro name member name' member' same
    have target : kind.target root name = kind.target root name' :=
      (OutputKind.target_inj (safe name' member') (safe name member)).mpr ⟨rfl, same⟩
    have claim := List.inj_on_of_nodup_map nodup
      (List.pair_mem_product.mpr ⟨member, wanted⟩)
      (List.pair_mem_product.mpr ⟨member', wanted⟩) target
    exact congrArg Prod.fst claim
  · intro clear
    refine ⟨_, ⟨clear.nameable, rfl⟩, List.Nodup.map_on ?_ (distinct.product apart)⟩
    rintro ⟨name, kind⟩ member ⟨name', kind'⟩ member' same
    have here := (List.pair_mem_product.mp member).1
    have here' := (List.pair_mem_product.mp member').1
    obtain ⟨rfl, lowered⟩ := (OutputKind.target_inj (clear.nameable name' here')
      (clear.nameable name here)).mp same
    rw [List.inj_on_of_nodup_map clear.distinct here here' lowered]

/-- Look-up finds what stands under a key, if nothing else does. -/
private theorem lookup_eq_of_unique {path : FilePath} {name : String}
    (member : (path, name) ∈ taken) (unique : ∀ other, (path, other) ∈ taken → other = name) :
    taken.lookup path = some name := by
  cases found : taken.lookup path with
  | none =>
    have absent := List.lookup_eq_none_iff.mp found (path, name) member
    simp at absent
  | some other =>
    obtain ⟨front, back, rfl, _⟩ := List.lookup_eq_some_iff.mp found
    rw [unique other (by simp)]

theorem mem_claimed {passed : List (String × OutputKind)} {path : FilePath} {name : String} :
    (path, name) ∈ claimed root passed ↔
      ∃ kind, (name, kind) ∈ passed ∧ kind.target root name = path := by
  simp [claimed]

/-- **The first offender is what the check reports.** If its name is good, it clashes in
the first kind with the one smaller name that has the same lower-case form. -/
theorem checkPaths_of_first {name : String} {kind : OutputKind}
    (ascending : names.Pairwise (· < ·)) (apart : (kind :: kinds).Nodup)
    (first : FirstOffender names name) :
    (¬ Nameable name →
      checkPaths root [] (names.product (kind :: kinds)) = .error (.unsafePath name)) ∧
    (Nameable name → ∃ smaller ∈ names, smaller < name ∧ Text.lower smaller = Text.lower name ∧
      (∀ other ∈ names, other < name → Text.lower other = Text.lower name → other = smaller) ∧
      kind.target root smaller = kind.target root name ∧
      checkPaths root [] (names.product (kind :: kinds)) =
        .error (.outputClash (kind.target root name) smaller name)) := by
  obtain ⟨before, after, split, clear, smaller_iff⟩ := first.split ascending
  have distinct : before.Nodup := by
    have sorted := ascending.imp String.ne_of_lt
    rw [split] at sorted
    exact (List.nodup_append.mp sorted).1
  have passes : checkPaths root [] (before.product (kind :: kinds)) = .ok () :=
    (checkPaths_product_iff distinct apart (by simp)).mpr clear
  -- What is left to check begins with the offender in the first kind.
  obtain ⟨rest, left⟩ : ∃ rest, names.product (kind :: kinds) =
      before.product (kind :: kinds) ++ (name, kind) :: rest := by
    refine ⟨kinds.map (name, ·) ++ after.product (kind :: kinds), ?_⟩
    rw [split]
    simp [List.product]
  rw [left, checkPaths_append passes, List.append_nil, checkPaths]
  constructor
  · intro bad
    rw [OutputKind.pathFor_eq, if_neg bad]
    rfl
  · intro safe
    obtain ⟨smaller, member, less, same, only⟩ := first.exists_holder ascending safe
    have here := (smaller_iff smaller).mpr ⟨member, less⟩
    have target : kind.target root smaller = kind.target root name :=
      (OutputKind.target_inj safe (clear.nameable smaller here)).mpr ⟨rfl, same⟩
    refine ⟨smaller, member, less, same, only, target, ?_⟩
    have holder : (claimed root (before.product (kind :: kinds))).lookup
        (kind.target root name) = some smaller := by
      refine lookup_eq_of_unique ?_ ?_
      · exact mem_claimed.mpr
          ⟨kind, List.pair_mem_product.mpr ⟨here, List.mem_cons_self⟩, target⟩
      · intro other held
        obtain ⟨kind', passed, same'⟩ := mem_claimed.mp held
        have here' := (List.pair_mem_product.mp passed).1
        obtain ⟨member', less'⟩ := (smaller_iff other).mp here'
        have lowered := ((OutputKind.target_inj safe (clear.nameable other here')).mp same').2
        exact only other member' less' lowered
    rw [OutputKind.pathFor_eq, if_pos safe]
    simp only [bind, Except.bind, holder]

end

/-! ## Whole runs -/

section

variable {engine : Engine} {base : FilePath} {config : Config} {fragments : List Fragment}
  {merged : Merged} {d : Disk} {kind : OutputKind} {kinds : List OutputKind}

/-- A run is validated just if the check passes. -/
theorem validated_iff (merges : mergeFragments config.markerKey fragments = .ok merged) :
    .stage .validated ∈ (generate engine base config (.ok fragments) d).events ↔
      checkPaths (config.outputPath base) [] (claims merged.model) = .ok () := by
  have course := course_generate engine base config (.ok fragments) d
  generalize generate engine base config (.ok fragments) d = run at course
  cases course with
  | unmerged refused => cases merges.symm.trans refused
  | unchecked merges' refused =>
    obtain rfl := Except.ok.inj (merges.symm.trans merges')
    rw [refused]
    simp [opening]
  | stopped merges' checked =>
    obtain rfl := Except.ok.inj (merges.symm.trans merges')
    simp [preparing, checked]
  | finished merges' checked =>
    obtain rfl := Except.ok.inj (merges.symm.trans merges')
    simp [preparing, checked]

/-- A run fails as its check does. -/
theorem result_of_refused (merges : mergeFragments config.markerKey fragments = .ok merged)
    {e : Error}
    (refused : checkPaths (config.outputPath base) [] (claims merged.model) = .error e) :
    (generate engine base config (.ok fragments) d).result = .error e := by
  simp only [generate, proceed, merges, finish, refused]

/-- **A run is validated just if its names are clear**: all of them nameable, and no two the
same in lower case. If not, it fails for the least name that is unsafe or that has the
lower-case form of a smaller one: as an unsafe path, or else as a clash with the only
such name, at the path of both in the first wanted kind. -/
theorem validated_or_first (merges : mergeFragments config.markerKey fragments = .ok merged)
    (wanted : merged.model.outputs = kind :: kinds) :
    let names := merged.model.entities.names
    let root := config.outputPath base
    let run := generate engine base config (.ok fragments) d
    (checkPaths root [] (claims merged.model) = .ok () ↔ Clear names) ∧
    (.stage .validated ∈ run.events ↔ Clear names) ∧
    (¬ Clear names → ∃ name, FirstOffender names name) ∧
    ∀ name, FirstOffender names name →
      (¬ Nameable name → run.result = .error (.unsafePath name)) ∧
      (Nameable name → ∃ first ∈ names, first < name ∧ Text.lower first = Text.lower name ∧
        (∀ other ∈ names, other < name → Text.lower other = Text.lower name → other = first) ∧
        ∃ path, kind.pathFor root first = .ok path ∧ kind.pathFor root name = .ok path ∧
          run.result = .error (.outputClash path first name)) := by
  intro names root run
  have ascending := ascending_mergeFragments merges
  have apart : (kind :: kinds).Nodup :=
    wanted ▸ merged.model.sublist_outputs.nodup (by decide)
  have claims : claims merged.model = names.product (kind :: kinds) := by
    rw [← wanted]
    rfl
  have passes : checkPaths root [] (Generation.claims merged.model) = .ok () ↔ Clear names := by
    rw [claims]
    exact checkPaths_product_iff ascending.nodup apart (by simp)
  refine ⟨passes, (validated_iff merges).trans passes, exists_firstOffender ascending, ?_⟩
  intro name first
  have reported := @checkPaths_of_first root names kinds name kind ascending apart first
  rw [← claims] at reported
  obtain ⟨refuses, clashes⟩ := reported
  constructor
  · intro bad
    exact result_of_refused merges (refuses bad)
  · intro safe
    obtain ⟨smaller, member, less, same, only, target, refused⟩ := clashes safe
    have safe' := OutputKind.nameable_of_lower same safe
    refine ⟨smaller, member, less, same, only, kind.target root name, ?_, ?_,
      result_of_refused merges refused⟩
    · exact OutputKind.pathFor_eq_ok_iff.mpr ⟨safe', target.symm⟩
    · exact OutputKind.pathFor_eq_ok_iff.mpr ⟨safe, rfl⟩

end

/-! ## A catalogue with a name twice -/

/-- Three entities. Two of them are the same in lower case, and the last has a slash. -/
def catalogue : List Fragment :=
  [⟨⟨"goods.yaml"⟩, .map
      [(.str "entities", .map
          [(.str "parts/Bolt", .null), (.str "Product", .null), (.str "PRODUCT", .null)]),
        (.str "targets", .map [(.str "sqlite", .bool true), (.str "python", .bool false)])]⟩]

/-- What the catalogue is merged to. -/
def catalogueMerged : Merged :=
  { model :=
      { entities := ⟨[("PRODUCT", {}), ("Product", {}), ("parts/Bolt", {})]⟩
        targets := ⟨[("python", .bool false), ("sqlite", .bool true)]⟩ }
    collisions := [] }

theorem validated_or_first_catalogue :
    mergeFragments Setting.markerKey.default catalogue = .ok catalogueMerged ∧
    catalogueMerged.model.outputs = [.tableDefinition] ∧
    FirstOffender catalogueMerged.model.entities.names "Product" ∧ Nameable "Product" ∧
    ∃ first ∈ catalogueMerged.model.entities.names,
      first < "Product" ∧ Text.lower first = Text.lower "Product" ∧
      (∀ other ∈ catalogueMerged.model.entities.names, other < "Product" →
        Text.lower other = Text.lower "Product" → other = first) ∧
      ∃ path, OutputKind.tableDefinition.pathFor (Config.outputPath {} ⟨""⟩) first = .ok path ∧
        OutputKind.tableDefinition.pathFor (Config.outputPath {} ⟨""⟩) "Product" = .ok path ∧
        (generate (fun template _ => .ok template) ⟨""⟩ {} (.ok catalogue) .fresh).result =
          .error (.outputClash path first "Product") := by
  have merges : mergeFragments Setting.markerKey.default catalogue = .ok catalogueMerged := by
    decide +kernel
  have wanted : catalogueMerged.model.outputs = [.tableDefinition] := by decide +kernel
  have first : FirstOffender catalogueMerged.model.entities.names "Product" :=
    ⟨by decide +kernel, by decide +kernel, by decide +kernel⟩
  have safe : Nameable "Product" := by decide
  obtain ⟨_, _, _, verdict⟩ := @validated_or_first (fun template _ => .ok template) ⟨""⟩ {}
    catalogue catalogueMerged .fresh .tableDefinition [] merges wanted
  exact ⟨merges, wanted, first, safe, (verdict "Product" first).2 safe⟩

end Generation

end SchemaGen
