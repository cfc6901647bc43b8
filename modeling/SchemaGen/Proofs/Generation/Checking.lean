import Mathlib.Data.List.Forall2
import SchemaGen.Generation

/-!
# What checking the paths takes

The check passes just when every claim has a path, which is given for safe names
only, and no two claims have the same one (`checkPaths_iff`). The claims that
are checked are those of the jobs that are then made (`claims_eq`).
-/

namespace SchemaGen

open SchemaGen.File

/-- The entity and the kind of the file to be made. -/
def Job.claim (job : Job) : String × OutputKind :=
  (job.context.entity, job.kind)

namespace Generation

/-! ## The paths of claims -/

/-- The claims have these paths, each one its own in the same place. -/
def HavePaths (root : FilePath) : List (String × OutputKind) → List FilePath → Prop :=
  List.Forall₂ fun claim path => claim.2.pathFor root claim.1 = .ok path

/-- Claims have their paths only. -/
theorem HavePaths.unique {root : FilePath} {wanted : List (String × OutputKind)}
    {paths others : List FilePath} (first : HavePaths root wanted paths)
    (second : HavePaths root wanted others) : paths = others :=
  List.right_unique_forall₂' (fun _ _ _ one two => Except.ok.inj (one.symm.trans two)) first second

/-- Of distinct paths, those of the first claims are distinct. -/
theorem HavePaths.nodup_front {root : FilePath} {front back : List (String × OutputKind)}
    {paths others : List FilePath} (all : HavePaths root (front ++ back) paths)
    (distinct : paths.Nodup) (first : HavePaths root front others) : others.Nodup := by
  have cut : HavePaths root ((front ++ back).take front.length) (paths.take front.length) :=
    List.forall₂_take front.length all
  rw [List.take_left] at cut
  rw [first.unique cut]
  exact distinct.sublist (List.take_sublist _ _)

/-! ## The check -/

/-- The check of the first claim, and that of the others with its path taken. -/
theorem checkPaths_cons {root : FilePath} {taken : List (FilePath × String)}
    {claim : String × OutputKind} {rest : List (String × OutputKind)} :
    checkPaths root taken (claim :: rest) = .ok () ↔
      ∃ path, claim.2.pathFor root claim.1 = .ok path ∧ path ∉ taken.map (·.1) ∧
        checkPaths root ((path, claim.1) :: taken) rest = .ok () := by
  obtain ⟨name, kind⟩ := claim
  have new : ∀ path, taken.lookup path = none ↔ path ∉ taken.map (·.1) := by
    intro path
    rw [List.lookup_eq_none_iff]
    simp only [bne_iff_ne, ne_eq, List.mem_map, not_exists, not_and, eq_comm (a := path)]
  rw [checkPaths]
  cases found : kind.pathFor root name with
  | error e => exact ⟨nofun, fun ⟨_, other, _⟩ => nomatch other⟩
  | ok path =>
    simp only [Except.ok.injEq, exists_eq_left', ← new, Except.bind, bind]
    cases taken.lookup path with
    | none => simp
    | some first => simp

private theorem checkPaths_eq_ok {root : FilePath} {taken : List (FilePath × String)}
    {wanted : List (String × OutputKind)} : checkPaths root taken wanted = .ok () ↔
      ∃ paths, HavePaths root wanted paths ∧ paths.Nodup ∧
        ∀ path ∈ paths, path ∉ taken.map (·.1) := by
  induction wanted generalizing taken with
  | nil => exact ⟨fun _ => ⟨[], .nil, .nil, by simp⟩, fun _ => rfl⟩
  | cons claim rest ih =>
    rw [checkPaths_cons]
    constructor
    -- The path of the first claim is taken for the others, so they keep clear of it.
    · rintro ⟨path, found, free, checked⟩
      obtain ⟨paths, others, nodup, apart⟩ := ih.mp checked
      simp only [List.map_cons, List.mem_cons, not_or] at apart
      refine ⟨path :: paths, .cons found others, ?_, ?_⟩
      · exact List.nodup_cons.mpr ⟨fun member => (apart path member).1 rfl, nodup⟩
      · intro path' member
        rcases List.mem_cons.mp member with rfl | member
        · exact free
        · exact (apart path' member).2
    · rintro ⟨_, found, nodup, apart⟩
      cases found with
      | cons found others =>
        rename_i path paths
        obtain ⟨new, nodup⟩ := List.nodup_cons.mp nodup
        refine ⟨path, found, apart path List.mem_cons_self,
          ih.mpr ⟨paths, others, nodup, fun path' member => ?_⟩⟩
        simp only [List.map_cons, List.mem_cons, not_or]
        exact ⟨fun same => new (same ▸ member), apart path' (List.mem_cons_of_mem _ member)⟩

/-- **The check passes** just when every claim has a safe path and no two have the
same. -/
theorem checkPaths_iff {root : FilePath} {wanted : List (String × OutputKind)} :
    checkPaths root [] wanted = .ok () ↔
      ∃ paths, HavePaths root wanted paths ∧ paths.Nodup := by
  rw [checkPaths_eq_ok]
  simp

/-! ## The plan -/

/-- What is checked is what is made. -/
theorem claims_eq (m : Model) (fallback : String) :
    claims m = (plan m fallback).map Job.claim := by
  simp [claims, plan, Job.claim, Model.contexts, Catalog.names, List.flatMap_map,
    List.map_flatMap, Model.contextOf, Function.comp_def]

/-- Every entity is planned for every wanted kind. -/
theorem mem_plan {m : Model} {fallback name : String} {entity : Entity} {kind : OutputKind}
    (found : m.entities.get? name = some entity) (wanted : kind ∈ m.outputs) :
    ⟨m.contextOf fallback name entity, kind⟩ ∈ plan m fallback := by
  obtain ⟨front, back, entries, _⟩ := List.lookup_eq_some_iff.mp found
  have member : m.contextOf fallback name entity ∈ m.contexts fallback :=
    List.mem_map.mpr ⟨(name, entity), by simp [entries], rfl⟩
  exact List.mem_flatMap.mpr ⟨_, member, List.mem_map.mpr ⟨kind, wanted, rfl⟩⟩

end Generation

end SchemaGen
