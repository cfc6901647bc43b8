import SchemaGen.Template.Engine

/-!
# What loading templates takes

A library is loaded only if every file below the directory is a template that
parses, and its names are those of the files (`ofDirectory_ok`). One file that
is no template anywhere in the tree is enough to have no library.
-/

namespace SchemaGen.Template.Library

open SchemaGen.File

/-- The visits of a walk are all good for a library, and it comes to `after`. -/
structure Loads (d : Disk) (dir : FilePath) (visits : List Visit) (before after : Library) :
    Prop where
  walked : ∀ cause, .fault cause ∉ visits
  parsed : ∀ p, .file p ∈ visits → ∃ source stmts, d.readText p = .ok source ∧
    parse source = .ok stmts
  named : ∀ n, after.has n = true ↔ before.has n = true ∨ ∃ p, .file p ∈ visits ∧ nameOf dir p = n

theorem parse_of_add {l m : Library} {name source : String} (added : l.add name source = .ok m) :
    ∃ stmts, parse source = .ok stmts := by
  obtain ⟨stmts, parsed, _⟩ := add_eq_ok_iff.mp added
  exact ⟨stmts, parsed⟩

/-- A template in front of others is added before them. -/
theorem Loads.file {d : Disk} {dir p : FilePath} {rest : List Visit} {l m l' : Library}
    {source : String} (read : d.readText p = .ok source)
    (added : l.add (nameOf dir p) source = .ok m) (later : Loads d dir rest m l') :
    Loads d dir (.file p :: rest) l l' := by
  obtain ⟨stmts, parsed⟩ := parse_of_add added
  refine ⟨by simpa using later.walked, fun q member => ?_, fun n => ?_⟩
  · rcases List.mem_cons.mp member with same | member
    · cases same
      exact ⟨source, stmts, read, parsed⟩
    · exact later.parsed q member
  · rw [later.named, has_add added, Bool.or_eq_true, decide_eq_true_eq]
    constructor
    · rintro ((rfl | old) | ⟨q, member, named⟩)
      · exact .inr ⟨p, List.mem_cons_self, rfl⟩
      · exact .inl old
      · exact .inr ⟨q, List.mem_cons_of_mem _ member, named⟩
    · rintro (old | ⟨q, member, named⟩)
      · exact .inl (.inr old)
      · rcases List.mem_cons.mp member with same | member
        · cases same
          exact .inl (.inl named.symm)
        · exact .inr ⟨q, member, named⟩

theorem collect_ok {d : Disk} {dir : FilePath} {visits : List Visit} {l l' : Library}
    (collected : (collect d dir l visits).1 = .ok l') : Loads d dir visits l l' := by
  induction visits generalizing l with
  | nil =>
    obtain rfl := Except.ok.inj collected
    exact ⟨by simp, by simp, by simp⟩
  | cons visit rest ih =>
    cases visit with
    | fault cause => cases collected
    | directory p =>
      have later := ih collected
      exact ⟨by simpa using later.walked, by simpa using later.parsed, by simpa using later.named⟩
    | file p =>
      unfold collect at collected
      split at collected
      · cases collected
      · rename_i source read
        dsimp only at collected
        split at collected
        · cases collected
        · rename_i m added
          exact .file read added (ih collected)

/-- **Loading templates** takes a directory whose files all are templates. -/
theorem ofDirectory_ok {d : Disk} {dir : FilePath} {l : Library}
    (loaded : (ofDirectory d dir).1 = .ok l) :
    d.isDirectory dir = true ∧ Loads d dir (d.walk dir) {} l := by
  unfold ofDirectory at loaded
  split at loaded
  · rename_i there
    exact ⟨there, collect_ok loaded⟩
  · cases loaded

theorem require_ok {l : Library} {names : List String} (found : l.require names = .ok ()) :
    ∀ n ∈ names, l.has n = true := by
  unfold require at found
  split at found
  · cases found
  · rename_i none
    simpa using none

end SchemaGen.Template.Library
