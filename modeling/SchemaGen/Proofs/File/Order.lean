import SchemaGen.Proofs.File.Trees
import SchemaGen.Proofs.Text.Utf8

/-!
# The order of paths

Paths are compared component by component, and names by their bytes (`Before`). This is
not the order of their texts: `a/x` comes before `a-b`. A path that goes on by a name
has one more component (`components_join`), so what stands below a name comes before
what stands below a later one (`before_of_names`).
-/

namespace SchemaGen.File

namespace Component

/-- The bytes of a name. -/
def bytes : Component → List UInt8
  | .name chars => Text.encode chars
  | .root | .here | .up => []

/-- Names come after all other components. -/
def rank : Component → Nat
  | .root => 0
  | .here => 1
  | .up => 2
  | .name _ => 3

/-- Components are in the order of their kinds, and names in that of their bytes. -/
def Before (a b : Component) : Prop :=
  a.rank < b.rank ∨ a.rank = b.rank ∧ List.Lex (· < ·) a.bytes b.bytes

theorem before_irrefl (a : Component) : ¬ Before a a := by
  rintro (less | ⟨_, less⟩)
  · exact Nat.lt_irrefl _ less
  · exact irrefl_of (List.Lex (· < ·)) a.bytes less

theorem Before.asymm {a b : Component} (before : Before a b) : ¬ Before b a := by
  rintro (less | ⟨same, less⟩)
  · rcases before with less' | ⟨same', _⟩ <;> omega
  · rcases before with less' | ⟨_, less'⟩
    · omega
    · exact asymm_of (List.Lex (· < ·)) less less'

theorem before_of_lt {name name' : String} (less : name < name') :
    Before (.name name.toList) (.name name'.toList) :=
  .inr ⟨rfl, Text.lex_encode less⟩

end Component

namespace FilePath

variable {p q : FilePath} {name name' : String}

/-- Paths are in the order of their components, the first ones deciding. -/
def Before (p q : FilePath) : Prop :=
  List.Lex Component.Before p.components q.components

theorem Before.asymm (before : p.Before q) : ¬ q.Before p := by
  have : Std.Asymm Component.Before := ⟨fun _ _ => Component.Before.asymm⟩
  exact asymm_of (List.Lex Component.Before) before

theorem before_irrefl (p : FilePath) : ¬ p.Before p :=
  fun before => before.asymm before

/-- Lists in order are the same if they hold the same. -/
theorem eq_of_ordered {α : Type} {path : α → FilePath} {xs ys : List α}
    (ordered : xs.Pairwise fun a b => (path a).Before (path b))
    (ordered' : ys.Pairwise fun a b => (path a).Before (path b))
    (same : ∀ a, a ∈ xs ↔ a ∈ ys) : xs = ys := by
  have distinct : ∀ {xs : List α}, (xs.Pairwise fun a b => (path a).Before (path b)) →
      xs.Nodup := by
    intro xs ordered
    refine List.Pairwise.imp ?_ ordered
    rintro a _ before rfl
    exact before_irrefl (path a) before
  have perm := (List.perm_ext_iff_of_nodup (distinct ordered) (distinct ordered')).mpr same
  exact perm.eq_of_pairwise (fun a b _ _ before after => absurd after before.asymm) ordered ordered'

/-! ## Going on by a name -/

theorem components_join (p : FilePath) (proper : ProperName name) :
    (p.join name).components = p.components ++ [.name name.toList] :=
  components_join_name p proper.noSlash proper.isName.component?_eq

/-- What stands below a name comes before what stands below a later one. -/
theorem before_of_names {r r' : FilePath} (proper : ProperName name) (proper' : ProperName name')
    (less : name < name') (below : (p.join name).components <+: r.components)
    (below' : (p.join name').components <+: r'.components) : r.Before r' := by
  obtain ⟨rest, whole⟩ := below
  obtain ⟨rest', whole'⟩ := below'
  rw [Before, ← whole, ← whole', components_join p proper, components_join p proper',
    List.append_assoc, List.append_assoc]
  exact List.Lex.append_left _ (.rel (Component.before_of_lt less)) _

/-- A path comes before what stands below it. -/
theorem before_of_below {r : FilePath} (proper : ProperName name)
    (below : (p.join name).components <+: r.components) : p.Before r := by
  obtain ⟨rest, whole⟩ := below
  rw [Before, ← whole, components_join p proper, List.append_assoc]
  have onward : List.Lex Component.Before [] (.name name.toList :: rest) := .nil
  simpa using List.Lex.append_left _ onward p.components

end FilePath

end SchemaGen.File
