import Mathlib.Data.List.Forall2

/-!
# Steps that may fail

What a chain of steps gives when none of them fails: the second of two steps goes
on from the first (`bind_eq_ok`), and a step for every item of a list gives a list
item by item (`mapM_eq_ok_iff`). A fold is an induction over its list: what the
steps keep holds in the end (`foldlM_induction`), of the items gone through so far
as well (`foldlM_front_induction`). Both are there for steps with a state of
their own too (`forall₂_of_run_mapM`, `run_foldlM_front_induction`).
-/

namespace SchemaGen

variable {α β ε : Type}

/-- A step that follows another one gives what it makes of the first result. -/
theorem bind_eq_ok {x : Except ε α} {f : α → Except ε β} {b : β} :
    (x >>= f) = .ok b ↔ ∃ a, x = .ok a ∧ f a = .ok b := by
  cases x with
  | error e => exact ⟨nofun, fun ⟨_, other, _⟩ => nomatch other⟩
  | ok a => exact ⟨fun done => ⟨a, rfl, done⟩, fun ⟨_, same, done⟩ => by cases same; exact done⟩

/-- What is made of a result is made of one. -/
theorem map_eq_ok {x : Except ε α} {f : α → β} {b : β} :
    x.map f = .ok b ↔ ∃ a, x = .ok a ∧ f a = b := by
  cases x with
  | error _ => simp [Except.map]
  | ok a => simp [Except.map]

theorem map_eq_error {x : Except ε α} {f : α → β} {e : ε} :
    x.map f = .error e ↔ x = .error e := by
  cases x <;> simp [Except.map]

/-- One of two steps fails. -/
theorem bind_eq_error {x : Except ε α} {f : α → Except ε β} {e : ε} :
    (x >>= f) = .error e ↔ x = .error e ∨ ∃ a, x = .ok a ∧ f a = .error e := by
  cases x with
  | error _ => simp [bind, Except.bind]
  | ok a => simp [bind, Except.bind]

/-- A fold fails at one of its items. -/
theorem exists_error_of_foldlM {f : β → α → Except ε β} {xs : List α} {b : β} {e : ε}
    (failed : xs.foldlM f b = .error e) : ∃ x ∈ xs, ∃ b, f b x = .error e := by
  induction xs generalizing b with
  | nil => cases failed
  | cons x rest ih =>
    rw [List.foldlM_cons, bind_eq_error] at failed
    rcases failed with here | ⟨_, _, later⟩
    · exact ⟨x, List.mem_cons_self, b, here⟩
    · obtain ⟨y, member, there⟩ := ih later
      exact ⟨y, List.mem_cons_of_mem x member, there⟩

/-- A step for every item gives the results in their order. -/
theorem mapM_eq_ok_iff {f : α → Except ε β} {xs : List α} {ys : List β} :
    xs.mapM f = .ok ys ↔ List.Forall₂ (fun x y => f x = .ok y) xs ys := by
  induction xs generalizing ys with
  | nil =>
    rw [List.mapM_nil, List.forall₂_nil_left_iff]
    exact ⟨fun done => (Except.ok.inj done).symm, fun empty => empty ▸ rfl⟩
  | cons x rest ih =>
    rw [List.mapM_cons, bind_eq_ok]
    simp only [bind_eq_ok, ih]
    constructor
    · rintro ⟨y, first, others, later, same⟩
      cases same
      exact .cons first later
    · rintro (_ | ⟨first, later⟩)
      exact ⟨_, first, _, later, rfl⟩

/-- Steps for every item fail at one of them. -/
theorem exists_error_of_mapM {f : α → Except ε β} {xs : List α} {e : ε}
    (failed : xs.mapM f = .error e) : ∃ x ∈ xs, f x = .error e := by
  induction xs with
  | nil => cases failed
  | cons x rest ih =>
    rw [List.mapM_cons, bind_eq_error] at failed
    rcases failed with here | ⟨_, _, later⟩
    · exact ⟨x, List.mem_cons_self, here⟩
    · rcases bind_eq_error.mp later with later | ⟨_, _, last⟩
      · obtain ⟨y, member, there⟩ := ih later
        exact ⟨y, List.mem_cons_of_mem x member, there⟩
      · cases last

/-- Each result has an item that it comes of. -/
theorem exists_left {R : α → β → Prop} {xs : List α} {ys : List β}
    (pairs : List.Forall₂ R xs ys) {y : β} (member : y ∈ ys) : ∃ x ∈ xs, R x y := by
  induction pairs with
  | nil => cases member
  | cons here _ ih =>
    rcases List.mem_cons.mp member with rfl | member
    · exact ⟨_, List.mem_cons_self, here⟩
    · obtain ⟨x, member, here⟩ := ih member
      exact ⟨x, List.mem_cons_of_mem _ member, here⟩

/-- What holds at the start and is kept by every step holds at the end. -/
theorem foldlM_induction {f : β → α → Except ε β} {P : β → Prop}
    (keep : ∀ b a b', P b → f b a = .ok b' → P b') {xs : List α} {b b' : β} (start : P b)
    (folded : xs.foldlM f b = .ok b') : P b' := by
  induction xs generalizing b with
  | nil =>
    cases folded
    exact start
  | cons a rest ih =>
    obtain ⟨b₁, first, others⟩ := bind_eq_ok.mp (List.foldlM_cons.symm.trans folded)
    exact ih (keep b a b₁ start first) others

/-- What holds of no items at the start, and is kept by every step of the items so
far, holds of all items at the end. -/
theorem foldlM_front_induction {f : β → α → Except ε β} {P : List α → β → Prop}
    (keep : ∀ front b a b', P front b → f b a = .ok b' → P (front ++ [a]) b') {xs : List α}
    {b b' : β} (start : P [] b) (folded : xs.foldlM f b = .ok b') : P xs b' := by
  have general : ∀ (rest front : List α) (b : β), P front b → rest.foldlM f b = .ok b' →
      P (front ++ rest) b' := by
    intro rest
    induction rest with
    | nil =>
      intro front b holds folded
      cases folded
      rwa [List.append_nil]
    | cons a rest ih =>
      intro front b holds folded
      obtain ⟨b₁, first, others⟩ := bind_eq_ok.mp (List.foldlM_cons.symm.trans folded)
      rw [← List.singleton_append, ← List.append_assoc]
      exact ih _ b₁ (keep front b a b₁ holds first) others
  exact general xs [] b start folded

/-! ## Steps with a state -/

section

variable {σ : Type}

theorem run_bind_eq_ok {x : StateT σ (Except ε) α} {f : α → StateT σ (Except ε) β} {b : β}
    {s s' : σ} : (x >>= f).run s = .ok (b, s') ↔
      ∃ a s₁, x.run s = .ok (a, s₁) ∧ (f a).run s₁ = .ok (b, s') := by
  rw [StateT.run_bind, bind_eq_ok]
  exact Prod.exists

/-- What every step ensures of an item and its result holds item by item. -/
theorem forall₂_of_run_mapM {f : α → StateT σ (Except ε) β} {R : α → β → Prop}
    (ensures : ∀ a s b s', (f a).run s = .ok (b, s') → R a b) {xs : List α} {ys : List β}
    {s s' : σ} (run : (xs.mapM f).run s = .ok (ys, s')) : List.Forall₂ R xs ys := by
  induction xs generalizing s ys with
  | nil =>
    cases run
    exact .nil
  | cons x rest ih =>
    rw [List.mapM_cons] at run
    obtain ⟨y, s₁, first, later⟩ := run_bind_eq_ok.mp run
    obtain ⟨others, s₂, later, last⟩ := run_bind_eq_ok.mp later
    cases last
    exact .cons (ensures x s y s₁ first) (ih later)

/-- `foldlM_front_induction` for steps that keep a state of their own. -/
theorem run_foldlM_front_induction {f : β → α → StateT σ (Except ε) β} {P : List α → β → Prop}
    (keep : ∀ front b a s b' s', P front b → (f b a).run s = .ok (b', s') → P (front ++ [a]) b')
    {xs : List α} {b b' : β} {s s' : σ} (start : P [] b)
    (run : (xs.foldlM f b).run s = .ok (b', s')) : P xs b' := by
  have paired : ∀ (xs : List α) (b : β) (s : σ),
      (xs.foldlM f b).run s =
        xs.foldlM (fun (sofar : β × σ) a => (f sofar.1 a).run sofar.2) (b, s) := by
    intro xs
    induction xs with
    | nil => exact fun b s => rfl
    | cons a rest ih =>
      intro b s
      rw [List.foldlM_cons, List.foldlM_cons, StateT.run_bind]
      exact congrArg _ (funext fun next => ih next.1 next.2)
  rw [paired] at run
  exact foldlM_front_induction (P := fun front sofar => P front sofar.1)
    (fun front sofar a next holds step => keep front sofar.1 a sofar.2 next.1 next.2 holds step)
    start run

end

end SchemaGen
