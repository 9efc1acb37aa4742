/-!
# Outcomes

Laws of computations that end with a value or with an error.  A computation that succeeds is taken
apart into the steps that succeeded, and one that fails into the step that failed.  `Raises` bounds
the errors of a computation from above.  Computations agree up to the kind of their errors when they
are equal once `Except.mapError` has replaced each error by its kind.
-/

namespace RecordQuery.Outcome

variable {ε α β : Type}

/-- A sequence succeeds exactly when both of its steps do. -/
theorem bind_eq_ok {x : Except ε α} {f : α → Except ε β} {b : β} :
    (x >>= f) = .ok b ↔ ∃ a, x = .ok a ∧ f a = .ok b := by
  cases x with
  | error e => simp [bind, Except.bind]
  | ok a => simp [bind, Except.bind]

/-- A mapped computation succeeds exactly when the computation does. -/
theorem map_eq_ok {x : Except ε α} {f : α → β} {b : β} :
    x.map f = .ok b ↔ ∃ a, x = .ok a ∧ f a = b := by
  cases x with
  | error e => simp [Except.map]
  | ok a => simp [Except.map]

/-- Mapping leaves the errors as they are. -/
theorem map_eq_error {x : Except ε α} {f : α → β} {e : ε} :
    x.map f = .error e ↔ x = .error e := by
  cases x with
  | error e' => simp [Except.map]
  | ok a => simp [Except.map]

/-- Every result of a successful walk through a list comes from an element of the list. -/
theorem exists_of_mem_mapM_ok {f : α → Except ε β} {xs : List α} {ys : List β}
    (h : xs.mapM f = .ok ys) {y : β} (hy : y ∈ ys) : ∃ x ∈ xs, f x = .ok y := by
  induction xs generalizing ys with
  | nil =>
    rw [List.mapM_nil] at h
    cases h
    exact absurd hy List.not_mem_nil
  | cons x xs ih =>
    rw [List.mapM_cons] at h
    obtain ⟨b, hb, h⟩ := bind_eq_ok.1 h
    obtain ⟨bs, hbs, h⟩ := bind_eq_ok.1 h
    cases h
    rcases List.mem_cons.1 hy with rfl | hmem
    · exact ⟨x, List.mem_cons_self, hb⟩
    · obtain ⟨x', hx', hf⟩ := ih hbs hmem
      exact ⟨x', List.mem_cons_of_mem x hx', hf⟩

/-- A successful walk through a list gives a result for every element of the list. -/
theorem exists_mem_of_mapM_ok {f : α → Except ε β} {xs : List α} {ys : List β}
    (h : xs.mapM f = .ok ys) {x : α} (hx : x ∈ xs) : ∃ y ∈ ys, f x = .ok y := by
  induction xs generalizing ys with
  | nil => exact absurd hx List.not_mem_nil
  | cons first xs ih =>
    rw [List.mapM_cons] at h
    obtain ⟨b, hb, h⟩ := bind_eq_ok.1 h
    obtain ⟨bs, hbs, h⟩ := bind_eq_ok.1 h
    cases h
    rcases List.mem_cons.1 hx with rfl | hmem
    · exact ⟨b, List.mem_cons_self, hb⟩
    · obtain ⟨y, hy, hf⟩ := ih hbs hmem
      exact ⟨y, List.mem_cons_of_mem b hy, hf⟩

/-- A successful walk through a list gives one result for each element. -/
theorem length_of_mapM_ok {f : α → Except ε β} {xs : List α} {ys : List β}
    (h : xs.mapM f = .ok ys) : ys.length = xs.length := by
  induction xs generalizing ys with
  | nil =>
    rw [List.mapM_nil] at h
    cases h
    rfl
  | cons x xs ih =>
    rw [List.mapM_cons] at h
    obtain ⟨b, -, h⟩ := bind_eq_ok.1 h
    obtain ⟨bs, hbs, h⟩ := bind_eq_ok.1 h
    cases h
    rw [List.length_cons, List.length_cons, ih hbs]

/-- A walk through a list whose steps all succeed gives their results. -/
theorem mapM_eq_ok_map {f : α → Except ε β} {g : α → β} {xs : List α}
    (h : ∀ x ∈ xs, f x = .ok (g x)) : xs.mapM f = .ok (xs.map g) := by
  induction xs with
  | nil => rfl
  | cons x xs ih =>
    rw [List.mapM_cons, h x List.mem_cons_self,
      ih fun other hother => h other (List.mem_cons_of_mem x hother)]
    rfl

/-- A walk through a list whose steps succeed under a condition, each with a known result, succeeds
when all elements satisfy the condition, and gives the known results. -/
theorem mapM_eq_ok_iff {f : α → Except ε β} {P : α → Prop} {g : α → β}
    (h : ∀ x y, f x = .ok y ↔ P x ∧ y = g x) {xs : List α} {ys : List β} :
    xs.mapM f = .ok ys ↔ (∀ x ∈ xs, P x) ∧ ys = xs.map g := by
  constructor
  · intro hok
    have hall : ∀ x ∈ xs, P x := by
      intro x hx
      obtain ⟨y, -, hy⟩ := exists_mem_of_mapM_ok hok hx
      exact ((h x y).1 hy).1
    have hmap := mapM_eq_ok_map fun x hx => (h x (g x)).2 ⟨hall x hx, rfl⟩
    exact ⟨hall, Except.ok.inj (hok.symm.trans hmap)⟩
  · rintro ⟨hall, rfl⟩
    exact mapM_eq_ok_map fun x hx => (h x (g x)).2 ⟨hall x hx, rfl⟩

/-- A fold whose steps succeed under a condition, each with a known next state, succeeds when all
elements satisfy the condition, and ends in the known state. -/
theorem foldlM_eq_ok_iff {σ : Type} {f : σ → α → Except ε σ} {P : α → Prop} {g : σ → α → σ}
    (h : ∀ s x t, f s x = .ok t ↔ P x ∧ t = g s x) {xs : List α} {s t : σ} :
    xs.foldlM f s = .ok t ↔ (∀ x ∈ xs, P x) ∧ t = xs.foldl g s := by
  induction xs generalizing s with
  | nil =>
    rw [List.foldlM_nil, List.foldl_nil]
    constructor
    · rintro ⟨⟩
      exact ⟨List.forall_mem_nil _, rfl⟩
    · rintro ⟨-, rfl⟩
      rfl
  | cons x xs ih =>
    rw [List.foldlM_cons, bind_eq_ok, List.forall_mem_cons, List.foldl_cons, and_assoc, ← ih]
    constructor
    · rintro ⟨next, hx, hxs⟩
      obtain ⟨hP, rfl⟩ := (h s x next).1 hx
      exact ⟨hP, hxs⟩
    · rintro ⟨hP, hxs⟩
      exact ⟨g s x, (h s x _).2 ⟨hP, rfl⟩, hxs⟩

/-- Mapping the results of the steps maps the results of a walk through a list. -/
theorem mapM_map {γ : Type} (g : β → γ) (f : α → Except ε β) (xs : List α) :
    (xs.mapM fun x => (f x).map g) = (xs.mapM f).map (List.map g) := by
  induction xs with
  | nil => rfl
  | cons x xs ih =>
    rw [List.mapM_cons, List.mapM_cons, ih]
    cases f x with
    | error e => rfl
    | ok y => cases xs.mapM f <;> rfl

/-! ### Failures -/

/-- The error of a computation that fails. -/
def failure? : Except ε α → Option ε
  | .ok _ => none
  | .error e => some e

/-- A computation has a failure exactly when it ends with it. -/
theorem failure?_eq_some {x : Except ε α} {e : ε} : failure? x = some e ↔ x = .error e := by
  cases x with
  | error e' => simp [failure?]
  | ok a => simp [failure?]

/-- Mapping leaves the failure as it is. -/
theorem failure?_map (f : α → β) (x : Except ε α) : failure? (x.map f) = failure? x := by
  cases x with
  | error e => rfl
  | ok a => rfl

/-- The error of a walk through a list is that of one of its steps. -/
theorem exists_mem_of_mapM_error {f : α → Except ε β} {xs : List α} {e : ε}
    (h : xs.mapM f = .error e) : ∃ x ∈ xs, f x = .error e := by
  induction xs with
  | nil =>
    rw [List.mapM_nil] at h
    cases h
  | cons x xs ih =>
    rw [List.mapM_cons] at h
    rcases hx : f x with e' | y
    · rw [hx] at h
      cases h
      exact ⟨x, List.mem_cons_self, hx⟩
    · rcases hxs : xs.mapM f with e' | ys
      · rw [hx, hxs] at h
        cases h
        obtain ⟨other, hother, herror⟩ := ih hxs
        exact ⟨other, List.mem_cons_of_mem x hother, herror⟩
      · rw [hx, hxs] at h
        cases h

/-! ### Bounds on errors -/

/-- Every error of the computation satisfies `P`. -/
def Raises (P : ε → Prop) (x : Except ε α) : Prop := ∀ e, x = .error e → P e

variable {P : ε → Prop}

/-- A weaker bound holds of what a stronger one holds of. -/
theorem Raises.mono {Q : ε → Prop} {x : Except ε α} (hx : Raises P x) (h : ∀ e, P e → Q e) :
    Raises Q x := by
  intro e he
  exact h e (hx e he)

/-- A success raises nothing. -/
theorem raises_ok (a : α) : Raises P (.ok a : Except ε α) := by
  intro e h
  cases h

/-- An error raises itself. -/
theorem raises_error {e : ε} (h : P e) : Raises P (.error e : Except ε α) := by
  intro e' he
  cases he
  exact h

/-- A sequence raises what its steps raise. -/
theorem raises_bind {x : Except ε α} {f : α → Except ε β} (hx : Raises P x)
    (hf : ∀ a, Raises P (f a)) : Raises P (x >>= f) := by
  cases x with
  | error e => exact raises_error (hx e rfl)
  | ok a => exact hf a

/-- A mapped computation raises what the computation raises. -/
theorem raises_map {x : Except ε α} (f : α → β) (hx : Raises P x) : Raises P (x.map f) := by
  intro e h
  exact hx e (map_eq_error.1 h)

/-- A walk through a list raises what its steps raise. -/
theorem raises_mapM {f : α → Except ε β} (hf : ∀ a, Raises P (f a)) (xs : List α) :
    Raises P (xs.mapM f) := by
  induction xs with
  | nil =>
    rw [List.mapM_nil]
    exact raises_ok []
  | cons x xs ih =>
    rw [List.mapM_cons]
    refine raises_bind (hf x) ?_
    intro b
    refine raises_bind ih ?_
    intro bs
    exact raises_ok (b :: bs)

/-- A fold raises what its steps raise. -/
theorem raises_foldlM {σ : Type} {f : σ → α → Except ε σ} (hf : ∀ s a, Raises P (f s a))
    (xs : List α) (s : σ) : Raises P (xs.foldlM f s) := by
  induction xs generalizing s with
  | nil => exact raises_ok s
  | cons x xs ih =>
    rw [List.foldlM_cons]
    exact raises_bind (hf s x) ih

/-! ### Kinds of errors -/

variable {κ : Type} {kind : ε → κ}

/-- Sequences agree up to the kind of errors when their steps do. -/
theorem mapError_bind_congr {x y : Except ε α} {f g : α → Except ε β}
    (hx : x.mapError kind = y.mapError kind)
    (hf : ∀ a, (f a).mapError kind = (g a).mapError kind) :
    (x >>= f).mapError kind = (y >>= g).mapError kind := by
  cases x with
  | error e =>
    cases y with
    | error e' => exact congrArg Except.error (Except.error.inj hx)
    | ok b => cases hx
  | ok a =>
    cases y with
    | error e' => cases hx
    | ok b =>
      cases hx
      exact hf a

/-- Mapped computations agree up to the kind of errors when the computations do. -/
theorem mapError_map_congr {x y : Except ε α} (f : α → β)
    (hx : x.mapError kind = y.mapError kind) :
    (x.map f).mapError kind = (y.map f).mapError kind := by
  cases x with
  | error e =>
    cases y with
    | error e' => exact congrArg Except.error (Except.error.inj hx)
    | ok b => cases hx
  | ok a =>
    cases y with
    | error e' => cases hx
    | ok b =>
      cases hx
      rfl

end RecordQuery.Outcome
