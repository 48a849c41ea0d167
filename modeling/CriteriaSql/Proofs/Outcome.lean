/-
  Computations that may fail. A success says what each of its steps gave (`bind_eq_ok`,
  `mapM_eq_ok`); two runs agree (`Agree`) if a view of their results is the same wherever both
  succeed, and this is kept by every way of putting steps together.
-/
import Mathlib.Data.List.Forall2

namespace CriteriaSql

variable {ε α β γ δ : Type}

/-! ## Success -/

@[simp] theorem pure_eq_ok {a b : α} : (pure a : Except ε α) = .ok b ↔ a = b := by
  simp [pure, Except.pure]

@[simp] theorem bind_eq_ok {x : Except ε α} {k : α → Except ε β} {b : β} :
    (x >>= k) = .ok b ↔ ∃ a, x = .ok a ∧ k a = .ok b := by
  cases x <;> simp [bind, Except.bind]

@[simp] theorem map_eq_ok {x : Except ε α} {f : α → β} {b : β} :
    x.map f = .ok b ↔ ∃ a, x = .ok a ∧ f a = b := by
  cases x <;> simp [Except.map]

theorem map_eq_error {x : Except ε α} {f : α → β} {e : ε} :
    x.map f = .error e ↔ x = .error e := by
  cases x <;> simp [Except.map]

theorem map_eq_self {x : Except ε α} {f : α → α} (h : ∀ a, x = .ok a → f a = a) : x.map f = x := by
  cases x with
  | error e => rfl
  | ok a => exact congrArg Except.ok (h a rfl)

theorem bind_pure_eq_error {x : Except ε α} {f : α → β} {e : ε} :
    (x >>= fun a => pure (f a)) = .error e ↔ x = .error e := by
  cases x <;> simp [bind, Except.bind, pure, Except.pure]

/-- Of two steps the first one that fails decides. -/
theorem bind₂_eq_error_iff {x : Except ε α} {y : Except ε β} {f : α → β → γ}
    {first second : Option ε} {e : ε} (hx : ∀ e, x = .error e ↔ first = some e)
    (hy : y = .error e ↔ second = some e) :
    (do let a ← x; let b ← y; pure (f a b)) = .error e ↔ first.or second = some e := by
  cases x with
  | error e' =>
    rw [(hx e').1 rfl]
    simp [bind, Except.bind]
  | ok a =>
    have hnone : first = none := by
      refine Option.eq_none_iff_forall_ne_some.2 fun e' hfirst => ?_
      cases (hx e').2 hfirst
    rw [hnone, Option.none_or, ← hy]
    exact bind_pure_eq_error

@[simp] theorem mapError_eq_ok {f : ε → γ} {x : Except ε α} {a : α} :
    Except.mapError f x = .ok a ↔ x = .ok a := by
  unfold Except.mapError
  split <;> simp

theorem ok_unique {x : Except ε α} {a b : α} (ha : x = .ok a) (hb : x = .ok b) : a = b :=
  Except.ok.inj (ha.symm.trans hb)

theorem mapM_eq_ok {f : α → Except ε β} {xs : List α} {ys : List β} :
    xs.mapM f = .ok ys ↔ List.Forall₂ (fun x y => f x = .ok y) xs ys := by
  induction xs generalizing ys with
  | nil => rw [List.mapM_nil, pure_eq_ok, List.forall₂_nil_left_iff, eq_comm]
  | cons x xs ih =>
    rw [List.mapM_cons]
    simp only [bind_eq_ok, pure_eq_ok, ih, List.forall₂_cons_left_iff]
    constructor
    · intro ⟨y, hy, ys', hys, h⟩
      exact ⟨y, ys', hy, hys, h.symm⟩
    · intro ⟨y, ys', hy, hys, h⟩
      exact ⟨y, hy, ys', hys, h.symm⟩

/-- Every result of a traversal comes from one of its inputs. -/
theorem exists_of_mem_mapM {f : α → Except ε β} {xs : List α} {ys : List β}
    (h : xs.mapM f = .ok ys) {y : β} (hy : y ∈ ys) : ∃ x ∈ xs, f x = .ok y := by
  rw [mapM_eq_ok] at h
  induction h with
  | nil => simp at hy
  | cons hxy _ ih =>
    rcases List.mem_cons.1 hy with rfl | hy
    · exact ⟨_, List.mem_cons_self, hxy⟩
    · obtain ⟨x, hx, hf⟩ := ih hy
      exact ⟨x, List.mem_cons_of_mem _ hx, hf⟩

/-- Every input of a traversal has a result among its results. -/
theorem exists_mem_of_mapM {f : α → Except ε β} {xs : List α} {ys : List β}
    (h : xs.mapM f = .ok ys) {x : α} (hx : x ∈ xs) : ∃ y ∈ ys, f x = .ok y := by
  rw [mapM_eq_ok] at h
  induction h with
  | nil => simp at hx
  | cons hxy _ ih =>
    rcases List.mem_cons.1 hx with rfl | hx
    · exact ⟨_, List.mem_cons_self, hxy⟩
    · obtain ⟨y, hy, hf⟩ := ih hx
      exact ⟨y, List.mem_cons_of_mem _ hy, hf⟩

/-- A traversal succeeds exactly where each of its inputs does. -/
theorem exists_mapM_iff {f : α → Except ε β} {xs : List α} :
    (∃ ys, xs.mapM f = .ok ys) ↔ ∀ x ∈ xs, ∃ y, f x = .ok y := by
  constructor
  · rintro ⟨ys, hys⟩ x hx
    obtain ⟨y, -, hy⟩ := exists_mem_of_mapM hys hx
    exact ⟨y, hy⟩
  · intro hall
    induction xs with
    | nil => exact ⟨[], rfl⟩
    | cons x xs ih =>
      obtain ⟨y, hy⟩ := hall x List.mem_cons_self
      obtain ⟨ys, hys⟩ := ih fun x hx => hall x (List.mem_cons_of_mem _ hx)
      rw [mapM_eq_ok] at hys
      exact ⟨y :: ys, mapM_eq_ok.2 (.cons hy hys)⟩

/-- A traversal fails with the error of the first input that has one. -/
theorem mapM_eq_error {f : α → Except ε β} {xs : List α} {e : ε} :
    xs.mapM f = .error e ↔
      ∃ before x after, xs = before ++ x :: after ∧ (∀ b ∈ before, ∃ y, f b = .ok y) ∧
        f x = .error e := by
  constructor
  · intro h
    induction xs with
    | nil => cases h
    | cons x xs ih =>
      rw [List.mapM_cons] at h
      cases hx : f x with
      | error e' =>
        rw [hx] at h
        cases h
        exact ⟨[], x, xs, rfl, by simp, hx⟩
      | ok y =>
        rw [hx] at h
        have hxs : xs.mapM f = .error e := by
          cases hrest : xs.mapM f with
          | error e' =>
            rw [hrest] at h
            exact h
          | ok ys =>
            rw [hrest] at h
            cases h
        obtain ⟨before, x', after, rfl, hbefore, hx'⟩ := ih hxs
        exact ⟨x :: before, x', after, rfl, List.forall_mem_cons.2 ⟨⟨y, hx⟩, hbefore⟩, hx'⟩
  · rintro ⟨before, x, after, rfl, hbefore, hx⟩
    obtain ⟨ys, hys⟩ := exists_mapM_iff.2 hbefore
    rw [List.mapM_append, hys, List.mapM_cons, hx]
    rfl

/-- The place of an input is the place of its result. -/
theorem getElem?_of_forall₂ {R : α → β → Prop} {xs : List α} {ys : List β}
    (h : List.Forall₂ R xs ys) {place : Nat} {x : α} (hx : xs[place]? = some x) :
    ∃ y, ys[place]? = some y ∧ R x y := by
  induction h generalizing place with
  | nil => cases hx
  | @cons x' y' xs ys hxy _ ih =>
    cases place with
    | zero =>
      cases hx
      exact ⟨y', rfl, hxy⟩
    | succ place => exact ih hx

theorem length_of_mapM {f : α → Except ε β} {xs : List α} {ys : List β}
    (h : xs.mapM f = .ok ys) : ys.length = xs.length :=
  (mapM_eq_ok.1 h).length_eq.symm

/-- A traversal of some of the inputs gives their results, where these can be told apart alike. -/
theorem mapM_filter {f : α → Except ε β} {p : α → Bool} {q : β → Bool} {xs : List α} {ys : List β}
    (h : xs.mapM f = .ok ys) (hpq : ∀ x y, f x = .ok y → q y = p x) :
    (xs.filter p).mapM f = .ok (ys.filter q) := by
  rw [mapM_eq_ok] at h ⊢
  induction h with
  | nil => exact .nil
  | @cons x y xs ys hxy _ ih =>
    rw [List.filter_cons, List.filter_cons, hpq x y hxy]
    split
    · exact .cons hxy ih
    · exact ih

theorem mapM_congr {f g : α → Except ε β} {xs : List α} (h : ∀ x ∈ xs, f x = g x) :
    xs.mapM f = xs.mapM g := by
  induction xs with
  | nil => rfl
  | cons x xs ih =>
    rw [List.mapM_cons, List.mapM_cons, h x List.mem_cons_self,
      ih fun y hy => h y (List.mem_cons_of_mem _ hy)]

/-- A view of each result of a traversal is a view of all of them. -/
theorem mapM_map (f : α → Except ε β) (view : β → γ) (xs : List α) :
    (xs.mapM fun x => (f x).map view) = (xs.mapM f).map (List.map view) := by
  induction xs with
  | nil => rfl
  | cons x xs ih =>
    rw [List.mapM_cons, List.mapM_cons, ih]
    cases f x with
    | error e => rfl
    | ok y => cases xs.mapM f <;> rfl

theorem option_mapM_eq_ok {f : α → Except ε β} {x : Option α} {y : Option β} :
    x.mapM f = .ok y ↔ x = none ∧ y = none ∨ ∃ a b, x = some a ∧ y = some b ∧ f a = .ok b := by
  cases x with
  | none => rw [Option.mapM_none, pure_eq_ok]; simp [eq_comm]
  | some a =>
    cases h : f a with
    | error e => simp [h, Functor.map, Except.map]
    | ok b => simp [h, Functor.map, Except.map, eq_comm]

/-- What may be missing is missing from the results as well. -/
theorem toList_mapM_eq_ok {f : α → Except ε β} {x : Option α} {ys : List β} :
    x.toList.mapM f = .ok ys ↔ ∃ y, x.mapM f = .ok y ∧ y.toList = ys := by
  cases x with
  | none => simp
  | some a =>
    constructor
    · intro h
      rw [Option.toList_some, mapM_eq_ok, List.forall₂_cons_left_iff] at h
      obtain ⟨b, rest, hb, hrest, rfl⟩ := h
      rw [List.forall₂_nil_left_iff.1 hrest]
      exact ⟨some b, option_mapM_eq_ok.2 (Or.inr ⟨a, b, rfl, rfl, hb⟩), rfl⟩
    · rintro ⟨y, hy, rfl⟩
      obtain ⟨hnone, -⟩ | ⟨a', b, ha, rfl, hb⟩ := option_mapM_eq_ok.1 hy
      · cases hnone
      · cases ha
        exact mapM_eq_ok.2 (.cons hb .nil)

/-! ## Two runs -/

/-- Wherever both runs succeed, the view of their results is the same. -/
def Agree (view : α → β) (x y : Except ε α) : Prop :=
  ∀ a b, x = .ok a → y = .ok b → view a = view b

namespace Agree

theorem refl (view : α → β) (x : Except ε α) : Agree view x x := by
  intro a b ha hb
  rw [ok_unique ha hb]

theorem ok {view : α → β} {a b : α} (h : view a = view b) :
    Agree view (.ok a : Except ε α) (.ok b) := by
  intro a' b' ha hb
  cases ha
  cases hb
  exact h

/-- Two steps may be followed by steps that agree on whatever they give. -/
theorem bind_of {view : γ → δ} {x y : Except ε α} {k l : α → Except ε γ}
    (hk : ∀ a b, x = .ok a → y = .ok b → Agree view (k a) (l b)) :
    Agree view (x >>= k) (y >>= l) := by
  intro c d hc hd
  obtain ⟨a, ha, hc⟩ := bind_eq_ok.1 hc
  obtain ⟨b, hb, hd⟩ := bind_eq_ok.1 hd
  exact hk a b ha hb c d hc hd

/-- Steps whose views agree may be followed by steps that agree on results of the same view. -/
theorem bind {view : α → β} {view' : γ → δ} {x y : Except ε α} {k l : α → Except ε γ}
    (h : Agree view x y) (hk : ∀ a b, view a = view b → Agree view' (k a) (l b)) :
    Agree view' (x >>= k) (y >>= l) :=
  bind_of fun a b ha hb => hk a b (h a b ha hb)

/-- A step that both runs share may be followed by steps that agree on its result. -/
theorem bind_same {view : γ → δ} {x : Except ε α} {k l : α → Except ε γ}
    (hk : ∀ a, x = .ok a → Agree view (k a) (l a)) : Agree view (x >>= k) (x >>= l) := by
  refine bind_of fun a b ha hb => ?_
  rw [← ok_unique ha hb]
  exact hk a ha

theorem map {view : α → β} {view' : γ → δ} {f g : α → γ} {x y : Except ε α}
    (h : Agree view x y) (hf : ∀ a b, view a = view b → view' (f a) = view' (g b)) :
    Agree view' (x.map f) (y.map g) := by
  intro c d hc hd
  obtain ⟨a, ha, rfl⟩ := map_eq_ok.1 hc
  obtain ⟨b, hb, rfl⟩ := map_eq_ok.1 hd
  exact hf a b (h a b ha hb)

theorem mapM (view : β → γ) {f g : α → Except ε β} (xs : List α)
    (h : ∀ x ∈ xs, Agree view (f x) (g x)) :
    Agree (List.map view) (xs.mapM f) (xs.mapM g) := by
  induction xs with
  | nil => exact ok rfl
  | cons x xs ih =>
    rw [List.mapM_cons, List.mapM_cons]
    refine bind (h x List.mem_cons_self) fun a b hab => ?_
    refine bind (ih fun x hx => h x (List.mem_cons_of_mem _ hx)) fun as bs habs => ?_
    exact ok (by rw [List.map_cons, List.map_cons, hab, habs])

end Agree

end CriteriaSql
