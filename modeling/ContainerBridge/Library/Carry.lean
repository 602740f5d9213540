import Mathlib.Data.List.Forall2

/-! Conversions that can fail, in `Except ε`, and two conversions in a row. `Carries` says that a
value crosses from one type to another and back, `Recovers` that it comes back if it crosses at
all, and both lift to options and lists. -/

namespace Carry

variable {ε α β γ : Type}

@[simp] theorem ok_bind (a : α) (f : α → Except ε β) : (Except.ok a >>= f) = f a := rfl

@[simp] theorem error_bind (e : ε) (f : α → Except ε β) :
    (Except.error e >>= f) = Except.error e := rfl

@[simp] theorem ok_map (a : α) (f : α → β) : f <$> (Except.ok a : Except ε α) = .ok (f a) := rfl

@[simp] theorem pure_eq_ok (a : α) : (pure a : Except ε α) = .ok a := rfl

theorem bind_eq_ok {x : Except ε α} {f : α → Except ε β} {b : β} :
    x >>= f = .ok b ↔ ∃ a, x = .ok a ∧ f a = .ok b := by
  cases x <;> simp

theorem map_eq_ok {x : Except ε α} {f : α → β} {b : β} :
    f <$> x = .ok b ↔ ∃ a, x = .ok a ∧ f a = b := by
  cases x <;> simp

/-- A list is converted to `ys` exactly when each element is converted to the one at its
place. -/
theorem mapM_eq_ok {f : α → Except ε β} {xs : List α} {ys : List β} :
    xs.mapM f = .ok ys ↔ List.Forall₂ (fun x y => f x = .ok y) xs ys := by
  induction xs generalizing ys with
  | nil =>
    simp only [List.mapM_nil, pure_eq_ok, Except.ok.injEq, List.forall₂_nil_left_iff]
    exact eq_comm
  | cons x xs ih =>
    simp only [List.mapM_cons, bind_eq_ok, pure_eq_ok, Except.ok.injEq, List.forall₂_cons_left_iff,
      ih]
    constructor
    · rintro ⟨y, hy, ys', hys, rfl⟩
      exact ⟨y, ys', hy, hys, rfl⟩
    · rintro ⟨y, ys', hy, hys, rfl⟩
      exact ⟨y, hy, ys', hys, rfl⟩

theorem optionMapM_eq_ok {f : α → Except ε β} {o : Option α} {p : Option β} :
    o.mapM f = .ok p ↔ Option.Rel (fun x y => f x = .ok y) o p := by
  cases o with
  | none =>
    constructor
    · intro h
      cases h
      exact .none
    · rintro ⟨⟩
      rfl
  | some a =>
    simp only [Option.mapM_some, map_eq_ok]
    constructor
    · rintro ⟨b, hb, rfl⟩
      exact .some hb
    · rintro ⟨hb⟩
      exact ⟨_, hb, rfl⟩

theorem rel_mono {r s : α → β → Prop} (h : ∀ a b, r a b → s a b) {o : Option α} {p : Option β}
    (hr : Option.Rel r o p) : Option.Rel s o p := by
  cases hr with
  | none => exact .none
  | some hab => exact .some (h _ _ hab)

/-- A computation that is repeated gives the same result. -/
@[simp] theorem bind_same (x : Except ε α) (f : α → α → Except ε β) :
    (x >>= fun a => x >>= fun b => f a b) = x >>= fun a => f a a := by
  cases x <;> rfl

/-- A conversion that never fails converts a list as `List.map` does. -/
@[simp] theorem mapM_ok (f : α → β) (xs : List α) :
    xs.mapM (fun x => (.ok (f x) : Except ε β)) = .ok (xs.map f) := by
  induction xs with
  | nil => rfl
  | cons x xs ih => simp [ih]

@[simp] theorem mapM_eq_self {f : α → Except ε α} (h : ∀ x, f x = .ok x) (xs : List α) :
    xs.mapM f = .ok xs := by
  rw [funext h, mapM_ok, List.map_id']

@[simp] theorem optionMapM_ok (f : α → β) (o : Option α) :
    o.mapM (fun x => (.ok (f x) : Except ε β)) = .ok (o.map f) := by
  cases o <;> rfl

@[simp] theorem optionMapM_eq_self {f : α → Except ε α} (h : ∀ x, f x = .ok x) (o : Option α) :
    o.mapM f = .ok o := by
  rw [funext h, optionMapM_ok, Option.map_id']

/-- A loop over a list, by the state it is in once it has done each of the list's beginnings. -/
theorem foldlM_states {σ : Type} (step : σ → α → Except ε σ) (state : List α → σ)
    (h : ∀ done a, step (state done) a = .ok (state (done ++ [a]))) (xs : List α) :
    xs.foldlM step (state []) = .ok (state xs) := by
  suffices ∀ done, xs.foldlM step (state done) = .ok (state (done ++ xs)) from this []
  induction xs with
  | nil => simp
  | cons x xs ih =>
    intro done
    rw [List.foldlM_cons, h, ok_bind, ih, List.append_assoc, List.singleton_append]

theorem foldl_states {σ : Type} (step : σ → α → σ) (state : List α → σ)
    (h : ∀ done a, step (state done) a = state (done ++ [a])) (xs : List α) :
    xs.foldl step (state []) = state xs := by
  suffices ∀ done, xs.foldl step (state done) = state (done ++ xs) from this []
  induction xs with
  | nil => simp
  | cons x xs ih =>
    intro done
    rw [List.foldl_cons, h, ih, List.append_assoc, List.singleton_append]

/-- `f` makes `b` of `g b`, and of nothing else. -/
def Inverts (f : α → Except ε β) (g : β → α) : Prop :=
  ∀ a b, f a = .ok b ↔ g b = a

theorem Inverts.option {f : α → Except ε β} {g : β → α} (h : Inverts f g) :
    Inverts (Option.mapM f) (Option.map g) := by
  intro o p
  rw [optionMapM_eq_ok]
  cases o with
  | none => cases p <;> simp
  | some a => cases p <;> simp [h a]

/-- `x` stops only with errors that are `P`. -/
def StopsOnly (P : ε → Prop) (x : Except ε α) : Prop :=
  ∀ e, x = .error e → P e

section StopsOnly

variable {P : ε → Prop}

@[simp] theorem StopsOnly.ok (a : α) : StopsOnly P (.ok a : Except ε α) := nofun

theorem StopsOnly.error {e : ε} (h : P e) : StopsOnly P (.error e : Except ε α) := by
  rintro _ ⟨⟩
  exact h

theorem StopsOnly.exists_ok {x : Except ε α} (h : StopsOnly (fun _ => False) x) :
    ∃ a, x = .ok a := by
  cases x with
  | ok a => exact ⟨a, rfl⟩
  | error e => exact (h e rfl).elim

theorem StopsOnly.bind {x : Except ε α} {f : α → Except ε β} (hx : StopsOnly P x)
    (hf : ∀ a, x = .ok a → StopsOnly P (f a)) : StopsOnly P (x >>= f) := by
  cases x with
  | ok a => exact hf a rfl
  | error e => exact .error (hx e rfl)

theorem StopsOnly.map {x : Except ε α} (hx : StopsOnly P x) (f : α → β) :
    StopsOnly P (f <$> x) := by
  cases x with
  | ok a => exact .ok _
  | error e => exact .error (hx e rfl)

theorem StopsOnly.list {f : α → Except ε β} {xs : List α} (h : ∀ x ∈ xs, StopsOnly P (f x)) :
    StopsOnly P (xs.mapM f) := by
  induction xs with
  | nil => exact .ok _
  | cons x xs ih =>
    rw [List.mapM_cons]
    exact (h x (by simp)).bind fun y _ =>
      (ih fun x hx => h x (List.mem_cons_of_mem _ hx)).bind fun ys _ => .ok _

theorem StopsOnly.option {f : α → Except ε β} {o : Option α} (h : ∀ x ∈ o, StopsOnly P (f x)) :
    StopsOnly P (o.mapM f) := by
  cases o with
  | none => exact .ok _
  | some x => exact (h x rfl).map _

end StopsOnly

/-- `send` accepts `a`, and `receive` reads what it made as `c`. -/
def Carries (send : α → Except ε β) (receive : β → Except ε γ) (a : α) (c : γ) : Prop :=
  ∃ b, send a = .ok b ∧ receive b = .ok c

variable {send : α → Except ε β} {receive : β → Except ε γ}

/-- An optional value crosses when what it holds does. -/
theorem Carries.option {a : Option α} {c : Option γ} (h : Option.Rel (Carries send receive) a c) :
    Carries (·.mapM send) (·.mapM receive) a c := by
  cases h with
  | none => exact ⟨none, rfl, rfl⟩
  | some h =>
    obtain ⟨b, hb, hc⟩ := h
    exact ⟨some b, by simp [hb], by simp [hc]⟩

/-- A list crosses when each of its elements does. -/
theorem Carries.list {as : List α} {cs : List γ} (h : List.Forall₂ (Carries send receive) as cs) :
    Carries (·.mapM send) (·.mapM receive) as cs := by
  induction h with
  | nil => exact ⟨[], rfl, rfl⟩
  | cons h _ ih =>
    obtain ⟨b, hb, hc⟩ := h
    obtain ⟨bs, hbs, hcs⟩ := ih
    exact ⟨b :: bs, by simp only [List.mapM_cons, hb, hbs, ok_bind, pure_eq_ok],
      by simp only [List.mapM_cons, hc, hcs, ok_bind, pure_eq_ok]⟩

theorem Carries.list_map {g : α → γ} {as : List α} (h : ∀ a ∈ as, Carries send receive a (g a)) :
    Carries (·.mapM send) (·.mapM receive) as (as.map g) :=
  Carries.list (List.forall₂_map_right_iff.mpr (List.forall₂_same.mpr h))

theorem Carries.option_map {g : α → γ} {a : Option α}
    (h : ∀ x ∈ a, Carries send receive x (g x)) :
    Carries (·.mapM send) (·.mapM receive) a (a.map g) := by
  refine Carries.option ?_
  cases a with
  | none => exact .none
  | some x => exact .some (h x rfl)

/-- A list crosses unchanged when each of its elements does. -/
theorem Carries.list_self {receive : β → Except ε α} {as : List α}
    (h : ∀ a ∈ as, Carries send receive a a) : Carries (·.mapM send) (·.mapM receive) as as := by
  simpa using Carries.list_map (g := id) h

theorem Carries.option_self {receive : β → Except ε α} {a : Option α}
    (h : ∀ x ∈ a, Carries send receive x x) : Carries (·.mapM send) (·.mapM receive) a a := by
  simpa using Carries.option_map (g := id) h

end Carry
