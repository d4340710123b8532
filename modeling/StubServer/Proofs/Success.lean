import Mathlib.Data.List.Forall2
import Mathlib.Data.Set.List

namespace StubServer

variable {ε α β : Type}

theorem bind_eq_ok {x : Except ε α} {f : α → Except ε β} {b : β} :
    (x >>= f) = .ok b ↔ ∃ a, x = .ok a ∧ f a = .ok b := by
  cases x <;> simp [bind, Except.bind]

theorem map_eq_ok {x : Except ε α} {f : α → β} {b : β} : f <$> x = .ok b ↔ ∃ a, x = .ok a ∧ f a = b := by
  cases x <;> simp [Functor.map, Except.map]

theorem mapError_eq_ok {ε' : Type} {x : Except ε α} {f : ε → ε'} {a : α} :
    x.mapError f = .ok a ↔ x = .ok a := by
  cases x <;> simp [Except.mapError]

theorem mapM_eq_ok {f : α → Except ε β} {items : List α} {made : List β} :
    items.mapM f = .ok made ↔ List.Forall₂ (fun a b => f a = .ok b) items made := by
  induction items generalizing made with
  | nil => simp [pure, Except.pure, eq_comm]
  | cons a rest ih =>
    rw [List.mapM_cons, bind_eq_ok, List.forall₂_cons_left_iff]
    constructor
    · rintro ⟨first, hfirst, h⟩
      obtain ⟨more, hmore, h⟩ := bind_eq_ok.mp h
      cases h
      exact ⟨first, more, hfirst, ih.mp hmore, rfl⟩
    · rintro ⟨first, more, hfirst, hmore, rfl⟩
      exact ⟨first, hfirst, bind_eq_ok.mpr ⟨more, ih.mpr hmore, rfl⟩⟩

section Lists

variable {r s : α → β → Prop} {xs : List α} {ys : List β}

theorem exists_of_mem_right (h : List.Forall₂ r xs ys) : ∀ y ∈ ys, ∃ x ∈ xs, r x y := by
  induction h with
  | nil => exact fun y hy => absurd hy List.not_mem_nil
  | cons hxy hrest ih =>
    refine List.forall_mem_cons.mpr ⟨⟨_, List.mem_cons_self, hxy⟩, fun y hy => ?_⟩
    obtain ⟨x, hx, hxy⟩ := ih y hy
    exact ⟨x, List.mem_cons_of_mem _ hx, hxy⟩

theorem exists_of_mem_left (h : List.Forall₂ r xs ys) : ∀ x ∈ xs, ∃ y ∈ ys, r x y :=
  exists_of_mem_right (List.Forall₂.flip (R := flip r) h)

theorem forall₂_of_forall_mem (h : List.Forall₂ r xs ys) (hrs : ∀ y ∈ ys, ∀ x, r x y → s x y) :
    List.Forall₂ s xs ys := by
  induction h with
  | nil => exact .nil
  | cons hxy hrest ih =>
    obtain ⟨hfirst, hmore⟩ := List.forall_mem_cons.mp hrs
    exact .cons (hfirst _ hxy) (ih hmore)

end Lists

/-- The step comes to a result, and it is one of these. -/
def Gives (p : α → Prop) (x : Except ε α) : Prop := ∃ a, x = .ok a ∧ p a

section Gives

variable {p : β → Prop} {q : Prop} {x : Except ε α}

theorem gives_ok {b : β} : Gives p (.ok b : Except ε β) ↔ p b := by
  simp [Gives]

theorem gives_error {e : ε} : ¬Gives p (.error e) :=
  fun ⟨_, h, _⟩ => nomatch h

theorem gives_bind {f : α → Except ε β} : Gives p (x >>= f) ↔ Gives (fun a => Gives p (f a)) x := by
  simp only [Gives, bind_eq_ok]
  constructor
  · rintro ⟨b, ⟨a, ha, hb⟩, hp⟩
    exact ⟨a, ha, b, hb, hp⟩
  · rintro ⟨a, ha, b, hb, hp⟩
    exact ⟨b, ⟨a, ha, hb⟩, hp⟩

theorem gives_map {f : α → β} : Gives p (f <$> x) ↔ Gives (fun a => p (f a)) x := by
  cases x with
  | error e => exact iff_of_false gives_error gives_error
  | ok a => simp only [Functor.map, Except.map, gives_ok]

theorem gives_and_left {p : α → Prop} : Gives (fun a => q ∧ p a) x ↔ q ∧ Gives p x := by
  simp only [Gives, and_left_comm (b := q), exists_and_left]

theorem gives_and_right {p : α → Prop} : Gives (fun a => p a ∧ q) x ↔ Gives p x ∧ q := by
  simp only [Gives, ← and_assoc, exists_and_right]

theorem gives_mapM {f : α → Except ε β} {items : List α} :
    Gives (∀ b ∈ ·, p b) (items.mapM f) ↔ ∀ a ∈ items, Gives p (f a) := by
  induction items with
  | nil => exact iff_of_true (gives_ok.mpr (List.forall_mem_nil p)) (List.forall_mem_nil _)
  | cons a rest ih =>
    rw [List.mapM_cons, gives_bind, List.forall_mem_cons, ← ih]
    simp only [gives_bind, pure, Except.pure, gives_ok, List.forall_mem_cons, gives_and_left,
      gives_and_right]

end Gives

theorem forall_mem_of_mapM {f : α → Except ε β} {p : β → Prop} (hf : ∀ a b, f a = .ok b → p b)
    {items : List α} {made : List β} (h : items.mapM f = .ok made) : ∀ b ∈ made, p b := by
  intro b hb
  obtain ⟨a, -, hab⟩ := exists_of_mem_right (mapM_eq_ok.mp h) b hb
  exact hf a b hab

theorem exists_map_of_mapM {γ : Type} {f : α → Except ε β} {form : γ → β}
    (hf : ∀ a b, f a = .ok b → ∃ c, form c = b) {items : List α} {made : List β}
      (h : items.mapM f = .ok made) :
    ∃ cs : List γ, made = cs.map form := by
  obtain ⟨cs, hcs⟩ : made ∈ Set.range (List.map form) := by
    rw [Set.range_list_map]
    exact forall_mem_of_mapM hf h
  exact ⟨cs, hcs.symm⟩

end StubServer
