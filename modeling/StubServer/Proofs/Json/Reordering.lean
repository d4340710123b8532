import Mathlib.Data.List.Perm.Basic
import StubServer.Json.Value

namespace StubServer.Json

def FieldRel {α β : Type} (r : α → β → Prop) (x : String × α) (y : String × β) : Prop :=
  x.1 = y.1 ∧ r x.2 y.2

section Fields

variable {α β : Type} {r : α → β → Prop}

theorem forall₂_fieldRel {xs : List (String × α)} {ys : List (String × β)} :
    List.Forall₂ (FieldRel r) xs ys ↔
      xs.map Prod.fst = ys.map Prod.fst ∧ List.Forall₂ r (xs.map Prod.snd) (ys.map Prod.snd) := by
  induction xs generalizing ys with
  | nil => cases ys <;> simp
  | cons x xs ih =>
    cases ys with
    | nil => simp
    | cons y ys =>
      simp only [List.forall₂_cons, List.map_cons, List.cons.injEq, ih, FieldRel]
      tauto

end Fields

namespace Value

variable {α : Type} {key : String} {value : α} {fields items : List (String × α)}

def Ascending (fields : List (String × α)) : Prop := fields.Pairwise fun x y => x.1 < y.1

theorem mem_putField {p : String × α} (h : p ∈ putField key value fields) :
    p = (key, value) ∨ p ∈ fields := by
  induction fields with
  | nil => exact .inl (List.mem_singleton.mp h)
  | cons q rest ih =>
    rw [putField] at h
    split at h
    · exact List.mem_cons.mp h
    · split at h
      · exact (List.mem_cons.mp h).imp_right (List.mem_cons_of_mem q)
      · obtain rfl | h := List.mem_cons.mp h
        · exact .inr List.mem_cons_self
        · exact (ih h).imp_right (List.mem_cons_of_mem q)

theorem ascending_putField (h : Ascending fields) : Ascending (putField key value fields) := by
  induction fields with
  | nil => exact List.pairwise_singleton _ _
  | cons q rest ih =>
    obtain ⟨hq, hrest⟩ := List.pairwise_cons.mp h
    rw [putField]
    split
    case isTrue hlt =>
      refine List.pairwise_cons.mpr ⟨fun p hp => ?_, h⟩
      obtain rfl | hp := List.mem_cons.mp hp
      · exact hlt
      · exact String.lt_trans hlt (hq p hp)
    case isFalse hge =>
      split
      case isTrue heq => exact List.pairwise_cons.mpr ⟨fun p hp => heq ▸ hq p hp, hrest⟩
      case isFalse hne =>
        refine List.pairwise_cons.mpr ⟨fun p hp => ?_, ih hrest⟩
        obtain rfl | hp := mem_putField hp
        · grind
        · exact hq p hp

theorem putField_perm (h : key ∉ fields.map Prod.fst) :
    (putField key value fields).Perm ((key, value) :: fields) := by
  induction fields with
  | nil => exact .refl _
  | cons q rest ih =>
    rw [List.map_cons, List.mem_cons, not_or] at h
    rw [putField]
    split
    · exact .refl _
    · rw [if_neg h.1]
      exact ((ih h.2).cons q).trans (.swap _ _ _)

/-- The fields put one by one. -/
def gathered (fields done : List (String × α)) : List (String × α) :=
  fields.foldl (fun done (k, v) => putField k v done) done

theorem ascending_gathered (fields : List (String × α)) {done : List (String × α)} (h : Ascending done) :
    Ascending (gathered fields done) := by
  induction fields generalizing done with
  | nil => exact h
  | cons q rest ih => exact ih (ascending_putField h)

theorem mem_gathered {p : String × α} {done : List (String × α)} (h : p ∈ gathered fields done) :
    p ∈ fields ∨ p ∈ done := by
  induction fields generalizing done with
  | nil => exact .inr h
  | cons q rest ih =>
    obtain h | h := ih h
    · exact .inl (List.mem_cons_of_mem q h)
    · obtain rfl | h := mem_putField h
      · exact .inl List.mem_cons_self
      · exact .inr h

theorem gathered_perm {done : List (String × α)} (h : ((fields ++ done).map Prod.fst).Nodup) :
    (gathered fields done).Perm (fields ++ done) := by
  induction fields generalizing done with
  | nil => exact .refl _
  | cons q rest ih =>
    have hdone : q.1 ∉ done.map Prod.fst := fun hmem =>
      (List.nodup_cons.mp h).1 (List.map_subset _ (List.subset_append_right rest done) hmem)
    have hput : (putField q.1 q.2 done).Perm (q :: done) := putField_perm hdone
    have hmoved : (rest ++ putField q.1 q.2 done).Perm (q :: (rest ++ done)) :=
      (hput.append_left rest).trans List.perm_middle
    refine (ih ?_).trans hmoved
    rw [(hmoved.map Prod.fst).nodup_iff]
    exact h

theorem Ascending.nodup (h : Ascending fields) : (fields.map Prod.fst).Nodup := by
  refine List.pairwise_map.mpr (h.imp fun {x y} hlt heq => ?_)
  rw [heq] at hlt
  exact String.lt_irrefl _ hlt

theorem gathered_of_perm (hasc : Ascending items) (hperm : fields.Perm items) :
    gathered fields [] = items := by
  have hnodup : ((fields ++ []).map Prod.fst).Nodup := by
    rw [List.append_nil, (hperm.map Prod.fst).nodup_iff]
    exact hasc.nodup
  have hall : (gathered fields []).Perm items := by
    simpa using (gathered_perm hnodup).trans (hperm.append_right [])
  exact hall.eq_of_pairwise (fun p q _ _ hpq hqp =>
    absurd (String.lt_trans hpq hqp) (String.lt_irrefl _))
    (ascending_gathered fields List.Pairwise.nil) hasc

/-- The same value, with the fields of its objects in any order. -/
inductive Reorders : Value → Value → Prop
  | null : Reorders .null .null
  | bool (b : Bool) : Reorders (.bool b) (.bool b)
  | number (n : Number) : Reorders (.number n) (.number n)
  | string (s : String) : Reorders (.string s) (.string s)
  | array {items given : List Value} (h : List.Forall₂ Reorders items given) :
      Reorders (.array items) (.array given)
  | object {fields moved given : List (String × Value)} (hperm : fields.Perm moved)
      (hkeys : moved.map Prod.fst = given.map Prod.fst)
      (hvalues : List.Forall₂ Reorders (moved.map Prod.snd) (given.map Prod.snd)) :
      Reorders (.object fields) (.object given)

variable {v w : Value}

theorem reorders_array {given : List Value} :
    w.Reorders (.array given) ↔ ∃ items, w = .array items ∧ List.Forall₂ Reorders items given := by
  constructor
  · intro h
    cases h with
    | array h => exact ⟨_, rfl, h⟩
  · rintro ⟨items, rfl, h⟩
    exact .array h

theorem reorders_object {given : List (String × Value)} :
    w.Reorders (.object given) ↔
      ∃ fields moved, w = .object fields ∧ fields.Perm moved ∧
        List.Forall₂ (FieldRel Reorders) moved given := by
  constructor
  · intro h
    cases h with
    | object hperm hkeys hvalues => exact ⟨_, _, rfl, hperm, forall₂_fieldRel.mpr ⟨hkeys, hvalues⟩⟩
  · rintro ⟨fields, moved, rfl, hperm, h⟩
    obtain ⟨hkeys, hvalues⟩ := forall₂_fieldRel.mp h
    exact .object hperm hkeys hvalues

mutual

theorem Reorders.refl : ∀ v : Value, v.Reorders v
  | .null => .null
  | .bool b => .bool b
  | .number n => .number n
  | .string s => .string s
  | .array items => .array (forall₂_reorders_refl items)
  | .object fields => .object (.refl fields) rfl (forall₂_reorders_values fields)

theorem forall₂_reorders_refl : ∀ items : List Value, List.Forall₂ Reorders items items
  | [] => .nil
  | item :: rest => .cons (.refl item) (forall₂_reorders_refl rest)

theorem forall₂_reorders_values : ∀ fields : List (String × Value),
    List.Forall₂ Reorders (fields.map Prod.snd) (fields.map Prod.snd)
  | [] => .nil
  | (_, v) :: rest => .cons (.refl v) (forall₂_reorders_values rest)

end

theorem Reorders.null_iff (h : w.Reorders v) : w = .null ↔ v = .null := by
  cases h <;> simp

/-- No number of the value is an infinity or no number at all. -/
inductive IsFinite : Value → Prop
  | null : IsFinite .null
  | bool (b : Bool) : IsFinite (.bool b)
  | int (i : Int) : IsFinite (.number (.int i))
  | float {x : Float} (h : x.isFinite) : IsFinite (.number (.float x))
  | string (s : String) : IsFinite (.string s)
  | array {items : List Value} (h : ∀ item ∈ items, IsFinite item) : IsFinite (.array items)
  | object {fields : List (String × Value)} (h : ∀ field ∈ fields, IsFinite field.2) :
      IsFinite (.object fields)

attribute [simp] IsFinite.null IsFinite.bool IsFinite.int IsFinite.string

@[simp]
theorem isFinite_array {items : List Value} : (Value.array items).IsFinite ↔
    ∀ item ∈ items, item.IsFinite := by
  constructor
  · intro h
    cases h with
    | array h => exact h
  · exact .array

@[simp]
theorem isFinite_object {fields : List (String × Value)} :
    (Value.object fields).IsFinite ↔ ∀ field ∈ fields, field.2.IsFinite := by
  constructor
  · intro h
    cases h with
    | object h => exact h
  · exact .object

/-- A finite value as a reader keeps it: the fields of every object by ascending key. -/
inductive IsTidy : Value → Prop
  | null : IsTidy .null
  | bool (b : Bool) : IsTidy (.bool b)
  | int (i : Int) : IsTidy (.number (.int i))
  | float {x : Float} (h : x.isFinite) : IsTidy (.number (.float x))
  | string (s : String) : IsTidy (.string s)
  | array {items : List Value} (h : ∀ item ∈ items, IsTidy item) : IsTidy (.array items)
  | object {fields : List (String × Value)} (hasc : Ascending fields) (h : ∀ field ∈ fields,
      IsTidy field.2) :
      IsTidy (.object fields)

end Value

end StubServer.Json
