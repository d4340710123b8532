import Mathlib.Algebra.BigOperators.Group.List.Basic
import Mathlib.Data.List.Nodup

namespace StubServer

section

variable {α : Type} {l : List α} {m n : Nat} {a b : α}

theorem getElem?_set_cases (h : (l.set n a)[m]? = some b) : m = n ∧ b = a ∨ m ≠ n ∧ l[m]? = some b := by
  rw [List.getElem?_set] at h
  by_cases hmn : n = m
  · rw [if_pos hmn] at h
    split at h
    · exact .inl ⟨hmn.symm, (Option.some.inj h).symm⟩
    · cases h
  · rw [if_neg hmn] at h
    exact .inr ⟨Ne.symm hmn, h⟩

theorem getElem?_concat_cases (h : (l ++ [a])[m]? = some b) :
    l[m]? = some b ∨ m = l.length ∧ b = a := by
  obtain hlt | rfl | hgt := Nat.lt_trichotomy m l.length
  · rw [List.getElem?_append_left hlt] at h
    exact .inl h
  · rw [List.getElem?_concat_length, Option.some.injEq] at h
    exact .inr ⟨rfl, h.symm⟩
  · have hle : (l ++ [a]).length ≤ m := by
      rw [List.length_append, List.length_singleton]
      omega
    rw [List.getElem?_eq_none hle] at h
    cases h

theorem sum_map_set {M : Type} [AddCommMonoid M] (f : α → M) (h : l[n]? = some a) (b : α) :
    ((l.set n b).map f).sum + f a = (l.map f).sum + f b := by
  induction l generalizing n with
  | nil => cases h
  | cons first l ih =>
    cases n with
    | zero =>
      cases h
      simp only [List.set_cons_zero, List.map_cons, List.sum_cons]
      rw [add_right_comm, add_comm (f b), add_right_comm]
    | succ n =>
      simp only [List.set_cons_succ, List.map_cons, List.sum_cons]
      rw [add_assoc, add_assoc, ih h]

end

theorem head?_erase_of_ne {l : List Nat} {m n : Nat} (h : l.head? = some m) (hmn : m ≠ n) :
    (l.erase n).head? = some m := by
  cases l with
  | nil => cases h
  | cons a l =>
    obtain rfl := Option.some.inj h
    rw [List.erase_cons_tail (by simpa using hmn)]
    rfl

/-- Who is in line is in the queue, once, and who is served is the first. -/
structure InTurn {α : Type} (isInLine isServed : α → Bool) (queue : List Nat) (parties : List α) :
    Prop where
  nodup : queue.Nodup
  mem_iff : ∀ n, n ∈ queue ↔ ∃ party, parties[n]? = some party ∧ isInLine party
  first : ∀ (n : Nat) (party : α), parties[n]? = some party → isServed party → queue.head? = some n

namespace InTurn

variable {α : Type} {isInLine isServed : α → Bool} {queue : List Nat} {parties : List α} {n : Nat}
  {party party' : α}

theorem empty (hline : ∀ party ∈ parties, isInLine party = false)
    (hserved : ∀ party ∈ parties, isServed party = false) : InTurn isInLine isServed [] parties := by
  refine ⟨List.nodup_nil, fun n => ⟨fun hn => absurd hn List.not_mem_nil, ?_⟩, fun n party hn hin => ?_⟩
  · rintro ⟨party, hn, hin⟩
    rw [hline party (List.mem_of_getElem? hn)] at hin
    cases hin
  · rw [hserved party (List.mem_of_getElem? hn)] at hin
    cases hin

theorem arrive (h : InTurn isInLine isServed queue parties) (hline : isInLine party = false)
    (hserved : isServed party = false) : InTurn isInLine isServed queue (parties ++ [party]) := by
  refine ⟨h.nodup, fun n => ?_, fun n other hn hin => ?_⟩
  · rw [h.mem_iff n]
    constructor
    · rintro ⟨other, hn, hin⟩
      exact ⟨other, by rwa [List.getElem?_append_left (List.getElem?_eq_some_iff.mp hn).1], hin⟩
    · rintro ⟨other, hn, hin⟩
      obtain hn | ⟨-, rfl⟩ := getElem?_concat_cases hn
      · exact ⟨other, hn, hin⟩
      · rw [hline] at hin
        cases hin
  · obtain hn | ⟨-, rfl⟩ := getElem?_concat_cases hn
    · exact h.first n other hn hin
    · rw [hserved] at hin
      cases hin

theorem join (h : InTurn isInLine isServed queue parties) (hn : parties[n]? = some party)
    (hout : isInLine party = false) (hline : isInLine party') (hserved : isServed party' = false) :
    InTurn isInLine isServed (queue ++ [n]) (parties.set n party') := by
  have hnot : n ∉ queue := by
    intro hmem
    obtain ⟨other, hn', hin⟩ := (h.mem_iff n).mp hmem
    cases hn.symm.trans hn'
    rw [hout] at hin
    cases hin
  refine ⟨List.nodup_append.mpr ⟨h.nodup, List.nodup_singleton n, fun a ha b hb => ?_⟩, fun m => ?_,
    fun m other hm hin => ?_⟩
  · rintro rfl
    exact hnot (List.mem_singleton.mp hb ▸ ha)
  · rw [List.mem_append, List.mem_singleton, h.mem_iff m]
    by_cases hm : n = m
    · subst hm
      have hset := List.getElem?_set_self (a := party') (List.getElem?_eq_some_iff.mp hn).1
      exact ⟨fun _ => ⟨party', hset, hline⟩, fun _ => .inr rfl⟩
    · rw [List.getElem?_set_ne hm]
      exact ⟨fun hor => hor.resolve_right (Ne.symm hm), .inl⟩
  · obtain ⟨-, rfl⟩ | ⟨-, hm⟩ := getElem?_set_cases hm
    · rw [hserved] at hin
      cases hin
    · rw [List.head?_append, h.first m other hm hin]
      rfl

theorem keep (h : InTurn isInLine isServed queue parties) (hn : parties[n]? = some party)
    (hline : isInLine party' = isInLine party) (hfirst : isServed party' → queue.head? = some n) :
    InTurn isInLine isServed queue (parties.set n party') := by
  refine ⟨h.nodup, fun m => ?_, fun m other hm hin => ?_⟩
  · rw [h.mem_iff m]
    by_cases hm : n = m
    · subst hm
      have hset := List.getElem?_set_self (a := party') (List.getElem?_eq_some_iff.mp hn).1
      rw [hset, hn]
      simp [hline]
    · rw [List.getElem?_set_ne hm]
  · obtain ⟨rfl, rfl⟩ | ⟨-, hm⟩ := getElem?_set_cases hm
    · exact hfirst hin
    · exact h.first m other hm hin

theorem leave (h : InTurn isInLine isServed queue parties) (hline : isInLine party' = false)
    (hserved : isServed party' = false) : InTurn isInLine isServed (queue.erase n)
      (parties.set n party') := by
  refine ⟨h.nodup.erase n, fun m => ?_, fun m other hm hin => ?_⟩
  · rw [h.nodup.mem_erase_iff, h.mem_iff m]
    constructor
    · rintro ⟨hne, other, hm, hin⟩
      exact ⟨other, by rwa [List.getElem?_set_ne hne.symm], hin⟩
    · rintro ⟨other, hm, hin⟩
      obtain ⟨-, rfl⟩ | ⟨hne, hm⟩ := getElem?_set_cases hm
      · rw [hline] at hin
        cases hin
      · exact ⟨hne, other, hm, hin⟩
  · obtain ⟨-, rfl⟩ | ⟨hne, hm⟩ := getElem?_set_cases hm
    · rw [hserved] at hin
      cases hin
    · exact head?_erase_of_ne (h.first m other hm hin) hne

end InTurn

end StubServer
