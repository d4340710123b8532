import StubServer.Stub.Registry

namespace StubServer

namespace Stub

theorem before_iff {a b : Stub} : a.before b ↔
    a.priority < b.priority ∨ a.priority = b.priority ∧ a.created < b.created := by
  simp [before]

theorem before_irrefl (a : Stub) : ¬a.before a := by
  rw [before_iff]
  omega

theorem before_trans {a b c : Stub} (hab : a.before b) (hbc : b.before c) : a.before c := by
  rw [before_iff] at *
  omega

theorem before_asymm {a b : Stub} (hab : a.before b) : ¬b.before a := fun hba =>
  a.before_irrefl (before_trans hab hba)

theorem order_eq_lt {a b : Stub} : a.order b = .lt ↔ a.before b := by
  unfold order
  split
  · simp_all
  · split <;> simp_all

theorem order_eq_gt {a b : Stub} : a.order b = .gt ↔ b.before a := by
  unfold order
  split
  · rename_i h
    simpa using before_asymm h
  · split <;> simp_all

theorem order_eq_eq {a b : Stub} : a.order b = .eq ↔ a.priority = b.priority ∧
    a.created = b.created := by
  have hlt := order_eq_lt (a := a) (b := b)
  have hgt := order_eq_gt (a := a) (b := b)
  rw [before_iff] at hlt hgt
  cases h : a.order b with
  | lt =>
    have := hlt.mp h
    simp only [reduceCtorEq, false_iff]
    omega
  | gt =>
    have := hgt.mp h
    simp only [reduceCtorEq, false_iff]
    omega
  | eq =>
    simp only [h, reduceCtorEq, false_iff] at hlt hgt
    simp only [true_iff]
    omega

/-- The stubs stand in order, none of them twice. -/
def Sorted (stubs : List Stub) : Prop := stubs.Pairwise fun a b => a.before b

theorem Sorted.nodup {stubs : List Stub} (h : Sorted stubs) : stubs.Nodup :=
  h.imp fun hab he => by
    subst he
    exact before_irrefl _ hab

theorem Sorted.before_of_lt {stubs : List Stub} (h : Sorted stubs) {i j : Nat} {a b : Stub}
    (ha : stubs[i]? = some a) (hb : stubs[j]? = some b) (hij : i < j) : a.before b := by
  obtain ⟨hi, rfl⟩ := List.getElem?_eq_some_iff.mp ha
  obtain ⟨hj, rfl⟩ := List.getElem?_eq_some_iff.mp hb
  exact List.pairwise_iff_getElem.mp h i j hi hj hij

theorem Sorted.total {stubs : List Stub} (h : Sorted stubs) {a b : Stub} (ha : a ∈ stubs)
    (hb : b ∈ stubs) :
    a = b ∨ a.before b ∨ b.before a := by
  obtain ⟨i, hi⟩ := List.mem_iff_getElem?.mp ha
  obtain ⟨j, hj⟩ := List.mem_iff_getElem?.mp hb
  obtain hij | rfl | hij := Nat.lt_trichotomy i j
  · exact .inr (.inl (h.before_of_lt hi hj hij))
  · exact .inl (Option.some.inj (hi.symm.trans hj))
  · exact .inr (.inr (h.before_of_lt hj hi hij))

/-- The numbers of creation tell these stubs apart. -/
def Distinct (known : List Stub) : Prop := ∀ a ∈ known, ∀ b ∈ known, a.created = b.created → a = b

/-- The list is in order, and has only stubs that are told apart by their numbers. -/
structure Tidy (known stubs : List Stub) : Prop where
  distinct : Distinct known
  subset : stubs ⊆ known
  sorted : Sorted stubs

structure Inserted (stub : Stub) (stubs stubs' : List Stub) : Prop where
  not_mem : stub ∉ stubs
  sorted : Sorted stubs'
  mem_iff : ∀ s, s ∈ stubs' ↔ s = stub ∨ s ∈ stubs

structure Deleted (stub : Stub) (stubs stubs' : List Stub) : Prop where
  mem : stub ∈ stubs
  sublist : stubs'.Sublist stubs
  mem_iff : ∀ s, s ∈ stubs' ↔ s ∈ stubs ∧ s ≠ stub

end Stub

namespace Registry

open Stub

/-- In the list the stub belongs somewhere behind the start of the stretch, unless that is the beginning,
and before all that follows the stretch. -/
structure Bracketed (stub : Stub) (stubs : List Stub) (base size : Nat) : Prop where
  inside : base + size ≤ stubs.length
  behind : base = 0 ∨ ∀ s, stubs[base]? = some s → ¬stub.before s
  ahead : ∀ i s, base + size ≤ i → stubs[i]? = some s → stub.before s

theorem narrow_bracketed (stub : Stub) {stubs : List Stub} (hs : Sorted stubs) (fuel base size : Nat)
    (hfuel : size ≤ fuel) (hsize : 0 < size) (h : Bracketed stub stubs base size) :
    Bracketed stub stubs (narrow stub stubs fuel base size) 1 := by
  induction fuel generalizing base size with
  | zero => omega
  | succ fuel ih =>
    by_cases hone : size ≤ 1
    · have he : size = 1 := by omega
      subst he
      rwa [narrow, if_pos hone]
    · have hin := h.inside
      have hm : base + size / 2 < stubs.length := by omega
      simp only [narrow, if_neg hone, List.getElem?_eq_getElem hm, Option.any_some, order_eq_gt]
      split
      · rename_i hb
        have hb : stub.before stubs[base + size / 2] := by simpa using hb
        refine ih base (size - size / 2) (by omega) (by omega) ⟨by omega, h.behind, fun i s hi his => ?_⟩
        obtain he | hlt := Nat.eq_or_lt_of_le (show base + size / 2 ≤ i by omega)
        · subst he
          rw [List.getElem?_eq_getElem hm, Option.some.injEq] at his
          rwa [← his]
        · exact before_trans hb (hs.before_of_lt (List.getElem?_eq_getElem hm) his hlt)
      · rename_i hb
        have hb : ¬stub.before stubs[base + size / 2] := by simpa using hb
        refine ih (base + size / 2) (size - size / 2) (by omega) (by omega)
          ⟨by omega, .inr fun s his => ?_, fun i s hi his => h.ahead i s (by omega) his⟩
        rw [List.getElem?_eq_getElem hm, Option.some.injEq] at his
        rwa [← his]

def Splits (stub : Stub) (stubs : List Stub) (i : Nat) : Prop :=
  (∀ s ∈ stubs.take i, s.before stub) ∧ ∀ s ∈ stubs.drop i, stub.before s

theorem splits_of_getElem? {stub : Stub} {stubs : List Stub} {i : Nat}
    (hb : ∀ j s, j < i → stubs[j]? = some s → s.before stub)
    (ha : ∀ j s, i ≤ j → stubs[j]? = some s → stub.before s) : Splits stub stubs i := by
  constructor
  · intro s hs
    obtain ⟨j, hj⟩ := List.mem_iff_getElem?.mp hs
    rw [List.getElem?_take] at hj
    split at hj
    · exact hb j s ‹_› hj
    · cases hj
  · intro s hs
    obtain ⟨j, hj⟩ := List.mem_iff_getElem?.mp hs
    rw [List.getElem?_drop] at hj
    exact ha (i + j) s (by omega) hj

/-- The search finds the only place for the stub, or a stub that is ordered like it. -/
theorem place_spec (stub : Stub) {stubs : List Stub} (hs : Sorted stubs) :
    (∃ i, place stub stubs = .ok i ∧ Splits stub stubs i) ∨
      place stub stubs = .error (.duplicate stub.text) ∧ ∃ s ∈ stubs, s.order stub = .eq := by
  obtain hz | hpos := Nat.eq_zero_or_pos stubs.length
  · obtain rfl := List.length_eq_zero_iff.mp hz
    exact .inl ⟨0, rfl, by simp [Splits]⟩
  have hall : Bracketed stub stubs 0 stubs.length := ⟨by omega, .inl rfl, fun i s hi his => by
    rw [List.getElem?_eq_none (by omega)] at his
    cases his⟩
  have hb := narrow_bracketed stub hs stubs.length 0 stubs.length (Nat.le_refl _) hpos hall
  simp only [place]
  generalize hbase : narrow stub stubs stubs.length 0 stubs.length = base at hb
  have hlt : base < stubs.length := hb.inside
  have hget := List.getElem?_eq_getElem hlt
  rw [hget]
  dsimp only
  cases ho : stubs[base].order stub with
  | lt =>
    have hbefore := order_eq_lt.mp ho
    refine .inl ⟨base + 1, rfl, splits_of_getElem? (fun j s hj hjs => ?_) hb.ahead⟩
    obtain he | hjb := Nat.eq_or_lt_of_le (Nat.le_of_lt_succ hj)
    · subst he
      rw [hget, Option.some.injEq] at hjs
      rwa [← hjs]
    · exact before_trans (hs.before_of_lt hjs hget hjb) hbefore
  | gt =>
    have hafter := order_eq_gt.mp ho
    have hz : base = 0 := hb.behind.resolve_right fun h => h _ hget hafter
    subst hz
    refine .inl ⟨0, rfl, splits_of_getElem? (fun j s hj => by omega) fun j s _ hjs => ?_⟩
    obtain rfl | hj := Nat.eq_zero_or_pos j
    · rw [hget, Option.some.injEq] at hjs
      rwa [← hjs]
    · exact hb.ahead j s (by omega) hjs
  | eq => exact .inr ⟨rfl, _, List.getElem_mem hlt, ho⟩

theorem sorted_take_cons_drop {stub : Stub} {stubs : List Stub} {i : Nat} (hs : Sorted stubs)
    (h : Splits stub stubs i) : Sorted (stubs.take i ++ stub :: stubs.drop i) := by
  refine List.pairwise_append.mpr ⟨hs.sublist (List.take_sublist i stubs),
    List.pairwise_cons.mpr ⟨h.2, hs.sublist (List.drop_sublist i stubs)⟩, fun a ha b hb => ?_⟩
  obtain rfl | hb := List.mem_cons.mp hb
  · exact h.1 a ha
  · exact before_trans (h.1 a ha) (h.2 b hb)

theorem mem_take_cons_drop {stub s : Stub} {stubs : List Stub} {i : Nat} :
    s ∈ stubs.take i ++ stub :: stubs.drop i ↔ s = stub ∨ s ∈ stubs := by
  have hsplit : s ∈ stubs ↔ s ∈ stubs.take i ∨ s ∈ stubs.drop i := by
    rw [← List.mem_append, List.take_append_drop]
  rw [hsplit, List.mem_append, List.mem_cons]
  exact or_left_comm

theorem adding_ne_none (stub : Stub) (stubs : List Stub) : adding stub stubs ≠ .ok none := by
  rw [adding]
  cases insert stub stubs with
  | ok next => exact fun h => nomatch h
  | error e => exact fun h => nomatch h

theorem not_mem_of_removing_eq_none {stub : Stub} {stubs : List Stub}
    (h : removing stub stubs = .ok none) : stub ∉ stubs := by
  intro hmem
  have hany : (stubs.any fun s => s.created = stub.created) = true :=
    List.any_eq_true.mpr ⟨stub, hmem, decide_eq_true rfl⟩
  rw [removing, if_pos hany] at h
  cases h

section

variable {known stubs next : List Stub} {stub : Stub} (h : Tidy known stubs) (hstub : stub ∈ known)

include h hstub

theorem adding_spec : (stub ∈ stubs ∧ adding stub stubs = .error (.duplicate stub.text)) ∨
    ∃ next, adding stub stubs = .ok (some next) ∧ Inserted stub stubs next := by
  obtain ⟨i, hi, hsplit⟩ | ⟨hp, s, hmem, ho⟩ := place_spec stub h.sorted
  · have hnot : stub ∉ stubs := by
      intro hmem
      rw [← List.take_append_drop i stubs, List.mem_append] at hmem
      obtain hmem | hmem := hmem
      · exact before_irrefl stub (hsplit.1 stub hmem)
      · exact before_irrefl stub (hsplit.2 stub hmem)
    exact .inr ⟨_, by rw [adding, insert, hi]; rfl, hnot, sorted_take_cons_drop h.sorted hsplit,
      fun s => mem_take_cons_drop⟩
  · have he : s = stub := h.distinct s (h.subset hmem) stub hstub (order_eq_eq.mp ho).2
    subst he
    exact .inl ⟨hmem, by rw [adding, insert, hp]; rfl⟩

theorem adding_eq_error {e : StubError} (ha : adding stub stubs = .error e) :
    stub ∈ stubs ∧ e = .duplicate stub.text := by
  obtain ⟨hmem, he⟩ | ⟨next, he, _⟩ := adding_spec h hstub
  · rw [he, Except.error.injEq] at ha
    exact ⟨hmem, ha.symm⟩
  · rw [he] at ha
    cases ha

theorem adding_eq_some (ha : adding stub stubs = .ok (some next)) : Inserted stub stubs next := by
  obtain ⟨_, he⟩ | ⟨next', he, hin⟩ := adding_spec h hstub
  · rw [he] at ha
    cases ha
  · rw [he, Except.ok.injEq, Option.some.injEq] at ha
    exact ha ▸ hin

theorem removing_spec : (stub ∉ stubs ∧ removing stub stubs = .ok none) ∨
    ∃ next, removing stub stubs = .ok (some next) ∧ Deleted stub stubs next := by
  have hiff : (stubs.any fun s => s.created = stub.created) = true ↔ stub ∈ stubs := by
    simp only [List.any_eq_true, decide_eq_true_eq]
    constructor
    · rintro ⟨s, hmem, he⟩
      rwa [← h.distinct s (h.subset hmem) stub hstub he]
    · exact fun hmem => ⟨stub, hmem, rfl⟩
  by_cases hmem : stub ∈ stubs
  · refine .inr ⟨_, by rw [removing, if_pos (hiff.mpr hmem)], hmem, List.eraseP_sublist, fun s => ?_⟩
    obtain ⟨a, before, after, hbefore, ha, hsplit, herase⟩ :=
      List.exists_of_eraseP (p := fun s => s.created = stub.created) hmem (by simp)
    have hanodup := h.sorted.nodup
    rw [hsplit] at hanodup
    have he : a = stub := h.distinct a (h.subset (by rw [hsplit]; simp)) stub hstub (by simpa using ha)
    subst he
    have hnodup := List.perm_middle.nodup_iff.mp hanodup
    rw [herase, hsplit]
    simp only [List.mem_append, List.mem_cons]
    have hna := (List.nodup_cons.mp hnodup).1
    rw [List.mem_append] at hna
    constructor
    · intro h
      exact ⟨h.imp_right .inr, fun hsa => hna (hsa ▸ h)⟩
    · rintro ⟨h, hne⟩
      exact h.imp_right fun h => h.resolve_left hne
  · exact .inl ⟨hmem, by rw [removing, if_neg (mt hiff.mp hmem)]⟩

theorem removing_eq_some (hr : removing stub stubs = .ok (some next)) : Deleted stub stubs next := by
  obtain ⟨_, he⟩ | ⟨next', he, hd⟩ := removing_spec h hstub
  · rw [he] at hr
    cases hr
  · rw [he, Except.ok.injEq, Option.some.injEq] at hr
    exact hr ▸ hd

end

end Registry

end StubServer
