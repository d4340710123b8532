import Mathlib.Data.List.Infix
import StubServer.Text.Casing

namespace StubServer.Text

variable {before before' cs after after' : List Char}

/-- Whether a capital sigma between these characters ends a word; those before it are in reverse. -/
def endsWord (before rest : List Char) : Bool := nextIsCased before && !nextIsCased rest

def lowerAt (before : List Char) (c : Char) (rest : List Char) : List Char :=
  if c = 'Σ' then [if endsWord before rest then 'ς' else 'σ'] else lowerChar c

def lowerWithin (before : List Char) : List Char → List Char → List Char
  | [], _ => []
  | c :: rest, after => lowerAt before c (rest ++ after) ++ lowerWithin (c :: before) rest after

theorem lowerFrom_cons (before : List Char) (c : Char) (rest : List Char) :
    lowerFrom before (c :: rest) = lowerAt before c rest ++ lowerFrom (c :: before) rest := rfl

theorem lowerWithin_nil (before cs : List Char) : lowerWithin before cs [] = lowerFrom before cs := by
  induction cs generalizing before with
  | nil => rfl
  | cons c rest ih => rw [lowerWithin, lowerFrom_cons, ih, List.append_nil]

theorem lowerWithin_append (before cs rest after : List Char) : lowerWithin before (cs ++ rest) after =
    lowerWithin before cs (rest ++ after) ++ lowerWithin (cs.reverse ++ before) rest after := by
  induction cs generalizing before with
  | nil => rfl
  | cons c cs ih =>
    rw [List.cons_append, lowerWithin, lowerWithin, ih, List.reverse_cons, List.append_assoc,
      List.append_assoc, List.append_assoc, List.singleton_append]

theorem lowerFrom_append (before cs rest : List Char) : lowerFrom before (cs ++ rest) =
    lowerWithin before cs rest ++ lowerFrom (cs.reverse ++ before) rest := by
  rw [← lowerWithin_nil, lowerWithin_append, List.append_nil, lowerWithin_nil]

theorem lowerAt_eq_iff {c : Char} {rest rest' : List Char} :
    lowerAt before c rest = lowerAt before' c rest' ↔
    (c = 'Σ' → endsWord before rest = endsWord before' rest') := by
  by_cases hc : c = 'Σ'
  · rw [lowerAt, lowerAt, if_pos hc, if_pos hc]
    cases endsWord before rest <;> cases endsWord before' rest' <;> simp [hc]
  · simp [lowerAt, hc]

theorem length_lowerAt (before before' : List Char) (c : Char) (rest rest' : List Char) :
    (lowerAt before c rest).length = (lowerAt before' c rest').length := by
  by_cases hc : c = 'Σ' <;> simp [lowerAt, hc]

theorem length_lowerWithin (before before' cs after after' : List Char) :
    (lowerWithin before cs after).length = (lowerWithin before' cs after').length := by
  induction cs generalizing before before' with
  | nil => rfl
  | cons c rest ih =>
    rw [lowerWithin, lowerWithin, List.length_append, List.length_append, ih,
      length_lowerAt before before' c (rest ++ after) (rest ++ after')]

theorem lowerWithin_eq_iff : lowerWithin before cs after = lowerWithin before' cs after' ↔
    ∀ a b, cs = a ++ 'Σ' :: b →
      endsWord (a.reverse ++ before) (b ++ after) = endsWord (a.reverse ++ before') (b ++ after') := by
  induction cs generalizing before before' with
  | nil => simp [lowerWithin]
  | cons c rest ih =>
    have hsplit : lowerWithin before (c :: rest) after = lowerWithin before' (c :: rest) after' ↔
        lowerAt before c (rest ++ after) = lowerAt before' c (rest ++ after') ∧
          lowerWithin (c :: before) rest after = lowerWithin (c :: before') rest after' := by
      rw [lowerWithin, lowerWithin]
      constructor
      · exact fun h => List.append_inj h (length_lowerAt before before' c _ _)
      · rintro ⟨hfirst, hrest⟩
        rw [hfirst, hrest]
    rw [hsplit, lowerAt_eq_iff, ih]
    constructor
    · rintro ⟨hfirst, hrest⟩ a b h
      cases a with
      | nil =>
        obtain ⟨rfl, rfl⟩ := List.cons.inj h
        exact hfirst rfl
      | cons d a =>
        obtain ⟨rfl, rfl⟩ := List.cons.inj h
        simpa using hrest a b rfl
    · intro h
      refine ⟨?_, fun a b hab => ?_⟩
      · rintro rfl
        exact h [] rest rfl
      · simpa using h (c :: a) b (congrArg (c :: ·) hab)

theorem isCased_sigma : isCased 'Σ' = true := by decide

theorem isCaseIgnorable_sigma : isCaseIgnorable 'Σ' = false := by decide

theorem nextIsCased_of_all (h : cs.all isCaseIgnorable) : nextIsCased cs = false := by
  induction cs with
  | nil => rfl
  | cons c rest ih =>
    obtain ⟨hc, hrest⟩ := Bool.and_eq_true_iff.mp (List.all_cons ▸ h)
    rw [nextIsCased, if_pos hc]
    exact ih hrest

theorem nextIsCased_append (cs rest : List Char) :
    nextIsCased (cs ++ rest) = if cs.all isCaseIgnorable then nextIsCased rest else nextIsCased cs := by
  induction cs with
  | nil => rfl
  | cons c cs ih =>
    rw [List.cons_append, nextIsCased, nextIsCased, List.all_cons]
    by_cases hc : isCaseIgnorable c <;> simp [hc, ih]

theorem nextIsCased_sigma (rest : List Char) : nextIsCased ('Σ' :: rest) = true := by
  rw [nextIsCased, isCaseIgnorable_sigma]
  exact isCased_sigma

theorem nextIsCased_append_sigma (cs rest rest' : List Char) :
    nextIsCased (cs ++ 'Σ' :: rest) = nextIsCased (cs ++ 'Σ' :: rest') := by
  rw [nextIsCased_append, nextIsCased_append, nextIsCased_sigma, nextIsCased_sigma]

theorem not_sigma_of_all {a b : List Char} (h : cs.all isCaseIgnorable) : cs ≠ a ++ 'Σ' :: b := by
  rintro rfl
  have hsigma := List.all_eq_true.mp h 'Σ' (List.mem_append_right a List.mem_cons_self)
  rw [isCaseIgnorable_sigma] at hsigma
  cases hsigma

/-- A capital sigma in the text ends a word where the text stands between the others and not where
it stands alone, or the other way round. -/
def Shifts (before cs after : List Char) : Prop := ∃ a b, cs = a ++ 'Σ' :: b ∧
  endsWord (a.reverse ++ before) (b ++ after) ≠ endsWord a.reverse b

/-- Only characters that are passed over stand before a sigma of the text that no letter follows: it
ends a word as soon as a letter stands before the text. -/
def OpenBefore (cs : List Char) : Prop := ∃ a b, cs = a ++ 'Σ' :: b ∧ a.all isCaseIgnorable ∧
    nextIsCased b = false

/-- Only characters that are passed over stand behind a sigma of the text that follows a letter: it
no longer ends a word as soon as a letter stands behind the text. -/
def OpenAfter (cs : List Char) : Prop := ∃ a b, cs = a ++ 'Σ' :: b ∧ nextIsCased a.reverse ∧
    b.all isCaseIgnorable

theorem lowerWithin_eq_lowerFrom_iff : lowerWithin before cs after = lowerFrom [] cs ↔
    ¬Shifts before cs after := by
  rw [← lowerWithin_nil, lowerWithin_eq_iff, Shifts]
  simp only [List.append_nil, not_exists, not_and, ne_eq, not_not]

theorem not_shifts_nil (cs : List Char) : ¬Shifts [] cs [] :=
  lowerWithin_eq_lowerFrom_iff.mp (lowerWithin_nil [] cs)

theorem shifts_after_iff : Shifts [] cs after ↔ OpenAfter cs ∧ nextIsCased after := by
  constructor
  · rintro ⟨a, b, rfl, h⟩
    rw [List.append_nil, endsWord, endsWord, nextIsCased_append] at h
    by_cases hb : b.all isCaseIgnorable
    · rw [if_pos hb, nextIsCased_of_all hb] at h
      cases ha : nextIsCased a.reverse <;> cases hafter : nextIsCased after <;> simp [ha, hafter] at h
      exact ⟨⟨a, b, rfl, ha, hb⟩, rfl⟩
    · rw [if_neg hb] at h
      exact absurd rfl h
  · rintro ⟨⟨a, b, rfl, ha, hb⟩, hafter⟩
    refine ⟨a, b, rfl, ?_⟩
    rw [List.append_nil, endsWord, endsWord, nextIsCased_append, if_pos hb, nextIsCased_of_all hb,
      ha, hafter]
    exact Bool.false_ne_true

theorem shifts_before_iff : Shifts before cs [] ↔ OpenBefore cs ∧ nextIsCased before := by
  constructor
  · rintro ⟨a, b, rfl, h⟩
    rw [List.append_nil, endsWord, endsWord, nextIsCased_append, List.all_reverse] at h
    by_cases ha : a.all isCaseIgnorable
    · rw [if_pos ha, nextIsCased_of_all (List.all_reverse.trans ha)] at h
      cases hb : nextIsCased b <;> cases hbefore : nextIsCased before <;> simp [hb, hbefore] at h
      exact ⟨⟨a, b, rfl, ha, hb⟩, rfl⟩
    · rw [if_neg ha] at h
      exact absurd rfl h
  · rintro ⟨⟨a, b, rfl, ha, hb⟩, hbefore⟩
    refine ⟨a, b, rfl, ?_⟩
    rw [List.append_nil, endsWord, endsWord, nextIsCased_append, List.all_reverse, if_pos ha,
      nextIsCased_of_all (List.all_reverse.trans ha), hb, hbefore]
    exact Bool.false_ne_true.symm

/-- A text that is open at neither end is lowered in the same way everywhere. -/
theorem not_shifts_of_closed (hbefore : ¬OpenBefore cs) (hafter : ¬OpenAfter cs) :
    ¬Shifts before cs after := by
  rintro ⟨a, b, rfl, h⟩
  apply h
  rw [endsWord, endsWord, nextIsCased_append, nextIsCased_append, List.all_reverse]
  by_cases ha : a.all isCaseIgnorable
  · have hb : nextIsCased b = true := by
      by_contra hb
      exact hbefore ⟨a, b, rfl, ha, Bool.eq_false_iff.mpr hb⟩
    have hnot : ¬b.all isCaseIgnorable := fun hall => by
      rw [nextIsCased_of_all hall] at hb
      cases hb
    simp [hb, hnot]
  · rw [if_neg ha]
    by_cases hb : b.all isCaseIgnorable
    · have hfalse : nextIsCased a.reverse = false := by
        by_contra hcased
        exact hafter ⟨a, b, rfl, Bool.of_not_eq_false hcased, hb⟩
      simp [hfalse]
    · rw [if_neg hb]

theorem lower_of_openAfter (h : OpenAfter cs) (hafter : nextIsCased after) :
    ∃ u w, lowerFrom [] cs = u ++ 'ς' :: w ∧ lowerWithin [] cs after = u ++ 'σ' :: w := by
  obtain ⟨a, b, rfl, ha, hb⟩ := h
  refine ⟨lowerWithin [] a ('Σ' :: b), lowerFrom ('Σ' :: a.reverse) b, ?_, ?_⟩
  · have hends : endsWord a.reverse b = true := by
      rw [endsWord, ha, nextIsCased_of_all hb]
      rfl
    rw [lowerFrom_append, List.append_nil, lowerFrom_cons, lowerAt, if_pos rfl, hends]
    rfl
  · have hends : endsWord a.reverse (b ++ after) = false := by
      rw [endsWord, nextIsCased_append, if_pos hb, hafter, Bool.not_true, Bool.and_false]
    have hfirst : lowerWithin [] a ('Σ' :: b ++ after) = lowerWithin [] a ('Σ' :: b) := by
      refine lowerWithin_eq_iff.mpr fun x y _ => ?_
      rw [endsWord, endsWord, List.cons_append, nextIsCased_append_sigma y (b ++ after) b]
    have hlast : lowerWithin ('Σ' :: a.reverse) b after = lowerFrom ('Σ' :: a.reverse) b := by
      rw [← lowerWithin_nil]
      exact lowerWithin_eq_iff.mpr fun x y hxy => absurd hxy (not_sigma_of_all hb)
    rw [lowerWithin_append, hfirst, List.append_nil, lowerWithin, lowerAt, if_pos rfl, hends, hlast]
    rfl

theorem lower_of_openBefore (h : OpenBefore cs) (hbefore : nextIsCased before) :
    ∃ u w, lowerFrom [] cs = u ++ 'σ' :: w ∧ lowerFrom before cs = u ++ 'ς' :: w := by
  obtain ⟨a, b, rfl, ha, hb⟩ := h
  have hall : a.reverse.all isCaseIgnorable := List.all_reverse.trans ha
  refine ⟨lowerWithin [] a ('Σ' :: b), lowerFrom ('Σ' :: a.reverse) b, ?_, ?_⟩
  · have hends : endsWord a.reverse b = false := by
      rw [endsWord, nextIsCased_of_all hall, Bool.false_and]
    rw [lowerFrom_append, List.append_nil, lowerFrom_cons, lowerAt, if_pos rfl, hends]
    rfl
  · have hends : endsWord (a.reverse ++ before) b = true := by
      rw [endsWord, nextIsCased_append, if_pos hall, hbefore, hb]
      rfl
    have hfirst : lowerWithin before a ('Σ' :: b) = lowerWithin [] a ('Σ' :: b) :=
      lowerWithin_eq_iff.mpr fun x y hxy => absurd hxy (not_sigma_of_all ha)
    have hlast : lowerFrom ('Σ' :: (a.reverse ++ before)) b = lowerFrom ('Σ' :: a.reverse) b := by
      rw [← lowerWithin_nil, ← lowerWithin_nil]
      refine lowerWithin_eq_iff.mpr fun x y _ => ?_
      rw [endsWord, endsWord, nextIsCased_append_sigma x.reverse (a.reverse ++ before) a.reverse]
    rw [lowerFrom_append, hfirst, lowerFrom_cons, lowerAt, if_pos rfl, hends, hlast]
    rfl

theorem nextIsCased_letter : nextIsCased ['a'] = true := by decide

/-- With a letter behind its open end the text is no longer found: there is one final sigma too few. -/
theorem not_infix_of_openAfter (h : OpenAfter cs) :
    ¬lowerFrom [] cs <:+: lowerFrom [] (cs ++ ['a']) := by
  intro hinfix
  obtain ⟨u, w, halone, hwithin⟩ := lower_of_openAfter h nextIsCased_letter
  have hletter : lowerFrom (cs.reverse ++ []) ['a'] = ['a'] := rfl
  have hcount := hinfix.sublist.count_le 'ς'
  rw [lowerFrom_append, halone, hwithin, hletter] at hcount
  simp only [List.count_append, List.count_cons_self, List.count_cons_of_ne, List.count_nil, ne_eq,
    Char.reduceEq, not_false_eq_true] at hcount
  omega

theorem not_infix_of_openBefore (h : OpenBefore cs) :
    ¬lowerFrom [] cs <:+: lowerFrom [] ('a' :: cs) := by
  intro hinfix
  obtain ⟨u, w, halone, hwithin⟩ := lower_of_openBefore h nextIsCased_letter
  have hletter : lowerFrom [] ('a' :: cs) = 'a' :: lowerFrom ['a'] cs := rfl
  have hcount := hinfix.sublist.count_le 'σ'
  rw [hletter, halone, hwithin] at hcount
  simp only [List.count_append, List.count_cons_self, List.count_cons_of_ne, ne_eq, Char.reduceEq,
    not_false_eq_true]
    at hcount
  omega

end StubServer.Text
