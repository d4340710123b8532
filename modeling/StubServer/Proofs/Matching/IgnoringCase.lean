import StubServer.Matching.StringTest
import StubServer.Proofs.Text.Lowering

namespace StubServer

namespace Text

theorem occursIn_iff {needle cs : List Char} : occursIn needle cs ↔ needle <:+: cs := by
  induction cs with
  | nil => rw [occursIn, List.isEmpty_iff, List.infix_nil]
  | cons c rest ih => rw [occursIn, Bool.or_eq_true, List.isPrefixOf_iff_prefix, ih, List.infix_cons_iff]

theorem startsWith_iff {text lead : String} : startsWith text lead ↔ ∃ rest, text = lead ++ rest := by
  rw [startsWith, List.isPrefixOf_iff_prefix]
  constructor
  · rintro ⟨rest, h⟩
    exact ⟨.ofList rest, String.toList_inj.mp (by simp [h])⟩
  · rintro ⟨rest, rfl⟩
    exact ⟨rest.toList, String.toList_append.symm⟩

theorem endsWith_iff {text tail : String} : endsWith text tail ↔ ∃ lead, text = lead ++ tail := by
  rw [endsWith, List.isSuffixOf_iff_suffix]
  constructor
  · rintro ⟨lead, h⟩
    exact ⟨.ofList lead, String.toList_inj.mp (by simp [h])⟩
  · rintro ⟨lead, rfl⟩
    exact ⟨lead.toList, String.toList_append.symm⟩

theorem contains_iff {text needle : String} : contains text needle ↔
    ∃ lead rest, text = lead ++ needle ++ rest := by
  rw [contains, occursIn_iff]
  constructor
  · rintro ⟨lead, rest, h⟩
    exact ⟨.ofList lead, .ofList rest, String.toList_inj.mp (by simp [← h])⟩
  · rintro ⟨lead, rest, rfl⟩
    exact ⟨lead.toList, rest.toList, by simp⟩

theorem toList_lower (s : String) : (lower s).toList = lowerFrom [] s.toList := String.toList_ofList

theorem toList_lower_append (lead s rest : String) : (lower (lead ++ s ++ rest)).toList =
    lowerWithin [] lead.toList (s.toList ++ rest.toList) ++
      lowerWithin lead.toList.reverse s.toList rest.toList ++
        lowerFrom (s.toList.reverse ++ lead.toList.reverse) rest.toList := by
  rw [toList_lower, String.toList_append, String.toList_append, List.append_assoc, lowerFrom_append,
    lowerFrom_append, List.append_nil, List.append_assoc]

end Text

namespace Matching.StringMatcher

open Text (OpenAfter OpenBefore Shifts lower lowerFrom lowerWithin)

variable {m : StringMatcher} {s : String} {caseSensitive : Bool}

/-- The comparison accepts the value, with regard to case or without. -/
def Accepts (m : StringMatcher) (caseSensitive : Bool) (value : String) : Prop :=
  ∃ test, m.compile? caseSensitive = some test ∧ test.accepts (some value)

/-- A literal comparison with the text `s`. -/
inductive LooksFor (s : String) : StringMatcher → Prop where
  | equals : LooksFor s (.equals s)
  | contains : LooksFor s (.contains s)
  | startsWith : LooksFor s (.startsWith s)
  | endsWith : LooksFor s (.endsWith s)

/-- The comparison lets its text stand between these two. -/
def Allows (lead rest : String) : StringMatcher → Prop
  | .equals _ => lead = "" ∧ rest = ""
  | .startsWith _ => lead = ""
  | .endsWith _ => rest = ""
  | .contains _ => True
  | .matchesPattern _ | .present _ => False

/-- The text is open at an end where the comparison lets others stand. -/
def IsExposed : StringMatcher → Prop
  | .startsWith s => OpenAfter s.toList
  | .endsWith s => OpenBefore s.toList
  | .contains s => OpenBefore s.toList ∨ OpenAfter s.toList
  | .equals _ | .matchesPattern _ | .present _ => False

def folded (caseSensitive : Bool) (text : String) : String := if caseSensitive then text else lower text

theorem accepts_iff (h : m.LooksFor s) (caseSensitive : Bool) (value : String) :
    m.Accepts caseSensitive value ↔
      ∃ lead rest, m.Allows lead rest ∧ folded caseSensitive value = lead ++
        folded caseSensitive s ++ rest := by
  cases h with
  | equals =>
    simp [Accepts, compile?, comparison?, StringTest.accepts, Comparison.holds, Operand.of,
      Operand.test, Allows, folded, and_assoc]
  | contains =>
    simp [Accepts, compile?, comparison?, StringTest.accepts, Comparison.holds, Operand.of,
      Operand.test, Allows, folded, Text.contains_iff]
  | startsWith =>
    simp [Accepts, compile?, comparison?, StringTest.accepts, Comparison.holds, Operand.of,
      Operand.test, Allows, folded, Text.startsWith_iff]
  | endsWith =>
    simp [Accepts, compile?, comparison?, StringTest.accepts, Comparison.holds, Operand.of,
      Operand.test, Allows, folded, Text.endsWith_iff]

theorem accepts_true_iff (h : m.LooksFor s) (value : String) :
    m.Accepts true value ↔ ∃ lead rest, m.Allows lead rest ∧ value = lead ++ s ++ rest :=
  accepts_iff h true value

theorem accepts_false_iff (h : m.LooksFor s) (value : String) :
    m.Accepts false value ↔ ∃ lead rest, m.Allows lead rest ∧ lower value = lead ++ lower s ++ rest :=
  accepts_iff h false value

theorem Allows.of_imp {lead lead' rest rest' : String} (h : m.Allows lead rest)
    (hlead : lead = "" → lead' = "") (hrest : rest = "" → rest' = "") : m.Allows lead' rest' := by
  cases m with
  | equals s => exact ⟨hlead h.1, hrest h.2⟩
  | contains s => exact trivial
  | startsWith s => exact hlead h
  | endsWith s => exact hrest h
  | matchesPattern pattern => exact h
  | present expected => exact h

theorem accepts_of_not_shifts (h : m.LooksFor s) {lead rest : String} (hallows : m.Allows lead rest)
    (hnot : ¬Shifts lead.toList.reverse s.toList rest.toList) : m.Accepts false (lead ++ s ++ rest) := by
  rw [accepts_false_iff h]
  refine ⟨.ofList (lowerWithin [] lead.toList (s.toList ++ rest.toList)),
    .ofList (lowerFrom (s.toList.reverse ++ lead.toList.reverse) rest.toList), hallows.of_imp ?_ ?_, ?_⟩
  · rintro rfl
    rfl
  · rintro rfl
    rfl
  · rw [← String.toList_inj, Text.toList_lower_append, Text.lowerWithin_eq_lowerFrom_iff.mpr hnot,
      String.toList_append, String.toList_append, String.toList_ofList, String.toList_ofList,
        Text.toList_lower]

theorem not_accepts_of_shifts (h : m.LooksFor s) (hcontains : m ≠ .contains s) {lead rest : String}
    (hallows : m.Allows lead rest) (hshifts : Shifts lead.toList.reverse s.toList rest.toList) :
    ¬m.Accepts false (lead ++ s ++ rest) := by
  rw [accepts_false_iff h]
  rintro ⟨lead', rest', hallows', hlower⟩
  have hpieces := congrArg String.toList hlower
  rw [Text.toList_lower_append, String.toList_append, String.toList_append, Text.toList_lower] at hpieces
  apply Text.lowerWithin_eq_lowerFrom_iff.mp ?_ hshifts
  have hlength : (lowerWithin lead.toList.reverse s.toList rest.toList).length =
    (lowerFrom [] s.toList).length := by
    rw [← Text.lowerWithin_nil]
    exact Text.length_lowerWithin ..
  cases h with
  | equals =>
    obtain ⟨rfl, rfl⟩ := hallows
    exact Text.lowerWithin_nil [] s.toList
  | contains => exact absurd rfl hcontains
  | startsWith =>
    obtain rfl : lead = "" := hallows
    obtain rfl : lead' = "" := hallows'
    exact (List.append_inj hpieces hlength).1
  | endsWith =>
    obtain rfl : rest = "" := hallows
    obtain rfl : rest' = "" := hallows'
    simp only [String.toList_empty, lowerFrom, List.append_nil] at hpieces hlength ⊢
    exact (List.append_inj' hpieces hlength).2

theorem not_shifts_of_not_isExposed (h : m.LooksFor s) (hsafe : ¬m.IsExposed) {lead rest : String}
    (hallows : m.Allows lead rest) : ¬Shifts lead.toList.reverse s.toList rest.toList := by
  cases h with
  | equals =>
    obtain ⟨rfl, rfl⟩ := hallows
    exact Text.not_shifts_nil s.toList
  | contains =>
    exact Text.not_shifts_of_closed (fun hopen => hsafe (.inl hopen)) fun hopen => hsafe (.inr hopen)
  | startsWith =>
    obtain rfl : lead = "" := hallows
    exact fun hshifts => hsafe (Text.shifts_after_iff.mp hshifts).1
  | endsWith =>
    obtain rfl : rest = "" := hallows
    exact fun hshifts => hsafe (Text.shifts_before_iff.mp hshifts).1

theorem infix_of_accepts (h : m.LooksFor s) {value : String} (haccepts : m.Accepts false value) :
    lowerFrom [] s.toList <:+: lowerFrom [] value.toList := by
  obtain ⟨lead, rest, -, hlower⟩ := (accepts_false_iff h value).mp haccepts
  refine ⟨lead.toList, rest.toList, ?_⟩
  rw [← Text.toList_lower, ← Text.toList_lower, hlower, String.toList_append, String.toList_append]

theorem exists_narrower (h : m.LooksFor s) (hexposed : m.IsExposed) :
    ∃ value, m.Accepts true value ∧ ¬m.Accepts false value := by
  have hbehind (hopen : OpenAfter s.toList) : ¬m.Accepts false (s ++ "a") := fun haccepts =>
    Text.not_infix_of_openAfter hopen (by simpa using infix_of_accepts h haccepts)
  have hinFront (hopen : OpenBefore s.toList) : ¬m.Accepts false ("a" ++ s) := fun haccepts =>
    Text.not_infix_of_openBefore hopen (by simpa using infix_of_accepts h haccepts)
  simp only [accepts_true_iff h]
  cases h with
  | equals => exact hexposed.elim
  | contains =>
    obtain hopen | hopen := hexposed
    · exact ⟨"a" ++ s, ⟨"a", "", trivial, by simp⟩, hinFront hopen⟩
    · exact ⟨s ++ "a", ⟨"", "a", trivial, by simp⟩, hbehind hopen⟩
  | startsWith => exact ⟨s ++ "a", ⟨"", "a", rfl, by simp⟩, hbehind hexposed⟩
  | endsWith => exact ⟨"a" ++ s, ⟨"a", "", rfl, by simp⟩, hinFront hexposed⟩

/-- What ignoring case makes of the values that a comparison with `s` accepts with regard to case,
which are those that hold `s` at an allowed place. It keeps those in which no sigma of `s` shifts
there, and no others, unless it may find the text elsewhere; and it keeps all of them exactly if the
comparison is not exposed. -/
structure Widens (m : StringMatcher) (s : String) : Prop where
  accepts_iff : ∀ value, m.Accepts true value ↔ ∃ lead rest, m.Allows lead rest ∧
    value = lead ++ s ++ rest
  kept : ∀ lead rest, m.Allows lead rest → ¬Shifts lead.toList.reverse s.toList rest.toList →
    m.Accepts false (lead ++ s ++ rest)
  lost : m ≠ .contains s → ∀ lead rest, m.Allows lead rest →
    Shifts lead.toList.reverse s.toList rest.toList → ¬m.Accepts false (lead ++ s ++ rest)
  always_iff : (∀ value, m.Accepts true value → m.Accepts false value) ↔ ¬m.IsExposed

theorem ignoring_case_widens (h : m.LooksFor s) : m.Widens s := by
  refine ⟨accepts_true_iff h, fun lead rest => accepts_of_not_shifts h,
    fun hcontains lead rest => not_accepts_of_shifts h hcontains, ?_⟩
  constructor
  · intro hall hexposed
    obtain ⟨value, hstrict, hloose⟩ := exists_narrower h hexposed
    exact hloose (hall value hstrict)
  · intro hsafe value hstrict
    obtain ⟨lead, rest, hallows, rfl⟩ := (accepts_true_iff h value).mp hstrict
    exact accepts_of_not_shifts h hallows (not_shifts_of_not_isExposed h hsafe hallows)

/-- A text that ends in a sigma is open behind: the comparison loses the values that go on with a
letter. -/
theorem ignoring_case_widens_openAfter :
    (StringMatcher.startsWith "ΑΣ").LooksFor "ΑΣ" ∧ (StringMatcher.startsWith "ΑΣ").Widens "ΑΣ" :=
  ⟨.startsWith, ignoring_case_widens .startsWith⟩

/-- With regard to case the value has this beginning; without, it has not. -/
theorem narrower_without_case :
    (StringMatcher.startsWith "ΑΣ").Accepts true "ΑΣΑ" ∧
      ¬(StringMatcher.startsWith "ΑΣ").Accepts false "ΑΣΑ" := by
  constructor
  · exact ⟨_, rfl, by decide⟩
  · rintro ⟨test, htest, haccepts⟩
    cases htest
    revert haccepts
    decide

end Matching.StringMatcher

end StubServer
