import StubServer.Matching.Build
import StubServer.Proofs.Success

namespace StubServer

open Matching Http

namespace Http.Headers

variable {headers : Headers} {name : String}

theorem contains_of_mem_getAll {value : Bytes} (h : value ∈ headers.getAll name) :
    headers.contains name := by
  rw [getAll] at h
  cases hlookup : headers.entries.lookup name with
  | none =>
    rw [hlookup] at h
    cases h
  | some values =>
    obtain ⟨before, after, hentries, -⟩ := List.lookup_eq_some_iff.mp hlookup
    rw [contains, hentries]
    simp

/-- The header is there, and none of its values is text. -/
def IsOpaque (headers : Headers) (name : String) : Prop :=
  headers.contains name ∧ ∀ value ∈ headers.getAll name, visibleText? value = none

end Http.Headers

namespace Matching

namespace Matcher

variable {α : Type}

/-- The matcher comes back and says yes. -/
def Passes (m : Matcher α) (a : α) : Prop := m.test a = .ok true

theorem passes_ofBool {description : String} {p : α → Bool} {a : α} :
    (ofBool description p).Passes a ↔ p a := by
  rw [Passes, test, ofBool, Except.ok.injEq]

end Matcher

variable {headers : Headers} {name header value : String} {test : StringTest}

theorem passes_headerExists : (headerExists header).Passes headers ↔ headers.contains header :=
  Matcher.passes_ofBool

theorem passes_headerIs : (headerIs header value).Passes headers ↔
    ∃ v ∈ headers.getAll header, visibleText? v = some value := by
  rw [headerIs, Matcher.passes_ofBool, List.any_eq_true]
  simp only [beq_iff_eq]

theorem passes_headerPasses : (headerPasses header test).Passes headers ↔
    (∃ v ∈ headers.getAll header, ∃ text, visibleText? v = some text ∧ test.accepts (some text)) ∨
      (∀ v ∈ headers.getAll header, visibleText? v = none) ∧ test.accepts none := by
  rw [headerPasses, Matcher.passes_ofBool]
  cases htexts : (headers.getAll header).filterMap visibleText? with
  | nil =>
    rw [List.filterMap_eq_nil_iff] at htexts
    have hnone : ¬∃ v ∈ headers.getAll header, ∃ text, visibleText? v = some text ∧
      test.accepts (some text) := by
      rintro ⟨v, hv, text, htext, -⟩
      cases (htexts v hv).symm.trans htext
    rw [or_iff_right hnone, and_iff_right htexts]
  | cons first rest =>
    have hsome : ¬∀ v ∈ headers.getAll header, visibleText? v = none := by
      rw [← List.filterMap_eq_nil_iff, htexts]
      exact List.cons_ne_nil first rest
    rw [or_iff_left fun h => hsome h.1, List.any_eq_true, ← htexts]
    simp only [List.mem_filterMap]
    constructor
    · rintro ⟨text, ⟨v, hv, htext⟩, haccepts⟩
      exact ⟨v, hv, text, htext, haccepts⟩
    · rintro ⟨v, hv, text, htext, haccepts⟩
      exact ⟨text, ⟨v, hv, htext⟩, haccepts⟩

theorem passes_headerPasses_of_absent (habsent : test.accepts none = false) :
    (headerPasses header test).Passes headers ↔
      ∃ v ∈ headers.getAll header, ∃ text, visibleText? v = some text ∧ test.accepts (some text) := by
  rw [passes_headerPasses, habsent, or_iff_left fun h => Bool.false_ne_true h.2]

theorem headerMatching_eq_ok {m : StringMatcher} {caseSensitive : Bool} {matcher : Matcher Headers} :
    headerMatching name m caseSensitive = .ok matcher ↔ ∃ header test, headerNamed? name = some header ∧
      m.compile? caseSensitive = some test ∧ matcher = headerPasses header test := by
  rw [headerMatching]
  cases headerNamed? name with
  | none => simp
  | some header =>
    rw [map_eq_ok]
    simp only [compile]
    cases m.compile? caseSensitive <;> simp [eq_comm]

theorem passes_equals_iff :
    (headerPasses header ⟨.equals (.of value true), .equals value⟩).Passes headers ↔
    (headerIs header value).Passes headers := by
  rw [passes_headerPasses_of_absent rfl, passes_headerIs]
  simp [StringTest.accepts, Comparison.holds, Operand.test, Operand.of]

theorem passes_present_iff : (headerPasses header ⟨.present true, .present true⟩).Passes headers ↔
    ∃ v ∈ headers.getAll header, ∃ text, visibleText? v = some text := by
  rw [passes_headerPasses_of_absent rfl]
  simp [StringTest.accepts, Comparison.holds]

theorem passes_absent_iff : (headerPasses header ⟨.present false, .present false⟩).Passes headers ↔
    ∀ v ∈ headers.getAll header, visibleText? v = none := by
  rw [passes_headerPasses]
  simp [StringTest.accepts, Comparison.holds]

/-- How the two demands that name no comparison go together with the matchers of the comparisons
`exists: true`, `exists: false` and `equals`: that a header is there goes with the first two unless
the header is opaque, and that it has a value always goes with the third. -/
structure FormsAgree (header value : String) (headers : Headers)
    (present absent equal : Matcher Headers) : Prop where
  opposite : absent.Passes headers ↔ ¬present.Passes headers
  exists_iff : (headerExists header).Passes headers ↔ present.Passes headers ∨ headers.IsOpaque header
  agree_iff : ((headerExists header).Passes headers ↔ present.Passes headers) ↔ ¬headers.IsOpaque header
  value_iff : (headerIs header value).Passes headers ↔ equal.Passes headers

theorem formsAgree (header value : String) (headers : Headers) : FormsAgree header value headers
    (headerPasses header ⟨.present true, .present true⟩)
      (headerPasses header ⟨.present false, .present false⟩)
    (headerPasses header ⟨.equals (.of value true), .equals value⟩) := by
  have hopposite : (∀ v ∈ headers.getAll header, visibleText? v = none) ↔
      ¬∃ v ∈ headers.getAll header, ∃ text, visibleText? v = some text := by
    simp [Option.eq_none_iff_forall_ne_some]
  have hpresent : (∃ v ∈ headers.getAll header, ∃ text, visibleText? v = some text) →
    headers.contains header :=
    fun ⟨_, hv, _⟩ => Headers.contains_of_mem_getAll hv
  have hexists : headers.contains header ↔
      (∃ v ∈ headers.getAll header, ∃ text, visibleText? v = some text) ∨ headers.IsOpaque header := by
    rw [Headers.IsOpaque, hopposite]
    constructor
    · intro hcontains
      exact (Classical.em _).imp_right fun hno => ⟨hcontains, hno⟩
    · exact fun h => h.elim hpresent And.left
  constructor
  case opposite => rwa [passes_absent_iff, passes_present_iff]
  case exists_iff => rwa [passes_headerExists, passes_present_iff]
  case agree_iff =>
    rw [passes_headerExists, passes_present_iff, hexists, or_iff_left_iff_imp]
    exact ⟨fun h hblank => hopposite.mp hblank.2 (h hblank), fun h hblank => absurd hblank h⟩
  case value_iff => exact passes_equals_iff.symm

/-- Whatever the header is called, the comparisons can be built, and the forms agree unless the
header is opaque. -/
theorem header_forms_agree (hname : headerNamed? name = some header) (value : String)
    (caseSensitive : Bool) :
    ∃ present absent equal, headerMatching name (.present true) caseSensitive = .ok present ∧
      headerMatching name (.present false) caseSensitive = .ok absent ∧
      headerMatching name (.equals value) true = .ok equal ∧
      ∀ headers, FormsAgree header value headers present absent equal :=
  ⟨_, _, _, headerMatching_eq_ok.mpr ⟨header, _, hname, rfl, rfl⟩,
    headerMatching_eq_ok.mpr ⟨header, _, hname, rfl, rfl⟩,
    headerMatching_eq_ok.mpr ⟨header, _, hname, rfl, rfl⟩, formsAgree header value⟩

theorem header_forms_agree_trace : headerNamed? "X-Trace" = some "x-trace" ∧ ∃ present absent equal,
    headerMatching "X-Trace" (.present true) false = .ok present ∧
      headerMatching "X-Trace" (.present false) false = .ok absent ∧
      headerMatching "X-Trace" (.equals "abc") true = .ok equal ∧
      ∀ headers, FormsAgree "x-trace" "abc" headers present absent equal :=
  ⟨by decide, header_forms_agree (by decide) "abc" false⟩

def opaqueTrace : Headers := .ofList [("x-trace", [0xe9])]

/-- It is there, and the comparisons say that it is not. -/
theorem opaque_counts_as_absent : headerNamed? "X-Trace" = some "x-trace" ∧
    (headerExists "x-trace").Passes opaqueTrace ∧
    ∃ present absent, headerMatching "X-Trace" (.present true) true = .ok present ∧
      headerMatching "X-Trace" (.present false) true = .ok absent ∧
      ¬present.Passes opaqueTrace ∧ absent.Passes opaqueTrace := by
  have hname : headerNamed? "X-Trace" = some "x-trace" := by decide
  have hnone : ∀ v ∈ opaqueTrace.getAll "x-trace", visibleText? v = none := by decide
  refine ⟨hname, passes_headerExists.mpr (by decide), _, _,
    headerMatching_eq_ok.mpr ⟨_, _, hname, rfl, rfl⟩,
    headerMatching_eq_ok.mpr ⟨_, _, hname, rfl, rfl⟩, ?_, ?_⟩
  · rw [passes_present_iff]
    rintro ⟨v, hv, text, htext⟩
    cases (hnone v hv).symm.trans htext
  · exact passes_absent_iff.mpr hnone

end Matching

end StubServer
