import StubServer.Matching.Specification

namespace StubServer.Matching

open StubServer.Request (Head BodyError)

/-- The verdict that stands for a test: an error counts as a rejection. -/
def passes : Except MatchError Bool → Bool
  | .ok passed => passed
  | .error _ => false

/-- The matcher with a predicate that says no where the other fails or panics. -/
def Matcher.calm {α : Type} (m : Matcher α) : Matcher α :=
  .ofBool m.description fun a => passes (m.test a)

namespace Matcher

variable {α : Type}

theorem test_calm (m : Matcher α) (a : α) : m.calm.test a = .ok (passes (m.test a)) := rfl

theorem testAll_calm (ms : List (Matcher α)) (a : α) :
    testAll (ms.map calm) a = .ok (passes (testAll ms a)) := by
  induction ms with
  | nil => rfl
  | cons m ms ih =>
    have htest := test_calm m a
    cases h : m.test a with
    | error e =>
      rw [h] at htest
      simp only [List.map_cons, testAll, htest, h]
      rfl
    | ok passed =>
      rw [h] at htest
      cases passed with
      | false =>
        simp only [List.map_cons, testAll, htest, h]
        rfl
      | true =>
        simp only [List.map_cons, testAll, htest, h]
        exact ih

end Matcher

namespace Specification

variable {P : Type}

def calm (spec : Specification P) : Specification P :=
  ⟨spec.method.map .calm, spec.path.map .calm, spec.headers.map .calm, spec.body.map .calm,
    spec.bodyText.map .calm, spec.priority, spec.decoder⟩

theorem testOptional_calm {α : Type} (m? : Option (Matcher α)) (a : α) :
    testOptional (m?.map .calm) a = .ok (passes (testOptional m? a)) := by
  cases m? with
  | none => rfl
  | some m => rfl

theorem onHead_calm (spec : Specification P) (head : Head) :
    spec.calm.onHead head = .ok (passes (spec.onHead head)) := by
  have hmethod := testOptional_calm spec.method head.method
  have hpath := testOptional_calm spec.path head.path
  have hheaders := Matcher.testAll_calm spec.headers head.headers
  simp only [onHead, calm, hmethod, hpath, hheaders]
  cases testOptional spec.method head.method with
  | error e => rfl
  | ok passed =>
    cases passed with
    | false => rfl
    | true =>
      cases testOptional spec.path head.path with
      | error e => rfl
      | ok passed => cases passed <;> rfl

theorem needsBody_calm (spec : Specification P) : spec.calm.needsBody = spec.needsBody := by
  simp [needsBody, calm]

theorem describeAll_calm {α : Type} (ms : List (Matcher α)) :
    Matcher.describeAll (ms.map .calm) = Matcher.describeAll ms := by
  have hdescriptions : (ms.map Matcher.calm).map Matcher.description = ms.map Matcher.description := by
    simp [Matcher.calm, Matcher.ofBool]
  simp only [Matcher.describeAll, Text.shownList, hdescriptions]

theorem describe_calm (spec : Specification P) : spec.calm.describe = spec.describe := by
  have hone : ∀ m? : Option (Matcher String), (m?.map Matcher.calm).map Matcher.description =
      m?.map Matcher.description := by
    intro m?
    cases m? <;> rfl
  simp only [describe, calm, hone, Option.isSome_map, List.isEmpty_map, describeAll_calm]
  rfl

end Specification

/-- What a find goes by: whether the specification accepts, unless a decoder panics. An error is a
rejection. -/
def Ruling.verdict : Ruling → Except String Bool
  | .settled result => .ok (passes result)
  | .escaped reason => .error reason

namespace Specification

variable {P : Type}

theorem verdict_onBytes_calm (spec : Specification P) (bytes : Bytes) :
    (spec.calm.onBytes bytes).ruling.verdict = (spec.onBytes bytes).ruling.verdict := by
  have htext : spec.calm.onText bytes = .ok (passes (spec.onText bytes)) :=
    Matcher.testAll_calm spec.bodyText _
  have hempty : spec.calm.body.isEmpty = spec.body.isEmpty := List.isEmpty_map
  have hdecoder : spec.calm.decoder = spec.decoder := rfl
  rw [onBytes, onBytes, hempty, hdecoder, htext]
  split
  · rfl
  · cases spec.decoder.decode bytes with
    | failed reason => rfl
    | panicked reason => rfl
    | returned payload =>
      have hbody : Matcher.testAll spec.calm.body payload =
        .ok (passes (Matcher.testAll spec.body payload)) :=
        Matcher.testAll_calm spec.body payload
      simp only [hbody]
      cases Matcher.testAll spec.body payload with
      | error e => rfl
      | ok passed => cases passed <;> rfl

theorem verdict_onBody_calm (spec : Specification P) (outcome : Except BodyError Bytes) :
    (spec.calm.onBody outcome).ruling.verdict = (spec.onBody outcome).ruling.verdict := by
  cases outcome with
  | error e => rfl
  | ok bytes => exact verdict_onBytes_calm spec bytes

/-- A decoder that may fail, but does not panic. -/
def Decodes (spec : Specification P) : Prop := ∀ bytes reason,
    spec.decoder.decode bytes ≠ .panicked reason

theorem verdict_onBytes_of_decodes {spec : Specification P} (h : spec.Decodes) (bytes : Bytes) :
    ∃ passed, (spec.onBytes bytes).ruling.verdict = .ok passed := by
  rw [onBytes]
  split
  · exact ⟨_, rfl⟩
  · cases hdecode : spec.decoder.decode bytes with
    | failed reason => exact ⟨_, rfl⟩
    | panicked reason => exact absurd hdecode (h bytes reason)
    | returned payload =>
      simp only
      split <;> exact ⟨_, rfl⟩

theorem verdict_onBody_of_decodes {spec : Specification P} (h : spec.Decodes)
    (outcome : Except BodyError Bytes) :
    ∃ passed, (spec.onBody outcome).ruling.verdict = .ok passed := by
  cases outcome with
  | error e => exact ⟨_, rfl⟩
  | ok bytes => exact verdict_onBytes_of_decodes h bytes

end Specification

end StubServer.Matching
