import Mathlib.Data.List.Induction
import StubServer.Matching.Specification

namespace StubServer.Matching

open StubServer.Request (Head BodyError)

def Evaluation.passed : Evaluation → Bool
  | ⟨.settled (.ok true), _⟩ => true
  | _ => false

theorem Evaluation.passed_iff {e : Evaluation} : e.passed ↔ e.ruling = .settled (.ok true) := by
  obtain ⟨ruling, log⟩ := e
  cases ruling with
  | escaped reason => simp [passed]
  | settled result =>
    cases result with
    | error e => simp [passed]
    | ok verdict => cases verdict <;> simp [passed]

/-- The first evaluation that is not a pass; with none left, a pass. -/
def decisive : List Evaluation → Evaluation
  | [] => ⟨.settled (.ok true), []⟩
  | e :: rest => if e.passed then decisive rest else e

theorem decisive_append (first rest : List Evaluation) :
    decisive (first ++ rest) = if (decisive first).passed then decisive rest else decisive first := by
  induction first with
  | nil => rfl
  | cons e first ih =>
    rw [List.cons_append, decisive, decisive]
    by_cases he : e.passed
    · rw [if_pos he, if_pos he]
      exact ih
    · rw [if_neg he, if_neg he, if_neg he]

theorem passed_decisive {evaluations : List Evaluation} :
    (decisive evaluations).passed ↔ ∀ e ∈ evaluations, e.passed := by
  induction evaluations with
  | nil => simp [decisive, Evaluation.passed]
  | cons e rest ih =>
    rw [decisive, List.forall_mem_cons]
    by_cases he : e.passed
    · rw [if_pos he, ih]
      exact (and_iff_right he).symm
    · rw [if_neg he]
      exact ⟨fun h => absurd h he, fun h => h.1⟩

theorem decisive_of_first {before after : List Evaluation} {e : Evaluation}
    (hbefore : ∀ b ∈ before, b.passed) (he : ¬e.passed) : decisive (before ++ e :: after) = e := by
  rw [decisive_append, if_pos (passed_decisive.mpr hbefore), decisive, if_neg he]

theorem exists_first {α : Type} {p : α → Bool} {l : List α} (h : ¬∀ a ∈ l, p a) :
    ∃ before a after, l = before ++ a :: after ∧ (∀ b ∈ before, p b) ∧ ¬p a := by
  induction l with
  | nil => exact absurd (fun a ha => absurd ha List.not_mem_nil) h
  | cons a rest ih =>
    by_cases ha : p a
    · obtain ⟨before, c, after, rfl, hbefore, hc⟩ := ih fun hrest =>
        h (List.forall_mem_cons.mpr ⟨ha, hrest⟩)
      exact ⟨a :: before, c, after, rfl, List.forall_mem_cons.mpr ⟨ha, hbefore⟩, hc⟩
    · exact ⟨[], a, rest, rfl, fun b hb => absurd hb List.not_mem_nil, ha⟩

namespace Criterion

variable {P : Type}

def looksAtBody : Criterion P → Bool
  | .body _ | .bodyText _ => true
  | .method _ | .path _ | .header _ | .priority _ => false

/-- What comes of one criterion, asked for itself of a request with this head whose body, if it is
looked at, is read with this result. -/
def ask (decoder : Decoder P) (head : Head) (result : Except BodyError Bytes) : Criterion P → Evaluation
  | .method m => ⟨.settled (m.test head.method), []⟩
  | .path m => ⟨.settled (m.test head.path), []⟩
  | .header m => ⟨.settled (m.test head.headers), []⟩
  | .body m =>
    match result with
    | .error e => ⟨.settled (.error (.body e)), []⟩
    | .ok bytes =>
      match decoder.decode bytes with
      | .returned payload => ⟨.settled (m.test payload), []⟩
      | .failed reason => ⟨.settled (.ok false), [(Specification.any decoder).undecodable bytes reason]⟩
      | .panicked reason => ⟨.escaped reason, []⟩
  | .bodyText m =>
    match result with
    | .error e => ⟨.settled (.error (.body e)), []⟩
    | .ok bytes => ⟨.settled (m.test (Text.Utf8.decodeLossy bytes)), []⟩
  | .priority _ => ⟨.settled (.ok true), []⟩

end Criterion

theorem decisive_testAll {α : Type} (ms : List (Matcher α)) (a : α) :
    decisive (ms.map fun m => ⟨.settled (m.test a), []⟩) = ⟨.settled (Matcher.testAll ms a), []⟩ := by
  induction ms with
  | nil => rfl
  | cons m ms ih =>
    simp only [List.map_cons, decisive, Matcher.testAll]
    cases m.test a with
    | error e => rfl
    | ok passed =>
      cases passed with
      | false => rfl
      | true => exact ih

namespace Specification

variable {P : Type} {spec : Specification P} {request : Request}

def headCriteria (spec : Specification P) : List (Criterion P) :=
  spec.method.toList.map .method ++ spec.path.toList.map .path ++ spec.headers.map .header

def bodyCriteria (spec : Specification P) : List (Criterion P) :=
  spec.body.map .body ++ spec.bodyText.map .bodyText

/-- The criteria in the order in which they are asked. -/
def criteria (spec : Specification P) : List (Criterion P) := spec.headCriteria ++ spec.bodyCriteria

theorem looksAtBody_headCriteria : ∀ c ∈ spec.headCriteria, c.looksAtBody = false := by
  intro c hc
  simp only [headCriteria, List.mem_append, List.mem_map] at hc
  obtain (⟨m, -, rfl⟩ | ⟨m, -, rfl⟩) | ⟨m, -, rfl⟩ := hc <;> rfl

theorem looksAtBody_bodyCriteria : ∀ c ∈ spec.bodyCriteria, c.looksAtBody = true := by
  intro c hc
  simp only [bodyCriteria, List.mem_append, List.mem_map] at hc
  obtain ⟨m, -, rfl⟩ | ⟨m, -, rfl⟩ := hc <;> rfl

theorem needsBody_iff : spec.needsBody ↔ spec.bodyCriteria ≠ [] := by
  cases hbody : spec.body <;> cases htext :
    spec.bodyText <;> simp [needsBody, bodyCriteria, hbody, htext]

theorem decisive_optional {α : Type} (m? : Option (Matcher α)) (a : α) :
    decisive (m?.toList.map fun m => ⟨.settled (m.test a), []⟩) =
      ⟨.settled (testOptional m? a), []⟩ := by
  cases m? with
  | none => rfl
  | some m =>
    simp only [Option.toList, List.map_cons, List.map_nil, decisive, testOptional]
    cases m.test a with
    | error e => rfl
    | ok passed => cases passed <;> rfl

theorem decisive_headCriteria (spec : Specification P) (head : Head) (result : Except BodyError Bytes) :
    decisive (spec.headCriteria.map (·.ask spec.decoder head result)) =
      ⟨.settled (spec.onHead head), []⟩ := by
  have hmethod :
    decisive ((spec.method.toList.map .method).map (Criterion.ask spec.decoder head result)) =
      ⟨.settled (testOptional spec.method head.method), []⟩ := by
    rw [List.map_map]
    exact decisive_optional spec.method head.method
  have hpath : decisive ((spec.path.toList.map .path).map (Criterion.ask spec.decoder head result)) =
      ⟨.settled (testOptional spec.path head.path), []⟩ := by
    rw [List.map_map]
    exact decisive_optional spec.path head.path
  have hheaders : decisive ((spec.headers.map .header).map (Criterion.ask spec.decoder head result)) =
      ⟨.settled (Matcher.testAll spec.headers head.headers), []⟩ := by
    rw [List.map_map]
    exact decisive_testAll spec.headers head.headers
  rw [headCriteria, List.map_append, List.map_append, decisive_append, decisive_append, hmethod,
    hpath, hheaders, onHead]
  cases testOptional spec.method head.method with
  | error e => rfl
  | ok passed =>
    cases passed with
    | false => rfl
    | true =>
      cases testOptional spec.path head.path with
      | error e => rfl
      | ok passed => cases passed <;> rfl

theorem decisive_bodyText (spec : Specification P) (head : Head) (bytes : Bytes) :
    decisive ((spec.bodyText.map .bodyText).map (Criterion.ask spec.decoder head (.ok bytes))) =
      ⟨.settled (spec.onText bytes), []⟩ := by
  rw [List.map_map]
  exact decisive_testAll spec.bodyText (Text.Utf8.decodeLossy bytes)

theorem decisive_onBytes (spec : Specification P) (head : Head) (bytes : Bytes) :
    decisive (spec.bodyCriteria.map (·.ask spec.decoder head (.ok bytes))) = spec.onBytes bytes := by
  rw [bodyCriteria, List.map_append, decisive_append, decisive_bodyText, onBytes]
  cases hbody : spec.body with
  | nil => rfl
  | cons m rest =>
    cases hdecode : spec.decoder.decode bytes with
    | failed reason =>
      simp only [List.map_cons, decisive, Criterion.ask, hdecode]
      rfl
    | panicked reason =>
      simp only [List.map_cons, decisive, Criterion.ask, hdecode]
      rfl
    | returned payload =>
      have hall : decisive (((m :: rest).map .body).map (Criterion.ask spec.decoder head (.ok bytes))) =
          ⟨.settled (Matcher.testAll (m :: rest) payload), []⟩ := by
        rw [List.map_map, ← decisive_testAll]
        congr 2
        funext m
        simp only [Function.comp, Criterion.ask, hdecode]
      rw [hall]
      simp only [List.isEmpty_cons, Bool.false_eq_true, if_false]
      cases Matcher.testAll (m :: rest) payload with
      | error e => rfl
      | ok passed => cases passed <;> rfl

theorem decisive_bodyCriteria (hneeds : spec.needsBody) (head : Head) (result : Except BodyError Bytes) :
    decisive (spec.bodyCriteria.map (·.ask spec.decoder head result)) = spec.onBody result := by
  cases result with
  | ok bytes => exact decisive_onBytes spec head bytes
  | error e =>
    -- Whichever of them is the first looks at the body.
    obtain ⟨c, rest, hcriteria⟩ := List.exists_cons_of_ne_nil (needsBody_iff.mp hneeds)
    have hc := looksAtBody_bodyCriteria c (hcriteria ▸ List.mem_cons_self)
    rw [hcriteria, List.map_cons, decisive]
    cases c with
    | body | bodyText => rfl
    | method | path | header | priority => cases hc

def LooksAtBody (spec : Specification P) (head : Head) : Prop :=
  spec.onHead head = .ok true ∧ spec.needsBody

theorem judge_of_looksAtBody {head : Head} (h : spec.LooksAtBody head) :
    spec.judge head = .onBody spec.onBody := by
  rw [judge, h.1]
  exact if_pos h.2

theorem judge_of_not_looksAtBody {head : Head} (h : ¬spec.LooksAtBody head) :
    spec.judge head = .decided (.settled (spec.onHead head)) := by
  rw [judge]
  split
  · next hhead => rw [if_neg fun hneeds => h ⟨hhead, hneeds⟩, hhead]
  · rfl

theorem evaluation_eq (spec : Specification P) (request : Request) :
    (spec.erase.evaluate request).evaluation =
    decisive (spec.criteria.map (·.ask spec.decoder request.head request.body.read.1)) := by
  rw [criteria, List.map_append, decisive_append, decisive_headCriteria]
  by_cases h : spec.LooksAtBody request.head
  · have hpassed : Evaluation.passed ⟨.settled (spec.onHead request.head), []⟩ := by
      rw [h.1]
      rfl
    rw [if_pos hpassed, decisive_bodyCriteria h.2]
    simp only [RequestMatch.evaluate, erase, judge_of_looksAtBody h]
  · simp only [RequestMatch.evaluate, erase, judge_of_not_looksAtBody h]
    by_cases hpassed : Evaluation.passed ⟨.settled (spec.onHead request.head), []⟩
    · have hhead : spec.onHead request.head = .ok true :=
        Ruling.settled.inj (Evaluation.passed_iff.mp hpassed)
      have hnone : spec.bodyCriteria = [] := by
        by_contra hne
        exact h ⟨hhead, needsBody_iff.mpr hne⟩
      rw [if_pos hpassed, hnone, hhead]
      rfl
    · rw [if_neg hpassed]

theorem read_of_looksAtBody (h : spec.LooksAtBody request.head) :
    ((spec.erase.evaluate request).body, (spec.erase.evaluate request).elapsed) =
      request.body.read.2 := by
  simp only [RequestMatch.evaluate, erase, judge_of_looksAtBody h]

theorem read_of_not_looksAtBody (h : ¬spec.LooksAtBody request.head) :
    ((spec.erase.evaluate request).body, (spec.erase.evaluate request).elapsed) = (request.body, 0) := by
  simp only [RequestMatch.evaluate, erase, judge_of_not_looksAtBody h]

def Accepts (spec : Specification P) (request : Request) : Prop :=
  (spec.erase.evaluate request).evaluation.ruling = .settled (.ok true)

/-- The request meets all criteria: if there is one for the body, then the body can be read, and if
there is one for its payload, then it can be decoded. -/
structure Meets (spec : Specification P) (request : Request) : Prop where
  method : ∀ m, spec.method = some m → m.test request.head.method = .ok true
  path : ∀ m, spec.path = some m → m.test request.head.path = .ok true
  headers : ∀ m ∈ spec.headers, m.test request.head.headers = .ok true
  readable : spec.body ≠ [] ∨ spec.bodyText ≠ [] → ∃ bytes, request.body.read.1 = .ok bytes
  decodable : spec.body ≠ [] → ∀ bytes, request.body.read.1 = .ok bytes →
    ∃ payload, spec.decoder.decode bytes = .returned payload
  body : ∀ bytes payload, request.body.read.1 = .ok bytes →
    spec.decoder.decode bytes = .returned payload → ∀ m ∈ spec.body, m.test payload = .ok true
  bodyText : ∀ bytes, request.body.read.1 = .ok bytes →
    ∀ m ∈ spec.bodyText, m.test (Text.Utf8.decodeLossy bytes) = .ok true

def AllPass (spec : Specification P) (request : Request) : Prop :=
  ∀ c ∈ spec.criteria, (c.ask spec.decoder request.head request.body.read.1).passed

theorem accepts_iff_allPass : spec.Accepts request ↔ spec.AllPass request := by
  rw [Accepts, ← Evaluation.passed_iff, evaluation_eq, passed_decisive, List.forall_mem_map, AllPass]

theorem passed_settled {result : Except MatchError Bool} {log : List LogEvent} :
    Evaluation.passed ⟨.settled result, log⟩ ↔ result = .ok true := by
  rw [Evaluation.passed_iff, Ruling.settled.injEq]

theorem passed_body {decoder : Decoder P} {head : Head} {result : Except BodyError Bytes}
    {m : Matcher P} :
    (Criterion.ask decoder head result (.body m)).passed ↔ ∃ bytes payload, result = .ok bytes ∧
      decoder.decode bytes = .returned payload ∧ m.test payload = .ok true := by
  cases result with
  | error e => simp [Criterion.ask, passed_settled]
  | ok bytes =>
    cases hdecode : decoder.decode bytes with
    | failed reason => simp [Criterion.ask, hdecode, passed_settled]
    | panicked reason => simp [Criterion.ask, hdecode, Evaluation.passed]
    | returned payload => simp [Criterion.ask, hdecode, passed_settled]

theorem passed_bodyText {decoder : Decoder P} {head : Head} {result : Except BodyError Bytes}
    {m : Matcher String} :
    (Criterion.ask decoder head result (.bodyText m)).passed ↔
      ∃ bytes, result = .ok bytes ∧ m.test (Text.Utf8.decodeLossy bytes) = .ok true := by
  cases result with
  | error e => simp [Criterion.ask, passed_settled]
  | ok bytes => simp [Criterion.ask, passed_settled]

theorem forall_mem_criteria {p : Criterion P → Prop} : (∀ c ∈ spec.criteria, p c) ↔
    (∀ m, spec.method = some m → p (.method m)) ∧ (∀ m, spec.path = some m → p (.path m)) ∧
      (∀ m ∈ spec.headers, p (.header m)) ∧ (∀ m ∈ spec.body, p (.body m)) ∧
      ∀ m ∈ spec.bodyText, p (.bodyText m) := by
  simp only [criteria, headCriteria, bodyCriteria, List.forall_mem_append, List.forall_mem_map,
    Option.mem_toList, and_assoc]

theorem meets_of_allPass (h : spec.AllPass request) : spec.Meets request := by
  obtain ⟨hmethod, hpath, hheaders, hbody, htext⟩ := forall_mem_criteria.mp h
  refine ⟨fun m hm => passed_settled.mp (hmethod m hm), fun m hm => passed_settled.mp (hpath m hm),
    fun m hm => passed_settled.mp (hheaders m hm), ?_, ?_, ?_, ?_⟩
  · intro hne
    obtain hne | hne := hne
    · obtain ⟨m, hm⟩ := List.exists_mem_of_ne_nil _ hne
      obtain ⟨bytes, -, hread, -⟩ := passed_body.mp (hbody m hm)
      exact ⟨bytes, hread⟩
    · obtain ⟨m, hm⟩ := List.exists_mem_of_ne_nil _ hne
      obtain ⟨bytes, hread, -⟩ := passed_bodyText.mp (htext m hm)
      exact ⟨bytes, hread⟩
  · intro hne bytes hbytes
    obtain ⟨m, hm⟩ := List.exists_mem_of_ne_nil _ hne
    obtain ⟨bytes', payload, hread, hdecode, -⟩ := passed_body.mp (hbody m hm)
    obtain rfl : bytes = bytes' := Except.ok.inj (hbytes.symm.trans hread)
    exact ⟨payload, hdecode⟩
  · intro bytes payload hbytes hpayload m hm
    obtain ⟨bytes', payload', hread, hdecode, htest⟩ := passed_body.mp (hbody m hm)
    obtain rfl : bytes = bytes' := Except.ok.inj (hbytes.symm.trans hread)
    obtain rfl : payload = payload' := Outcome.returned.inj (hpayload.symm.trans hdecode)
    exact htest
  · intro bytes hbytes m hm
    obtain ⟨bytes', hread, htest⟩ := passed_bodyText.mp (htext m hm)
    obtain rfl : bytes = bytes' := Except.ok.inj (hbytes.symm.trans hread)
    exact htest

theorem allPass_of_meets (h : spec.Meets request) : spec.AllPass request := by
  rw [AllPass, forall_mem_criteria]
  refine ⟨fun m hm => passed_settled.mpr (h.method m hm), fun m hm => passed_settled.mpr (h.path m hm),
    fun m hm => passed_settled.mpr (h.headers m hm), fun m hm => ?_, fun m hm => ?_⟩
  · have hne : spec.body ≠ [] := List.ne_nil_of_mem hm
    obtain ⟨bytes, hread⟩ := h.readable (.inl hne)
    obtain ⟨payload, hdecode⟩ := h.decodable hne bytes hread
    exact passed_body.mpr ⟨bytes, payload, hread, hdecode, h.body bytes payload hread hdecode m hm⟩
  · obtain ⟨bytes, hread⟩ := h.readable (.inr (List.ne_nil_of_mem hm))
    exact passed_bodyText.mpr ⟨bytes, hread, h.bodyText bytes hread m hm⟩

theorem accepts_iff_meets : spec.Accepts request ↔ spec.Meets request :=
  accepts_iff_allPass.trans ⟨meets_of_allPass, allPass_of_meets⟩

/-- The criteria up to this one pass, and this one does not. -/
structure First (spec : Specification P) (request : Request) (before : List (Criterion P))
    (c : Criterion P) (after : List (Criterion P)) : Prop where
  criteria_eq : spec.criteria = before ++ c :: after
  before_passed : ∀ b ∈ before, (b.ask spec.decoder request.head request.body.read.1).passed
  not_passed : ¬(c.ask spec.decoder request.head request.body.read.1).passed

variable {before after : List (Criterion P)} {c : Criterion P}

theorem exists_first_of_not_accepts (h : ¬spec.Accepts request) :
    ∃ before c after, spec.First request before c after := by
  rw [accepts_iff_allPass] at h
  obtain ⟨before, c, after, hcriteria, hbefore, hc⟩ := exists_first h
  exact ⟨before, c, after, hcriteria, hbefore, hc⟩

theorem First.decides (h : spec.First request before c after) :
    (spec.erase.evaluate request).evaluation = c.ask spec.decoder request.head request.body.read.1 := by
  rw [evaluation_eq, h.criteria_eq, List.map_append, List.map_cons]
  exact decisive_of_first (List.forall_mem_map.mpr h.before_passed) h.not_passed

theorem onHead_eq_true_iff (spec : Specification P) (head : Head) (result : Except BodyError Bytes) :
    spec.onHead head = .ok true ↔ ∀ b ∈ spec.headCriteria, (b.ask spec.decoder head result).passed := by
  have hpassed : (decisive (spec.headCriteria.map (·.ask spec.decoder head result))).passed ↔
      spec.onHead head = .ok true := by
    rw [decisive_headCriteria, passed_settled]
  rw [← hpassed, passed_decisive, List.forall_mem_map]

theorem looksAtBody_iff (spec : Specification P) (head : Head) : spec.LooksAtBody head ↔
    (spec.body ≠ [] ∨ spec.bodyText ≠ []) ∧ (∀ m, spec.method = some m → m.test head.method = .ok true) ∧
      (∀ m, spec.path = some m → m.test head.path = .ok true) ∧
      ∀ m ∈ spec.headers, m.test head.headers = .ok true := by
  have hneeds : spec.needsBody ↔ spec.body ≠ [] ∨ spec.bodyText ≠ [] := by simp [needsBody]
  have hhead : spec.onHead head = .ok true ↔
    (∀ m, spec.method = some m → m.test head.method = .ok true) ∧
      (∀ m, spec.path = some m → m.test head.path = .ok true) ∧
      ∀ m ∈ spec.headers, m.test head.headers = .ok true := by
    rw [onHead_eq_true_iff spec head (.ok [])]
    simp only [headCriteria, List.forall_mem_append, List.forall_mem_map, Option.mem_toList, and_assoc,
      Criterion.ask, passed_settled]
  rw [LooksAtBody, hneeds, hhead, and_comm]

theorem First.looksAtBody_iff (h : spec.First request before c after) :
    spec.LooksAtBody request.head ↔ c.looksAtBody := by
  have hhead := onHead_eq_true_iff spec request.head request.body.read.1
  -- If the criterion is about the body, all that are about the head stand before it.
  have hyes : spec.headCriteria ⊆ before → c ∈ spec.bodyCriteria →
      (spec.LooksAtBody request.head ↔ c.looksAtBody) := by
    intro hsub hc
    have hlooks : spec.LooksAtBody request.head :=
      ⟨hhead.mpr fun b hb => h.before_passed b (hsub hb), needsBody_iff.mpr (List.ne_nil_of_mem hc)⟩
    exact iff_of_true hlooks (looksAtBody_bodyCriteria c hc)
  obtain ⟨mid, hbefore, hbody⟩ | ⟨mid, hmid, hrest⟩ := List.append_eq_append_iff.mp h.criteria_eq
  · apply hyes
    · exact hbefore ▸ List.subset_append_left _ _
    · exact hbody ▸ List.mem_append_right mid List.mem_cons_self
  · cases mid with
    | nil =>
      apply hyes
      · rw [hmid, List.append_nil]
        exact List.Subset.refl before
      · rw [List.nil_append] at hrest
        exact hrest ▸ List.mem_cons_self
    | cons first mid =>
      obtain rfl : c = first := (List.cons.inj hrest).1
      have hc : c ∈ spec.headCriteria := hmid ▸ List.mem_append_right before List.mem_cons_self
      have hno : ¬c.looksAtBody := by
        rw [looksAtBody_headCriteria c hc]
        exact Bool.false_ne_true
      exact iff_of_false (fun hlooks => h.not_passed (hhead.mp hlooks.1 c hc)) hno

theorem First.read_eq (h : spec.First request before c after) :
    ((spec.erase.evaluate request).body, (spec.erase.evaluate request).elapsed) =
      if c.looksAtBody then request.body.read.2 else (request.body, 0) := by
  by_cases hc : c.looksAtBody
  · rw [if_pos hc]
    exact read_of_looksAtBody (h.looksAtBody_iff.mpr hc)
  · rw [if_neg hc]
    exact read_of_not_looksAtBody fun hlooks => hc (h.looksAtBody_iff.mp hlooks)

theorem First.unasked (h : spec.First request before c after) {spec' : Specification P}
    {after' : List (Criterion P)}
    (hdecoder : spec'.decoder = spec.decoder) (hcriteria : spec'.criteria = before ++ c :: after') :
    spec'.erase.evaluate request = spec.erase.evaluate request := by
  have h' : spec'.First request before c after' := by
    refine ⟨hcriteria, ?_, ?_⟩
    · rw [hdecoder]
      exact h.before_passed
    · rw [hdecoder]
      exact h.not_passed
  have hevaluation := h'.decides.trans (hdecoder ▸ h.decides.symm)
  have hread := h'.read_eq.trans h.read_eq.symm
  generalize spec'.erase.evaluate request = evaluated' at hevaluation hread ⊢
  generalize spec.erase.evaluate request = evaluated at hevaluation hread ⊢
  obtain ⟨evaluation, body, elapsed⟩ := evaluated
  obtain ⟨evaluation', body', elapsed'⟩ := evaluated'
  obtain ⟨rfl, rfl⟩ := Prod.mk.inj hread
  obtain rfl : evaluation' = evaluation := hevaluation
  rfl

end Specification

namespace Criterion

variable {P : Type}

def method? : Criterion P → Option (Matcher String)
  | .method m => some m
  | _ => none

def path? : Criterion P → Option (Matcher String)
  | .path m => some m
  | _ => none

def header? : Criterion P → Option (Matcher Http.Headers)
  | .header m => some m
  | _ => none

def body? : Criterion P → Option (Matcher P)
  | .body m => some m
  | _ => none

def bodyText? : Criterion P → Option (Matcher String)
  | .bodyText m => some m
  | _ => none

def priority? : Criterion P → Option Int
  | .priority value => some value
  | _ => none

end Criterion

namespace Specification

variable {P : Type} {criteria criteria' : List (Criterion P)} {request : Request}

theorem ofCriteria_eq (decoder : Decoder P) (criteria : List (Criterion P)) :
    ofCriteria decoder criteria =
    ⟨(criteria.filterMap Criterion.method?).getLast?, (criteria.filterMap Criterion.path?).getLast?,
      criteria.filterMap Criterion.header?, criteria.filterMap Criterion.body?,
      criteria.filterMap Criterion.bodyText?, (criteria.filterMap Criterion.priority?).getLast?,
        decoder⟩ := by
  induction criteria using List.reverseRecOn with
  | nil => rfl
  | append_singleton criteria c ih =>
    rw [ofCriteria, List.foldl_append, ← ofCriteria, ih]
    cases c <;> simp [add, Criterion.method?, Criterion.path?, Criterion.header?, Criterion.body?,
      Criterion.bodyText?, Criterion.priority?, List.filterMap_append]

theorem mem_given {α : Type} {kind? : Criterion P → Option α} {kind : α → Criterion P}
    (h : ∀ c m, kind? c = some m ↔ c = kind m) {m : α} : m ∈ criteria.filterMap kind? ↔
      kind m ∈ criteria := by
  rw [List.mem_filterMap]
  constructor
  · rintro ⟨c, hc, hm⟩
    obtain rfl := (h c m).mp hm
    exact hc
  · exact fun hm => ⟨kind m, hm, (h (kind m) m).mpr rfl⟩

theorem header?_eq_some (c : Criterion P) (m : Matcher Http.Headers) :
    c.header? = some m ↔ c = .header m := by
  cases c <;> simp [Criterion.header?]

theorem body?_eq_some (c : Criterion P) (m : Matcher P) : c.body? = some m ↔ c = .body m := by
  cases c <;> simp [Criterion.body?]

theorem bodyText?_eq_some (c : Criterion P) (m : Matcher String) :
    c.bodyText? = some m ↔ c = .bodyText m := by
  cases c <;> simp [Criterion.bodyText?]

/-- The same method and path come last, and there are the same matchers for headers, payload and
body text. -/
structure SameDemands (criteria criteria' : List (Criterion P)) : Prop where
  method : (criteria.filterMap Criterion.method?).getLast? =
    (criteria'.filterMap Criterion.method?).getLast?
  path : (criteria.filterMap Criterion.path?).getLast? = (criteria'.filterMap Criterion.path?).getLast?
  header : ∀ m, .header m ∈ criteria ↔ .header m ∈ criteria'
  body : ∀ m, .body m ∈ criteria ↔ .body m ∈ criteria'
  bodyText : ∀ m, .bodyText m ∈ criteria ↔ .bodyText m ∈ criteria'

theorem SameDemands.symm (h : SameDemands criteria criteria') : SameDemands criteria' criteria :=
  ⟨h.method.symm, h.path.symm, fun m => (h.header m).symm, fun m => (h.body m).symm,
    fun m => (h.bodyText m).symm⟩

theorem SameDemands.meets {decoder : Decoder P} (h : SameDemands criteria criteria')
    (hmeets : (ofCriteria decoder criteria).Meets request) :
    (ofCriteria decoder criteria').Meets request := by
  rw [ofCriteria_eq] at hmeets ⊢
  have hheaders : criteria'.filterMap Criterion.header? ⊆ criteria.filterMap Criterion.header? := by
    intro m hm
    exact (mem_given header?_eq_some).mpr ((h.header m).mpr ((mem_given header?_eq_some).mp hm))
  have hbody : criteria'.filterMap Criterion.body? ⊆ criteria.filterMap Criterion.body? := by
    intro m hm
    exact (mem_given body?_eq_some).mpr ((h.body m).mpr ((mem_given body?_eq_some).mp hm))
  have htext : criteria'.filterMap Criterion.bodyText? ⊆ criteria.filterMap Criterion.bodyText? := by
    intro m hm
    exact (mem_given bodyText?_eq_some).mpr ((h.bodyText m).mpr ((mem_given bodyText?_eq_some).mp hm))
  constructor
  case method => exact fun m hm => hmeets.method m (h.method.trans hm)
  case path => exact fun m hm => hmeets.path m (h.path.trans hm)
  case headers => exact fun m hm => hmeets.headers m (hheaders hm)
  case readable =>
    intro hne
    apply hmeets.readable
    obtain hne | hne := hne
    · obtain ⟨m, hm⟩ := List.exists_mem_of_ne_nil _ hne
      exact .inl (List.ne_nil_of_mem (hbody hm))
    · obtain ⟨m, hm⟩ := List.exists_mem_of_ne_nil _ hne
      exact .inr (List.ne_nil_of_mem (htext hm))
  case decodable =>
    intro hne
    obtain ⟨m, hm⟩ := List.exists_mem_of_ne_nil _ hne
    exact hmeets.decodable (List.ne_nil_of_mem (hbody hm))
  case body => exact fun bytes payload hbytes hpayload m hm =>
    hmeets.body bytes payload hbytes hpayload m (hbody hm)
  case bodyText => exact fun bytes hbytes m hm => hmeets.bodyText bytes hbytes m (htext hm)

/-- How a specification comes to its ruling on a request: a pass exactly if the request meets all
criteria, else what the first says that does not pass. It leaves the body alone if that one does,
and what stands behind it is not asked. -/
structure AsksInOrder (spec : Specification P) (request : Request) : Prop where
  accepts_iff : spec.Accepts request ↔ spec.Meets request
  otherwise : ¬spec.Meets request → ∃ before c after, spec.First request before c after ∧
    (spec.erase.evaluate request).evaluation = c.ask spec.decoder request.head request.body.read.1 ∧
    ((spec.erase.evaluate request).body, (spec.erase.evaluate request).elapsed) =
      (if c.looksAtBody then request.body.read.2 else (request.body, 0)) ∧
    ∀ (spec' : Specification P) after', spec'.decoder = spec.decoder →
      spec'.criteria = before ++ c :: after' → spec'.erase.evaluate request = spec.erase.evaluate request

/-- Every specification asks its criteria in order, and whether a request is accepted does not
depend on the order in which the criteria were given. -/
theorem asks_in_order (decoder : Decoder P) (request : Request) :
    (∀ spec : Specification P, spec.AsksInOrder request) ∧
    ∀ criteria criteria' : List (Criterion P), SameDemands criteria criteria' →
      ((ofCriteria decoder criteria).Accepts request ↔
        (ofCriteria decoder criteria').Accepts request) := by
  constructor
  · refine fun spec => ⟨accepts_iff_meets, fun hnot => ?_⟩
    obtain ⟨before, c, after, hfirst⟩ := exists_first_of_not_accepts (mt accepts_iff_meets.mp hnot)
    exact ⟨before, c, after, hfirst, hfirst.decides, hfirst.read_eq,
      fun spec' after' hdecoder hcriteria => hfirst.unasked hdecoder hcriteria⟩
  · intro criteria criteria' h
    rw [accepts_iff_meets, accepts_iff_meets]
    exact ⟨h.meets, h.symm.meets⟩

end Specification

end StubServer.Matching
