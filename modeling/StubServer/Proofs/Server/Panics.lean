import StubServer.Proofs.Matching.Criteria
import StubServer.Proofs.Server.Containment

namespace StubServer

open Matching (Ruling Specification)

/-- The same, but what panics fails for the same reason. -/
def Outcome.tame {α : Type} : Outcome α → Outcome α
  | .panicked reason => .failed reason
  | outcome => outcome

namespace Matching

open StubServer.Request (Head BodyError)

def Matcher.tame {α : Type} (m : Matcher α) : Matcher α := ⟨m.description, fun a => (m.predicate a).tame⟩

def Decoder.tame {P : Type} (decoder : Decoder P) : Decoder P :=
  ⟨decoder.name, fun bytes => (decoder.decode bytes).tame⟩

theorem Matcher.calm_tame {α : Type} (m : Matcher α) : m.tame.calm = m.calm := by
  have hpasses : ∀ a, passes (m.tame.test a) = passes (m.test a) := by
    intro a
    simp only [Matcher.test, Matcher.tame]
    cases m.predicate a <;> rfl
  simp only [Matcher.calm, hpasses]
  rfl

theorem Matcher.passes_testAll_tame {α : Type} (ms : List (Matcher α)) (a : α) :
    passes (testAll (ms.map .tame) a) = passes (testAll ms a) := by
  have hcalm : (ms.map Matcher.tame).map Matcher.calm = ms.map Matcher.calm := by
    rw [List.map_map]
    exact List.map_congr_left fun m _ => m.calm_tame
  have htame := testAll_calm (ms.map .tame) a
  rw [hcalm] at htame
  exact Except.ok.inj (htame.symm.trans (testAll_calm ms a))

def accepting : Except String Bool → Bool
  | .ok passed => passed
  | .error _ => false

namespace Specification

variable {P : Type} {spec : Specification P} {head : Head} {outcome : Except BodyError Bytes}
  {reason : String}

/-- The specification with predicates and a decoder that fail where the others panic. -/
def tame (spec : Specification P) : Specification P :=
  ⟨spec.method.map .tame, spec.path.map .tame, spec.headers.map .tame, spec.body.map .tame,
    spec.bodyText.map .tame, spec.priority, spec.decoder.tame⟩

theorem passes_onHead_tame (spec : Specification P) (head : Head) :
    passes (spec.tame.onHead head) = passes (spec.onHead head) := by
  have hoptional : ∀ m? : Option (Matcher String),
    (m?.map Matcher.tame).map Matcher.calm = m?.map Matcher.calm := by
    intro m?
    cases m? with
    | none => rfl
    | some m => exact congrArg some m.calm_tame
  have hheaders : (spec.headers.map Matcher.tame).map Matcher.calm = spec.headers.map Matcher.calm := by
    rw [List.map_map]
    exact List.map_congr_left fun m _ => m.calm_tame
  have hcalm : spec.tame.calm.onHead head = spec.calm.onHead head := by
    simp only [onHead, calm, tame, hoptional, hheaders]
  rw [onHead_calm, onHead_calm] at hcalm
  exact Except.ok.inj hcalm

theorem onHead_eq_true : spec.onHead head = .ok true ↔ passes (spec.onHead head) = true := by
  cases spec.onHead head with
  | error e => simp [passes]
  | ok passed => simp [passes]

theorem looksAtBody_tame : spec.tame.LooksAtBody head ↔ spec.LooksAtBody head := by
  have hneeds : spec.tame.needsBody = spec.needsBody := by simp [needsBody, tame]
  rw [LooksAtBody, LooksAtBody, onHead_eq_true, onHead_eq_true, passes_onHead_tame, hneeds]

theorem verdict_onBytes_returned {bytes : Bytes} {payload : P} (h : spec.body.isEmpty = false)
    (hdecode : spec.decoder.decode bytes = .returned payload) : (spec.onBytes bytes).ruling.verdict =
      .ok (passes (Matcher.testAll spec.body payload) && passes (spec.onText bytes)) := by
  rw [onBytes, h, hdecode]
  simp only [Bool.false_eq_true, if_false]
  cases Matcher.testAll spec.body payload with
  | error e => rfl
  | ok passed => cases passed <;> rfl

theorem verdict_onBytes_tame (spec : Specification P) (bytes : Bytes) :
    (spec.tame.onBytes bytes).ruling.verdict = .ok (accepting (spec.onBytes bytes).ruling.verdict) := by
  have htext : passes (spec.tame.onText bytes) = passes (spec.onText bytes) :=
    Matcher.passes_testAll_tame spec.bodyText _
  have hempty : spec.tame.body.isEmpty = spec.body.isEmpty := List.isEmpty_map
  cases h : spec.body.isEmpty with
  | true =>
    rw [onBytes, onBytes, hempty, h]
    exact congrArg Except.ok htext
  | false =>
    have hdecode : spec.tame.decoder.decode bytes = (spec.decoder.decode bytes).tame := rfl
    cases houtcome : spec.decoder.decode bytes with
    | failed reason | panicked reason =>
      rw [houtcome] at hdecode
      rw [onBytes, onBytes, hempty, h, hdecode, houtcome]
      rfl
    | returned payload =>
      rw [houtcome] at hdecode
      have hbody : passes (Matcher.testAll spec.tame.body payload) =
        passes (Matcher.testAll spec.body payload) :=
        Matcher.passes_testAll_tame spec.body payload
      rw [verdict_onBytes_returned (hempty.trans h) hdecode, verdict_onBytes_returned h houtcome,
        hbody, htext]
      rfl

theorem verdict_onBody_tame (spec : Specification P) (outcome : Except BodyError Bytes) :
    (spec.tame.onBody outcome).ruling.verdict =
      .ok (accepting (spec.onBody outcome).ruling.verdict) := by
  cases outcome with
  | error e => rfl
  | ok bytes => exact verdict_onBytes_tame spec bytes

theorem ruling_onBody_escaped : (spec.onBody outcome).ruling = .escaped reason ↔
    spec.body ≠ [] ∧ ∃ bytes, outcome = .ok bytes ∧ spec.decoder.decode bytes = .panicked reason := by
  cases outcome with
  | error e => simp [onBody]
  | ok bytes =>
    rw [onBody, onBytes]
    by_cases h : spec.body = []
    · simp [h]
    · rw [if_neg (by simpa using h)]
      cases hdecode : spec.decoder.decode bytes with
      | failed => simp [hdecode]
      | panicked => simp [hdecode, h]
      | returned payload =>
        simp only
        split <;> simp [hdecode]

end Specification

end Matching

theorem Matching.Ruling.verdict_eq_error {ruling : Ruling} {reason : String} :
    ruling.verdict = .error reason ↔ ruling = .escaped reason := by
  cases ruling with
  | escaped r => simp [verdict]
  | settled result => simp [verdict]

namespace Stub

/-- The decoder of the stub is called over the request, and panics: all criteria about the head
pass, and there are some about the payload. -/
def Trips (stub : Stub) (request : Request) (reason : String) : Prop :=
  ∃ (P : Type) (spec : Specification P) (bytes : Bytes), stub.specification = spec.erase ∧
    spec.onHead request.head = .ok true ∧ spec.body ≠ [] ∧ request.body.read.1 = .ok bytes ∧
    spec.decoder.decode bytes = .panicked reason

/-- The stub has a specification with matchers and a decoder of any kind. -/
def Specified (stub : Stub) : Prop := ∃ (P : Type) (spec : Specification P),
    stub.specification = spec.erase

/-- The other stub has predicates and a decoder that fail where those of the stub panic, and differs
in nothing else. -/
def TamedBy (stub tame : Stub) : Prop :=
  ∃ (P : Type) (spec : Specification P), stub.specification = spec.erase ∧
    tame = { stub with specification := spec.tame.erase }

variable {stub tame : Stub} {request : Request} {reason : String}

theorem ruling_of_looksAtBody {P : Type} {spec : Specification P} (h : stub.specification = spec.erase)
    (hlooks : spec.LooksAtBody request.head) :
    stub.ruling request = (spec.onBody request.body.read.1).ruling := by
  simp only [ruling, h, Matching.RequestMatch.evaluate, Specification.erase,
    Specification.judge_of_looksAtBody hlooks]

theorem ruling_of_not_looksAtBody {P : Type} {spec : Specification P}
    (h : stub.specification = spec.erase) (hlooks : ¬spec.LooksAtBody request.head) :
    stub.ruling request = .settled (spec.onHead request.head) := by
  simp only [ruling, h, Matching.RequestMatch.evaluate, Specification.erase,
    Specification.judge_of_not_looksAtBody hlooks]

theorem Trips.escaped (h : stub.Trips request reason) : stub.ruling request = .escaped reason := by
  obtain ⟨P, spec, bytes, hspec, hhead, hbody, hread, hdecode⟩ := h
  have hneeds : spec.needsBody := by simp [Specification.needsBody, hbody]
  rw [ruling_of_looksAtBody hspec ⟨hhead, hneeds⟩]
  exact Specification.ruling_onBody_escaped.mpr ⟨hbody, bytes, hread, hdecode⟩

theorem Specified.trips_iff (h : stub.Specified) : stub.Trips request reason ↔
    stub.ruling request = .escaped reason := by
  refine ⟨Trips.escaped, fun hruling => ?_⟩
  obtain ⟨P, spec, hspec⟩ := h
  by_cases hlooks : spec.LooksAtBody request.head
  · rw [ruling_of_looksAtBody hspec hlooks, Specification.ruling_onBody_escaped] at hruling
    obtain ⟨hbody, bytes, hread, hdecode⟩ := hruling
    exact ⟨P, spec, bytes, hspec, hlooks.1, hbody, hread, hdecode⟩
  · rw [ruling_of_not_looksAtBody hspec hlooks] at hruling
    cases hruling

theorem TamedBy.created_eq (h : stub.TamedBy tame) : tame.created = stub.created := by
  obtain ⟨P, spec, -, rfl⟩ := h
  rfl

theorem TamedBy.configuration_eq (h : stub.TamedBy tame) : tame.configuration = stub.configuration := by
  obtain ⟨P, spec, -, rfl⟩ := h
  rfl

theorem TamedBy.verdict_eq (h : stub.TamedBy tame) :
    (tame.ruling request).verdict = .ok (Matching.accepting (stub.ruling request).verdict) := by
  obtain ⟨P, spec, hspec, rfl⟩ := h
  by_cases hlooks : spec.LooksAtBody request.head
  · have htame : spec.tame.LooksAtBody request.head := Specification.looksAtBody_tame.mpr hlooks
    rw [ruling_of_looksAtBody hspec hlooks, ruling_of_looksAtBody rfl htame]
    exact spec.verdict_onBody_tame request.body.read.1
  · have htame : ¬spec.tame.LooksAtBody request.head := mt Specification.looksAtBody_tame.mp hlooks
    rw [ruling_of_not_looksAtBody hspec hlooks, ruling_of_not_looksAtBody rfl htame]
    exact congrArg Except.ok (spec.passes_onHead_tame request.head)

end Stub

/-- A stub trips, and none before it has kept the find from coming there. -/
def TripsOver (stubs : List Stub) (request : Request) (reason : String) : Prop :=
  ∃ before stub rest, stubs = before ++ stub :: rest ∧
    (∀ s ∈ before, ¬s.Accepts request ∧ ∀ r, ¬s.Trips request r) ∧ stub.Trips request reason

section

variable {stubs tames : List Stub} {request : Request} {reason : String}

theorem choose_eq_panicked_iff {rulingOf : Stub → Ruling} : choose rulingOf stubs = .panicked reason ↔
    ∃ before stub rest, stubs = before ++ stub :: rest ∧ (∀ s ∈ before, (rulingOf s).PassesOver) ∧
      rulingOf stub = .escaped reason := by
  constructor
  · intro h
    induction stubs with
    | nil => cases h
    | cons head tail ih =>
      rw [choose] at h
      split at h
      · cases h
      · next result hresult hruling =>
        obtain ⟨before, stub, rest, rfl, hbefore, hstub⟩ := ih h
        refine ⟨head :: before, stub, rest, rfl, List.forall_mem_cons.mpr ⟨?_, hbefore⟩, hstub⟩
        exact passesOver_of_settled hruling hresult
      · next hruling =>
        cases h
        exact ⟨[], head, tail, rfl, by simp, hruling⟩
  · rintro ⟨before, stub, rest, rfl, hbefore, hstub⟩
    induction before with
    | nil => simp only [List.nil_append, choose, hstub]
    | cons head before ih =>
      obtain ⟨hhead, hbefore⟩ := List.forall_mem_cons.mp hbefore
      rw [List.cons_append, choose]
      split
      · next hruling => exact absurd hruling hhead.1
      · exact ih hbefore
      · next r hruling => exact absurd hruling (hhead.2 r)

theorem tripsOver_iff (h : ∀ stub ∈ stubs, stub.Specified) :
    TripsOver stubs request reason ↔ choose (·.ruling request) stubs = .panicked reason := by
  rw [choose_eq_panicked_iff, TripsOver]
  refine exists_congr fun before => exists_congr fun stub => exists_congr fun rest => ?_
  refine and_congr_right fun hstubs => ?_
  subst hstubs
  have hpasses : ∀ s ∈ before, ¬s.Accepts request ∧ (∀ r, ¬s.Trips request r) ↔
    (s.ruling request).PassesOver := by
    intro s hs
    have hspecified := h s (List.mem_append_left _ hs)
    simp only [hspecified.trips_iff]
    rfl
  have hspecified := h stub (List.mem_append_right _ List.mem_cons_self)
  rw [hspecified.trips_iff, forall₂_congr hpasses]

/-- Among tame stubs a find always comes back, and with the stub that it would come back with
otherwise, unless it trips. -/
theorem choose_tame (h : List.Forall₂ Stub.TamedBy stubs tames) (request : Request) :
    (∃ found, choose (·.ruling request) tames = .returned found) ∧
      ((∃ reason, choose (·.ruling request) stubs = .panicked reason) ∨
        (choose (·.ruling request) stubs = .returned none ∧
          choose (·.ruling request) tames = .returned none) ∨
        ∃ stub tame, stub.TamedBy tame ∧ choose (·.ruling request) stubs = .returned (some stub) ∧
          choose (·.ruling request) tames = .returned (some tame)) := by
  induction h with
  | nil => exact ⟨⟨none, rfl⟩, .inr (.inl ⟨rfl, rfl⟩)⟩
  | @cons stub tame stubs tames hstub hrest ih =>
    have htame : choose (·.ruling request) (tame :: tames) = _ := choose_cons hstub.verdict_eq
    obtain ⟨found, hfound⟩ := ih.1
    cases hruling : (stub.ruling request).verdict with
    | error reason =>
      rw [hruling] at htame
      refine ⟨⟨found, htame.trans hfound⟩, .inl ⟨reason, ?_⟩⟩
      rw [choose, Ruling.verdict_eq_error.mp hruling]
    | ok passed =>
      rw [hruling] at htame
      have hchoose : choose (·.ruling request) (stub :: stubs) = _ := choose_cons hruling
      cases passed with
      | true => exact ⟨⟨some tame, htame⟩, .inr (.inr ⟨stub, tame, hstub, hchoose, htame⟩)⟩
      | false =>
        rw [htame, hchoose]
        exact ih

theorem exists_tame (h : ∀ stub ∈ stubs, stub.Specified) :
    ∃ tames, List.Forall₂ Stub.TamedBy stubs tames := by
  induction stubs with
  | nil => exact ⟨[], .nil⟩
  | cons stub stubs ih =>
    obtain ⟨⟨P, spec, hspec⟩, hrest⟩ := List.forall_mem_cons.mp h
    obtain ⟨tames, htames⟩ := ih hrest
    exact ⟨_, .cons ⟨P, spec, hspec, rfl⟩ htames⟩

end

namespace Registry

/-- The other registry has tame stubs in the place of its own, and differs in nothing else that
matters. -/
structure TamedBy (g tame : Registry) : Prop where
  stubs : List.Forall₂ Stub.TamedBy g.list tame.list
  counts : tame.counts = g.counts
  queue : tame.queue = g.queue

/-- What panics do to a find: it comes back without having changed anything if it trips over a
decoder, and only then; otherwise it comes back with the stub, and leaves the registry, that it
would if whatever panics failed. -/
structure WeathersPanics (g : Registry) (request : Request) (verbose : Bool) (now : Nat) : Prop where
  exists_tame : ∃ tame, g.TamedBy tame
  trips_iff : ∀ reason, (g.find request verbose now).result = .panicked reason ↔
    TripsOver g.list request reason
  tripped : ∀ reason, TripsOver g.list request reason → (g.find request verbose now).registry = g
  tame : ∀ tame, g.TamedBy tame → ∃ found, (tame.find request verbose now).result = .returned found ∧
    ((∀ reason, ¬TripsOver g.list request reason) →
      (g.find request verbose now).result.map (·.map Stub.created) = .returned (found.map Stub.created) ∧
      (g.find request verbose now).registry.TamedBy (tame.find request verbose now).registry)

variable {g tame : Registry} {request : Request}

theorem TamedBy.after (h : g.TamedBy tame) {stub tamed : Stub} (hstub : stub.TamedBy tamed) :
    (g.after (.returned (some stub))).TamedBy (tame.after (.returned (some tamed))) := by
  refine ⟨?_, ?_, ?_⟩
  · simp only [list_after, hstub.configuration_eq, hstub.created_eq]
    split
    · exact forall₂_eraseP (fun _ _ => Stub.TamedBy.created_eq) h.stubs stub.created
    · exact h.stubs
  · simp only [counts_after, count, h.counts, hstub.created_eq]
  · rw [queue_after, queue_after, h.queue]

theorem weathersPanics (hqueue : g.queue = []) (hfresh : request.body.queue = [])
    (hspecified : ∀ stub ∈ g.list, stub.Specified) (verbose : Bool) (now : Nat) :
    g.WeathersPanics request verbose now := by
  have hresult := find_result hqueue hfresh verbose now
  have hregistry := find_registry hqueue hfresh verbose now
  constructor
  case exists_tame =>
    obtain ⟨tames, htames⟩ := StubServer.exists_tame hspecified
    exact ⟨{ g with stubs := .new tames }, htames, rfl, rfl⟩
  case trips_iff =>
    intro reason
    rw [hresult, tripsOver_iff hspecified]
  case tripped =>
    intro reason htrips
    rw [hregistry, (tripsOver_iff hspecified).mp htrips]
    rfl
  case tame =>
    intro tame htame
    have hidle : tame.queue = [] := htame.queue.trans hqueue
    rw [hresult, hregistry, find_result hidle hfresh verbose now, find_registry hidle hfresh verbose now]
    obtain ⟨⟨found, hfound⟩, hchoose⟩ := choose_tame htame.stubs request
    refine ⟨found, hfound, fun hsafe => ?_⟩
    obtain ⟨reason, hpanics⟩ | ⟨hnone, hnone'⟩ | ⟨stub, tamed, hstub, hsome, hsome'⟩ := hchoose
    · exact absurd ((tripsOver_iff hspecified).mpr hpanics) (hsafe reason)
    · cases hfound.symm.trans hnone'
      rw [hnone, hnone']
      exact ⟨rfl, htame⟩
    · cases hfound.symm.trans hsome'
      rw [hsome, hsome']
      refine ⟨?_, htame.after hstub⟩
      rw [Outcome.map, Option.map_some, Option.map_some, hstub.created_eq]

def brittle : Registry :=
  let stub (specification : Matching.RequestMatch) (created : Nat) : Stub :=
    ⟨.blank, specification, fun _ => .done (.failed ""), created⟩
  let decoder : Matching.Decoder Unit := ⟨"form", fun _ => .panicked "index out of bounds"⟩
  ⟨.new [stub (Specification.ofCriteria .text [.path ⟨"", fun _ => .panicked ""⟩]).erase 1,
    stub (Specification.ofCriteria decoder [.body (.ofBool "" fun _ => true)]).erase 2,
    stub (Specification.any .text).erase 3], fun _ => 0, []⟩

def submitted : Request := ⟨⟨"POST", ⟨none, none, "/", none⟩, .http11, ⟨[]⟩⟩, .ofFrames [⟨0, .data []⟩]⟩

/-- The decoder brings the find down, although a stub behind it accepts the request. -/
theorem find_brittle : (brittle.find submitted false 0).result = .panicked "index out of bounds" ∧
    (brittle.list.map (·.ruling submitted))[2]? = some (.settled (.ok true)) := ⟨rfl, rfl⟩

theorem weathersPanics_brittle : brittle.queue = [] ∧ submitted.body.queue = [] ∧
    (∀ stub ∈ brittle.list, stub.Specified) ∧ brittle.WeathersPanics submitted false 0 := by
  have hspecified : ∀ stub ∈ brittle.list, stub.Specified := by
    intro stub hstub
    obtain rfl | rfl | rfl : stub = _ ∨ stub = _ ∨ stub = _ := by
      simpa [brittle, list, Cell.new] using hstub
    all_goals exact ⟨_, _, rfl⟩
  exact ⟨rfl, rfl, hspecified, weathersPanics rfl rfl hspecified false 0⟩

end Registry

end StubServer
