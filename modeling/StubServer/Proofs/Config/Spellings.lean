import StubServer.Proofs.Config.Template
import StubServer.Proofs.Matching.Criteria
import StubServer.Proofs.Matching.HeaderForms
import StubServer.Proofs.Stub.Selection

namespace StubServer

open Matching Http

def PathDefinition.spelledOut : PathDefinition → PathDefinition
  | .exact path => .matching (.equals path)
  | .matching m => .matching m

def HeaderDefinition.spelledOut : HeaderDefinition → HeaderDefinition
  | .exact name value => .matching name (.equals value)
  | .matching name m => .matching name m

def RequestDefinition.spelledOut (r : RequestDefinition) : RequestDefinition :=
  { r with
    path := r.path.map PathDefinition.spelledOut
    headers := r.headers.map HeaderDefinition.spelledOut }

def StubDefinition.spelledOut (d : StubDefinition) : StubDefinition :=
  { d with request := d.request.spelledOut }

/-- The path, if it is written as itself, is this one to the letter. -/
def PathDefinition.IsLiteralIn (path : String) : PathDefinition → Prop
  | .exact written => path = written
  | .matching _ => True

/-- The value, if it is written as itself, is there to the letter. -/
def HeaderDefinition.IsLiteralIn (headers : Headers) : HeaderDefinition → Prop
  | .exact name value => ∃ header, headerNamed? name = some header ∧
      ∃ v ∈ headers.getAll header, visibleText? v = some value
  | .matching _ _ => True

/-- What is written as itself is met to the letter. -/
structure RequestDefinition.IsLiteralIn (r : RequestDefinition) (head : Request.Head) : Prop where
  path : ∀ q ∈ r.path, q.IsLiteralIn head.path
  headers : ∀ h ∈ r.headers, h.IsLiteralIn head.headers

namespace PathDefinition

variable {q : PathDefinition} {path : String} {caseSensitive : Bool}

def matcher (caseSensitive : Bool) : PathDefinition → Except ConfigError (Matcher String)
  | .exact path => .ok (pathIs path)
  | .matching m => pathMatching m caseSensitive

theorem gives_pathCriterion {r : RequestDefinition} {p : Criterion String → Prop} :
    Gives (∀ c ∈ ·, p c) r.pathCriterion ↔
      ∀ q ∈ r.path, Gives (fun m => p (.path m)) (q.matcher r.caseSensitive) := by
  rw [RequestDefinition.pathCriterion]
  cases r.path with
  | none => simp [gives_ok]
  | some q =>
    cases q with
    | exact path => simp [matcher, gives_ok]
    | matching m => simp [matcher, gives_bind, pure, Except.pure, gives_ok]

theorem gives_equals {p : Matcher String → Prop} {value : String} :
    Gives p ((matching (.equals value)).matcher caseSensitive) ↔
      p (pathPasses ⟨.equals (.of value caseSensitive), .equals value⟩) := by
  rw [matcher, pathMatching, gives_map]
  exact gives_ok

theorem passes_pathIs {value : String} : (pathIs value).Passes path ↔ path = value := by
  rw [pathIs, Matcher.passes_ofBool, beq_iff_eq]

theorem passes_equals {value : String} :
    (pathPasses ⟨.equals (.of value caseSensitive), .equals value⟩).Passes path ↔
      if caseSensitive then path = value else Text.lower path = Text.lower value := by
  rw [pathPasses, Matcher.passes_ofBool]
  cases caseSensitive <;> simp [StringTest.accepts, Comparison.holds, Operand.test, Operand.of]

theorem gives_any_spelledOut : Gives (fun _ => True) (q.matcher caseSensitive) ↔
    Gives (fun _ => True) (q.spelledOut.matcher caseSensitive) := by
  cases q with
  | exact value => exact iff_of_true (gives_ok.mpr trivial) (gives_equals.mpr trivial)
  | matching m => exact Iff.rfl

theorem gives_passes_spelledOut : Gives (·.Passes path) (q.matcher caseSensitive) ↔
    Gives (·.Passes path) (q.spelledOut.matcher caseSensitive) ∧ q.IsLiteralIn path := by
  cases q with
  | exact value =>
    rw [spelledOut, gives_equals, passes_equals, matcher, gives_ok, passes_pathIs, IsLiteralIn]
    refine ⟨fun h => ⟨?_, h⟩, And.right⟩
    rw [h]
    split <;> rfl
  | matching m => exact (and_iff_left trivial).symm

theorem isLiteralIn_of_gives (h : Gives (·.Passes path) (q.spelledOut.matcher true)) :
    q.IsLiteralIn path := by
  cases q with
  | exact value =>
    rw [spelledOut, gives_equals, passes_equals] at h
    exact h
  | matching m => trivial

end PathDefinition

namespace HeaderDefinition

variable {h : HeaderDefinition} {headers : Headers} {caseSensitive : Bool}

def matcher (caseSensitive : Bool) : HeaderDefinition → Except ConfigError (Matcher Headers)
  | .exact name value =>
    match headerNamed? name with
    | some header => .ok (headerIs header value)
    | none => .error (.invalid ("header " ++ Text.quoted name ++ ": " ++ badHeaderName))
  | .matching name m => headerMatching name m caseSensitive

theorem headerCriterion_eq (caseSensitive : Bool) (h : HeaderDefinition) :
    RequestDefinition.headerCriterion caseSensitive h = .header <$> h.matcher caseSensitive := by
  cases h with
  | exact name value =>
    rw [RequestDefinition.headerCriterion, matcher]
    cases headerNamed? name <;> rfl
  | matching name m => rfl

theorem gives_exact {p : Matcher Headers → Prop} {name value : String} :
    Gives p ((exact name value).matcher caseSensitive) ↔
      ∃ header, headerNamed? name = some header ∧ p (headerIs header value) := by
  rw [matcher]
  cases headerNamed? name with
  | none => simp [gives_error]
  | some header => simp [gives_ok]

theorem gives_matching {p : Matcher Headers → Prop} {name : String} {m : StringMatcher} :
    Gives p ((matching name m).matcher caseSensitive) ↔ ∃ header, headerNamed? name = some header ∧
      ∃ test, m.compile? caseSensitive = some test ∧ p (headerPasses header test) := by
  simp only [Gives, matcher, headerMatching_eq_ok]
  constructor
  · rintro ⟨_, ⟨header, test, hheader, htest, rfl⟩, hp⟩
    exact ⟨header, hheader, test, htest, hp⟩
  · rintro ⟨header, hheader, test, htest, hp⟩
    exact ⟨_, ⟨header, test, hheader, htest, rfl⟩, hp⟩

theorem gives_equals {p : Matcher Headers → Prop} {name value : String} :
    Gives p ((matching name (.equals value)).matcher caseSensitive) ↔
      ∃ header, headerNamed? name = some header ∧
      p (headerPasses header ⟨.equals (.of value caseSensitive), .equals value⟩) := by
  rw [gives_matching]
  simp [StringMatcher.compile?, StringMatcher.comparison?]

theorem passes_equals_of_passes {header value : String}
    (hpasses : (headerIs header value).Passes headers) :
    (headerPasses header ⟨.equals (.of value caseSensitive), .equals value⟩).Passes headers := by
  obtain ⟨v, hv, htext⟩ := passes_headerIs.mp hpasses
  refine (passes_headerPasses_of_absent rfl).mpr ⟨v, hv, value, htext, ?_⟩
  cases caseSensitive <;> simp [StringTest.accepts, Comparison.holds, Operand.test, Operand.of]

theorem gives_any_spelledOut : Gives (fun _ => True) (h.matcher caseSensitive) ↔
    Gives (fun _ => True) (h.spelledOut.matcher caseSensitive) := by
  cases h with
  | exact name value => rw [spelledOut, gives_exact, gives_equals]
  | matching name m => exact Iff.rfl

theorem gives_passes_spelledOut : Gives (·.Passes headers) (h.matcher caseSensitive) ↔
    Gives (·.Passes headers) (h.spelledOut.matcher caseSensitive) ∧ h.IsLiteralIn headers := by
  cases h with
  | exact name value =>
    simp only [spelledOut, gives_exact, gives_equals, IsLiteralIn, ← passes_headerIs]
    refine ⟨fun ⟨header, hheader, hpasses⟩ => ?_, And.right⟩
    exact ⟨⟨header, hheader, passes_equals_of_passes hpasses⟩, header, hheader, hpasses⟩
  | matching name m => exact (and_iff_left trivial).symm

theorem isLiteralIn_of_gives (hgives : Gives (·.Passes headers) (h.spelledOut.matcher true)) :
    h.IsLiteralIn headers := by
  cases h with
  | exact name value =>
    obtain ⟨header, hheader, hpasses⟩ := gives_equals.mp hgives
    exact ⟨header, hheader, passes_headerIs.mp (passes_equals_iff.mp hpasses)⟩
  | matching name m => trivial

end HeaderDefinition

namespace Matching.Specification

variable {P : Type}

theorem foldl_kind {α : Type} {kind : α → Criterion P}
    {extend : Specification P → List α → Specification P} (hnil : ∀ spec, extend spec [] = spec)
    (hcons : ∀ spec m ms, extend (spec.add (kind m)) ms = extend spec (m :: ms)) (spec : Specification P)
    (ms : List α) : (ms.map kind).foldl add spec = extend spec ms := by
  induction ms generalizing spec with
  | nil => exact (hnil spec).symm
  | cons m ms ih => rw [List.map_cons, List.foldl_cons, ih, hcons]

theorem ofCriteria_kinds (decoder : Decoder P) (method path : Option (Matcher String))
    (headers : List (Matcher Headers)) (bodyText : List (Matcher String)) (priority : Option Int) :
    ofCriteria decoder (method.toList.map .method ++ path.toList.map .path ++ headers.map .header ++
      bodyText.map .bodyText ++ (priority.map .priority).toList) =
        ⟨method, path, headers, [], bodyText, priority, decoder⟩ := by
  have hheaders : ∀ (spec : Specification P) (ms : List (Matcher Headers)),
      (ms.map .header).foldl add spec = { spec with headers := spec.headers ++ ms } :=
    foldl_kind (by simp) (by simp [add])
  have hbodyText : ∀ (spec : Specification P) (ms : List (Matcher String)),
      (ms.map .bodyText).foldl add spec = { spec with bodyText := spec.bodyText ++ ms } :=
    foldl_kind (by simp) (by simp [add])
  simp only [ofCriteria, List.foldl_append, hheaders, hbodyText]
  cases method <;> cases path <;> cases priority <;> rfl

end Matching.Specification

namespace RequestDefinition

variable {r : RequestDefinition} {request : Request}

theorem gives_criteria {p : Criterion String → Prop} : Gives (∀ c ∈ ·, p c) r.criteria ↔
    Gives (∀ c ∈ ·, p c) r.methodCriterion ∧
      (∀ q ∈ r.path, Gives (fun m => p (.path m)) (q.matcher r.caseSensitive)) ∧
      (∀ h ∈ r.headers, Gives (fun m => p (.header m)) (h.matcher r.caseSensitive)) ∧
      ∀ m ∈ r.body, Gives (fun m => p (.bodyText m)) (bodyMatching m r.caseSensitive) := by
  have hheaders (h : HeaderDefinition) : Gives (fun m => p (.header m)) (h.matcher r.caseSensitive) ↔
      Gives p (headerCriterion r.caseSensitive h) := by
    rw [HeaderDefinition.headerCriterion_eq, gives_map]
  have hbody (m : StringMatcher) : Gives (fun m => p (.bodyText m)) (bodyMatching m r.caseSensitive) ↔
      Gives p (Criterion.bodyText <$> bodyMatching m r.caseSensitive) := gives_map.symm
  simp only [hheaders, hbody, ← PathDefinition.gives_pathCriterion, ← gives_mapM, criteria,
    gives_bind, pure,
    Except.pure, gives_ok, List.forall_mem_append, and_assoc, gives_and_left, gives_and_right]

theorem methodCriterion_shape {criteria : List (Criterion String)}
    (h : r.methodCriterion = .ok criteria) :
    ∃ method : Option (Matcher String), criteria = method.toList.map .method := by
  rw [methodCriterion] at h
  split at h
  · exact ⟨none, (Except.ok.inj h).symm⟩
  · split at h
    · exact ⟨some _, (Except.ok.inj h).symm⟩
    · cases h

theorem pathCriterion_shape {criteria : List (Criterion String)} (h : r.pathCriterion = .ok criteria) :
    ∃ path : Option (Matcher String), criteria = path.toList.map .path := by
  rw [pathCriterion] at h
  split at h
  · exact ⟨none, (Except.ok.inj h).symm⟩
  · exact ⟨some _, (Except.ok.inj h).symm⟩
  · obtain ⟨m, -, h⟩ := bind_eq_ok.mp h
    exact ⟨some m, (Except.ok.inj h).symm⟩

theorem header_of_headerCriterion {caseSensitive : Bool} (d : HeaderDefinition) (c : Criterion String)
    (h : headerCriterion caseSensitive d = .ok c) : ∃ m, .header m = c := by
  rw [HeaderDefinition.headerCriterion_eq] at h
  obtain ⟨m, -, hm⟩ := map_eq_ok.mp h
  exact ⟨m, hm⟩

theorem criteria_shape {criteria : List (Criterion String)} (h : r.criteria = .ok criteria) :
    ∃ (method path : Option (Matcher String)) (headers : List (Matcher Headers))
      (bodyText : List (Matcher String)),
      criteria = method.toList.map .method ++ path.toList.map .path ++ headers.map .header ++
        bodyText.map .bodyText := by
  obtain ⟨_, hmethod, h⟩ := bind_eq_ok.mp h
  obtain ⟨_, hpath, h⟩ := bind_eq_ok.mp h
  obtain ⟨_, hheaders, h⟩ := bind_eq_ok.mp h
  obtain ⟨_, hbody, h⟩ := bind_eq_ok.mp h
  cases h
  obtain ⟨method, rfl⟩ := methodCriterion_shape hmethod
  obtain ⟨path, rfl⟩ := pathCriterion_shape hpath
  obtain ⟨headers, rfl⟩ := exists_map_of_mapM header_of_headerCriterion hheaders
  obtain ⟨bodyText, rfl⟩ := exists_map_of_mapM (fun m c hc => (map_eq_ok.mp hc).imp fun _ =>
    And.right) hbody
  exact ⟨method, path, headers, bodyText, rfl⟩

theorem criteria_ofCriteria {criteria : List (Criterion String)} (h : r.criteria = .ok criteria)
    (decoder : Decoder String) (priority : Option Int) :
    (Specification.ofCriteria decoder (criteria ++ (priority.map .priority).toList)).criteria =
      criteria := by
  obtain ⟨method, path, headers, bodyText, rfl⟩ := criteria_shape h
  rw [Specification.ofCriteria_kinds, Specification.criteria, Specification.headCriteria,
    Specification.bodyCriteria, List.map_nil, List.nil_append]

theorem gives_any_spelledOut :
    Gives (∀ c ∈ ·, True) r.criteria ↔ Gives (∀ c ∈ ·, True) r.spelledOut.criteria := by
  simp only [gives_criteria, spelledOut, Option.mem_map, List.mem_map, forall_exists_index, and_imp,
    forall_apply_eq_imp_iff₂, ← PathDefinition.gives_any_spelledOut,
      ← HeaderDefinition.gives_any_spelledOut]
  rfl

/-- The request passes, asked one criterion after the other. -/
def Passed (request : Request) (criteria : List (Criterion String)) : Prop :=
  ∀ c ∈ criteria, (c.ask .text request.head request.body.read.1).passed

theorem gives_passed_iff : Gives (Passed request) r.criteria ↔ Gives (Passed request) r.methodCriterion ∧
    (∀ q ∈ r.path, Gives (·.Passes request.head.path) (q.matcher r.caseSensitive)) ∧
    (∀ h ∈ r.headers, Gives (·.Passes request.head.headers) (h.matcher r.caseSensitive)) ∧
    ∀ m ∈ r.body,
      Gives (fun m => ((Criterion.bodyText m).ask .text request.head request.body.read.1).passed)
      (bodyMatching m r.caseSensitive) := by
  have hpassed (result : Except MatchError Bool) : result = .ok true ↔
    Evaluation.passed ⟨.settled result, []⟩ :=
    Specification.passed_settled.symm
  simp only [Matcher.Passes, hpassed]
  exact gives_criteria

theorem gives_passed_spelledOut : Gives (Passed request) r.criteria ↔
    Gives (Passed request) r.spelledOut.criteria ∧ r.IsLiteralIn request.head := by
  have hpath : (∀ q ∈ r.path, Gives (·.Passes request.head.path) (q.matcher r.caseSensitive)) ↔
      (∀ q ∈ r.spelledOut.path, Gives (·.Passes request.head.path) (q.matcher r.caseSensitive)) ∧
        ∀ q ∈ r.path, q.IsLiteralIn request.head.path := by
    rw [spelledOut, Option.forall_mem_map, ← forall₂_and]
    exact forall₂_congr fun q _ => PathDefinition.gives_passes_spelledOut
  have hheaders : (∀ h ∈ r.headers, Gives (·.Passes request.head.headers) (h.matcher r.caseSensitive)) ↔
      (∀ h ∈ r.spelledOut.headers, Gives (·.Passes request.head.headers) (h.matcher r.caseSensitive)) ∧
        ∀ h ∈ r.headers, h.IsLiteralIn request.head.headers := by
    rw [spelledOut, List.forall_mem_map, ← forall₂_and]
    exact forall₂_congr fun h _ => HeaderDefinition.gives_passes_spelledOut
  rw [gives_passed_iff, gives_passed_iff, hpath, hheaders]
  constructor
  · rintro ⟨hmethod, ⟨hpath, hliteral⟩, ⟨hheaders, hliterals⟩, hbody⟩
    exact ⟨⟨hmethod, hpath, hheaders, hbody⟩, hliteral, hliterals⟩
  · rintro ⟨⟨hmethod, hpath, hheaders, hbody⟩, hliteral, hliterals⟩
    exact ⟨hmethod, ⟨hpath, hliteral⟩, ⟨hheaders, hliterals⟩, hbody⟩

theorem isLiteralIn_of_gives (hcase : r.caseSensitive)
    (h : Gives (Passed request) r.spelledOut.criteria) :
    r.IsLiteralIn request.head := by
  obtain ⟨-, hpath, hheaders, -⟩ := gives_passed_iff.mp h
  rw [spelledOut, Option.forall_mem_map, hcase] at hpath
  rw [spelledOut, List.forall_mem_map, hcase] at hheaders
  exact ⟨fun q hq => PathDefinition.isLiteralIn_of_gives (hpath q hq),
    fun h hh => HeaderDefinition.isLiteralIn_of_gives (hheaders h hh)⟩

end RequestDefinition

namespace StubDefinition

variable {d e : StubDefinition} {created : Nat} {stub other : Stub} {request : Request}

theorem gives_build {p : Stub → Prop} : Gives p (d.build created) ↔ d.response.validate = .ok () ∧
    Gives (fun spec => p ⟨d.configuration, spec.erase, d.responder, created⟩) d.specification := by
  simp only [Gives, build_eq_ok]
  constructor
  · rintro ⟨_, ⟨spec, hspec, hvalid, rfl⟩, hp⟩
    exact ⟨hvalid, spec, hspec, hp⟩
  · rintro ⟨hvalid, spec, hspec, hp⟩
    exact ⟨_, ⟨spec, hspec, hvalid, rfl⟩, hp⟩

theorem gives_accepts : Gives (·.Accepts request) (d.build created) ↔
    d.response.validate = .ok () ∧ Gives (RequestDefinition.Passed request) d.request.criteria := by
  rw [gives_build, specification, gives_bind]
  refine and_congr_right fun _ => exists_congr fun criteria => and_congr_right fun hcriteria => ?_
  have hasked : ∀ spec : Specification String, spec.criteria = criteria → spec.decoder = .text →
      (spec.Accepts request ↔ RequestDefinition.Passed request criteria) := by
    intro spec hspec hdecoder
    rw [Specification.accepts_iff_allPass, Specification.AllPass, hspec, hdecoder,
      RequestDefinition.Passed]
  exact gives_ok.trans (hasked _ (RequestDefinition.criteria_ofCriteria hcriteria .text d.priority) (by
    rw [Specification.ofCriteria_eq]))

theorem gives_any_build : Gives (fun _ => True) (d.build created) ↔
    d.response.validate = .ok () ∧ Gives (∀ c ∈ ·, True) d.request.criteria := by
  rw [gives_build, specification, gives_bind]
  refine and_congr_right fun _ => exists_congr fun criteria => and_congr_right fun _ => ?_
  exact iff_of_true (gives_ok.mpr trivial) fun _ _ => trivial

theorem gives_accepts_spelledOut : Gives (·.Accepts request) (d.build created) ↔
    Gives (·.Accepts request) (d.spelledOut.build created) ∧ d.request.IsLiteralIn request.head := by
  rw [gives_accepts, gives_accepts, RequestDefinition.gives_passed_spelledOut, and_assoc]
  rfl

theorem gives_any_build_spelledOut : Gives (fun _ => True) (d.build created) ↔
    Gives (fun _ => True) (d.spelledOut.build created) := by
  rw [gives_any_build, gives_any_build, RequestDefinition.gives_any_spelledOut]
  rfl

theorem isLiteralIn_of_gives (hcase : d.request.caseSensitive)
    (h : Gives (·.Accepts request) (d.spelledOut.build created)) : d.request.IsLiteralIn request.head :=
  RequestDefinition.isLiteralIn_of_gives hcase (gives_accepts.mp h).2

/-- A stub beside that of its definition spelled out: it accepts no more, and what it accepts meets
to the letter what is written as itself. Where case matters that makes no difference. -/
structure Narrows (d : StubDefinition) (stub plain : Stub) : Prop where
  accepts_iff : ∀ request, stub.Accepts request ↔ plain.Accepts request ∧
    d.request.IsLiteralIn request.head
  same_of_caseSensitive : d.request.caseSensitive → ∀ request, stub.Accepts request ↔
    plain.Accepts request

theorem narrows_spelledOut {plain : Stub} (hstub : d.build created = .ok stub)
    (hplain : d.spelledOut.build created = .ok plain) : d.Narrows stub plain := by
  have haccepts (request : Request) : stub.Accepts request ↔
      plain.Accepts request ∧ d.request.IsLiteralIn request.head := by
    have h : Gives (·.Accepts request) (d.build created) ↔ _ := gives_accepts_spelledOut
    rwa [hstub, hplain, gives_ok, gives_ok] at h
  refine ⟨haccepts, fun hcase request =>
    (haccepts request).trans (and_iff_left_of_imp fun hpassed => ?_)⟩
  exact isLiteralIn_of_gives hcase ⟨plain, hplain, hpassed⟩

/-- If one spelling of a definition can be built, then all can. The stubs differ in what has to be
met to the letter; where case matters they answer the same requests. -/
theorem spellings_interchange (hspelled : d.spelledOut = e.spelledOut)
    (hstub : d.build created = .ok stub) :
    ∃ other plain, e.build created = .ok other ∧ d.spelledOut.build created = .ok plain ∧
      d.Narrows stub plain ∧ e.Narrows other plain ∧
      (d.request.caseSensitive → ∀ request, stub.Accepts request ↔ other.Accepts request) := by
  obtain ⟨plain, hplain, -⟩ := gives_any_build_spelledOut.mp ⟨stub, hstub, trivial⟩
  have hplain' : e.spelledOut.build created = .ok plain := hspelled ▸ hplain
  obtain ⟨other, hother, -⟩ := gives_any_build_spelledOut.mpr ⟨plain, hplain', trivial⟩
  have hcase : d.request.caseSensitive = e.request.caseSensitive := by
    change d.spelledOut.request.caseSensitive = e.spelledOut.request.caseSensitive
    rw [hspelled]
  have hd := narrows_spelledOut hstub hplain
  have he := narrows_spelledOut hother hplain'
  refine ⟨other, plain, hother, hplain, hd, he, fun hmatters request => ?_⟩
  exact (hd.same_of_caseSensitive hmatters request).trans
    (he.same_of_caseSensitive (hcase ▸ hmatters) request).symm

def keyed (path : PathDefinition) (header : HeaderDefinition) : StubDefinition :=
  { blank with request := ⟨none, some path, [header], [], false⟩ }

theorem spellings_interchange_keyed :
    let d := keyed (.exact "/Ping") (.exact "X-Key" "A")
    let e := keyed (.matching (.equals "/Ping")) (.matching "X-Key" (.equals "A"))
    d.spelledOut = e.spelledOut ∧ ∃ stub, d.build 0 = .ok stub ∧ ∃ other plain, e.build 0 = .ok other ∧
      d.spelledOut.build 0 = .ok plain ∧ d.Narrows stub plain ∧ e.Narrows other plain ∧
      (d.request.caseSensitive → ∀ request, stub.Accepts request ↔ other.Accepts request) :=
  ⟨rfl, _, rfl, spellings_interchange rfl rfl⟩

def knocking : Request :=
  ⟨⟨"GET", ⟨none, none, "/ping", none⟩, .http11, .ofList [("x-key", [97])]⟩, .ofBytes []⟩

/-- Where case does not matter it still does for a path that is written as itself. -/
theorem literal_without_case :
    let d := keyed (.exact "/Ping") (.exact "X-Key" "a")
    let e := keyed (.matching (.equals "/Ping")) (.exact "X-Key" "a")
    d.spelledOut = e.spelledOut ∧ ∃ stub other, d.build 0 = .ok stub ∧ e.build 0 = .ok other ∧
      ¬stub.Accepts knocking ∧ other.Accepts knocking := by
  refine ⟨rfl, _, _, rfl, rfl, ?_, ?_⟩
  · intro haccepts
    have hgives : Gives (·.Accepts knocking) ((keyed (.exact "/Ping") (.exact "X-Key" "a")).build 0) :=
      ⟨_, rfl, haccepts⟩
    have hliteral := (gives_accepts_spelledOut.mp hgives).2
    have hpath : knocking.head.path = "/Ping" := hliteral.path _ rfl
    exact absurd hpath (by decide)
  · rfl

end StubDefinition

end StubServer
