import StubServer.Config.ServerConfig
import StubServer.Proofs.Config.Template
import StubServer.Proofs.Server.Containment

namespace StubServer

open Matching (Criterion Matcher Specification)

namespace Matching

variable {P : Type}

def Criterion.Judges (c : Criterion P) : Prop := ∀ value, c ≠ .priority value

theorem Specification.priority_foldl {criteria : List (Criterion P)} (h : ∀ c ∈ criteria, c.Judges)
    (spec : Specification P) : (criteria.foldl add spec).priority = spec.priority := by
  induction criteria generalizing spec with
  | nil => rfl
  | cons c rest ih =>
    obtain ⟨hc, hrest⟩ := List.forall_mem_cons.mp h
    rw [List.foldl_cons, ih hrest]
    cases c with
    | priority value => exact absurd rfl (hc value)
    | method | path | header | body | bodyText => rfl

theorem Specification.decoder_foldl (criteria : List (Criterion P)) (spec : Specification P) :
    (criteria.foldl add spec).decoder = spec.decoder := by
  induction criteria generalizing spec with
  | nil => rfl
  | cons c rest ih =>
    rw [List.foldl_cons, ih]
    cases c <;> rfl

end Matching

namespace RequestDefinition

variable {r : RequestDefinition}

theorem judges_methodCriterion {criteria : List (Criterion String)}
    (h : r.methodCriterion = .ok criteria) :
    ∀ c ∈ criteria, c.Judges := by
  rw [methodCriterion] at h
  split at h
  · cases h
    exact fun c hc => absurd hc List.not_mem_nil
  · split at h
    · cases h
      exact List.forall_mem_singleton.mpr fun value he => nomatch he
    · cases h

theorem judges_pathCriterion {criteria : List (Criterion String)} (h : r.pathCriterion = .ok criteria) :
    ∀ c ∈ criteria, c.Judges := by
  rw [pathCriterion] at h
  split at h
  · cases h
    exact fun c hc => absurd hc List.not_mem_nil
  · cases h
    exact List.forall_mem_singleton.mpr fun value he => nomatch he
  · obtain ⟨matcher, -, h⟩ := bind_eq_ok.mp h
    cases h
    exact List.forall_mem_singleton.mpr fun value he => nomatch he

theorem judges_headerCriterion {caseSensitive : Bool} (header : HeaderDefinition) (c : Criterion String)
    (h : headerCriterion caseSensitive header = .ok c) : c.Judges := by
  cases header with
  | exact name value =>
    rw [headerCriterion] at h
    split at h
    · cases h
      exact fun value he => nomatch he
    · cases h
  | matching name m =>
    obtain ⟨matcher, -, rfl⟩ := map_eq_ok.mp h
    exact fun value he => nomatch he

theorem judges_criteria {criteria : List (Criterion String)} (h : r.criteria = .ok criteria) :
    ∀ c ∈ criteria, c.Judges := by
  obtain ⟨method, hmethod, h⟩ := bind_eq_ok.mp h
  obtain ⟨path, hpath, h⟩ := bind_eq_ok.mp h
  obtain ⟨headers, hheaders, h⟩ := bind_eq_ok.mp h
  obtain ⟨body, hbody, h⟩ := bind_eq_ok.mp h
  cases h
  have hjudges : ∀ c ∈ body, c.Judges := forall_mem_of_mapM (fun m c hc => by
    obtain ⟨matcher, -, rfl⟩ := map_eq_ok.mp hc
    exact fun value he => nomatch he) hbody
  intro c hc
  simp only [List.mem_append] at hc
  obtain ((hc | hc) | hc) | hc := hc
  · exact judges_methodCriterion hmethod c hc
  · exact judges_pathCriterion hpath c hc
  · exact forall_mem_of_mapM judges_headerCriterion hheaders c hc
  · exact hjudges c hc

end RequestDefinition

namespace StubDefinition

variable {d : StubDefinition} {created : Nat} {stub : Stub}

/-- The priority, where one that is missing counts as the greatest number of 32 bits. -/
def rank (d : StubDefinition) : Int := d.priority.getD 2147483647

theorem specification_eq_ok {spec : Specification String} (h : d.specification = .ok spec) :
    spec.effectivePriority = d.rank ∧ spec.Decodes := by
  obtain ⟨criteria, hcriteria, h⟩ := bind_eq_ok.mp h
  cases h
  have hpriority := Specification.priority_foldl (RequestDefinition.judges_criteria hcriteria)
    (.any .text)
  rw [Specification.ofCriteria, List.foldl_append]
  refine ⟨?_, fun bytes => ?_⟩
  · rw [Specification.effectivePriority, rank]
    cases hd : d.priority with
    | none => exact congrArg (·.getD Matching.defaultPriority) hpriority
    | some value => rfl
  · rw [Specification.decoder_foldl, Specification.decoder_foldl]
    exact fun reason he => nomatch he

structure Built (d : StubDefinition) (created : Nat) (stub : Stub) : Prop where
  created_eq : stub.created = created
  priority_eq : stub.priority = d.rank
  decodes : stub.Decodes

theorem built_of_build (h : d.build created = .ok stub) : d.Built created stub := by
  obtain ⟨spec, hspec, -, rfl⟩ := build_eq_ok.mp h
  obtain ⟨hpriority, hdecodes⟩ := specification_eq_ok hspec
  exact ⟨rfl, hpriority, String, spec, hdecodes, rfl⟩

theorem exists_build (h : d.build created = .ok stub) (n : Nat) : ∃ stub', d.build n = .ok stub' := by
  obtain ⟨spec, hspec, hvalid, -⟩ := build_eq_ok.mp h
  exact ⟨_, build_eq_ok.mpr ⟨spec, hspec, hvalid, rfl⟩⟩

end StubDefinition

namespace ServerConfig

theorem checkStubs_eq_ok {index : Nat} {definitions : List StubDefinition} :
    checkStubs index definitions = .ok () ↔ ∀ d ∈ definitions, ∃ stub, d.build 0 = .ok stub := by
  induction definitions generalizing index with
  | nil => simp [checkStubs]
  | cons d rest ih =>
    rw [checkStubs, List.forall_mem_cons]
    cases d.build 0 with
    | error e => simp
    | ok stub => simp [ih]

theorem build_of_validate {config : ServerConfig} (h : config.validate = .ok ()) :
    ∀ d ∈ config.stubs, ∀ created, ∃ stub, d.build created = .ok stub := by
  rw [validate] at h
  split at h
  · cases h
  · obtain ⟨_, -, h⟩ := bind_eq_ok.mp h
    intro d hd created
    obtain ⟨stub, hstub⟩ := checkStubs_eq_ok.mp h d hd
    exact StubDefinition.exists_build hstub created

end ServerConfig

end StubServer
