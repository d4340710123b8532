import StubServer.Proofs.Server.Accounts

namespace StubServer

open Stub (Sorted)

namespace Milestone

variable {number : Nat} {history : List Milestone}

theorem serves_iff {created : List Stub} (hdistinct : Stub.Distinct created) {stub : Stub}
    (hstub : stub ∈ created)
    (hmem : ∀ n record s, .found n record (some s) ∈ history → s ∈ created) :
    history.any (·.serves stub.created) = true ↔ ∃ n record, .found n record (some stub) ∈ history := by
  rw [List.any_eq_true]
  constructor
  · rintro ⟨milestone, hin, hserves⟩
    cases milestone with
    | reset registered => cases hserves
    | found n record stub? =>
      cases stub? with
      | none => cases hserves
      | some s =>
        have hsame : s = stub := hdistinct s (hmem n record s hin) stub hstub (of_decide_eq_true hserves)
        exact ⟨n, record, hsame ▸ hin⟩
  · rintro ⟨n, record, hin⟩
    exact ⟨_, hin, decide_eq_true rfl⟩

theorem sinceResetOf_eq (h : ∀ milestone ∈ (upToReset history).getLast?, milestone.covers number) :
    sinceResetOf number history = sinceReset history := by
  induction history using List.reverseRecOn with
  | nil => rfl
  | append_singleton history milestone ih =>
    cases milestone with
    | found n record stub? =>
      rw [upToReset_found] at h
      rw [sinceReset_found, ← ih h]
      exact List.rtakeWhile_concat_pos _ _ _ rfl
    | reset registered =>
      rw [upToReset_reset, List.getLast?_concat] at h
      have hstops : ¬(!(Milestone.reset registered).covers number) = true := by simp [h _ rfl]
      rw [sinceReset_reset]
      exact List.rtakeWhile_concat_neg (fun m : Milestone => !m.covers number) _ _ hstops

end Milestone

namespace Service

/-- A find has come back with the stub since the last reset that the stub took part in. -/
def isUsed (s : Service) (stub : Stub) : Bool :=
  (Milestone.sinceResetOf stub.created s.history).any (·.serves stub.created)

/-- The stub took part in the last reset, if there was one. -/
def IsCovered (s : Service) (stub : Stub) : Prop :=
  ∀ milestone ∈ (Milestone.upToReset s.history).getLast?, milestone.covers stub.created

/-- What verification tells about the stubs in the list, which is in order. -/
structure Verified (s : Service) : Prop where
  sorted : Sorted s.state.registry.list
  unmatched : s.state.unmatchedStubs =
    (s.state.registry.list.filter fun stub => !s.isUsed stub).map (·.specification)
  verifies : s.state.verifyStubs = .ok () ↔ ∀ stub ∈ s.state.registry.list, s.isUsed stub
  used_iff : ∀ stub ∈ s.state.registry.list, s.isUsed stub ↔
    ∃ n record, .found n record (some stub) ∈ Milestone.sinceResetOf stub.created s.history
  covered : ∀ stub ∈ s.state.registry.list, s.IsCovered stub → (s.isUsed stub ↔
    ∃ n record, .found n record (some stub) ∈ Milestone.sinceReset s.history)

variable {s : Service}

theorem verifyStubs_eq_ok {state : ServerState} :
    state.verifyStubs = .ok () ↔ state.registry.unmatched = [] := by
  rw [ServerState.verifyStubs, ServerState.unmatchedStubs]
  cases state.registry.unmatched <;> simp

/-- Whatever happens, verification lists in order the stubs that no find has come back with since
the last reset that they took part in. -/
theorem verified_run (verbose : Bool) (mode : JournalMode) (events : List Event) :
    (run verbose mode events).Verified := by
  have hsound := sound_run verbose mode events
  have hrecorded := recorded_run verbose mode events
  have hcounts := counts_run verbose mode events
  generalize run verbose mode events = s at hsound hrecorded hcounts ⊢
  have hunused : ∀ stub, (s.state.registry.countOf stub = 0) ↔ s.isUsed stub = false := by
    intro stub
    rw [Registry.countOf, hcounts, Milestone.tally, List.countP_eq_zero, isUsed, List.any_eq_false]
  have hlist : s.state.registry.unmatched = s.state.registry.list.filter fun stub => !s.isUsed stub := by
    refine List.filter_congr fun stub _ => ?_
    rw [Bool.eq_iff_iff, decide_eq_true_eq, hunused, Bool.not_eq_true']
  have hused : ∀ stub ∈ s.state.registry.list, s.isUsed stub ↔
      ∃ n record, .found n record (some stub) ∈ Milestone.sinceResetOf stub.created s.history := by
    intro stub hstub
    refine Milestone.serves_iff hsound.tidy.distinct (hsound.tidy.subset hstub) fun n record s' hin => ?_
    exact mem_created_of_found hrecorded ((List.rtakeWhile_suffix _ _).subset hin)
  refine ⟨hsound.tidy.sorted, congrArg (List.map Stub.specification) hlist, ?_, hused, ?_⟩
  · rw [verifyStubs_eq_ok, hlist, List.filter_eq_nil_iff]
    simp
  · intro stub hstub hcovered
    rw [← Milestone.sinceResetOf_eq hcovered]
    exact hused stub hstub

def resetWhileGone : List Event :=
  .create ⟨none, true, false⟩ (Matching.Specification.any Matching.Decoder.text).erase
    (fun _ => .done (.failed "")) ::
    [.register 0, .arrive ⟨⟨"GET", ⟨none, none, "/", none⟩, .http11, ⟨[]⟩⟩, .ofBytes []⟩,
      .resume 0 ⟨0, 0⟩ 0, .resume 0 ⟨0, 0⟩ 0, .reset, .register 0]

/-- No find has come back with anything since the reset, but verification takes the stub for used. -/
theorem used_despite_reset :
    let s := run false .lean resetWhileGone
    s.state.registry.list.map (·.created) = [1] ∧ Milestone.sinceReset s.history = [] ∧
      s.state.unmatchedStubs = [] ∧ s.state.verifyStubs = .ok () :=
  ⟨rfl, rfl, rfl, rfl⟩

end Service

end StubServer
