import StubServer.Proofs.Config.Definitions
import StubServer.Server.Basic

namespace StubServer

open Stub (Sorted)

section

variable {α : Type} {rank : α → Int}

theorem filter_mergeSort (r : Int) (items : List α) :
    (items.mergeSort fun a b => rank a ≤ rank b).filter (rank · = r) = items.filter (rank · = r) := by
  have hequal : (items.filter (rank · = r)).Pairwise fun a b => decide (rank a ≤ rank b) = true := by
    refine List.pairwise_of_forall_mem_list fun a ha b hb => ?_
    rw [List.mem_filter, decide_eq_true_eq] at ha hb
    exact decide_eq_true (Int.le_of_eq (ha.2.trans hb.2.symm))
  have hsub : (items.filter (rank · = r)).Sublist (items.mergeSort fun a b => rank a ≤ rank b) :=
    List.sublist_mergeSort (fun a b c hab hbc => by simp only [decide_eq_true_eq] at *; omega)
      (fun a b => by simpa using Int.le_total _ _) hequal List.filter_sublist
  have hfilter := hsub.filter (rank · = r)
  rw [List.filter_filter] at hfilter
  simp only [Bool.and_self] at hfilter
  refine (hfilter.eq_of_length ?_).symm
  exact ((List.mergeSort_perm items _).filter _).length_eq.symm

theorem pairwise_mergeSort_of_pairwise {before : α → α → Prop} {items : List α}
    (h : items.Pairwise before) :
    (items.mergeSort fun a b => rank a ≤ rank b).Pairwise fun a b =>
      rank a < rank b ∨ rank a = rank b ∧ before a b := by
  have hsorted : (items.mergeSort fun a b => rank a ≤ rank b).Pairwise fun a b =>
    decide (rank a ≤ rank b) :=
    List.pairwise_mergeSort (fun a b c hab hbc => by simp only [decide_eq_true_eq] at *; omega)
    (fun a b => by simpa using Int.le_total _ _) items
  rw [List.pairwise_iff_forall_sublist] at hsorted ⊢
  intro a b hab
  have hle : rank a ≤ rank b := of_decide_eq_true (hsorted hab)
  obtain hlt | heq := Int.lt_or_eq_of_le hle
  · exact .inl hlt
  · have hfilter := hab.filter (rank · = rank b)
    rw [filter_mergeSort] at hfilter
    simp only [List.filter_cons, List.filter_nil, heq, decide_true, if_true] at hfilter
    exact .inr ⟨heq, List.pairwise_iff_forall_sublist.mp h (hfilter.trans List.filter_sublist)⟩

end

theorem Registry.add_newer {g : Registry} {stub : Stub} (hsorted : Sorted g.list)
    (hnewer : ∀ s ∈ g.list, s.created < stub.created) :
    ∃ stubs, g.add stub = ({ g with stubs }, .ok ()) ∧
      Sorted stubs.value ∧ stubs.value.Perm (stub :: g.list) := by
  obtain ⟨i, hplace, hsplits⟩ | ⟨-, s, hs, horder⟩ := place_spec stub hsorted
  · have hadding : adding stub g.stubs.value = .ok (some (g.list.take i ++ stub :: g.list.drop i)) := by
      change some <$> (place stub g.list).map _ = _
      rw [hplace]
      rfl
    refine ⟨g.stubs.store (g.list.take i ++ stub :: g.list.drop i), ?_,
      sorted_take_cons_drop hsorted hsplits, ?_⟩
    · simp only [add, Update.alone, Update.step, hadding, Cell.replace?, if_true]
      rfl
    · have hperm : (g.list.take i ++ stub :: g.list.drop i).Perm
        (stub :: (g.list.take i ++ g.list.drop i)) :=
        List.perm_middle
      rwa [List.take_append_drop] at hperm
  · exact absurd (Stub.order_eq_eq.mp horder).2 (Nat.ne_of_lt (hnewer s hs))

namespace StubDefinition

/-- These are the stubs of the definitions, with these numbers. -/
def BuiltAs (entries : List (StubDefinition × Nat)) (stubs : List Stub) : Prop :=
  List.Forall₂ (fun entry stub => entry.1.build entry.2 = .ok stub) entries stubs

variable {entries : List (StubDefinition × Nat)} {stubs : List Stub}

theorem BuiltAs.exists_stub (h : BuiltAs entries stubs) {entry : StubDefinition × Nat}
    (hentry : entry ∈ entries) :
    ∃ stub ∈ stubs, entry.1.build entry.2 = .ok stub := by
  obtain ⟨i, hi, rfl⟩ := List.mem_iff_getElem.mp hentry
  exact ⟨_, List.getElem_mem (h.length_eq ▸ hi), h.get hi (h.length_eq ▸ hi)⟩

theorem BuiltAs.exists_entry (h : BuiltAs entries stubs) {stub : Stub} (hstub : stub ∈ stubs) :
    ∃ entry ∈ entries, entry.1.build entry.2 = .ok stub := by
  obtain ⟨i, hi, rfl⟩ := List.mem_iff_getElem.mp hstub
  exact ⟨_, List.getElem_mem (h.length_eq ▸ hi), h.get (h.length_eq ▸ hi) hi⟩

theorem BuiltAs.sorted (h : BuiltAs entries stubs)
    (hentries : entries.Pairwise fun a b => a.1.rank < b.1.rank ∨ a.1.rank = b.1.rank ∧ a.2 < b.2) :
    Sorted stubs := by
  refine List.pairwise_iff_getElem.mpr fun i j hi hj hij => ?_
  have hlength := h.length_eq
  have hentry := List.pairwise_iff_getElem.mp hentries i j (hlength ▸ hi) (hlength ▸ hj) hij
  have hbuilt := built_of_build (h.get (hlength ▸ hi) hi)
  have hbuilt' := built_of_build (h.get (hlength ▸ hj) hj)
  simp only [List.get_eq_getElem] at hbuilt hbuilt'
  rw [Stub.before_iff, hbuilt.priority_eq, hbuilt'.priority_eq, hbuilt.created_eq, hbuilt'.created_eq]
  exact hentry

end StubDefinition

namespace Server

open StubDefinition (BuiltAs)

theorem addDefinitions_eq_ok {definitions : List StubDefinition}
    (hbuild : ∀ d ∈ definitions, ∀ n, ∃ stub, d.build n = .ok stub) {state : ServerState} {created : Nat}
    (hsorted : Sorted state.registry.list) (hold : ∀ s ∈ state.registry.list, s.created < created) :
    ∃ stubs built, addDefinitions state created definitions =
        .ok { state with registry := { state.registry with stubs } } ∧
      Sorted stubs.value ∧ BuiltAs (definitions.zipIdx created) built ∧
      stubs.value.Perm (built ++ state.registry.list) := by
  induction definitions generalizing state created with
  | nil => exact ⟨state.registry.stubs, [], rfl, hsorted, .nil, .refl _⟩
  | cons d rest ih =>
    obtain ⟨hd, hrest⟩ := List.forall_mem_cons.mp hbuild
    obtain ⟨stub, hstub⟩ := hd created
    have hcreated := (StubDefinition.built_of_build hstub).created_eq
    obtain ⟨stubs, hadd, hsorted', hperm⟩ := Registry.add_newer hsorted fun s hs => hcreated ▸ hold s hs
    have hold' : ∀ s ∈ stubs.value, s.created < created + 1 := by
      intro s hs
      obtain rfl | hs := List.mem_cons.mp (hperm.mem_iff.mp hs)
      · omega
      · have := hold s hs
        omega
    have hsortedNext : Sorted ({ state with registry := { state.registry with stubs } } :
      ServerState).registry.list :=
      hsorted'
    obtain ⟨stubs', built, hrest, hsorted'', hbuilt, hperm'⟩ := ih hrest hsortedNext hold'
    refine ⟨stubs', stub :: built, ?_, hsorted'', .cons hstub hbuilt, ?_⟩
    · simp only [addDefinitions, hstub, Except.mapError, Bind.bind, Except.bind, hadd]
      exact hrest
    · refine hperm'.trans ?_
      exact (List.Perm.append_left built hperm).trans List.perm_middle

/-- The choice among the stubs of the definitions: the lowest rank, and what the file says first. -/
inductive Prefers (entries : List (StubDefinition × Nat)) (request : Request) :
    Outcome (Option Stub) → Prop
  | none (h : ∀ entry ∈ entries, ∀ stub, entry.1.build entry.2 = .ok stub → ¬stub.Accepts request) :
      Prefers entries request (.returned none)
  | some {entry : StubDefinition × Nat} {stub : Stub} (hentry : entry ∈ entries)
      (hbuild : entry.1.build entry.2 = .ok stub) (haccepts : stub.Accepts request)
      (hfirst : ∀ other ∈ entries, ∀ s, other.1.build other.2 = .ok s → s.Accepts request →
        entry.1.rank < other.1.rank ∨ entry.1.rank = other.1.rank ∧ entry.2 ≤ other.2) :
      Prefers entries request (.returned (some stub))

theorem prefers_of_decides {entries : List (StubDefinition × Nat)} {built stubs : List Stub}
    {request : Request} {result : Outcome (Option Stub)} (hbuilt : BuiltAs entries built)
      (hsame : ∀ s, s ∈ stubs ↔ s ∈ built)
    (hfresh : request.body.queue = []) (h : Decides stubs request result) :
    Prefers entries request result := by
  have hescapes : ∀ s ∈ stubs, ¬s.Escapes request := by
    rintro s hs ⟨reason, hruling⟩
    obtain ⟨entry, -, hbuild⟩ := hbuilt.exists_entry ((hsame s).mp hs)
    obtain ⟨passed, hpassed⟩ :=
      Stub.verdict_of_decodes (StubDefinition.built_of_build hbuild).decodes hfresh
    rw [hruling] at hpassed
    cases hpassed
  have hstub : ∀ entry ∈ entries, ∀ s, entry.1.build entry.2 = .ok s → s ∈ stubs := by
    intro entry hentry s hs
    obtain ⟨s', hmem, hs'⟩ := hbuilt.exists_stub hentry
    rw [hs] at hs'
    cases hs'
    exact (hsame s).mpr hmem
  obtain ⟨found, rfl⟩ | ⟨reason, rfl⟩ := h.ends
  · cases found with
    | none => exact .none fun entry hentry s hs => (h.none_iff.mp rfl s (hstub entry hentry s hs)).1
    | some stub =>
      obtain ⟨hmem, haccepts, hleast, -⟩ := (h.some_iff stub).mp rfl
      obtain ⟨entry, hentry, hbuild⟩ := hbuilt.exists_entry ((hsame stub).mp hmem)
      have hfacts := StubDefinition.built_of_build hbuild
      refine .some hentry hbuild haccepts fun other hother s hs hsaccepts => ?_
      have hsfacts := StubDefinition.built_of_build hs
      obtain rfl | hbefore := hleast s (hstub other hother s hs) hsaccepts
      · rw [← hfacts.priority_eq, ← hsfacts.priority_eq, ← hfacts.created_eq, ← hsfacts.created_eq]
        exact .inr ⟨rfl, Nat.le_refl _⟩
      · rw [Stub.before_iff, hfacts.priority_eq, hsfacts.priority_eq, hfacts.created_eq,
          hsfacts.created_eq]
          at hbefore
        omega
  · obtain ⟨s, hs, he, -⟩ := h.panicked_iff.mp ⟨reason, rfl⟩
    exact absurd he (hescapes s hs)

theorem start_eq_ok {config : ServerConfig} {created : Nat} {bind : String → Option String}
    {address : String} {state : ServerState} (hvalid : config.validate = .ok ())
      (hbind : bind (target config) = some address)
    (hadded : addDefinitions (.new config.verbose config.journalMode) created config.stubs = .ok state) :
    start config created bind =
      .ok (⟨config, state, address, [], true⟩, [listeningEvent ⟨config, state, address, [], true⟩]) := by
  have hinitial : initialState config created = .ok state := by
    rw [initialState, hvalid]
    exact hadded
  simp only [start, hinitial, Bind.bind, Except.bind, hbind]
  rfl

/-- A server with a configuration that passes its check starts, whatever stubs there have been
before: its stubs are those of the file, once each, in the stable order of their priorities; and so
the first of them wins. -/
theorem start_sorts {config : ServerConfig} (hvalid : config.validate = .ok ()) (created : Nat)
    {bind : String → Option String} {address : String} (hbind : bind (target config) = some address) :
    ∃ server log, start config created bind = .ok (server, log) ∧
      BuiltAs ((config.stubs.zipIdx created).mergeSort fun a b =>
        a.1.rank ≤ b.1.rank) server.state.registry.list ∧
      ∀ (request : Request) (verbose : Bool) (now : Nat), request.body.queue = [] →
        Prefers (config.stubs.zipIdx created) request
          (server.state.registry.find request verbose now).result := by
  have hnone : (ServerState.new config.verbose config.journalMode).registry.list = [] := rfl
  have hold : ∀ s ∈ (ServerState.new config.verbose config.journalMode).registry.list,
    s.created < created :=
    fun s hs => absurd hs List.not_mem_nil
  obtain ⟨stubs, built, hadded, hsorted, hbuilt, hperm⟩ := addDefinitions_eq_ok
    (ServerConfig.build_of_validate hvalid) (hnone ▸ List.Pairwise.nil) hold
  have hnumbers : (config.stubs.zipIdx created).Pairwise fun a b => a.2 < b.2 := by
    refine List.pairwise_map.mp ?_
    rw [List.zipIdx_map_snd]
    exact List.pairwise_lt_range'
  obtain ⟨list, hlist, hlistPerm⟩ := List.perm_comp_forall₂
    (List.mergeSort_perm (config.stubs.zipIdx created) fun a b => a.1.rank ≤ b.1.rank) hbuilt
  have hlistSorted : Sorted list := BuiltAs.sorted hlist (pairwise_mergeSort_of_pairwise hnumbers)
  rw [hnone, List.append_nil] at hperm
  obtain rfl : stubs.value = list := List.Perm.eq_of_pairwise
    (fun a b _ _ hab hba => absurd hba (Stub.before_asymm hab)) hsorted hlistSorted
      (hperm.trans hlistPerm.symm)
  have hstart := start_eq_ok hvalid hbind hadded
  refine ⟨_, _, hstart, hlist, fun request verbose now hfresh => ?_⟩
  rw [Registry.find_result rfl hfresh]
  have hdecides : Decides stubs.value request (choose (·.ruling request) stubs.value) :=
    decides_of_chosen hsorted (chosen_choose _ hsorted)
  exact prefers_of_decides hbuilt (fun s => hperm.mem_iff) hfresh hdecides

def threeRanks : ServerConfig := { ServerConfig.blank with stubs :=
  [.blank, { StubDefinition.blank with priority := some 2147483647 },
    { StubDefinition.blank with priority := some (-1), removeAfterMatch := true }] }

theorem start_sorts_threeRanks :
    (start threeRanks 40 some).toOption.map (fun started =>
      started.1.state.registry.list.map (·.created)) = some [42, 40, 41] ∧
    ∃ server log, start threeRanks 40 some = .ok (server, log) ∧
      BuiltAs ((threeRanks.stubs.zipIdx 40).mergeSort fun a b =>
        a.1.rank ≤ b.1.rank) server.state.registry.list ∧
      ∀ (request : Request) (verbose : Bool) (now : Nat), request.body.queue = [] →
        Prefers (threeRanks.stubs.zipIdx 40) request
          (server.state.registry.find request verbose now).result :=
  ⟨rfl, start_sorts rfl 40 rfl⟩

end Server

end StubServer
