import Mathlib.Algebra.Ring.Nat
import Mathlib.Data.List.DropRight
import StubServer.Proofs.Server.Rounds

namespace StubServer

namespace Milestone

def isReset : Milestone → Bool
  | .found .. => false
  | .reset _ => true

def number? : Milestone → Option Nat
  | .found n _ _ => some n
  | .reset _ => none

def missed? : Milestone → Option RecordedRequest
  | .found _ record none => some record
  | _ => none

def served? : Milestone → Option RecordedRequest
  | .found _ record (some _) => some record
  | _ => none

def serves (number : Nat) : Milestone → Bool
  | .found _ _ stub? => stub?.any (·.created = number)
  | .reset _ => false

/-- A reset while the stub of this number was registered. -/
def covers (number : Nat) : Milestone → Bool
  | .found .. => false
  | .reset registered => registered.any (·.created = number)

/-- What has happened since the last reset. -/
def sinceReset (history : List Milestone) : List Milestone := history.rtakeWhile (!·.isReset)

def upToReset (history : List Milestone) : List Milestone := history.rdropWhile (!·.isReset)

/-- What has happened since the last reset while the stub of this number was registered. -/
def sinceResetOf (number : Nat) (history : List Milestone) : List Milestone :=
  history.rtakeWhile (!·.covers number)

def tally (number : Nat) (history : List Milestone) : Nat :=
  (sinceResetOf number history).countP (·.serves number)

section

variable (number : Nat) (history : List Milestone) (n : Nat) (record : RecordedRequest)
  (stub? : Option Stub) (registered : List Stub)

theorem sinceReset_found :
    sinceReset (history ++ [.found n record stub?]) = sinceReset history ++ [.found n record stub?] :=
  List.rtakeWhile_concat_pos _ _ _ rfl

theorem sinceReset_reset : sinceReset (history ++ [.reset registered]) = [] :=
  List.rtakeWhile_concat_neg _ _ _ (by simp [isReset])

theorem upToReset_found : upToReset (history ++ [.found n record stub?]) = upToReset history :=
  List.rdropWhile_concat_pos _ _ _ rfl

theorem upToReset_reset : upToReset (history ++ [.reset registered]) = history ++ [.reset registered] :=
  List.rdropWhile_concat_neg _ _ _ (by simp [isReset])

theorem tally_found : tally number (history ++ [.found n record stub?]) =
    tally number history + if stub?.any (·.created = number) then 1 else 0 := by
  rw [tally, sinceResetOf, List.rtakeWhile_concat_pos _ _ _ rfl, List.countP_append]
  simp [tally, sinceResetOf, serves]

theorem tally_reset : tally number (history ++ [.reset registered]) =
    if registered.any (·.created = number) then 0 else tally number history := by
  cases hcovers : registered.any (·.created = number) with
  | true =>
    have hstops : ¬(!(Milestone.reset registered).covers number) = true := by simp [covers, hcovers]
    rw [tally, sinceResetOf, List.rtakeWhile_concat_neg (fun m : Milestone =>
      !m.covers number) _ _ hstops]
    rfl
  | false =>
    have hgoes : (!(Milestone.reset registered).covers number) = true := by simp [covers, hcovers]
    rw [tally, sinceResetOf, List.rtakeWhile_concat_pos (fun m : Milestone =>
      !m.covers number) _ _ hgoes, List.countP_append]
    rfl

theorem tally_split : tally number history =
    tally number (upToReset history) + (sinceReset history).countP (·.serves number) := by
  induction history using List.reverseRecOn with
  | nil => rfl
  | append_singleton history milestone ih =>
    cases milestone with
    | found n record stub? =>
      rw [tally_found, upToReset_found, sinceReset_found, List.countP_append, ih]
      simp [serves, Nat.add_assoc]
    | reset registered =>
      rw [upToReset_reset, sinceReset_reset]
      rfl

end

end Milestone

open Milestone (tally)

namespace Journal

theorem append_value (r : RecordedRequest) (records : Records) :
    (append r records).value = records.value ++ [r] := by
  simp [append, Update.alone, Update.step, adding, Cell.replace?, Cell.store]

theorem recordUnmatched_unmatched (journal : Journal) (record : RecordedRequest) :
    (journal.recordUnmatched record).unmatched.value = journal.unmatched.value ++ [record] :=
  append_value record journal.unmatched

theorem recordMatched_mode (journal : Journal) (record : RecordedRequest) :
    (journal.recordMatched record).mode = journal.mode := by
  rw [recordMatched]
  split <;> rfl

theorem recordMatched_unmatched (journal : Journal) (record : RecordedRequest) :
    (journal.recordMatched record).unmatched = journal.unmatched := by
  rw [recordMatched]
  split <;> rfl

theorem recordMatched_matched (journal : Journal) (record : RecordedRequest) :
    (journal.recordMatched record).matched.value =
      journal.matched.value ++ if journal.mode = .full then [record] else [] := by
  cases hmode : journal.mode with
  | lean => simp [recordMatched, hmode]
  | full => simp [recordMatched, hmode, append_value]

structure Keeps (mode : JournalMode) (journal : Journal) (recent : List Milestone) : Prop where
  mode_eq : journal.mode = mode
  unmatched : journal.unmatched.value = recent.filterMap Milestone.missed?
  matched : journal.matched.value = if mode = .full then recent.filterMap Milestone.served? else []

variable {mode : JournalMode} {journal : Journal} {recent : List Milestone}

theorem keeps_clear (h : journal.Keeps mode recent) : journal.clear.Keeps mode [] :=
  ⟨h.mode_eq, rfl, by cases mode <;> rfl⟩

theorem keeps_unmatched (h : journal.Keeps mode recent) (n : Nat) (record : RecordedRequest) :
    (journal.recordUnmatched record).Keeps mode (recent ++ [.found n record none]) := by
  refine ⟨h.mode_eq, ?_, ?_⟩
  · rw [recordUnmatched_unmatched, h.unmatched, List.filterMap_append]
    rfl
  · have hnothing : [Milestone.found n record none].filterMap Milestone.served? = [] := rfl
    rw [List.filterMap_append, hnothing, List.append_nil]
    exact h.matched

theorem keeps_matched (h : journal.Keeps mode recent) (n : Nat) (record : RecordedRequest)
    (stub : Stub) :
    (journal.recordMatched record).Keeps mode (recent ++ [.found n record (some stub)]) := by
  refine ⟨(recordMatched_mode journal record).trans h.mode_eq, ?_, ?_⟩
  · rw [recordMatched_unmatched, List.filterMap_append]
    exact h.unmatched.trans (List.append_nil _).symm
  · rw [recordMatched_matched, h.mode_eq, h.matched, List.filterMap_append]
    split <;> rfl

end Journal

namespace Service

/-- The events up to the last reset and with it. -/
def upToReset (events : List Event) : List Event := events.rdropWhile (!·.isReset)

/-- What the find of request `n` has come back with, and the record of the request. -/
def foundBy (s : Service) (n : Nat) : Option (RecordedRequest × Option Stub) :=
  s.exchanges[n]?.bind (·.found)

/-- What an event does to the books: nothing, one find is counted and recorded, or they begin anew. -/
inductive Books (s s' : Service) : Event → Prop
  | same {event : Event} (hevent : event.isReset = false) (hjournal : s'.state.journal = s.state.journal)
      (hcounts : s'.state.registry.counts = s.state.registry.counts)
        (hhistory : s'.history = s.history) :
      Books s s' event
  | found {event : Event} (n : Nat) {record : RecordedRequest} {stub? : Option Stub}
      (hevent : event.isReset = false)
        (hjournal : s'.state.journal = (s.state.record record stub?).journal)
      (hcounts : ∀ number, s'.state.registry.counts number =
        s.state.registry.counts number + if stub?.any (·.created = number) then 1 else 0)
      (hhistory : s'.history = s.history ++ [.found n record stub?]) : Books s s' event
  | reset (hstate : s'.state = s.state.reset)
      (hhistory : s'.history = s.history ++ [.reset s.state.registry.list]) : Books s s' .reset

variable {s : Service}

theorem milestones_of_eq (n : Nat) {e e' : Exchange} (h : e'.found = e.found) :
    e.milestones n e' = [] := by
  rw [Exchange.milestones, h]
  cases e.found <;> rfl

theorem milestones_of_some (n : Nat) {e e' : Exchange} {record : RecordedRequest} {stub? : Option Stub}
    (h : e.found = none) (h' : e'.found = some (record, stub?)) :
    e.milestones n e' = [.found n record stub?] := by
  rw [Exchange.milestones, h, h']

theorem books_step (h : s.Sound) (event : Event) : s.Books (s.step event) event := by
  have hm := moves_step h event
  generalize s.step event = s' at hm ⊢
  cases hm with
  | stays hevent => exact .same hevent rfl rfl rfl
  | creates hevent => exact .same hevent rfl rfl rfl
  | lists hevent _ hcounts => exact .same hevent rfl hcounts rfl
  | arrives => exact .same rfl rfl rfl rfl
  | abandons hn hstate => exact .same rfl hstate.journal hstate.counts rfl
  | @resumes n _ _ e e' state' log hn hr =>
    cases hr with
    | waits _ _ _ _ hfound _ hstate | ends _ hfound _ hstate =>
      refine .same rfl hstate.journal hstate.counts ?_
      rw [milestones_of_eq n hfound, List.append_nil]
    | finds hfind _ hfound _ _ _ _ hcounts hjournal =>
      refine .found n rfl hjournal hcounts ?_
      rw [milestones_of_some n (h.waiting n e _ hn hfind).2.2 hfound]
  | resets => exact .reset rfl rfl

theorem counts_run (verbose : Bool) (mode : JournalMode) (events : List Event) (number : Nat) :
    (run verbose mode events).state.registry.counts number =
      tally number (run verbose mode events).history := by
  induction events using List.reverseRecOn with
  | nil => rfl
  | append_singleton events event ih =>
    rw [run_concat]
    cases books_step (sound_run verbose mode events) event with
    | same _ _ hcounts hhistory => rw [hcounts, hhistory, ih]
    | found n _ _ hcounts hhistory => rw [hcounts, hhistory, Milestone.tally_found, ih]
    | reset hstate hhistory =>
      -- The stubs whose counts are set to zero are those whose tallies begin anew.
      rw [hstate, hhistory, Milestone.tally_reset, ← ih]
      rfl

theorem upToReset_concat (events : List Event) (event : Event) :
    upToReset (events ++ [event]) = if event.isReset then events ++ [event] else upToReset events := by
  cases hreset : event.isReset with
  | true =>
    have hstops : ¬(!event.isReset) = true := by simp [hreset]
    exact List.rdropWhile_concat_neg (fun event : Event => !event.isReset) _ _ hstops
  | false =>
    have hgoes : (!event.isReset) = true := by simp [hreset]
    exact List.rdropWhile_concat_pos (fun event : Event => !event.isReset) _ _ hgoes

theorem history_upToReset (verbose : Bool) (mode : JournalMode) (events : List Event) :
    (run verbose mode (upToReset events)).history =
      Milestone.upToReset (run verbose mode events).history := by
  induction events using List.reverseRecOn with
  | nil => rfl
  | append_singleton events event ih =>
    rw [upToReset_concat]
    cases books_step (sound_run verbose mode events) event with
    | same hevent _ _ hhistory => rw [hevent, if_neg Bool.false_ne_true, ih, run_concat, hhistory]
    | found n hevent _ _ hhistory =>
      rw [hevent, if_neg Bool.false_ne_true, ih, run_concat, hhistory, Milestone.upToReset_found]
    | reset _ hhistory =>
      rw [Event.isReset, if_pos rfl, run_concat, hhistory, Milestone.upToReset_reset]

theorem counts_sinceReset (verbose : Bool) (mode : JournalMode) (events : List Event) (number : Nat) :
    (run verbose mode events).state.registry.counts number =
      (run verbose mode (upToReset events)).state.registry.counts number +
        (Milestone.sinceReset (run verbose mode events).history).countP (·.serves number) := by
  rw [counts_run, counts_run, history_upToReset, Milestone.tally_split]

theorem keeps_run (verbose : Bool) (mode : JournalMode) (events : List Event) :
    (run verbose mode events).state.journal.Keeps mode
      (Milestone.sinceReset (run verbose mode events).history) := by
  induction events using List.reverseRecOn with
  | nil => exact ⟨rfl, rfl, by cases mode <;> rfl⟩
  | append_singleton events event ih =>
    rw [run_concat]
    cases books_step (sound_run verbose mode events) event with
    | same _ hjournal _ hhistory =>
      rw [hjournal, hhistory]
      exact ih
    | @found _ n record stub? _ hjournal _ hhistory =>
      rw [hjournal, hhistory, Milestone.sinceReset_found]
      cases stub? with
      | none => exact Journal.keeps_unmatched ih n record
      | some stub => exact Journal.keeps_matched ih n record stub
    | reset hstate hhistory =>
      rw [hstate, hhistory, Milestone.sinceReset_reset]
      exact Journal.keeps_clear ih

/-- The milestones are what finds have come back with, each of them once. -/
structure Recorded (s : Service) : Prop where
  found_iff : ∀ (n : Nat) (record : RecordedRequest) (stub? : Option Stub),
    .found n record stub? ∈ s.history ↔ s.foundBy n = some (record, stub?)
  once : (s.history.filterMap Milestone.number?).Nodup
  own : ∀ (n : Nat) (e : Exchange) (record : RecordedRequest) (stub? : Option Stub),
    s.exchanges[n]? = some e → e.found = some (record, stub?) →
      (∃ timestamp, record = .ofHead timestamp e.request.head) ∧ ∀ stub ∈ stub?, stub ∈ s.created

variable {s' : Service}

theorem Recorded.not_mem (h : s.Recorded) {n : Nat} (hn : s.foundBy n = none) :
    n ∉ s.history.filterMap Milestone.number? := by
  intro hmem
  obtain ⟨milestone, hin, hnumber⟩ := List.mem_filterMap.mp hmem
  cases milestone with
  | reset registered => cases hnumber
  | found m record stub? =>
    obtain rfl := Option.some.inj hnumber
    cases hn.symm.trans ((h.found_iff m record stub?).mp hin)

theorem foundBy_set {n : Nat} {e e' : Exchange} (hn : s.exchanges[n]? = some e)
    (hs : s'.exchanges = s.exchanges.set n e') (m : Nat) :
    s'.foundBy m = if m = n then e'.found else s.foundBy m := by
  have hlt : n < s.exchanges.length := (List.getElem?_eq_some_iff.mp hn).1
  rw [foundBy, hs, List.getElem?_set]
  by_cases hm : n = m
  · subst hm
    simp [hlt]
  · simp [hm, Ne.symm hm, foundBy]

theorem foundBy_concat {e : Exchange} (hs : s'.exchanges = s.exchanges ++ [e]) (hnone : e.found = none)
    (n : Nat) : s'.foundBy n = s.foundBy n := by
  rw [foundBy, foundBy, hs]
  by_cases hlt : n < s.exchanges.length
  · rw [List.getElem?_append_left hlt]
  · rw [List.getElem?_append_right (Nat.le_of_not_lt hlt), List.getElem?_eq_none (Nat.le_of_not_lt hlt)]
    cases n - s.exchanges.length <;> simp [hnone]

theorem foundBy_of_same {n : Nat} {e e' : Exchange} (hn : s.exchanges[n]? = some e)
    (hs : s'.exchanges = s.exchanges.set n e') (hfound : e'.found = e.found) (m : Nat) :
    s'.foundBy m = s.foundBy m := by
  rw [foundBy_set hn hs, hfound]
  split
  · rename_i hm
    rw [foundBy, hm, hn]
    rfl
  · rfl

theorem recorded_found {n : Nat} {e e' : Exchange} {record : RecordedRequest} {stub? : Option Stub}
    (h : s.Recorded) (hn : s.exchanges[n]? = some e) (hnone : e.found = none)
    (hs : s'.exchanges = s.exchanges.set n e') (hfound : e'.found = some (record, stub?))
    (hhistory : s'.history = s.history ++ [.found n record stub?]) (hcreated : s'.created = s.created)
    (hhead : e'.request.head = e.request.head)
      (hown : ∃ timestamp, record = .ofHead timestamp e.request.head)
    (hstub : ∀ stub ∈ stub?, stub ∈ s.created) : s'.Recorded := by
  have hbefore : s.foundBy n = none := by
    rw [foundBy, hn]
    exact hnone
  refine ⟨fun m record' stub'? => ?_, ?_, fun m e₁ record' stub'? hm hfound' => ?_⟩
  · rw [foundBy_set hn hs, hhistory, List.mem_append, h.found_iff, List.mem_singleton]
    by_cases hmn : m = n
    · subst hmn
      simp [hbefore, hfound, eq_comm]
    · simp [hmn]
  · rw [hhistory, List.filterMap_append]
    -- The find had not come back before, so that its number is not in the history.
    refine List.nodup_append.mpr ⟨h.once, List.nodup_singleton n, fun a ha b hb he => ?_⟩
    obtain rfl : b = n := List.mem_singleton.mp hb
    exact h.not_mem hbefore (he ▸ ha)
  · rw [hcreated]
    rw [hs] at hm
    obtain ⟨rfl, rfl⟩ | ⟨-, hm⟩ := getElem?_set_cases hm
    · cases hfound.symm.trans hfound'
      exact ⟨hhead ▸ hown, hstub⟩
    · exact h.own m e₁ record' stub'? hm hfound'

theorem recorded_same {n : Nat} {e e' : Exchange} (h : s.Recorded) (hn : s.exchanges[n]? = some e)
    (hs : s'.exchanges = s.exchanges.set n e') (hfound : e'.found = e.found)
    (hhistory : s'.history = s.history) (hcreated : s'.created = s.created)
    (hhead : e'.request.head = e.request.head) : s'.Recorded := by
  refine ⟨fun m record stub? => ?_, hhistory ▸ h.once, fun m e₁ record stub? hm hfound' => ?_⟩
  · rw [foundBy_of_same hn hs hfound, hhistory, h.found_iff]
  · rw [hcreated]
    rw [hs] at hm
    obtain ⟨rfl, rfl⟩ | ⟨-, hm⟩ := getElem?_set_cases hm
    · exact hhead ▸ h.own m e record stub? hn (hfound ▸ hfound')
    · exact h.own m e₁ record stub? hm hfound'

theorem recorded_step (hsound : s.Sound) (h : s.Recorded) (event : Event) : (s.step event).Recorded := by
  have hm := moves_step hsound event
  generalize s.step event = s' at hm ⊢
  cases hm with
  | stays => exact h
  | creates =>
    refine ⟨h.found_iff, h.once, fun n e record stub? hn hfound => ?_⟩
    obtain ⟨hown, hstub⟩ := h.own n e record stub? hn hfound
    exact ⟨hown, fun stub hs => List.mem_append_left _ (hstub stub hs)⟩
  | lists => exact ⟨h.found_iff, h.once, h.own⟩
  | arrives request =>
    refine ⟨fun n record stub? => ?_, h.once, fun n e record stub? hn hfound => ?_⟩
    · rw [foundBy_concat rfl rfl, h.found_iff]
    · obtain hn | ⟨-, rfl⟩ := getElem?_concat_cases hn
      · exact h.own n e record stub? hn hfound
      · cases hfound
  | @resumes n now timestamp e e' state' log hn hr =>
    cases hr with
    | waits _ _ _ _ hfound hhead _ | ends _ hfound hhead _ =>
      have hnothing := milestones_of_eq n hfound
      exact recorded_same h hn rfl hfound (by rw [hnothing, List.append_nil]) rfl hhead
    | finds hfind _ hfound hhead hrecord hstub =>
      obtain ⟨-, hheld, hnone⟩ := hsound.waiting n e _ hn hfind
      have hsome := milestones_of_some n hnone hfound
      refine recorded_found h hn hnone rfl hfound (by rw [hsome]) rfl hhead ⟨timestamp, hrecord⟩ ?_
      exact fun stub hs => List.append_subset.mpr ⟨hheld, hsound.tidy.subset⟩ (hstub stub hs)
  | abandons hn _ hfound hhead => exact recorded_same h hn rfl hfound rfl rfl hhead
  | resets =>
    refine ⟨fun n record stub? => ?_, ?_, h.own⟩
    · rw [List.mem_append, h.found_iff]
      exact or_iff_left (by simp)
    · rw [List.filterMap_append]
      exact (List.append_nil _).symm ▸ h.once

theorem recorded_run (verbose : Bool) (mode : JournalMode) (events : List Event) :
    (run verbose mode events).Recorded := by
  induction events using List.reverseRecOn with
  | nil =>
    refine ⟨fun n record stub? => ?_, List.nodup_nil, fun n e record stub? hn => nomatch hn⟩
    simp [run, start, foundBy]
  | append_singleton events event ih =>
    rw [run_concat]
    exact recorded_step (sound_run verbose mode events) ih event

theorem mem_created_of_found (h : s.Recorded) {n : Nat} {record : RecordedRequest} {stub : Stub}
    (hin : .found n record (some stub) ∈ s.history) : stub ∈ s.created := by
  have hfound := (h.found_iff n record (some stub)).mp hin
  obtain ⟨e, he, hfound⟩ := Option.bind_eq_some_iff.mp hfound
  exact (h.own n e record (some stub) he hfound).2 stub rfl

theorem nodup_numbers {created : List Stub}
    (h : ∀ (i : Nat) (stub : Stub), created[i]? = some stub → stub.created = i + 1) :
    (created.map (·.created)).Nodup := by
  have hnumbers : created.map (·.created) = (List.range created.length).map (· + 1) := by
    refine List.ext_getElem? fun i => ?_
    rw [List.getElem?_map, List.getElem?_map]
    cases hi : created[i]? with
    | none => simp [List.getElem?_eq_none_iff.mp hi]
    | some stub => simp [h i stub hi, (List.getElem?_eq_some_iff.mp hi).1]
  rw [hnumbers]
  exact (List.nodup_range).map fun a b => Nat.succ.inj

theorem countP_number {created : List Stub} (h : (created.map (·.created)).Nodup) {stub : Stub}
    (hstub : stub ∈ created) : (created.countP fun s => stub.created = s.created) = 1 := by
  have hone := List.count_eq_one_of_mem h (List.mem_map_of_mem hstub)
  rw [List.count, List.countP_map] at hone
  rw [← hone]
  refine List.countP_congr fun s _ => ?_
  rw [Function.comp_apply, beq_iff_eq, decide_eq_true_eq]
  exact eq_comm

theorem sum_map_ite {α : Type} (p : α → Bool) (xs : List α) :
    (xs.map fun x => if p x then 1 else 0).sum = xs.countP p := by
  induction xs with
  | nil => rfl
  | cons x xs ih => rw [List.map_cons, List.sum_cons, ih, List.countP_cons, Nat.add_comm]

theorem sum_countP_serves {created : List Stub} (h : (created.map (·.created)).Nodup)
    (milestones : List Milestone)
    (hmem : ∀ n record stub, .found n record (some stub) ∈ milestones → stub ∈ created) :
    (created.map fun stub => milestones.countP (·.serves stub.created)).sum =
      (milestones.filterMap Milestone.served?).length := by
  induction milestones with
  | nil => simp
  | cons milestone milestones ih =>
    have ih := ih fun n record stub hin => hmem n record stub (List.mem_cons_of_mem _ hin)
    have hone : (created.countP fun stub => milestone.serves stub.created) =
        ([milestone].filterMap Milestone.served?).length := by
      cases milestone with
      | reset registered => exact List.countP_eq_zero.mpr fun s _ => Bool.false_ne_true
      | found n record stub? =>
        cases stub? with
        | none => exact List.countP_eq_zero.mpr fun s _ => Bool.false_ne_true
        | some stub => exact countP_number h (hmem n record stub List.mem_cons_self)
    have hsplit : (milestone :: milestones).filterMap Milestone.served? =
        [milestone].filterMap Milestone.served? ++ milestones.filterMap Milestone.served? := by
      rw [← List.filterMap_append]
      rfl
    simp only [List.countP_cons, List.sum_map_add, ih, sum_map_ite, hone]
    rw [hsplit, List.length_append, Nat.add_comm]

/-- What is in the books of a server: `reset` is the server as the last reset has left it. -/
structure Accounted (mode : JournalMode) (reset s : Service) : Prop where
  unmatched : s.state.unexpectedRequests = (Milestone.sinceReset s.history).filterMap Milestone.missed?
  matched : s.state.matchedRequests =
    if mode = .full then (Milestone.sinceReset s.history).filterMap Milestone.served? else []
  recorded : s.Recorded
  counted : (s.created.map s.state.registry.countOf).sum =
    (s.created.map reset.state.registry.countOf).sum +
      ((Milestone.sinceReset s.history).filterMap Milestone.served?).length

/-- Since the last reset the journal has kept every request whose find has come back, once and in
order, and the counts have grown by as many as have come back with a stub. -/
theorem accounted_run (verbose : Bool) (mode : JournalMode) (events : List Event) :
    Accounted mode (run verbose mode (upToReset events)) (run verbose mode events) := by
  have hkeeps := keeps_run verbose mode events
  have hrecorded := recorded_run verbose mode events
  have hnodup := nodup_numbers (sound_run verbose mode events).numbered
  refine ⟨hkeeps.unmatched, hkeeps.matched, hrecorded, ?_⟩
  have hmem : ∀ n record stub,
      .found n record (some stub) ∈ Milestone.sinceReset (run verbose mode events).history →
        stub ∈ (run verbose mode events).created := by
    intro n record stub hin
    exact mem_created_of_found hrecorded ((List.rtakeWhile_suffix _ _).subset hin)
  rw [← sum_countP_serves hnodup _ hmem, ← List.sum_map_add]
  exact congrArg List.sum (List.map_congr_left fun stub _ =>
    counts_sinceReset verbose mode events stub.created)

end Service

end StubServer
