import StubServer.Proofs.Server.Serial

namespace StubServer

open Milestone (remaining finders)
open Stub (Tidy)

namespace Stub

def without (gone stubs : List Stub) : List Stub := stubs.filter fun stub =>
  !gone.any (·.created = stub.created)

variable {known stubs gone : List Stub} {stub : Stub}

theorem Tidy.eq_of_created (h : Tidy known stubs) {a b : Stub} (ha : a ∈ stubs) (hb : b ∈ stubs)
    (hab : a.created = b.created) : a = b := h.distinct a (h.subset ha) b (h.subset hb) hab

theorem without_nil (stubs : List Stub) : without [] stubs = stubs := List.filter_true stubs

theorem mem_without (h : Tidy known stubs) (hgone : gone ⊆ stubs) :
    stub ∈ without gone stubs ↔ stub ∈ stubs ∧ stub ∉ gone := by
  rw [without, List.mem_filter, Bool.not_eq_true', List.any_eq_false]
  refine and_congr_right fun hstub =>
    ⟨fun hnone hin => hnone stub hin (decide_eq_true rfl), fun hout s hs hsame => ?_⟩
  exact hout (h.eq_of_created (hgone hs) hstub (of_decide_eq_true hsame) ▸ hs)

theorem eraseP_eq_filter (h : stubs.Pairwise fun a b => a.created ≠ b.created) (number : Nat) :
    stubs.eraseP (·.created = number) = stubs.filter fun s => !decide (s.created = number) := by
  induction stubs with
  | nil => rfl
  | cons head rest ih =>
    obtain ⟨hhead, hrest⟩ := List.pairwise_cons.mp h
    by_cases hnumber : head.created = number
    · rw [List.eraseP_cons_of_pos (by simpa using hnumber),
        List.filter_cons_of_neg (by simpa using hnumber)]
      refine (List.filter_eq_self.mpr fun s hs => ?_).symm
      simpa using fun he => hhead s hs (hnumber.trans he.symm)
    · rw [List.eraseP_cons_of_neg (by simpa using hnumber),
        List.filter_cons_of_pos (by simpa using hnumber), ih hrest]

theorem Tidy.created_ne (h : Tidy known stubs) : stubs.Pairwise fun a b => a.created ≠ b.created := by
  refine h.sorted.imp_of_mem fun {a b} ha hb hbefore hsame => ?_
  obtain rfl := h.eq_of_created ha hb hsame
  exact before_irrefl a hbefore

theorem listAfter_without (h : Tidy known stubs) (honce : stub.configuration.removeAfterMatch)
    (gone : List Stub) :
    Find.listAfter stub (without gone stubs) = without (gone ++ [stub]) stubs := by
  have hsub : (without gone stubs).Sublist stubs := List.filter_sublist
  rw [Find.listAfter, if_pos honce, eraseP_eq_filter (h.created_ne.sublist hsub), without, without,
    List.filter_filter]
  refine List.filter_congr fun s _ => ?_
  simp [eq_comm, Bool.and_comm]

end Stub

open Stub (without)

/-- The stubs of the script, in this order, are all the stubs for single use that accept requests of
this kind. Each accepts all of them, and no other stub that goes before the last of the script
accepts any. -/
structure Scripted (stubs : List Stub) (kind : Request → Prop) (script : List Stub) : Prop where
  sublist : script.Sublist stubs
  once : ∀ stub ∈ script, stub.configuration.removeAfterMatch
  accepts : ∀ stub ∈ script, ∀ request, kind request → stub.Accepts request
  all : ∀ stub ∈ stubs, stub.configuration.removeAfterMatch → ∀ request, kind request →
    stub.Accepts request → stub ∈ script
  first : ∀ last ∈ script.getLast?, ∀ stub ∈ stubs, stub.configuration.removeAfterMatch = false →
    stub.before last → ∀ request, kind request → ¬stub.Accepts request

/-- What the request is due whose find is number `j` to come back: the stub of the script whose turn
it is, and after the end of the script the first of the stubs that stay and accept the request, if
there is one. -/
inductive Due (stubs script : List Stub) (j : Nat) (request : Request) : Option Stub → Prop
  | scripted {stub : Stub} (h : script[j]? = some stub) : Due stubs script j request (some stub)
  | stays {stub : Stub} (hover : script.length ≤ j) (hmem : stub ∈ stubs)
      (hstays : stub.configuration.removeAfterMatch = false) (haccepts : stub.Accepts request)
      (hleast : ∀ s ∈ stubs, s.configuration.removeAfterMatch = false → s.Accepts request →
        s = stub ∨ stub.before s) :
      Due stubs script j request (some stub)
  | nothing (hover : script.length ≤ j)
      (hnone : ∀ s ∈ stubs, s.configuration.removeAfterMatch = false → ¬s.Accepts request) :
      Due stubs script j request none

namespace Scripted

variable {known stubs script : List Stub} {kind : Request → Prop} {request : Request}
  {found : Option Stub} {j : Nat} {stub : Stub}

section

variable (ht : Tidy known stubs) (h : Scripted stubs kind script)

include ht h

theorem sorted : Stub.Sorted script := ht.sorted.sublist h.sublist

omit ht in
theorem take_subset (j : Nat) : script.take j ⊆ stubs :=
  List.Subset.trans (List.take_subset j script) h.sublist.subset

theorem not_mem_take (hj : script[j]? = some stub) : stub ∉ script.take j := by
  intro hmem
  obtain ⟨i, hlt, hi⟩ := List.mem_take_iff_getElem.mp hmem
  have hij : i < j := by omega
  have hfirst : script[i]? = some stub := List.getElem?_eq_some_iff.mpr ⟨by omega, hi⟩
  exact Stub.before_irrefl stub ((h.sorted ht).before_of_lt hfirst hj hij)

theorem mem_take_of_before (hkind : kind request) (hj : script[j]? = some stub) {s : Stub}
    (hs : s ∈ stubs)
    (hbefore : s.before stub) (haccepts : s.Accepts request) : s ∈ script.take j := by
  cases honce : s.configuration.removeAfterMatch with
  | true =>
    obtain ⟨i, hi⟩ := List.mem_iff_getElem?.mp (h.all s hs honce request hkind haccepts)
    have hij : i < j := by
      obtain hlt | rfl | hgt := Nat.lt_trichotomy i j
      · exact hlt
      · cases hi.symm.trans hj
        exact absurd hbefore (Stub.before_irrefl _)
      · exact absurd hbefore (Stub.before_asymm ((h.sorted ht).before_of_lt hj hi hgt))
    exact List.mem_of_getElem? ((List.getElem?_take_of_lt hij).trans hi)
  | false =>
    have hlt : j < script.length := (List.getElem?_eq_some_iff.mp hj).1
    have hlast : script[script.length - 1]? = some script[script.length - 1] :=
      List.getElem?_eq_getElem (by omega)
    have hbeforeLast : s.before script[script.length - 1] := by
      obtain rfl | hless := Nat.eq_or_lt_of_le (Nat.le_sub_one_of_lt hlt)
      · cases hj.symm.trans hlast
        exact hbefore
      · exact Stub.before_trans hbefore ((h.sorted ht).before_of_lt hj hlast hless)
    refine absurd haccepts (h.first _ ?_ s hs honce hbeforeLast request hkind)
    rw [List.getLast?_eq_getElem?, hlast]
    rfl

theorem mem_without_of_stays (hstub : stub ∈ stubs)
    (hstays : stub.configuration.removeAfterMatch = false) (j : Nat) :
    stub ∈ without (script.take j) stubs := by
  refine (Stub.mem_without ht (h.take_subset j)).mpr ⟨hstub, fun hgone => ?_⟩
  have honce := h.once stub (List.take_subset j script hgone)
  rw [hstays] at honce
  cases honce

theorem due_of_chosen (hkind : kind request)
    (hchosen : choose (·.ruling request) (without (script.take j) stubs) = .returned found) :
    Due stubs script j request found := by
  have hsorted : Stub.Sorted (without (script.take j) stubs) := ht.sorted.sublist List.filter_sublist
  have hdecides := decides_of_chosen hsorted (chosen_choose (·.ruling request) hsorted)
  have hmem_iff : ∀ s, s ∈ without (script.take j) stubs ↔ s ∈ stubs ∧ s ∉ script.take j :=
    fun s => Stub.mem_without ht (h.take_subset j)
  rw [hchosen] at hdecides
  obtain hlt | hover := Nat.lt_or_ge j script.length
  -- The stub whose turn it is is still there, and nothing before it is in its way.
  · have hj : script[j]? = some script[j] := List.getElem?_eq_getElem hlt
    have hin : script[j] ∈ script := List.getElem_mem hlt
    have hthere := (hmem_iff script[j]).mpr ⟨h.sublist.subset hin, h.not_mem_take ht hj⟩
    have haccepts := h.accepts script[j] hin request hkind
    cases found with
    | none => exact absurd haccepts (hdecides.none_iff.mp rfl _ hthere).1
    | some stub =>
      obtain ⟨hstub, hstubAccepts, hleast, -⟩ := (hdecides.some_iff stub).mp rfl
      obtain hsame | hbefore := hleast _ hthere haccepts
      · exact .scripted (hsame ▸ hj)
      · obtain ⟨hstubs, hout⟩ := (hmem_iff stub).mp hstub
        exact absurd (h.mem_take_of_before ht hkind hj hstubs hbefore hstubAccepts) hout
  · cases found with
    | none =>
      refine .nothing hover fun s hs hstays => ?_
      exact (hdecides.none_iff.mp rfl s (h.mem_without_of_stays ht hs hstays j)).1
    | some stub =>
      obtain ⟨hstub, haccepts, hleast, -⟩ := (hdecides.some_iff stub).mp rfl
      obtain ⟨hmem, hout⟩ := (hmem_iff stub).mp hstub
      rw [List.take_of_length_le hover] at hout
      have hstays : stub.configuration.removeAfterMatch = false :=
        Bool.eq_false_iff.mpr fun honce => hout (h.all stub hmem honce request hkind haccepts)
      exact .stays hover hmem hstays haccepts fun s hs hstays' haccepts' =>
        hleast s (h.mem_without_of_stays ht hs hstays' j) haccepts'

theorem listLeft_of_due (hdue : Due stubs script j request found) :
    Find.listLeft found (without (script.take j) stubs) = without (script.take (j + 1)) stubs := by
  have hsame : script.length ≤ j → script.take (j + 1) = script.take j := fun hover => by
    rw [List.take_of_length_le hover, List.take_of_length_le (Nat.le_succ_of_le hover)]
  cases hdue with
  | @scripted stub hj =>
    have honce := h.once stub (List.mem_of_getElem? hj)
    rw [Find.listLeft, Stub.listAfter_without ht honce, List.take_add_one, hj]
    rfl
  | stays hover hmem hstays => rw [Find.listLeft, Find.listAfter, hstays, hsame hover]; rfl
  | nothing hover => rw [Find.listLeft, hsame hover]

theorem serves_iff (hdue : Due stubs script j request found) {i : Nat} (hi : script[i]? = some stub) :
    found.any (·.created = stub.created) ↔ j = i := by
  have hstub : stub ∈ script := List.mem_of_getElem? hi
  have hlt : i < script.length := (List.getElem?_eq_some_iff.mp hi).1
  cases hdue with
  | @scripted stub' hj =>
    rw [Option.any_some, decide_eq_true_eq]
    constructor
    · intro hsame
      have hstub' := h.sublist.subset (List.mem_of_getElem? hj)
      obtain rfl := ht.eq_of_created hstub' (h.sublist.subset hstub) hsame
      exact (List.getElem?_inj (List.getElem?_eq_some_iff.mp hj).1 (h.sorted ht).nodup).mp
        (hj.trans hi.symm)
    · rintro rfl
      cases hj.symm.trans hi
      rfl
  | @stays stub' hover hmem hstays =>
    rw [Option.any_some, decide_eq_true_eq]
    refine ⟨fun hsame => ?_, fun he => by omega⟩
    obtain rfl := ht.eq_of_created hmem (h.sublist.subset hstub) hsame
    have honce := h.once stub' hstub
    rw [hstays] at honce
    cases honce
  | nothing hover => exact ⟨fun hnone => (nomatch hnone), fun he => by omega⟩

end

end Scripted

structure Follows (requests : List Request) (stubs script : List Stub) (history : List Milestone) :
    Prop where
  list : remaining stubs history = without (script.take history.length) stubs
  finds : ∀ (j : Nat) (milestone : Milestone), history[j]? = some milestone →
    ∃ n timestamp request found,
    milestone = .found n (.ofHead timestamp request.head) found ∧ requests[n]? = some request ∧
      Due stubs script j request found
  used : ∀ (i : Nat) (stub : Stub), script[i]? = some stub →
    history.countP (·.serves stub.created) = if i < history.length then 1 else 0

theorem follows_serial {known stubs script : List Stub} {kind : Request → Prop} {requests : List Request}
    {history : List Milestone} (ht : Tidy known stubs) (hscript : Scripted stubs kind script)
    (hkind : ∀ request ∈ requests, kind request) (h : Serial requests stubs history) :
    Follows requests stubs script history := by
  induction h with
  | nil => exact ⟨(Stub.without_nil stubs).symm, fun j milestone hj => (nomatch hj), fun i stub _ => rfl⟩
  | @snoc history n request found h timestamp hrequest hopen hchosen ih =>
    rw [ih.list] at hchosen
    have hdue := hscript.due_of_chosen ht (hkind request (List.mem_of_getElem? hrequest)) hchosen
    refine ⟨?_, fun j milestone hj => ?_, fun i stub hi => ?_⟩
    · rw [Milestone.remaining_concat, ih.list, List.length_append]
      exact hscript.listLeft_of_due ht hdue
    · obtain hj | ⟨rfl, rfl⟩ := getElem?_concat_cases hj
      · exact ih.finds j milestone hj
      · exact ⟨n, timestamp, request, found, rfl, hrequest, hdue⟩
    · have hserves := hscript.serves_iff ht hdue hi
      rw [List.countP_append, ih.used i stub hi, List.length_append, List.length_singleton,
        List.countP_singleton]
      simp only [Milestone.serves, hserves]
      split_ifs <;> omega

/-- What the find that is number `j` to come back has been due and has led to, if it is that of
request number `n`. -/
structure Plays.At (state : ServerState) (script : List Stub) (s : Service) (j n : Nat)
    (request : Request) (found : Option Stub) : Prop where
  due : Due state.registry.list script j request found
  replied : ∃ e answer, s.exchanges[n]? = some e ∧
    (e.handling = .answering answer ∨ e.handling = .answered answer) ∧ answer.response =
      (state.holding (without (script.take (j + 1)) state.registry.list)).responseTo request found

/-- What it means that requests use up a script. -/
structure Plays (state : ServerState) (script : List Stub) (requests : List Request) (s : Service) :
    Prop where
  finds : ∀ (j : Nat) (milestone : Milestone), s.history[j]? = some milestone →
    ∃ n timestamp request found,
    milestone = .found n (.ofHead timestamp request.head) found ∧ requests[n]? = some request ∧
      Plays.At state script s j n request found
  nodup : (finders s.history).Nodup
  used : ∀ (i : Nat) (stub : Stub), script[i]? = some stub →
    s.history.countP (·.serves stub.created) = (if i < s.history.length then 1 else 0) ∧
      s.state.registry.countOf stub = state.registry.countOf stub + if i < s.history.length then 1 else 0
  list : s.state.registry.list = without (script.take s.history.length) state.registry.list
  completed : s.isOver → ∀ (n : Nat) (request : Request), requests[n]? = some request →
    n ∈ finders s.history ∨ ∃ stub ∈ state.registry.list, stub.Escapes request
  whole : s.isOver → (∀ request ∈ requests, ∀ stub ∈ state.registry.list, ¬stub.Escapes request) →
    s.history.length = requests.length

namespace Service

variable {state : ServerState} {requests : List Request} {s : Service}

theorem InSeries.replied (h : InSeries state requests s) {j n : Nat} {record : RecordedRequest}
    {found : Option Stub} (hj : s.history[j]? = some (.found n record found)) {request : Request}
      (hrequest : requests[n]? = some request) :
    ∃ e answer, s.exchanges[n]? = some e ∧
      (e.handling = .answering answer ∨ e.handling = .answered answer) ∧ answer.response =
        (state.holding
          (remaining state.registry.list (s.history.take (j + 1)))).responseTo request found := by
  obtain ⟨e, hn, hstage⟩ := h.stages.exchange hrequest
  have hback := Milestone.mem_finders hj
  cases hstage with
  | finding _ hopen | failed hopen => exact absurd hback hopen
  | @replied answer timestamp found' j' hhandling hfound hpast hresponse =>
    -- The find of the request has come back only once.
    obtain rfl := h.serial.place_unique hpast hj
    cases hpast.symm.trans hj
    exact ⟨e, answer, hn, hhandling, hresponse⟩

theorem InSeries.over_cases (h : InSeries state requests s) (hover : s.isOver) {n : Nat}
    {request : Request} (hrequest : requests[n]? = some request) :
    n ∈ finders s.history ∨ ∃ stub ∈ state.registry.list, stub.Escapes request := by
  obtain ⟨e, hn, hstage⟩ := h.stages.exchange hrequest
  have hsome := List.all_eq_true.mp hover e (List.mem_of_getElem? hn)
  cases hstage with
  | finding _ _ h =>
    simp only [Exchange.ending?, h.handling] at hsome
    cases hsome
  | replied _ _ hpast => exact .inl (Milestone.mem_finders hpast)
  | failed _ _ _ hescapes => exact .inr hescapes

theorem InSeries.length_of_over (h : InSeries state requests s) (hover : s.isOver)
    (hcalm : ∀ request ∈ requests, ∀ stub ∈ state.registry.list, ¬stub.Escapes request) :
    s.history.length = requests.length := by
  have hall : (finders s.history).Perm (List.range requests.length) := by
    refine (List.perm_ext_iff_of_nodup h.serial.nodup List.nodup_range).mpr fun n => ?_
    rw [List.mem_range]
    refine ⟨h.serial.finders_subset n, fun hlt => ?_⟩
    obtain hback | ⟨stub, hstub, hescapes⟩ := h.over_cases hover (List.getElem?_eq_getElem hlt)
    · exact hback
    · exact absurd hescapes (hcalm _ (List.getElem_mem hlt) stub hstub)
  rw [← h.serial.length_finders, hall.length_eq, List.length_range]

theorem plays_of_inSeries {known script : List Stub} {kind : Request → Prop}
    (ht : Tidy known state.registry.list)
    (hscript : Scripted state.registry.list kind script) (hkind : ∀ request ∈ requests, kind request)
    (h : InSeries state requests s) : Plays state script requests s := by
  have hfollows := follows_serial ht hscript hkind h.serial
  refine ⟨fun j milestone hj => ?_, h.serial.nodup, fun i stub hi => ?_, h.list.trans hfollows.list,
    fun hover n request =>
    h.over_cases hover, h.length_of_over⟩
  · obtain ⟨n, timestamp, request, found, rfl, hrequest, hdue⟩ := hfollows.finds j milestone hj
    have hlt : j < s.history.length := (List.getElem?_eq_some_iff.mp hj).1
    -- The list has been what the script says whenever a find has come back.
    have hthen := (follows_serial ht hscript hkind (h.serial.take (j + 1))).list
    rw [List.length_take_of_le hlt] at hthen
    obtain ⟨e, answer, hn, hhandling, hresponse⟩ := h.replied hj hrequest
    exact ⟨n, timestamp, request, found, rfl, hrequest, hdue, e, answer, hn, hhandling,
      hthen ▸ hresponse⟩
  · refine ⟨hfollows.used i stub hi, ?_⟩
    rw [Registry.countOf, h.counts, hfollows.used i stub hi]
    rfl

/-- Requests that are handled side by side use up a script of stubs for single use in its order, one
request each; and every interleaving goes on until all requests are over. -/
theorem script_plays {state : ServerState} (hidle : state.registry.queue = []) {known : List Stub}
    (htidy : Tidy known state.registry.list) {kind : Request → Prop} {script : List Stub}
    (hscript : Scripted state.registry.list kind script) {events : List Event}
    (hevents : ∀ event ∈ events, event.isHandling) (hkind : ∀ request ∈ arrivals events, kind request)
    (hfresh : ∀ request ∈ arrivals events, request.body.queue = []) :
    Plays state script (arrivals events) (runFrom state events) ∧
      ∀ timestamp now, ∃ turns : List Nat,
        (runFrom state (events ++ turns.map fun n => Event.resume n timestamp now)).isOver := by
  have hseries := inSeries_run hidle hevents hfresh
  refine ⟨plays_of_inSeries htidy hscript hkind hseries, fun timestamp now => ?_⟩
  obtain ⟨turns, hdone⟩ := hseries.over timestamp now
  refine ⟨turns, ?_⟩
  rwa [runFrom, List.foldl_append]

def answering (once : Bool) (number : Nat) : Stub :=
  ⟨⟨none, once, false⟩,
    (Matching.Specification.ofCriteria .text [.bodyText (.ofBool "" fun text => text != "")]).erase,
    fun _ => .done (.failed ""), number⟩

def twoAndOne : ServerState :=
  ⟨⟨.new [answering true 1, answering true 2, answering false 3], fun _ => 0, []⟩, .new .lean, false⟩

def knock : Request :=
  ⟨⟨"POST", ⟨none, none, "/", none⟩, .http11, ⟨[]⟩⟩, .ofFrames [⟨5, .data [97]⟩]⟩

def knocks : List Event :=
  List.replicate 3 (.arrive knock) ++ (List.range 27).map fun i => .resume (2 - i % 3) ⟨i, 0⟩ i

theorem scripted_twoAndOne :
    Scripted twoAndOne.registry.list (· = knock) [answering true 1, answering true 2] := by
  refine ⟨.cons_cons _ (.cons_cons _ (List.nil_sublist _)), ?_, ?_, ?_, ?_⟩
  · rintro stub (_ | ⟨_, _ | ⟨_, ⟨⟩⟩⟩) <;> rfl
  · rintro stub (_ | ⟨_, _ | ⟨_, ⟨⟩⟩⟩) request rfl <;> rfl
  · rintro stub (_ | ⟨_, _ | ⟨_, _ | ⟨_, ⟨⟩⟩⟩⟩) honce request rfl -
    · simp
    · simp
    · cases honce
  · rintro last ⟨⟩ stub (_ | ⟨_, _ | ⟨_, _ | ⟨_, ⟨⟩⟩⟩⟩) hstays hbefore request rfl haccepts
    · cases hstays
    · cases hstays
    · exact absurd hbefore (by decide)

theorem tidy_twoAndOne : Tidy twoAndOne.registry.list twoAndOne.registry.list := by
  refine ⟨Stub.distinct_of_numbered fun i stub hi => ?_,
    List.Subset.refl _, by unfold Stub.Sorted; decide⟩
  match i, hi with
  | 0, rfl | 1, rfl | 2, rfl => rfl

theorem script_plays_knocks : (runFrom twoAndOne knocks).isOver ∧
    (runFrom twoAndOne knocks).state.registry.list.map (·.created) = [3] ∧
      Plays twoAndOne [answering true 1, answering true 2] (arrivals knocks)
        (runFrom twoAndOne knocks) := by
  have hkind : ∀ request ∈ arrivals knocks, request = knock := by
    rintro request (_ | ⟨_, _ | ⟨_, _ | ⟨_, ⟨⟩⟩⟩⟩) <;> rfl
  refine ⟨rfl, rfl,
    (script_plays rfl tidy_twoAndOne scripted_twoAndOne (by decide) hkind fun request hin => ?_).1⟩
  rw [hkind request hin]
  rfl

def blocked : ServerState :=
  let decoder : Matching.Decoder Unit := ⟨"form", fun _ => .panicked "index out of bounds"⟩
  let form : Stub := ⟨⟨none, false, false⟩, (Matching.Specification.ofCriteria decoder
    [.body (.ofBool "" fun _ => true)]).erase, fun _ => .done (.failed ""), 1⟩
  ⟨⟨.new [form, answering true 2], fun _ => 0, []⟩, .new .lean, false⟩

theorem scripted_blocked : Scripted blocked.registry.list (· = knock) [answering true 2] := by
  refine ⟨.cons _ (.cons_cons _ .slnil), ?_, ?_, ?_, ?_⟩
  · rintro stub (_ | ⟨_, ⟨⟩⟩)
    rfl
  · rintro stub (_ | ⟨_, ⟨⟩⟩) request rfl
    rfl
  · rintro stub (_ | ⟨_, _ | ⟨_, ⟨⟩⟩⟩) honce request rfl -
    · cases honce
    · simp
  · rintro last ⟨⟩ stub (_ | ⟨_, _ | ⟨_, ⟨⟩⟩⟩) hstays hbefore request rfl haccepts
    · cases haccepts
    · cases hstays

/-- The request is over, but its find has not come back, and the stub of the script is still there. -/
theorem script_blocked :
    Scripted blocked.registry.list (· = knock) [answering true 2] ∧
    let s := runFrom blocked (.arrive knock :: (List.range 9).map fun i : Nat => .resume 0 ⟨i, 0⟩ i)
    s.isOver ∧ s.history = [] ∧ s.state.registry.list.map (·.created) = [1, 2] :=
  ⟨scripted_blocked, rfl, rfl, rfl⟩

end Service

end StubServer
