import StubServer.Proofs.Config.Template
import StubServer.Proofs.Response.Completion
import StubServer.Proofs.Response.Timetable

namespace StubServer

namespace Response

namespace Source

def checked (source : Source Event) : Source Event :=
  source.mapTry fun event => (Definition.checked event).mapError EventError.message

/-- The source begins with these events, all of them good, and no good one follows. -/
structure GoodUpTo (source : Source Event) (good : List Event) : Prop where
  begins : source.Begins good
  valid : ∀ event ∈ good, event.validate = .ok ()
  stops : ∀ event, (source good.length).item = some (.ok event) → event.validate ≠ .ok ()

variable {source : Source Event} {good : List Event} {event : Event}

theorem item_checked {i : Nat} : (source.checked i).item = some (.ok event) ↔
    (source i).item = some (.ok event) ∧ event.validate = .ok () := by
  simp only [checked, mapTry]
  cases (source i).item with
  | none => simp
  | some item =>
    cases item with
    | error reason => simp [bind, Except.bind]
    | ok made =>
      simp only [Option.map_some, Option.some.injEq, bind, Except.bind, Except.ok.injEq]
      rw [mapError_eq_ok, Definition.checked_eq_ok]
      constructor
      · rintro ⟨hvalid, rfl⟩
        exact ⟨rfl, hvalid⟩
      · rintro ⟨rfl, hvalid⟩
        exact ⟨hvalid, rfl⟩

theorem yields_checked : source.checked.Yields good ↔ source.GoodUpTo good := by
  constructor
  · rintro ⟨hbegins, hstops⟩
    refine ⟨fun i event hi => (item_checked.mp (hbegins i event hi)).1, fun event hevent => ?_,
      fun event hitem hvalid => hstops event (item_checked.mpr ⟨hitem, hvalid⟩)⟩
    obtain ⟨i, hi⟩ := List.mem_iff_getElem?.mp hevent
    exact (item_checked.mp (hbegins i event hi)).2
  · rintro ⟨hbegins, hvalid, hstops⟩
    refine ⟨fun i event hi => item_checked.mpr ⟨hbegins i event hi,
      hvalid event (List.mem_of_getElem? hi)⟩, fun event hitem => ?_⟩
    obtain ⟨hitem, hgood⟩ := item_checked.mp hitem
    exact hstops event hitem hgood

theorem checked_eq_self (h : ∀ i event, (source i).item = some (.ok event) → event.validate = .ok ()) :
    source.checked = source := by
  funext i
  have hgood := h i
  simp only [checked, mapTry]
  generalize source i = pull at hgood ⊢
  obtain ⟨pause, item⟩ := pull
  cases item with
  | none => rfl
  | some item =>
    cases item with
    | error reason => rfl
    | ok event =>
      have hchecked : Definition.checked event = .ok event :=
        Definition.checked_eq_ok.mpr ⟨hgood event rfl, rfl⟩
      simp only [Option.map_some, bind, Except.bind, hchecked, Except.mapError]

theorem GoodUpTo.cons (hfirst : (source 0).item = some (.ok event)) (hvalid : event.validate = .ok ())
    (h : GoodUpTo (fun i => source (i + 1)) good) : source.GoodUpTo (event :: good) := by
  refine ⟨fun i a hi => ?_, List.forall_mem_cons.mpr ⟨hvalid, h.valid⟩, h.stops⟩
  cases i with
  | zero =>
    obtain rfl : event = a := Option.some.inj hi
    exact hfirst
  | succ i => exact h.begins i a hi

/-- The events before the first bad one or the first failure. -/
def goodPart : List (Except String Event) → List Event
  | [] => []
  | .error _ :: _ => []
  | .ok event :: rest =>
    match event.validate with
    | .ok () => event :: goodPart rest
    | .error _ => []

theorem goodUpTo_goodPart {items : List (Except String Event)} (h : ∀ i, (source i).item = items[i]?) :
    source.GoodUpTo (goodPart items) := by
  induction items generalizing source with
  | nil =>
    refine ⟨fun i a hi => (nomatch hi), fun a ha => (nomatch ha), fun event hitem => ?_⟩
    cases (h 0).symm.trans hitem
  | cons item rest ih =>
    have hfirst : (source 0).item = some item := h 0
    have hempty (hstops : ∀ event, item = .ok event → event.validate ≠ .ok ()) : source.GoodUpTo [] := by
      refine ⟨fun i a hi => (nomatch hi), fun a ha => (nomatch ha), fun event hitem => ?_⟩
      exact hstops event (Option.some.inj (hfirst.symm.trans hitem))
    cases item with
    | error reason => exact hempty fun event he => nomatch he
    | ok event =>
      rw [goodPart]
      cases hvalid : event.validate with
      | ok _ => exact .cons hfirst hvalid (ih fun i => h (i + 1))
      | error fault =>
        apply hempty
        intro event' he
        cases he
        rw [hvalid]
        exact fun hok => nomatch hok

end Source

def Event.encoding (event : Event) : Bytes := Text.Utf8.encode event.encode

/-- The response has these events as its body: its reader gets their encodings in order and nothing
else, however producer and reader go on; and who reads on from the moment of the head gets every one
at its time, and then sees the end. -/
structure Brings (feed : Feed) (events : List Event) (response : Response) : Prop where
  body : response.body = .streamed feed
  conveyed : ∀ (now : Nat) (schedule : List Delivery.Event),
    (Delivery.run feed now schedule).Conveys feed (events.map Event.encoding)
  read : ∀ now most, events.length < most → (response.readOut now 0 most).transcript.frames =
      (events.mapIdx fun i event => (now + feed.arrival i, event.encoding)) ∧
    (response.readOut now 0 most).transcript.endAt = some (now + feed.arrival events.length)

namespace Definition

def withSettings (f : Head → Head) (delay : Duration) (definition : Definition) : Definition :=
  (definition.withChunkDelay delay).mapHead f

variable {source : Source Event} {items : List Event} {f : Head → Head} {delay : Duration}
  {verbose : Bool} {made : Http.Headers}

theorem brings_of_yields {events : List Event}
    (h : (f (.ofContentType eventText)).edited = .returned made)
    (hevents : source.Yields events) : ∃ response feed,
      (((eventStream (.stream source)).withSettings f delay).render verbose).outcome =
        .returned response ∧
      response.Brings feed events := by
  let head := f (.ofContentType eventText)
  let feed : Feed := ⟨source.encoded Event.encoding, head.delay, delay, verbose⟩
  let rendering := renderStreamed verbose "SSE response" eventHeaders head
    (source.encoded Event.encoding) delay
  have houtcome : rendering.outcome = _ := outcome_renderStreamed h _ _ _ _
  have hpunctual : Punctual source Event.encoding feed rendering :=
    punctual_of_streamed rfl (delay_renderStreamed ..) fun _ => body_renderStreamed
  refine ⟨_, feed, houtcome, rfl, ?_, fun now most hmost =>
    hpunctual.ending _ houtcome now most events hevents hmost⟩
  exact Delivery.conveys_run (Source.yields_encoded.mpr ⟨events, hevents, rfl⟩)

theorem mapM_checked_error {before after : List Event} {bad : Event} {fault : EventError}
    (hgood : ∀ event ∈ before, event.validate = .ok ()) (hbad : bad.validate = .error fault) :
    (before ++ bad :: after).mapM checked = .error fault := by
  induction before with
  | nil =>
    have hchecked : checked bad = .error fault := by rw [checked, hbad]; rfl
    rw [List.nil_append, List.mapM_cons, hchecked]
    rfl
  | cons event rest ih =>
    obtain ⟨hevent, hrest⟩ := List.forall_mem_cons.mp hgood
    rw [List.cons_append, List.mapM_cons, checked_eq_ok.mpr ⟨hevent, rfl⟩, ih hrest]
    rfl

theorem tryEvents_error {before after : List Event} {bad : Event} {fault : EventError}
    (hgood : ∀ event ∈ before, event.validate = .ok ()) (hbad : bad.validate = .error fault) :
    tryEvents (before ++ bad :: after) = .error fault := by
  rw [tryEvents, mapM_checked_error hgood hbad]
  rfl

end Definition

end Response

namespace ResponseTemplate

open Response (EventError Definition)

variable {t : ResponseTemplate}

theorem render_events (hevents : t.events ≠ []) (hstatus : t.checkStatus = .ok ()) :
    t.render = (((Definition.tryEvents t.events).mapError fun e => .invalid e.message).map
      (·.withSettings t.completeHead (.ofMillis t.chunkDelayMillis))) := by
  rw [render, hstatus, renderBody, if_pos (by simpa using hevents)]
  cases Definition.tryEvents t.events <;> rfl

theorem checkEvents_error {index : Nat} {before after : List Response.Event} {bad : Response.Event}
    {fault : EventError}
    (hgood : ∀ event ∈ before, event.validate = .ok ()) (hbad : bad.validate = .error fault) :
    checkEvents index (before ++ bad :: after) =
      .error (.invalid ("events[" ++ toString (index + before.length) ++ "]: " ++ fault.message)) := by
  induction before generalizing index with
  | nil =>
    rw [List.nil_append, checkEvents, hbad]
    rfl
  | cons event rest ih =>
    obtain ⟨hevent, hrest⟩ := List.forall_mem_cons.mp hgood
    rw [List.cons_append, checkEvents, hevent, List.length_cons, Nat.add_comm rest.length 1,
      ← Nat.add_assoc]
    exact ih hrest

end ResponseTemplate

namespace Response.Definition

/-- All ways to answer with these events make the same response, whatever its settings: a list or a
stream, checked or not, and a template unless there are no events. A stream that takes its time
makes the same response checked or not. -/
structure Agree (items : List Event) : Prop where
  tried : ∃ made, tryEvents items = .ok made ∧ ∀ f delay verbose,
    (made.withSettings f delay).render verbose =
      ((eventStream (.list items)).withSettings f delay).render verbose
  streamed : ∀ f delay verbose,
    ((eventStream (.stream (.ofList items))).withSettings f delay).render verbose =
    ((eventStream (.list items)).withSettings f delay).render verbose
  checked : ∀ f delay verbose, ((tryEventStream (.ofList items)).withSettings f delay).render verbose =
    ((eventStream (.list items)).withSettings f delay).render verbose
  paused : ∀ source : Source Event, (∀ i, (source i).item = items[i]?.map .ok) → ∀ f delay verbose,
    ((tryEventStream source).withSettings f delay).render verbose =
      ((eventStream (.stream source)).withSettings f delay).render verbose
  templated : items ≠ [] → ∀ t : ResponseTemplate, t.events = items → t.checkStatus = .ok () →
    ∃ made, t.render = .ok made ∧ ∀ verbose, made.render verbose =
      ((eventStream (.list items)).withSettings t.completeHead
        (.ofMillis t.chunkDelayMillis)).render verbose
  brought : ∀ f delay verbose made, (f (.ofContentType eventText)).edited = .returned made →
    ∃ response feed,
    (((eventStream (.list items)).withSettings f delay).render verbose).outcome = .returned response ∧
    response.Brings feed items

/-- A list and a template with these events are refused for what is wrong with the one at this index. -/
structure Refused (items : List Event) (index : Nat) (fault : EventError) : Prop where
  tried : tryEvents items = .error fault
  rendered : ∀ t : ResponseTemplate, t.events = items → t.checkStatus = .ok () →
    t.render = .error (.invalid fault.message)
  validated : ∀ t : ResponseTemplate, t.events = items → t.checkStatus = .ok () → t.checkShape = .ok () →
    t.validate = .error (.invalid ("events[" ++ toString index ++ "]: " ++ fault.message))

variable {items : List Event}

theorem agree_of_valid (h : ∀ event ∈ items, event.validate = .ok ()) : Agree items := by
  have hself : ∀ source : Source Event, (∀ i, (source i).item = items[i]?.map .ok) →
    source.checked = source := by
    intro source hitems
    apply Source.checked_eq_self
    intro i event hitem
    rw [hitems i, Option.map_eq_some_iff] at hitem
    obtain ⟨made, hmade, he⟩ := hitem
    have hsame : made = event := Except.ok.inj he
    exact hsame ▸ h made (List.mem_of_getElem? hmade)
  have htry : tryEvents items = .ok (eventStream (.list items)) := tryEvents_eq_ok.mpr ⟨h, rfl⟩
  refine ⟨⟨_, htry, fun f delay verbose => rfl⟩, fun f delay verbose => rfl, fun f delay verbose => ?_,
    fun source hitems f delay verbose => ?_, fun hne t ht hstatus => ?_,
      fun f delay verbose made hmade => ?_⟩
  · have hchecked : (Source.ofList items).checked = .ofList items := hself _ fun i => rfl
    change
      ((eventStream (.stream (Source.ofList items).checked)).withSettings f delay).render verbose = _
    rw [hchecked]
    rfl
  · change ((eventStream (.stream source.checked)).withSettings f delay).render verbose = _
    rw [hself source hitems]
  · subst ht
    rw [ResponseTemplate.render_events hne hstatus, htry]
    exact ⟨_, rfl, fun verbose => rfl⟩
  · exact brings_of_yields hmade (Source.yields_ofList.mpr rfl)

theorem refused_of_bad {before after : List Event} {bad : Event} {fault : EventError}
    (hgood : ∀ event ∈ before, event.validate = .ok ()) (hbad : bad.validate = .error fault) :
    Refused (before ++ bad :: after) before.length fault := by
  have htry : tryEvents (before ++ bad :: after) = .error fault := tryEvents_error hgood hbad
  refine ⟨htry, fun t ht hstatus => ?_, fun t ht hstatus hshape => ?_⟩
  · have hne : t.events ≠ [] := by simp [ht]
    rw [ResponseTemplate.render_events hne hstatus, ht, htry]
    rfl
  · have hcheck : ResponseTemplate.checkEvents 0 (before ++ bad :: after) = _ :=
      ResponseTemplate.checkEvents_error hgood hbad
    rw [Nat.zero_add] at hcheck
    rw [ResponseTemplate.validate, hstatus, hshape, ht, hcheck]
    rfl

/-- Good events make the same response on every way. Of a list with a bad event, the first one
decides what the list and the template are refused for; and a stream that is checked brings the
events before the first bad one or the first failure, and nothing else. -/
theorem event_routes :
    (∀ items : List Event, (∀ event ∈ items, event.validate = .ok ()) → Agree items) ∧
    (∀ (before after : List Event) (bad : Event) (fault : EventError),
      (∀ event ∈ before, event.validate = .ok ()) → bad.validate = .error fault →
      Refused (before ++ bad :: after) before.length fault) ∧
    ∀ (items : List (Except String Event)) (source : Source Event), (∀ i, (source i).item = items[i]?) →
      ∀ f delay verbose made, (f (.ofContentType eventText)).edited = .returned made → ∃ response feed,
        (((tryEventStream source).withSettings f delay).render verbose).outcome = .returned response ∧
        response.Brings feed (Source.goodPart items) := by
  refine ⟨fun items h => agree_of_valid h, fun before after bad fault hgood hbad =>
    refused_of_bad hgood hbad, fun items source hitems f delay verbose made hmade => ?_⟩
  have hyields := Source.yields_checked.mpr (Source.goodUpTo_goodPart hitems)
  exact brings_of_yields hmade hyields

theorem event_routes_update :
    let first : Event := ⟨some "first", none, none, none, none⟩
    let update : Event := ⟨some "second", some "up\ndate", none, none, none⟩
    let items : List (Except String Event) := [.ok first, .error "broken", .ok first]
    let source : Source Event := fun i => ⟨10 * i, items[i]?⟩
    ((∀ event ∈ [first], event.validate = .ok ()) ∧ Agree [first]) ∧
    (update.validate = .error (.severalLines "event") ∧
      Refused [first, update, first] 1 (.severalLines "event")) ∧
    (∀ i, (source i).item = items[i]?) ∧ ∃ response feed,
      (((tryEventStream source).withSettings id .zero).render true).outcome = .returned response ∧
      response.Brings feed [first] := by
  intro first update items source
  have hfirst : ∀ event ∈ [first], event.validate = .ok () := List.forall_mem_singleton.mpr rfl
  have hupdate : update.validate = .error (.severalLines "event") := by cbv
  refine ⟨⟨hfirst, event_routes.1 _ hfirst⟩,
    ⟨hupdate, event_routes.2.1 [first] [first] _ _ hfirst hupdate⟩, fun i => rfl, ?_⟩
  exact event_routes.2.2 items source (fun i => rfl) id .zero true ∅ rfl

/-- A template without events is not one of the ways to answer with no events: its response has a
body in one piece, and other headers. -/
theorem template_without_events :
    ResponseTemplate.blank.events = [] ∧ ResponseTemplate.blank.checkStatus = .ok () ∧
    ∃ made response response', ResponseTemplate.blank.render = .ok made ∧
      (made.render false).outcome = .returned response ∧
      (((eventStream (.list [])).withSettings ResponseTemplate.blank.completeHead .zero).render
        false).outcome = .returned response' ∧ response.headers ≠ response'.headers :=
  ⟨rfl, rfl, _, _, _, rfl, rfl, rfl, by decide⟩

end Response.Definition

end StubServer
