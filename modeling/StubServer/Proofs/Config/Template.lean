import StubServer.Config.StubDefinition
import StubServer.Proofs.Response.Delivery
import StubServer.Proofs.Stub.Answering
import StubServer.Proofs.Success

namespace StubServer

namespace Response

/-- What a reader gets of a streamed body: never anything but a beginning of these bytes, all of
them when the end has been seen, and the end is seen by whoever goes on reading. -/
structure Feed.Reads (feed : Feed) (bytes : Bytes) (now : Nat) (events : List Delivery.Event) :
    Prop where
  in_order : (Delivery.run feed now events).frames.flatten <+: bytes
  complete : (Delivery.run feed now events).consumer = .ended →
    (Delivery.run feed now events).frames.flatten = bytes
  ends : (Delivery.run feed now events).consumer ≠ .gone → ∃ more : List Delivery.Event, .drop ∉ more ∧
    (Delivery.run feed now (events ++ more)).consumer = .ended

/-- The bytes of a body, in whatever pieces and however slowly they are read. -/
def Body.ReadsAs (bytes : Bytes) : Body → Prop
  | .full all => all = bytes
  | .streamed feed => ∀ (now : Nat) (events : List Delivery.Event), feed.Reads bytes now events

theorem reads_ofList {α : Type} (items : List α) (encode : α → Bytes)
    (initialDelay chunkDelay : Duration)
    (verbose : Bool) (now : Nat) (events : List Delivery.Event) :
    Feed.Reads ⟨(Source.ofList items).encoded encode, initialDelay, chunkDelay, verbose⟩
      (items.flatMap encode)
      now events := by
  have hyields : ((Source.ofList items).encoded encode).Yields (items.map encode) :=
    Source.yields_encoded.mpr ⟨items, Source.yields_ofList.mpr rfl, rfl⟩
  let feed : Feed := ⟨(Source.ofList items).encoded encode, initialDelay, chunkDelay, verbose⟩
  have hconveys : Delivery.Conveys feed _ _ := Delivery.conveys_run hyields now events
  rw [List.flatMap_def]
  refine ⟨?_, fun hended => ?_, fun hgone => ?_⟩
  · obtain ⟨rest, hrest⟩ := hconveys.in_order
    rw [← hrest, List.flatten_append]
    exact List.prefix_append _ _
  · rw [hconveys.complete hended]
  · obtain ⟨more, hmore, hended⟩ := hconveys.ends hgone
    refine ⟨more, hmore, ?_⟩
    rw [Delivery.run, List.foldl_append]
    exact hended

namespace Definition

inductive Carries (bytes : Bytes) : Definition → Prop
  | simple (head : Head) (body : Option Bytes) (h : body.getD [] = bytes) :
      Carries bytes (.simple head body)
  | chunked (head : Head) (chunks : List String) (delay : Duration)
      (h : chunks.flatMap Text.Utf8.encode = bytes) : Carries bytes (.chunked head (.list chunks) delay)
  | events (head : Head) (events : List Event) (delay : Duration)
      (h : (events.flatMap fun event => Text.Utf8.encode event.encode) = bytes) :
      Carries bytes (.events head (.list events) delay)

variable {bytes : Bytes} {definition : Definition}

theorem Carries.mapHead (h : definition.Carries bytes) (f : Head → Head) :
    (definition.mapHead f).Carries bytes := by
  cases h with
  | simple head body h => exact .simple (f head) body h
  | chunked head chunks delay h => exact .chunked (f head) chunks delay h
  | events head events delay h => exact .events (f head) events delay h

theorem Carries.withChunkDelay (h : definition.Carries bytes) (delay : Duration) :
    (definition.withChunkDelay delay).Carries bytes := by
  cases h with
  | simple head body h => exact .simple head body h
  | chunked head chunks _ h => exact .chunked head chunks delay h
  | events head events _ h => exact .events head events delay h

@[simp] theorem head_mapHead (f : Head → Head) : (definition.mapHead f).head = f definition.head := by
  cases definition <;> rfl

@[simp] theorem head_withChunkDelay (delay : Duration) :
    (definition.withChunkDelay delay).head = definition.head := by
  cases definition <;> rfl

theorem apply_returned {head : Head} (h : head.edit = none) :
    head.apply = (.returned (head.extend ∅).1, (head.extend ∅).2) := by
  rw [Head.apply, h]
  rfl

theorem Carries.render (h : definition.Carries bytes) (hedit : definition.head.edit = none)
    (verbose : Bool) :
    ∃ response, (definition.render verbose).outcome = .returned response ∧
      response.status = definition.head.status ∧ response.body.ReadsAs bytes := by
  cases h with
  | simple head body h =>
    have happly : head.apply = _ := apply_returned hedit
    refine ⟨⟨head.status, (head.extend ∅).1, .full (body.getD [])⟩, ?_, rfl, h⟩
    rw [Definition.render, renderSimple, happly]
  | chunked head chunks delay h =>
    have happly : head.apply = _ := apply_returned hedit
    refine ⟨⟨head.status, chunkedHeaders (head.extend ∅).1, .streamed ⟨_, head.delay, delay, verbose⟩⟩,
      ?_, rfl, fun now events => h ▸ reads_ofList chunks _ _ _ verbose now events⟩
    rw [Definition.render, renderStreamed, happly]
    rfl
  | events head items delay h =>
    have happly : head.apply = _ := apply_returned hedit
    refine ⟨⟨head.status, eventHeaders (head.extend ∅).1, .streamed ⟨_, head.delay, delay, verbose⟩⟩,
      ?_, rfl, fun now events => h ▸ reads_ofList items _ _ _ verbose now events⟩
    rw [Definition.render, renderStreamed, happly]
    rfl

theorem checked_eq_ok {event made : Event} :
    checked event = .ok made ↔ event.validate = .ok () ∧ made = event := by
  rw [checked, bind_eq_ok, Unique.exists_iff]
  simp [pure, Except.pure, eq_comm]

theorem mapM_checked {items made : List Event} :
    items.mapM checked = .ok made ↔ (∀ event ∈ items, event.validate = .ok ()) ∧ made = items := by
  induction items generalizing made with
  | nil => simp [pure, Except.pure, eq_comm]
  | cons event rest ih =>
    rw [List.mapM_cons, bind_eq_ok, List.forall_mem_cons]
    simp only [bind_eq_ok, checked_eq_ok, ih, pure, Except.pure, Except.ok.injEq]
    constructor
    · rintro ⟨_, ⟨hevent, rfl⟩, _, ⟨hrest, rfl⟩, rfl⟩
      exact ⟨⟨hevent, hrest⟩, rfl⟩
    · rintro ⟨⟨hevent, hrest⟩, rfl⟩
      exact ⟨event, ⟨hevent, rfl⟩, rest, ⟨hrest, rfl⟩, rfl⟩

theorem tryEvents_eq_ok {items : List Event} : tryEvents items = .ok definition ↔
    (∀ event ∈ items, event.validate = .ok ()) ∧ definition = eventStream (.list items) := by
  rw [tryEvents, bind_eq_ok]
  simp only [mapM_checked, pure, Except.pure, Except.ok.injEq]
  constructor
  · rintro ⟨_, ⟨hgood, rfl⟩, rfl⟩
    exact ⟨hgood, rfl⟩
  · rintro ⟨hgood, rfl⟩
    exact ⟨items, ⟨hgood, rfl⟩, rfl⟩

end Definition

end Response

namespace ResponseTemplate

open Response (Definition)

variable {t : ResponseTemplate}

/-- The template sets one body at most. -/
structure OneBody (t : ResponseTemplate) : Prop where
  body_chunks : t.body = none ∨ t.chunks = []
  body_events : t.body = none ∨ t.events = []
  chunks_events : t.chunks = [] ∨ t.events = []

/-- The bytes of the body that the template sets, if it sets one at most. -/
inductive Says (t : ResponseTemplate) : Bytes → Prop
  | nothing (hbody : t.body = none) (hchunks : t.chunks = []) (hevents : t.events = []) : Says t []
  | text (s : String) (hbody : t.body = some (.string s)) (hchunks : t.chunks = [])
      (hevents : t.events = []) :
      Says t (Text.Utf8.encode s)
  | json (value : Json.Value) (hbody : t.body = some value) (hvalue : ∀ s, value ≠ .string s)
      (hchunks : t.chunks = []) (hevents : t.events = []) : Says t (Text.Utf8.encode value.text)
  | chunks (hbody : t.body = none) (hchunks : t.chunks ≠ []) (hevents : t.events = []) :
      Says t (t.chunks.flatMap Text.Utf8.encode)
  | events (hbody : t.body = none) (hchunks : t.chunks = []) (hevents : t.events ≠ []) :
      Says t (t.events.flatMap fun event => Text.Utf8.encode event.encode)

theorem checkShape_eq_ok : t.checkShape = .ok () ↔ t.OneBody := by
  have hone : t.OneBody ↔ (t.body = none ∨ t.chunks = []) ∧ (t.body = none ∨ t.events = []) ∧
      (t.chunks = [] ∨ t.events = []) :=
        ⟨fun ⟨h, h', h''⟩ => ⟨h, h', h''⟩, fun ⟨h, h', h''⟩ => ⟨h, h', h''⟩⟩
  rw [hone, checkShape]
  cases t.body <;> cases t.chunks <;> cases t.events <;> simp

theorem checkEvents_eq_ok {index : Nat} {items : List Response.Event} :
    checkEvents index items = .ok () ↔ ∀ event ∈ items, event.validate = .ok () := by
  induction items generalizing index with
  | nil => simp [checkEvents]
  | cons event rest ih =>
    rw [checkEvents, List.forall_mem_cons]
    cases event.validate with
    | error e => simp
    | ok _ => simp [ih]

theorem validate_eq_ok : t.validate = .ok () ↔
    t.checkStatus = .ok () ∧ t.OneBody ∧ ∀ event ∈ t.events, event.validate = .ok () := by
  have hevents : checkEvents 0 t.events = .ok () ↔ _ := checkEvents_eq_ok
  rw [← checkShape_eq_ok, ← hevents, validate]
  simp only [bind_eq_ok, Unique.exists_iff]

theorem renderBody_eq_ok : (∃ definition, t.renderBody = .ok definition) ↔
    ∀ event ∈ t.events, event.validate = .ok () := by
  rw [renderBody]
  split
  · constructor
    · rintro ⟨definition, h⟩
      cases htry : Definition.tryEvents t.events with
      | error e => rw [htry] at h; cases h
      | ok made => exact (Definition.tryEvents_eq_ok.mp htry).1
    · intro h
      rw [Definition.tryEvents_eq_ok.mpr ⟨h, rfl⟩]
      exact ⟨_, rfl⟩
  · rename_i hevents
    have hnone : t.events = [] := by simpa using hevents
    rw [hnone]
    refine iff_of_true ?_ (fun event h => nomatch h)
    split <;> exact ⟨_, rfl⟩

theorem render_eq_ok : (∃ definition, t.render = .ok definition) ↔
    t.checkStatus = .ok () ∧ ∀ event ∈ t.events, event.validate = .ok () := by
  rw [← renderBody_eq_ok, render]
  cases t.checkStatus with
  | error e => simp [bind, Except.bind]
  | ok _ => cases t.renderBody <;> simp [bind, Except.bind, pure, Except.pure]

theorem carries_renderBody {definition : Definition} (hone : t.OneBody)
    (h : t.renderBody = .ok definition) :
    definition.head.edit = none ∧ ∃ bytes, t.Says bytes ∧ definition.Carries bytes := by
  rw [renderBody] at h
  by_cases hevents : t.events = []
  · rw [if_neg (by simp [hevents])] at h
    by_cases hchunks : t.chunks = []
    · rw [if_neg (by simp [hchunks]), Except.ok.injEq] at h
      subst h
      cases hbody : t.body with
      | none => exact ⟨rfl, [], .nothing hbody hchunks hevents, .simple _ none rfl⟩
      | some value =>
        cases value with
        | string s => exact ⟨rfl, _, .text s hbody hchunks hevents, .simple _ _ rfl⟩
        | null | bool | number | array | object =>
          exact ⟨rfl, _, .json _ hbody (fun s hs => nomatch hs) hchunks hevents, .simple _ _ rfl⟩
    · rw [if_pos (by simp [hchunks]), Except.ok.injEq] at h
      subst h
      have hbody := hone.body_chunks.resolve_right hchunks
      exact ⟨rfl, _, .chunks hbody hchunks hevents, .chunked _ t.chunks _ rfl⟩
  · rw [if_pos (by simp [hevents])] at h
    cases htry : Definition.tryEvents t.events with
    | error e => rw [htry] at h; cases h
    | ok made =>
      obtain ⟨-, rfl⟩ := Definition.tryEvents_eq_ok.mp htry
      rw [htry] at h
      cases h
      have hbody := hone.body_events.resolve_right hevents
      have hchunks := hone.chunks_events.resolve_right hevents
      exact ⟨rfl, _, .events hbody hchunks hevents, .events _ t.events _ rfl⟩

/-- The response has the status of the template and the body that it sets. -/
structure Describes (t : ResponseTemplate) (response : Response) : Prop where
  status : response.status = t.status
  body : ∃ bytes, t.Says bytes ∧ response.body.ReadsAs bytes

theorem describes_of_validate (h : t.validate = .ok ()) : ∃ definition, t.render = .ok definition ∧
    ∀ verbose, ∃ response, (definition.render verbose).outcome = .returned response ∧
      t.Describes response := by
  obtain ⟨hstatus, hone, hevents⟩ := validate_eq_ok.mp h
  obtain ⟨definition, hbody⟩ := renderBody_eq_ok.mpr hevents
  obtain ⟨hedit, bytes, hsays, hcarries⟩ := carries_renderBody hone hbody
  refine ⟨(definition.withChunkDelay (.ofMillis t.chunkDelayMillis)).mapHead t.completeHead, ?_,
    fun verbose => ?_⟩
  · rw [render, hstatus, hbody]
    rfl
  · have hcomplete := (hcarries.withChunkDelay (.ofMillis t.chunkDelayMillis)).mapHead t.completeHead
    obtain ⟨response, houtcome, hresponse, hreads⟩ :=
      hcomplete.render (by simpa [completeHead] using hedit) verbose
    refine ⟨response, houtcome, ?_, bytes, hsays, hreads⟩
    simpa [completeHead] using hresponse

end ResponseTemplate

namespace StubDefinition

variable {d : StubDefinition} {created : Nat} {stub : Stub}

theorem build_eq_ok : d.build created = .ok stub ↔ ∃ spec, d.specification = .ok spec ∧
    d.response.validate = .ok () ∧ stub = ⟨d.configuration, spec.erase, d.responder, created⟩ := by
  rw [build]
  cases d.specification with
  | error e => simp [bind, Except.bind]
  | ok spec =>
    cases d.response.validate with
    | error e => simp [bind, Except.bind]
    | ok _ => simp [bind, Except.bind, pure, Except.pure, eq_comm]

end StubDefinition

/-- The check accepts exactly the templates with one body at most that can be rendered; and so the
stub of a definition that is built never fails to answer: every response is the one its template
describes. -/
theorem ResponseTemplate.validate_iff_render_and_build_describes :
    (∀ t : ResponseTemplate, t.validate = .ok () ↔ t.OneBody ∧ ∃ definition, t.render = .ok definition) ∧
    ∀ (d : StubDefinition) (created : Nat) (stub : Stub), d.build created = .ok stub →
      ∀ (request : Request) (verbose : Bool) (now : Nat), ∃ response,
        stub.yields request.head request.body.outcome verbose = .returned response ∧
        (stub.respond request verbose now).response = response ∧ d.response.Describes response := by
  constructor
  · intro t
    rw [validate_eq_ok, render_eq_ok]
    tauto
  · intro d created stub hbuild request verbose now
    obtain ⟨spec, -, hvalid, rfl⟩ := StubDefinition.build_eq_ok.mp hbuild
    obtain ⟨definition, hrender, hdescribes⟩ := ResponseTemplate.describes_of_validate hvalid
    obtain ⟨response, houtcome, hresponse⟩ := hdescribes verbose
    refine ⟨response, ?_, ?_, hresponse⟩
    · simp only [Stub.yields, StubDefinition.responder, hrender, Work.value, houtcome]
    · simp only [Stub.respond, StubDefinition.responder, hrender, Work.run, houtcome]

def StubDefinition.ticking : StubDefinition :=
  { blank with response := { ResponseTemplate.blank with
      status := 202, events :=
        [⟨some "a", none, none, none, none⟩, ⟨none, some "end", none, none, none⟩] } }

theorem ResponseTemplate.build_describes_ticking :
    ∃ stub, StubDefinition.ticking.build 7 = .ok stub ∧ ∃ response,
      stub.yields ⟨"GET", ⟨none, none, "/", none⟩, .http11, ⟨[]⟩⟩ (.ok []) true = .returned response ∧
      (stub.respond ⟨⟨"GET", ⟨none, none, "/", none⟩, .http11, ⟨[]⟩⟩,
        .ofBytes []⟩ true 0).response = response ∧
      StubDefinition.ticking.response.Describes response :=
  ⟨_, rfl, validate_iff_render_and_build_describes.2 StubDefinition.ticking 7 _ rfl
    ⟨⟨"GET", ⟨none, none, "/", none⟩, .http11, ⟨[]⟩⟩, .ofBytes []⟩ true 0⟩

end StubServer
