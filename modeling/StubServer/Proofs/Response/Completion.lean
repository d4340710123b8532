import StubServer.Proofs.Http.Headers
import StubServer.Response.Basic

namespace StubServer.Response

open Http

namespace Head

def edited (head : Head) : Outcome Headers := (head.edit.map (· ∅)).getD (.returned ∅)

def legalField? (field : String × String) : Option (String × Bytes) :=
  match headerNamed? field.1, headerValued? field.2 with
  | some name, some value => some (name, value)
  | _, _ => none

def legal (fields : List (String × String)) : List (String × Bytes) := fields.filterMap legalField?

def contentTypeField (contentType : String) : List (String × Bytes) :=
  (headerValued? contentType).toList.map (contentTypeName, ·)

variable {head : Head} {headers made : Headers} {log : List LogEvent}

theorem foldl_appendField (fields : List (String × String)) :
    (fields.foldl appendField (headers, log)).1 = headers.appendAll (legal fields) := by
  induction fields generalizing headers log with
  | nil => rfl
  | cons field rest ih =>
    rw [List.foldl_cons, appendField, legal, List.filterMap_cons, legalField?, ← legal]
    cases headerNamed? field.1 with
    | none => exact ih
    | some name =>
      cases headerValued? field.2 with
      | none => exact ih
      | some value => exact ih

theorem completeContentType_fst (contentType : String) :
    (completeContentType contentType (headers, log)).1 =
      headers.completeAll (contentTypeField contentType) := by
  rw [completeContentType, contentTypeField]
  cases headerValued? contentType with
  | none => split <;> rfl
  | some value =>
    rw [Option.toList_some, List.map_singleton, Headers.completeAll, List.foldl_cons,
      List.foldl_nil, Headers.complete]
    split <;> rfl

theorem extend_fst : (head.extend headers).1 =
    (headers.appendAll (legal head.headers)).completeAll (contentTypeField head.contentType) := by
  rw [extend, completeContentType_fst, foldl_appendField]

theorem apply_of_edited (h : head.edited = .returned made) :
    head.apply = (.returned (head.extend made).1, (head.extend made).2) := by
  rw [edited] at h
  rw [apply, h]

end Head

/-- The headers are those that were made, the fields given behind them, and what is set by default
under the names that are then still missing. -/
structure Completes (made : Headers) (given defaults : List (String × Bytes)) (headers : Headers) :
    Prop where
  kept : ∀ name, name ∈ made.names ∨ name ∈ given.map (·.1) →
    headers.getAll name = made.getAll name ++ Headers.valuesOf name given
  filled : ∀ name, name ∉ made.names → name ∉ given.map (·.1) →
    headers.getAll name = (defaults.lookup name).toList
  in_order : headers.names = made.names ++ Headers.newNames made.names (given ++ defaults)

theorem completes_completeAll (made : Headers) (given defaults : List (String × Bytes)) :
    Completes made given defaults ((made.appendAll given).completeAll defaults) := by
  refine ⟨fun name hname => ?_, fun name hmade hgiven => ?_, ?_⟩
  · rw [Headers.getAll_completeAll, if_pos (Headers.mem_names_appendAll.mpr hname),
      Headers.getAll_appendAll]
  · rw [Headers.getAll_completeAll, if_neg]
    exact fun h => (Headers.mem_names_appendAll.mp h).elim hmade hgiven
  · rw [Headers.names_completeAll, Headers.names_appendAll, Headers.newNames_append, List.append_assoc]

namespace Definition

def chunkedDefaults : List (String × Bytes) := [("cache-control", Text.Utf8.encode "no-cache")]

def eventDefaults : List (String × Bytes) := [("cache-control", Text.Utf8.encode "no-store"),
  ("connection", Text.Utf8.encode "keep-alive"), ("x-accel-buffering", Text.Utf8.encode "no")]

/-- What a response of this kind sets where nothing is set: the content type of the definition, and
what bodies in chunks or of events need. -/
def defaults : Definition → List (String × Bytes)
  | .simple head _ => Head.contentTypeField head.contentType
  | .chunked head _ _ => Head.contentTypeField head.contentType ++ chunkedDefaults
  | .events head _ _ => Head.contentTypeField head.contentType ++ eventDefaults

variable {head : Head} {made : Headers} {verbose : Bool}

theorem outcome_renderSimple (h : head.edited = .returned made) (body : Option Bytes) :
    (renderSimple verbose head body).outcome = .returned ⟨head.status, (head.extend made).1,
      .full (body.getD [])⟩ := by
  rw [renderSimple, Head.apply_of_edited h]

theorem outcome_renderStreamed (h : head.edited = .returned made) (what : String)
    (complete : Headers → Headers) (source : Source Bytes) (chunkDelay : Duration) :
    (renderStreamed verbose what complete head source chunkDelay).outcome = .returned
      ⟨head.status, complete (head.extend made).1,
        .streamed ⟨source, head.delay, chunkDelay, verbose⟩⟩ := by
  rw [renderStreamed, Head.apply_of_edited h]

/-- Every definition whose callback comes back becomes a response, and its headers are what the
callback has made, completed by the list and by what its kind sets. -/
theorem headers_complete (definition : Definition) (verbose : Bool) (made : Headers)
    (h : definition.head.edited = .returned made) :
    ∃ response, (definition.render verbose).outcome = .returned response ∧
      Completes made (Head.legal definition.head.headers) definition.defaults response.headers := by
  cases definition with
  | simple head body =>
    refine ⟨_, outcome_renderSimple h body, ?_⟩
    rw [Head.extend_fst]
    exact completes_completeAll made _ _
  | chunked head source delay =>
    refine ⟨_, outcome_renderStreamed h _ _ _ _, ?_⟩
    have hcomplete := completes_completeAll made (Head.legal head.headers)
      (defaults (.chunked head source delay))
    rw [defaults, Headers.completeAll_append, ← Head.extend_fst] at hcomplete
    exact hcomplete
  | events head source delay =>
    refine ⟨_, outcome_renderStreamed h _ _ _ _, ?_⟩
    have hcomplete := completes_completeAll made (Head.legal head.headers)
      (defaults (.events head source delay))
    rw [defaults, Headers.completeAll_append, ← Head.extend_fst] at hcomplete
    exact hcomplete

def tagged : Definition := .events ⟨200, eventText, [("X-Tag", "b"), ("bad name", "x"), ("x-tag", "c"),
  ("Connection", "close")], some fun headers => .returned (headers.append "x-tag" [97]), .zero⟩
    (.list []) .zero

theorem headers_complete_tagged : tagged.head.edited = .returned (.ofList [("x-tag", [97])]) ∧
    ∃ response, (tagged.render false).outcome = .returned response ∧
      Completes (.ofList [("x-tag", [97])]) (Head.legal tagged.head.headers) tagged.defaults
        response.headers :=
  ⟨rfl, headers_complete tagged false _ rfl⟩

end Definition

end StubServer.Response
