import StubServer.Proofs.Config.RoundTrip
import StubServer.Proofs.Config.Template
import StubServer.Proofs.Document.Missing
import StubServer.Proofs.Json.Nesting
import StubServer.Proofs.Response.Completion

namespace StubServer

open Document (Dialect Frame Node Slot)
open Json (Value)

namespace Response

def ofContent (status : Nat) (contentType : String) (bytes : Bytes) : Response :=
  ⟨status, ⟨[(Head.contentTypeName, [Text.Utf8.encode contentType])]⟩, .full bytes⟩

theorem outcome_renderPlain {contentType : String} (status : Nat) (delay : Duration)
    (body : Option Bytes)
    (h : Http.headerValued? contentType = some (Text.Utf8.encode contentType)) (verbose : Bool) :
    (Definition.render verbose (.simple ⟨status, contentType, [], none, delay⟩ body)).outcome =
      .returned (.ofContent status contentType (body.getD [])) := by
  have hheaders : (Head.extend ⟨status, contentType, [], none, delay⟩ ∅).1 =
      ⟨[(Head.contentTypeName, [Text.Utf8.encode contentType])]⟩ := by
    rw [Head.extend_fst, Head.contentTypeField, h]
    rfl
  rw [Definition.render, Definition.outcome_renderSimple rfl, hheaders]
  rfl

end Response

namespace ResponseTemplate

open Response (Definition)

/-- The template sets nothing that would go before its body or change the headers. -/
structure IsPlain (t : ResponseTemplate) : Prop where
  chunks : t.chunks = []
  events : t.events = []
  contentType : t.contentType = none
  headers : t.headers = []

/-- What is sent for a body: its content type and its bytes. -/
def content : Option Value → String × Bytes
  | none => (Definition.jsonText, [])
  | some (.string s) => (Definition.plainText, Text.Utf8.encode s)
  | some v => (Definition.jsonText, Text.Utf8.encode v.text)

/-- The body that a template has when a document sets it to a value. -/
def bodyOf : Value → Option Value
  | .null => none
  | v => some v

theorem mem_slots_body (dialect : Dialect) :
    Slot.always "body" (Node.readOption Node.readValue) body (fun v t => { t with body := v })
      (fun body => body.getD .null) ∈ slots dialect := List.mem_of_getElem? (i := 3) rfl

theorem readOption_ofValue {v : Value} (htidy : v.IsTidy) :
    (Node.ofValue v).readOption Node.readValue = .ok (bodyOf v) := by
  have hv : (Node.ofValue v).readValue = .ok v := Document.reads_value htidy v (.refl v)
  cases v with
  | null => rfl
  | bool b | number n | string s | array items | object fields =>
    exact Node.readOption_readValue hv fun he => nomatch he

variable {t : ResponseTemplate}

theorem content_legal (body : Option Value) :
    Http.headerValued? (content body).1 = some (Text.Utf8.encode (content body).1) := by
  have hjson : Http.headerValued? Definition.jsonText =
    some (Text.Utf8.encode Definition.jsonText) := rfl
  have htext : Http.headerValued? Definition.plainText =
    some (Text.Utf8.encode Definition.plainText) := rfl
  cases body with
  | none => exact hjson
  | some v =>
    cases v with
    | string s => exact htext
    | null | bool b | number n | array items | object fields => exact hjson

theorem render_plain (h : t.IsPlain) (hstatus : t.checkStatus = .ok ()) : ∃ body : Option Bytes,
    t.render = .ok (.simple ⟨t.status, (content t.body).1, [], none, .ofMillis t.delayMillis⟩ body) ∧
      body.getD [] = (content t.body).2 := by
  obtain ⟨status, headers, contentType, body, chunks, events, delay, chunkDelay⟩ := t
  obtain ⟨rfl, rfl, rfl, rfl⟩ := h
  rw [render, hstatus]
  cases body with
  | none => exact ⟨none, rfl, rfl⟩
  | some v => cases v <;> exact ⟨_, rfl, rfl⟩

end ResponseTemplate

namespace StubDefinition

variable {d : StubDefinition} {created : Nat} {stub : Stub}

theorem respond_plain (hbuild : d.build created = .ok stub) (hplain : d.response.IsPlain)
    (request : Request) (verbose : Bool) (now : Nat) : (stub.respond request verbose now).response =
      .ofContent d.response.status (ResponseTemplate.content d.response.body).1
        (ResponseTemplate.content d.response.body).2 := by
  obtain ⟨spec, -, hvalid, rfl⟩ := build_eq_ok.mp hbuild
  obtain ⟨body, hrender, hbody⟩ :=
    ResponseTemplate.render_plain hplain (ResponseTemplate.validate_eq_ok.mp hvalid).1
  have houtcome := Response.outcome_renderPlain d.response.status (.ofMillis d.response.delayMillis) body
    (ResponseTemplate.content_legal d.response.body) verbose
  simp only [Stub.respond, responder, hrender, Work.run, houtcome, hbody]

theorem mem_slots_response (dialect : Dialect) :
    Slot.always "response" ((ResponseTemplate.schema dialect).read dialect) response
      (fun v d => { d with response := v }) ResponseTemplate.toJson ∈ slots dialect :=
        List.mem_of_getElem? (i := 5) rfl

/-- The document of a definition sets the body of the response. -/
inductive SetsBody (body : Node) : Node → Prop
  | intro {entries fields : List (Node × Node)} {frame frame' : Frame} {key key' : Node}
      (hkey : key.readText = .ok "response") (hresponse : (key, .table fields frame') ∈ entries)
      (hkey' : key'.readText = .ok "body") (hbody : (key', body) ∈ fields) :
        SetsBody body (.table entries frame)

theorem SetsBody.read_body {dialect : Dialect} {document body : Node} (hsets : SetsBody body document)
    (hread : read dialect document = .ok d) : body.readOption Node.readValue = .ok d.response.body := by
  obtain ⟨hkey, hresponse, hkey', hbody⟩ := hsets
  have htemplate : (ResponseTemplate.schema dialect).read dialect (.table _ _) = .ok d.response :=
    (isLayout dialect).read_field (mem_slots_response dialect) hresponse hkey hread
  exact (ResponseTemplate.isLayout dialect).read_field
    (ResponseTemplate.mem_slots_body dialect) hbody hkey' htemplate

theorem SetsBody.body_eq {dialect : Dialect} {document body : Node} {v : Value}
    (hsets : SetsBody body document)
    (hread : read dialect document = .ok d) (hv : body.readValue = .ok v) (hnull : v ≠ .null) :
    d.response.body = some v :=
  Except.ok.inj ((hsets.read_body hread).symm.trans (Node.readOption_readValue hv hnull))

theorem SetsBody.body_eq_json {dialect : Dialect} {document : Node} {v : Value} (htidy : v.IsTidy)
    (hsets : SetsBody (.ofValue v) document) (hread : read dialect document = .ok d) :
    d.response.body = ResponseTemplate.bodyOf v :=
  Except.ok.inj ((hsets.read_body hread).symm.trans (ResponseTemplate.readOption_ofValue htidy))

def bodyAlone (v : Value) : Node := .ofValue (.object [("response", .object [("body", v)])])

def answering (body : Option Value) : StubDefinition :=
  { blank with response := { ResponseTemplate.blank with body := body } }

theorem setsBody_bodyAlone (v : Value) : SetsBody (.ofValue v) (bodyAlone v) :=
  ⟨rfl, List.mem_singleton_self _, rfl, List.mem_singleton_self _⟩

theorem read_bodyAlone {v : Value} (htidy : v.IsTidy) (dialect : Dialect) :
    read dialect (bodyAlone v) = .ok (answering (ResponseTemplate.bodyOf v)) := by
  have htemplate := (ResponseTemplate.isLayout dialect).read_single
    (ResponseTemplate.mem_slots_body dialect) (ResponseTemplate.readOption_ofValue htidy) dialect
  exact (isLayout dialect).read_single (mem_slots_response dialect) htemplate dialect

theorem isPlain_answering (body : Option Value) : (answering body).response.IsPlain :=
  ⟨rfl, rfl, rfl, rfl⟩

/-- How a stub made from the definition answers, and which body a document sets. -/
structure AnswersBody (d : StubDefinition) (stub : Stub) : Prop where
  response (request : Request) (verbose : Bool) (now : Nat) :
    (stub.respond request verbose now).response =
    .ofContent d.response.status (ResponseTemplate.content d.response.body).1
      (ResponseTemplate.content d.response.body).2
  /-- The text of the body reads as the body, and is that of no other value. -/
  reads_back (v : Value) (hbody : d.response.body = some v) (hv : v.isIntegral) :
    (v.IsTidy → (Json.parse v.text).read Node.readValue =
      if v.nesting ≤ Json.nestingLimit then .ok v else .error .illFormed) ∧
    ∀ w : Value, w.isIntegral → w.text = v.text → w = v
  /-- A value is kept as it is, whatever notation the document has. -/
  sets {dialect : Dialect} {document body : Node} {v : Value} (hsets : SetsBody body document)
    (hread : read dialect document = .ok d) (hv : body.readValue = .ok v) (hnull : v ≠ .null) :
    d.response.body = some v
  /-- Of the values of JSON, null alone is not kept. -/
  sets_json {dialect : Dialect} {document : Node} {v : Value} (htidy : v.IsTidy)
    (hsets : SetsBody (.ofValue v) document) (hread : read dialect document = .ok d) :
    d.response.body = ResponseTemplate.bodyOf v

theorem answers_body (hbuild : d.build created = .ok stub) (hplain : d.response.IsPlain) :
    d.AnswersBody stub where
  response := respond_plain hbuild hplain
  reads_back _ _ hv := ⟨Json.read_text hv, fun _ hw => Json.Value.eq_of_text hw hv⟩
  sets := SetsBody.body_eq
  sets_json := SetsBody.body_eq_json

def listing : Value := .array [.number (.int 1), .null]

theorem isTidy_listing : listing.IsTidy :=
  .array (List.forall_mem_cons.mpr ⟨.int 1, List.forall_mem_singleton.mpr .null⟩)

/-- Null is kept inside other values. -/
theorem answers_body_listing : ∃ d stub, read .jsonText (bodyAlone listing) = .ok d ∧
    d.response.body = some listing ∧ d.build 0 = .ok stub ∧ d.response.IsPlain ∧ d.AnswersBody stub :=
  ⟨answering (some listing), _, read_bodyAlone isTidy_listing .jsonText, rfl, rfl, isPlain_answering _,
    answers_body rfl (isPlain_answering _)⟩

/-- A body of null is left out, and what is then sent for JSON is no text at all. -/
theorem null_not_sent : ∃ d stub, SetsBody (.ofValue .null) (bodyAlone .null) ∧
    read .jsonText (bodyAlone .null) = .ok d ∧ d.build 0 = .ok stub ∧ d.response.IsPlain ∧
    ∀ request verbose now, (stub.respond request verbose now).response =
      .ofContent 200 "application/json" [] ∧ (stub.respond request verbose now).response ≠
        .ofContent 200 "application/json" (Text.Utf8.encode Value.null.text) := by
  refine ⟨answering none, _, setsBody_bodyAlone .null, read_bodyAlone .null .jsonText, rfl,
    isPlain_answering none, fun request verbose now => ?_⟩
  have hbuild : (answering none).build 0 = .ok _ := rfl
  have hresponse := respond_plain hbuild (isPlain_answering none) request verbose now
  refine ⟨hresponse, fun he => ?_⟩
  have hbytes := hresponse.symm.trans he
  cases hbytes

end StubDefinition

end StubServer
