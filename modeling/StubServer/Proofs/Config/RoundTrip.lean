import Mathlib.Data.List.Permutation
import StubServer.Config.ServerConfig
import StubServer.Proofs.Document.Layout

namespace StubServer

open Document (Dialect Fault Node Obtainable Reads RoundTrips Schema Slot Yields)
open Document (isTidy_of_yields obtainable_bool obtainable_emptyTable obtainable_missing
  obtainable_nil obtainable_text
  obtainable_zero readVariant_text roundTrips_bool roundTrips_int roundTrips_list roundTrips_nat
    roundTrips_option
  roundTrips_optionalText roundTrips_table roundTrips_text roundTrips_value)
open Json (Value)
open Matching (StringMatcher)

namespace Matching.StringMatcher

theorem operand_of_reorders {m : StringMatcher} {w : Value} (h : w.Reorders m.operand) :
    w = m.operand := by
  cases m <;> cases h <;> rfl

theorem reads_toJson (m : StringMatcher) : Reads read m.toJson m := by
  intro w hw
  obtain ⟨fields, moved, rfl, hperm, hmoved⟩ := Value.reorders_object.mp hw
  obtain ⟨x, rest, ⟨hkey, hoperand⟩, hrest, rfl⟩ := List.forall₂_cons_right_iff.mp hmoved
  cases hrest
  obtain rfl := List.perm_singleton.mp hperm
  obtain rfl : x = (m.operator, m.operand) := Prod.ext hkey (operand_of_reorders hoperand)
  cases m <;> rfl

theorem roundTrips : RoundTrips read toJson := fun m _ => m.reads_toJson

end Matching.StringMatcher

namespace PathDefinition

theorem reads_toJson (path : PathDefinition) : Reads read path.toJson path := by
  intro w hw
  cases path with
  | exact path =>
    cases hw
    rfl
  | matching m =>
    have hread : StringMatcher.read (.ofValue w) = .ok m := m.reads_toJson w hw
    obtain ⟨fields, moved, rfl, -, -⟩ := Value.reorders_object.mp hw
    rw [Node.ofValue] at hread
    rw [Yields, read, Node.resolved_ofValue, Node.ofValue]
    simp only [bind, Except.bind, hread]
    rfl

theorem roundTrips : RoundTrips read toJson := fun path _ => path.reads_toJson

end PathDefinition

namespace HeaderDefinition

theorem yields_of_entries {fields : List (String × Value)} {header : HeaderDefinition}
    (h : (readExact none none (Node.ofFields fields) <|> readMatching (Node.ofFields fields)) =
      some header) :
    Yields read (.object fields) header := by
  rw [Yields, read, Node.resolved_ofValue, Node.ofValue]
  simp only [bind, Except.bind, h]
  rfl

theorem fields_of_reorders {w operand : Value} {name operator : String}
    (hoperand : ∀ u : Value, u.Reorders operand → u = operand)
    (hw : w.Reorders (.object [("name", .string name), (operator, operand)])) :
    w = .object [("name", .string name), (operator, operand)] ∨
      w = .object [(operator, operand), ("name", .string name)] := by
  obtain ⟨fields, moved, rfl, hperm, hmoved⟩ := Value.reorders_object.mp hw
  obtain ⟨⟨key, x⟩, rest, ⟨rfl, hx⟩, hrest, rfl⟩ := List.forall₂_cons_right_iff.mp hmoved
  obtain ⟨⟨key, y⟩, rest, ⟨rfl, hy⟩, hnil, rfl⟩ := List.forall₂_cons_right_iff.mp hrest
  cases hnil
  cases hx
  obtain rfl := hoperand y hy
  exact (List.perm_pair.mp hperm).imp (congrArg Value.object) (congrArg Value.object)

theorem reads_toJson (header : HeaderDefinition) : Reads read header.toJson header := by
  intro w hw
  cases header with
  | exact name value =>
    have hvalue : ∀ u : Value, u.Reorders (.string value) → u = .string value := by
      intro u hu
      cases hu
      rfl
    obtain rfl | rfl := fields_of_reorders hvalue hw <;> exact yields_of_entries rfl
  | matching name m =>
    obtain rfl | rfl := fields_of_reorders (fun _ hu => StringMatcher.operand_of_reorders hu) hw <;>
      exact yields_of_entries (by cases m <;> rfl)

theorem roundTrips : RoundTrips read toJson := fun header _ => header.reads_toJson

end HeaderDefinition

theorem JournalMode.reads_name (mode : JournalMode) (dialect : Dialect) :
    Reads (JournalMode.read dialect) (.string mode.name) mode := by
  cases mode <;> exact readVariant_text rfl dialect

namespace Response.Event

def slots : List (Slot Event) := [
  .ifSet "data" Node.readText data (fun v e => { e with data := v }) .string,
  .ifSet "event" Node.readText event (fun v e => { e with event := v }) .string,
  .ifSet "id" Node.readText id (fun v e => { e with id := v }) .string,
  .ifSet "retry" (Node.readNat 64) retry (fun v e => { e with retry := v }) .ofNat,
  .ifSet "comment" Node.readText comment (fun v e => { e with comment := v }) .string]

theorem isLayout : schema.IsLayout slots where
  fields_eq := rfl
  apart := by simp [slots, Slot.apart_iff, Slot.ifSet]
  lawful := by
    have htext (s : String) : Value.string s ≠ .null := fun he => nomatch he
    have hnat (n : Nat) : Value.ofNat n ≠ .null := fun he => nomatch he
    simp only [slots, List.forall_mem_cons]
    exact ⟨Slot.lawful_ifSet (fun _ _ => rfl) rfl roundTrips_text htext,
      Slot.lawful_ifSet (fun _ _ => rfl) rfl roundTrips_text htext,
      Slot.lawful_ifSet (fun _ _ => rfl) rfl roundTrips_text htext,
      Slot.lawful_ifSet (fun _ _ => rfl) rfl (roundTrips_nat 64) hnat,
      Slot.lawful_ifSet (fun _ _ => rfl) rfl roundTrips_text htext,
      List.forall_mem_nil _⟩
  ext r s h := by
    cases r
    cases s
    simpa [slots, Slot.ifSet] using h

theorem toJson_eq (e : Event) : e.toJson = Schema.written slots e := by
  simp [toJson, Schema.written, Schema.entries, slots, Slot.entry, Slot.ifSet]

theorem roundTrips (dialect : Dialect) : RoundTrips (schema.read dialect) toJson := by
  rw [show toJson = Schema.written slots from funext toJson_eq]
  exact isLayout.roundTrips dialect

end Response.Event

namespace ResponseTemplate

def slots (dialect : Dialect) : List (Slot ResponseTemplate) := [
  .always "status" (Node.readNat 16) status (fun v t => { t with status := v }) .ofNat,
  .always "headers" (Node.readTable Node.readText) headers (fun v t => { t with headers := v })
    fun headers => .object (headers.map fun (name, value) => (name, .string value)),
  .always "content_type" (Node.readOption Node.readText) contentType (fun v t =>
    { t with contentType := v })
    Value.ofText?,
  .always "body" (Node.readOption Node.readValue) body (fun v t => { t with body := v }) fun body =>
    body.getD .null,
  .always "chunks" (Node.readList Node.readText) chunks (fun v t => { t with chunks := v })
    fun chunks => .array (chunks.map .string),
  .always "events" (Node.readList (Response.Event.schema.read dialect)) events (fun v t =>
    { t with events := v })
    fun events => .array (events.map Response.Event.toJson),
  .always "delay_ms" (Node.readNat 64) delayMillis (fun v t => { t with delayMillis := v }) .ofNat,
  .always "chunk_delay_ms" (Node.readNat 64) chunkDelayMillis (fun v t =>
    { t with chunkDelayMillis := v }) .ofNat]

/-- A body that is not missing is not null, for null is read as a missing one. -/
theorem roundTrips_body : RoundTrips (Node.readOption Node.readValue) fun body => body.getD .null := by
  have h := roundTrips_option roundTrips_value fun v a hv ha => (isTidy_of_yields hv a ha).2
  simpa only [Option.map_id_fun, id_eq] using h

theorem isLayout (dialect : Dialect) : (schema dialect).IsLayout (slots dialect) where
  fields_eq := rfl
  apart := by simp [slots, Slot.apart_iff, Slot.always]
  lawful := by
    simp only [slots, List.forall_mem_cons]
    exact ⟨Slot.lawful_always (fun _ _ => rfl) ⟨.number (.int 200), .int 200, rfl⟩ (roundTrips_nat 16),
      Slot.lawful_always (fun _ _ => rfl) obtainable_emptyTable
        (roundTrips_table roundTrips_text),
      Slot.lawful_always (fun _ _ => rfl) obtainable_missing roundTrips_optionalText,
      Slot.lawful_always (fun _ _ => rfl) obtainable_missing roundTrips_body,
      Slot.lawful_always (fun _ _ => rfl) obtainable_nil (roundTrips_list roundTrips_text),
      Slot.lawful_always (fun _ _ => rfl) obtainable_nil
        (roundTrips_list (Response.Event.roundTrips dialect)),
      Slot.lawful_always (fun _ _ => rfl) (obtainable_zero 64) (roundTrips_nat 64),
      Slot.lawful_always (fun _ _ => rfl) (obtainable_zero 64) (roundTrips_nat 64),
      List.forall_mem_nil _⟩
  ext r s h := by
    cases r
    cases s
    simpa [slots, Slot.always] using h

theorem roundTrips (dialect : Dialect) : RoundTrips ((schema dialect).read dialect) toJson :=
  (isLayout dialect).roundTrips dialect

end ResponseTemplate

namespace RequestDefinition

def slots : List (Slot RequestDefinition) := [
  .always "method" (Node.readOption Node.readText) method (fun v r =>
    { r with method := v }) Value.ofText?,
  .always "path" (Node.readOption PathDefinition.read) path (fun v r => { r with path := v })
    fun path => (path.map PathDefinition.toJson).getD .null,
  .always "headers" (Node.readList HeaderDefinition.read) headers (fun v r => { r with headers := v })
    fun headers => .array (headers.map HeaderDefinition.toJson),
  .always "body" (Node.readList StringMatcher.read) body (fun v r => { r with body := v })
    fun body => .array (body.map StringMatcher.toJson),
  .always "case_sensitive" Node.readBool caseSensitive (fun v r => { r with caseSensitive := v }) .bool]

theorem isLayout : schema.IsLayout slots where
  fields_eq := rfl
  apart := by simp [slots, Slot.apart_iff, Slot.always]
  lawful := by
    have hpath (path : PathDefinition) : path.toJson ≠ .null := by
      cases path <;> exact fun he => nomatch he
    simp only [slots, List.forall_mem_cons]
    exact ⟨Slot.lawful_always (fun _ _ => rfl) obtainable_missing roundTrips_optionalText,
      Slot.lawful_always (fun _ _ => rfl) obtainable_missing
        (roundTrips_option PathDefinition.roundTrips fun _ path _ _ he => absurd he (hpath path)),
      Slot.lawful_always (fun _ _ => rfl) obtainable_nil (roundTrips_list HeaderDefinition.roundTrips),
      Slot.lawful_always (fun _ _ => rfl) obtainable_nil (roundTrips_list StringMatcher.roundTrips),
      Slot.lawful_always (fun _ _ => rfl) (obtainable_bool true) roundTrips_bool,
      List.forall_mem_nil _⟩
  ext r s h := by
    cases r
    cases s
    simpa [slots, Slot.always] using h

theorem roundTrips (dialect : Dialect) : RoundTrips (schema.read dialect) toJson :=
  isLayout.roundTrips dialect

end RequestDefinition

namespace StubDefinition

def slots (dialect : Dialect) : List (Slot StubDefinition) := [
  .always "name" (Node.readOption Node.readText) name (fun v d => { d with name := v }) Value.ofText?,
  .always "priority" (Node.readOption (Node.readInt (Node.signed 32))) priority (fun v d =>
    { d with priority := v })
    fun priority => (priority.map fun i => Value.number (.int i)).getD .null,
  .always "remove_after_match" Node.readBool removeAfterMatch (fun v d =>
    { d with removeAfterMatch := v }) .bool,
  .always "verbose" Node.readBool verbose (fun v d => { d with verbose := v }) .bool,
  .always "request" (RequestDefinition.schema.read dialect) request (fun v d => { d with request := v })
    RequestDefinition.toJson,
  .always "response" ((ResponseTemplate.schema dialect).read dialect) response (fun v d =>
    { d with response := v })
    ResponseTemplate.toJson]

theorem isLayout (dialect : Dialect) : (schema dialect).IsLayout (slots dialect) where
  fields_eq := rfl
  apart := by simp [slots, Slot.apart_iff, Slot.always]
  lawful := by
    simp only [slots, List.forall_mem_cons]
    exact ⟨Slot.lawful_always (fun _ _ => rfl) obtainable_missing roundTrips_optionalText,
      Slot.lawful_always (fun _ _ => rfl) obtainable_missing
        (roundTrips_option (roundTrips_int _) fun _ _ _ _ he => nomatch he),
      Slot.lawful_always (fun _ _ => rfl) (obtainable_bool false) roundTrips_bool,
      Slot.lawful_always (fun _ _ => rfl) (obtainable_bool false) roundTrips_bool,
      Slot.lawful_always (fun _ _ => rfl) (RequestDefinition.isLayout.obtainable_blank dialect)
        (RequestDefinition.roundTrips dialect),
      Slot.lawful_always (fun _ _ => rfl) ((ResponseTemplate.isLayout dialect).obtainable_blank dialect)
        (ResponseTemplate.roundTrips dialect),
      List.forall_mem_nil _⟩
  ext r s h := by
    cases r
    cases s
    simpa [slots, Slot.always] using h

theorem roundTrips (dialect : Dialect) : RoundTrips (read dialect) toJson :=
  (isLayout dialect).roundTrips dialect

end StubDefinition

namespace ShutdownConfig

def slots : List (Slot ShutdownConfig) := [
  .always "grace_period_ms" (Node.readInt (Node.signed 64)) graceMillis (fun v c =>
    { c with graceMillis := v })
    fun i => .number (.int i),
  .always "timeout_ms" (Node.readInt (Node.signed 64)) timeoutMillis (fun v c =>
    { c with timeoutMillis := v })
    fun i => .number (.int i)]

theorem isLayout : schema.IsLayout slots where
  fields_eq := rfl
  apart := by simp [slots, Slot.apart_iff, Slot.always]
  lawful := by
    simp only [slots, List.forall_mem_cons]
    exact ⟨Slot.lawful_always (fun _ _ => rfl) ⟨.number (.int 500), .int 500, rfl⟩ (roundTrips_int _),
      Slot.lawful_always (fun _ _ => rfl) ⟨.number (.int 1000), .int 1000, rfl⟩ (roundTrips_int _),
      List.forall_mem_nil _⟩
  ext r s h := by
    cases r
    cases s
    simpa [slots, Slot.always] using h

theorem roundTrips (dialect : Dialect) : RoundTrips (schema.read dialect) toJson :=
  isLayout.roundTrips dialect

end ShutdownConfig

namespace ServerConfig

def slots (dialect : Dialect) : List (Slot ServerConfig) := [
  .always "host" Node.readText host (fun v c => { c with host := v }) .string,
  .always "port" (Node.readNat 16) port (fun v c => { c with port := v }) .ofNat,
  .always "name" Node.readText name (fun v c => { c with name := v }) .string,
  .always "verbose" Node.readBool verbose (fun v c => { c with verbose := v }) .bool,
  .always "journal_mode" (JournalMode.read dialect) journalMode (fun v c => { c with journalMode := v })
    fun mode => .string mode.name,
  .always "shutdown" (ShutdownConfig.schema.read dialect) shutdown (fun v c => { c with shutdown := v })
    ShutdownConfig.toJson,
  .always "stubs" (Node.readList (StubDefinition.read dialect)) stubs (fun v c => { c with stubs := v })
    fun stubs => .array (stubs.map StubDefinition.toJson)]

theorem isLayout (dialect : Dialect) : (schema dialect).IsLayout (slots dialect) where
  fields_eq := rfl
  apart := by simp [slots, Slot.apart_iff, Slot.always]
  lawful := by
    simp only [slots, List.forall_mem_cons]
    exact ⟨Slot.lawful_always (fun _ _ => rfl) (obtainable_text _) roundTrips_text,
      Slot.lawful_always (fun _ _ => rfl) (obtainable_zero 16) (roundTrips_nat 16),
      Slot.lawful_always (fun _ _ => rfl) (obtainable_text _) roundTrips_text,
      Slot.lawful_always (fun _ _ => rfl) (obtainable_bool false) roundTrips_bool,
      Slot.lawful_always (fun _ _ => rfl)
        ⟨.string "lean", .string _, JournalMode.reads_name .lean dialect _ (.string _)⟩
        fun mode _ => mode.reads_name dialect,
      Slot.lawful_always (fun _ _ => rfl) (ShutdownConfig.isLayout.obtainable_blank dialect)
        (ShutdownConfig.roundTrips dialect),
      Slot.lawful_always (fun _ _ => rfl) obtainable_nil
        (roundTrips_list (StubDefinition.roundTrips dialect)), List.forall_mem_nil _⟩
  ext r s h := by
    cases r
    cases s
    simpa [slots, Slot.always] using h

theorem roundTrips (dialect : Dialect) : RoundTrips (read dialect) toJson :=
  (isLayout dialect).roundTrips dialect

/-- A configuration that has been read from a JSON value is written as one that reads as the same
configuration, in whichever order that value keeps the fields of its objects. -/
theorem read_toJson {v : Value} {c : ServerConfig} (hv : v.IsFinite)
    (hread : read .jsonValue (.ofValue v) = .ok c) :
    read .jsonValue (.ofValue c.toJson) = .ok c ∧
      ∀ w : Value, w.Reorders c.toJson → read .jsonValue (.ofValue w) = .ok c := by
  have hagain : Reads (read .jsonValue) c.toJson c := roundTrips .jsonValue c ⟨v, hv, hread⟩
  exact ⟨hagain c.toJson (.refl _), hagain⟩

def mixedJson : Value := .object [
  ("stubs", .array [
    .object [
      ("name", .string "plain"),
      ("request", .object [
        ("path", .string "/a"),
        ("headers", .array [
          .object [("value", .string "1"), ("name", .string "X-A")],
          .object [("startsWith", .string "t"), ("name", .string "X-B")]])]),
      ("response",
        .object [("body", .object [("b", .null), ("a", .array [.number (.int 1), .bool true])])])],
    .object [
      ("request", .object [
        ("path", .object [("matches", .string "^/x")]),
        ("body", .array [.object [("exists", .bool true)]])]),
      ("response", .object
        [("events", .array [.object [("data", .string "d"), ("retry", .number (.int 5))]])])]]),
  ("journal_mode", .object [("full", .null)])]

def mixed : ServerConfig := ⟨"127.0.0.1", 0, "decoy", false, .full, .blank, [
  ⟨some "plain", none, false, false,
    ⟨none, some (.exact "/a"), [.exact "X-A" "1", .matching "X-B" (.startsWith "t")], [], true⟩,
    { ResponseTemplate.blank with
      body := some (.object [("a", .array [.number (.int 1), .bool true]), ("b", .null)]) }⟩,
  ⟨none, none, false, false,
    ⟨none, some (.matching (.matchesPattern "^/x")), [], [.present true], true⟩,
    { ResponseTemplate.blank with events := [⟨some "d", none, none, some 5, none⟩] }⟩]⟩

theorem isFinite_mixedJson : mixedJson.IsFinite := by simp [mixedJson]

theorem read_mixedJson : read .jsonValue (.ofValue mixedJson) = .ok mixed := by rfl

theorem read_toJson_mixed :
    mixedJson.IsFinite ∧ read .jsonValue (.ofValue mixedJson) = .ok mixed ∧
      read .jsonValue (.ofValue mixed.toJson) = .ok mixed ∧
      ∀ w : Value, w.Reorders mixed.toJson → read .jsonValue (.ofValue w) = .ok mixed :=
  ⟨isFinite_mixedJson, read_mixedJson, read_toJson isFinite_mixedJson read_mixedJson⟩

end ServerConfig

end StubServer
