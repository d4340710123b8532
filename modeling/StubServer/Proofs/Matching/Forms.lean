import StubServer.Proofs.Config.HeaderEntries
import StubServer.Proofs.Json.RoundTrip
import StubServer.Proofs.Json.TypedTrees

namespace StubServer

open Document (Node Source)
open Json (Value AreTyped)

namespace Document

namespace Node

variable {node : Node}

theorem readText_of_isTyped {s : String} (h : node.isTyped) :
    node.readText = .ok s ↔ node = .text s := by
  cases node <;> simp_all [isTyped, readText, wrongType]

theorem readBool_of_isTyped {b : Bool} (h : node.isTyped) : node.readBool = .ok b ↔ node = .bool b := by
  cases node <;> simp_all [isTyped, readBool, wrongType]

end Node

theorem Source.read_eq_ok {α : Type} {read : Node → Except Fault α} {source : Source} {a : α} :
    source.read read = .ok a ↔ read source.root = .ok a ∧ source.trailing = false := by
  rw [Source.read, bind_eq_ok]
  cases source.trailing with
  | true => exact iff_of_false (fun ⟨_, _, h⟩ => nomatch h) (fun ⟨_, h⟩ => nomatch h)
  | false => exact ⟨fun ⟨_, h, heq⟩ => ⟨h.trans heq, rfl⟩, fun ⟨h, _⟩ => ⟨a, h, rfl⟩⟩

end Document

namespace Matching.StringMatcher

variable {m : StringMatcher}

theorem readOperand_of_isTyped {name : String} {node : Node} (hnode : node.isTyped) :
    readOperand name node = .ok m ↔ name = m.operator ∧ node = .ofValue m.operand := by
  constructor
  · intro h
    unfold readOperand at h
    split at h
    case h_6 =>
      obtain ⟨b, hb, rfl⟩ := map_eq_ok.mp h
      exact ⟨rfl, (Node.readBool_of_isTyped hnode).mp hb⟩
    case h_7 => cases h
    all_goals
      obtain ⟨s, hs, rfl⟩ := map_eq_ok.mp h
      exact ⟨rfl, (Node.readText_of_isTyped hnode).mp hs⟩
  · rintro ⟨rfl, rfl⟩
    cases m <;> rfl

theorem readEntries_of_areTyped {closed : Bool} {entries : List (Node × Node)}
    (hentries : AreTyped entries) :
    readEntries closed entries = .ok m ↔ closed ∧ entries = Node.ofFields [(m.operator, m.operand)] := by
  match entries with
  | [] => cases closed <;> exact iff_of_false nofun nofun
  | (key, node) :: rest =>
    have hkey : key.isTyped := (hentries _ List.mem_cons_self).1
    have hnode : node.isTyped := (hentries _ List.mem_cons_self).2
    constructor
    · intro h
      obtain ⟨name, hname, h⟩ := bind_eq_ok.mp h
      obtain ⟨found, hfound, h⟩ := bind_eq_ok.mp h
      cases rest with
      | nil =>
        cases closed with
        | true =>
          cases h
          obtain ⟨rfl, rfl⟩ := (readOperand_of_isTyped hnode).mp hfound
          rw [(Node.readText_of_isTyped hkey).mp hname]
          exact ⟨rfl, rfl⟩
        | false => cases h
      | cons second rest =>
        obtain ⟨_, -, h⟩ := bind_eq_ok.mp h
        cases h
    · rintro ⟨rfl, h⟩
      cases h
      cases m <;> rfl

theorem read_parseChars {src : Json.Chars} : read (Json.parseChars src).root = .ok m ↔
    (Json.parseChars src).root = .ofValue m.toJson := by
  constructor
  · intro h
    have htyped := Json.isTyped_parseChars src
    generalize hroot : (Json.parseChars src).root = root at h htyped
    cases root with
    | table entries frame =>
      obtain ⟨hentries, hdeep, htag⟩ := Json.parseChars_table hroot
      obtain ⟨_, -, h⟩ := bind_eq_ok.mp h
      obtain ⟨hclosed, rfl⟩ := (readEntries_of_areTyped hentries).mp h
      obtain ⟨closed, tooDeep, tag⟩ := frame
      cases hclosed
      cases hdeep
      cases htag
      rfl
    | scalar s => cases htyped
    | null | bool b | int i | float x | text s | list items frame | unreadable | broken => cases h
  · intro h
    rw [h]
    cases m <;> rfl

theorem read_ofValue {v : Value} : read (.ofValue v) = .ok m ↔ v = m.toJson := by
  cases v with
  | object fields =>
    have hread : read (.ofValue (.object fields)) = readEntries true (Node.ofFields fields) := rfl
    rw [hread, readEntries_ofFields, toJson, Value.object.injEq]
  | number n => cases n <;> exact iff_of_false nofun nofun
  | null | bool b | string s | array items => exact iff_of_false nofun nofun

/-- The objects with one known operator and an operand of its type, which is a text for all of them
but one. -/
inductive IsForm : Value → Prop
  | text (key s : String) (hknown : key ∈ operators) (htext : key ≠ "exists") :
      IsForm (.object [(key, .string s)])
  | presence (b : Bool) : IsForm (.object [("exists", .bool b)])

theorem isForm_iff {v : Value} : IsForm v ↔ ∃ m : StringMatcher, v = m.toJson := by
  constructor
  · intro h
    cases h with
    | text key s hknown htext =>
      simp only [operators, List.mem_cons, List.not_mem_nil, or_false] at hknown
      obtain rfl | rfl | rfl | rfl | rfl | rfl := hknown
      exacts [⟨.equals s, rfl⟩, ⟨.contains s, rfl⟩, ⟨.startsWith s, rfl⟩, ⟨.endsWith s, rfl⟩,
        ⟨.matchesPattern s, rfl⟩, absurd rfl htext]
    | presence b => exact ⟨.present b, rfl⟩
  · rintro ⟨m, rfl⟩
    cases m with
    | present b => exact .presence b
    | equals s | contains s | startsWith s | endsWith s | matchesPattern s =>
      exact .text _ s (operator_mem _) (by simp [operator])

theorem toJson_injective : Function.Injective toJson := fun _ _ h =>
  Except.ok.inj ((read_ofValue.mpr rfl).symm.trans (read_ofValue.mpr h))

def field (m : StringMatcher) : String × Value := (m.operator, m.operand)

theorem field_injective : Function.Injective field := fun _ _ h =>
  toJson_injective (congrArg (fun field => Value.object [field]) h)

/-- The object with a field for each of the comparisons, which may share an operator. -/
def together (ms : List StringMatcher) : Value := .object (ms.map field)

theorem parse_together (ms : List StringMatcher) :
    Json.parse (together ms).text = ⟨.ofValue (together ms), false⟩ := by
  have hoperand (m : StringMatcher) : m.operand.isIntegral ∧ m.operand.nesting = 0 := by
    cases m <;> exact ⟨rfl, rfl⟩
  have hfields : Value.fieldsAreIntegral (ms.map field) ∧ Value.fieldsNesting (ms.map field) = 0 := by
    induction ms with
    | nil => exact ⟨rfl, rfl⟩
    | cons m ms ih => simp [Value.fieldsAreIntegral, Value.fieldsNesting, field, hoperand, ih]
  refine Json.parse_text hfields.1 ?_
  rw [together, Value.nesting, hfields.2]
  decide

theorem read_together {ms : List StringMatcher} :
    (Json.parse (together ms).text).read read = .ok m ↔ ms = [m] := by
  rw [parse_together, Source.read_eq_ok, and_iff_left rfl, read_ofValue, together, toJson,
    Value.object.injEq, List.map_eq_singleton_iff]
  constructor
  · rintro ⟨found, rfl, h⟩
    rw [field_injective h]
  · rintro rfl
    exact ⟨m, rfl, rfl⟩

/-- A value is read as a comparison exactly if it is the one that is written for it, and a text
exactly if it says nothing but that value. So the values that are read are the objects with one
operator and its operand, each comparison has a form of its own, and everything else is rejected, as
is a text with several comparisons or one comparison twice. -/
theorem forms_exact :
    (∀ (v : Value) (m : StringMatcher), read (.ofValue v) = .ok m ↔ v = m.toJson) ∧
    (∀ v : Value, IsForm v ∧ (∃ m, read (.ofValue v) = .ok m) ∨ ¬IsForm v ∧
      ∃ fault, read (.ofValue v) = .error fault) ∧ Function.Injective toJson ∧
    (∀ (src : Json.Chars) (m : StringMatcher), (Json.parseChars src).read read = .ok m ↔
      Json.parseChars src = ⟨.ofValue m.toJson, false⟩) ∧
    (∀ m : StringMatcher, Json.parse m.toJson.text = ⟨.ofValue m.toJson, false⟩) ∧
    ∀ (ms : List StringMatcher) (m : StringMatcher),
      (Json.parse (together ms).text).read read = .ok m ↔ ms = [m] := by
  refine ⟨fun v m => read_ofValue, fun v => ?_, toJson_injective, fun src m => ?_, fun m =>
    parse_together [m], fun ms m => read_together⟩
  · have hread (fault : Document.Fault) (h : read (.ofValue v) = .error fault) (m : StringMatcher) :
      v ≠ m.toJson :=
      fun hv => nomatch h.symm.trans (read_ofValue.mpr hv)
    cases h : read (.ofValue v) with
    | ok m => exact .inl ⟨isForm_iff.mpr ⟨m, read_ofValue.mp h⟩, m, rfl⟩
    | error fault => exact .inr ⟨fun hform => (isForm_iff.mp hform).elim (hread fault h), fault, rfl⟩
  · rw [Source.read_eq_ok, read_parseChars]
    obtain ⟨root, trailing⟩ := Json.parseChars src
    exact Source.mk.injEq .. ▸ Iff.rfl

end Matching.StringMatcher

end StubServer
