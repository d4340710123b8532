import StubServer.Proofs.Document.RoundTrip
import StubServer.Proofs.Json.RoundTrip

namespace StubServer.Json

open Document (Node)

namespace Value
mutual

theorem exists_readValue (v : Value) : ∃ a, (Node.ofValue v).readValue = .ok a := by
  match v with
  | .null | .bool _ | .number (.int _) | .number (.float _) | .string _ => exact ⟨_, rfl⟩
  | .array items =>
    obtain ⟨made, hmade⟩ := exists_readValues items
    refine ⟨.array made, ?_⟩
    rw [Node.ofValue, Node.readValue, hmade]
    rfl
  | .object fields =>
    obtain ⟨made, hmade⟩ := exists_readFields fields
    refine ⟨.ofFields made, ?_⟩
    rw [Node.ofValue, Node.readValue, hmade]
    rfl

theorem exists_readValues (items : List Value) : ∃ made,
    Node.readValues (Node.ofValues items) = .ok made := by
  match items with
  | [] => exact ⟨[], rfl⟩
  | v :: items =>
    obtain ⟨a, ha⟩ := exists_readValue v
    obtain ⟨made, hmade⟩ := exists_readValues items
    refine ⟨a :: made, ?_⟩
    rw [Node.ofValues, Node.readValues, ha, hmade]
    rfl

theorem exists_readFields (fields : List (String × Value)) :
    ∃ made, Node.readFields (Node.ofFields fields) = .ok made := by
  match fields with
  | [] => exact ⟨[], rfl⟩
  | (key, v) :: fields =>
    obtain ⟨a, ha⟩ := exists_readValue v
    obtain ⟨made, hmade⟩ := exists_readFields fields
    refine ⟨(key, a) :: made, ?_⟩
    rw [Node.ofFields, Node.readFields, Node.readText, ha, hmade]
    rfl

end

theorem readValue_listAt (items : List Value) (depth : Nat) : (nodeAt depth (.array items)).readValue =
    if nestingLimit ≤ depth then .error .illFormed
      else array <$> Node.readValues (nodesAt (depth + 1) items) := by
  rw [nodeAt, Node.readValue, Node.checkDepth]
  by_cases h : nestingLimit ≤ depth
  · rw [if_pos h, if_pos (decide_eq_true h)]
    rfl
  · rw [if_neg h, if_neg (by simpa using h)]
    rfl

theorem readValue_tableAt (fields : List (String × Value)) (depth : Nat) :
    (nodeAt depth (.object fields)).readValue = if nestingLimit ≤ depth then .error .illFormed
      else ofFields <$> Node.readFields (entriesAt (depth + 1) fields) := by
  rw [nodeAt, Node.readValue, Node.checkDepth]
  by_cases h : nestingLimit ≤ depth
  · rw [if_pos h, if_pos (decide_eq_true h)]
    rfl
  · rw [if_neg h, if_neg (by simpa using h)]
    rfl

mutual

theorem readValue_tooDeep (v : Value) {depth : Nat} (hdepth : depth ≤ nestingLimit)
    (h : nestingLimit < depth + v.nesting) : (v.nodeAt depth).readValue = .error .illFormed := by
  match v with
  | .null | .bool _ | .number _ | .string _ => exact absurd hdepth (Nat.not_le.mpr h)
  | .array items =>
    rw [nesting] at h
    rw [readValue_listAt]
    split
    · rfl
    · rw [readValues_tooDeep items (by omega) (by omega)]
      rfl
  | .object fields =>
    rw [nesting] at h
    rw [readValue_tableAt]
    split
    · rfl
    · rw [readFields_tooDeep fields (by omega) (by omega)]
      rfl

theorem readValues_tooDeep (items : List Value) {depth : Nat} (hdepth : depth ≤ nestingLimit)
    (h : nestingLimit < depth + itemsNesting items) :
    Node.readValues (nodesAt depth items) = .error .illFormed := by
  match items with
  | [] => exact absurd hdepth (Nat.not_le.mpr h)
  | v :: items =>
    rw [itemsNesting] at h
    rw [nodesAt, Node.readValues]
    by_cases hv : nestingLimit < depth + v.nesting
    · rw [readValue_tooDeep v hdepth hv]
      rfl
    · obtain ⟨a, ha⟩ := exists_readValue v
      rw [nodeAt_eq_ofValue v (by omega), ha, readValues_tooDeep items hdepth (by omega)]
      rfl

theorem readFields_tooDeep (fields : List (String × Value)) {depth : Nat} (hdepth : depth ≤ nestingLimit)
    (h : nestingLimit < depth + fieldsNesting fields) :
    Node.readFields (entriesAt depth fields) = .error .illFormed := by
  match fields with
  | [] => exact absurd hdepth (Nat.not_le.mpr h)
  | (key, v) :: fields =>
    rw [fieldsNesting] at h
    rw [entriesAt, Node.readFields, Node.readText]
    by_cases hv : nestingLimit < depth + v.nesting
    · rw [readValue_tooDeep v hdepth hv]
      rfl
    · obtain ⟨a, ha⟩ := exists_readValue v
      rw [nodeAt_eq_ofValue v (by omega), ha, readFields_tooDeep fields hdepth (by omega)]
      rfl

end
end Value

theorem read_text {v : Value} (hv : v.isIntegral) (htidy : v.IsTidy) :
    (parse v.text).read Node.readValue =
    if v.nesting ≤ nestingLimit then .ok v else .error .illFormed := by
  split
  · next hdepth =>
    have hread : (Node.ofValue v).readValue = .ok v :=
      Document.reads_value htidy v (Value.Reorders.refl v)
    rw [parse_text hv hdepth, Document.Source.read, hread]
    rfl
  · next hdepth =>
    rw [parse_text_eq hv, Document.Source.read, v.readValue_tooDeep (Nat.zero_le _) (by omega)]
    rfl

end StubServer.Json
