import StubServer.Document.Reader
import StubServer.Proofs.Json.Literals

namespace StubServer.Json

open Document (Node Frame)

namespace Value

/-- The integers that fit a word, signed or not. -/
def fitsWord (i : Int) : Bool := -(1 <<< 63) ≤ i ∧ i ≤ wordMax

mutual

/-- There are no floats in the value, and its integers fit a word. -/
def isIntegral : Value → Bool
  | .number (.int i) => fitsWord i
  | .number (.float _) => false
  | .array items => areIntegral items
  | .object fields => fieldsAreIntegral fields
  | _ => true

def areIntegral : List Value → Bool
  | [] => true
  | v :: rest => isIntegral v && areIntegral rest

def fieldsAreIntegral : List (String × Value) → Bool
  | [] => true
  | (_, v) :: rest => isIntegral v && fieldsAreIntegral rest

end

mutual

/-- How many collections are around the innermost one, itself included. -/
def nesting : Value → Nat
  | .array items => itemsNesting items + 1
  | .object fields => fieldsNesting fields + 1
  | _ => 0

def itemsNesting : List Value → Nat
  | [] => 0
  | v :: rest => max (nesting v) (itemsNesting rest)

def fieldsNesting : List (String × Value) → Nat
  | [] => 0
  | (_, v) :: rest => max (nesting v) (fieldsNesting rest)

end

mutual

/-- The tree of a value inside `depth` collections, with the marks of the reader. -/
def nodeAt (depth : Nat) : Value → Node
  | .array items => .list (nodesAt (depth + 1) items) ⟨true, nestingLimit ≤ depth, none⟩
  | .object fields => .table (entriesAt (depth + 1) fields) ⟨true, nestingLimit ≤ depth, none⟩
  | v => .ofValue v

def nodesAt (depth : Nat) : List Value → List Node
  | [] => []
  | v :: rest => nodeAt depth v :: nodesAt depth rest

def entriesAt (depth : Nat) : List (String × Value) → List (Node × Node)
  | [] => []
  | (key, v) :: rest => (.text key, nodeAt depth v) :: entriesAt depth rest

end

def itemsText : Bool → List Value → List Char
  | false, v :: rest => ',' :: writeItems (v :: rest)
  | _, items => writeItems items

def fieldsText : Bool → List (String × Value) → List Char
  | false, field :: rest => ',' :: writeFields (field :: rest)
  | _, fields => writeFields fields

theorem itemsText_true (items : List Value) : itemsText true items = writeItems items := by
  cases items <;> rfl

theorem fieldsText_true (fields : List (String × Value)) :
    fieldsText true fields = writeFields fields := by
  cases fields <;> rfl

theorem writeItems_cons (v : Value) (rest : List Value) :
    writeItems (v :: rest) = v.write ++ itemsText false rest := by
  cases rest <;> rfl

theorem writeFields_cons (key : String) (v : Value) (rest : List (String × Value)) :
    writeFields ((key, v) :: rest) = writeString key ++ ':' :: (v.write ++ fieldsText false rest) := by
  cases rest <;> simp [writeFields, fieldsText]

theorem length_writeItems_le (isFirst : Bool) (items : List Value) :
    (writeItems items).length ≤ (itemsText isFirst items).length := by
  cases isFirst <;> cases items <;> simp [itemsText]

theorem length_writeFields_le (isFirst : Bool) (fields : List (String × Value)) :
    (writeFields fields).length ≤ (fieldsText isFirst fields).length := by
  cases isFirst <;> cases fields <;> simp [fieldsText]

theorem length_itemsText_pos (items : List Value) : 0 < (itemsText false items).length := by
  cases items <;> exact Nat.succ_pos _

end Value

section Reading

variable {fuel depth : Nat} {rest : Chars}

theorem readValue_writeString (s : String) :
    readValue (fuel + 1) depth ((writeString s).map some ++ rest) = (.text s, some rest) := by
  have hlist : (writeString s).map some ++ rest =
      some '"' :: ((s.toList.flatMap escapeChar).map some ++ some '"' :: rest) := by simp [writeString]
  have hread : readValue (fuel + 1) depth
      (some '"' :: ((s.toList.flatMap escapeChar).map some ++ some '"' :: rest)) =
      orBroken (readString .plain ⟨[], none, false⟩ ((s.toList.flatMap escapeChar).map some ++
        some '"' :: rest)) := by
    simp [readValue, skipBlanks, isJsonBlank]
  rw [hlist, hread, readString_literal, orBroken]

theorem readValue_digit {c : Char} (hc : c.isDigit) :
    readValue (fuel + 1) depth (some c :: rest) = orBroken (readNumber false (some c :: rest)) := by
  have hne (other : Char) (hother : other.isDigit = false) : c ≠ other := by
    rintro rfl
    exact absurd hc (by simp [hother])
  simp [readValue, skipBlanks, isJsonBlank, hc, hne ' ' rfl, hne '\n' rfl, hne '\t' rfl,
    hne '\r' rfl, hne '\x7b' rfl, hne '[' rfl, hne '"' rfl, hne '-' rfl]

theorem readValue_writeInt {i : Int} (hi : Value.fitsWord i) (hrest : Delimited rest) :
    readValue (fuel + 1) depth ((writeInt i).map some ++ rest) = (.int i, some rest) := by
  obtain ⟨hlow, hhigh⟩ : -(1 <<< 63) ≤ i ∧ i ≤ wordMax := of_decide_eq_true hi
  rw [writeInt]
  split
  case isTrue hneg =>
    have hword : i.natAbs ≤ 1 <<< 63 := by omega
    have hofWord : ofWord true i.natAbs = .int i := by
      rw [ofWord, if_neg (by decide), if_neg (by omega)]
      congr 1
      omega
    have hread : readValue (fuel + 1) depth (some '-' :: ((Nat.toDigits 10 i.natAbs).map some ++ rest)) =
        orBroken (readNumber true ((Nat.toDigits 10 i.natAbs).map some ++ rest)) := by
      simp [readValue, skipBlanks, isJsonBlank]
    rw [List.map_cons, List.cons_append, hread,
      readNumber_toDigits (Nat.le_trans hword (by decide)) hrest hofWord, orBroken]
  case isFalse hpos =>
    have hofWord : ofWord false i.toNat = .int i := by
      rw [ofWord, if_pos (by decide), Int.toNat_of_nonneg (Int.not_lt.mp hpos)]
    obtain ⟨c, cs, hcs, hc⟩ := exists_toDigits_eq_cons i.toNat
    have hnumber := readNumber_toDigits (n := i.toNat) (by omega) hrest hofWord
    rw [hcs, List.map_cons, List.cons_append] at hnumber ⊢
    rw [readValue_digit hc, hnumber, orBroken]

theorem delimited_cons {c : Char} (hc : c = ',' ∨ c = ']' ∨ c = '\x7d') :
    Delimited (some c :: rest) := by
  intro d hd
  obtain rfl := Option.mem_some.mp hd
  simpa using hc

theorem skipBlanks_cons {c : Char} (hc : isJsonBlank (some c) = false) :
    skipBlanks (some c :: rest) = some c :: rest := by
  rw [skipBlanks, List.dropWhile_cons_of_neg (by simp [hc])]

theorem delimited_itemsText (items : List Value) (rest : Chars) :
    Delimited ((Value.itemsText false items).map some ++ rest) := by
  cases items <;> exact delimited_cons (by simp)

theorem delimited_fieldsText (fields : List (String × Value)) (rest : Chars) :
    Delimited ((Value.fieldsText false fields).map some ++ rest) := by
  cases fields <;> exact delimited_cons (by simp)

theorem exists_write_eq_cons {v : Value} (hv : v.isIntegral) :
    ∃ c cs, v.write = c :: cs ∧ isJsonBlank (some c) = false ∧ c ≠ ']' := by
  cases v with
  | number n =>
    cases n with
    | int i =>
      by_cases hneg : i < 0
      · exact ⟨'-', _, by rw [Value.write, Number.write, writeInt, if_pos hneg], rfl, by decide⟩
      · obtain ⟨c, cs, hcs, hc⟩ := exists_toDigits_eq_cons i.toNat
        refine ⟨c, cs, by rw [Value.write, Number.write, writeInt, if_neg hneg, hcs], ?_, ?_⟩
        · simp only [isJsonBlank, Option.some.injEq, Bool.or_eq_false_iff, decide_eq_false_iff_not]
          refine ⟨⟨⟨?_, ?_⟩, ?_⟩, ?_⟩ <;> rintro rfl <;> exact absurd hc (by decide)
        · rintro rfl
          exact absurd hc (by decide)
    | float x => cases hv
  | bool b => cases b <;> exact ⟨_, _, rfl, rfl, by decide⟩
  | null | string s | array items | object fields => exact ⟨_, _, rfl, rfl, by decide⟩

theorem length_write_pos {v : Value} (hv : v.isIntegral) : 0 < v.write.length := by
  obtain ⟨c, cs, hcs, -, -⟩ := exists_write_eq_cons hv
  rw [hcs, List.length_cons]
  exact Nat.succ_pos _

theorem readItems_cons {isFirst : Bool} {v : Value} {items : List Value} (hv : v.isIntegral) :
    readItems (fuel + 1) depth isFirst ((Value.itemsText isFirst (v :: items)).map some ++ rest) =
      readItem fuel depth ((Value.writeItems (v :: items)).map some ++ rest) := by
  obtain ⟨c, cs, hcs, hblank, hclose⟩ := exists_write_eq_cons hv
  have hcomma : isJsonBlank (some ',') = false := rfl
  have hitems : Value.writeItems (v :: items) = c :: (cs ++ Value.itemsText false items) := by
    rw [Value.writeItems_cons, hcs, List.cons_append]
  cases isFirst <;>
    simp [Value.itemsText, readItems, hitems, skipBlanks_cons hblank, skipBlanks_cons hcomma, hclose]

theorem readItem_writeItems {v : Value} {items : List Value} {node : Node} {nodes : List Node}
    (hv : v.isIntegral) (hvalue : readValue fuel depth (v.write.map some ++
      ((Value.itemsText false items).map some ++ rest)) =
      (node, some ((Value.itemsText false items).map some ++ rest)))
    (hmore : readItems fuel depth false ((Value.itemsText false items).map some ++ rest) =
      (nodes, some rest)) :
    readItem (fuel + 1) depth ((Value.writeItems (v :: items)).map some ++ rest) =
      (node :: nodes, some rest) := by
  obtain ⟨c, cs, hcs, -, -⟩ := exists_write_eq_cons hv
  rw [Value.writeItems_cons, List.map_append, List.append_assoc, readItem, hvalue]
  · simp [hmore]
  · simp [hcs]

theorem readEntries_cons {isFirst : Bool} {key : String} {v : Value} {fields : List (String × Value)} :
    readEntries (fuel + 1) depth isFirst
      ((Value.fieldsText isFirst ((key, v) :: fields)).map some ++ rest) =
      readEntry fuel depth ((key.toList.flatMap escapeChar).map some ++ some '"' :: some ':' ::
        (v.write.map some ++ ((Value.fieldsText false fields).map some ++ rest))) := by
  have hquote : isJsonBlank (some '"') = false := rfl
  have hcomma : isJsonBlank (some ',') = false := rfl
  cases isFirst <;>
    simp [Value.fieldsText, readEntries, Value.writeFields_cons, writeString, skipBlanks_cons hquote,
      skipBlanks_cons hcomma]

theorem readEntry_writeFields {key : String} {v : Value} {src : Chars} {node : Node}
    {entries : List (Node × Node)}
    (hvalue : readValue fuel depth (v.write.map some ++ src) = (node, some src))
    (hmore : readEntries fuel depth false src = (entries, some rest)) :
    readEntry (fuel + 1) depth
        ((key.toList.flatMap escapeChar).map some ++ some '"' :: some ':' :: (v.write.map some ++ src)) =
      ((.text key, node) :: entries, some rest) := by
  have hcolon : isJsonBlank (some ':') = false := rfl
  rw [readEntry, readString_literal]
  simp [skipBlanks_cons hcolon, hvalue, hmore]

theorem readValue_list : readValue (fuel + 1) depth (some '[' :: rest) =
    (.list (readItems fuel (depth + 1) true rest).1
      ⟨(readItems fuel (depth + 1) true rest).2.isSome, nestingLimit ≤ depth, none⟩,
      (readItems fuel (depth + 1) true rest).2) := by
  simp [readValue, skipBlanks, isJsonBlank]

theorem readValue_table : readValue (fuel + 1) depth (some '\x7b' :: rest) =
    (.table (readEntries fuel (depth + 1) true rest).1
      ⟨(readEntries fuel (depth + 1) true rest).2.isSome, nestingLimit ≤ depth, none⟩,
      (readEntries fuel (depth + 1) true rest).2) := by
  simp [readValue, skipBlanks, isJsonBlank]

mutual

theorem readValue_write (v : Value) {fuel depth : Nat} {rest : Chars} (hv : v.isIntegral)
    (hfuel : 3 * v.write.length ≤ fuel) (hrest : Delimited rest) :
    readValue fuel depth (v.write.map some ++ rest) = (v.nodeAt depth, some rest) := by
  have hpos := length_write_pos hv
  obtain ⟨fuel, rfl⟩ := Nat.exists_eq_add_of_le' (show 1 ≤ fuel by omega)
  match v with
  | .null =>
    simp [Value.write, readValue, skipBlanks, isJsonBlank, readWord, orBroken, Value.nodeAt,
      Node.ofValue]
  | .bool true =>
    simp [Value.write, readValue, skipBlanks, isJsonBlank, readWord, orBroken, Value.nodeAt,
      Node.ofValue]
  | .bool false =>
    simp [Value.write, readValue, skipBlanks, isJsonBlank, readWord, orBroken, Value.nodeAt,
      Node.ofValue]
  | .string s => exact readValue_writeString s
  | .number (.int i) => exact readValue_writeInt hv hrest
  | .number (.float x) => cases hv
  | .array items =>
    rw [Value.write, List.length_cons] at hfuel
    have hitems : readItems fuel (depth + 1) true ((Value.itemsText true items).map some ++ rest) = _ :=
      readItems_itemsText items true hv (by rw [Value.itemsText_true]; omega)
    rw [Value.itemsText_true] at hitems
    rw [Value.write, List.map_cons, List.cons_append, readValue_list, hitems, Option.isSome_some,
      Value.nodeAt]
  | .object fields =>
    rw [Value.write, List.length_cons] at hfuel
    have hfields :
        readEntries fuel (depth + 1) true ((Value.fieldsText true fields).map some ++ rest) = _ :=
      readEntries_fieldsText fields true hv (by rw [Value.fieldsText_true]; omega)
    rw [Value.fieldsText_true] at hfields
    rw [Value.write, List.map_cons, List.cons_append, readValue_table, hfields, Option.isSome_some,
      Value.nodeAt]

theorem readItems_itemsText (items : List Value) (isFirst : Bool) {fuel depth : Nat} {rest : Chars}
    (hitems : Value.areIntegral items) (hfuel : 3 * (Value.itemsText isFirst items).length ≤ fuel) :
    readItems fuel depth isFirst ((Value.itemsText isFirst items).map some ++ rest) =
      (Value.nodesAt depth items, some rest) := by
  have hlen := Value.length_writeItems_le isFirst items
  match items with
  | [] =>
    obtain ⟨fuel, rfl⟩ :=
      Nat.exists_eq_add_of_le' (show 1 ≤ fuel by simp [Value.writeItems] at hlen; omega)
    cases isFirst <;> simp [Value.itemsText, Value.writeItems, readItems, skipBlanks, isJsonBlank,
      Value.nodesAt]
  | v :: items =>
    obtain ⟨hv, hitems⟩ := Bool.and_eq_true_iff.mp hitems
    rw [Value.writeItems_cons, List.length_append] at hlen
    have hpos := length_write_pos hv
    have hmorePos := Value.length_itemsText_pos items
    obtain ⟨fuel, rfl⟩ := Nat.exists_eq_add_of_le' (show 2 ≤ fuel by omega)
    have hvalue : readValue fuel depth _ = _ :=
      readValue_write v hv (by omega) (delimited_itemsText items rest)
    have hmore : readItems fuel depth false _ = (_, some rest) :=
      readItems_itemsText items false hitems (by omega)
    rw [readItems_cons hv, readItem_writeItems hv hvalue hmore, Value.nodesAt]

theorem readEntries_fieldsText (fields : List (String × Value)) (isFirst : Bool) {fuel depth : Nat}
    {rest : Chars} (hfields : Value.fieldsAreIntegral fields)
      (hfuel : 3 * (Value.fieldsText isFirst fields).length ≤ fuel) :
    readEntries fuel depth isFirst ((Value.fieldsText isFirst fields).map some ++ rest) =
      (Value.entriesAt depth fields, some rest) := by
  have hlen := Value.length_writeFields_le isFirst fields
  match fields with
  | [] =>
    obtain ⟨fuel, rfl⟩ :=
      Nat.exists_eq_add_of_le' (show 1 ≤ fuel by simp [Value.writeFields] at hlen; omega)
    cases isFirst <;> simp [Value.fieldsText, Value.writeFields, readEntries, skipBlanks,
      isJsonBlank, Value.entriesAt]
  | (key, v) :: fields =>
    obtain ⟨hv, hfields⟩ := Bool.and_eq_true_iff.mp hfields
    rw [Value.writeFields_cons, List.length_append, List.length_cons, List.length_append] at hlen
    obtain ⟨fuel, rfl⟩ := Nat.exists_eq_add_of_le' (show 2 ≤ fuel by omega)
    have hvalue : readValue fuel depth _ = _ :=
      readValue_write v hv (by omega) (delimited_fieldsText fields rest)
    have hmore : readEntries fuel depth false _ = (_, some rest) :=
      readEntries_fieldsText fields false hfields (by omega)
    rw [readEntries_cons, readEntry_writeFields hvalue hmore, Value.entriesAt]

end

end Reading

/-- The text of a value is the document of that value, and nothing else. -/
theorem parse_text_eq {v : Value} (hv : v.isIntegral) : parse v.text = ⟨v.nodeAt 0, false⟩ := by
  have hread : readValue (3 * v.write.length + 3) 0 (v.write.map some ++ []) = (v.nodeAt 0, some []) :=
    readValue_write v hv (by omega) nofun
  rw [List.append_nil] at hread
  rw [Value.text, parse, parseChars, String.toList_ofList, List.length_map, hread]
  rfl

theorem frame_whole {depth : Nat} (h : depth < nestingLimit) :
    (⟨true, nestingLimit ≤ depth, none⟩ : Frame) = .whole := by
  simp [Frame.whole, h]

namespace Value

mutual

theorem nodeAt_eq_ofValue (v : Value) {depth : Nat} (h : depth + v.nesting ≤ nestingLimit) :
    v.nodeAt depth = .ofValue v := by
  match v with
  | .null | .bool _ | .number _ | .string _ => rfl
  | .array items =>
    rw [nesting] at h
    rw [nodeAt, nodesAt_eq_ofValues items (by omega), frame_whole (by omega), Node.ofValue]
  | .object fields =>
    rw [nesting] at h
    rw [nodeAt, entriesAt_eq_ofFields fields (by omega), frame_whole (by omega), Node.ofValue]

theorem nodesAt_eq_ofValues (items : List Value) {depth : Nat}
    (h : depth + itemsNesting items ≤ nestingLimit) :
    nodesAt depth items = Node.ofValues items := by
  match items with
  | [] => rfl
  | v :: items =>
    rw [itemsNesting] at h
    rw [nodesAt, nodeAt_eq_ofValue v (by omega), nodesAt_eq_ofValues items (by omega), Node.ofValues]

theorem entriesAt_eq_ofFields (fields : List (String × Value)) {depth : Nat}
    (h : depth + fieldsNesting fields ≤ nestingLimit) :
    entriesAt depth fields = Node.ofFields fields := by
  match fields with
  | [] => rfl
  | (key, v) :: fields =>
    rw [fieldsNesting] at h
    rw [entriesAt, nodeAt_eq_ofValue v (by omega), entriesAt_eq_ofFields fields (by omega),
      Node.ofFields]

end

mutual

theorem eq_of_nodeAt (v w : Value) {depth : Nat} (h : v.nodeAt depth = w.nodeAt depth) : v = w := by
  match v with
  | .array items =>
    cases w with
    | array others =>
      rw [nodeAt, nodeAt, Node.list.injEq] at h
      exact congrArg array (eq_of_nodesAt items others h.1)
    | number n => cases n <;> cases h
    | null | bool | string | object => cases h
  | .object fields =>
    cases w with
    | object others =>
      rw [nodeAt, nodeAt, Node.table.injEq] at h
      exact congrArg object (eq_of_entriesAt fields others h.1)
    | number n => cases n <;> cases h
    | null | bool | string | array => cases h
  | .null | .bool _ | .string _ | .number (.int _) | .number (.float _) =>
    cases w with
    | number n =>
      cases n with
      | int | float =>
        cases h <;> rfl
    | null | bool | string | array | object => cases h <;> rfl

theorem eq_of_nodesAt (items others : List Value) {depth : Nat}
    (h : nodesAt depth items = nodesAt depth others) :
    items = others := by
  match items, others with
  | [], [] => rfl
  | [], _ :: _ | _ :: _, [] => cases h
  | v :: items, w :: others =>
    rw [nodesAt, nodesAt, List.cons.injEq] at h
    rw [eq_of_nodeAt v w h.1, eq_of_nodesAt items others h.2]

theorem eq_of_entriesAt (fields others : List (String × Value)) {depth : Nat}
    (h : entriesAt depth fields = entriesAt depth others) : fields = others := by
  match fields, others with
  | [], [] => rfl
  | [], _ :: _ | _ :: _, [] => cases h
  | (key, v) :: fields, (key', w) :: others =>
    rw [entriesAt, entriesAt, List.cons.injEq, Prod.mk.injEq, Node.text.injEq] at h
    obtain ⟨⟨rfl, hvalue⟩, hrest⟩ := h
    rw [eq_of_nodeAt v w hvalue, eq_of_entriesAt fields others hrest]

end

theorem eq_of_text {v w : Value} (hv : v.isIntegral) (hw : w.isIntegral) (h : v.text = w.text) :
    v = w := by
  have hparse := parse_text_eq hw
  rw [← h, parse_text_eq hv] at hparse
  exact eq_of_nodeAt v w (congrArg Document.Source.root hparse)

end Value

theorem parse_text {v : Value} (hv : v.isIntegral) (hdepth : v.nesting ≤ nestingLimit) :
    parse v.text = ⟨.ofValue v, false⟩ := by
  rw [parse_text_eq hv, v.nodeAt_eq_ofValue (by omega)]

end StubServer.Json
