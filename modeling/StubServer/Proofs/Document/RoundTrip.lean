import StubServer.Document.Reader
import StubServer.Proofs.Json.Reordering
import StubServer.Proofs.Success

namespace StubServer.Document

open Json (Value FieldRel)

variable {α : Type}

namespace Node

theorem ofValues_eq_map (items : List Value) : ofValues items = items.map ofValue := by
  induction items with
  | nil => rfl
  | cons item rest ih => rw [ofValues, ih, List.map_cons]

mutual

theorem resolved_ofValue : ∀ v : Value, (ofValue v).resolved = .ok (ofValue v)
  | .null | .bool _ | .number (.int _) | .number (.float _) | .string _ => rfl
  | .array items => by
    rw [ofValue, resolved, allResolved_ofValues items]
    rfl
  | .object fields => by
    rw [ofValue, resolved, entriesResolved_ofFields fields]
    rfl

theorem allResolved_ofValues : ∀ items : List Value, allResolved (ofValues items) = .ok (ofValues items)
  | [] => rfl
  | item :: rest => by
    rw [ofValues, allResolved, resolved_ofValue item, allResolved_ofValues rest]
    rfl

theorem entriesResolved_ofFields : ∀ fields : List (String × Value),
    entriesResolved (ofFields fields) = .ok (ofFields fields)
  | [] => rfl
  | (key, v) :: rest => by
    rw [ofFields, entriesResolved, resolved_ofValue v, entriesResolved_ofFields rest]
    rfl

end

end Node

def Yields (read : Node → Except Fault α) (v : Value) (a : α) : Prop := read (.ofValue v) = .ok a

/-- The value reads as `a`, in whichever order the fields of its objects are. -/
def Reads (read : Node → Except Fault α) (v : Value) (a : α) : Prop :=
  ∀ w, w.Reorders v → Yields read w a

def Obtainable (read : Node → Except Fault α) (a : α) : Prop := ∃ v : Value, v.IsFinite ∧ Yields read v a

/-- Whatever can be read is read again from what it is written as. -/
def RoundTrips (read : Node → Except Fault α) (write : α → Value) : Prop :=
  ∀ a, Obtainable read a → Reads read (write a) a

variable {read : Node → Except Fault α} {write : α → Value}

theorem reads_text (s : String) : Reads Node.readText (.string s) s := by
  intro w hw
  cases hw
  rfl

theorem reads_bool (b : Bool) : Reads Node.readBool (.bool b) b := by
  intro w hw
  cases hw
  rfl

theorem roundTrips_text : RoundTrips Node.readText .string := fun s _ => reads_text s

theorem roundTrips_bool : RoundTrips Node.readBool .bool := fun b _ => reads_bool b

theorem yields_int {type : Node.IntType} {v : Value} {i : Int} :
    Yields (Node.readInt type) v i ↔ v = .number (.int i) ∧ type.low ≤ i ∧ i ≤ type.high := by
  constructor
  · intro h
    cases v with
    | number n =>
      cases n with
      | int j =>
        by_cases hrange : type.low ≤ j ∧ j ≤ type.high
        · cases (if_pos hrange).symm.trans h
          exact ⟨rfl, hrange⟩
        · cases (if_neg hrange).symm.trans h
      | float x => cases h
    | null | bool b | string s | array items | object fields => cases h
  · rintro ⟨rfl, hrange⟩
    exact if_pos hrange

theorem roundTrips_int (type : Node.IntType) : RoundTrips (Node.readInt type) fun i =>
  .number (.int i) := by
  rintro i ⟨v, -, hv⟩ w hw
  cases hw
  exact yields_int.mpr ⟨rfl, (yields_int.mp hv).2⟩

theorem roundTrips_nat (bits : Nat) : RoundTrips (Node.readNat bits) .ofNat := by
  rintro n ⟨v, hv, hn⟩ w hw
  obtain ⟨i, hi, rfl⟩ := map_eq_ok.mp hn
  have hlow : 0 ≤ i := (yields_int.mp hi).2.1
  rw [Value.ofNat, Int.toNat_of_nonneg hlow] at hw
  exact map_eq_ok.mpr ⟨i, roundTrips_int _ i ⟨v, hv, hi⟩ w hw, rfl⟩

theorem readVariant_text {known : List (String × α)} {name : String} {a : α}
    (h : known.lookup name = some a)
    (dialect : Dialect) : Reads (Node.readVariant known dialect) (.string name) a := by
  intro w hw
  cases hw
  have hnamed : variantNamed known name = .ok a := by rw [variantNamed, h]
  cases dialect <;> exact hnamed

theorem readOption_of_ne_null {v : Value} (h : v ≠ .null) :
    Node.readOption read (.ofValue v) = some <$> read (.ofValue v) := by
  cases v with
  | null => exact absurd rfl h
  | number n => cases n <;> rfl
  | bool b | string s | array items | object fields => rfl

/-- A value that is there is not written as null, or else it would be taken for a missing one. -/
theorem roundTrips_option (h : RoundTrips read write)
    (hnull : ∀ v a, v.IsFinite → Yields read v a → write a = .null → v = .null) :
    RoundTrips (Node.readOption read) fun a? => (a?.map write).getD .null := by
  rintro a? ⟨v, hv, hread⟩ w hw
  by_cases hnone : v = .null
  · subst hnone
    cases hread
    cases hw
    rfl
  · rw [Yields, readOption_of_ne_null hnone] at hread
    obtain ⟨a, ha, rfl⟩ := map_eq_ok.mp hread
    have hsome : w ≠ .null := fun he => hnone (hnull v a hv ha (hw.null_iff.mp he))
    rw [Yields, readOption_of_ne_null hsome]
    exact map_eq_ok.mpr ⟨a, h a ⟨v, hv, ha⟩ w hw, rfl⟩

theorem roundTrips_optionalText : RoundTrips (Node.readOption Node.readText) Value.ofText? := by
  have hwrite : Value.ofText? = fun s? => (s?.map Value.string).getD .null := by
    funext s?
    cases s? <;> rfl
  rw [hwrite]
  exact roundTrips_option roundTrips_text fun _ _ _ _ he => nomatch he

theorem yields_list {items : List Value} {as : List α} :
    Yields (Node.readList read) (.array items) as ↔ List.Forall₂ (Yields read) items as := by
  have hread : Node.readList read (.ofValue (.array items)) = (items.map Node.ofValue).mapM read := by
    rw [Node.ofValue, Node.ofValues_eq_map]
    exact bind_pure (m := Except Fault) _
  rw [Yields, hread, mapM_eq_ok, List.forall₂_map_left_iff]
  rfl

theorem roundTrips_list (h : RoundTrips read write) :
    RoundTrips (Node.readList read) fun as => .array (as.map write) := by
  rintro as ⟨v, hv, has⟩ w hw
  cases hv with
  | array hitems =>
    obtain ⟨items, rfl, hitems'⟩ := Value.reorders_array.mp hw
    rw [List.forall₂_map_right_iff] at hitems'
    refine yields_list.mpr (forall₂_of_forall_mem hitems' fun a ha u hu => ?_)
    obtain ⟨given, hgiven, hyields⟩ := exists_of_mem_right (yields_list.mp has) a ha
    exact h a ⟨given, hitems given hgiven, hyields⟩ u hu
  | null | bool b | int i | float h | string s | object h => cases has

theorem reads_fields {items : List (String × α)} (hasc : Value.Ascending items)
    (h : ∀ item ∈ items, Reads read (write item.2) item.2) {w : Value}
    (hw : w.Reorders (.object (items.map fun item => (item.1, write item.2)))) :
    ∃ fields made, w = .object fields ∧ List.Forall₂ (FieldRel (Yields read)) fields made ∧
      Value.gathered made [] = items := by
  obtain ⟨fields, moved, rfl, hperm, hmoved⟩ := Value.reorders_object.mp hw
  rw [List.forall₂_map_right_iff] at hmoved
  have hyields : List.Forall₂ (FieldRel (Yields read)) moved items :=
    forall₂_of_forall_mem hmoved fun item hitem field hfield => ⟨hfield.1, h item hitem field.2 hfield.2⟩
  obtain ⟨made, hmade, hmadePerm⟩ := List.perm_comp_forall₂ hperm hyields
  exact ⟨fields, made, rfl, hmade, Value.gathered_of_perm hasc hmadePerm⟩

theorem tableField_eq_ok {key : String} {v : Value} {done next : List (String × α)} :
    (do
      let key ← (Node.text key).readText
      return Value.putField key (← read (.ofValue v)) done) = Except.ok next ↔
      ∃ a, Yields read v a ∧ Value.putField key a done = next := by
  constructor
  · intro h
    obtain ⟨a, ha, h⟩ := bind_eq_ok.mp (show (read (.ofValue v) >>= _) = Except.ok next from h)
    cases h
    exact ⟨a, ha, rfl⟩
  · rintro ⟨a, ha, rfl⟩
    exact bind_eq_ok.mpr ⟨key, rfl, bind_eq_ok.mpr ⟨a, ha, rfl⟩⟩

theorem foldlM_fields {fields : List (String × Value)} {done items : List (String × α)} :
    (Node.ofFields fields).foldlM (fun done (key, node) => do
        let key ← key.readText
        return Value.putField key (← read node) done) done = Except.ok items ↔
      ∃ made, List.Forall₂ (FieldRel (Yields read)) fields made ∧ Value.gathered made done = items := by
  induction fields generalizing done with
  | nil =>
    simp only [Node.ofFields, List.foldlM_nil, List.forall₂_nil_left_iff, exists_eq_left]
    exact ⟨fun h => Except.ok.inj h, fun h => congrArg Except.ok h⟩
  | cons field rest ih =>
    rw [Node.ofFields, List.foldlM_cons, bind_eq_ok]
    simp only [tableField_eq_ok, ih, List.forall₂_cons_left_iff]
    constructor
    · rintro ⟨next, ⟨a, ha, rfl⟩, made, hmade, rfl⟩
      exact ⟨(field.1, a) :: made, ⟨_, made, ⟨rfl, ha⟩, hmade, rfl⟩, rfl⟩
    · rintro ⟨_, ⟨⟨key, a⟩, made, ⟨hkey, ha⟩, hmade, rfl⟩, rfl⟩
      exact ⟨_, ⟨a, ha, rfl⟩, made, hmade, congrArg (fun key =>
        Value.gathered made (Value.putField key a done)) hkey⟩

theorem yields_table {fields : List (String × Value)} {items : List (String × α)} :
    Yields (Node.readTable read) (.object fields) items ↔
      ∃ made, List.Forall₂ (FieldRel (Yields read)) fields made ∧ Value.gathered made [] = items := by
  rw [← foldlM_fields]
  exact iff_of_eq (congrArg (· = _) (bind_pure (m := Except Fault) _))

theorem roundTrips_table (h : RoundTrips read write) :
    RoundTrips (Node.readTable read) fun items =>
      .object (items.map fun item => (item.1, write item.2)) := by
  rintro items ⟨v, hv, hitems⟩ w hw
  cases hv with
  | object hfields =>
    obtain ⟨made, hmade, rfl⟩ := yields_table.mp hitems
    have hagain : ∀ item ∈ Value.gathered made [], Reads read (write item.2) item.2 := by
      intro item hitem
      have hitem : item ∈ made := (Value.mem_gathered hitem).resolve_right List.not_mem_nil
      obtain ⟨field, hfield, -, hyields⟩ := exists_of_mem_right hmade item hitem
      exact h item.2 ⟨field.2, hfields field hfield, hyields⟩
    obtain ⟨fields, made', rfl, hmade', hsame⟩ :=
      reads_fields (Value.ascending_gathered made List.Pairwise.nil) hagain hw
    exact yields_table.mpr ⟨made', hmade', hsame⟩
  | null | bool b | int i | float h | string s | array h => cases hitems

theorem readValues_ofValues {items made : List Value} :
    Node.readValues (Node.ofValues items) = .ok made ↔
      List.Forall₂ (Yields Node.readValue) items made := by
  induction items generalizing made with
  | nil =>
    rw [Node.ofValues, Node.readValues, List.forall₂_nil_left_iff]
    exact ⟨fun h => (Except.ok.inj h).symm, fun h => congrArg Except.ok h.symm⟩
  | cons item rest ih =>
    rw [Node.ofValues, Node.readValues, bind_eq_ok, List.forall₂_cons_left_iff]
    constructor
    · rintro ⟨first, hfirst, h⟩
      obtain ⟨more, hmore, h⟩ := bind_eq_ok.mp h
      cases h
      exact ⟨first, more, hfirst, ih.mp hmore, rfl⟩
    · rintro ⟨first, more, hfirst, hmore, rfl⟩
      exact ⟨first, hfirst, bind_eq_ok.mpr ⟨more, ih.mpr hmore, rfl⟩⟩

theorem readFields_ofFields {fields made : List (String × Value)} :
    Node.readFields (Node.ofFields fields) = .ok made ↔
      List.Forall₂ (FieldRel (Yields Node.readValue)) fields made := by
  induction fields generalizing made with
  | nil =>
    rw [Node.ofFields, Node.readFields, List.forall₂_nil_left_iff]
    exact ⟨fun h => (Except.ok.inj h).symm, fun h => congrArg Except.ok h.symm⟩
  | cons field rest ih =>
    rw [Node.ofFields, Node.readFields, bind_eq_ok, List.forall₂_cons_left_iff]
    constructor
    · rintro ⟨key, hkey, h⟩
      obtain ⟨value, hvalue, h⟩ := bind_eq_ok.mp h
      obtain ⟨more, hmore, h⟩ := bind_eq_ok.mp h
      cases h
      cases hkey
      exact ⟨(field.1, value), more, ⟨rfl, hvalue⟩, ih.mp hmore, rfl⟩
    · rintro ⟨⟨key, value⟩, more, ⟨hkey, hvalue⟩, hmore, rfl⟩
      exact ⟨key, congrArg Except.ok hkey,
        bind_eq_ok.mpr ⟨value, hvalue, bind_eq_ok.mpr ⟨more, ih.mpr hmore, rfl⟩⟩⟩

theorem yields_array {items : List Value} {a : Value} :
    Yields Node.readValue (.array items) a ↔
      ∃ made, List.Forall₂ (Yields Node.readValue) items made ∧ a = .array made := by
  have hread : Node.readValue (.ofValue (.array items)) =
    Value.array <$> Node.readValues (Node.ofValues items) := rfl
  rw [Yields, hread, map_eq_ok]
  simp only [readValues_ofValues, eq_comm (a := a)]

theorem yields_object {fields : List (String × Value)} {a : Value} :
    Yields Node.readValue (.object fields) a ↔
      ∃ made, List.Forall₂ (FieldRel (Yields Node.readValue)) fields made ∧
        a = .object (Value.gathered made []) := by
  have hread : Node.readValue (.ofValue (.object fields)) =
    Value.ofFields <$> Node.readFields (Node.ofFields fields) :=
    rfl
  rw [Yields, hread, map_eq_ok]
  simp only [readFields_ofFields, eq_comm (a := a)]
  rfl

theorem isTidy_of_yields {v : Value} (hv : v.IsFinite) :
    ∀ a, Yields Node.readValue v a → a.IsTidy ∧ (a = .null → v = .null) := by
  induction hv with
  | null =>
    intro a h
    cases h
    exact ⟨.null, fun _ => rfl⟩
  | bool b =>
    intro a h
    cases h
    exact ⟨.bool b, fun he => nomatch he⟩
  | int i =>
    intro a h
    cases h
    exact ⟨.int i, fun he => nomatch he⟩
  | @float x hx =>
    intro a h
    rw [Yields, Node.ofValue, Node.readValue, if_pos hx] at h
    cases h
    exact ⟨.float hx, fun he => nomatch he⟩
  | string s =>
    intro a h
    cases h
    exact ⟨.string s, fun he => nomatch he⟩
  | array hitems ih =>
    intro a h
    obtain ⟨made, hmade, rfl⟩ := yields_array.mp h
    refine ⟨.array fun value hvalue => ?_, fun he => nomatch he⟩
    obtain ⟨item, hitem, hyields⟩ := exists_of_mem_right hmade value hvalue
    exact (ih item hitem value hyields).1
  | object hfields ih =>
    intro a h
    obtain ⟨made, hmade, rfl⟩ := yields_object.mp h
    refine ⟨.object (Value.ascending_gathered made List.Pairwise.nil) fun value hvalue => ?_,
      fun he => nomatch he⟩
    have hvalue : value ∈ made := (Value.mem_gathered hvalue).resolve_right List.not_mem_nil
    obtain ⟨field, hfield, -, hyields⟩ := exists_of_mem_right hmade value hvalue
    exact (ih field hfield value.2 hyields).1

theorem reads_value {a : Value} (ha : a.IsTidy) : Reads Node.readValue a a := by
  induction ha with
  | null | bool b | int i | string s =>
    intro w hw
    cases hw
    rfl
  | float hx =>
    intro w hw
    cases hw
    rw [Yields, Node.ofValue, Node.readValue, if_pos hx]
  | array hitems ih =>
    intro w hw
    obtain ⟨items, rfl, hitems'⟩ := Value.reorders_array.mp hw
    exact yields_array.mpr ⟨_, forall₂_of_forall_mem hitems' fun a ha u hu => ih a ha u hu, rfl⟩
  | @object fields hasc hfields ih =>
    intro w hw
    have hsame : fields.map (fun field => (field.1, id field.2)) = fields := List.map_id fields
    rw [← hsame] at hw
    obtain ⟨given, made, rfl, hmade, hgathered⟩ := reads_fields hasc ih hw
    exact yields_object.mpr ⟨made, hmade, hgathered ▸ rfl⟩

theorem roundTrips_value : RoundTrips Node.readValue id :=
  fun a ⟨_, hv, ha⟩ => reads_value (isTidy_of_yields hv a ha).1

theorem obtainable_missing : Obtainable (Node.readOption read) none := ⟨.null, .null, rfl⟩

theorem obtainable_nil : Obtainable (Node.readList read) [] :=
  ⟨.array [], .array (List.forall_mem_nil _), rfl⟩

theorem obtainable_emptyTable : Obtainable (Node.readTable read) [] :=
  ⟨.object [], .object (List.forall_mem_nil _), rfl⟩

theorem obtainable_bool (b : Bool) : Obtainable Node.readBool b := ⟨.bool b, .bool b, rfl⟩

theorem obtainable_text (s : String) : Obtainable Node.readText s := ⟨.string s, .string s, rfl⟩

theorem obtainable_zero (bits : Nat) : Obtainable (Node.readNat bits) 0 := by
  refine ⟨.number (.int 0), .int 0, map_eq_ok.mpr ⟨0, yields_int.mpr ⟨rfl, Int.le_refl 0, ?_⟩, rfl⟩⟩
  exact Int.natCast_nonneg _

end StubServer.Document
