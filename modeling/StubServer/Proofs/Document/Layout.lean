import Mathlib.Data.List.Pairwise
import StubServer.Proofs.Document.RoundTrip

namespace StubServer.Document

open Json (Value FieldRel forall₂_fieldRel)

/-- A field of a record, as it is read, kept and written. It may be left out when it is written. -/
structure Slot (ρ : Type) where
  {α : Type}
  name : String
  read : Node → Except Fault α
  get : ρ → α
  set : α → ρ → ρ
  write : α → Option Value

namespace Slot

variable {ρ : Type}

def field (p : Slot ρ) : Field ρ := .optional p.name p.read p.set

def entry (p : Slot ρ) (r : ρ) : Option (String × Value) := (p.write (p.get r)).map (p.name, ·)

def always {α : Type} (name : String) (read : Node → Except Fault α) (get : ρ → α) (set : α → ρ → ρ)
    (write : α → Value) : Slot ρ := ⟨name, read, get, set, fun a => some (write a)⟩

def ifSet {α : Type} (name : String) (read : Node → Except Fault α) (get : ρ → Option α)
    (set : Option α → ρ → ρ)
    (write : α → Value) : Slot ρ := ⟨name, Node.readOption read, get, set, Option.map write⟩

@[mk_iff]
structure Apart (p q : Slot ρ) : Prop where
  name_ne : p.name ≠ q.name
  get_set : ∀ a r, q.get (p.set a r) = q.get r
  get_set' : ∀ a r, p.get (q.set a r) = p.get r

instance : Std.Symm (@Slot.Apart ρ) := ⟨fun _ _ h => ⟨h.name_ne.symm, h.get_set', h.get_set⟩⟩

/-- What is read into the field comes out of it, and is read again from what it is written as; it is
left out only where it is what it is in the blank record. -/
structure Lawful (p : Slot ρ) (blank : ρ) : Prop where
  get_set : ∀ a r, p.get (p.set a r) = a
  initial : Obtainable p.read (p.get blank)
  reads : ∀ a v, Obtainable p.read a → p.write a = some v → Reads p.read v a
  left_out : ∀ a, p.write a = none → a = p.get blank

section

variable {α : Type} {name : String} {read : Node → Except Fault α} {write : α → Value} {blank : ρ}

theorem lawful_always {get : ρ → α} {set : α → ρ → ρ} (hset : ∀ a r, get (set a r) = a)
    (hinitial : Obtainable read (get blank)) (h : RoundTrips read write) :
    (always name read get set write).Lawful blank where
  get_set := hset
  initial := hinitial
  reads a v ha hv := by
    cases hv
    exact h a ha
  left_out a ha := nomatch ha

theorem lawful_ifSet {get : ρ → Option α} {set : Option α → ρ → ρ} (hset : ∀ a r, get (set a r) = a)
    (hblank : get blank = none) (h : RoundTrips read write) (hnull : ∀ a, write a ≠ .null) :
    (ifSet name read get set write).Lawful blank where
  get_set := hset
  initial := ⟨.null, .null, congrArg Except.ok hblank.symm⟩
  reads a? v ha hv := by
    obtain ⟨a, rfl, rfl⟩ := Option.map_eq_some_iff.mp hv
    exact roundTrips_option h (fun _ a _ _ he => absurd he (hnull a)) (some a) ha
  left_out a? ha := (Option.map_eq_none_iff.mp ha).trans hblank.symm

end

end Slot

namespace Schema

variable {ρ : Type} {schema : Schema ρ} {slots : List (Slot ρ)}

def entries (slots : List (Slot ρ)) (r : ρ) : List (String × Value) :=
  slots.flatMap fun p => (p.entry r).toList

theorem mem_entries {r : ρ} {x : String × Value} :
    x ∈ entries slots r ↔ ∃ p ∈ slots, x.1 = p.name ∧ p.write (p.get r) = some x.2 := by
  rw [entries, List.mem_flatMap]
  refine exists_congr fun p => and_congr_right fun _ => ?_
  rw [Option.mem_toList, Slot.entry, Option.map_eq_some_iff]
  constructor
  · rintro ⟨v, hv, rfl⟩
    exact ⟨rfl, hv⟩
  · rintro ⟨hname, hv⟩
    exact ⟨x.2, hv, Prod.ext hname.symm rfl⟩

def written (slots : List (Slot ρ)) (r : ρ) : Value := .object (entries slots r)

/-- The slots are the fields that are read, and there is nothing else to a record. -/
structure IsLayout (schema : Schema ρ) (slots : List (Slot ρ)) : Prop where
  fields_eq : schema.fields = slots.map Slot.field
  apart : slots.Pairwise Slot.Apart
  lawful : ∀ p ∈ slots, p.Lawful schema.blank
  ext : ∀ r s, (∀ p ∈ slots, p.get r = p.get s) → r = s

def Obtained (slots : List (Slot ρ)) (r : ρ) : Prop := ∀ p ∈ slots, Obtainable p.read (p.get r)

theorem read_object (schema : Schema ρ) (dialect : Dialect) (fields : List (String × Value)) :
    schema.read dialect (.ofValue (.object fields)) =
      (Node.ofFields fields).foldlM schema.readEntry ⟨schema.blank, []⟩ >>= schema.complete := rfl

section Layout

variable (h : schema.IsLayout slots) {p q : Slot ρ}
include h

theorem IsLayout.apart_of_ne (hp : p ∈ slots) (hq : q ∈ slots) (hne : p ≠ q) : p.Apart q :=
  h.apart.forall hp hq hne

theorem IsLayout.eq_of_name (hp : p ∈ slots) (hq : q ∈ slots) (hname : p.name = q.name) : p = q := by
  by_contra hne
  exact (h.apart_of_ne hp hq hne).name_ne hname

theorem IsLayout.find_name (hp : p ∈ slots) : schema.fields.find? (·.name = p.name) = some p.field := by
  rw [h.fields_eq, List.find?_map]
  cases hfind : slots.find? ((fun field : Field ρ => decide (field.name = p.name)) ∘ Slot.field) with
  | none => exact absurd (decide_eq_true rfl) (List.find?_eq_none.mp hfind p hp)
  | some q =>
    have hname : q.name = p.name := of_decide_eq_true (p := q.name = p.name) (List.find?_some hfind :)
    rw [h.eq_of_name (List.mem_of_find?_eq_some hfind) hp hname, Option.map_some]

theorem IsLayout.exists_slot {field : Field ρ} (hf : field ∈ schema.fields) :
    ∃ p ∈ slots, field = p.field := by
  rw [h.fields_eq] at hf
  obtain ⟨p, hp, rfl⟩ := List.mem_map.mp hf
  exact ⟨p, hp, rfl⟩

theorem IsLayout.complete_eq (draft : Draft ρ) : schema.complete draft = .ok draft.record := by
  have hnone : schema.fields.find? (fun field =>
    field.required && !draft.given.contains field.name) = none := by
    refine List.find?_eq_none.mpr fun field hf => ?_
    obtain ⟨p, -, rfl⟩ := h.exists_slot hf
    exact Bool.false_ne_true
  rw [complete, hnone]

theorem IsLayout.readEntry_cases {draft next : Draft ρ} {entry : Node × Node}
    (hread : schema.readEntry draft entry = .ok next) : next = draft ∧
      (∀ p ∈ slots, entry.1.readText ≠ .ok p.name) ∨
      ∃ p ∈ slots, ∃ a, entry.1.readText = .ok p.name ∧ p.name ∉ draft.given ∧ p.read entry.2 = .ok a ∧
        next = ⟨p.set a draft.record, p.name :: draft.given⟩ := by
  obtain ⟨name, hname, hread⟩ := bind_eq_ok.mp hread
  split at hread
  · next field hfind =>
    obtain ⟨p, hp, rfl⟩ := h.exists_slot (List.mem_of_find?_eq_some hfind)
    obtain rfl : p.name = name := of_decide_eq_true (p := p.name = name) (List.find?_some hfind :)
    split at hread
    · cases hread
    · next hnew =>
      obtain ⟨record, hrecord, hread⟩ := bind_eq_ok.mp hread
      obtain ⟨a, ha, rfl⟩ := map_eq_ok.mp hrecord
      cases hread
      exact .inr ⟨p, hp, a, hname, by simpa using hnew, ha, rfl⟩
  · next hfind =>
    obtain ⟨-, -, hread⟩ := bind_eq_ok.mp hread
    cases hread
    refine .inl ⟨rfl, fun p hp hkey => ?_⟩
    cases hname.symm.trans hkey
    cases hfind.symm.trans (h.find_name hp)

theorem IsLayout.get_of_given (hp : p ∈ slots) {entries : List (Node × Node)} {draft last : Draft ρ}
    (hgiven : p.name ∈ draft.given) (hread : entries.foldlM schema.readEntry draft = .ok last) :
    p.get last.record = p.get draft.record := by
  induction entries generalizing draft with
  | nil =>
    cases hread
    rfl
  | cons entry rest ih =>
    obtain ⟨next, hnext, hrest⟩ := bind_eq_ok.mp hread
    obtain ⟨rfl, -⟩ | ⟨q, hq, a, -, hnew, -, rfl⟩ := h.readEntry_cases hnext
    · exact ih hgiven hrest
    · have hne : q ≠ p := fun he => hnew (he ▸ hgiven)
      rw [ih (List.mem_cons_of_mem _ hgiven) hrest]
      exact (h.apart_of_ne hq hp hne).get_set a draft.record

theorem IsLayout.read_of_given (hp : p ∈ slots) {entries : List (Node × Node)} {key node : Node}
    (hmem : (key, node) ∈ entries) (hkey : key.readText = .ok p.name) {draft last : Draft ρ}
    (hread : entries.foldlM schema.readEntry draft = .ok last) :
    p.read node = .ok (p.get last.record) := by
  induction entries generalizing draft with
  | nil => cases hmem
  | cons entry rest ih =>
    obtain ⟨next, hnext, hread⟩ := bind_eq_ok.mp hread
    obtain rfl | hmem := List.mem_cons.mp hmem
    · obtain ⟨-, hnone⟩ | ⟨q, hq, a, hname, -, ha, rfl⟩ := h.readEntry_cases hnext
      · exact absurd hkey (hnone p hp)
      · obtain rfl : q = p := h.eq_of_name hq hp (Except.ok.inj (hname.symm.trans hkey))
        rw [h.get_of_given hq List.mem_cons_self hread, (h.lawful q hq).get_set]
        exact ha
    · exact ih hmem hread

theorem IsLayout.read_field (hp : p ∈ slots) {dialect : Dialect} {entries : List (Node × Node)}
    {frame : Frame}
    {key node : Node} (hmem : (key, node) ∈ entries) (hkey : key.readText = .ok p.name) {r : ρ}
    (hread : schema.read dialect (.table entries frame) = .ok r) : p.read node = .ok (p.get r) := by
  obtain ⟨-, -, hread⟩ := bind_eq_ok.mp hread
  obtain ⟨last, hlast, hread⟩ := bind_eq_ok.mp hread
  obtain ⟨-, -, hread⟩ := bind_eq_ok.mp hread
  rw [h.complete_eq] at hread
  cases hread
  exact h.read_of_given hp hmem hkey hlast

theorem IsLayout.obtained_blank : Obtained slots schema.blank := fun p hp => (h.lawful p hp).initial

theorem IsLayout.obtained_field (hp : p ∈ slots) {r s : ρ} (hr : Obtained slots r) {v : Value}
    (hv : v.IsFinite) (hread : p.field.read (.ofValue v) r = .ok s) : Obtained slots s := by
  obtain ⟨a, ha, rfl⟩ := map_eq_ok.mp hread
  intro q hq
  by_cases heq : p = q
  · subst heq
    rw [(h.lawful p hp).get_set]
    exact ⟨v, hv, ha⟩
  · rw [(h.apart_of_ne hp hq heq).get_set]
    exact hr q hq

theorem IsLayout.obtained_readEntry {draft next : Draft ρ} (hdraft : Obtained slots draft.record)
    {key : String}
    {v : Value} (hv : v.IsFinite) (hread : schema.readEntry draft (.text key, .ofValue v) = .ok next) :
    Obtained slots next.record := by
  obtain ⟨rfl, -⟩ | ⟨p, hp, a, -, -, ha, rfl⟩ := h.readEntry_cases hread
  · exact hdraft
  · exact h.obtained_field hp hdraft hv (map_eq_ok.mpr ⟨a, ha, rfl⟩)

theorem IsLayout.obtained_entries {fields : List (String × Value)}
    (hfields : ∀ field ∈ fields, field.2.IsFinite)
    {draft last : Draft ρ} (hdraft : Obtained slots draft.record)
    (hread : (Node.ofFields fields).foldlM schema.readEntry draft = .ok last) :
    Obtained slots last.record := by
  induction fields generalizing draft with
  | nil =>
    cases hread
    exact hdraft
  | cons field rest ih =>
    obtain ⟨hfield, hrest⟩ := List.forall_mem_cons.mp hfields
    obtain ⟨next, hnext, hread⟩ := bind_eq_ok.mp hread
    exact ih hrest (h.obtained_readEntry hdraft hfield hnext) hread

theorem IsLayout.obtained_elements {closed : Bool} {items : List Value}
    (hitems : ∀ item ∈ items, item.IsFinite)
    {index : Nat} {left : List (Slot ρ)} (hleft : left ⊆ slots) {r : ρ} (hr : Obtained slots r)
    {last : ρ × List Node}
    (hread : schema.readElements closed index (left.map Slot.field) (Node.ofValues items) r = .ok last) :
    Obtained slots last.1 := by
  induction left generalizing index items r with
  | nil =>
    rw [List.map_nil, readElements] at hread
    cases hread
    exact hr
  | cons p left ih =>
    obtain ⟨hp, hleft⟩ := List.cons_subset.mp hleft
    cases items with
    | nil =>
      rw [List.map_cons, Node.ofValues, readElements] at hread
      split at hread
      · cases hread
      · split at hread
        · cases hread
        · exact ih hitems hleft hr hread
    | cons item items =>
      obtain ⟨hitem, hitems⟩ := List.forall_mem_cons.mp hitems
      rw [List.map_cons, Node.ofValues, readElements] at hread
      obtain ⟨s, hs, hread⟩ := bind_eq_ok.mp hread
      exact ih hitems hleft (h.obtained_field hp hr hitem hs) hread

theorem IsLayout.obtained_read {dialect : Dialect} {r : ρ} (hr : Obtainable (schema.read dialect) r) :
    Obtained slots r := by
  obtain ⟨v, hv, hread⟩ := hr
  cases hv with
  | object hfields =>
    rw [Yields, read_object, bind_eq_ok] at hread
    obtain ⟨last, hlast, hread⟩ := hread
    rw [h.complete_eq] at hread
    cases hread
    exact h.obtained_entries hfields h.obtained_blank hlast
  | array hitems =>
    rw [Yields, Node.ofValue, read] at hread
    split at hread
    · cases hread
    · obtain ⟨-, -, hread⟩ := bind_eq_ok.mp hread
      obtain ⟨⟨last, surplus⟩, hlast, hread⟩ := bind_eq_ok.mp hread
      rw [h.fields_eq] at hlast
      have hobtained := h.obtained_elements hitems (List.Subset.refl slots) h.obtained_blank hlast
      cases surplus with
      | nil =>
        cases hread
        exact hobtained
      | cons item rest => cases hread
  | null | bool b | int i | float hx | string s => cases hread

theorem IsLayout.nodup_entries (r : ρ) : ((entries slots r).map Prod.fst).Nodup := by
  refine List.pairwise_map.mpr (List.pairwise_flatMap.mpr ⟨fun p hp => ?_,
    h.apart.imp fun {p q} hpq x hx y hy => ?_⟩)
  · cases p.entry r <;> simp
  · obtain ⟨_, -, rfl⟩ := Option.map_eq_some_iff.mp (Option.mem_toList.mp hx)
    obtain ⟨_, -, rfl⟩ := Option.map_eq_some_iff.mp (Option.mem_toList.mp hy)
    exact hpq.name_ne

/-- The fields given so far are as in the record, and all others are blank. -/
structure Filled (schema : Schema ρ) (slots : List (Slot ρ)) (r : ρ) (draft : Draft ρ) : Prop where
  given : ∀ p ∈ slots, p.name ∈ draft.given → p.get draft.record = p.get r
  blank : ∀ p ∈ slots, p.name ∉ draft.given → p.get draft.record = p.get schema.blank

theorem IsLayout.readEntry_eq (hp : p ∈ slots) {draft : Draft ρ} (hnew : p.name ∉ draft.given)
    {v : Value} {a : p.α} (ha : Yields p.read v a) :
    schema.readEntry draft (.text p.name, .ofValue v) =
      .ok ⟨p.set a draft.record, p.name :: draft.given⟩ := by
  have hread : p.field.read (.ofValue v) draft.record = .ok (p.set a draft.record) :=
    map_eq_ok.mpr ⟨a, ha, rfl⟩
  have hcontains : draft.given.contains p.name = false := by simpa using hnew
  refine bind_eq_ok.mpr ⟨p.name, rfl, ?_⟩
  rw [h.find_name hp]
  simp only [hcontains, hread]
  rfl

theorem IsLayout.filled_set (hp : p ∈ slots) {r : ρ} {draft : Draft ρ}
    (hdraft : Filled schema slots r draft) :
    Filled schema slots r ⟨p.set (p.get r) draft.record, p.name :: draft.given⟩ := by
  refine ⟨fun q hq hgiven => ?_, fun q hq hnot => ?_⟩
  · by_cases heq : p = q
    · subst heq
      exact (h.lawful p hp).get_set _ _
    · have hapart := h.apart_of_ne hp hq heq
      rw [hapart.get_set]
      exact hdraft.given q hq ((List.mem_cons.mp hgiven).resolve_left hapart.name_ne.symm)
  · obtain ⟨hne, hnot⟩ := not_or.mp (mt List.mem_cons.mpr hnot)
    have hapart := h.apart_of_ne hp hq fun heq => hne (heq ▸ rfl)
    rw [hapart.get_set]
    exact hdraft.blank q hq hnot

theorem IsLayout.foldlM_filled {r : ρ} {fields : List (String × Value)}
    (hfields : ∀ x ∈ fields, ∃ p ∈ slots, x.1 = p.name ∧ Yields p.read x.2 (p.get r))
    (hnodup : (fields.map Prod.fst).Nodup) {draft : Draft ρ} (hdraft : Filled schema slots r draft)
    (hnew : ∀ key ∈ fields.map Prod.fst, key ∉ draft.given) :
    ∃ last, (Node.ofFields fields).foldlM schema.readEntry draft = .ok last ∧
      Filled schema slots r last ∧
      ∀ key, key ∈ last.given ↔ key ∈ fields.map Prod.fst ∨ key ∈ draft.given := by
  induction fields generalizing draft with
  | nil => exact ⟨draft, rfl, hdraft, fun key => by simp⟩
  | cons x rest ih =>
    obtain ⟨hx, hrest⟩ := List.forall_mem_cons.mp hfields
    obtain ⟨p, hp, hname, hyields⟩ := hx
    rw [List.map_cons, List.nodup_cons] at hnodup
    rw [List.map_cons, List.forall_mem_cons, hname] at hnew
    have hnext := h.readEntry_eq hp hnew.1 hyields
    obtain ⟨last, hlast, hfilled, hgiven⟩ :=
      ih hrest hnodup.2 (h.filled_set hp hdraft) fun key hkey hmem => by
      obtain rfl | hmem := List.mem_cons.mp hmem
      · exact hnodup.1 (hname ▸ hkey)
      · exact hnew.2 key hkey hmem
    refine ⟨last, ?_, hfilled, fun key => ?_⟩
    · rw [Node.ofFields, List.foldlM_cons, hname, hnext]
      exact hlast
    · rw [hgiven, List.mem_cons, List.map_cons, List.mem_cons, hname]
      tauto

/-- A record with a layout is read again as it was, whatever is left out of it and in whichever
order it is kept. -/
theorem IsLayout.roundTrips (dialect : Dialect) : RoundTrips (schema.read dialect) (written slots) := by
  intro r hr w hw
  have hobtained := h.obtained_read hr
  obtain ⟨fields, moved, rfl, hperm, hmoved⟩ := Value.reorders_object.mp hw
  have hkeys : (fields.map Prod.fst).Perm ((entries slots r).map Prod.fst) :=
    (forall₂_fieldRel.mp hmoved).1 ▸ hperm.map Prod.fst
  have hfields : ∀ x ∈ fields, ∃ p ∈ slots, x.1 = p.name ∧ Yields p.read x.2 (p.get r) := by
    intro x hx
    obtain ⟨y, hy, hxy, hreorders⟩ := exists_of_mem_left hmoved x (hperm.subset hx)
    obtain ⟨p, hp, hname, hwrite⟩ := mem_entries.mp hy
    exact ⟨p, hp, hxy.trans hname, (h.lawful p hp).reads _ _ (hobtained p hp) hwrite _ hreorders⟩
  have hblank : Filled schema slots r ⟨schema.blank, []⟩ :=
    ⟨fun _ _ hmem => absurd hmem List.not_mem_nil, fun _ _ _ => rfl⟩
  obtain ⟨last, hlast, hfilled, hgiven⟩ :=
    h.foldlM_filled hfields (hkeys.nodup_iff.mpr (h.nodup_entries r)) hblank
    fun _ _ => List.not_mem_nil
  have hrecord : last.record = r := h.ext _ _ fun p hp => by
    by_cases hmem : p.name ∈ last.given
    · exact hfilled.given p hp hmem
    · rw [hfilled.blank p hp hmem]
      refine ((h.lawful p hp).left_out _ ?_).symm
      cases hwrite : p.write (p.get r) with
      | none => rfl
      | some v =>
        -- What is written is among the fields, so it has been given after all.
        have hwritten : p.name ∈ (entries slots r).map Prod.fst :=
          List.mem_map_of_mem (f := Prod.fst) (mem_entries.mpr ⟨p, hp, rfl, hwrite⟩ : (p.name, v) ∈ _)
        exact absurd ((hgiven p.name).mpr (.inl (hkeys.mem_iff.mpr hwritten))) hmem
  rw [Yields, read_object, hlast, ← hrecord]
  exact h.complete_eq last

theorem IsLayout.read_single (hp : p ∈ slots) {v : Value} {a : p.α} (ha : Yields p.read v a)
    (dialect : Dialect) :
    Yields (schema.read dialect) (.object [(p.name, v)]) (p.set a schema.blank) := by
  have hnew : p.name ∉ (Draft.mk schema.blank []).given := List.not_mem_nil
  have hentry := h.readEntry_eq hp hnew ha
  rw [Yields, read_object, Node.ofFields, List.foldlM_cons, hentry]
  exact h.complete_eq _

theorem IsLayout.obtainable_blank (dialect : Dialect) : Obtainable (schema.read dialect) schema.blank :=
  ⟨.object [], .object fun _ hmem => absurd hmem List.not_mem_nil, h.complete_eq ⟨schema.blank, []⟩⟩

end Layout

end Schema

end StubServer.Document
