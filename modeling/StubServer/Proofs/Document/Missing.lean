import StubServer.Document.Reader

namespace StubServer.Document

open Json (Value)

namespace Scalar

theorem head?_coreTag (name : String) : (coreTag name).toList.head? = some 't' := by
  have hfirst : "tag:yaml.org,2002:".toList.head? = some 't' := by decide
  unfold coreTag
  rw [String.toList_append, List.head?_append, hfirst, Option.some_or]

theorem isLocalTag_coreTag (name : String) : isLocalTag (some (coreTag name)) = false := by
  simp only [isLocalTag, Option.map_some, Option.getD_some, Bool.eq_false_iff, ne_eq,
    String.startsWith_string_iff]
  rintro ⟨rest, hrest⟩
  have hhead := congrArg List.head? hrest
  rw [head?_coreTag] at hhead
  cases hhead

variable {s : Scalar}

theorem resolve_taggedNull (htag : s.tag = some (coreTag "null")) :
    s.resolve = if isNullText s.text then .ok .null else .error (s.badTag "null") := by
  have hother : ∀ name ∈ ["bool", "int", "float"], coreTag "null" ≠ coreTag name := by decide
  simp only [List.forall_mem_cons] at hother
  simp only [resolve, htag, isLocalTag_coreTag, hother, if_true, if_false, Bool.false_eq_true]

theorem resolve_nullText (htag : s.tag = none) (hstyle : s.style = .plain)
    (hnull : s.isEmpty ∨ isNullText s.text) :
    s.resolve = .ok .null := by
  have htext : s.text.isEmpty ∨ isNullText s.text := hnull.imp_left fun h =>
    (Bool.and_eq_true_iff.mp h).1
  have hlocal : isLocalTag none = false := rfl
  simp only [resolve, htag, hlocal, hstyle, resolveText, htext, if_true, if_false, Bool.false_eq_true]

end Scalar

namespace Node

theorem readOption_scalar {α : Type} (read : Node → Except Fault α) (s : Scalar) :
    readOption read (.scalar s) = (read (.scalar s)).map some ∨ s.resolve = .ok .null ∨
      ∃ e, s.resolve = .error e := by
  rw [readOption]
  split
  · exact .inl rfl
  · next hstyle =>
    split
    · next htag =>
      rw [Scalar.resolve_taggedNull htag]
      split
      · exact .inr (.inl rfl)
      · exact .inr (.inr ⟨_, rfl⟩)
    · split
      · exact .inl rfl
      · next htag =>
        split
        · next hnull =>
          exact .inr (.inl (Scalar.resolve_nullText (by simpa using htag)
            (Decidable.not_not.mp hstyle) hnull))
        · exact .inl rfl

theorem readOption_readValue {node : Node} {v : Value} (h : node.readValue = .ok v) (hv : v ≠ .null) :
    node.readOption readValue = .ok (some v) := by
  have hsome : (node.readValue).map some = .ok (some v) := by
    rw [h]
    rfl
  cases node with
  | null =>
    cases h
    exact absurd rfl hv
  | scalar s =>
    obtain hread | hnull | ⟨e, he⟩ := readOption_scalar readValue s
    · exact hread.trans hsome
    · rw [readValue, hnull] at h
      cases h
      exact absurd rfl hv
    · rw [readValue, he] at h
      cases h
  | bool | int | float | text | list | table | unreadable | broken => exact hsome

end Node

end StubServer.Document
