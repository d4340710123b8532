import StubServer.Json.Text

namespace StubServer

open Document (Node)

namespace Document.Node

/-- The type of the node is not left to the reader. -/
def isTyped : Node → Bool
  | .scalar _ => false
  | _ => true

def isAtomic : Node → Bool
  | .scalar _ | .list .. | .table .. => false
  | _ => true

theorem isTyped_of_isAtomic {node : Node} (h : node.isAtomic) : node.isTyped := by
  cases node <;> first | rfl | cases h

end Document.Node

namespace Json

theorem StringSoFar.isAtomic_node (s : StringSoFar) : s.node.isAtomic := by
  unfold node
  split <;> rfl

theorem isAtomic_of_readString {state : StringState} {s : StringSoFar} {src rest : Chars} {node : Node}
    (h : readString state s src = some (node, rest)) : node.isAtomic := by
  fun_induction readString state s src with
  | case3 s => cases h; exact s.isAtomic_node
  | case1 | case5 | case9 | case10 | case11 => cases h
  | _ => solve_by_elim

theorem isAtomic_of_readNumber {negative : Bool} {src rest : Chars} {node : Node}
    (h : readNumber negative src = some (node, rest)) : node.isAtomic := by
  unfold readNumber guard at h
  simp only [bind, Option.bind_eq_some_iff] at h
  obtain ⟨-, -, -, -, h⟩ := h
  grind [Node.isAtomic]

theorem isAtomic_of_readWord {word : String} {expected : Node} {src rest : Chars} {node : Node}
    (hexpected : expected.isAtomic) (h : readWord word expected src = some (node, rest)) :
    node.isAtomic := by
  simp only [readWord, Option.ite_none_right_eq_some, Option.some.injEq, Prod.mk.injEq] at h
  exact h.2.1 ▸ hexpected

theorem isAtomic_orBroken {found : Option (Node × Chars)}
    (h : ∀ node rest, found = some (node, rest) → node.isAtomic) : (orBroken found).1.isAtomic := by
  match found with
  | some (node, rest) => exact h node rest rfl
  | none => rfl

theorem readValue_cases (fuel depth : Nat) (src : Chars) : (readValue (fuel + 1) depth src).1.isAtomic ∨
    (∃ items frame, (readValue (fuel + 1) depth src).1 = .list items frame) ∨
    ∃ rest, (readValue (fuel + 1) depth src).1 = .table (readEntries fuel (depth + 1) true rest).1
      ⟨(readEntries fuel (depth + 1) true rest).2.isSome, nestingLimit ≤ depth, none⟩ := by
  have hstring (rest : Chars) : (orBroken (readString .plain ⟨[], none, false⟩ rest)).1.isAtomic :=
    isAtomic_orBroken fun _ _ => isAtomic_of_readString
  have hnumber (negative : Bool) (rest : Chars) : (orBroken (readNumber negative rest)).1.isAtomic :=
    isAtomic_orBroken fun _ _ => isAtomic_of_readNumber
  have hword (word : String) (expected : Node) (rest : Chars) (h : expected.isAtomic) :
      (orBroken (readWord word expected rest)).1.isAtomic :=
    isAtomic_orBroken fun _ _ => isAtomic_of_readWord h
  rw [readValue]
  split
  case h_1 c rest _ =>
    split
    case isTrue => exact .inr (.inr ⟨rest, rfl⟩)
    split
    case isTrue => exact .inr (.inl ⟨_, _, rfl⟩)
    left
    repeat' split
    all_goals first | rfl | exact hstring _ | exact hnumber _ _ | exact hword _ _ _ rfl
  case h_2 => exact .inl rfl

theorem isTyped_readValue (fuel depth : Nat) (src : Chars) : (readValue fuel depth src).1.isTyped := by
  cases fuel with
  | zero => rw [readValue]; rfl
  | succ fuel =>
    obtain hatomic | ⟨items, frame, h⟩ | ⟨rest, h⟩ := readValue_cases fuel depth src
    · exact Node.isTyped_of_isAtomic hatomic
    · rw [h]; rfl
    · rw [h]; rfl

def AreTyped (entries : List (Node × Node)) : Prop := ∀ entry ∈ entries, entry.1.isTyped ∧
    entry.2.isTyped

theorem areTyped_nil : AreTyped [] := List.forall_mem_nil _

theorem areTyped_cons {key value : Node} {entries : List (Node × Node)} (hkey : key.isTyped)
    (hvalue : value.isTyped) (h : AreTyped entries) : AreTyped ((key, value) :: entries) :=
  List.forall_mem_cons.mpr ⟨⟨hkey, hvalue⟩, h⟩

theorem areTyped_readEntries (fuel : Nat) :
    (∀ depth isFirst src, AreTyped (readEntries fuel depth isFirst src).1) ∧
    ∀ depth src, AreTyped (readEntry fuel depth src).1 := by
  induction fuel with
  | zero =>
    refine ⟨fun depth isFirst src => ?_, fun depth src => ?_⟩
    · rw [readEntries]; exact areTyped_nil
    · rw [readEntry]; exact areTyped_nil
  | succ fuel ih =>
    obtain ⟨hentries, hentry⟩ := ih
    constructor
    · intro depth isFirst src
      unfold readEntries
      repeat' split
      all_goals first | exact areTyped_nil | exact hentry _ _
    · intro depth src
      rw [readEntry]
      split
      case h_1 => exact areTyped_nil
      case h_2 key rest hkey =>
        have hkey := Node.isTyped_of_isAtomic (isAtomic_of_readString hkey)
        split
        case h_1 rest _ =>
          have hvalue := isTyped_readValue fuel depth rest
          split
          case h_1 value hread =>
            rw [hread] at hvalue
            exact areTyped_cons hkey hvalue areTyped_nil
          case h_2 value rest hread =>
            rw [hread] at hvalue
            exact areTyped_cons hkey hvalue (hentries _ _ _)
        case h_2 => exact areTyped_cons hkey rfl areTyped_nil

theorem parseChars_table {src : Chars} {entries : List (Node × Node)} {frame : Document.Frame}
    (h : (parseChars src).root = .table entries frame) :
    AreTyped entries ∧ frame.tooDeep = false ∧ frame.tag = none := by
  have hroot : (readValue (3 * src.length + 2 + 1) 0 src).1 = .table entries frame := h
  obtain hatomic | ⟨items, frame, hlist⟩ | ⟨rest, htable⟩ := readValue_cases (3 * src.length + 2) 0 src
  · rw [hroot] at hatomic
    cases hatomic
  · rw [hroot] at hlist
    cases hlist
  · rw [hroot] at htable
    cases htable
    exact ⟨(areTyped_readEntries _).1 _ _ _, rfl, rfl⟩

theorem isTyped_parseChars (src : Chars) : (parseChars src).root.isTyped := isTyped_readValue _ 0 src

end Json

end StubServer
