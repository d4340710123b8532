import Mathlib.Data.List.Basic
import StubServer.Json.Text
import StubServer.Json.Writer

namespace StubServer.Json

section Strings

variable {c : Char} {s : StringSoFar} {rest : Chars}

theorem hexValue?_digitChar {d : Nat} (hd : d < 16) : hexValue? (Nat.digitChar d) = some d := by
  revert d
  decide

theorem StringSoFar.pushUnit_of_lt {n : Nat} (hn : n < 0xd800) :
    s.pushUnit n = s.push (Char.ofNat n) := by
  rw [pushUnit, if_neg (by omega), if_neg (by omega)]

theorem readString_unicodeEscape (hc : c.toNat < 0x20) :
    readString .plain s ((unicodeEscape c).map some ++ rest) = readString .plain (s.push c) rest := by
  have hhigh := hexValue?_digitChar (d := c.toNat / 16) (by omega)
  have hlow := hexValue?_digitChar (d := c.toNat % 16) (by omega)
  have hvalue : ((0 * 16 + 0) * 16 + 0) * 16 + c.toNat / 16 = c.toNat / 16 := by omega
  have hunit : c.toNat / 16 * 16 + c.toNat % 16 = c.toNat := by omega
  have hpush : s.pushUnit c.toNat = s.push c := by
    rw [StringSoFar.pushUnit_of_lt (by omega), Char.ofNat_toNat]
  rw [← hpush, ← hunit]
  simp [unicodeEscape, readString, hhigh, hlow, show hexValue? '0' = some 0 from rfl]

theorem readString_escapeChar :
    readString .plain s ((escapeChar c).map some ++ rest) = readString .plain (s.push c) rest := by
  fun_cases escapeChar c
  case case3 hprintable => simp [readString, Nat.not_lt.mpr hprintable]
  case case7 h =>
    obtain rfl : c = '\x08' := by rw [← Char.ofNat_toNat c, h]
    simp [readString, shortEscape?]
  case case8 h =>
    obtain rfl : c = '\x0c' := by rw [← Char.ofNat_toNat c, h]
    simp [readString, shortEscape?]
  case case9 h => exact readString_unicodeEscape (by omega)
  all_goals simp [readString, shortEscape?, *]

theorem readString_escaped (cs : List Char) :
    readString .plain s ((cs.flatMap escapeChar).map some ++ rest) =
      readString .plain (cs.foldl .push s) rest := by
  induction cs generalizing s with
  | nil => rfl
  | cons c cs ih =>
    rw [List.flatMap_cons, List.map_append, List.append_assoc, readString_escapeChar, ih]; rfl

theorem StringSoFar.foldl_push (cs done : List Char) :
    cs.foldl push ⟨done, none, false⟩ = ⟨cs.reverse ++ done, none, false⟩ := by
  induction cs generalizing done with
  | nil => rfl
  | cons c cs ih => rw [List.foldl_cons, List.reverse_cons, List.append_assoc]; exact ih (c :: done)

theorem readString_literal (s : String) :
    readString .plain ⟨[], none, false⟩ ((s.toList.flatMap escapeChar).map some ++ some '"' :: rest) =
      some (.text s, rest) := by
  rw [readString_escaped, StringSoFar.foldl_push, readString]
  simp [StringSoFar.node]

end Strings

/-- Nothing comes that a number could go on with: the text ends, or the collection around it does or
goes on. -/
def Delimited (rest : Chars) : Prop := ∀ c ∈ rest.head?, c ∈ [some ',', some ']', some '\x7d']

section Digits

variable {rest : Chars} {cs : List Char}

theorem delimited_cases (h : Delimited rest) :
    rest = [] ∨ ∃ c tail, rest = some c :: tail ∧ (c = ',' ∨ c = ']' ∨ c = '\x7d') := by
  match rest with
  | [] => exact .inl rfl
  | c :: tail =>
    have hc : c ∈ [some ',', some ']', some '\x7d'] := h c rfl
    simp only [List.mem_cons, List.not_mem_nil, or_false] at hc
    obtain rfl | rfl | rfl := hc <;> simp

theorem takeDigits_append (hcs : ∀ c ∈ cs, c.isDigit) (hrest : Delimited rest) :
    takeDigits (cs.map some ++ rest) = (cs.map (·.toNat - 48), rest) := by
  induction cs with
  | nil =>
    obtain rfl | ⟨c, tail, rfl, rfl | rfl | rfl⟩ := delimited_cases hrest <;> rfl
  | cons c cs ih =>
    obtain ⟨hc, hcs⟩ := List.forall_mem_cons.mp hcs
    rw [List.map_cons, List.cons_append, takeDigits, if_pos hc, ih hcs]
    rfl

theorem gather_digits {s : Nat} (h : Nat.ofDigitChars 10 cs s ≤ wordMax) :
    gather s (cs.map (·.toNat - 48)) = (Nat.ofDigitChars 10 cs s, []) := by
  induction cs generalizing s with
  | nil => rfl
  | cons c cs ih =>
    have hle : s * 10 + (c.toNat - 48) ≤ Nat.ofDigitChars 10 cs (10 * s + (c.toNat - 48)) := by
      have hpow : s * 10 + (c.toNat - 48) ≤ 10 ^ cs.length * (10 * s + (c.toNat - 48)) := by
        rw [Nat.mul_comm s]
        exact Nat.le_mul_of_pos_left _ (Nat.pow_pos (by decide))
      rw [Nat.ofDigitChars_eq_ofDigitChars_zero]
      exact Nat.le_trans hpow (Nat.le_add_right _ _)
    rw [Nat.ofDigitChars_cons] at h ⊢
    rw [List.map_cons, gather, if_pos (Nat.le_trans hle h), Nat.mul_comm s]
    exact ih h

theorem exists_toDigits_eq_cons (n : Nat) : ∃ c cs, Nat.toDigits 10 n = c :: cs ∧ c.isDigit := by
  obtain ⟨c, cs, hcs⟩ := List.exists_cons_of_ne_nil (Nat.toDigits_ne_nil (n := n) (b := 10))
  exact ⟨c, cs, hcs, Nat.isDigit_of_mem_toDigits (by decide) (by decide) (hcs ▸ List.mem_cons_self)⟩

def digitsOf (n : Nat) : List Nat := (Nat.toDigits 10 n).map (·.toNat - 48)

theorem takeDigits_toDigits {n : Nat} (hrest : Delimited rest) :
    takeDigits ((Nat.toDigits 10 n).map some ++ rest) = (digitsOf n, rest) :=
  takeDigits_append (fun _ hc => Nat.isDigit_of_mem_toDigits (by decide) (by decide) hc) hrest

theorem digitsOf_ne_nil (n : Nat) : digitsOf n ≠ [] := by
  rw [digitsOf, Ne, List.map_eq_nil_iff]
  exact Nat.toDigits_ne_nil

theorem digitsOf_of_lt {n : Nat} (hn : n < 10) : digitsOf n = [n] := by
  rw [digitsOf, Nat.toDigits_of_lt_base hn, List.map_singleton, Nat.toNat_digitChar_sub_48_of_lt_ten hn]

theorem digitsOf_of_le {n : Nat} (hn : 10 ≤ n) :
    digitsOf n = digitsOf (n / 10) ++ digitsOf (n % 10) := by
  rw [digitsOf, Nat.toDigits_of_base_le (by decide) hn, List.map_append,
    digitsOf_of_lt (Nat.mod_lt _ (by decide)),
    List.map_singleton, Nat.toNat_digitChar_sub_48_of_lt_ten (Nat.mod_lt _ (by decide))]
  rfl

theorem digitsOf_leading (n : Nat) : (digitsOf n).length = 1 ∨ (digitsOf n).head? ≠ some 0 := by
  induction n using Nat.strongRecOn with
  | ind n ih =>
    obtain hn | hn := Nat.lt_or_ge n 10
    · exact .inl (by rw [digitsOf_of_lt hn, List.length_singleton])
    · right
      have hquot : n / 10 ≠ 0 := by omega
      rw [digitsOf_of_le hn, List.head?_append_of_ne_nil _ (digitsOf_ne_nil _)]
      obtain hsmall | hlarge := Nat.lt_or_ge (n / 10) 10
      · simpa [digitsOf_of_lt hsmall] using hquot
      · refine (ih (n / 10) (by omega)).resolve_left ?_
        rw [digitsOf_of_le hlarge, List.length_append]
        have hpos := List.length_pos_iff.mpr (digitsOf_ne_nil (n / 10 / 10))
        have hpos' := List.length_pos_iff.mpr (digitsOf_ne_nil (n / 10 % 10))
        omega

theorem value?_digitsOf {n : Nat} {negative : Bool} (hn : n ≤ wordMax) :
    NumberText.value? ⟨negative, digitsOf n, none, none⟩ = some (ofWord negative n) := by
  have htotal : Nat.ofDigitChars 10 (Nat.toDigits 10 n) 0 = n :=
    Nat.ofDigitChars_toDigits (by decide) (by decide)
  have hgather : gather 0 (digitsOf n) = (n, []) := by
    rw [digitsOf, gather_digits (by rwa [htotal]), htotal]
  simp [NumberText.value?, hgather]

theorem readNumber_toDigits {n : Nat} {negative : Bool} {i : Int} (hn : n ≤ wordMax)
    (hrest : Delimited rest) (hi : ofWord negative n = .int i) :
    readNumber negative ((Nat.toDigits 10 n).map some ++ rest) = some (.int i, rest) := by
  have hvalue : NumberText.value? ⟨negative, digitsOf n, none, none⟩ = some (.int i) := by
    rw [value?_digitsOf hn, hi]
  rw [readNumber, takeDigits_toDigits hrest]
  unfold guard
  -- What delimits a number starts neither a fraction nor an exponent.
  obtain rfl | ⟨c, tail, rfl, rfl | rfl | rfl⟩ := delimited_cases hrest <;>
    simp [digitsOf_leading n, digitsOf_ne_nil n, hvalue, -ne_eq]

end Digits

end StubServer.Json
