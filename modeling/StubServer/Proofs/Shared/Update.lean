import StubServer.Shared.Cell

namespace StubServer

namespace Cell

variable {α : Type}

/-- The publication was current at some time up to now. -/
def Past (seen cell : Cell α) : Prop := seen = cell ∨ seen.version < cell.version

theorem Past.refl (cell : Cell α) : cell.Past cell := .inl rfl

theorem Past.trans {a b c : Cell α} (hab : a.Past b) (hbc : b.Past c) : a.Past c := by
  obtain rfl | hab := hab
  · exact hbc
  · obtain rfl | hbc := hbc
    · exact .inr hab
    · exact .inr (Nat.lt_trans hab hbc)

theorem past_store (cell : Cell α) (a : α) : cell.Past (cell.store a) :=
  .inr (Nat.lt_succ_self cell.version)

theorem Past.eq_of_version {seen cell : Cell α} (h : seen.Past cell)
    (hv : cell.version = seen.version) : seen = cell := by
  obtain h | h := h
  · exact h
  · omega

end Cell

namespace Update

variable {α ε : Type} {change : α → Except ε (Option α)} {cell cell' : Cell α}
  {update update' : Update α ε}

inductive Moves (change : α → Except ε (Option α)) :
    Cell α → Update α ε → Cell α → Update α ε → Prop
  | load (cell : Cell α) : Moves change cell .start cell (.working cell)
  | fail (cell : Cell α) {seen : Cell α} {e : ε} (h : change seen.value = .error e) :
      Moves change cell (.working seen) cell (.finished (.error e))
  | skip (cell : Cell α) {seen : Cell α} (h : change seen.value = .ok none) :
      Moves change cell (.working seen) cell (.finished (.ok false))
  | publish {cell seen : Cell α} {next : α} (h : change seen.value = .ok (some next))
      (hv : cell.version = seen.version) :
      Moves change cell (.working seen) (cell.store next) (.finished (.ok true))
  | retry {cell seen : Cell α} {next : α} (h : change seen.value = .ok (some next))
      (hv : cell.version ≠ seen.version) : Moves change cell (.working seen) cell (.working cell)
  | stay (cell : Cell α) (result : Except ε Bool) :
      Moves change cell (.finished result) cell (.finished result)

theorem moves_step (change : α → Except ε (Option α)) (cell : Cell α) (update : Update α ε) :
    Moves change cell update (update.step change cell).1 (update.step change cell).2 := by
  cases update with
  | start => exact .load cell
  | finished result => exact .stay cell result
  | working seen =>
    cases h : change seen.value with
    | error e =>
      simp only [step, h]
      exact .fail cell h
    | ok next? =>
      cases next? with
      | none =>
        simp only [step, h]
        exact .skip cell h
      | some next =>
        by_cases hv : cell.version = seen.version
        · simp only [step, h, Cell.replace?, if_pos hv]
          exact .publish h hv
        · simp only [step, h, Cell.replace?, if_neg hv]
          exact .retry h hv

theorem Moves.finishes (h : Moves change cell (.working cell) cell' update') :
    ∃ result, update' = .finished result := by
  cases h with
  | fail | skip | publish => exact ⟨_, rfl⟩
  | retry h hv => exact absurd rfl hv

/-- Two steps in a row are enough, whatever the first of them begins with. -/
theorem Moves.finishes_next {cell'' : Cell α} {update'' : Update α ε}
    (h : Moves change cell update cell' update')
    (h' : Moves change cell' update' cell'' update'') : ∃ result, update'' = .finished result := by
  cases h with
  | load | retry => exact h'.finishes
  | fail | skip | publish | stay =>
    cases h'
    exact ⟨_, rfl⟩

theorem Moves.past (h : Moves change cell update cell' update') : cell.Past cell' := by
  cases h with
  | publish => exact cell.past_store _
  | load | fail | skip | retry | stay => exact .refl cell

def Recent (cell : Cell α) : Update α ε → Prop
  | .working seen => seen.Past cell
  | _ => True

theorem Recent.mono (h : update.Recent cell) (hp : cell.Past cell') : update.Recent cell' := by
  cases update with
  | working seen => exact h.trans hp
  | start | finished => trivial

theorem Moves.recent (h : Moves change cell update cell' update') : update'.Recent cell' := by
  cases h with
  | load | retry => exact Cell.Past.refl cell
  | fail | skip | publish | stay => trivial

theorem Recent.eq_of_publish {seen : Cell α} (h : Recent (ε := ε) cell (.working seen))
    (hv : cell.version = seen.version) : seen = cell :=
  Cell.Past.eq_of_version h hv

end Update

end StubServer
