import StubServer.Proofs.Stub.Ordering
import StubServer.Proofs.Stub.Traffic

namespace StubServer

open Stub (Sorted Tidy Inserted Deleted)

namespace Call

inductive Moves : Registry → Call → Registry → Call → Prop
  | add {g : Registry} {stub : Stub} {update update' : Update (List Stub) StubError}
      {stubs : Cell (List Stub)}
      (h : Update.Moves (Registry.adding stub) g.stubs update stubs update') :
      Moves g (.add stub update) { g with stubs } (.add stub update')
  | remove {g : Registry} {stub : Stub} {update update' : Update (List Stub) Empty}
      {stubs : Cell (List Stub)}
      (h : Update.Moves (Registry.removing stub) g.stubs update stubs update') :
      Moves g (.remove stub update) { g with stubs } (.remove stub update')
  | clear (g : Registry) : Moves g (.clear false) g.clear (.clear true)
  | getAll (g : Registry) : Moves g (.getAll none) g (.getAll (some g.list))
  | find {g g' : Registry} (request : Nat) {q : Find.Query} {search search' : Find}
      (h : Find.Moves q g search g' search') :
      Moves g (.find request q search) g' (.find request q search')
  | cleared (g : Registry) : Moves g (.clear true) g (.clear true)
  | listed (g : Registry) (stubs : List Stub) :
      Moves g (.getAll (some stubs)) g (.getAll (some stubs))
  | abandoned (g : Registry) : Moves g .abandoned g .abandoned

theorem moves_step (s : Shared) (call : Call) :
    Moves s.registry call (call.step s).1.registry (call.step s).2 := by
  cases call with
  | add stub update => exact .add (Update.moves_step _ _ _)
  | remove stub update => exact .remove (Update.moves_step _ _ _)
  | clear isDone =>
    cases isDone with
    | false => exact .clear _
    | true => exact .cleared _
  | getAll seen =>
    cases seen with
    | none => exact .getAll _
    | some stubs => exact .listed _ stubs
  | find request q search => exact .find request (Find.moves_step q (s.world request) search)
  | abandoned => exact .abandoned _

def stubs : Call → List Stub
  | .add stub _ | .remove stub _ => [stub]
  | .find _ _ search => search.held
  | _ => []

def Recent (cell : Cell (List Stub)) : Call → Prop
  | .add _ update => update.Recent cell
  | .remove _ update | .find _ _ (.removing _ update) => update.Recent cell
  | _ => True

/-- What a step of a call makes of the list of stubs. -/
inductive Changes : Call → Call → List Stub → List Stub → Prop
  | none (call call' : Call) (stubs : List Stub) : Changes call call' stubs stubs
  | add {stub : Stub} (seen : Cell (List Stub)) {stubs stubs' : List Stub}
      (h : Inserted stub stubs stubs') :
      Changes (.add stub (.working seen)) (.add stub (.finished (.ok true))) stubs stubs'
  | remove {stub : Stub} (seen : Cell (List Stub)) {stubs stubs' : List Stub}
      (h : Deleted stub stubs stubs') :
      Changes (.remove stub (.working seen)) (.remove stub (.finished (.ok true))) stubs stubs'
  | use (request : Nat) (q : Find.Query) {stub : Stub} (seen : Cell (List Stub))
      {stubs stubs' : List Stub} (h : Deleted stub stubs stubs') :
      Changes (.find request q (.removing stub (.working seen)))
        (.find request q (.removing stub (.finished (.ok true)))) stubs stubs'
  | clear (stubs : List Stub) : Changes (.clear false) (.clear true) stubs []

end Call

section

variable {known : List Stub} {stub : Stub} {cell cell' : Cell (List Stub)}

theorem adding_changes {update update' : Update (List Stub) StubError} (hl : Tidy known cell.value)
    (hstub : stub ∈ known) (hr : update.Recent cell)
    (h : Update.Moves (Registry.adding stub) cell update cell' update') :
    cell' = cell ∨ ∃ seen, update = .working seen ∧ update' = .finished (.ok true) ∧
      Inserted stub cell.value cell'.value := by
  cases h with
  | load | fail | skip | retry | stay => exact .inl rfl
  | publish h hv =>
    obtain rfl := hr.eq_of_publish hv
    exact .inr ⟨_, rfl, rfl, Registry.adding_eq_some hl hstub h⟩

theorem removing_changes {update update' : Update (List Stub) Empty} (hl : Tidy known cell.value)
    (hstub : stub ∈ known) (hr : update.Recent cell)
    (h : Update.Moves (Registry.removing stub) cell update cell' update') :
    cell' = cell ∨ ∃ seen, update = .working seen ∧ update' = .finished (.ok true) ∧
      Deleted stub cell.value cell'.value := by
  cases h with
  | load | fail | skip | retry | stay => exact .inl rfl
  | publish h hv =>
    obtain rfl := hr.eq_of_publish hv
    exact .inr ⟨_, rfl, rfl, Registry.removing_eq_some hl hstub h⟩

end

namespace Call

variable {g g' : Registry} {call call' : Call} {known : List Stub}

theorem Moves.changes (h : Moves g call g' call') (hl : Tidy known g.list) (hn : call.stubs ⊆ known)
    (hr : call.Recent g.stubs) : Changes call call' g.list g'.list := by
  cases h with
  | add h =>
    obtain rfl | ⟨seen, rfl, rfl, hin⟩ := adding_changes hl (hn List.mem_cons_self) hr h
    · exact .none _ _ _
    · exact .add seen hin
  | remove h =>
    obtain rfl | ⟨seen, rfl, rfl, hdel⟩ := removing_changes hl (hn List.mem_cons_self) hr h
    · exact .none _ _ _
    · exact .remove seen hdel
  | clear => exact .clear _
  | find request h =>
    cases h with
    | remove hu h =>
      obtain rfl | ⟨seen, rfl, rfl, hdel⟩ := removing_changes hl (hn List.mem_cons_self) hr h
      · exact .none _ _ _
      · exact .use request _ seen hdel
    | enter | wait | load | scan | miss | count | serve | depart | stay => exact .none _ _ _
  | getAll | cleared | listed | abandoned => exact .none _ _ _

theorem Moves.past (h : Moves g call g' call') : g.stubs.Past g'.stubs := by
  cases h with
  | add h | remove h => exact h.past
  | clear => exact Cell.past_store _ _
  | find request h =>
    cases h with
    | remove hu h => exact h.past
    | enter | wait | load | scan | miss | count | serve | depart | stay => exact .refl _
  | getAll | cleared | listed | abandoned => exact .refl _

theorem Recent.of_not_removing {cell : Cell (List Stub)} {request : Nat} {q : Find.Query} {search : Find}
    (h : ∀ stub update, search ≠ .removing stub update) : Recent cell (.find request q search) := by
  cases search with
  | removing stub update => exact absurd rfl (h stub update)
  | start | queued | scanning | reading | counting | finished | escaped => trivial

theorem Moves.recent (h : Moves g call g' call') : call'.Recent g'.stubs := by
  cases h with
  | add h | remove h => exact h.recent
  | find request h =>
    cases h with
    | remove hu h => exact h.recent
    | scan hf hf' => exact .of_not_removing (Find.not_removing_of_scan hf')
    | miss hf hf' => obtain rfl | ⟨reason, rfl⟩ := hf' <;> trivial
    | stay hf =>
      refine .of_not_removing fun stub update he => ?_
      subst he
      cases hf
    | enter | wait | load | count | serve | depart => trivial
  | clear | getAll | cleared | listed | abandoned => trivial

theorem Recent.mono {cell cell' : Cell (List Stub)} (h : call.Recent cell) (hp : cell.Past cell') :
    call.Recent cell' := by
  cases call with
  | add | remove => exact Update.Recent.mono h hp
  | find request q search =>
    cases search with
    | removing => exact Update.Recent.mono h hp
    | start | queued | scanning | reading | counting | finished | escaped => trivial
  | clear | getAll | abandoned => trivial

def RemovesOnce : Call → Prop
  | .find _ _ (.removing stub _) => stub.configuration.removeAfterMatch
  | _ => True

theorem RemovesOnce.of_not_removing {request : Nat} {q : Find.Query} {search : Find}
    (h : ∀ stub update, search ≠ .removing stub update) : RemovesOnce (.find request q search) := by
  cases search with
  | removing stub update => exact absurd rfl (h stub update)
  | start | queued | scanning | reading | counting | finished | escaped => trivial

theorem Moves.removesOnce (h : Moves g call g' call') (ho : call.RemovesOnce) : call'.RemovesOnce := by
  cases h with
  | find request h =>
    cases h with
    | remove hu h => exact ho
    | count h => exact h
    | scan hf hf' => exact .of_not_removing (Find.not_removing_of_scan hf')
    | miss hf hf' => obtain rfl | ⟨reason, rfl⟩ := hf' <;> trivial
    | stay => exact ho
    | enter | wait | load | serve | depart => trivial
  | add | remove | clear | getAll | cleared | listed | abandoned => trivial

theorem Moves.stubs_subset (h : Moves g call g' call') (hl : g.list ⊆ known) (hn : call.stubs ⊆ known) :
    call'.stubs ⊆ known := by
  cases h with
  | add | remove => exact hn
  | find request h =>
    cases h with
    | load => exact hl
    | scan hf hf' hheld => exact List.Subset.trans hheld hn
    | count | remove | serve | depart | stay => exact hn
    | miss hf hf' =>
      obtain rfl | ⟨reason, rfl⟩ := hf' <;> exact List.nil_subset known
    | enter | wait => exact List.nil_subset known
  | clear | getAll | cleared | listed | abandoned => exact List.nil_subset known

end Call

end StubServer
