import StubServer.Proofs.Shared.Update
import StubServer.Stub.Find

namespace StubServer.Find

def isScanning : Find → Bool
  | .scanning _ | .reading .. => true
  | _ => false

/-- The find has loaded the list and has not finished with its match. -/
def isSearching : Find → Bool
  | .scanning _ | .reading .. | .counting _ | .removing .. => true
  | _ => false

/-- The stubs that the find has in hand: it may come to return one of them, or has returned it. -/
def held : Find → List Stub
  | .scanning rest => rest
  | .reading stub _ rest _ => stub :: rest
  | .counting stub | .removing stub _ | .finished (some stub) => [stub]
  | _ => []

theorem isSearching_of_isScanning {find : Find} (h : find.isScanning) : find.isSearching := by
  cases find with
  | scanning | reading => rfl
  | start | queued | counting | removing | finished | escaped => cases h

theorem not_removing_of_scan {find : Find} (h : find.isScanning ∨ ∃ stub, find = .counting stub)
    (stub : Stub) (update : Update (List Stub) Empty) : find ≠ .removing stub update := by
  rintro rfl
  obtain h | ⟨_, h⟩ := h <;> cases h

inductive Moves (q : Query) : Registry → Find → Registry → Find → Prop
  | enter (g : Registry) : Moves q g .start { g with queue := g.queue ++ [q.me] } .queued
  | wait {g : Registry} (h : g.queue.head? ≠ some q.me) : Moves q g .queued g .queued
  | load {g : Registry} (h : g.queue.head? = some q.me) : Moves q g .queued g (.scanning g.list)
  | scan (g : Registry) {find find' : Find} (h : find.isScanning)
      (h' : find'.isScanning ∨ ∃ stub, find' = .counting stub) (hheld : find'.held ⊆ find.held) :
      Moves q g find g find'
  | miss (g : Registry) {find find' : Find} (h : find.isScanning)
      (h' : find' = .finished none ∨ ∃ reason, find' = .escaped reason) :
      Moves q g find (g.leave q.me) find'
  | count (g : Registry) {stub : Stub} (h : stub.configuration.removeAfterMatch = true) :
      Moves q g (.counting stub) (g.count stub) (.removing stub .start)
  | serve (g : Registry) {stub : Stub} (h : stub.configuration.removeAfterMatch = false) :
      Moves q g (.counting stub) ((g.count stub).leave q.me) (.finished (some stub))
  | remove {g : Registry} {stub : Stub} {update update' : Update (List Stub) Empty}
      {stubs : Cell (List Stub)} (hu : ∀ result, update ≠ .finished result)
      (h : Update.Moves (Registry.removing stub) g.stubs update stubs update') :
      Moves q g (.removing stub update) { g with stubs } (.removing stub update')
  | depart (g : Registry) (stub : Stub) (result : Except Empty Bool) :
      Moves q g (.removing stub (.finished result)) (g.leave q.me) (.finished (some stub))
  | stay (g : Registry) {find : Find} (h : find.isOver) : Moves q g find g find

variable {q : Query} {find : Find} {stub : Stub} {rest : List Stub}

theorem moves_proceed (world : World) (h : find.isScanning) (hstub : stub ∈ find.held)
    (hrest : rest ⊆ find.held) (ruling : Matching.Ruling) :
    Moves q world.registry find (proceed q world stub rest ruling).1.registry
      (proceed q world stub rest ruling).2 := by
  cases ruling with
  | escaped reason => exact .miss _ h (.inr ⟨reason, rfl⟩)
  | settled result =>
    cases result with
    | error e => exact .scan _ h (.inl rfl) hrest
    | ok passed =>
      cases passed with
      | false => exact .scan _ h (.inl rfl) hrest
      | true => exact .scan _ h (.inr ⟨stub, rfl⟩) (List.cons_subset.mpr ⟨hstub, List.nil_subset _⟩)

theorem moves_step (q : Query) (world : World) (find : Find) :
    Moves q world.registry find (find.step q world).1.registry (find.step q world).2 := by
  cases find with
  | start => exact .enter _
  | queued =>
    by_cases h : world.registry.queue.head? = some q.me
    · simp only [step, if_pos h]
      exact .load h
    · simp only [step, if_neg h]
      exact .wait h
  | scanning rest =>
    cases rest with
    | nil => exact .miss _ rfl (.inl rfl)
    | cons stub rest =>
      simp only [step]
      split
      · exact moves_proceed world rfl List.mem_cons_self (List.subset_cons_self stub rest) _
      · exact .scan _ rfl (.inl rfl) (List.Subset.refl _)
  | reading stub rule rest reader =>
    cases reader with
    | finished result =>
      exact moves_proceed (world.report (rule result).log) rfl List.mem_cons_self
        (List.subset_cons_self stub rest) _
    | start | queued | draining | awaiting => exact .scan _ rfl (.inl rfl) (List.Subset.refl _)
  | counting stub =>
    cases h : stub.configuration.removeAfterMatch with
    | true =>
      simp only [step, h, if_true]
      exact .count _ h
    | false =>
      simp only [step, h, Bool.false_eq_true, if_false]
      exact .serve _ h
  | removing stub update =>
    cases update with
    | finished result => exact .depart _ stub result
    | start | working => exact .remove (by simp) (Update.moves_step _ _ _)
  | finished found => exact .stay _ rfl
  | escaped reason => exact .stay _ rfl

end StubServer.Find
