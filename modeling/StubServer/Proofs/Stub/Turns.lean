import StubServer.Proofs.Stub.Runs

namespace StubServer

namespace Call

def number? : Call → Option Nat
  | .find _ q _ => some q.me
  | _ => none

def isSearching : Call → Bool
  | .find _ _ search => search.isSearching
  | _ => false

/-- The call is a find that has its turn or waits for it. -/
def isInLine : Call → Bool
  | .find _ _ .queued => true
  | call => call.isSearching

theorem isInLine_of_isSearching {call : Call} (h : call.isSearching) : call.isInLine := by
  cases call with
  | find request q search =>
    cases search with
    | queued => rfl
    | start | scanning | reading | counting | removing | finished | escaped => exact h
  | add | remove | clear | getAll | abandoned => cases h

theorem isSearching_of_isInLine {call : Call} (h : call.isInLine = false) :
    call.isSearching = false := by
  refine eq_false_of_ne_true fun hs => ?_
  rw [isInLine_of_isSearching hs] at h
  cases h

inductive Turn (n : Nat) (queue : List Nat) (call call' : Call) : List Nat → Prop
  | keep (hline : call'.isInLine = call.isInLine)
      (hturn : call'.isSearching → call.isSearching ∨ queue.head? = some n) :
      Turn n queue call call' queue
  | join (hout : call.isInLine = false) (hin : call'.isInLine) (hwait : call'.isSearching = false) :
      Turn n queue call call' (queue ++ [n])
  | leave (hout : call'.isInLine = false) : Turn n queue call call' (queue.erase n)

variable {g g' : Registry} {call call' : Call} {n : Nat}

theorem Moves.number? (h : Moves g call g' call') : call'.number? = call.number? := by
  cases h <;> rfl

theorem isInLine_find {request : Nat} {q : Find.Query} {search : Find} (h : search.isSearching) :
    (Call.find request q search).isInLine :=
  isInLine_of_isSearching h

theorem Moves.turn (h : Moves g call g' call') (hn : ∀ m ∈ call.number?, m = n) :
    Turn n g.queue call call' g'.queue := by
  cases h with
  | find request h =>
    rename_i q search search'
    obtain rfl : q.me = n := hn q.me rfl
    cases h with
    | enter => exact .join rfl rfl rfl
    | wait => exact .keep rfl fun h => .inl h
    | load h => exact .keep rfl fun _ => .inr h
    | scan hf hf' =>
      have hs := Find.isSearching_of_isScanning hf
      have hs' : search'.isSearching := by
        obtain hf' | ⟨stub, rfl⟩ := hf'
        · exact Find.isSearching_of_isScanning hf'
        · rfl
      exact .keep ((isInLine_find hs').trans (isInLine_find hs).symm) fun _ => .inl hs
    | miss hf hf' => obtain rfl | ⟨reason, rfl⟩ := hf' <;> exact .leave rfl
    | count | remove => exact .keep rfl fun h => .inl h
    | serve | depart => exact .leave rfl
    | stay => exact .keep rfl fun h => .inl h
  | add | remove | clear | getAll | cleared | listed | abandoned => exact .keep rfl fun h => .inl h

end Call

namespace Traffic

variable {t t' : Traffic}

/-- Every find queues under its own number, the queue holds exactly the finds that have asked for a
turn and not yet finished, and a find that searches is the first of them. -/
structure Orderly (t : Traffic) : Prop where
  own : ∀ (n : Nat) (call : Call), t.calls[n]? = some call → ∀ m ∈ call.number?, m = n
  nodup : t.registry.queue.Nodup
  mem_iff : ∀ n, n ∈ t.registry.queue ↔ ∃ call, t.calls[n]? = some call ∧ call.isInLine
  first : ∀ (n : Nat) (call : Call), t.calls[n]? = some call → call.isSearching →
    t.registry.queue.head? = some n

theorem Orderly.eq_of_searching (h : t.Orderly) {i j : Nat} {a b : Call} (hi : t.calls[i]? = some a)
    (ha : a.isSearching) (hj : t.calls[j]? = some b) (hb : b.isSearching) : i = j :=
  Option.some.inj ((h.first i a hi ha).symm.trans (h.first j b hj hb))

theorem Orderly.inTurn (h : t.Orderly) :
    InTurn Call.isInLine Call.isSearching t.registry.queue t.calls :=
  ⟨h.nodup, h.mem_iff, h.first⟩

theorem orderly_of_inTurn (hown : ∀ (n : Nat) (call : Call), t.calls[n]? = some call →
    ∀ m ∈ call.number?, m = n)
    (h : InTurn Call.isInLine Call.isSearching t.registry.queue t.calls) : t.Orderly :=
  ⟨hown, h.nodup, h.mem_iff, h.first⟩

theorem orderly_of_turn {n : Nat} {call call' : Call} (h : t.Orderly) (hn : t.calls[n]? = some call)
    (hnum : ∀ m ∈ call'.number?, m = n)
    (hturn : Call.Turn n t.registry.queue call call' t'.registry.queue)
    (hc : t'.calls = t.calls.set n call') : t'.Orderly := by
  refine orderly_of_inTurn (fun m c hm => ?_) ?_
  · obtain ⟨rfl, rfl⟩ | ⟨_, hm⟩ := getElem?_set_cases (hc ▸ hm)
    · exact hnum
    · exact h.own m c hm
  · rw [hc]
    generalize t'.registry.queue = queue at hturn
    cases hturn with
    | keep hline hfirst => exact h.inTurn.keep hn hline fun hs => (hfirst hs).elim (h.first n call hn) id
    | join hout hin hwait => exact h.inTurn.join hn hout hin hwait
    | leave hout => exact h.inTurn.leave hout (Call.isSearching_of_isInLine hout)

theorem orderly_of_quiet (h : t.Orderly) (hr : t'.registry = t.registry) (hc : t'.calls = t.calls) :
    t'.Orderly :=
  ⟨hc ▸ h.own, hr ▸ h.nodup, hr ▸ hc ▸ h.mem_iff, hr ▸ hc ▸ h.first⟩

theorem Opens.isInLine {call : Call} (h : t.Opens call) : call.isInLine = false := by
  cases h <;> rfl

theorem Opens.number? {call : Call} (h : t.Opens call) : ∀ m ∈ call.number?, m = t.calls.length := by
  cases h with
  | find request hq =>
    intro m hm
    obtain rfl := Option.some.inj hm
    exact hq
  | add | remove | clear | getAll =>
    intro m hm
    cases hm

theorem orderly_of_opens {call : Call} (h : t.Orderly) (ho : t.Opens call)
    (hr : t'.registry = t.registry) (hc : t'.calls = t.calls ++ [call]) : t'.Orderly := by
  refine orderly_of_inTurn (fun n c hn => ?_) ?_
  · obtain hn | ⟨rfl, rfl⟩ := getElem?_concat_cases (hc ▸ hn)
    · exact h.own n c hn
    · exact ho.number?
  · rw [hr, hc]
    exact h.inTurn.arrive ho.isInLine (Call.isSearching_of_isInLine ho.isInLine)

theorem orderly_step (h : t.Orderly) (event : Event) : (t.step event).Orderly := by
  cases t.moves_step event with
  | quiet hr hc => exact orderly_of_quiet h hr hc
  | opens ho hr hc => exact orderly_of_opens h ho hr hc
  | moves hn hm hc =>
    have hown := h.own _ _ hn
    exact orderly_of_turn h hn (fun m hmem => hown m (hm.number? ▸ hmem)) (hm.turn hown) hc
  | abandons hn hw hr hc =>
    rename_i n request q search
    obtain rfl : q.me = n := h.own _ _ hn q.me rfl
    have hnone : ∀ m ∈ Call.abandoned.number?, m = q.me := by
      intro m hm
      cases hm
    refine orderly_of_turn h hn hnone ?_ hc
    rw [hr]
    exact .leave rfl

theorem orderly_start (requests : Nat → Request) : (start requests).Orderly := by
  refine orderly_of_inTurn (fun n call hn => ?_) (.empty ?_ ?_)
  · cases hn
  · simp [start]
  · simp [start]

theorem orderly_run (requests : Nat → Request) (events : List Event) : (run requests events).Orderly :=
  List.foldlRecOn events step (orderly_start requests) fun _ h event _ => orderly_step h event

theorem Orderly.queue_eq_nil (h : t.Orderly) (hn : ∀ call ∈ t.calls, call.isInLine = false) :
    t.registry.queue = [] := by
  refine List.eq_nil_iff_forall_not_mem.mpr fun n hmem => ?_
  obtain ⟨call, hcall, hline⟩ := (h.mem_iff n).mp hmem
  rw [hn call (List.mem_of_getElem? hcall)] at hline
  cases hline

end Traffic

end StubServer
