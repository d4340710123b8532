import StubServer.Proofs.Request.Bookkeeping

namespace StubServer

open Journal (Side)

namespace Bookkeeping

namespace Mark

variable {side : Side} {history : List Mark}

def after (side : Side) (list : List RecordedRequest) (mark : Mark) : List RecordedRequest :=
  if mark.clears side then [] else list ++ (mark.record? side).toList

theorem sinceClear_concat (mark : Mark) :
    sinceClear side (history ++ [mark]) = after side (sinceClear side history) mark := by
  rw [sinceClear, List.rtakeWhile_concat, after]
  cases hclears : mark.clears side with
  | true => simp
  | false =>
    have hentry : [mark].filterMap (·.record? side) = (mark.record? side).toList := by
      cases h : mark.record? side <;> simp [h]
    simp [sinceClear, hentry]

theorem sinceClear_append_prefix {more : List Mark} (hmore : ∀ mark ∈ more, mark.clears side = false) :
    sinceClear side history <+: sinceClear side (history ++ more) := by
  induction more using List.reverseRecOn with
  | nil => simp
  | append_singleton more mark ih =>
    obtain ⟨hmore, hmark⟩ := List.forall_mem_append.mp hmore
    rw [← List.append_assoc, sinceClear_concat, after,
      if_neg (by simp [hmark mark (List.mem_singleton_self mark)])]
    exact (ih hmore).trans (List.prefix_append _ _)

theorem sinceClear_eq_nil (h : ∀ n r, .published side n r ∉ history) : sinceClear side history = [] := by
  refine List.filterMap_eq_nil_iff.mpr fun mark hmem => ?_
  have hmark : mark ∈ history := (List.rtakeWhile_suffix _ _).subset hmem
  cases mark with
  | published side' n r =>
    refine if_neg ?_
    rintro rfl
    exact h n r hmark
  | cleared | seen => rfl

end Mark

variable {journal journal' : Journal} {call call' : Call}

def Call.Recent (journal : Journal) : Call → Prop
  | .record side _ update => update.Recent (journal.records side)
  | _ => True

def Call.Honest (mode : JournalMode) : Call → Prop
  | .record side _ (.finished result) => result = .ok (mode.keeps side)
  | .record side _ _ => mode.keeps side
  | _ => True

/-- What a step does to the lists, and how that goes down in the history. -/
inductive Effect (journal : Journal) : Journal → List Mark → Prop
  | none : Effect journal journal []
  | publish (side : Side) (n : Nat) (r : RecordedRequest) (hkeeps : journal.mode.keeps side) :
      Effect journal
        (journal.put side ((journal.records side).store ((journal.records side).value ++ [r])))
        [.published side n r]
  | clear (side : Side) (n : Nat) :
      Effect journal (journal.put side ((journal.records side).store [])) [.cleared side n]
  | look (side : Side) (n : Nat) : Effect journal journal [.seen side n (journal.records side).value]

namespace Call

variable {n : Nat}

theorem Moves.effect (h : Moves journal call journal' call') (hrecent : call.Recent journal)
    (hhonest : call.Honest journal.mode) : Effect journal journal' (call.marks n call') := by
  cases h with
  | record h =>
    cases h with
    | load | retry | stay | skip | fail =>
      rw [Journal.put_records]
      exact .none
    | @publish seen next h hv =>
      have hpast : seen.Past (journal.records _) := hrecent
      obtain rfl := hpast.eq_of_version hv
      cases h
      exact .publish _ n _ hhonest
  | @clear done side h =>
    have hmarks : Call.marks n (.clear done) (.clear (done ++ [side])) = [.cleared side n] := by
      simp [marks]
    rw [hmarks]
    exact .clear side n
  | @cleared done h =>
    have hmarks : Call.marks n (.clear done) (.clear done) = [] := by simp [marks]
    rw [hmarks]
    exact .none
  | look side => exact .look side n
  | looked => exact .none

theorem Moves.trace (h : Moves journal call journal' call') :
    call.trace n ++ call.marks n call' = call'.trace n := by
  cases h with
  | record h => cases h <;> simp [Call.trace, marks]
  | clear | cleared | look | looked => simp [Call.trace, marks]

theorem Moves.recent (h : Moves journal call journal' call') : call'.Recent journal' := by
  cases h with
  | record h =>
    rw [Recent, Journal.records_put_self]
    exact h.recent
  | clear | cleared | look | looked => trivial

theorem Moves.honest (h : Moves journal call journal' call') {mode : JournalMode}
    (hhonest : call.Honest mode) :
    call'.Honest mode := by
  cases h with
  | record h =>
    cases h with
    | load | retry | stay => exact hhonest
    | publish => exact congrArg Except.ok hhonest.symm
    | skip h | fail h => cases h
  | clear | cleared | look | looked => trivial

theorem Recent.mono (h : call.Recent journal)
    (hpast : ∀ side, (journal.records side).Past (journal'.records side)) :
    call.Recent journal' := by
  cases call with
  | record side r update => exact Update.Recent.mono h (hpast side)
  | clear | snapshot => trivial

end Call

theorem Effect.past {marks : List Mark} (h : Effect journal journal' marks) (side : Side) :
    (journal.records side).Past (journal'.records side) := by
  cases h with
  | none | look => exact .refl _
  | publish | clear => exact Journal.past_put (Cell.past_store _ _) side

theorem Effect.mode_eq {marks : List Mark} (h : Effect journal journal' marks) :
    journal'.mode = journal.mode := by
  cases h with
  | none | look => rfl
  | publish | clear => exact Journal.mode_put

section Step

variable {mode : JournalMode} {b b' : Bookkeeping} {event : Event} {marks history : List Mark} {n : Nat}

theorem Effect.kept (h : Effect journal journal' marks)
    (hkept : ∀ side, (journal.records side).value = Mark.sinceClear side history) (side : Side) :
    (journal'.records side).value = Mark.sinceClear side (history ++ marks) := by
  cases h with
  | none => rw [List.append_nil, hkept]
  | look => simp [Mark.sinceClear_concat, Mark.after, Mark.clears, Mark.record?, hkept]
  | publish side' n r =>
    rw [Mark.sinceClear_concat, ← hkept, Mark.after]
    by_cases hside : side = side'
    · subst hside
      simp [Mark.clears, Mark.record?, Cell.store]
    · simp [Mark.clears, Mark.record?, Journal.records_put_of_ne hside, Ne.symm hside]
  | clear side' n =>
    rw [Mark.sinceClear_concat, ← hkept, Mark.after]
    by_cases hside : side = side'
    · subst hside
      simp [Mark.clears, Cell.store]
    · simp [Mark.clears, Mark.record?, Journal.records_put_of_ne hside, Ne.symm hside]

/-- Every list that was seen is what had been published until then since the list was cleared last. -/
def Shown (history : List Mark) : Prop := ∀ (i : Nat) (side : Side) (n : Nat)
    (list : List RecordedRequest),
  history[i]? = some (.seen side n list) → list = Mark.sinceClear side (history.take i)

theorem Shown.concat (h : Shown history) {mark : Mark}
    (hmark : ∀ side n list, mark = .seen side n list → list = Mark.sinceClear side history) :
    Shown (history ++ [mark]) := by
  intro i side n list hi
  obtain hold | ⟨rfl, hnew⟩ := getElem?_concat_cases hi
  · have hlt : i < history.length := (List.getElem?_eq_some_iff.mp hold).1
    rw [List.take_append_of_le_length (Nat.le_of_lt hlt)]
    exact h i side n list hold
  · rw [List.take_left]
    exact hmark side n list hnew.symm

theorem Effect.shown (h : Effect journal journal' marks)
    (hkept : ∀ side, (journal.records side).value = Mark.sinceClear side history)
      (hshown : Shown history) :
    Shown (history ++ marks) := by
  cases h with
  | none => rwa [List.append_nil]
  | publish | clear => exact hshown.concat nofun
  | look side n =>
    refine hshown.concat fun side' n' list hmark => ?_
    cases hmark
    exact hkept side

theorem Effect.keeps (h : Effect journal journal' marks) {side : Side} {r : RecordedRequest}
    (hmem : .published side n r ∈ marks) : journal.mode.keeps side := by
  cases h with
  | none => cases hmem
  | publish _ _ _ hkeeps =>
    cases List.mem_singleton.mp hmem
    exact hkeeps
  | clear | look => cases List.mem_singleton.mp hmem

namespace Call

theorem caller_of_mem_marks {mark : Mark} (h : mark ∈ call.marks n call') : mark.caller = n := by
  unfold marks at h
  split at h
  · cases List.mem_singleton.mp h
    rfl
  · obtain ⟨side, -, rfl⟩ := List.mem_map.mp h
    rfl
  · cases List.mem_singleton.mp h
    rfl
  · cases h

theorem filter_marks_self : (call.marks n call').filter (·.caller = n) = call.marks n call' :=
  List.filter_eq_self.mpr fun _ hmark => decide_eq_true (caller_of_mem_marks hmark)

theorem filter_marks_of_ne {m : Nat} (h : m ≠ n) : (call.marks n call').filter (·.caller = m) = [] :=
  List.filter_eq_nil_iff.mpr fun _ hmark => by simpa [caller_of_mem_marks hmark] using h.symm

end Call

theorem trace_call (mode : JournalMode) (task : Task) : (task.call mode).trace n = [] := by
  cases task with
  | record side r => cases h : mode.keeps side <;> simp [Task.call, h, Call.trace]
  | clear | snapshot => rfl

theorem recent_call (mode : JournalMode) (task : Task) (journal : Journal) :
    (task.call mode).Recent journal := by
  cases task with
  | record side r => cases h : mode.keeps side <;> simp [Task.call, h, Call.Recent, Update.Recent]
  | clear | snapshot => trivial

theorem honest_call (mode : JournalMode) (task : Task) : (task.call mode).Honest mode := by
  cases task with
  | record side r => cases h : mode.keeps side <;> simp [Task.call, h, Call.Honest]
  | clear | snapshot => trivial

/-- What holds after every sequence of events: the history is right about the lists and about what
the callers have seen and done, and every call under way works on a list of the past. -/
structure Sound (mode : JournalMode) (b : Bookkeeping) : Prop where
  mode_eq : b.journal.mode = mode
  kept : ∀ side, (b.journal.records side).value = Mark.sinceClear side b.history
  shown : Shown b.history
  keeps : ∀ side n r, .published side n r ∈ b.history → mode.keeps side
  accounts : ∀ n, b.history.filter (·.caller = n) = (b.calls[n]?.map (·.trace n)).getD []
  recent : ∀ (n : Nat) (call : Call), b.calls[n]? = some call → call.Recent b.journal
  honest : ∀ (n : Nat) (call : Call), b.calls[n]? = some call → call.Honest mode

theorem sound_start (mode : JournalMode) : Sound mode (start mode) where
  mode_eq := rfl
  kept side := by cases side <;> rfl
  shown := nofun
  keeps := nofun
  accounts n := rfl
  recent := nofun
  honest := nofun

theorem accounts_opens {calls : List Call} {call : Call} (hcall : ∀ n, call.trace n = []) (n : Nat) :
    ((calls ++ [call])[n]?.map (·.trace n)).getD [] = (calls[n]?.map (·.trace n)).getD [] := by
  obtain hlt | rfl | hgt := Nat.lt_trichotomy n calls.length
  · rw [List.getElem?_append_left hlt]
  · simp [hcall]
  · rw [List.getElem?_eq_none (Nat.le_of_lt hgt), List.getElem?_eq_none (by simp; omega)]

theorem accounts_advances {calls : List Call} (hn : calls[n]? = some call)
    (hm : Call.Moves journal call journal' call')
    (haccounts : ∀ m, history.filter (·.caller = m) = (calls[m]?.map (·.trace m)).getD []) (m : Nat) :
    (history ++ call.marks n call').filter (·.caller = m) =
      ((calls.set n call')[m]?.map (·.trace m)).getD [] := by
  rw [List.filter_append, haccounts]
  by_cases hmn : m = n
  · subst hmn
    rw [Call.filter_marks_self, List.getElem?_set_self (List.getElem?_eq_some_iff.mp hn).1, hn]
    exact hm.trace
  · rw [Call.filter_marks_of_ne hmn, List.append_nil, List.getElem?_set_ne (Ne.symm hmn)]

theorem sound_step (h : Sound mode b) (hm : b.Moves event b') : Sound mode b' := by
  cases hm with
  | opens task =>
    refine { h with
      accounts := fun n => ?_
      recent := fun n call hn => ?_
      honest := fun n call hn => ?_ }
    · rw [accounts_opens fun n => trace_call _ task]
      exact h.accounts n
    · obtain hn | ⟨-, rfl⟩ := getElem?_concat_cases hn
      · exact h.recent n call hn
      · exact recent_call _ task _
    · obtain hn | ⟨-, rfl⟩ := getElem?_concat_cases hn
      · exact h.honest n call hn
      · exact h.mode_eq ▸ honest_call _ task
  | @advances n call call' journal hn hm =>
    have heffect := hm.effect (h.recent n call hn) (h.mode_eq ▸ h.honest n call hn) (n := n)
    refine ⟨heffect.mode_eq.trans h.mode_eq, heffect.kept h.kept, heffect.shown h.kept h.shown,
      fun side m r hmem => ?_,
      accounts_advances hn hm h.accounts, fun m other hother => ?_, fun m other hother => ?_⟩
    · obtain hmem | hmem := List.mem_append.mp hmem
      · exact h.keeps side m r hmem
      · exact h.mode_eq ▸ heffect.keeps hmem
    · obtain ⟨rfl, rfl⟩ | ⟨-, hold⟩ := getElem?_set_cases hother
      · exact hm.recent
      · exact (h.recent m other hold).mono heffect.past
    · obtain ⟨rfl, rfl⟩ | ⟨-, hold⟩ := getElem?_set_cases hother
      · exact hm.honest (h.honest _ call hn)
      · exact h.honest m other hold
  | idle => exact h

theorem sound_run (mode : JournalMode) (events : List Event) : Sound mode (run mode events) :=
  List.foldlRecOn events step (sound_start mode) fun b h event _ => sound_step h (moves_step b event)

theorem Shown.isPrefix (h : Shown history) {i j m : Nat} {side : Side}
    {earlier later : List RecordedRequest}
    (hij : i ≤ j) (hi : history[i]? = some (.seen side m earlier))
      (hj : history[j]? = some (.seen side n later))
    (hbetween : ∀ k mark, i < k → k < j → history[k]? = some mark → mark.clears side = false) :
    earlier <+: later := by
  rw [h i side m earlier hi, h j side n later hj]
  have hsplit : history.take j = history.take i ++ (history.take j).drop i := by
    conv_lhs => rw [← List.take_append_drop i (history.take j), List.take_take, Nat.min_eq_left hij]
  rw [hsplit]
  refine Mark.sinceClear_append_prefix fun mark hmark => ?_
  obtain ⟨p, hp⟩ := List.mem_iff_getElem?.mp hmark
  rw [List.getElem?_drop, List.getElem?_take] at hp
  split at hp
  case isTrue hlt =>
    obtain rfl | hpos := Nat.eq_zero_or_pos p
    · cases hi.symm.trans hp
      rfl
    · exact hbetween (i + p) mark (by omega) hlt hp
  case isFalse => cases hp

theorem Sound.recorded (h : Sound mode b) {side : Side} {r : RecordedRequest}
    {result : Except Empty Bool} (hn : b.calls[n]? = some (.record side r (.finished result))) :
    b.history.filter (·.caller = n) = if mode.keeps side then [.published side n r] else [] := by
  obtain rfl : result = .ok (mode.keeps side) := h.honest n _ hn
  rw [h.accounts, hn]
  cases hkeeps : mode.keeps side <;> rfl

theorem Sound.lean_published (h : Sound .lean b) (n : Nat) (r : RecordedRequest) :
    .published .matched n r ∉ b.history := fun hmem => nomatch h.keeps .matched n r hmem

theorem Sound.lean_seen (h : Sound .lean b) {list : List RecordedRequest}
    (hmem : .seen .matched n list ∈ b.history) :
    list = [] := by
  obtain ⟨i, hi⟩ := List.mem_iff_getElem?.mp hmem
  rw [h.shown i .matched n list hi]
  exact Mark.sinceClear_eq_nil fun m r hm => h.lean_published m r (List.mem_of_mem_take hm)

theorem Call.Moves.isDone {journal'' : Journal} {call'' : Call}
    (h : Call.Moves journal call journal' call')
    (h' : Call.Moves journal' call' journal'' call'') : call''.isDone := by
  cases h with
  | record h =>
    cases h' with
    | record h' =>
      rw [Journal.records_put_self] at h'
      obtain ⟨result, rfl⟩ := h.finishes_next h'
      rfl
  | clear =>
    cases h' with
    | clear => simp [Call.isDone, Journal.sides]
    | cleared h' => exact decide_eq_true (List.getElem?_eq_none_iff.mp h')
  | cleared h =>
    cases h' with
    | clear h' => cases h.symm.trans h'
    | cleared => exact decide_eq_true (List.getElem?_eq_none_iff.mp h)
  | look | looked =>
    cases h'
    rfl

theorem step_advance (hn : b.calls[n]? = some call) :
    (b.step (.advance n)).journal = (call.step b.journal).1 ∧
    (b.step (.advance n)).calls[n]? = some (call.step b.journal).2 := by
  simp only [step, hn, List.getElem?_set_self (List.getElem?_eq_some_iff.mp hn).1, and_self]

theorem isDone_advance (hn : b.calls[n]? = some call) :
    ∃ call', ((b.step (.advance n)).step (.advance n)).calls[n]? = some call' ∧ call'.isDone := by
  obtain ⟨hjournal, hfirst⟩ := step_advance hn
  obtain ⟨-, hsecond⟩ := step_advance hfirst
  rw [hjournal] at hsecond
  exact ⟨_, hsecond, (Call.moves_step b.journal call).isDone (Call.moves_step _ _)⟩

end Step

/-- A journal in use by any callers, and what its history says of them. -/
structure Faithful (mode : JournalMode) (b : Bookkeeping) : Prop where
  /-- A list is what was published to it since it was cleared last, in that order. -/
  kept : ∀ side, (b.journal.records side).value = Mark.sinceClear side b.history
  /-- So is every list that was seen, for the moment at which it was. -/
  shown : Shown b.history
  grows : ∀ (i j m n : Nat) (side : Side) (earlier later : List RecordedRequest), i ≤ j →
    b.history[i]? = some (.seen side m earlier) → b.history[j]? = some (.seen side n later) →
    (∀ k mark, i < k → k < j → b.history[k]? = some mark → mark.clears side = false) → earlier <+: later
  /-- The history has of each call what the call has done so far. -/
  accounts : ∀ n, b.history.filter (·.caller = n) = (b.calls[n]?.map (·.trace n)).getD []
  recorded : ∀ (n : Nat) (side : Side) (r : RecordedRequest) (result : Except Empty Bool),
    b.calls[n]? = some (.record side r (.finished result)) →
    b.history.filter (·.caller = n) = if mode.keeps side then [.published side n r] else []
  lean : mode = .lean → b.journal.matched.value = [] ∧
    ∀ n list, .seen .matched n list ∈ b.history → list = []

/-- For every schedule: no list loses, repeats or misplaces what was published to it, what callers
see of a list only grows until it is cleared, a request that is kept is published once by its call
and by no other, and the matched requests of a lean journal are never seen or kept. Nobody's call
goes on forever once it is left alone. -/
theorem faithful_run (mode : JournalMode) (events : List Event) : Faithful mode (run mode events) ∧
    ∀ (n : Nat) (call : Call), (run mode events).calls[n]? = some call →
      ∃ call', (run mode (events ++ [.advance n, .advance n])).calls[n]? = some call' ∧
        call'.isDone := by
  have hsound := sound_run mode events
  refine ⟨⟨hsound.kept, hsound.shown, fun i j m n side earlier later =>
    hsound.shown.isPrefix, hsound.accounts,
    fun n side r result => hsound.recorded, fun hmode => ?_⟩, fun n call hn => ?_⟩
  · subst hmode
    exact ⟨(hsound.kept .matched).trans (Mark.sinceClear_eq_nil hsound.lean_published),
      fun n list => hsound.lean_seen⟩
  · rw [run_append]
    exact isDone_advance hn

/-- Two callers have loaded the same list. The second finds out when it wants to publish, and begins
again; others look at the list before and after that. A lean journal has nothing to show for it. -/
theorem faithful_run_race :
    let first : RecordedRequest := ⟨"GET", "/first", [], ⟨0, 0⟩⟩
    let second : RecordedRequest := ⟨"GET", "/second", [], ⟨0, 0⟩⟩
    let events := [.call (.record .matched first), .call (.record .matched second),
      .call (.snapshot .matched),
      .call (.snapshot .matched), .advance 0, .advance 1, .advance 0, .advance 2, .advance 1,
        .advance 1, .advance 3]
    let b := run .full events
    (b.calls[1]? = some (.record .matched second (.finished (.ok true))) ∧
      b.history.filter (·.caller = 1) = [.published .matched 1 second] ∧
      (b.journal.records .matched).value = [first, second]) ∧
    (b.history[1]? = some (.seen .matched 2 [first]) ∧
      b.history[3]? = some (.seen .matched 3 [first, second]) ∧ [first] <+: [first, second]) ∧
    (∃ call, (run .full (events ++ [.advance 3, .advance 3])).calls[3]? = some call ∧ call.isDone) ∧
    (run .lean events).journal.matched.value = [] := by
  intro first second events b
  have hfaithful : Faithful .full b := (faithful_run .full events).1
  have hrun : b = ⟨⟨.full, ⟨[first, second], 2⟩, .new []⟩,
      [.record .matched first (.finished (.ok true)), .record .matched second (.finished (.ok true)),
        .snapshot .matched (some [first]), .snapshot .matched (some [first, second])],
      [.published .matched 0 first, .seen .matched 2 [first], .published .matched 1 second,
        .seen .matched 3 [first, second]]⟩ := by
    simp [b, events, run, start, step, Task.call, JournalMode.keeps, Call.step, Call.marks,
      Update.step, Journal.put,
      Journal.records, Journal.new, Journal.adding, Cell.new, Cell.replace?, Cell.store]
  have hcall : b.calls[1]? = some (.record .matched second (.finished (.ok true))) := by rw [hrun]; rfl
  have hlooked : b.calls[3]? = some (.snapshot .matched (some [first, second])) := by rw [hrun]; rfl
  have hearlier : b.history[1]? = some (.seen .matched 2 [first]) := by rw [hrun]; rfl
  have hlater : b.history[3]? = some (.seen .matched 3 [first, second]) := by rw [hrun]; rfl
  refine ⟨⟨hcall, hfaithful.recorded 1 _ _ _ hcall, ?_⟩, ⟨hearlier, hlater, ?_⟩,
    (faithful_run .full events).2 3 _ hlooked, ((faithful_run .lean events).1.lean rfl).1⟩
  · rw [hfaithful.kept .matched, hrun]
    rfl
  · refine hfaithful.grows 1 3 2 3 .matched _ _ (by decide) hearlier hlater
      fun k mark hlow hhigh hk => ?_
    obtain rfl : k = 2 := by omega
    rw [hrun] at hk
    cases hk
    rfl

end Bookkeeping

end StubServer
