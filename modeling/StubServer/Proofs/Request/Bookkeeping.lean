import Mathlib.Data.List.DropRight
import Mathlib.Data.List.Induction
import StubServer.Proofs.Shared.Queue
import StubServer.Proofs.Shared.Update
import StubServer.Request.Journal

namespace StubServer

inductive Journal.Side where
  | matched
  | unmatched
  deriving DecidableEq

open Journal (Side)

def JournalMode.keeps : JournalMode → Side → Bool
  | .lean, .matched => false
  | _, _ => true

namespace Journal

/-- The lists, in the order in which they are cleared. -/
def sides : List Side := [.matched, .unmatched]

def records (journal : Journal) : Side → Records
  | .matched => journal.matched
  | .unmatched => journal.unmatched

def put (journal : Journal) (side : Side) (records : Records) : Journal :=
  match side with
  | .matched => { journal with matched := records }
  | .unmatched => { journal with unmatched := records }

variable {journal : Journal} {side other : Side} {cell : Records}

@[simp]
theorem mode_put : (journal.put side cell).mode = journal.mode := by
  cases side <;> rfl

@[simp]
theorem records_put_self : (journal.put side cell).records side = cell := by
  cases side <;> rfl

theorem records_put_of_ne (h : other ≠ side) :
    (journal.put side cell).records other = journal.records other := by
  cases side <;> cases other <;> first | rfl | exact absurd rfl h

@[simp]
theorem put_records : journal.put side (journal.records side) = journal := by
  cases side <;> rfl

theorem past_put (h : (journal.records side).Past cell) (other : Side) :
    (journal.records other).Past ((journal.put side cell).records other) := by
  by_cases hother : other = side
  · subst hother
    rwa [records_put_self]
  · rw [records_put_of_ne hother]
    exact .refl _

end Journal

namespace Bookkeeping

/-- What happened to the lists, by whom: a request was published, a list was cleared, a list was seen. -/
inductive Mark where
  | published (side : Side) (caller : Nat) (r : RecordedRequest)
  | cleared (side : Side) (caller : Nat)
  | seen (side : Side) (caller : Nat) (list : List RecordedRequest)

namespace Mark

def caller : Mark → Nat
  | .published _ n _ | .cleared _ n | .seen _ n _ => n

def clears (side : Side) : Mark → Bool
  | .cleared side' _ => side' = side
  | _ => false

def record? (side : Side) : Mark → Option RecordedRequest
  | .published side' _ r => if side' = side then some r else none
  | _ => none

/-- What was published to the list after it was cleared last, in order. -/
def sinceClear (side : Side) (history : List Mark) : List RecordedRequest :=
  (history.rtakeWhile (!·.clears side)).filterMap (·.record? side)

end Mark

/-- A call on the journal, as far as it has come; clearing has come as far as the lists that are done. -/
inductive Call where
  | record (side : Side) (r : RecordedRequest) (update : Update (List RecordedRequest) Empty)
  | clear (done : List Side)
  | snapshot (side : Side) (seen : Option (List RecordedRequest))

inductive Task where
  | record (side : Side) (r : RecordedRequest)
  | clear
  | snapshot (side : Side)

/-- The call that has not begun. Nothing is left to do for a request that the journal does not keep.
-/
def Task.call (mode : JournalMode) : Task → Call
  | .record side r => .record side r (if mode.keeps side then .start else .finished (.ok false))
  | .clear => .clear []
  | .snapshot side => .snapshot side none

namespace Call

def step (journal : Journal) : Call → Journal × Call
  | .record side r update =>
    let (records, update) := update.step (Journal.adding r) (journal.records side)
    (journal.put side records, .record side r update)
  | .clear done =>
    match Journal.sides[done.length]? with
    | some side => (journal.put side ((journal.records side).store []), .clear (done ++ [side]))
    | none => (journal, .clear done)
  | .snapshot side none => (journal, .snapshot side (some (journal.records side).value))
  | .snapshot side (some list) => (journal, .snapshot side (some list))

def marks (n : Nat) : Call → Call → List Mark
  | .record side r (.working _), .record _ _ (.finished (.ok true)) => [.published side n r]
  | .clear done, .clear done' => (done'.drop done.length).map (.cleared · n)
  | .snapshot side none, .snapshot _ (some list) => [.seen side n list]
  | _, _ => []

/-- What has happened up to the point the call has come to. -/
def trace (n : Nat) : Call → List Mark
  | .record side r (.finished (.ok true)) => [.published side n r]
  | .clear done => done.map (.cleared · n)
  | .snapshot side (some list) => [.seen side n list]
  | _ => []

def isDone : Call → Bool
  | .record _ _ (.finished _) => true
  | .clear done => Journal.sides.length ≤ done.length
  | .snapshot _ seen => seen.isSome
  | _ => false

end Call

inductive Event where
  | call (task : Task)
  | advance (n : Nat)

end Bookkeeping

/-- A journal in use, with the calls in the order in which the callers came, and its history. A
schedule says who takes the next step, be it to load a list, to swap it or to store an empty one, so
that every schedule is an interleaving. -/
structure Bookkeeping where
  journal : Journal
  calls : List Bookkeeping.Call
  history : List Bookkeeping.Mark

namespace Bookkeeping

def start (mode : JournalMode) : Bookkeeping := ⟨.new mode, [], []⟩

/-- What is left when the event has happened. What cannot happen changes nothing. -/
def step (b : Bookkeeping) : Event → Bookkeeping
  | .call task => { b with calls := b.calls ++ [task.call b.journal.mode] }
  | .advance n =>
    match b.calls[n]? with
    | none => b
    | some call =>
      let (journal, next) := call.step b.journal
      ⟨journal, b.calls.set n next, b.history ++ call.marks n next⟩

/-- What is left of an empty journal when these events have happened one after the other. -/
def run (mode : JournalMode) (events : List Event) : Bookkeeping := events.foldl step (start mode)

theorem run_append (mode : JournalMode) (events more : List Event) :
    run mode (events ++ more) = more.foldl step (run mode events) :=
  List.foldl_append

variable {journal journal' : Journal} {call call' : Call}

inductive Call.Moves (journal : Journal) : Call → Journal → Call → Prop
  | record {side : Side} {r : RecordedRequest} {update update' : Update (List RecordedRequest) Empty}
      {records : Records}
        (h : Update.Moves (Journal.adding r) (journal.records side) update records update') :
      Moves journal (.record side r update) (journal.put side records) (.record side r update')
  | clear {done : List Side} {side : Side} (h : Journal.sides[done.length]? = some side) :
      Moves journal (.clear done) (journal.put side ((journal.records side).store []))
        (.clear (done ++ [side]))
  | cleared {done : List Side} (h : Journal.sides[done.length]? = none) :
      Moves journal (.clear done) journal (.clear done)
  | look (side : Side) :
      Moves journal (.snapshot side none) journal (.snapshot side (some (journal.records side).value))
  | looked (side : Side) (list : List RecordedRequest) :
      Moves journal (.snapshot side (some list)) journal (.snapshot side (some list))

theorem Call.moves_step (journal : Journal) (call : Call) :
    Moves journal call (call.step journal).1 (call.step journal).2 := by
  cases call with
  | record side r update => exact .record (Update.moves_step _ _ _)
  | clear done =>
    cases h : Journal.sides[done.length]? with
    | some side =>
      simp only [step, h]
      exact .clear h
    | none =>
      simp only [step, h]
      exact .cleared h
  | snapshot side seen =>
    cases seen with
    | none => exact .look side
    | some list => exact .looked side list

inductive Moves (b : Bookkeeping) : Event → Bookkeeping → Prop
  | opens (task : Task) : Moves b (.call task) { b with calls := b.calls ++ [task.call b.journal.mode] }
  | advances {n : Nat} {call call' : Call} {journal : Journal} (h : b.calls[n]? = some call)
      (hm : Call.Moves b.journal call journal call') :
      Moves b (.advance n) ⟨journal, b.calls.set n call', b.history ++ call.marks n call'⟩
  | idle (n : Nat) : Moves b (.advance n) b

theorem moves_step (b : Bookkeeping) (event : Event) : b.Moves event (b.step event) := by
  cases event with
  | call task => exact .opens task
  | advance n =>
    cases h : b.calls[n]? with
    | none =>
      simp only [step, h]
      exact .idle n
    | some call =>
      simp only [step, h]
      exact .advances h (Call.moves_step b.journal call)

theorem step_alone (journal : Journal) (task : Task) :
    let (first, call) := (task.call journal.mode).step journal
    (call.step first).1 = match task with
      | .record .matched r => journal.recordMatched r
      | .record .unmatched r => journal.recordUnmatched r
      | .clear => journal.clear
      | .snapshot _ => journal := by
  obtain ⟨mode, matched, unmatched⟩ := journal
  cases task with
  | record side r =>
    cases mode <;> cases side <;>
      simp [Task.call, Call.step, Update.step, JournalMode.keeps, Journal.records, Journal.put,
        Journal.recordMatched,
        Journal.recordUnmatched, Journal.append, Update.alone, Journal.adding, Cell.replace?]
  | clear => rfl
  | snapshot side => rfl

end Bookkeeping

end StubServer
