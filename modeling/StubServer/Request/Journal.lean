import StubServer.Request.Recorded
import StubServer.Shared.Cell
import StubServer.Text.Casing

namespace StubServer

/-- A lean journal keeps only the requests that did not match. -/
inductive JournalMode where
  | lean
  | full
  deriving DecidableEq, Repr

namespace JournalMode

instance : Inhabited JournalMode := ⟨.lean⟩

def name : JournalMode → String
  | .lean => "lean"
  | .full => "full"

def parse (s : String) : Except String JournalMode :=
  match Text.lowerAscii s with
  | "lean" => .ok .lean
  | "full" => .ok .full
  | other => .error ("unknown journal mode '" ++ other ++ "' (expected lean or full)")

end JournalMode

abbrev Records := Cell (List RecordedRequest)

structure Journal where
  mode : JournalMode
  matched : Records
  unmatched : Records
  deriving DecidableEq, Repr

namespace Journal

def new (mode : JournalMode) : Journal := ⟨mode, .new [], .new []⟩

def adding (r : RecordedRequest) (records : List RecordedRequest) :
    Except Empty (Option (List RecordedRequest)) :=
  .ok (some (records ++ [r]))

def append (r : RecordedRequest) (records : Records) : Records :=
  (Update.alone (adding r) records).1

def recordMatched (journal : Journal) (r : RecordedRequest) : Journal :=
  match journal.mode with
  | .lean => journal
  | .full => { journal with matched := append r journal.matched }

def recordUnmatched (journal : Journal) (r : RecordedRequest) : Journal :=
  { journal with unmatched := append r journal.unmatched }

def clear (journal : Journal) : Journal :=
  { journal with matched := journal.matched.store [], unmatched := journal.unmatched.store [] }

end Journal

end StubServer
