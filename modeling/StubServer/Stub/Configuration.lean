import StubServer.Document.Reader
import StubServer.Json.Writer

namespace StubServer

open Document (Node Fault Schema)

structure StubConfiguration where
  name : Option String
  removeAfterMatch : Bool
  verbose : Bool
  deriving DecidableEq, Repr

namespace StubConfiguration

def blank : StubConfiguration := ⟨none, false, false⟩

def text (c : StubConfiguration) : String :=
  "StubConfiguration(name=" ++ c.name.getD "-" ++ ", remove_after_match="
    ++ Text.shownBool c.removeAfterMatch ++ ", verbose=" ++ Text.shownBool c.verbose ++ ")"

def shown (c : StubConfiguration) : String :=
  Text.shownRecord "StubConfiguration" [("name", Text.shownOption Text.quoted c.name),
    ("remove_after_match", Text.shownBool c.removeAfterMatch), ("verbose", Text.shownBool c.verbose)]

def toJson (c : StubConfiguration) : Json.Value :=
  .object ((c.name.map fun n => ("name", Json.Value.string n)).toList
    ++ [("remove_after_match", .bool c.removeAfterMatch), ("verbose", .bool c.verbose)])

def schema : Schema StubConfiguration := ⟨"StubConfiguration", blank, [
  .optional "name" (Node.readOption Node.readText) fun v c => { c with name := v },
  .optional "remove_after_match" Node.readBool fun v c => { c with removeAfterMatch := v },
  .optional "verbose" Node.readBool fun v c => { c with verbose := v }]⟩

end StubConfiguration

end StubServer
