import StubServer.Yaml.Tree
import StubServer.Document.Reader

namespace StubServer.Yaml

open Document (Node Frame Source)

def nestingLimit : Nat := 128

mutual

def Tree.size : Tree → Nat
  | .scalar _ => 1
  | .reference _ => 1
  | .list items _ => 2 + sizes items
  | .table entries _ => 2 + entrySizes entries

def Tree.sizes : List Tree → Nat
  | [] => 0
  | t :: rest => t.size + sizes rest

def Tree.entrySizes : List (Tree × Tree) → Nat
  | [] => 0
  | (k, v) :: rest => k.size + v.size + entrySizes rest

end

mutual

def expand (anchors : Anchors) : Nat → Nat → Tree → StateM Nat Node
  | 0, _, _ => return .unreadable
  | _ + 1, _, .scalar s => return .scalar s
  | fuel + 1, depth, .reference id => do
    let left ← get
    if left = 0 then return .unreadable
    set (left - 1)
    match anchors.tree? id with
    | some tree => expand anchors fuel depth tree
    | none => return .unreadable
  | fuel + 1, depth, .list items tag =>
    if nestingLimit ≤ depth then return .list [] ⟨true, true, tag⟩
    else return .list (← expandAll anchors fuel (depth + 1) items) ⟨true, false, tag⟩
  | fuel + 1, depth, .table entries tag =>
    if nestingLimit ≤ depth then return .table [] ⟨true, true, tag⟩
    else return .table (← expandEntries anchors fuel (depth + 1) entries) ⟨true, false, tag⟩

def expandAll (anchors : Anchors) : Nat → Nat → List Tree → StateM Nat (List Node)
  | _, _, [] => return []
  | 0, _, _ => return []
  | fuel + 1, depth, t :: rest => do
    let node ← expand anchors fuel depth t
    return node :: (← expandAll anchors fuel depth rest)

def expandEntries (anchors : Anchors) : Nat → Nat → List (Tree × Tree) →
    StateM Nat (List (Node × Node))
  | _, _, [] => return []
  | 0, _, _ => return []
  | fuel + 1, depth, (k, v) :: rest => do
    let key ← expand anchors fuel depth k
    let value ← expand anchors fuel depth v
    return (key, value) :: (← expandEntries anchors fuel depth rest)

end

/-- The document that the text writes; an ill-formed text is broken from the start. References to
anchors are replaced by what they refer to; one inside its own target cannot be read, and neither
can a document whose references multiply without measure. -/
def parse (s : String) : Source :=
  match parseTree? s with
  | some (tree, anchors) =>
    let fuel := (s.length + 8) * (nestingLimit + 2)
    ⟨((expand anchors fuel 0 tree).run (100 * tree.size)).1, false⟩
  | none => ⟨.broken, false⟩

end StubServer.Yaml
