import TaskRunner.Yaml.Scalar
import Std.Data.TreeMap
/- # TaskRunner.Yaml.Node -- the tree of a YAML document

A node is a scalar, a collection, or a reference to an anchored node.  References are numbered; the
document says which node a number stands for.  References may lead in a circle, so following them is
bounded: `Document.value?` follows them down to a given depth and only so often, and gives the value
without references. -/

namespace TaskRunner.Yaml
set_option autoImplicit false

/-- A node of a document. -/
inductive Node where
  /-- A scalar with its tag, its style and its text. -/
  | scalar (tag : Option String) (style : Style) (text : String)
  | sequence (tag : Option String) (items : List Node)
  | mapping (tag : Option String) (entries : List (Node × Node))
  | reference (number : Nat)
  deriving Inhabited

/-- A scalar that is not written at all. -/
def Node.missing : Node := .scalar none .plain ""

/-- A document: its root, the nodes that references stand for, and its size, in which a collection
counts twice. -/
structure Document where
  root : Node
  anchored : Std.TreeMap Nat Node
  size : Nat

/-- A node without references. -/
inductive Value where
  | scalar (tag : Option String) (style : Style) (text : String)
  | sequence (tag : Option String) (items : List Value)
  | mapping (tag : Option String) (entries : List (Value × Value))
  deriving Inhabited

namespace Node

/-- What is left of a list of nodes after each was read in turn, with the jumps that are left. -/
def mapJumps {α β : Type} (read : α → Nat → Option (β × Nat)) :
    List α → Nat → Option (List β × Nat)
  | [], jumps => some ([], jumps)
  | x :: rest, jumps => do
    let (y, jumps) ← read x jumps
    let (ys, jumps) ← mapJumps read rest jumps
    return (y :: ys, jumps)

/-- The value of a node that is not nested deeper than `depth`.  Each reference followed costs a
jump, and one step of depth. -/
def value? (anchored : Std.TreeMap Nat Node) (depth : Nat) (node : Node) (jumps : Nat) :
    Option (Value × Nat) :=
  match depth with
  | 0 => none
  | depth + 1 =>
    match node with
    | .scalar tag style text => some (.scalar tag style text, jumps)
    | .sequence tag items => do
      let (items, jumps) ← mapJumps (value? anchored depth) items jumps
      return (.sequence tag items, jumps)
    | .mapping tag entries => do
      let (entries, jumps) ← mapJumps
        (fun entry jumps => do
          let (key, jumps) ← value? anchored depth entry.1 jumps
          let (content, jumps) ← value? anchored depth entry.2 jumps
          return ((key, content), jumps))
        entries jumps
      return (.mapping tag entries, jumps)
    | .reference number =>
      match jumps, anchored[number]? with
      | jumps + 1, some node => value? anchored depth node jumps
      | _, _ => none

end Node

namespace Document

/-- How often references may be followed for each unit of size. -/
def jumpsPerUnit : Nat := 100

/-- The value of a document that is not nested deeper than `depth`. -/
def value? (document : Document) (depth : Nat) : Option Value :=
  (document.root.value? document.anchored depth (document.size * jumpsPerUnit)).map (·.1)

end Document
end TaskRunner.Yaml
