import Testbench.Yaml.Resolve
import Testbench.Yaml.Token
/-!
YAML documents as trees.

A document is a tree of scalars, sequences and mappings, and of references to nodes named
earlier with an anchor. Each node remembers the line it starts on, counted from one, and its
tag in short form: the tag written, or for a node without one, `!!seq`, `!!map`, `!!str` for a
quoted or block scalar, `!!merge` for a plain `<<`, and for any other plain scalar the tag its
text resolves to. A reference names its anchor and points at the anchored node by number; the
document keeps the anchored nodes by those numbers.
-/

namespace Testbench.Yaml

/-- A node of a document. -/
inductive Node where
  /-- A scalar: its line, tag, style and text. -/
  | scalar (line : Nat) (tag : String) (style : Style) (value : String)
  /-- A sequence: its line, tag and items. -/
  | sequence (line : Nat) (tag : String) (items : List Node)
  /-- A mapping: its line, tag and key-value pairs in document order. -/
  | mapping (line : Nat) (tag : String) (entries : List (Node × Node))
  /-- A use of an anchored node: its line, the anchor's name, the anchored node's number, and
  the number of this use. -/
  | reference (line : Nat) (name : String) (target : Nat) (use : Nat)
  deriving Repr, Inhabited

/-- The line a node starts on, counted from one. -/
def Node.line : Node → Nat
  | .scalar line .. => line
  | .sequence line .. => line
  | .mapping line .. => line
  | .reference line .. => line

/-- The tag of a node; a reference has none. -/
def Node.tag : Node → String
  | .scalar _ tag .. => tag
  | .sequence _ tag _ => tag
  | .mapping _ tag _ => tag
  | .reference .. => ""

/-- The text of a node: a scalar's text, a reference's anchor name, empty for collections. -/
def Node.text : Node → String
  | .scalar _ _ _ value => value
  | .reference _ name .. => name
  | _ => ""

/-- The kind of a node, as a number: scalar, sequence, mapping, reference. -/
def Node.kind : Node → Nat
  | .scalar .. => 0
  | .sequence .. => 1
  | .mapping .. => 2
  | .reference .. => 3

/-- Is the node a plain `<<` that merges mappings into the one it stands in? -/
def Node.isMergeKey : Node → Bool
  | .scalar _ tag _ value => value == "<<" && (tag.isEmpty || tag == "!" || tag == "!!merge")
  | _ => false

/-- A document: its root, and its anchored nodes by number. -/
structure Document where
  /-- The root node. -/
  root : Node
  /-- The anchored nodes and their numbers. -/
  anchored : List (Nat × Node)
  deriving Inhabited

/-- The node an anchor number stands for. -/
def Document.anchoredNode (document : Document) (target : Nat) : Option Node :=
  document.anchored.lookup target

end Testbench.Yaml
