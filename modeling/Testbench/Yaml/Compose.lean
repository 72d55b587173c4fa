import Testbench.Yaml.Events
import Testbench.Yaml.Node
import Testbench.Yaml.Input
/-!
Documents from events.

Only the first document of a stream is read; what follows it is never looked at, apart from
the few tokens the scanner reads ahead. Each node is made when its first event comes and named
by its anchor at once, so a reference inside an anchored collection may point back at it; a
reference to an anchor not yet seen is an error. A node's line is its first event's line.
-/

namespace Testbench.Yaml

/-- The state of building a document. -/
structure Composer where
  /-- The parser events come from. -/
  parser : Parser
  /-- An event read but not yet taken. -/
  pending : Option Event := none
  /-- The anchors seen, latest first, with their node numbers. -/
  anchors : List (String × Nat) := []
  /-- The anchored nodes made so far. -/
  anchored : List (Nat × Node) := []
  /-- The next free number for an anchored node or a reference. -/
  counter : Nat := 0
  deriving Inhabited

/-- Building: the composer's state, or the error that stopped it. -/
abbrev ComposeM := StateT Composer (Except SyntaxError)

/-- The next event, left to be taken. -/
def peekEvent : ComposeM Event := do
  match (← get).pending with
  | some event => pure event
  | none =>
    -- the parser is taken out while it runs, so that its state is updated in place
    let parser ← modifyGet fun c => (c.parser, { c with parser := { scanner := { chars := #[] } } })
    match nextEvent.run parser with
    | .ok (event, parser) =>
      modify fun c => { c with parser, pending := some event }
      pure event
    | .error failure => throw failure

/-- Takes the next event. -/
def takeEvent : ComposeM Event := do
  let event ← peekEvent
  modify fun c => { c with pending := none }
  pure event

/-- A fresh number. -/
def freshNumber : ComposeM Nat := do
  let c ← get
  set { c with counter := c.counter + 1 }
  pure c.counter

/-- Names the node with the given number by an anchor, if there is one. -/
def nameAnchor (anchor : String) (number : Nat) : ComposeM Unit :=
  if anchor.isEmpty then pure ()
  else modify fun c => { c with anchors := (anchor, number) :: c.anchors }

/-- Keeps an anchored node by its number. -/
def keepAnchored (anchor : String) (number : Nat) (node : Node) : ComposeM Unit :=
  if anchor.isEmpty then pure ()
  else modify fun c => { c with anchored := (number, node) :: c.anchored }

/-- The tag of a node: the one written unless it is empty or `!`, else the default of its
kind. -/
def nodeTag (written default : String) : String :=
  if !written.isEmpty && written != "!" then shortTag written else default

mutual

/-- Builds the node whose first event is next. -/
def composeNode : Nat → ComposeM Node
  | 0 => throw (SyntaxError.plain "exceeded max depth of 10000")
  | fuel + 1 => do
    let event ← takeEvent
    let line := event.start.line + 1
    match event.kind with
    | .reference name =>
      match (← get).anchors.lookup name with
      | none => throw (SyntaxError.plain s!"unknown anchor '{name}' referenced")
      | some target => pure (.reference line name target (← freshNumber))
    | .scalar anchor tag text style =>
      let default :=
        if style != .plain then "!!str"
        else if text == "<<" then "!!merge"
        else (resolveText "" text).1
      let number ← freshNumber
      let node := Node.scalar line (nodeTag tag default) style text
      nameAnchor anchor number
      keepAnchored anchor number node
      pure node
    | .sequenceStart anchor tag _ =>
      let number ← freshNumber
      nameAnchor anchor number
      let items ← composeItems fuel []
      let node := Node.sequence line (nodeTag tag "!!seq") items
      keepAnchored anchor number node
      pure node
    | .mappingStart anchor tag _ =>
      let number ← freshNumber
      nameAnchor anchor number
      let entries ← composeEntries fuel []
      let node := Node.mapping line (nodeTag tag "!!map") entries
      keepAnchored anchor number node
      pure node
    | _ => throw (SyntaxError.plain "unexpected event")

/-- Builds the items of a sequence up to its end. -/
def composeItems : Nat → List Node → ComposeM (List Node)
  | 0, _ => throw (SyntaxError.plain "exceeded max depth of 10000")
  | fuel + 1, items => do
    match (← peekEvent).kind with
    | .sequenceEnd => discard takeEvent; pure items.reverse
    | _ => composeItems fuel ((← composeNode fuel) :: items)

/-- Builds the pairs of a mapping up to its end. -/
def composeEntries : Nat → List (Node × Node) → ComposeM (List (Node × Node))
  | 0, _ => throw (SyntaxError.plain "exceeded max depth of 10000")
  | fuel + 1, entries => do
    match (← peekEvent).kind with
    | .mappingEnd => discard takeEvent; pure entries.reverse
    | _ =>
      let key ← composeNode fuel
      let value ← composeNode fuel
      composeEntries fuel ((key, value) :: entries)

end

/-- The first document of a stream given as characters; none if it holds no document. -/
def composeFirstDocument (chars : Array Char) : Except SyntaxError (Option Document) := do
  let fuel := 4 * chars.size + 16
  let run : ComposeM (Option Document) := do
    discard takeEvent
    match (← peekEvent).kind with
    | .documentStart =>
      discard takeEvent
      let root ← composeNode fuel
      discard takeEvent
      let c ← get
      pure (some ⟨root, c.anchored⟩)
    | _ => pure none
  let ((result, _)) ← run.run { parser := { scanner := { chars } } }
  pure result

/-- The first document of a stream of bytes; none if it holds no document. -/
def readDocument (bytes : List UInt8) : Except SyntaxError (Option Document) := do
  composeFirstDocument (← readStream bytes)

end Testbench.Yaml
