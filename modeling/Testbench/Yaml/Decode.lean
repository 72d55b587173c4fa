import Testbench.Yaml.Compose
import Testbench.Text.Quoted
import Testbench.Bytes.Utf8
/-!
Reading a document into typed settings.

Settings are decoded into a value that already holds defaults, which stay where the document
says nothing. A record takes a mapping whose keys name its fields; a key that names no field,
or a field set twice, is an error. A string map takes a mapping of scalars; a null value sets
an empty string for a key not yet present. Strings take any scalar as written; booleans take
booleans and the older spellings `yes`, `on`, `y` and their opposites; integers take integers
and floats, cut towards zero. A null leaves a setting as it was, but empties a string map.
Every mapping is first checked for repeated keys. A reference decodes as the node it points at;
one met again while it is being decoded is an error. A `<<` key merges the mappings it names
into the one it stands in, after the other keys and without replacing them.

Errors of type do not stop reading: they are collected in document order and reported
together. A tag that does not fit its text, a `!!binary` scalar that is not base64, and a merge
of something that is not a mapping stop reading at once.
-/

namespace Testbench.Yaml

/-- A setting being decoded, with what it holds. -/
inductive Setting where
  | text (value : String)
  | flag (value : Bool)
  /-- A 64-bit signed integer of the named type. -/
  | integer (typeName : String) (value : Int)
  /-- A mapping of strings to strings; none when it was never made. -/
  | textMap (entries : Option (List (String × String)))
  /-- A record of the named type, with its fields. -/
  | record (typeName : String) (fields : List (String × Setting))
  deriving Repr, Inhabited

/-- The type name of a setting. -/
def Setting.typeName : Setting → String
  | .text _ => "string"
  | .flag _ => "bool"
  | .integer name _ => name
  | .textMap _ => "map[string]string"
  | .record name _ => name

/-- The state of decoding a document. -/
structure Decoder where
  document : Document
  /-- The type errors so far. -/
  errors : Array String := #[]
  /-- The references being followed. -/
  following : List Nat := []
  /-- While a merge is decoded: the keys already set in the mapping merged into. -/
  merged : Option (List String) := none

/-- Decoding: the decoder's state, or the message that stopped it. -/
abbrev DecodeM := StateT Decoder (Except String)

/-- Records a type error. -/
def typeError (message : String) : DecodeM Unit := modify fun d => { d with errors := d.errors.push message }

/-- Stops decoding. -/
def fail {α : Type} (problem : String) : DecodeM α := throw ("yaml: " ++ problem)

/-- The text of a scalar in a type error: up to ten bytes as written, or seven and an
ellipsis. -/
def shownValue (value : String) : String :=
  let bytes := value.toUTF8.toList
  if bytes.length > 10 then " \x60" ++ Utf8.decodeLossy (bytes.take 7) ++ "...\x60" else " \x60" ++ value ++ "\x60"

/-- Records that a node cannot become a setting. -/
def cannotUnmarshal (node : Node) (tag : String) (out : Setting) : DecodeM Unit :=
  let tag := if node.tag.isEmpty then tag else node.tag
  let shown := if tag == "!!seq" || tag == "!!map" then "" else shownValue node.text
  typeError s!"line {node.line}: cannot unmarshal {shortTag tag}{shown} into {out.typeName}"

/-- The old spellings of booleans. -/
def oldBoolean (text : String) : Option Bool :=
  if ["y", "Y", "yes", "Yes", "YES", "on", "On", "ON"].contains text then some true
  else if ["n", "N", "no", "No", "NO", "off", "Off", "OFF"].contains text then some false
  else none

/-- The value of a base64 character. -/
def base64Value (c : Char) : Option Nat :=
  if 'A' ≤ c && c ≤ 'Z' then some (c.toNat - 'A'.toNat)
  else if 'a' ≤ c && c ≤ 'z' then some (c.toNat - 'a'.toNat + 26)
  else if '0' ≤ c && c ≤ '9' then some (c.toNat - '0'.toNat + 52)
  else if c == '+' then some 62
  else if c == '/' then some 63
  else none

/-- Decodes padded base64, line breaks ignored. -/
def base64Decode (text : String) : Option (List UInt8) :=
  let chars := text.toList.filter fun c => c != '\r' && c != '\n'
  if chars.length % 4 != 0 then none
  else
    let groups := (List.range (chars.length / 4)).map fun i => chars.extract (4 * i) (4 * i + 4)
    let last := groups.length - 1
    let decodeGroup (index : Nat) (group : List Char) : Option (List UInt8) :=
      let padding := (group.reverse.takeWhile (· == '=')).length
      let body := group.take (4 - padding)
      if padding > 2 || (padding > 0 && index != last) then none
      else match body.mapM base64Value with
        | none => none
        | some values =>
          let bits := values.foldl (fun acc v => acc * 64 + v) 0 * Nat.pow 64 padding
          let bytes := [bits / 65536 % 256, bits / 256 % 256, bits % 256].map Nat.toUInt8
          some (bytes.take (3 - padding))
    (groups.zipIdx.mapM fun (group, index) => decodeGroup index group).map List.flatten

/-- Is the node null, looking through references? -/
def isNullNode (document : Document) : Nat → Node → Bool
  | 0, _ => false
  | fuel + 1, node =>
    match node with
    | .scalar _ tag _ _ => tag == "!!null"
    | .reference _ _ target _ =>
      match document.anchoredNode target with
      | some found => isNullNode document fuel found
      | none => false
    | _ => false

/-- The node a reference points at, if the node is one. -/
def referencedNode (document : Document) : Node → Option Node
  | .reference _ _ target _ => document.anchoredNode target
  | _ => none

/-- Decodes a scalar into a setting; true when the setting was set. -/
def decodeScalar (node : Node) (out : Setting) : DecodeM (Setting × Bool) := do
  let .scalar _ tag _ text := node | return (out, false)
  let (resolvedTag, resolved) ←
    if tag == "!!str" then pure ("!!str", Scalar.text text)
    else match resolve tag text with
      | .ok pair => pure pair
      | .error problem => fail problem
  let resolved ← if resolvedTag == "!!binary" then
      match base64Decode text with
      | some bytes => pure (Scalar.text (Utf8.decodeLossy bytes))
      | none => fail "!!binary value contains invalid base64 data"
    else pure resolved
  match resolved, out with
  | .null, .textMap _ => return (.textMap none, true)
  | .null, _ => return (out, false)
  | .text value, .text _ => return (.text (if resolvedTag == "!!binary" then value else text), true)
  | _, .text _ => return (.text text, true)
  | .integer value, .integer name _ => return (.integer name value, true)
  | .float value, .integer name _ =>
    match value.truncate? with
    | some number => return (.integer name number, true)
    | none => pure ()
  | .boolean value, .flag _ => return (.flag value, true)
  | .text value, .flag _ =>
    match oldBoolean value with
    | some flag => return (.flag flag, true)
    | none => pure ()
  | _, _ => pure ()
  cannotUnmarshal node resolvedTag out
  return (out, false)

/-- Do two keys repeat each other: the same kind and text? -/
def Node.repeats (first second : Node) : Bool := first.kind == second.kind && first.text == second.text

/-- Each pair of keys that repeat each other, by the first key's place and then the second's. -/
def repeatedKeys : List Node → List (Node × Node)
  | [] => []
  | first :: rest => (rest.filter first.repeats).map (first, ·) ++ repeatedKeys rest

/-- Records the repeated keys of a mapping: each pair of keys of the same kind and text, the
later one's line first. True if there were none. -/
def checkRepeatedKeys (entries : List (Node × Node)) : DecodeM Bool := do
  let pairs := repeatedKeys (entries.map (·.1))
  for (first, second) in pairs do
    typeError s!"line {second.line}: mapping key {Quoted.quote second.text} already defined at line {first.line}"
  pure pairs.isEmpty

/-- Sets a key of a string map held latest key first, replacing its value if it is there. -/
def setEntry (entries : List (String × String)) (key value : String) : List (String × String) :=
  if entries.any (·.1 == key) then entries.map fun entry => if entry.1 == key then (key, value) else entry
  else (key, value) :: entries

/-- Sets a field of a record. -/
def setField (fields : List (String × Setting)) (name : String) (value : Setting) : List (String × Setting) :=
  fields.map fun field => if field.1 == name then (name, value) else field

/-- The keys of a mapping that read as strings, looking through references. -/
def stringKeys (document : Document) (entries : List (Node × Node)) : List String :=
  entries.filterMap fun (key, _) =>
    let key := (referencedNode document key).getD key
    match key with
    | .scalar _ tag _ text =>
      if tag == "!!str" then some text
      else match resolve tag text with
        | .ok ("!!str", _) => some text
        | .ok (_, .text _) => some text
        | _ => none
    | _ => none

mutual

/-- Decodes a node into a setting; true when the setting was set. -/
def decodeNode : Nat → Node → Setting → DecodeM (Setting × Bool)
  | 0, _, out => pure (out, false)
  | fuel + 1, node, out =>
    match node with
    | .reference _ name target use => do
      if (← get).following.contains use then fail s!"anchor '{name}' value contains itself"
      match (← get).document.anchoredNode target with
      | none => pure (out, false)
      | some found =>
        modify fun d => { d with following := use :: d.following }
        let result ← decodeNode fuel found out
        modify fun d => { d with following := d.following.filter (· != use) }
        pure result
    | .scalar .. => decodeScalar node out
    | .sequence .. => do
      cannotUnmarshal node "!!seq" out
      pure (out, false)
    | .mapping _ _ entries => do
      if !(← checkRepeatedKeys entries) then return (out, false)
      match out with
      | .record name fields => decodeRecord fuel node entries name fields
      | .textMap current => decodeTextMap fuel node entries current
      | _ => do
        cannotUnmarshal node "!!map" out
        pure (out, false)

/-- Decodes the pairs of a mapping into a record. -/
def decodeRecord (fuel : Nat) (node : Node) (entries : List (Node × Node)) (name : String)
    (fields : List (String × Setting)) : DecodeM (Setting × Bool) := do
  let merged := (← get).merged
  modify fun d => { d with merged := none }
  let mut fields := fields
  let mut done : List String := []
  let mut mergeNode : Option Node := none
  let mut claimed := merged
  for (key, value) in entries do
    if key.isMergeKey then
      mergeNode := some value
      continue
    let (keyText, ok) ← decodeNode fuel key (.text "")
    let .text field := keyText | continue
    if !ok then continue
    if let some keys := claimed then
      if keys.contains field then continue
      claimed := some (keys ++ [field])
    match fields.lookup field with
    | some current =>
      if done.contains field then
        typeError s!"line {key.line}: field {field} already set in type {name}"
        continue
      done := field :: done
      let (decoded, _) ← decodeNode fuel value current
      fields := setField fields field decoded
    | none => typeError s!"line {key.line}: field {field} not found in type {name}"
  modify fun d => { d with merged := claimed }
  match mergeNode with
  | some source => decodeMerge fuel node source (.record name fields)
  | none => pure (.record name fields, true)

/-- Decodes the pairs of a mapping into a string map. -/
def decodeTextMap (fuel : Nat) (node : Node) (entries : List (Node × Node))
    (current : Option (List (String × String))) : DecodeM (Setting × Bool) := do
  let merged := (← get).merged
  modify fun d => { d with merged := none }
  let fresh := current.isNone
  -- built latest key first, and turned back at the end
  let mut map := (current.getD []).reverse
  let mut mergeNode : Option Node := none
  let mut claimed := merged
  for (key, value) in entries do
    if key.isMergeKey then
      mergeNode := some value
      continue
    let (keyText, ok) ← decodeNode fuel key (.text "")
    let .text name := keyText | continue
    if !ok then continue
    if let some keys := claimed then
      if keys.contains name then continue
      claimed := some (keys ++ [name])
    let (decoded, set) ← decodeNode fuel value (.text "")
    let text := match decoded with
      | .text text => text
      | _ => ""
    let document := (← get).document
    if set || (isNullNode document 2 value && (fresh || !map.any (·.1 == name))) then
      map := setEntry map name text
  modify fun d => { d with merged := claimed }
  match mergeNode with
  | some source => decodeMerge fuel node source (.textMap (some map.reverse))
  | none => pure (.textMap (some map.reverse), true)

/-- Merges the mapping, or sequence of mappings, a `<<` key names into a setting. -/
def decodeMerge (fuel : Nat) (parent source : Node) (out : Setting) : DecodeM (Setting × Bool) := do
  let saved := (← get).merged
  let document := (← get).document
  if saved.isNone then
    match parent with
    | .mapping _ _ entries => modify fun d => { d with merged := some (stringKeys document entries) }
    | _ => pure ()
  let isMapping (node : Node) : Bool := match node with
    | .mapping .. => true
    | _ => false
  let wantMap {α : Type} : DecodeM α := fail "map merge requires map or sequence of maps as the value"
  let result ← match source with
    | .mapping .. => decodeNode fuel source out
    | .reference .. =>
      if (referencedNode document source).any (!isMapping ·) then wantMap
      else decodeNode fuel source out
    | .sequence _ _ items => do
      let mut out := out
      for item in items do
        match item with
        | .reference .. =>
          if (referencedNode document item).any (!isMapping ·) then wantMap
        | .mapping .. => pure ()
        | _ => wantMap
        out := (← decodeNode fuel item out).1
      pure (out, true)
    | _ => wantMap
  modify fun d => { d with merged := saved }
  pure (result.1, true)

end

/-- Why a document could not be read into settings. -/
inductive DecodeError where
  /-- The stream holds no document. -/
  | noDocument
  /-- The text is no YAML. -/
  | malformed (failure : SyntaxError)
  /-- Reading stopped at a problem. -/
  | stopped (message : String)
  /-- Nodes of the wrong type, unknown fields or repeated keys, in document order. -/
  | types (messages : List String)

/-- The text of a decoding error. -/
def DecodeError.message : DecodeError → String
  | .noDocument => "EOF"
  | .malformed failure => failure.message
  | .stopped message => message
  | .types messages => "yaml: unmarshal errors:\n  " ++ "\n  ".intercalate messages

/-- Decodes the first document of a stream into a setting holding the defaults. -/
def decodeDocument (defaults : Setting) (bytes : List UInt8) : Except DecodeError Setting := do
  match readDocument bytes with
  | .error failure => throw (.malformed failure)
  | .ok none => throw .noDocument
  | .ok (some document) =>
    let fuel := 4 * bytes.length + 64
    match (decodeNode fuel document.root defaults).run { document } with
    | .error message => throw (.stopped message)
    | .ok ((value, _), state) =>
      if state.errors.isEmpty then pure value else throw (.types state.errors.toList)

/-- The field of a record. -/
def Setting.field (setting : Setting) (name : String) : Setting :=
  match setting with
  | .record _ fields => (fields.lookup name).getD (.text "")
  | other => other

/-- The text a setting holds. -/
def Setting.textValue : Setting → String
  | .text value => value
  | _ => ""

/-- The boolean a setting holds. -/
def Setting.flagValue : Setting → Bool
  | .flag value => value
  | _ => false

/-- The integer a setting holds. -/
def Setting.integerValue : Setting → Int
  | .integer _ value => value
  | _ => 0

/-- The entries of a string map setting, none if it was never made. -/
def Setting.entries : Setting → List (String × String)
  | .textMap entries => entries.getD []
  | _ => []

end Testbench.Yaml
