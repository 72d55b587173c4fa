import Testbench.Address.Basic
import Testbench.Text.Space
import Testbench.Bytes.Name
/-!
Named addresses and their resolution.

A package refers to accounts by name. It declares the names it uses, each with a default address
or none; the caller binds names to addresses. Resolution gives every declared name its default,
or its binding when it has no default, and keeps bindings of undeclared names for the packages it
depends on. A binding that contradicts a default, a declared name with neither, and a name given
twice are refused.
-/

namespace Testbench

/-- A name bound to an address, written `name=0x…`. -/
structure Binding where
  name : String
  address : Address
  deriving DecidableEq

/-- The written form `name=0x…` with the short address. -/
def Binding.text (binding : Binding) : String := binding.name ++ "=" ++ binding.address.short

/-- A name a package uses, with its default address if it has one. -/
structure Declaration where
  name : String
  /-- The address used when no binding is given. -/
  default : Option Address
  deriving DecidableEq

/-- The spelling of a declared name without a default. -/
def Declaration.unassigned : String := "_"

/-- Why a binding text is refused. -/
inductive BindingError where
  /-- No `=`, or nothing before it. -/
  | shape (text : String)
  /-- The address after `=` cannot be read. -/
  | address (text : String) (failure : Address.ParseError)
  deriving DecidableEq

/-- The text of a failure. -/
def BindingError.message : BindingError → String
  | .shape text => "invalid named address binding: " ++ Quoted.quote text ++ ", expected name=address"
  | .address text failure =>
    "invalid named address binding: " ++ Quoted.quote text ++ ": " ++ failure.message

/-- The causes a failure is classified by; the address failure is only quoted. -/
def BindingError.kinds : BindingError → List ErrorKind
  | _ => [.invalidBinding]

/-- Reads `name=address`; blanks around the name and the address are ignored. -/
def Binding.parse (text : String) : Except BindingError Binding :=
  match text.toList.splitOn '=' with
  | [] | [_] => .error (.shape text)
  | first :: rest =>
    let name := Space.trim (String.ofList first)
    if name.isEmpty then .error (.shape text)
    else
      match Address.parse (Space.trim (String.ofList (['='].intercalate rest))) with
      | .ok address => .ok ⟨name, address⟩
      | .error failure => .error (.address text failure)

/-- Why a declaration is refused: its default is no address. -/
structure DeclarationError where
  /-- The declared name. -/
  name : String
  /-- Why the default cannot be read. -/
  failure : Address.ParseError
  deriving DecidableEq

/-- The text of a failure. -/
def DeclarationError.message (error : DeclarationError) : String :=
  "named address " ++ error.name ++ ": " ++ error.failure.message

/-- The causes a failure is classified by. -/
def DeclarationError.kinds (error : DeclarationError) : List ErrorKind := error.failure.kinds

/-- Reads a declaration whose value is `_` or an address. -/
def Declaration.parse (name value : String) : Except DeclarationError Declaration :=
  if value == Declaration.unassigned then .ok ⟨name, none⟩
  else
    match Address.parse value with
    | .ok address => .ok ⟨name, some address⟩
    | .error failure => .error ⟨name, failure⟩

/-- Why names cannot be resolved. -/
inductive ResolveError where
  /-- A name bound or declared twice. -/
  | duplicate (name : String)
  /-- A binding that differs from the declared default. -/
  | conflicting (name : String) (default bound : Address)
  /-- A declared name with neither a default nor a binding. -/
  | unresolved (name : String)
  deriving DecidableEq

/-- The text of a failure. -/
def ResolveError.message : ResolveError → String
  | .duplicate name => "duplicate named address: " ++ name
  | .conflicting name default bound =>
    "conflicting named address assignment: " ++ name ++ " is " ++ default.short ++ ", got " ++ bound.short
  | .unresolved name => "unresolved named address: " ++ name

/-- The causes a failure is classified by. -/
def ResolveError.kinds : ResolveError → List ErrorKind
  | .duplicate _ => [.duplicateAddress]
  | .conflicting .. => [.conflictingAddress]
  | .unresolved _ => [.unresolvedAddress]

/-- Resolved names with their addresses, sorted by name, each name once. -/
structure Resolution where
  /-- The names and addresses, sorted by name. -/
  entries : List Binding
  deriving Inhabited

namespace Resolution

/-- The address of a name. -/
def lookup (resolution : Resolution) (name : String) : Option Address :=
  (resolution.entries.find? (·.name == name)).map (·.address)

/-- The address of a name given as bytes. -/
def lookupName (resolution : Resolution) (name : Name) : Option Address :=
  (resolution.entries.find? (fun entry => Name.ofString entry.name == name)).map (·.address)

/-- The number of resolved names. -/
def size (resolution : Resolution) : Nat := resolution.entries.length

end Resolution

/-- The first name, in list order, that occurs again later. -/
def firstDuplicate (names : List String) : Option String :=
  let rec go (seen : List String) : List String → Option String
    | [] => none
    | name :: rest => if seen.contains name then some name else go (name :: seen) rest
  go [] names

/-- The address a declared name resolves to, or why it has none. -/
def resolveDeclared (bindings : List Binding) (declaration : Declaration) :
    Except ResolveError Binding :=
  let bound := (bindings.find? (·.name == declaration.name)).map (·.address)
  match declaration.default, bound with
  | some default, some address =>
    if default == address then .ok ⟨declaration.name, default⟩
    else .error (.conflicting declaration.name default address)
  | some default, none => .ok ⟨declaration.name, default⟩
  | none, some address => .ok ⟨declaration.name, address⟩
  | none, none => .error (.unresolved declaration.name)

/-- Resolves declared names with the caller's bindings. Declared names are settled in byte
order of names, so the first failing name in that order is reported. -/
def resolve (declarations : List Declaration) (bindings : List Binding) :
    Except ResolveError Resolution := do
  if let some name := firstDuplicate (bindings.map (·.name)) then throw (.duplicate name)
  if let some name := firstDuplicate (declarations.map (·.name)) then throw (.duplicate name)
  let sorted := declarations.mergeSort (fun a b => decide (a.name ≤ b.name))
  let declared ← sorted.mapM (resolveDeclared bindings)
  let extra := bindings.filter (fun binding => !declarations.any (·.name == binding.name))
  pure ⟨(declared ++ extra).mergeSort (fun a b => decide (a.name ≤ b.name))⟩

end Testbench
