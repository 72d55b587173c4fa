import Testbench.Machine.Item
/-!
A named stack of items with at most 2048 entries.

Taking an item from an empty stack, or reaching below its bottom, is an underflow; pushing onto
a full stack is an overflow. Failures name the stack.
-/

namespace Testbench

/-- Why a stack operation failed. -/
inductive StackError where
  /-- Nothing to take. -/
  | empty (stack : String)
  /-- Fewer items than asked for. -/
  | tooFew (stack : String) (count : Nat) (wanted : Int)
  /-- No room for another item. -/
  | overflow (stack : String)
  deriving DecidableEq, Repr

/-- The text of a failure. -/
def StackError.message : StackError → String
  | .empty stack => "stack is too small: " ++ stack ++ " is empty"
  | .tooFew stack count wanted => s!"stack is too small: {stack} has {count} items, want {wanted}"
  | .overflow stack => stack ++ " stack overflow"

/-- A stack of items; the first item of the list is the top. -/
structure Stack where
  /-- The name used in failures. -/
  name : String
  /-- The items, top first. -/
  items : List Item := []
  deriving Repr, Inhabited

namespace Stack

/-- The most items a stack holds. -/
def capacity : Nat := 2 * 1024

/-- The number of items. -/
def size (stack : Stack) : Nat := stack.items.length

/-- The items from the bottom to the top. -/
def toList (stack : Stack) : List Item := stack.items.reverse

/-- Puts an item on top. -/
def push (stack : Stack) (item : Item) : Except StackError Stack :=
  if stack.size ≥ capacity then .error (.overflow stack.name)
  else .ok { stack with items := item :: stack.items }

/-- Takes the top item. -/
def pop (stack : Stack) : Except StackError (Item × Stack) :=
  match stack.items with
  | top :: rest => .ok (top, { stack with items := rest })
  | [] => .error (.empty stack.name)

/-- The item `depth` places below the top. -/
def peek (stack : Stack) (depth : Int) : Except StackError Item :=
  if depth < 0 then .error (.tooFew stack.name stack.size (depth + 1))
  else
    match stack.items[depth.toNat]? with
    | some item => .ok item
    | none => .error (.tooFew stack.name stack.size (depth + 1))

/-- Exchanges the item `depth` places below the top with the one under it. -/
def swap (stack : Stack) (depth : Int) : Except StackError Stack :=
  if depth < 0 then .error (.tooFew stack.name stack.size (depth + 2))
  else
    let index := depth.toNat
    match stack.items[index]?, stack.items[index + 1]? with
    | some upper, some lower =>
      .ok { stack with items := (stack.items.set index lower).set (index + 1) upper }
    | _, _ => .error (.tooFew stack.name stack.size (depth + 2))

/-- Removes all items. -/
def clear (stack : Stack) : Stack := { stack with items := [] }

end Stack

end Testbench
