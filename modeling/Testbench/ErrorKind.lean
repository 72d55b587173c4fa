/-!
Kinds of failure.

A failure can carry several causes, one wrapped in another. Its kind is the first of its causes
in the order of this type: the named causes of the engine first, then an abort, then any other
failure of execution, then a malformed hexadecimal text, and `other` when nothing else applies.
-/

namespace Testbench

/-- The causes a failure is classified by, in order of precedence. -/
inductive ErrorKind where
  | compilation
  | packageNotFound
  | unresolvedAddress
  | duplicateAddress
  | conflictingAddress
  | invalidBinding
  | invalidModule
  | moduleNotFound
  | invalidMagic
  | invalidVersion
  | notFound
  | corruptFile
  | unsupportedVersion
  | checksum
  | tooBig
  | nonCanonical
  | drained
  | truncated
  | gasLimitExceeded
  | arithmetic
  | invalidConversion
  | unexpectedEndOfInput
  | endOfInput
  | abort
  | execution
  | hex
  | other
  deriving DecidableEq, Repr, Inhabited

namespace ErrorKind

/-- Position in the order of precedence. -/
def rank (kind : ErrorKind) : Nat := kind.ctorIdx

/-- The kind that takes precedence among the causes of a failure. -/
def pick (causes : List ErrorKind) : ErrorKind :=
  causes.foldr (fun cause best => if cause.rank < best.rank then cause else best) .other

end ErrorKind

end Testbench
