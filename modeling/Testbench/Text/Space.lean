/-!
White space at the ends of a text.

White space is the ASCII tab, line feed, vertical tab, form feed, carriage return and space, the
next-line and no-break characters, and the Unicode space separators.
-/

namespace Testbench.Space

/-- Is the character white space? -/
def isSpace (char : Char) : Bool :=
  let code := char.toNat
  (9 ≤ code && code ≤ 13) || code == 32 || code == 0x85 || code == 0xa0 || code == 0x1680 ||
    (0x2000 ≤ code && code ≤ 0x200a) || code == 0x2028 || code == 0x2029 || code == 0x202f ||
    code == 0x205f || code == 0x3000

/-- The text without white space at either end. -/
def trim (text : String) : String :=
  String.ofList ((text.toList.dropWhile isSpace).reverse.dropWhile isSpace).reverse

end Testbench.Space
