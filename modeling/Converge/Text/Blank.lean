/-!
# Blank characters

The characters that count as white space in running text, and cutting them off both ends.
-/

namespace Converge

/-- White space: the line and field separators, the spaces of every width, and the no-break
spaces. -/
def Char.isBlank (c : Char) : Bool :=
  let n := c.toNat
  (9 ≤ n && n ≤ 13) || n = 0x20 || n = 0x85 || n = 0xA0 || n = 0x1680
    || (0x2000 ≤ n && n ≤ 0x200A) || n = 0x2028 || n = 0x2029 || n = 0x202F || n = 0x205F
    || n = 0x3000

/-- Cuts the blanks off both ends. -/
def trimBlank (s : String) : String :=
  String.ofList ((s.toList.dropWhile Char.isBlank).reverse.dropWhile Char.isBlank).reverse

end Converge
