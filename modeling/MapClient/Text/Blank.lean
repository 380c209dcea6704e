import MapClient.Text.Pieces

/-!
# White space

The twenty-five characters with the property White_Space. Zero-width spaces
and the byte order mark are not among them.
-/

set_option autoImplicit false

namespace MapClient.Text

def isBlank (c : Char) : Bool :=
  let n := c.toNat
  (9 ≤ n && n ≤ 13) || n == 0x20 || n == 0x85 || n == 0xA0 || n == 0x1680
    || (0x2000 ≤ n && n ≤ 0x200A) || n == 0x2028 || n == 0x2029 || n == 0x202F
    || n == 0x205F || n == 0x3000

def trimEnd (s : String) : String := .ofList (dropEnd isBlank s.toList)

end MapClient.Text
