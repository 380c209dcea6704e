import MapClient.Http.Body
import MapClient.Text.Encoding

/-!
# What a reader of answers leaves open

Some limits of a reader depend on its version or on how an answer arrives, and some
encodings are read with tables of their own. Everything else about reading is the same for
all readers.
-/

set_option autoImplicit false

namespace MapClient.Transport

open MapClient.Http MapClient.Text

class Reader where
  headRoom : Nat
  enough : headLimit ≤ headRoom
  extensionRoom : Option Nat
  multiByte : MultiByte.Decoder

/-- A reader of answers that arrive piece by piece, which knows no tables. -/
@[reducible]
def Reader.usual : Reader := ⟨headLimit, Nat.le_refl _, some 16383, MultiByte.ascii⟩

end MapClient.Transport
