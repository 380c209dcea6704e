/-!
# Machine words

Numbers are not bounded, but some of what is read has to fit in a word of 32
or 64 bits.
-/

set_option autoImplicit false

namespace MapClient.Word

def count32 : Nat := 4294967296

def count64 : Nat := 18446744073709551616

def signed? (n : Int) : Option Int :=
  if -9223372036854775808 ≤ n ∧ n ≤ 9223372036854775807 then some n else none

end MapClient.Word
