import MapClient.Settings.Node
import MapClient.Text.LowerCase
import MapClient.Text.Pieces
import MapClient.Text.Utf8

/-!
# Variables

A variable whose name begins with the name of the program, in letters of either
case, is a setting under the rest of its name in small letters. The settings
can only be read if every variable is a text, whatever its name.
-/

set_option autoImplicit false

namespace MapClient.Settings

open MapClient.Text

structure Environment where
  values : List (List UInt8 × List UInt8)
  deriving DecidableEq, Repr

namespace Environment

def get? (env : Environment) (name : String) : Option (List UInt8) :=
  env.values.lookup (utf8 name)

def text? (env : Environment) (name : String) : Option String :=
  (env.get? name).bind ofUtf8?

def texts? (env : Environment) : Option (List (String × String)) :=
  env.values.mapM fun v => do
    let name ← ofUtf8? v.1
    let value ← ofUtf8? v.2
    some (name, value)

def settingMark : List Char := "chunkform_".toList

def setting? (v : String × String) : Option (String × Node) :=
  (after? settingMark (lowerCase v.1.toList)).map fun key => (.ofList key, .text v.2)

def settings? (env : Environment) : Option (List (String × Node)) :=
  env.texts?.map fun vs => vs.filterMap setting?

end Environment

end MapClient.Settings
