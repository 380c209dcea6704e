import MapClient.Toml.Value

/-!
# Settings before they are read

Every source of settings is brought into one form: texts, and arrays and tables
of them. An array remembers the file it comes from, and is not remembered where
it was made to hold an element.
-/

set_option autoImplicit false

namespace MapClient.Settings

inductive Node where
  | nothing
  | text (s : String)
  | array (origin : Option String) (items : List Node)
  | table (entries : List (String × Node))

abbrev Table := List (String × Node)

namespace Node

mutual

def ofValue (origin : String) : Toml.Value → Node
  | .text s => .text s
  | .integer n => .text (toString n)
  | .real r => .text r.render
  | .boolean b => .text (if b then "true" else "false")
  | .date d => .text d.render
  | .array vs => .array (some origin) (ofValues origin vs)
  | .table _ es => .table (ofEntries origin es)

def ofValues (origin : String) : List Toml.Value → List Node
  | [] => []
  | v :: vs => ofValue origin v :: ofValues origin vs

def ofEntries (origin : String) : Toml.Entries → Table
  | [] => []
  | (k, v) :: es => (k, ofValue origin v) :: ofEntries origin es

end

def entries : Node → Table
  | .table es => es
  | _ => []

end Node

namespace Table

def get? (key : String) (t : Table) : Option Node := List.lookup key t

def entry (key : String) (t : Table) : Node := (t.get? key).getD .nothing

def insert (key : String) (n : Node) : Table → Table
  | [] => [(key, n)]
  | e :: t => if e.1 = key then (key, n) :: t else e :: insert key n t

end Table

end MapClient.Settings
