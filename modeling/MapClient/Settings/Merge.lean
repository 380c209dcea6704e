import MapClient.Settings.Key
import MapClient.Settings.Node

/-!
# Putting settings together

A value is put where its key points. What stands in the way on the path is
replaced by an empty table or array, so a path always leads to its end; only an
index that counts back beyond the beginning of its array has no place, and one up
to which the array cannot be filled. At the end a table is added to the table
there, key by key, and anything else replaces what was there. A later source thus
wins over an earlier one.
-/

set_option autoImplicit false

namespace MapClient.Settings

mutual

/-- Puts a value under a key. An empty table leaves what is there. -/
def Table.assign (key : String) (value : Node) (t : Table) : Table :=
  match value with
  | .table [] => t.insert key ((t.get? key).getD (.table []))
  | .table (e :: es) => t.insert key (.table (Table.assignAll (e :: es) (t.entry key).entries))
  | value => t.insert key value

def Table.assignAll (es : List (String × Node)) (t : Table) : Table :=
  match es with
  | [] => t
  | (key, value) :: es => Table.assignAll es (Table.assign key value t)

end

/-- How many elements an array has room for, which depends on the machine. An index
is a word of 64 bits, and the largest one always goes beyond. -/
class Capacity where
  elements : Nat
  bounded : elements < 9223372036854775808

/-- The room that the running program keeps to, where memory may allow for more. -/
@[reducible]
def Capacity.usual : Capacity := ⟨16777216, by decide⟩

section
variable [Capacity]

def position? (length : Nat) (index : Int) : Option Nat :=
  let i := if 0 ≤ index then index else length + index
  if 0 ≤ i ∧ i < Capacity.elements then some i.toNat else none

def changeElement (i : Nat) (f : Node → Option Node) (items : List Node) : Option (List Node) :=
  let items := items ++ List.replicate (i + 1 - items.length) .nothing
  (f (items.getD i .nothing)).map (items.set i)

def Node.items : Node → Option String × List Node
  | .array origin items => (origin, items)
  | _ => (none, [])

def Node.place (value : Node) : List Step → Node → Option Node
  | [], _ => some value
  | [.child name], n => some (.table (Table.assign name value n.entries))
  | .child name :: steps, n =>
    (Node.place value steps (Table.entry name n.entries)).map fun inner =>
      .table (Table.insert name inner n.entries)
  | .element index :: steps, n =>
    (position? n.items.2.length index).bind fun i =>
      (changeElement i (Node.place value steps) n.items.2).map (.array n.items.1)

def Table.set (key : Key) (value : Node) (t : Table) : Option Table :=
  match key.steps with
  | [] => some (t.assign key.root value)
  | steps => (Node.place value steps (t.entry key.root)).map fun inner => t.insert key.root inner

def Table.merge (source : List (String × Node)) (t : Table) : Option Table :=
  source.foldlM (fun t e => t.set (.ofText e.1) e.2) t

end

end MapClient.Settings
