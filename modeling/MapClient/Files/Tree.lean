import MapClient.Files.Storage

/-!
# A tree of files

Directories and files are entries at places, which are given by the names that lead to them
from the top. Each says what the process may do with it.
-/

set_option autoImplicit false

namespace MapClient.Files

open MapClient.Text

structure Access where
  read : Bool := true
  write : Bool := true
  search : Bool := true
  deriving DecidableEq, Repr

inductive Entry where
  | directory (access : Access)
  | file (access : Access) (content : List UInt8)
  deriving DecidableEq, Repr

abbrev Place := List Name

structure Tree where
  top : Access
  working : Place
  entries : List (Place × Entry)
  deriving DecidableEq, Repr

def nameLimit : Nat := 255

def pathLimit : Nat := 4096

namespace Tree

def blank : Tree := ⟨{}, [utf8 "work"], [([utf8 "work"], .directory {})]⟩

def find? (t : Tree) : Place → Option Entry
  | [] => some (.directory t.top)
  | place => t.entries.lookup place

def put (t : Tree) (place : Place) (e : Entry) : Tree :=
  { t with entries := t.entries.filter (·.1 != place) ++ [(place, e)] }

/-- Takes a step from a place, which has to be a directory that can be searched. Above the
top is the top. -/
def enter (t : Tree) (place : Place) (name : Name) : Except Fault Place :=
  match t.find? place with
  | none => .error .missing
  | some (.file ..) => .error .notDirectory
  | some (.directory access) =>
    if !access.search then .error .denied
    else if nameLimit < name.length then .error .longName
    else if name = Path.here then .ok place
    else if name = Path.up then .ok place.dropLast
    else .ok (place ++ [name])

def start (t : Tree) (rooted : Bool) : Place := if rooted then [] else t.working

def walk (t : Tree) (rooted : Bool) (steps : List Name) : Except Fault Place :=
  steps.foldlM t.enter (t.start rooted)

def checked (p : Path) : Except Fault Unit :=
  if p.bytes.contains 0 then .error .brokenName
  else if pathLimit ≤ p.bytes.length then .error .longName
  else .ok ()

def locate (t : Tree) (p : Path) : Except Fault Place :=
  (checked p).bind fun _ => t.walk p.isRooted p.stepsInto

def read (t : Tree) (p : Path) : Content :=
  match t.locate p with
  | .error _ => .absent
  | .ok place =>
    match t.find? place with
    | some (.file access content) => if access.read then .bytes content else .unreadable
    | _ => .absent

def isDirectory (t : Tree) (rooted : Bool) (steps : List Name) : Bool :=
  match t.walk rooted steps with
  | .ok place =>
    match t.find? place with
    | some (.directory _) => true
    | _ => false
  | .error _ => false

def writable (t : Tree) (place : Place) : Bool :=
  match t.find? place with
  | some (.directory access) => access.write
  | _ => false

def makeDirectory (t : Tree) (rooted : Bool) : List Name → Except Fault Tree
  | [] => .error .present
  | name :: above => do
    let place ← t.walk rooted above.reverse
    let target ← t.enter place name
    if name = Path.here ∨ name = Path.up ∨ (t.find? target).isSome then .error .present
    else if t.writable place then .ok (t.put target (.directory {}))
    else .error .denied

/-- Makes a directory and those above it that are missing. What was made before a fault
stays. -/
def makeAll (t : Tree) (rooted : Bool) (steps : List Name) : Except (Fault × Tree) Tree :=
  match steps with
  | [] => .ok t
  | name :: above =>
    match t.makeDirectory rooted (name :: above) with
    | .ok t => .ok t
    | .error .missing => do
      let t ← t.makeAll rooted (above.dropWhile (· == Path.here))
      match t.makeDirectory rooted (name :: above) with
      | .ok t => .ok t
      | .error fault =>
        if t.isDirectory rooted (name :: above).reverse then .ok t else .error (fault, t)
    | .error fault =>
      if t.isDirectory rooted (name :: above).reverse then .ok t else .error (fault, t)
termination_by steps.length
decreasing_by
  have := (List.dropWhile_sublist (l := above) (· == Path.here)).length_le
  simp only [List.length_cons]
  omega

def makeDirectories (t : Tree) (p : Path) : Except (Fault × Tree) Tree :=
  match checked p with
  | .error fault => .error (fault, t)
  | .ok () => t.makeAll p.isRooted p.steps.reverse

def append (t : Tree) (p : Path) (content : List UInt8) : Except Fault Tree := do
  let place ← t.locate p
  match t.find? place with
  | some (.directory _) => .error .isDirectory
  | some (.file access before) =>
    if access.write then .ok (t.put place (.file access (before ++ content)))
    else .error .denied
  | none =>
    if t.writable place.dropLast then .ok (t.put place (.file {} content)) else .error .denied

def files (t : Tree) : List (Place × List UInt8) :=
  t.entries.filterMap fun e =>
    match e.2 with
    | .file _ content =>
      if t.working.isPrefixOf e.1 then some (e.1.drop t.working.length, content) else none
    | .directory _ => none

end Tree

instance : FileSystem Tree where
  read := Tree.read
  makeDirectories p := fun t =>
    match t.makeDirectories p with
    | .ok made => (.ok (), made)
    | .error (fault, made) => (.error fault, made)
  append p content := fun t =>
    match t.append p content with
    | .ok added => (.ok (), added)
    | .error fault => (.error fault, t)

end MapClient.Files
