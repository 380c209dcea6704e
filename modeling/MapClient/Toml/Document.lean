import MapClient.Toml.Value

/-!
# Settings files

A file is a sequence of blocks: entries under a header that names a table or
the next element of an array of tables. A table may be headed once, in any
order with the tables inside it, and no key may have two values.
-/

set_option autoImplicit false

namespace MapClient.Toml

structure Block where
  header : List String
  isElement : Bool
  entries : Entries

namespace Block

def below? (key : String) (b : Block) : Option Block :=
  match b.header with
  | k :: ks => if k = key then some { b with header := ks } else none
  | [] => none

def isOutside (key : String) (b : Block) : Bool := b.header.head? != some key

def startsElement (b : Block) : Bool := b.header.isEmpty && b.isElement

def cutElements : List Block → List (List Block)
  | [] => []
  | b :: bs =>
    match cutElements bs with
    | [] => [[b]]
    | part :: parts =>
      if part.head?.any startsElement then [b] :: part :: parts else (b :: part) :: parts

mutual

/-- The entries of a table from its blocks; `headed` says whether its own block
came before. Each step takes a block or a key from a block, and `k` bounds
their number. -/
def assemble : Nat → Bool → List Block → Option Entries
  | 0, _, _ => none
  | _ + 1, _, [] => some []
  | k + 1, headed, b :: bs =>
    match b.header with
    | [] => if headed || b.isElement then none else (assemble k true bs).map (b.entries ++ ·)
    | key :: keys => do
      let inside := (b :: bs).filterMap (below? key)
      let v ←
        if b.isElement && keys.isEmpty then (elements k (cutElements inside)).map Value.array
        else (assemble k false inside).map (Value.table false)
      let rest ← assemble k headed (bs.filter (isOutside key))
      some ((key, v) :: rest)

def elements : Nat → List (List Block) → Option (List Value)
  | 0, _ => none
  | _ + 1, [] => some []
  | _ + 1, [] :: _ => none
  | k + 1, (b :: bs) :: parts => do
    let inner ← assemble k true bs
    let rest ← elements k parts
    some (.table false (b.entries ++ inner) :: rest)

end

def weight (bs : List Block) : Nat := bs.foldl (fun n b => n + 2 * b.header.length + 2) 2

end Block

namespace Reading

def header (ts : List Token) : Option (Block × List Token) := do
  let (isElement, rest) := match ts with
    | .leftBracket :: rest => (true, rest)
    | rest => (false, rest)
  let (keys, rest) ← dottedKey (dropBlank rest)
  let rest ← match isElement, rest with
    | true, .rightBracket :: .rightBracket :: rest => some rest
    | false, .rightBracket :: rest => some rest
    | _, _ => none
  let rest ← endLine rest
  some (⟨keys, isElement, []⟩, rest)

def blocks : Nat → List Block → List Token → Option (List Block)
  | 0, _, _ => none
  | k + 1, done, ts =>
    match dropLines ts with
    | [] => some done
    | .leftBracket :: ts => do
      let (b, ts) ← header ts
      blocks k (b :: done) ts
    | ts => do
      let (keys, ts) ← keyAndSign ts
      let (v, ts) ← value (ts.length + 1) ts
      let ts ← endLine ts
      match done with
      | b :: done =>
        let entries ← addDotted v keys b.entries
        blocks k ({ b with entries := entries } :: done) ts
      | [] =>
        let entries ← addDotted v keys []
        blocks k [⟨[], false, entries⟩] ts

end Reading

def parse? (text : String) : Option Entries := do
  let ts ← Token.ofText? text
  let bs ← Reading.blocks (ts.length + 1) [] ts
  let entries ← Block.assemble (Block.weight bs) false bs.reverse
  if (Value.table false entries).isSound then some entries else none

end MapClient.Toml
