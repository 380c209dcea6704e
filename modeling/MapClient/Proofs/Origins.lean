import MapClient.Proofs.Overriding

/-!
# Where arrays come from

An array remembers the file that it comes from, which is named where a text should
stand in its place. Nothing else looks at it: without the names of files the same
settings are put together and the same faults found.
-/

set_option autoImplicit false

namespace MapClient.Settings

open MapClient.Files MapClient.Text

namespace Node

mutual

def unnamed : Node → Node
  | .nothing => .nothing
  | .text s => .text s
  | .array _ items => .array none (unnamedItems items)
  | .table es => .table (unnamedEntries es)

def unnamedItems : List Node → List Node
  | [] => []
  | n :: ns => n.unnamed :: unnamedItems ns

def unnamedEntries : List (String × Node) → List (String × Node)
  | [] => []
  | (k, n) :: es => (k, n.unnamed) :: unnamedEntries es

end

end Node

def Table.unnamed (t : Table) : Table := t.map fun e => (e.1, e.2.unnamed)

def Fault.unnamed : Fault → Fault
  | .brokenFile _ => .brokenFile ""
  | .wrongShape shape key _ => .wrongShape shape key none
  | fault => fault

namespace Node

@[simp]
theorem unnamed_nothing : nothing.unnamed = nothing := by rw [unnamed]

@[simp]
theorem unnamed_text (s : String) : (text s).unnamed = text s := by rw [unnamed]

@[simp]
theorem unnamed_array (origin : Option String) (items : List Node) :
    (array origin items).unnamed = array none (items.map unnamed) := by
  have hitems : unnamedItems items = items.map unnamed := by
    induction items with
    | nil => rw [unnamedItems, List.map_nil]
    | cons n ns ih => rw [unnamedItems, ih, List.map_cons]
  rw [unnamed, hitems]

@[simp]
theorem unnamed_table (es : List (String × Node)) :
    (table es).unnamed = table (Table.unnamed es) := by
  have hentries : unnamedEntries es = Table.unnamed es := by
    induction es with
    | nil => rw [unnamedEntries, Table.unnamed, List.map_nil]
    | cons e es ih => rw [unnamedEntries, ih, Table.unnamed, Table.unnamed, List.map_cons]
  rw [unnamed, hentries]

theorem entries_unnamed (n : Node) : n.unnamed.entries = Table.unnamed n.entries := by
  cases n <;> simp [entries, Table.unnamed]

theorem items_unnamed (n : Node) : n.unnamed.items = (none, n.items.2.map unnamed) := by
  cases n <;> simp [items]

end Node

namespace Table

variable (t : Table) (key k : String)

theorem get?_unnamed : t.unnamed.get? k = (t.get? k).map Node.unnamed := by
  induction t with
  | nil => rfl
  | cons e t ih =>
    rw [unnamed, List.map_cons, get?_cons, get?_cons]
    split_ifs
    · rfl
    · exact ih

theorem entry_unnamed : t.unnamed.entry k = (t.entry k).unnamed := by
  rw [entry, entry, get?_unnamed]
  cases t.get? k <;> simp

theorem insert_unnamed (n : Node) :
    (t.insert key n).unnamed = t.unnamed.insert key n.unnamed := by
  induction t with
  | nil => rfl
  | cons e t ih =>
    simp only [insert, unnamed, List.map_cons]
    split_ifs
    · rfl
    · exact congrArg _ ih

end Table

mutual

theorem Table.assign_unnamed (key : String) (value : Node) (t : Table) :
    (t.assign key value).unnamed = t.unnamed.assign key value.unnamed := by
  cases value with
  | nothing => simp [assign, insert_unnamed]
  | text s => simp [assign, insert_unnamed]
  | array origin items => simp [assign, insert_unnamed]
  | table es =>
    cases es with
    | nil =>
      rw [assign, insert_unnamed, Node.unnamed_table, show unnamed [] = [] from rfl, assign,
        get?_unnamed]
      cases t.get? key <;> simp [unnamed]
    | cons e es =>
      have hentries : unnamed (e :: es) = (e.1, e.2.unnamed) :: unnamed es := rfl
      rw [assign, insert_unnamed, Node.unnamed_table, Node.unnamed_table,
        assignAll_unnamed (e :: es), hentries, assign, entry_unnamed, Node.entries_unnamed]

theorem Table.assignAll_unnamed (es : List (String × Node)) (t : Table) :
    (t.assignAll es).unnamed = t.unnamed.assignAll (Table.unnamed es) := by
  cases es with
  | nil => rw [assignAll, show unnamed [] = [] from rfl, assignAll]
  | cons e es =>
    obtain ⟨key, value⟩ := e
    have hentries : unnamed ((key, value) :: es) = (key, value.unnamed) :: unnamed es := rfl
    rw [assignAll, assignAll_unnamed es, assign_unnamed key value, hentries, assignAll]

end

theorem changeElement_unnamed (i : Nat) (f g : Node → Option Node) (items : List Node)
    (h : ∀ n, g n.unnamed = (f n).map Node.unnamed) :
    changeElement i g (items.map Node.unnamed) =
      (changeElement i f items).map (·.map Node.unnamed) := by
  have hfilled : items.map Node.unnamed ++
      List.replicate (i + 1 - (items.map Node.unnamed).length) Node.nothing =
        (items ++ List.replicate (i + 1 - items.length) Node.nothing).map Node.unnamed := by
    rw [List.map_append, List.map_replicate, Node.unnamed_nothing, List.length_map]
  rw [changeElement, changeElement, hfilled]
  generalize items ++ List.replicate (i + 1 - items.length) Node.nothing = filled
  have hat : (filled.map Node.unnamed).getD i .nothing = (filled.getD i .nothing).unnamed := by
    rw [← Node.unnamed_nothing, List.getD_map, Node.unnamed_nothing]
  rw [hat, h]
  cases f (filled.getD i .nothing) with
  | none => rfl
  | some m => simp [List.map_set]

theorem Node.place_unnamed [Capacity] (value : Node) (steps : List Step) (n : Node) :
    Node.place value.unnamed steps n.unnamed = (Node.place value steps n).map unnamed := by
  induction steps generalizing n with
  | nil => rw [place, place, Option.map_some]
  | cons step steps ih =>
    cases step with
    | element index =>
      rw [place, place, items_unnamed, List.length_map]
      cases position? n.items.2.length index with
      | none => rfl
      | some i =>
        rw [Option.bind_some, Option.bind_some, changeElement_unnamed i _ _ _ ih]
        cases changeElement i (Node.place value steps) n.items.2 <;> simp
    | child name =>
      cases steps with
      | nil =>
        rw [place, place, entries_unnamed, Option.map_some, unnamed_table, Table.assign_unnamed]
      | cons next steps =>
        rw [place, place, entries_unnamed, Table.entry_unnamed, ih]
        · cases Node.place value (next :: steps) (Table.entry name n.entries) <;>
            simp [Table.insert_unnamed]
        · exact List.cons_ne_nil next steps
        · exact List.cons_ne_nil next steps

namespace Table

theorem set_unnamed [Capacity] (key : Key) (value : Node) (t : Table) :
    t.unnamed.set key value.unnamed = (t.set key value).map unnamed := by
  rw [set, set]
  cases key.steps with
  | nil =>
    dsimp only
    rw [Option.map_some, assign_unnamed]
  | cons step steps =>
    dsimp only
    rw [entry_unnamed, Node.place_unnamed]
    cases Node.place value (step :: steps) (t.entry key.root) <;> simp [insert_unnamed]

theorem merge_unnamed [Capacity] (source : List (String × Node)) (t : Table) :
    t.unnamed.merge (unnamed source) = (t.merge source).map unnamed := by
  induction source generalizing t with
  | nil => rfl
  | cons e source ih =>
    have hentries : unnamed (e :: source) = (e.1, e.2.unnamed) :: unnamed source := rfl
    rw [hentries, merge_step, merge_step, set_unnamed]
    cases t.set (.ofText e.1) e.2 with
    | none => rfl
    | some between => exact ih between

end Table

section
variable (origin origin' : String)

mutual

theorem ofValue_unnamed (v : Toml.Value) :
    (Node.ofValue origin v).unnamed = (Node.ofValue origin' v).unnamed := by
  cases v with
  | text s => rw [Node.ofValue, Node.ofValue]
  | integer n => rw [Node.ofValue, Node.ofValue]
  | real r => rw [Node.ofValue, Node.ofValue]
  | boolean b => rw [Node.ofValue, Node.ofValue]
  | date d => rw [Node.ofValue, Node.ofValue]
  | array vs =>
    rw [Node.ofValue, Node.ofValue, Node.unnamed_array, Node.unnamed_array, ofValues_unnamed vs]
  | table o es =>
    rw [Node.ofValue, Node.ofValue, Node.unnamed_table, Node.unnamed_table, ofEntries_unnamed es]

theorem ofValues_unnamed (vs : List Toml.Value) :
    (Node.ofValues origin vs).map Node.unnamed = (Node.ofValues origin' vs).map Node.unnamed := by
  cases vs with
  | nil => rw [Node.ofValues, Node.ofValues]
  | cons v vs =>
    rw [Node.ofValues, Node.ofValues, List.map_cons, List.map_cons, ofValue_unnamed v,
      ofValues_unnamed vs]

/-- Files with the same entries differ in nothing but their names. -/
theorem ofEntries_unnamed (entries : Toml.Entries) :
    Table.unnamed (Node.ofEntries origin entries) =
      Table.unnamed (Node.ofEntries origin' entries) := by
  cases entries with
  | nil => rw [Node.ofEntries, Node.ofEntries]
  | cons e es =>
    obtain ⟨key, value⟩ := e
    have hrest := ofEntries_unnamed es
    rw [Table.unnamed, Table.unnamed] at hrest
    rw [Node.ofEntries, Node.ofEntries, Table.unnamed, Table.unnamed, List.map_cons,
      List.map_cons, ofValue_unnamed value, hrest]

end

end

theorem textAt_unnamed (t : Table) (key : String) :
    textAt t.unnamed key = (textAt t key).mapError Fault.unnamed := by
  rw [textAt, textAt, Table.get?_unnamed]
  cases t.get? key with
  | none => rfl
  | some n => cases n <;> simp [Except.mapError, Fault.unnamed]

theorem ofTable_unnamed (t : Table) :
    ofTable t.unnamed = (ofTable t).mapError Fault.unnamed := by
  rw [ofTable, ofTable, textAt_unnamed, textAt_unnamed]
  cases textAt t baseUrlKey with
  | error fault => rfl
  | ok base =>
    cases base with
    | none => rfl
    | some s => cases textAt t logDirectoryKey <;> rfl

theorem checkedTable_unnamed (t : Table) :
    checkedTable t.unnamed = (checkedTable t).mapError Fault.unnamed := by
  rw [checkedTable, checkedTable, ofTable_unnamed]
  cases ofTable t with
  | error fault => rfl
  | ok settings =>
    have hkept : (Except.ok settings : Except Fault Settings).mapError Fault.unnamed =
        .ok settings := rfl
    rw [hkept, checked]
    split_ifs <;> rfl

end MapClient.Settings
