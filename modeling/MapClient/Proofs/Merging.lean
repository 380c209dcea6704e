import MapClient.Settings.Merge
import Mathlib.Data.List.TakeDrop

/-!
# What a source adds

An entry of a source changes what stands under the root of its key and nothing
else. A source in which only one key has a root thus decides alone what stands
there, whatever else it holds and in whatever order.
-/

set_option autoImplicit false

namespace MapClient.Settings

namespace Table

variable (t : Table) (key k : String)

theorem get?_cons (e : String × Node) :
    Table.get? k (e :: t) = if k = e.1 then some e.2 else t.get? k := by
  rw [get?, List.lookup_cons]
  by_cases hk : k = e.1
  · rw [hk, beq_self_eq_true, if_pos rfl]
  · rw [beq_false_of_ne hk, if_neg hk]
    rfl

theorem get?_insert (n : Node) :
    (t.insert key n).get? k = if k = key then some n else t.get? k := by
  induction t with
  | nil => exact get?_cons [] k (key, n)
  | cons e t ih =>
    by_cases he : e.1 = key
    · rw [insert, if_pos he, get?_cons, get?_cons, he]
      by_cases hk : k = key
      · rw [if_pos hk, if_pos hk]
      · rw [if_neg hk, if_neg hk, if_neg hk]
    · rw [insert, if_neg he, get?_cons, get?_cons, ih]
      by_cases hk : k = e.1
      · rw [if_pos hk, if_pos hk, if_neg (hk ▸ he)]
      · rw [if_neg hk, if_neg hk]

end Table

def Node.over (value : Node) (old : Option Node) : Node :=
  match value with
  | .table [] => old.getD (.table [])
  | .table (e :: es) => .table (Table.assignAll (e :: es) (old.getD .nothing).entries)
  | value => value

namespace Table

variable (t : Table) (key k : String) (value : Node)

theorem assign_over : t.assign key value = t.insert key (value.over (t.get? key)) := by
  cases value with
  | nothing => simp [assign, Node.over]
  | text s => simp [assign, Node.over]
  | array origin items => simp [assign, Node.over]
  | table es => cases es <;> simp [assign, Node.over, entry]

theorem get?_assign :
    (t.assign key value).get? k =
      if k = key then some (value.over (t.get? key)) else t.get? k := by
  rw [assign_over, get?_insert]

section
variable [Capacity]

theorem set_plain (h : (Key.ofText key).steps = []) :
    t.set (.ofText key) value = some (t.assign (Key.ofText key).root value) := by
  rw [set, h]

theorem get?_set (place : Key) (t' : Table) (h : t.set place value = some t')
    (hk : k ≠ place.root) : t'.get? k = t.get? k := by
  rw [set] at h
  cases hs : place.steps with
  | nil =>
    rw [hs] at h
    obtain rfl := Option.some.inj h
    rw [get?_assign, if_neg hk]
  | cons step steps =>
    rw [hs] at h
    obtain ⟨inner, -, rfl⟩ := Option.map_eq_some_iff.mp h
    rw [get?_insert, if_neg hk]

end

end Table

namespace Key

theorem name?_reads (cs rest : List Char) (name : String) (h : name? cs = some (name, rest)) :
    name.toList ++ rest = cs := by
  have hspan := List.takeWhile_append_dropWhile (p := inName) (l := cs)
  rw [name?, List.span_eq_takeWhile_dropWhile] at h
  generalize cs.takeWhile inName = front at h hspan
  cases front with
  | nil => simp at h
  | cons c front =>
    obtain ⟨rfl, rfl⟩ := Prod.mk.inj (Option.some.inj h)
    rw [String.toList_ofList, hspan]

theorem steps?_nil (k : Nat) (cs : List Char) (h : steps? k cs = some []) : cs = [] := by
  cases cs with
  | nil => rfl
  | cons c cs =>
    cases k with
    | zero => simp [steps?] at h
    | succ k =>
      rw [steps?] at h
      · simp [Option.bind_eq_some_iff] at h
      · simp

theorem ofText_plain (text : String) (h : (ofText text).steps = []) :
    (ofText text).root = text := by
  cases hp : parse? text with
  | none => rw [ofText, hp]; rfl
  | some key =>
    rw [ofText, hp, Option.getD_some] at h ⊢
    simp only [parse?, Option.bind_eq_bind, Option.bind_eq_some_iff] at hp
    obtain ⟨⟨root, rest⟩, hname, steps, hsteps, hkey⟩ := hp
    obtain rfl := Option.some.inj hkey
    rw [show steps = [] from h] at hsteps
    have hread := name?_reads _ _ _ hname
    have hrest : rest = [] := steps?_nil _ _ hsteps
    rw [hrest, List.append_nil] at hread
    exact String.toList_inj.mp hread

end Key

def farIndex : Int := 9223372036854775807

theorem changeElement_some (i : Nat) (f : Node → Option Node) (items : List Node)
    (h : ∀ n, ∃ m, f n = some m) : ∃ more, changeElement i f items = some more := by
  obtain ⟨m, hm⟩ := h
    ((items ++ List.replicate (i + 1 - items.length) Node.nothing).getD i .nothing)
  exact ⟨_, by rw [changeElement, hm]; rfl⟩

section
variable [Capacity]

def Step.Placed : Step → Prop
  | .child _ => True
  | .element index => 0 ≤ index ∧ index < Capacity.elements

instance : DecidablePred Step.Placed
  | .child _ => .isTrue trivial
  | .element index => inferInstanceAs (Decidable (0 ≤ index ∧ index < Capacity.elements))

def Misplaced (text : String) : Prop := ∃ step ∈ (Key.ofText text).steps, ¬step.Placed

theorem plain_placed (text : String) (h : (Key.ofText text).steps = []) : ¬Misplaced text := by
  rintro ⟨step, hstep, -⟩
  rw [h] at hstep
  cases hstep

theorem position?_placed (length : Nat) (index : Int) (h : (Step.element index).Placed) :
    position? length index = some index.toNat := by
  obtain ⟨hlow, hhigh⟩ := h
  simp only [position?, hlow, if_true, hhigh, and_self]

theorem Node.place_some (value : Node) (steps : List Step) (n : Node)
    (h : ∀ step ∈ steps, step.Placed) : ∃ m, Node.place value steps n = some m := by
  induction steps generalizing n with
  | nil => exact ⟨value, by rw [place]⟩
  | cons step steps ih =>
    have hrest : ∀ n, ∃ m, Node.place value steps n = some m :=
      fun n => ih n fun s hs => h s (List.mem_cons_of_mem step hs)
    cases step with
    | element index =>
      obtain ⟨more, hmore⟩ := changeElement_some index.toNat _ n.items.2 hrest
      rw [place, position?_placed _ _ (h _ List.mem_cons_self), Option.bind_some, hmore]
      exact ⟨_, rfl⟩
    | child name =>
      cases steps with
      | nil => exact ⟨_, by rw [place]⟩
      | cons next steps =>
        obtain ⟨inner, hinner⟩ := hrest (Table.entry name n.entries)
        rw [place, hinner]
        · exact ⟨_, rfl⟩
        · simp

namespace Table

/-- The largest index goes beyond every array. -/
theorem set_far (root : String) (value : Node) (t : Table) :
    t.set ⟨root, [.element farIndex]⟩ value = none := by
  have hfar (length : Nat) : position? length farIndex = none := by
    have hbounded := Capacity.bounded
    have hbeyond : ¬(0 ≤ farIndex ∧ farIndex < Capacity.elements) := by
      rw [farIndex]
      omega
    rw [position?]
    exact if_neg hbeyond
  simp only [set, Node.place, hfar, Option.bind_none, Option.map_none]

theorem set_some (place : Key) (value : Node) (t : Table)
    (h : ∀ step ∈ place.steps, step.Placed) : ∃ t', t.set place value = some t' := by
  rw [set]
  cases hs : place.steps with
  | nil => exact ⟨_, rfl⟩
  | cons step steps =>
    obtain ⟨inner, hinner⟩ := Node.place_some value (step :: steps) (t.entry place.root) (hs ▸ h)
    exact ⟨t.insert place.root inner, Option.map_eq_some_iff.mpr ⟨inner, hinner, rfl⟩⟩

/-- A source whose keys all have places can be added. -/
theorem merge_some (source : List (String × Node)) (t : Table)
    (h : ∀ e ∈ source, ∀ step ∈ (Key.ofText e.1).steps, step.Placed) :
    ∃ t', t.merge source = some t' := by
  induction source generalizing t with
  | nil => exact ⟨t, rfl⟩
  | cons e source ih =>
    obtain ⟨t', ht⟩ := set_some (.ofText e.1) e.2 t (h e List.mem_cons_self)
    obtain ⟨t'', hrest⟩ := ih t' fun f hf => h f (List.mem_cons_of_mem e hf)
    refine ⟨t'', ?_⟩
    rw [merge, List.foldlM_cons, ht]
    exact hrest

/-- A source that cannot be added has a key without a place. -/
theorem merge_misplaced (source : List (String × Node)) (t : Table)
    (h : t.merge source = none) : ∃ text ∈ source.map Prod.fst, Misplaced text := by
  by_contra hall
  have hplaced : ∀ e ∈ source, ∀ step ∈ (Key.ofText e.1).steps, step.Placed := by
    intro e he step hstep
    by_contra hno
    exact hall ⟨e.1, List.mem_map_of_mem he, step, hstep, hno⟩
  obtain ⟨t', hsome⟩ := merge_some source t hplaced
  rw [h] at hsome
  cases hsome

theorem merge_step (e : String × Node) (source : List (String × Node)) (t : Table) :
    t.merge (e :: source) = (t.set (.ofText e.1) e.2).bind (·.merge source) :=
  List.foldlM_cons ..

theorem merge_cons (e : String × Node) (source : List (String × Node)) (t t' : Table)
    (h : t.merge (e :: source) = some t') :
    ∃ between, t.set (.ofText e.1) e.2 = some between ∧ between.merge source = some t' := by
  rw [merge_step] at h
  exact Option.bind_eq_some_iff.mp h

theorem get?_merge_elsewhere (k : String) (source : List (String × Node)) (t t' : Table)
    (h : t.merge source = some t') (hroots : ∀ e ∈ source, k ≠ (Key.ofText e.1).root) :
    t'.get? k = t.get? k := by
  induction source generalizing t with
  | nil =>
    obtain rfl : t = t' := Option.some.inj h
    rfl
  | cons e source ih =>
    obtain ⟨between, hset, hrest⟩ := merge_cons e source t t' h
    rw [ih between hrest fun f hf => hroots f (List.mem_cons_of_mem e hf)]
    exact get?_set t k e.2 _ between hset (hroots e List.mem_cons_self)

/-- If no other key of a source goes to a root, the entry of that name decides
what stands there. -/
theorem get?_merge (k : String) (source : List (String × Node)) (t t' : Table)
    (h : t.merge source = some t') (hk : (Key.ofText k).steps = [])
    (hnames : (source.map Prod.fst).Nodup)
    (hroots : ∀ e ∈ source, (Key.ofText e.1).root = k → (Key.ofText e.1).steps = []) :
    t'.get? k =
      match Table.get? k source with
      | none => t.get? k
      | some value => some (value.over (t.get? k)) := by
  have hname : ∀ e ∈ source, k = (Key.ofText e.1).root → k = e.1 := fun e he hroot =>
    hroot.trans (Key.ofText_plain e.1 (hroots e he hroot.symm))
  induction source generalizing t with
  | nil =>
    obtain rfl : t = t' := Option.some.inj h
    rfl
  | cons e source ih =>
    obtain ⟨between, hset, hrest⟩ := merge_cons e source t t' h
    obtain ⟨hnew, hnames⟩ := List.nodup_cons.mp hnames
    rw [get?_cons]
    by_cases hek : k = e.1
    · -- The root is not gone to again, so the entry that is put there now stays.
      have helsewhere : ∀ f ∈ source, k ≠ (Key.ofText f.1).root := by
        intro f hf hroot
        have hfk := hname f (List.mem_cons_of_mem e hf) hroot
        exact hnew (List.mem_map.mpr ⟨f, hf, hfk.symm.trans hek⟩)
      subst hek
      rw [set_plain t e.1 e.2 hk, Key.ofText_plain e.1 hk] at hset
      obtain rfl := Option.some.inj hset
      rw [get?_merge_elsewhere _ source _ t' hrest helsewhere, get?_assign, if_pos rfl, if_pos rfl]
    · have hother : k ≠ (Key.ofText e.1).root := fun hroot =>
        hek (hname e List.mem_cons_self hroot)
      rw [if_neg hek, ← get?_set t k e.2 _ between hset hother]
      exact ih between hrest hnames (fun f hf => hroots f (List.mem_cons_of_mem e hf))
        fun f hf => hname f (List.mem_cons_of_mem e hf)

end Table

end

end MapClient.Settings
