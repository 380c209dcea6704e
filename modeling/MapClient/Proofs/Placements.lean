import MapClient.Proofs.Commands
import MapClient.Proofs.WellFormed

/-!
# Where flags stand

A flag stands before a command, after it, between its operands or behind them,
and its value is joined to it or follows it. Reading a command line comes to the
command, its operands and the values of the flags, wherever they stand, and so
does running it.
-/

set_option autoImplicit false

namespace MapClient.CommandLine

open MapClient.Text

inductive Choice where
  | baseUrl (url : String)
  | config (path : Files.Path)
  deriving DecidableEq, Repr

namespace Choice

def flag : Choice → Flag
  | .baseUrl _ => .baseUrl
  | .config _ => .config

def value : Choice → Argument
  | .baseUrl url => utf8 url
  | .config path => path.bytes

def url? : Choice → Option String
  | .baseUrl url => some url
  | .config _ => none

def path? : Choice → Option Files.Path
  | .baseUrl _ => none
  | .config path => some path

end Choice

structure Giving where
  choice : Choice
  joined : Bool
  deriving DecidableEq, Repr

def Giving.arguments (g : Giving) : List Argument :=
  let mark := dash :: dash :: utf8 g.choice.flag.name
  if g.joined then [mark ++ equalsSign :: g.choice.value] else [mark, g.choice.value]

inductive Word where
  | operand (text : String)
  | given (g : Giving)
  deriving DecidableEq, Repr

namespace Word

def arguments : Word → List Argument
  | .operand text => [utf8 text]
  | .given g => g.arguments

def text? : Word → Option String
  | .operand text => some text
  | .given _ => none

def choice? : Word → Option Choice
  | .operand _ => none
  | .given g => some g.choice

end Word

structure Line where
  before : List Giving
  verb : Verb
  after : List Word
  deriving DecidableEq, Repr

namespace Line

def arguments (l : Line) : List Argument :=
  l.before.flatMap Giving.arguments ++ utf8 l.verb.name :: l.after.flatMap Word.arguments

def operands (l : Line) : List String := l.after.filterMap Word.text?

def choices (l : Line) : List Choice := l.after.filterMap Word.choice? ++ l.before.map (·.choice)

end Line

def Bare (a : Argument) : Prop := a.head? ≠ some dash

instance (a : Argument) : Decidable (Bare a) := inferInstanceAs (Decidable (_ ≠ _))

def Choice.Proper (c : Choice) : Prop := c.value ≠ [] ∧ Bare c.value

instance (c : Choice) : Decidable c.Proper := inferInstanceAs (Decidable (_ ∧ _))

theorem shape_bare (a : Argument) (h : Bare a) : Shape.of a = .plain := by
  unfold Shape.of
  split
  · exact absurd rfl h
  · exact absurd rfl h
  · exact absurd rfl h
  · rfl

theorem shape_long (b : UInt8) (bs : Argument) :
    Shape.of (dash :: dash :: b :: bs) =
      .long (cut (· == equalsSign) (b :: bs)).1 (cut (· == equalsSign) (b :: bs)).2 := rfl

theorem name_bytes (f : Flag) :
    ∃ b bs, utf8 f.name = b :: bs ∧ ∀ c ∈ b :: bs, (c == equalsSign) = false := by
  cases f with
  | baseUrl => exact ⟨_, _, rfl, by decide +kernel⟩
  | config => exact ⟨_, _, rfl, by decide +kernel⟩

theorem shape_apart (f : Flag) :
    Shape.of (dash :: dash :: utf8 f.name) = .long (utf8 f.name) none := by
  obtain ⟨b, bs, hname, hplain⟩ := name_bytes f
  rw [hname, shape_long, cut_none hplain]

theorem shape_joined (f : Flag) (value : Argument) :
    Shape.of (dash :: dash :: utf8 f.name ++ equalsSign :: value) =
      .long (utf8 f.name) (some value) := by
  obtain ⟨b, bs, hname, hplain⟩ := name_bytes f
  have hcut := cut_front value hplain (beq_self_eq_true equalsSign)
  rw [hname]
  simp only [List.cons_append] at hcut ⊢
  rw [shape_long, hcut]

theorem find_flag (f : Flag) :
    ([Flag.baseUrl, Flag.config].find? fun f' => utf8 f'.name == utf8 f.name) = some f := by
  cases f <;> decide

theorem bare_verb (v : Verb) : Bare (utf8 v.name) := by cases v <;> decide

theorem ofArgument?_verb (v : Verb) : Verb.ofArgument? (utf8 v.name) = some v := by
  cases v <;> decide

namespace Read

def ofChoices (cs : List Choice) (operands : List String) : Read :=
  ⟨cs.findSome? Choice.url?, cs.findSome? Choice.path?, operands, none, false⟩

/-- What is pending is no flag without a value, and once it takes effect these
choices and operands have been read. -/
structure Holds (r : Read) (cs : List Choice) (operands : List String) : Prop where
  literal : r.literal = false
  waiting : r.waiting? = none
  count : r.operandCount = operands.length
  settle : r.settle = .ok (ofChoices cs operands)

theorem holds_ofChoices (cs : List Choice) (operands : List String) :
    (ofChoices cs operands).Holds cs operands := by
  constructor
  · rfl
  · rfl
  · rfl
  · rfl

theorem holds_blank : blank.Holds [] [] := holds_ofChoices [] []

theorem text_utf8 (s : String) : text (utf8 s) = .ok s := by
  rw [text, ofUtf8?_utf8]

theorem findSome?_url (cs : List Choice) (h : .baseUrl ∉ cs.map Choice.flag) :
    cs.findSome? Choice.url? = none := by
  rw [List.findSome?_eq_none_iff]
  intro c hc
  cases c with
  | baseUrl url => exact absurd (List.mem_map_of_mem hc) h
  | config path => rfl

theorem findSome?_path (cs : List Choice) (h : .config ∉ cs.map Choice.flag) :
    cs.findSome? Choice.path? = none := by
  rw [List.findSome?_eq_none_iff]
  intro c hc
  cases c with
  | baseUrl url => rfl
  | config path => exact absurd (List.mem_map_of_mem hc) h

theorem give_choice (cs : List Choice) (operands : List String) (c : Choice)
    (hnew : c.flag ∉ cs.map Choice.flag) (hproper : c.Proper) :
    (ofChoices cs operands).give c.flag c.value = .ok (ofChoices (cs ++ [c]) operands) := by
  cases c with
  | baseUrl url =>
    have hnone := findSome?_url cs hnew
    simp [give, Choice.flag, Choice.value, ofChoices, hnone, text_utf8, Except.map, Choice.url?,
      Choice.path?]
  | config path =>
    have hnone := findSome?_path cs hnew
    have hsome : path.bytes ≠ [] := hproper.1
    simp [give, Choice.flag, Choice.value, ofChoices, hnone, hsome, Choice.url?, Choice.path?]

end Read

inductive Passes (topic : Topic) : Read → List Argument → Read → Prop
  | nil (r : Read) : Passes topic r [] r
  | cons (r r' r'' : Read) (a : Argument) (as : List Argument)
    (hflag : readFlag topic r a = .ok (some r')) (h : Passes topic r' as r'') :
    Passes topic r (a :: as) r''

theorem Passes.append {topic : Topic} {r r' r'' : Read} {as more : List Argument}
    (h : Passes topic r as r') (hmore : Passes topic r' more r'') :
    Passes topic r (as ++ more) r'' := by
  induction h with
  | nil r => exact hmore
  | cons r between r' a as hflag _ ih => exact .cons r between r'' a _ hflag (ih hmore)

theorem readAfterVerb_passes (v : Verb) {r r' : Read} {as : List Argument}
    (h : Passes (.verb v) r as r') (rest : List Argument) :
    readAfterVerb v r (as ++ rest) = readAfterVerb v r' rest := by
  induction h with
  | nil r => rfl
  | cons r between r' a as hflag _ ih =>
    rw [List.cons_append, readAfterVerb, hflag]
    exact ih

theorem readFrom_passes {r r' : Read} {as : List Argument} (h : Passes .program r as r')
    (rest : List Argument) : readFrom r (as ++ rest) = readFrom r' rest := by
  induction h with
  | nil r => rfl
  | cons r between r' a as hflag _ ih =>
    rw [List.cons_append, readFrom, hflag]
    exact ih

section
variable (topic : Topic) {r : Read} {cs : List Choice} {operands : List String}

theorem readFlag_joined (h : r.Holds cs operands) (c : Choice)
    (hnew : c.flag ∉ cs.map Choice.flag) (hproper : c.Proper) :
    readFlag topic r (dash :: dash :: utf8 c.flag.name ++ equalsSign :: c.value) =
      .ok (some (.ofChoices (cs ++ [c]) operands)) := by
  have hgive := Read.give_choice cs operands c hnew hproper
  simp only [readFlag, h.literal, shape_joined, readLong, find_flag, h.settle]
  exact congrArg (Except.map some) hgive

theorem passes_giving (h : r.Holds cs operands) (g : Giving)
    (hnew : g.choice.flag ∉ cs.map Choice.flag) (hproper : g.choice.Proper) :
    ∃ r', Passes topic r g.arguments r' ∧ r'.Holds (cs ++ [g.choice]) operands := by
  obtain ⟨c, joined⟩ := g
  cases joined with
  | true =>
    exact ⟨_, .cons r _ _ _ [] (readFlag_joined topic h c hnew hproper) (.nil _),
      Read.holds_ofChoices _ _⟩
  | false =>
    let waits : Read := { Read.ofChoices cs operands with pending := some (.flag c.flag none) }
    let told : Read :=
      { Read.ofChoices cs operands with pending := some (.flag c.flag (some c.value)) }
    have hmark : readFlag topic r (dash :: dash :: utf8 c.flag.name) = .ok (some waits) := by
      simp only [readFlag, h.literal, shape_apart, readLong, find_flag, h.settle]
      rfl
    have hvalue : readFlag topic waits c.value = .ok (some told) := by
      rw [readFlag, shape_bare c.value hproper.2]
      rfl
    refine ⟨told, .cons r waits told _ _ hmark (.cons waits told told _ _ hvalue (.nil told)), ?_⟩
    constructor
    · rfl
    · rfl
    · rfl
    · exact Read.give_choice cs operands c hnew hproper

theorem readFlag_operand (h : r.Holds cs operands) (t : String) (hbare : Bare (utf8 t)) :
    readFlag topic r (utf8 t) = .ok none := by
  simp only [readFlag, h.literal, shape_bare _ hbare, h.waiting]
  rfl

theorem readOperand_room (v : Verb) (h : r.Holds cs operands) (t : String)
    (hroom : operands.length < v.arity) :
    ∃ r', readOperand v r (utf8 t) = .ok r' ∧ r'.Holds cs (operands ++ [t]) := by
  refine ⟨{ Read.ofChoices cs operands with pending := some (.operand (utf8 t)) }, ?_, ?_⟩
  · rw [readOperand, if_pos (by rw [h.count]; exact hroom), h.settle]
    rfl
  · constructor
    · rfl
    · rfl
    · simp [Read.operandCount, Read.ofChoices]
    · simp only [Read.settle, Read.text_utf8]
      rfl

theorem readOperand_full (v : Verb) (h : r.Holds cs operands) (t : String)
    (hfull : operands.length = v.arity) :
    readOperand v r (utf8 t) = .error (.mistake (.unexpected t)) := by
  rw [readOperand, if_neg (by rw [h.count, hfull]; exact Nat.lt_irrefl _), ofUtf8_utf8]

structure Distinct (cs : List Choice) : Prop where
  nodup : (cs.map Choice.flag).Nodup
  proper : ∀ c ∈ cs, c.Proper

theorem Distinct.next {c : Choice} {more : List Choice} (h : Distinct (cs ++ c :: more)) :
    c.flag ∉ cs.map Choice.flag ∧ c.Proper ∧ Distinct (cs ++ [c] ++ more) := by
  have hmem : c ∈ cs ++ c :: more := List.mem_append_right _ List.mem_cons_self
  have hnodup := h.nodup
  rw [List.map_append, List.map_cons, List.nodup_middle, List.nodup_cons] at hnodup
  refine ⟨fun hc => hnodup.1 (List.mem_append_left _ hc), h.proper c hmem, ?_⟩
  rwa [List.append_assoc, List.singleton_append]

/-- Flags that stand together are read one after the other. -/
theorem passes_givings (gs : List Giving) (h : r.Holds cs operands)
    (hdistinct : Distinct (cs ++ gs.map (·.choice))) :
    ∃ r', Passes topic r (gs.flatMap Giving.arguments) r' ∧
      r'.Holds (cs ++ gs.map (·.choice)) operands := by
  induction gs generalizing r cs with
  | nil => exact ⟨r, .nil r, by rwa [List.map_nil, List.append_nil]⟩
  | cons g gs ih =>
    obtain ⟨hnew, hproper, hrest⟩ := hdistinct.next
    obtain ⟨between, hfirst, hbetween⟩ := passes_giving topic h g hnew hproper
    obtain ⟨r', hlater, hr'⟩ := ih hbetween hrest
    refine ⟨r', hfirst.append hlater, ?_⟩
    rwa [List.append_assoc, List.singleton_append] at hr'

def taken (v : Verb) (cs : List Choice) (operands : List String) : Except Stop Read :=
  match operands.drop v.arity with
  | [] => .ok (.ofChoices cs operands)
  | extra :: _ => .error (.mistake (.unexpected extra))

/-- What follows a command is read to its end, or to the first operand too many. -/
theorem readAfterVerb_words (v : Verb) (ws : List Word) (h : r.Holds cs operands)
    (hdistinct : Distinct (cs ++ ws.filterMap Word.choice?))
    (hbare : ∀ t ∈ ws.filterMap Word.text?, Bare (utf8 t)) (hroom : operands.length ≤ v.arity) :
    readAfterVerb v r (ws.flatMap Word.arguments) =
      taken v (cs ++ ws.filterMap Word.choice?) (operands ++ ws.filterMap Word.text?) := by
  -- what was met last is still pending, so the induction carries what it will come to
  induction ws generalizing r cs operands with
  | nil =>
    rw [List.flatMap_nil, readAfterVerb, h.settle, taken]
    simp [List.drop_eq_nil_iff.mpr hroom]
  | cons w ws ih =>
    cases w with
    | operand t =>
      have hflag := readFlag_operand (.verb v) h t (hbare t List.mem_cons_self)
      have hnext : readAfterVerb v r ((Word.operand t :: ws).flatMap Word.arguments) =
          (readOperand v r (utf8 t)).bind fun r' =>
            readAfterVerb v r' (ws.flatMap Word.arguments) := by
        rw [List.flatMap_cons, Word.arguments, List.singleton_append, readAfterVerb, hflag]
        rfl
      rw [hnext]
      rcases Nat.lt_or_eq_of_le hroom with hlt | hfull
      · obtain ⟨r', hread, hr'⟩ := readOperand_room v h t hlt
        have hrest := ih hr' hdistinct (fun s hs => hbare s (List.mem_cons_of_mem t hs))
          (by rw [List.length_append]; exact hlt)
        rw [List.append_assoc, List.singleton_append] at hrest
        rw [hread]
        exact hrest
      · have hdrop : (operands ++ (Word.operand t :: ws).filterMap Word.text?).drop v.arity =
            t :: ws.filterMap Word.text? := by
          rw [← hfull, List.drop_left]
          rfl
        rw [readOperand_full v h t hfull, taken, hdrop]
        rfl
    | given g =>
      obtain ⟨hnew, hproper, hlater⟩ := Distinct.next hdistinct
      obtain ⟨between, hfirst, hbetween⟩ := passes_giving (.verb v) h g hnew hproper
      have hrest := ih hbetween hlater hbare hroom
      rw [List.append_assoc, List.singleton_append] at hrest
      rw [List.flatMap_cons, Word.arguments, readAfterVerb_passes v hfirst, hrest]
      rfl

end

theorem operation?_isSome (v : Verb) (operands : List String) :
    (v.operation? operands).isSome = true ↔ operands.length = v.arity := by
  cases v <;>
    rcases operands with _ | ⟨a, _ | ⟨b, _ | ⟨c, _ | ⟨d, more⟩⟩⟩⟩ <;>
      simp [Verb.operation?, Verb.arity, Verb.operands]

theorem Distinct.sublist {cs fewer : List Choice} (h : Distinct cs) (hsub : fewer.Sublist cs) :
    Distinct fewer := by
  constructor
  · exact (hsub.map Choice.flag).nodup h.nodup
  · exact fun c hc => h.proper c (hsub.subset hc)

def reading (v : Verb) (operands : List String) (cs : List Choice) : Except Stop Invocation :=
  match operands.drop v.arity, v.operation? operands with
  | extra :: _, _ => .error (.mistake (.unexpected extra))
  | [], none => .error (.mistake .missingOperands)
  | [], some operation =>
    .ok ⟨operation, cs.findSome? Choice.url?, cs.findSome? Choice.path?⟩

theorem Line.arguments_read (l : Line) (hdistinct : Distinct l.choices)
    (hbare : ∀ t ∈ l.operands, Bare (utf8 t)) :
    Invocation.ofArguments l.arguments = reading l.verb l.operands l.choices := by
  obtain ⟨r, hbefore, hr⟩ := passes_givings .program l.before Read.holds_blank
    (hdistinct.sublist (List.sublist_append_right _ _))
  have hafter := readAfterVerb_words l.verb l.after Read.holds_blank
    (hdistinct.sublist (List.sublist_append_left _ _)) hbare (Nat.zero_le _)
  have hflag := readFlag_operand .program hr l.verb.name (bare_verb l.verb)
  have hverb : Invocation.ofArguments l.arguments =
      readVerb l.verb r (l.after.flatMap Word.arguments) := by
    rw [Invocation.ofArguments, arguments, readFrom_passes hbefore, readFrom, hflag]
    simp only [hr.literal, ofArgument?_verb]
    rfl
  -- a value after the command goes before one that stands in front of it
  rw [hverb, readVerb, hafter, hr.settle, reading, choices, List.findSome?_append,
    List.findSome?_append]
  change (taken l.verb (l.after.filterMap Word.choice?) l.operands).bind _ = _
  rw [taken]
  cases l.operands.drop l.verb.arity with
  | cons extra more => rfl
  | nil =>
    dsimp only [Except.bind, Read.ofChoices]
    cases l.verb.operation? l.operands with
    | none => rfl
    | some operation => rfl

def chosen (baseUrl : Option String) (config : Option Files.Path) : List Choice :=
  baseUrl.toList.map .baseUrl ++ config.toList.map .config

structure Line.Places (l : Line) (v : Verb) (operands : List String) (baseUrl : Option String)
    (config : Option Files.Path) : Prop where
  verb : l.verb = v
  operands : l.operands = operands
  choices : l.choices.Perm (chosen baseUrl config)

section
variable {cs : List Choice} {baseUrl : Option String} {config : Option Files.Path}
  (h : cs.Perm (chosen baseUrl config))
include h

theorem findSome?_chosen {α : Type} (f : Choice → Option α) (a? : Option α)
    (hf : (chosen baseUrl config).filterMap f = a?.toList) : cs.findSome? f = a? := by
  have hperm := h.filterMap f
  rw [hf] at hperm
  rw [← List.head?_filterMap]
  cases a? with
  | none => rw [List.perm_nil.mp hperm]; rfl
  | some a => rw [List.perm_singleton.mp hperm]; rfl

theorem url_chosen : cs.findSome? Choice.url? = baseUrl :=
  findSome?_chosen h _ _ (by cases baseUrl <;> cases config <;> rfl)

theorem path_chosen : cs.findSome? Choice.path? = config :=
  findSome?_chosen h _ _ (by cases baseUrl <;> cases config <;> rfl)

theorem distinct_chosen (hproper : ∀ c ∈ chosen baseUrl config, c.Proper) : Distinct cs := by
  constructor
  · have hnodup : ((chosen baseUrl config).map Choice.flag).Nodup := by
      cases baseUrl <;> cases config <;> simp [chosen, Choice.flag]
    exact (h.map Choice.flag).nodup_iff.mpr hnodup
  · exact fun c hc => hproper c (h.mem_iff.mp hc)

end

theorem Line.Places.reads {l : Line} {v : Verb} {operands : List String}
    {baseUrl : Option String} {config : Option Files.Path}
    (h : l.Places v operands baseUrl config) (hoperands : ∀ t ∈ operands, Bare (utf8 t))
    (hproper : ∀ c ∈ chosen baseUrl config, c.Proper) :
    Invocation.ofArguments l.arguments = reading v operands (chosen baseUrl config) := by
  obtain ⟨rfl, rfl, hchoices⟩ := h
  rw [l.arguments_read (distinct_chosen hchoices hproper) hoperands, reading, reading,
    url_chosen hchoices, path_chosen hchoices, url_chosen (.refl _), path_chosen (.refl _)]

/-- A command has an operation if it gets as many operands as it takes, and is a
mistake otherwise. -/
theorem reading_complete (v : Verb) (operands : List String) (cs : List Choice)
    (hcount : operands.length = v.arity) :
    ∃ operation, v.operation? operands = some operation ∧ reading v operands cs =
      .ok ⟨operation, cs.findSome? Choice.url?, cs.findSome? Choice.path?⟩ := by
  obtain ⟨operation, hoperation⟩ :=
    Option.isSome_iff_exists.mp ((operation?_isSome v operands).mpr hcount)
  exact ⟨operation, hoperation, by rw [reading, List.drop_of_length_le hcount.le, hoperation]⟩

theorem reading_missing (v : Verb) (operands : List String) (cs : List Choice)
    (hfew : operands.length < v.arity) :
    reading v operands cs = .error (.mistake .missingOperands) := by
  have hnone : v.operation? operands = none := by
    rw [← Option.not_isSome_iff_eq_none, operation?_isSome]
    exact hfew.ne
  rw [reading, List.drop_of_length_le hfew.le, hnone]

theorem reading_unexpected (v : Verb) (operands : List String) (cs : List Choice)
    (hmany : v.arity < operands.length) :
    reading v operands cs = .error (.mistake (.unexpected operands[v.arity])) := by
  rw [reading, List.drop_eq_getElem_cons hmany]

section
variable {σ : Type} [Files.FileSystem σ] [Settings.Capacity] [Transport.Reader]
variable (s : Surroundings) (files : σ) (env : Settings.Environment) (w : World)

theorem run_alike (arguments others : List Argument)
    (h : Invocation.ofArguments arguments = Invocation.ofArguments others) :
    run s files env arguments w = run s files env others w := by
  have hmake : Plan.make (Files.FileSystem.read files) env arguments =
      Plan.make (Files.FileSystem.read files) env others := by
    rw [Plan.make, Plan.make, h]
  rw [run, run, hmake]

theorem run_mistaken (arguments : List Argument) (m : Mistake)
    (h : Invocation.ofArguments arguments = .error (.mistake m)) :
    run s files env arguments w = (⟨⟨2, "", m.message ++ "\n"⟩, files⟩, w) := by
  refine run_refused s files env arguments w _ ?_
  rw [Plan.make, h]
  rfl

end

/-- Wherever the flags of a command stand and however they are written, the
command line is read as the command with its operands and the values of the
flags, and running it is the same. With an operand too few or too many it is a
mistake, and nothing is sent. -/
theorem flags_anywhere (v : Verb) (operands : List String) (baseUrl : Option String)
    (config : Option Files.Path) (hoperands : ∀ t ∈ operands, Bare (utf8 t))
    (hproper : ∀ c ∈ chosen baseUrl config, c.Proper) (l l' : Line)
    (h : l.Places v operands baseUrl config) (h' : l'.Places v operands baseUrl config) :
    (operands.length = v.arity → ∃ operation, v.operation? operands = some operation ∧
      Invocation.ofArguments l.arguments = .ok ⟨operation, baseUrl, config⟩) ∧
    (operands.length < v.arity →
      Invocation.ofArguments l.arguments = .error (.mistake .missingOperands)) ∧
    (∀ hmany : v.arity < operands.length, Invocation.ofArguments l.arguments =
      .error (.mistake (.unexpected operands[v.arity]))) ∧
    ∀ {σ : Type} [Files.FileSystem σ] [Settings.Capacity] [Transport.Reader] (s : Surroundings)
        (files : σ) (env : Settings.Environment) (w : World),
      run s files env l.arguments w = run s files env l'.arguments w ∧
      (operands.length ≠ v.arity → ∃ m : Mistake,
        run s files env l.arguments w = (⟨⟨2, "", m.message ++ "\n"⟩, files⟩, w)) := by
  have hreads := h.reads hoperands hproper
  refine ⟨?_, ?_, ?_, ?_⟩
  · intro hcount
    obtain ⟨operation, hoperation, hreading⟩ := reading_complete v operands _ hcount
    refine ⟨operation, hoperation, ?_⟩
    rw [hreads, hreading, url_chosen (.refl _), path_chosen (.refl _)]
  · intro hfew
    rw [hreads, reading_missing v operands _ hfew]
  · intro hmany
    rw [hreads, reading_unexpected v operands _ hmany]
  · intro σ _ _ _ s files env w
    constructor
    · exact run_alike s files env w _ _ (hreads.trans (h'.reads hoperands hproper).symm)
    · intro hcount
      rcases Nat.lt_or_gt_of_ne hcount with hfew | hmany
      · rw [reading_missing v operands _ hfew] at hreads
        exact ⟨_, run_mistaken s files env w _ _ hreads⟩
      · rw [reading_unexpected v operands _ hmany] at hreads
        exact ⟨_, run_mistaken s files env w _ _ hreads⟩

/-- A flag before the command and one between its operands, or both behind them. -/
theorem flags_anywhere_server :
    let config : Files.Path := .ofText "/etc/maps.toml"
    let scattered : Line := ⟨[⟨.config config, true⟩], .addServer,
      [.operand "A", .given ⟨.baseUrl "http://[::1]", false⟩, .operand "1.2.3.4"]⟩
    let behind : Line := ⟨[], .addServer, [.operand "A", .operand "1.2.3.4",
      .given ⟨.baseUrl "http://[::1]", true⟩, .given ⟨.config config, false⟩]⟩
    scattered.arguments = serverCommand ∧
      Invocation.ofArguments behind.arguments = .ok ⟨.submit (.server "A" "1.2.3.4"),
        some "http://[::1]", some config⟩ ∧
      run .still (hostFiles hostSettings {}) homeVariable serverCommand (.start []) =
        run .still (hostFiles hostSettings {}) homeVariable behind.arguments (.start []) := by
  intro config scattered behind
  have hscattered : scattered.arguments = serverCommand := by cbv
  have hplaces : scattered.Places .addServer ["A", "1.2.3.4"] (some "http://[::1]")
      (some config) := ⟨rfl, rfl, .refl _⟩
  have hbehind : behind.Places .addServer ["A", "1.2.3.4"] (some "http://[::1]")
      (some config) := ⟨rfl, rfl, .refl _⟩
  have hoperands : ∀ t ∈ ["A", "1.2.3.4"], Bare (utf8 t) := by decide
  have hproper : ∀ c ∈ chosen (some "http://[::1]") (some config), c.Proper := by decide
  obtain ⟨hread, -, -, hrun⟩ := flags_anywhere .addServer ["A", "1.2.3.4"] _ _ hoperands hproper
    behind scattered hbehind hplaces
  refine ⟨hscattered, ?_, ?_⟩
  · obtain ⟨operation, hoperation, hread⟩ := hread rfl
    obtain rfl := Option.some.inj hoperation
    exact hread
  · rw [← hscattered]
    exact ((hrun .still (hostFiles hostSettings {}) homeVariable (.start [])).1).symm

end MapClient.CommandLine
