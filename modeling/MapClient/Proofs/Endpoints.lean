import MapClient.Proofs.Authorities
import MapClient.Settings.Load
import MapClient.Submitter

/-!
# A base URL and what is joined to it

A base is read twice: alone, when it is checked, and without its last slashes
before a path, when it is used. Both readings take the same authority from it
and go on with the same text after that, except for blanks at the end of the
base: alone it is read without them.
-/

set_option autoImplicit false

namespace MapClient.Url

open MapClient.Text

def cleanEnd (cs : List Char) : List Char := (dropEnd isEdge cs).filter fun c => !isBreak c

def endsBlank (base : String) : Bool :=
  (base.toList.filter fun c => !isBreak c).getLast?.any isEdge

def bareAuthority (base : String) : Bool :=
  match scheme? (clean base) with
  | some (_, rest) => (rest.dropWhile isSlash).all fun c => !endsAuthority true c
  | none => false

def webUrl (scheme : List Char) (authority : Authority) (tail : List Char) : Url :=
  let (path, query, fragment) := splitTail tail
  withTail scheme (some authority) (pathAfterAuthority .web path) query fragment

theorem isEdge_iff (c : Char) : isEdge c = true ↔ IsBlank c := by
  simp [isEdge, IsBlank]

theorem isBreak_edge (c : Char) (h : isBreak c = true) : isEdge c = true := by
  simp only [isBreak, Bool.or_eq_true, beq_iff_eq] at h
  rcases h with (rfl | rfl) | rfl <;> decide

theorem scheme?_some (cs scheme rest : List Char) (h : scheme? cs = some (scheme, rest)) :
    ∃ name, cs = name ++ ':' :: rest ∧ ':' ∉ name ∧
      ∀ more, scheme? (name ++ ':' :: more) = some (scheme, more) := by
  unfold scheme? at h
  split at h
  · rename_i name rest' hcut
    split at h
    · rename_i hname
      obtain ⟨rfl, rfl⟩ := Prod.mk.inj (Option.some.inj h)
      obtain ⟨s, hs, hsep, hfront⟩ := cut_some hcut
      obtain rfl : s = ':' := by simpa using hsep
      refine ⟨name, hs, fun hmem => by simpa using hfront ':' hmem, fun more => ?_⟩
      simp only [scheme?, cut_front more hfront hsep, hname, if_true]
    · cases h
  · cases h

theorem readAfterScheme_scheme (scheme rest : List Char) (u : Url)
    (h : readAfterScheme scheme rest = .ok u) : u.scheme = scheme := by
  have hslashes : ∀ cs, readAfterSlashes scheme cs = .ok u → u.scheme = scheme := by
    intro cs h
    rw [readAfterSlashes, stages_ok] at h
    obtain ⟨read, -, h⟩ := h
    obtain rfl := Except.ok.inj h
    rfl
  rw [readAfterScheme] at h
  split at h
  · exact hslashes _ h
  · rw [readFile, stages_ok] at h
    obtain ⟨host, -, h⟩ := h
    obtain rfl := Except.ok.inj h
    rfl
  · rw [readOther] at h
    split at h
    · exact hslashes _ h
    · obtain rfl := Except.ok.inj h
      rfl

theorem isHttp_web (u : Url) (h : u.isHttp = true) : SchemeKind.of u.scheme = .web := by
  simp only [isHttp, Bool.or_eq_true, beq_iff_eq] at h
  rcases h with h | h <;> rw [h] <;> decide

section
variable (scheme text tail : List Char) (hkind : SchemeKind.of scheme = .web)
  (htext : ∀ c ∈ text, endsAuthority true c = false)
  (htail : ∀ c, tail.head? = some c → endsAuthority true c = true)
include hkind htext htail

theorem readAfterSlashes_web :
    readAfterSlashes scheme (text ++ tail) =
      (readAuthority scheme text !tail.isEmpty).map fun read => webUrl scheme read.1 tail := by
  have hspan : (text ++ tail).span (fun c => !endsAuthority true c) = (text, tail) := by
    have hplain : ∀ c ∈ text, (!endsAuthority true c) = true := fun c hc => by simp [htext c hc]
    cases tail with
    | nil => rw [List.append_nil, span_all hplain]
    | cons c tail => exact span_front tail hplain (by simp [htail c rfl])
  have hslash : '\\' ∉ text := fun hmem => absurd (htext _ hmem) (by decide)
  have hspecial : (SchemeKind.of scheme).isSpecial = true := by rw [hkind]; rfl
  simp only [readAfterSlashes, hspecial, hspan]
  cases hread : readAuthority scheme text !tail.isEmpty with
  | error fault => rfl
  | ok read =>
    obtain ⟨authority, left⟩ := read
    obtain rfl := readAuthority_left scheme text _ authority left hslash hread
    rw [hkind]
    rfl

end

structure Trimmed (base : String) where
  stem : List Char
  spare : List Char
  slashes : Nat
  clean_alone : clean base = stem ++ List.replicate slashes '/'
  clean_joined : ∀ path, clean (Submitter.trimSlashes base ++ .ofList ('/' :: path)) =
    stem ++ spare ++ '/' :: cleanEnd path
  blanks : ∀ c ∈ spare, IsBlank c
  bare : spare ≠ [] → slashes = 0
  spare_iff : spare ≠ [] ↔ endsBlank base = true

theorem mem_clean (base : String) (c : Char) (h : c ∈ clean base) : c ∈ base.toList := by
  have hstrip := (List.mem_filter.mp h).1
  have hdrop := List.mem_reverse.mp ((List.dropWhile_sublist isEdge).subset
    (List.mem_reverse.mp hstrip))
  exact (List.dropWhile_sublist isEdge).subset hdrop

theorem filter_slashes (n : Nat) :
    (List.replicate n '/').filter (fun c => !isBreak c) = List.replicate n '/' :=
  List.filter_replicate_of_pos (by decide)

theorem clean_from (lead more : List Char) (c : Char) (hlead : ∀ b ∈ lead, isEdge b = true)
    (hc : isEdge c = false) :
    clean (.ofList (lead ++ c :: more)) = cleanEnd (c :: more) := by
  rw [clean, String.toList_ofList, strip, dropWhile_front more hlead hc, cleanEnd]

theorem counts_of_not_edge (c : Char) (hc : isEdge c = false) : (!isBreak c) = true := by
  cases h : isBreak c with
  | false => rfl
  | true =>
    rw [isBreak_edge c h] at hc
    cases hc

theorem cleanEnd_stop (front more : List Char) (c : Char) (hc : isEdge c = false) :
    cleanEnd (front ++ c :: more) = front.filter (fun c => !isBreak c) ++ c :: cleanEnd more := by
  rw [cleanEnd, dropEnd_stop front more hc, List.filter_append, List.filter_cons,
    if_pos (counts_of_not_edge c hc), cleanEnd]

theorem cleanEnd_cons (more : List Char) (c : Char) (hc : isEdge c = false) :
    cleanEnd (c :: more) = c :: cleanEnd more := cleanEnd_stop [] more c hc

theorem cleanEnd_last (cs : List Char) (c : Char) (h : (cleanEnd cs).getLast? = some c) :
    isEdge c = false := by
  cases hlast : (dropEnd isEdge cs).getLast? with
  | none =>
    rw [cleanEnd, List.getLast?_eq_none_iff.mp hlast] at h
    cases h
  | some d =>
    have hd := dropEnd_last hlast
    obtain ⟨front, hfront⟩ := List.getLast?_eq_some_iff.mp hlast
    rw [cleanEnd, hfront, List.filter_append, List.filter_cons,
      if_pos (counts_of_not_edge d hd), List.filter_nil, List.getLast?_concat] at h
    rwa [← Option.some.inj h]

theorem cleanEnd_spare (cs : List Char) :
    ∃ spare, cs.filter (fun c => !isBreak c) = cleanEnd cs ++ spare ∧
      (∀ c ∈ spare, isEdge c = true) ∧
      (spare ≠ [] ↔ (cs.filter fun c => !isBreak c).getLast?.any isEdge = true) := by
  obtain ⟨blanks, hsplit, hblanks⟩ := dropEnd_split isEdge cs
  have hkept : cs.filter (fun c => !isBreak c) =
      cleanEnd cs ++ blanks.filter fun c => !isBreak c := by
    rw [cleanEnd, ← List.filter_append, ← hsplit]
  have hspare : ∀ c ∈ blanks.filter fun c => !isBreak c, isEdge c = true := fun c hc =>
    hblanks c (List.mem_filter.mp hc).1
  refine ⟨_, hkept, hspare, ?_⟩
  rw [hkept]
  constructor
  · intro hblank
    rw [List.getLast?_append_of_ne_nil _ hblank, List.getLast?_eq_some_getLast hblank]
    exact hspare _ (List.getLast_mem hblank)
  · intro hlast hnone
    rw [hnone, List.append_nil, Option.any_eq_true] at hlast
    obtain ⟨c, hc, hedge⟩ := hlast
    rw [cleanEnd_last cs c hc] at hedge
    cases hedge

theorem trimSlashes_split (base : String) (hcolon : ':' ∈ clean base) :
    ∃ lead c more n, base.toList = lead ++ c :: (more ++ List.replicate n '/') ∧
      Submitter.trimSlashes base = .ofList (lead ++ c :: more) ∧
      (∀ b ∈ lead, isEdge b = true) ∧ isEdge c = false := by
  obtain ⟨back, hsplit, hback⟩ := dropEnd_split (· = '/') base.toList
  obtain ⟨n, rfl⟩ : ∃ n, back = List.replicate n '/' :=
    ⟨_, List.eq_replicate_of_mem fun c hc => by simpa using hback c hc⟩
  have hwhole : ':' ∈ dropEnd (· = '/') base.toList := by
    have hmem := mem_clean base ':' hcolon
    rw [hsplit, List.mem_append] at hmem
    exact hmem.resolve_right fun h => absurd (List.eq_of_mem_replicate h) (by decide)
  rcases front_cases isEdge (dropEnd (· = '/') base.toList) with
    hall | ⟨lead, c, more, hparts, hlead, hc⟩
  · exact absurd (hall ':' hwhole) (by decide)
  · refine ⟨lead, c, more, n, ?_, by rw [← hparts]; rfl, hlead, hc⟩
    rw [hsplit, hparts, List.append_assoc, List.cons_append]

/-- A base with a colon can be trimmed. -/
theorem trimmed (base : String) (hcolon : ':' ∈ clean base) : Nonempty (Trimmed base) := by
  obtain ⟨lead, c, more, n, hsplit, htrim, hlead, hc⟩ := trimSlashes_split base hcolon
  have hjoined : ∀ path, clean (Submitter.trimSlashes base ++ .ofList ('/' :: path)) =
      (c :: more).filter (fun c => !isBreak c) ++ '/' :: cleanEnd path := by
    intro path
    rw [htrim, ← String.ofList_append, List.append_assoc, List.cons_append,
      clean_from lead _ c hlead hc, ← List.cons_append]
    exact cleanEnd_stop _ path '/' (by decide)
  have halone : clean base = cleanEnd (c :: more ++ List.replicate n '/') := by
    rw [← String.ofList_toList (s := base), hsplit, clean_from lead _ c hlead hc,
      List.cons_append]
  -- a slash at the end keeps the blanks before it; without one they are spare
  cases n with
  | succ k =>
    have hlast : List.replicate (k + 1) '/' = List.replicate k '/' ++ ['/'] :=
      List.replicate_succ'
    refine ⟨⟨(c :: more).filter fun c => !isBreak c, [], k + 1, ?_, fun path => ?_, by simp,
      by simp, ?_⟩⟩
    · rw [halone, hlast, ← List.append_assoc, cleanEnd_stop _ [] '/' (by decide),
        List.filter_append, filter_slashes, List.append_assoc]
      rfl
    · rw [hjoined, List.append_nil]
    · have hslash : ['/'].filter (fun c => !isBreak c) = ['/'] := filter_slashes 1
      rw [endsBlank, hsplit, hlast, ← List.append_assoc, ← List.cons_append, ← List.append_assoc,
        List.filter_append, hslash, List.getLast?_concat]
      decide
  | zero =>
    have hsome : cleanEnd (c :: more) ≠ [] := by simp [cleanEnd_cons more c hc]
    obtain ⟨spare, hkept, hspare, hblank⟩ := cleanEnd_spare (c :: more)
    have hcounts : (c :: more).filter (fun c => !isBreak c) ≠ [] := by simp [hkept, hsome]
    refine ⟨⟨cleanEnd (c :: more), spare, 0, ?_, fun path => ?_,
      fun b hb => (isEdge_iff b).mp (hspare b hb), fun _ => rfl, ?_⟩⟩
    · rw [halone, List.replicate_zero, List.append_nil, List.append_nil]
    · rw [hjoined, hkept]
    · rw [endsBlank, hsplit, List.replicate_zero, List.append_nil, List.filter_append,
        List.getLast?_append_of_ne_nil _ hcounts]
      exact hblank

structure Joint (base : String) extends Trimmed base where
  scheme : List Char
  text : List Char
  authority : Authority
  tail : List Char
  http : scheme = "http".toList ∨ scheme = "https".toList
  read : readAuthority scheme text true = .ok (authority, [])
  begins : ∀ c, tail.head? = some c → endsAuthority true c = true
  parsed : parse base = .ok (webUrl scheme authority (tail ++ List.replicate slashes '/'))
  bare_iff : bareAuthority base = true ↔ tail = [] ∧ slashes = 0
  before : (tail = [] → spare = []) → ∀ path,
    parse (Submitter.trimSlashes base ++ .ofList ('/' :: path)) =
      .ok (webUrl scheme authority (tail ++ spare ++ '/' :: cleanEnd path))
  apart : tail = [] → spare ≠ [] → ∀ path,
    ∃ fault, parse (Submitter.trimSlashes base ++ .ofList ('/' :: path)) = .error fault

theorem authority_split (cs : List Char) :
    ∃ text tail, cs = text ++ tail ∧ (∀ c ∈ text, endsAuthority true c = false) ∧
      ∀ c, tail.head? = some c → endsAuthority true c = true := by
  rcases front_cases (fun c => !endsAuthority true c) cs with h | ⟨text, c, tail, rfl, htext, hc⟩
  · exact ⟨cs, [], (List.append_nil cs).symm, fun c hc => by simpa using h c hc, by simp⟩
  · exact ⟨text, c :: tail, rfl, fun b hb => by simpa using htext b hb, fun b hb => by
      rw [← Option.some.inj hb]
      simpa using hc⟩

theorem readAfterSlashes_nil (scheme : List Char) (hkind : SchemeKind.of scheme = .web) (u : Url) :
    readAfterSlashes scheme [] ≠ .ok u := by
  intro h
  have hread := readAfterSlashes_web scheme [] [] hkind (by simp) (by simp)
  rw [List.nil_append, h, eq_comm, map_ok] at hread
  obtain ⟨⟨authority, left⟩, hauthority, -⟩ := hread
  have hhost := ((readAuthority_iff _ _ _ _ _).mp hauthority).2.1
  rw [hkind] at hhost
  cases hhost

theorem blank_not_end (c : Char) (h : IsBlank c) : endsAuthority true c = false := by
  have hne := fun d hd => ne_blank c d h hd
  simp [endsAuthority, hne '/' (by decide), hne '?' (by decide), hne '#' (by decide),
    hne '\\' (by decide)]

theorem stem_scheme (stem name rest : List Char) (n : Nat)
    (h : stem ++ List.replicate n '/' = name ++ ':' :: rest) :
    ∃ more, stem = name ++ ':' :: more ∧ rest = more ++ List.replicate n '/' := by
  have hcolon : ':' ∉ List.replicate n '/' := fun hmem =>
    absurd (List.eq_of_mem_replicate hmem) (by decide)
  rcases List.append_eq_append_iff.mp h with ⟨front, -, hslashes⟩ | ⟨back, hstem, hrest⟩
  · exact absurd (hslashes ▸ by simp) hcolon
  · cases back with
    | nil =>
      rw [List.nil_append] at hrest
      exact absurd (hrest ▸ List.mem_cons_self) hcolon
    | cons c back =>
      obtain ⟨rfl, rfl⟩ := List.cons.inj hrest
      exact ⟨back, hstem, rfl⟩

/-- A web URL is read from what follows the slashes after its scheme. -/
theorem parse_web (s : String) (scheme name more : List Char)
    (hkind : SchemeKind.of scheme = .web) (hclean : clean s = name ++ ':' :: more)
    (hscheme : scheme? (name ++ ':' :: more) = some (scheme, more)) :
    parse s = readAfterSlashes scheme (more.dropWhile isSlash) := by
  simp only [parse, hclean, hscheme, readAfterScheme, hkind]

theorem slashes_begin (n : Nat) (c : Char) (h : (List.replicate n '/').head? = some c) :
    endsAuthority true c = true := by
  rw [List.eq_of_mem_replicate (List.mem_of_head? h)]
  rfl

theorem append_begins (tail cs : List Char)
    (htail : ∀ c, tail.head? = some c → endsAuthority true c = true)
    (hcs : tail = [] → ∀ c, cs.head? = some c → endsAuthority true c = true) (c : Char)
    (h : (tail ++ cs).head? = some c) : endsAuthority true c = true := by
  cases tail with
  | nil => exact hcs rfl c h
  | cons d tail => exact htail c h

section
variable (scheme text tail spare cs : List Char) (authority : Authority)
  (hkind : SchemeKind.of scheme = .web) (htext : ∀ c ∈ text, endsAuthority true c = false)
include hkind htext

theorem readAfterSlashes_before (htail : ∀ c, tail.head? = some c → endsAuthority true c = true)
    (hread : readAuthority scheme text true = .ok (authority, []))
    (hspare : tail = [] → spare = []) :
    readAfterSlashes scheme (text ++ (tail ++ (spare ++ '/' :: cs))) =
      .ok (webUrl scheme authority (tail ++ spare ++ '/' :: cs)) := by
  have hbegins := append_begins tail (spare ++ '/' :: cs) htail fun hnone d hd => by
    rw [hspare hnone] at hd
    rw [← Option.some.inj hd]
    rfl
  have hsome : (!(tail ++ (spare ++ '/' :: cs)).isEmpty) = true := by simp
  rw [readAfterSlashes_web scheme text _ hkind htext hbegins, hsome, hread, List.append_assoc]
  rfl

/-- Blanks between an authority and a path belong to the authority, and make it
none. -/
theorem readAfterSlashes_apart (hblanks : ∀ c ∈ spare, IsBlank c) (hsome : spare ≠ []) :
    ∃ fault, readAfterSlashes scheme (text ++ (spare ++ '/' :: cs)) = .error fault := by
  have hboth : ∀ c ∈ text ++ spare, endsAuthority true c = false := fun c hc =>
    (List.mem_append.mp hc).elim (htext c) fun hc => blank_not_end c (hblanks c hc)
  have hslash : ∀ c, ('/' :: cs).head? = some c → endsAuthority true c = true := by
    rintro c hc
    rw [← Option.some.inj hc]
    rfl
  obtain ⟨fault, hfault⟩ := readAuthority_blank scheme text true hkind spare hblanks hsome
    fun hmem => absurd (htext _ hmem) (by decide)
  refine ⟨fault, ?_⟩
  rw [← List.append_assoc, readAfterSlashes_web scheme (text ++ spare) _ hkind hboth hslash,
    show (!('/' :: cs).isEmpty) = true from rfl, hfault]
  rfl

end

theorem bareAuthority_iff (base : String) (scheme rest text tail : List Char) (n : Nat)
    (hscheme : scheme? (clean base) = some (scheme, rest))
    (hrest : rest.dropWhile isSlash = text ++ (tail ++ List.replicate n '/'))
    (htext : ∀ c ∈ text, endsAuthority true c = false)
    (htail : ∀ c, tail.head? = some c → endsAuthority true c = true) :
    bareAuthority base = true ↔ tail = [] ∧ n = 0 := by
  simp only [bareAuthority, hscheme, hrest, List.all_append, Bool.and_eq_true]
  constructor
  · rintro ⟨-, hplain, hslashes⟩
    constructor
    · cases tail with
      | nil => rfl
      | cons c tail => simp [htail c rfl] at hplain
    · cases n with
      | zero => rfl
      | succ n => simp [List.replicate_succ, endsAuthority] at hslashes
  · rintro ⟨rfl, rfl⟩
    simpa using htext

/-- A base URL is one of the web, and is read as such. -/
theorem isBaseUrl_read (base : String) (h : Settings.isBaseUrl base = true) :
    ∃ u rest, parse base = .ok u ∧ u.isHttp = true ∧
      scheme? (clean base) = some (u.scheme, rest) ∧
      readAfterSlashes u.scheme (rest.dropWhile isSlash) = .ok u := by
  unfold Settings.isBaseUrl at h
  split at h
  · rename_i u hparse
    have hhttp := (Bool.and_eq_true _ _ ▸ h).1
    have hread := hparse
    unfold parse at hread
    split at hread
    · cases hread
    · rename_i scheme rest hscheme
      obtain rfl := readAfterScheme_scheme scheme rest u hread
      rw [readAfterScheme, isHttp_web u hhttp] at hread
      exact ⟨u, rest, hparse, hhttp, hscheme, hread⟩
  · cases h

/-- Every base URL can be read alone and before a path. -/
theorem joint (base : String) (h : Settings.isBaseUrl base = true) : Nonempty (Joint base) := by
  obtain ⟨u, rest, hparse, hhttp, hscheme, hread⟩ := isBaseUrl_read base h
  have hkind := isHttp_web u hhttp
  obtain ⟨name, hclean, -, hany⟩ := scheme?_some _ _ _ hscheme
  obtain ⟨t⟩ := trimmed base (by simp [hclean])
  obtain ⟨more, hstem, rfl⟩ := stem_scheme t.stem name rest t.slashes (t.clean_alone ▸ hclean)
  -- without anything but slashes there is no authority
  rcases front_cases isSlash more with hall | ⟨slashes, c, after, rfl, hslashes, hc⟩
  · rw [List.dropWhile_eq_nil_iff.mpr (by
      intro c hc
      rcases List.mem_append.mp hc with hc | hc
      · exact hall c hc
      · rw [List.eq_of_mem_replicate hc]
        rfl)] at hread
    exact absurd hread (readAfterSlashes_nil u.scheme hkind u)
  obtain ⟨text, tail, hafter, htext, htail⟩ := authority_split (c :: after)
  have hdrop : ∀ cs, (slashes ++ c :: after ++ cs).dropWhile isSlash = text ++ (tail ++ cs) := by
    intro cs
    rw [List.append_assoc, List.cons_append, dropWhile_front _ hslashes hc, ← List.cons_append,
      hafter, List.append_assoc]
  rw [hdrop, readAfterSlashes_web u.scheme text _ hkind htext
    (append_begins tail _ htail fun _ => slashes_begin t.slashes), map_ok] at hread
  obtain ⟨⟨authority, left⟩, hauthority, hu⟩ := hread
  obtain rfl := readAuthority_left u.scheme text _ authority left
    (fun hmem => absurd (htext _ hmem) (by decide)) hauthority
  have hfollows := readAuthority_follows u.scheme text _ authority [] hkind hauthority
  have hjoined : ∀ path, parse (Submitter.trimSlashes base ++ .ofList ('/' :: path)) =
      readAfterSlashes u.scheme (text ++ (tail ++ (t.spare ++ '/' :: cleanEnd path))) := by
    intro path
    have hpath := t.clean_joined path
    rw [hstem, List.append_assoc, List.append_assoc, List.cons_append] at hpath
    rw [parse_web _ u.scheme name _ hkind hpath (hany _), hdrop]
  refine ⟨{ t with
    scheme := u.scheme, text := text, authority := authority, tail := tail
    http := by simpa [isHttp] using hhttp
    read := hfollows
    begins := htail
    parsed := hparse.trans (congrArg _ hu.symm)
    bare_iff := bareAuthority_iff base u.scheme _ text tail t.slashes hscheme (hdrop _) htext htail
    before := fun hspare path => ?_
    apart := fun hnone hspare path => ?_ }⟩
  · rw [hjoined]
    exact readAfterSlashes_before u.scheme text tail t.spare _ authority hkind htext htail
      hfollows hspare
  · rw [hjoined, hnone, List.nil_append]
    exact readAfterSlashes_apart u.scheme text t.spare _ hkind htext t.blanks hspare

end MapClient.Url
