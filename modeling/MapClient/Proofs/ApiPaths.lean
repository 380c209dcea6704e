import MapClient.Proofs.Origin

/-!
# Which path is requested

What is joined to a base stays whole at the end of the path, behind the segments
that the base has before it. A query or a fragment of the base takes it up
instead, as it stands behind them.
-/

set_option autoImplicit false

namespace MapClient.Url

open MapClient.Text

def NoMarks (cs : List Char) : Prop := ∀ c ∈ cs, c ≠ '#' ∧ c ≠ '?'

theorem cut_none_iff {sep : Char → Bool} (cs : List Char) :
    (cut sep cs).2 = none ↔ ∀ c ∈ cs, sep c = false := by
  constructor
  · intro h
    rcases front_cases (fun c => !sep c) cs with hall | ⟨front, c, rest, rfl, hfront, hc⟩
    · exact fun c hc => by simpa using hall c hc
    · rw [cut_front rest (fun b hb => by simpa using hfront b hb) (by simpa using hc)] at h
      cases h
  · intro h
    rw [cut_none h]

theorem splitTail_plain (cs : List Char) (h : NoMarks cs) : splitTail cs = (cs, none, none) := by
  have hhash : ∀ c ∈ cs, decide (c = '#') = false := fun c hc => by simpa using (h c hc).1
  have hmark : ∀ c ∈ cs, decide (c = '?') = false := fun c hc => by simpa using (h c hc).2
  simp only [splitTail, cut_none hhash, cut_none hmark]

theorem webUrl_plain (scheme : List Char) (authority : Authority) (tail : List Char) :
    (webUrl scheme authority tail).query = none ∧ (webUrl scheme authority tail).fragment = none ↔
      NoMarks tail := by
  constructor
  · rintro ⟨hquery, hfragment⟩
    have hfront : (cut (· = '#') tail).2 = none := Option.map_eq_none_iff.mp hfragment
    have hhash := (cut_none_iff tail).mp hfront
    have hback : (cut (· = '?') (cut (· = '#') tail).1).2 = none :=
      Option.map_eq_none_iff.mp hquery
    rw [cut_none hhash] at hback
    have hmark := (cut_none_iff tail).mp hback
    exact fun c hc => ⟨by simpa using hhash c hc, by simpa using hmark c hc⟩
  · intro h
    rw [webUrl, splitTail_plain tail h]
    exact ⟨rfl, rfl⟩

theorem webUrl_path (scheme : List Char) (authority : Authority) (tail : List Char)
    (h : NoMarks tail) : (webUrl scheme authority tail).path = pathAfterAuthority .web tail := by
  rw [webUrl, splitTail_plain tail h]
  rfl

theorem splitTail_marked (cs more : List Char) (h : ¬NoMarks cs) :
    (splitTail (cs ++ more)).1 = (splitTail cs).1 := by
  rcases front_cases (fun c => !decide (c = '#')) cs with hall | ⟨front, c, rest, rfl, hfront, hc⟩
  · have hhash : ∀ c ∈ cs, decide (c = '#') = false := fun c hc => by simpa using hall c hc
    rcases front_cases (fun c => !decide (c = '?')) cs with
      hplain | ⟨front, c, rest, rfl, hfront, hc⟩
    · exact absurd (fun c hc => ⟨by simpa using hall c hc, by simpa using hplain c hc⟩) h
    · have hmark : ∀ b ∈ front, decide (b = '?') = false := fun b hb => by
        simpa using hfront b hb
      have hc : decide (c = '?') = true := by simpa using hc
      simp only [splitTail, cut_none hhash, cut_more more hhash]
      rw [List.append_assoc, List.cons_append, cut_front _ hmark hc, cut_front _ hmark hc]
  · have hhash : ∀ b ∈ front, decide (b = '#') = false := fun b hb => by simpa using hfront b hb
    have hc : decide (c = '#') = true := by simpa using hc
    simp only [splitTail, List.append_assoc, List.cons_append, cut_front _ hhash hc]

def inner (path : List (List Char)) (segments : List (List Char)) : List (List Char) :=
  segments.foldl (fun path segment => addSegment path false segment) path

theorem addSegments_append (path segments more : List (List Char)) (h : more ≠ []) :
    addSegments path (segments ++ more) = addSegments (inner path segments) more := by
  induction segments generalizing path with
  | nil => rfl
  | cons s segments ih =>
    rw [List.cons_append, addSegments]
    · exact ih (addSegment path false s)
    · simp [h]

def encodedPieces (cs : List Char) : List (List Char) :=
  (pieces (endsSegment true) cs).map (encode inPath)

def directory : List Char → List (List Char)
  | [] => []
  | _ :: cs => (inner [] (encodedPieces cs)).reverse

theorem path_slash (c : Char) (cs : List Char) (hc : endsSegment true c = true) :
    pathAfterAuthority .web (c :: cs) = .rooted (addSegments [] (encodedPieces cs)).reverse := by
  rw [pathAfterAuthority, show SchemeKind.web.isSpecial = true from rfl, if_pos hc]
  rfl

theorem encodedPieces_append (cs more : List Char) :
    encodedPieces (cs ++ '/' :: more) = encodedPieces cs ++ encodedPieces more := by
  rw [encodedPieces, pieces_append _ cs more '/' rfl, List.map_append]
  rfl

theorem encodedPieces_ne_nil (cs : List Char) : encodedPieces cs ≠ [] := by
  obtain ⟨p, ps, h⟩ := pieces_cases (endsSegment true) cs
  simp [encodedPieces, h]

/-- A path is read up to a slash and then on from the segments before it. -/
theorem path_joined (lead more : List Char)
    (hlead : ∀ c, lead.head? = some c → endsSegment true c = true) :
    pathAfterAuthority .web (lead ++ '/' :: more) =
      .rooted (addSegments (directory lead).reverse (encodedPieces more)).reverse := by
  cases lead with
  | nil => rfl
  | cons c cs =>
    rw [List.cons_append, path_slash c _ (hlead c rfl), encodedPieces_append,
      addSegments_append _ _ _ (encodedPieces_ne_nil more), directory, List.reverse_reverse]

theorem addSegment_plain (path : List (List Char)) (isLast : Bool) (segment : List Char)
    (h : dots? segment ≠ some 1 ∧ dots? segment ≠ some 2) :
    addSegment path isLast segment = segment :: path := by
  unfold addSegment
  split
  · exact absurd ‹_› h.1
  · exact absurd ‹_› h.2
  · rfl

theorem addSegments_slashes (path : List (List Char)) (n : Nat) :
    addSegments path (List.replicate (n + 1) []) = List.replicate (n + 1) [] ++ path := by
  induction n generalizing path with
  | zero => rfl
  | succ n ih =>
    rw [List.replicate_succ, addSegments]
    · show addSegments ([] :: path) _ = _
      rw [ih, List.append_cons, ← List.replicate_succ', ← List.replicate_succ]
    · simp

theorem addSegment_last (path : List (List Char)) (segment : List Char) :
    addSegment path true segment = addSegment path false segment ∨
      addSegment path true segment = [] :: addSegment path false segment := by
  unfold addSegment
  split <;> simp

theorem inner_append (path segments : List (List Char)) (segment : List Char) :
    inner path (segments ++ [segment]) = addSegment (inner path segments) false segment :=
  List.foldl_concat ..

theorem encodedPieces_slashes (n : Nat) :
    encodedPieces (List.replicate n '/') = List.replicate (n + 1) [] := by
  induction n with
  | zero => rfl
  | succ n ih =>
    rw [List.replicate_succ, ← List.nil_append (_ :: _), encodedPieces_append, ih]
    rfl

/-- The path of a collection has two segments, and neither stands for another. -/
theorem collection_pieces (c : Collection) :
    ∃ a b, encodedPieces c.path.toList.tail = [a, b] ∧
      (dots? a ≠ some 1 ∧ dots? a ≠ some 2) ∧ (dots? b ≠ some 1 ∧ dots? b ≠ some 2) ∧
      c.path.toList = '/' :: a ++ '/' :: b := by
  cases c with
  | servers => exact ⟨"api".toList, "servers".toList, by decide, by decide, by decide, rfl⟩
  | dimensions => exact ⟨"api".toList, "dims".toList, by decide, by decide, by decide, rfl⟩

theorem render_append (segments more : List (List Char)) :
    (Path.rooted (segments ++ more)).render =
      (Path.rooted segments).render ++ (Path.rooted more).render := List.flatMap_append

theorem render_slashes (n : Nat) :
    (Path.rooted (List.replicate n [])).render = List.replicate n '/' := by
  induction n with
  | zero => rfl
  | succ n ih => rw [List.replicate_succ, ← List.singleton_append, render_append, ih]; rfl

def directoryText (lead : List Char) : List Char := (Path.rooted (directory lead)).render

section
variable (lead : List Char) (hlead : ∀ c, lead.head? = some c → endsSegment true c = true)
include hlead

theorem path_before (c : Collection) :
    (pathAfterAuthority .web (lead ++ c.path.toList)).render =
      directoryText lead ++ c.path.toList := by
  obtain ⟨a, b, hpieces, ha, hb, hpath⟩ := collection_pieces c
  have hslash : c.path.toList = '/' :: c.path.toList.tail := by cases c <;> rfl
  rw [hslash, path_joined lead _ hlead, hpieces, ← hslash, hpath]
  simp only [addSegments, addSegment_plain _ _ a ha, addSegment_plain _ _ b hb,
    List.reverse_cons, List.reverse_reverse, List.append_assoc, render_append]
  simp [directoryText, Path.render]

theorem path_slashed :
    (pathAfterAuthority .web (lead ++ ['/'])).render = directoryText lead ++ ['/'] := by
  rw [path_joined lead [] hlead]
  show (Path.rooted ([] :: (directory lead).reverse).reverse).render = _
  rw [List.reverse_cons, List.reverse_reverse, render_append]
  rfl

/-- A base by itself has slashes behind its directory, or none. -/
theorem path_alone (n : Nat) :
    ∃ k, (pathAfterAuthority .web (lead ++ List.replicate n '/')).render =
      directoryText lead ++ List.replicate k '/' := by
  cases n with
  | succ n =>
    refine ⟨n + 1, ?_⟩
    rw [List.replicate_succ, path_joined lead _ hlead, encodedPieces_slashes,
      addSegments_slashes, List.reverse_append, List.reverse_reverse, List.reverse_replicate,
      render_append, render_slashes, List.replicate_succ]
    rfl
  | zero =>
    -- the last segment is read as the last, and may leave a slash for itself
    cases lead with
    | nil => exact ⟨1, rfl⟩
    | cons c cs =>
      rw [List.replicate_zero, List.append_nil, path_slash c cs (hlead c rfl)]
      obtain ⟨ps, p, hps⟩ : ∃ ps p, encodedPieces cs = ps ++ [p] :=
        ⟨_, _, (List.dropLast_append_getLast (encodedPieces_ne_nil cs)).symm⟩
      rw [hps, addSegments_append [] ps [p] (by simp), addSegments, directoryText, directory, hps,
        inner_append]
      rcases addSegment_last (inner [] ps) p with h | h
      · exact ⟨0, by rw [h, List.replicate_zero, List.append_nil]⟩
      · exact ⟨1, by rw [h, List.reverse_cons, render_append]; rfl⟩

end

theorem blank_encoded (c : Char) (h : IsBlank c) :
    ∃ d ∈ encodeChar inPath c, d = '0' ∨ d = '1' := by
  have hall : ∀ c : Char, c.toNat < 0x21 → inPath c = true ∧
      (percentByte (UInt8.ofNat c.toNat)).any (fun d => d == '0' || d == '1') = true :=
    char_below _ (by decide)
  obtain ⟨hin, hany⟩ := hall c (Nat.lt_succ_of_le h)
  obtain ⟨d, hd, hdigit⟩ := List.any_eq_true.mp hany
  refine ⟨d, ?_, by simpa using hdigit⟩
  rw [encodeChar, if_pos hin, percentChar, encodeChar_blank c h, List.flatMap_singleton]
  exact hd

theorem dots?_chars (cs : List Char) (n : Nat) (h : dots? cs = some n) : '0' ∉ cs ∧ '1' ∉ cs := by
  fun_induction dots? cs generalizing n with
  | case1 => simp
  | case2 cs ih =>
    obtain ⟨m, hm, -⟩ := Option.map_eq_some_iff.mp h
    simpa using ih m hm
  | case3 cs ih =>
    obtain ⟨m, hm, -⟩ := Option.map_eq_some_iff.mp h
    simpa using ih m hm
  | case4 cs ih =>
    obtain ⟨m, hm, -⟩ := Option.map_eq_some_iff.mp h
    simpa using ih m hm
  | case5 => cases h

theorem dots?_blank (cs : List Char) (c : Char) (h : IsBlank c) (hc : c ∈ cs) :
    dots? (encode inPath cs) = none := by
  obtain ⟨d, hd, hdigit⟩ := blank_encoded c h
  have hmem : d ∈ encode inPath cs := List.mem_flatMap.mpr ⟨c, hc, hd⟩
  cases hdots : dots? (encode inPath cs) with
  | none => rfl
  | some n =>
    obtain ⟨hzero, hone⟩ := dots?_chars _ n hdots
    rcases hdigit with rfl | rfl
    · exact absurd hmem hzero
    · exact absurd hmem hone

def written (path : List (List Char)) : Nat := (Path.rooted path.reverse).render.length

theorem written_cons (segment : List Char) (path : List (List Char)) :
    written (segment :: path) = written path + segment.length + 1 := by
  rw [written, List.reverse_cons, render_append, List.length_append]
  simp [written, Path.render, Nat.add_assoc]

theorem written_takeBack (path : List (List Char)) : written (takeBack path) ≤ written path := by
  cases path with
  | nil => exact Nat.le_refl _
  | cons s path =>
    rw [takeBack]
    split
    · exact Nat.le_refl _
    · rw [written_cons]
      omega

theorem written_addSegment (path : List (List Char)) (segment : List Char) :
    written (addSegment path true segment) ≤ written path + segment.length + 1 := by
  have hback := written_takeBack path
  unfold addSegment
  split
  · simp only [if_true, written_cons, List.length_nil]
    omega
  · simp only [if_true, written_cons, List.length_nil]
    omega
  · rw [written_cons]

theorem path_alone_shorter (c : Char) (cs blanks : List Char) (hc : endsSegment true c = true)
    (hblanks : ∀ c ∈ blanks, IsBlank c) (hsome : blanks ≠ []) :
    (pathAfterAuthority .web (c :: cs)).render.length <
      (directoryText (c :: cs ++ blanks)).length := by
  have hplain : ∀ b ∈ blanks, endsSegment true b = false := fun b hb => by
    have hne := fun d hd => ne_blank b d (hblanks b hb) hd
    simp [endsSegment, hne '/' (by decide), hne '\\' (by decide)]
  obtain ⟨ps, p, hpieces, hmore⟩ := pieces_more (endsSegment true) cs blanks hplain
  obtain ⟨b, blanks, rfl⟩ := List.exists_cons_of_ne_nil hsome
  have hdots := dots?_blank (p ++ b :: blanks) b (hblanks b (by simp)) (by simp)
  have hlength : (encode inPath p).length < (encode inPath (p ++ b :: blanks)).length := by
    obtain ⟨d, hd, -⟩ := blank_encoded b (hblanks b (by simp))
    have hsome := List.length_pos_of_mem hd
    simp only [encode, List.flatMap_append, List.flatMap_cons, List.length_append]
    omega
  have halone := written_addSegment (inner [] (ps.map (encode inPath))) (encode inPath p)
  have hjoined : (directoryText (c :: cs ++ b :: blanks)).length =
      written (inner [] (ps.map (encode inPath))) +
          (encode inPath (p ++ b :: blanks)).length + 1 := by
    rw [List.cons_append, directoryText, directory, encodedPieces, hmore, List.map_append,
      List.map_singleton, inner_append, addSegment_plain _ _ _ (by simp [hdots]), ← written_cons]
    rfl
  rw [path_slash c cs hc, encodedPieces, hpieces, List.map_append, List.map_singleton,
    addSegments_append _ _ _ (by simp), hjoined]
  exact Nat.lt_of_le_of_lt halone (by omega)

theorem noMarks_append (cs more : List Char) (h : NoMarks more) :
    NoMarks (cs ++ more) ↔ NoMarks cs := by
  constructor
  · exact fun hall c hc => hall c (List.mem_append_left _ hc)
  · intro hcs c hc
    exact (List.mem_append.mp hc).elim (hcs c) (h c)

theorem noMarks_slashes (n : Nat) : NoMarks (List.replicate n '/') := by
  intro c hc
  rw [List.eq_of_mem_replicate hc]
  decide

theorem noMarks_blank (cs : List Char) (h : ∀ c ∈ cs, IsBlank c) : NoMarks cs := fun c hc =>
  ⟨ne_blank c '#' (h c hc) (by decide), ne_blank c '?' (h c hc) (by decide)⟩

namespace Joint

variable {base : String} (j : Joint base)

def alone : Url := webUrl j.scheme j.authority (j.tail ++ List.replicate j.slashes '/')

def lead : List Char := j.tail ++ j.spare

def joined (c : Collection) : Url := webUrl j.scheme j.authority (j.lead ++ c.path.toList)

theorem joined_read (c : Collection) (v : Url)
    (hv : parse (Submitter.trimSlashes base ++ c.path) = .ok v) :
    (j.tail = [] → j.spare = []) ∧ v = j.joined c := by
  have hpath : c.path = .ofList ('/' :: c.path.toList.tail) := by cases c <;> rfl
  have hclean : '/' :: cleanEnd c.path.toList.tail = c.path.toList := by
    cases c <;> decide
  rw [hpath] at hv
  have htogether : j.tail = [] → j.spare = [] := by
    intro hnone
    by_contra hspare
    obtain ⟨fault, hfault⟩ := j.apart hnone hspare c.path.toList.tail
    rw [hfault] at hv
    cases hv
  rw [j.before htogether, hclean] at hv
  exact ⟨htogether, (Except.ok.inj hv).symm⟩

theorem alone_plain : j.alone.query = none ∧ j.alone.fragment = none ↔ NoMarks j.tail :=
  (webUrl_plain _ _ _).trans (noMarks_append _ _ (noMarks_slashes _))

theorem lead_plain : NoMarks j.lead ↔ NoMarks j.tail :=
  noMarks_append _ _ (noMarks_blank _ j.blanks)

theorem joined_plain (c : Collection) :
    (j.joined c).query = none ∧ (j.joined c).fragment = none ↔ NoMarks j.tail := by
  have hall : c.path.toList.all (fun d => d != '#' && d != '?') = true := by cases c <;> decide
  have hpath : ∀ d ∈ c.path.toList, d ≠ '#' ∧ d ≠ '?' := by simpa using hall
  exact (webUrl_plain _ _ _).trans ((noMarks_append _ _ hpath).trans j.lead_plain)

theorem joined_marked (c : Collection) (h : ¬NoMarks j.tail) :
    (j.joined c).path = j.alone.path := by
  show pathAfterAuthority .web (splitTail (j.lead ++ c.path.toList)).1 =
    pathAfterAuthority .web (splitTail (j.tail ++ List.replicate j.slashes '/')).1
  rw [lead, List.append_assoc, splitTail_marked _ _ h, splitTail_marked _ _ h]

variable (htogether : j.tail = [] → j.spare = []) (hplain : NoMarks j.tail)
include hplain

theorem tail_slash (d : Char) (h : j.tail.head? = some d) : endsSegment true d = true := by
  have hend := j.begins d h
  obtain ⟨hhash, hmark⟩ := hplain d (List.mem_of_head? h)
  simpa [endsAuthority, endsSegment, hhash, hmark] using hend

theorem alone_path :
    j.alone.path = pathAfterAuthority .web (j.tail ++ List.replicate j.slashes '/') :=
  webUrl_path _ _ _ ((noMarks_append _ _ (noMarks_slashes _)).mpr hplain)

include htogether

theorem lead_slash (d : Char) (h : j.lead.head? = some d) : endsSegment true d = true := by
  rw [lead] at h
  cases htail : j.tail with
  | nil =>
    rw [htail, htogether htail] at h
    cases h
  | cons e tail =>
    rw [htail] at h
    exact j.tail_slash hplain d (by rw [htail]; exact h)

theorem joined_path (c : Collection) :
    (j.joined c).path.render = directoryText j.lead ++ c.path.toList := by
  rw [joined, webUrl_path _ _ _ ((webUrl_plain _ _ _).mp ((j.joined_plain c).mpr hplain))]
  exact path_before _ (j.lead_slash htogether hplain) c

theorem slashed_path : ∃ t, parse (Submitter.trimSlashes base ++ "/") = .ok t ∧
    t.path.render = directoryText j.lead ++ ['/'] := by
  have hslashed : NoMarks (j.lead ++ ['/']) :=
    (noMarks_append _ _ (noMarks_slashes 1)).mpr (j.lead_plain.mpr hplain)
  refine ⟨_, j.before htogether [], ?_⟩
  rw [show cleanEnd [] = [] from rfl, ← lead, webUrl_path _ _ _ hslashed]
  exact path_slashed _ (j.lead_slash htogether hplain)

/-- The directory is what a base by itself has before its last slashes, unless it
ends in a slash itself or the base ends in a blank. -/
theorem directory_iff : directoryText j.lead = dropEnd (· = '/') j.alone.path.render ↔
    (directoryText j.lead).getLast? ≠ some '/' ∧ endsBlank base = false := by
  rw [j.alone_path hplain, lead]
  by_cases hspare : j.spare = []
  · have hblank : endsBlank base = false := by simpa [hspare] using j.spare_iff
    obtain ⟨k, hk⟩ := path_alone j.tail (j.tail_slash hplain) j.slashes
    rw [hspare, List.append_nil, hk, dropEnd_append _ fun d hd => by
      simpa using List.eq_of_mem_replicate hd]
    constructor
    · refine fun heq => ⟨fun hlast => ?_, hblank⟩
      rw [heq] at hlast
      exact absurd (dropEnd_last hlast) (by decide)
    · rintro ⟨hlast, -⟩
      refine (dropEnd_self fun d hd => ?_).symm
      simpa using fun heq : d = '/' => hlast (heq ▸ hd)
  · have hblank := j.spare_iff.mp hspare
    cases htail : j.tail with
    | nil => exact absurd (htogether htail) hspare
    | cons d tail =>
      have hshorter := path_alone_shorter d tail j.spare
        (j.tail_slash hplain d (by rw [htail]; rfl)) j.blanks hspare
      rw [j.bare hspare, List.replicate_zero, List.append_nil, hblank]
      obtain ⟨back, hback, -⟩ :=
        dropEnd_split (· = '/') (pathAfterAuthority .web (d :: tail)).render
      have hlength := congrArg List.length hback
      rw [List.length_append] at hlength
      constructor
      · intro heq
        rw [heq] at hshorter
        omega
      · exact fun h => absurd h.2 (by decide)

end Joint

end MapClient.Url

namespace MapClient.Session

open MapClient.Text MapClient.Transport

/-- The URL that is requested has a query or a fragment only if the base has
one, and then its path is the path of the base. If the base has none, the path
that is requested is the path of the base with one slash at its end, followed by
the path of the interface. That is the path of the base itself without its last
slashes if the base hides no slash or blank at its end. -/
theorem api_path_requested (client : Client) (base : String) (c : Collection) (u v : Url)
    (hbase : Settings.isBaseUrl base = true) (hu : Url.parse base = .ok u)
    (hv : Url.parse ((Submitter.ofBase client base).endpoint c.path) = .ok v) :
    ((v.query = none ∧ v.fragment = none) ↔ (u.query = none ∧ u.fragment = none)) ∧
    (u.query = none → u.fragment = none →
      ∃ t directory, Url.parse (Submitter.trimSlashes base ++ "/") = .ok t ∧
        t.path.render = directory ++ ['/'] ∧
        v.path.render = directory ++ c.path.toList ∧
        (v.path.render = dropEnd (· = '/') u.path.render ++ c.path.toList ↔
          directory.getLast? ≠ some '/' ∧ Url.endsBlank base = false)) ∧
    (¬(u.query = none ∧ u.fragment = none) → v.path = u.path) ∧
    ∀ o request, o.path = c.path → Opens (.ofBase client base) o request →
      request.url.path = v.path ∧ request.url.query = v.query ∧
        request.url.fragment = v.fragment := by
  obtain ⟨j⟩ := Url.joint base hbase
  obtain rfl : j.alone = u := Except.ok.inj (j.parsed.symm.trans hu)
  obtain ⟨htogether, rfl⟩ := j.joined_read c v hv
  refine ⟨(j.joined_plain c).trans j.alone_plain.symm, fun hquery hfragment => ?_,
    fun hmarked => j.joined_marked c fun hplain => hmarked (j.alone_plain.mpr hplain),
    fun o request hpath h => ?_⟩
  · have hplain := j.alone_plain.mp ⟨hquery, hfragment⟩
    obtain ⟨t, ht, hslashed⟩ := j.slashed_path htogether hplain
    have hjoined := j.joined_path htogether hplain c
    refine ⟨t, _, ht, hslashed, hjoined, ?_⟩
    rw [hjoined, List.append_left_inj]
    exact j.directory_iff htogether hplain
  · obtain ⟨full, hfull, hurl⟩ := h.url
    rw [hpath] at hfull
    obtain rfl := Except.ok.inj (hv.symm.trans hfull)
    rw [hurl]
    exact takeCredentials_rest _

attribute [local instance] Transport.Reader.usual

/-- A base with a path and slashes to spare. -/
theorem guest_path_requested :
    let base := "http://guest:key@[::1]:8080/maps//"
    let v := guestUrl ["maps".toList, "api".toList, "servers".toList]
    ((v.query = none ∧ v.fragment = none) ↔
      ((guestUrl ["maps".toList, [], []]).query = none ∧
        (guestUrl ["maps".toList, [], []]).fragment = none)) ∧
    (∃ t directory, Url.parse (Submitter.trimSlashes base ++ "/") = .ok t ∧
      t.path.render = directory ++ ['/'] ∧
      v.path.render = directory ++ Collection.servers.path.toList ∧
      (v.path.render = dropEnd (· = '/') (guestUrl ["maps".toList, [], []]).path.render ++
          Collection.servers.path.toList ↔
        directory.getLast? ≠ some '/' ∧ Url.endsBlank base = false)) ∧
    ∀ o request, o.path = Collection.servers.path → Opens (.ofBase {} base) o request →
      request.url.path = v.path ∧ request.url.query = v.query ∧
        request.url.fragment = v.fragment := by
  intro base v
  obtain ⟨hplain, hpath, -, hrequest⟩ := api_path_requested {} base .servers
    (guestUrl ["maps".toList, [], []]) v (by decide +kernel) (by decide +kernel)
    (by decide +kernel)
  exact ⟨hplain, hpath rfl rfl, hrequest⟩

/-- A query takes up the path of the interface, and a dot at the end of a base
hides a slash before it. -/
theorem api_path_taken_up :
    (Settings.isBaseUrl "http://[::1]:8080?q" = true ∧
      ∃ v, Url.parse ((Submitter.ofBase {} "http://[::1]:8080?q").endpoint "/api/servers") = .ok v ∧
        v.path.render = "/".toList ∧ v.query = some "q/api/servers".toList) ∧
    (Settings.isBaseUrl "http://[::1]:8080/maps//." = true ∧
      ∃ u v, Url.parse "http://[::1]:8080/maps//." = .ok u ∧
        Url.parse ((Submitter.ofBase {} "http://[::1]:8080/maps//.").endpoint "/api/servers") =
          .ok v ∧
        dropEnd (· = '/') u.path.render = "/maps".toList ∧
        v.path.render = "/maps//api/servers".toList) := by
  refine ⟨⟨by decide +kernel, ⟨"http".toList,
      some ⟨[], [], .ipv6 [0, 0, 0, 0, 0, 0, 0, 1], some 8080⟩, .rooted [[]],
      some "q/api/servers".toList, none⟩, by decide +kernel, rfl, rfl⟩,
    by decide +kernel, ⟨"http".toList,
      some ⟨[], [], .ipv6 [0, 0, 0, 0, 0, 0, 0, 1], some 8080⟩,
      .rooted ["maps".toList, [], []], none, none⟩, ⟨"http".toList,
      some ⟨[], [], .ipv6 [0, 0, 0, 0, 0, 0, 0, 1], some 8080⟩,
      .rooted ["maps".toList, [], "api".toList, "servers".toList], none, none⟩,
    by decide +kernel, by decide +kernel, by decide, by decide⟩

end MapClient.Session
