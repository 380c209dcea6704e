import MapClient.Proofs.Endpoints
import MapClient.Proofs.Targets

/-!
# Written URLs

A URL that was read is written in printing characters of ASCII, whatever the
text was that it was read from: all others are encoded, refused or do not count.
A written URL thus stands on one line.
-/

set_option autoImplicit false

namespace MapClient.Url

open MapClient.Text

def Printing (cs : List Char) : Prop := ∀ c ∈ cs, inControls c = false

instance (cs : List Char) : Decidable (Printing cs) :=
  List.decidableBAll (fun c => inControls c = false) cs

theorem printing_append {as bs : List Char} (ha : Printing as) (hb : Printing bs) :
    Printing (as ++ bs) := fun c hc => (List.mem_append.mp hc).elim (ha c) (hb c)

theorem printing_cons {c : Char} {cs : List Char} (hc : inControls c = false)
    (hcs : Printing cs) : Printing (c :: cs) :=
  fun d hd => (List.mem_cons.mp hd).elim (fun heq => heq ▸ hc) (hcs d)

theorem printing_nil : Printing [] := List.forall_mem_nil _

theorem inAuthority_prints (c : Char) (h : inAuthority c = true) : inControls c = false := by
  have hrange : ∀ low high : Char, 0x20 ≤ low.toNat → high.toNat ≤ 0x7E → low ≤ c ∧ c ≤ high →
      inControls c = false := by
    rintro low high hlow hhigh ⟨hfrom, hto⟩
    have hfrom : low.toNat ≤ c.toNat := hfrom
    have hto : c.toNat ≤ high.toNat := hto
    simp only [inControls, Bool.or_eq_false_iff, decide_eq_false_iff_not]
    omega
  have hmarks : Printing "!$&'()*+,-.;=_~".toList := by decide
  simp only [inAuthority_eq, Bool.or_eq_true, Bool.and_eq_true, decide_eq_true_eq] at h
  rcases h with ((h | h) | h) | h
  · exact hrange 'a' 'z' (by decide) (by decide) h
  · exact hrange 'A' 'Z' (by decide) (by decide) h
  · exact hrange '0' '9' (by decide) (by decide) h
  · exact hmarks c h

theorem encode_prints (set : EncodeSet) (hset : ∀ c, inControls c = true → set c = true)
    (cs : List Char) : Printing (encode set cs) := by
  intro c hc
  rcases encode_mem set cs c hc with (rfl | ⟨n, hn, rfl⟩) | ⟨-, h⟩
  · decide
  · exact inAuthority_prints _ (upperHex_plain n hn)
  · by_contra hcontrol
    rw [hset c (by simpa using hcontrol)] at h
    cases h

theorem encode_path (cs : List Char) : Printing (encode inPath cs) :=
  encode_prints inPath (fun c h => by simp [inPath, inFragment, h]) cs

theorem encode_query (scheme cs : List Char) : Printing (encode (querySet scheme) cs) := by
  refine encode_prints _ (fun c h => ?_) cs
  unfold querySet
  split <;> simp [inSpecialQuery, inQuery, h]

theorem encode_fragment (cs : List Char) : Printing (encode inFragment cs) :=
  encode_prints inFragment (fun c h => by simp [inFragment, h]) cs

theorem encode_user (cs : List Char) : Printing (encode inUserInfo cs) :=
  encode_prints inUserInfo (fun c h => by simp [inUserInfo, inPath, inFragment, h]) cs

theorem repr_prints (n : Nat) : Printing (Nat.repr n).toList :=
  fun c hc => inAuthority_prints c (repr_digits n c hc)

theorem sound_prints (host : Host) (h : host.Sound) : Printing host.render := by
  cases host with
  | name text =>
    intro c hc
    obtain ⟨hplain, hrefused⟩ := h.2 c hc
    cases honly : onlyInNames c with
    | false => exact inAuthority_prints c (by rw [name_nameable c hplain hrefused, honly]; rfl)
    | true =>
      simp only [onlyInNames, Bool.or_eq_true, beq_iff_eq] at honly
      rcases honly with ((rfl | rfl) | rfl) | rfl <;> decide
  | ipv4 address => exact fun c hc => inAuthority_prints c (ipv4_plain address c hc)
  | ipv6 numbers =>
    refine printing_cons (by decide) (printing_append (fun c hc => ?_)
      (printing_cons (by decide) printing_nil))
    rcases Ipv6.render_chars numbers c hc with h | rfl | rfl
    · exact inAuthority_prints c h
    · decide
    · decide

theorem readHost_prints (kind : SchemeKind) (cs : List Char) (host : Host)
    (h : readHost kind cs = .ok host) : Printing host.render := by
  rw [readHost] at h
  split_ifs at h
  · exact sound_prints host (netHost_sound cs host h)
  · rw [plainHost] at h
    cases hbracket : bracketed? cs with
    | some result =>
      rw [hbracket] at h
      exact sound_prints host (bracketed?_sound cs host (hbracket.trans (congrArg some h)))
    | none =>
      rw [hbracket, Option.getD_none] at h
      split_ifs at h
      obtain rfl := Except.ok.inj h
      exact encode_prints inControls (fun _ hc => hc) cs

structure Authority.Prints (a : Authority) : Prop where
  user : Printing a.user
  password : Printing a.password
  host : Printing a.host.render

def Path.Prints : Path → Prop
  | .rooted segments => ∀ s ∈ segments, Printing s
  | .rootless text => Printing text

structure Prints (u : Url) : Prop where
  scheme : Printing u.scheme
  authority : ∀ a, u.authority = some a → a.Prints
  path : u.path.Prints
  query : ∀ q, u.query = some q → Printing q
  fragment : ∀ f, u.fragment = some f → Printing f

theorem Authority.prints_rendered (a : Authority) (h : a.Prints) :
    Printing (a.renderUserInfo ++ a.renderHostPort) := by
  refine printing_append ?_ (printing_append h.host ?_)
  · unfold renderUserInfo
    split_ifs
    · exact printing_nil
    · exact printing_append (printing_append h.user printing_nil)
        (printing_cons (by decide) printing_nil)
    · exact printing_append (printing_append h.user (printing_cons (by decide) h.password))
        (printing_cons (by decide) printing_nil)
  · cases a.port with
    | none => exact printing_nil
    | some p => exact printing_cons (by decide) (repr_prints p)

theorem Path.prints_rendered (p : Path) (h : p.Prints) : Printing p.render := by
  cases p with
  | rootless text => exact h
  | rooted segments =>
    intro c hc
    obtain ⟨s, hs, hc⟩ := List.mem_flatMap.mp hc
    exact printing_cons (by decide) (h s hs) c hc

theorem Prints.rendered {u : Url} (h : u.Prints) : Printing u.toChars := by
  have hauthority : Printing u.renderAuthority := by
    unfold renderAuthority
    cases hu : u.authority with
    | some a =>
      exact printing_cons (by decide) (printing_cons (by decide)
        (a.prints_rendered (h.authority a hu)))
    | none =>
      show Printing u.rootMark
      unfold rootMark
      split
      · decide
      · exact printing_nil
  have hquery : Printing u.renderQuery := by
    unfold renderQuery
    cases hu : u.query with
    | none => exact printing_nil
    | some q => exact printing_cons (by decide) (h.query q hu)
  have hfragment : Printing u.renderFragment := by
    unfold renderFragment
    cases hu : u.fragment with
    | none => exact printing_nil
    | some f => exact printing_cons (by decide) (h.fragment f hu)
  refine printing_append (printing_append (printing_append (printing_append h.scheme ?_) ?_)
    hquery) hfragment
  · exact printing_cons (by decide) hauthority
  · exact u.path.prints_rendered h.path

theorem addSegments_prints (path segments : List (List Char)) (hpath : ∀ s ∈ path, Printing s)
    (h : ∀ s ∈ segments, Printing s) : ∀ s ∈ addSegments path segments, Printing s := by
  have hback : ∀ path : List (List Char), (∀ s ∈ path, Printing s) →
      ∀ s ∈ takeBack path, Printing s := by
    intro path hpath
    cases path with
    | nil => exact hpath
    | cons s ss =>
      rw [takeBack]
      split_ifs
      · exact hpath
      · exact fun t ht => hpath t (List.mem_cons_of_mem s ht)
  have hnil : ∀ path : List (List Char), (∀ s ∈ path, Printing s) →
      ∀ s ∈ [] :: path, Printing s :=
    fun path hpath s hs => (List.mem_cons.mp hs).elim (fun heq => heq ▸ printing_nil) (hpath s)
  have hadd : ∀ (path : List (List Char)) (isLast : Bool) (segment : List Char),
      (∀ s ∈ path, Printing s) → Printing segment →
      ∀ s ∈ addSegment path isLast segment, Printing s := by
    intro path isLast segment hpath hsegment
    unfold addSegment
    split
    · cases isLast with
      | true => exact hnil path hpath
      | false => exact hpath
    · cases isLast with
      | true => exact hnil _ (hback path hpath)
      | false => exact hback path hpath
    · exact fun s hs => (List.mem_cons.mp hs).elim (fun heq => heq ▸ hsegment) (hpath s)
  fun_induction addSegments path segments with
  | case1 path => exact hpath
  | case2 path segment => exact hadd path true segment hpath (h segment List.mem_cons_self)
  | case3 path segment segments _ ih =>
    exact ih (hadd path false segment hpath (h segment List.mem_cons_self))
      fun s hs => h s (List.mem_cons_of_mem segment hs)

theorem settleDrive_prints (segments : List (List Char)) (h : ∀ s ∈ segments, Printing s) :
    ∀ s ∈ settleDrive segments, Printing s := by
  cases segments with
  | nil => exact h
  | cons first rest =>
    intro s hs
    rcases List.mem_cons.mp hs with rfl | hs
    · split_ifs
      · refine printing_cons ?_ (printing_cons (by decide) printing_nil)
        cases first with
        | nil => decide
        | cons c cs => exact h _ List.mem_cons_self c List.mem_cons_self
      · exact h _ List.mem_cons_self
    · exact h s (List.mem_cons_of_mem first hs)

theorem dropEmpty_mem (segments : List (List Char)) :
    ∀ s ∈ dropEmpty segments, s ∈ segments := by
  fun_induction dropEmpty segments with
  | case1 s ss ih => exact fun t ht => List.mem_cons_of_mem [] (ih t ht)
  | case2 ss => exact fun t ht => ht

theorem readSegments_prints (kind : SchemeKind) (path : List (List Char)) (cs : List Char)
    (h : ∀ s ∈ path, Printing s) : ∀ s ∈ readSegments kind path cs, Printing s := by
  have hadded : ∀ s ∈ (addSegments path
      ((pieces (endsSegment kind.isSpecial) cs).map (encode inPath))).reverse, Printing s := by
    intro s hs
    refine addSegments_prints path _ h ?_ s (List.mem_reverse.mp hs)
    rintro t ht
    obtain ⟨piece, -, rfl⟩ := List.mem_map.mp ht
    exact encode_path piece
  unfold readSegments
  dsimp only
  split_ifs
  · exact settleDrive_prints _ fun s hs => hadded s (dropEmpty_mem _ s hs)
  · exact hadded

theorem readAuthority_prints (scheme text : List Char) (follows : Bool) (authority : Authority)
    (left : List Char) (h : readAuthority scheme text follows = .ok (authority, left)) :
    authority.Prints := by
  obtain ⟨-, hhost, -, -, -, hinfo⟩ := (readAuthority_iff _ _ _ _ _).mp h
  obtain ⟨huser, hpassword⟩ := Prod.mk.inj hinfo
  exact ⟨huser ▸ encode_user _, hpassword ▸ encode_user _, readHost_prints _ _ _ hhost⟩

theorem withTail_prints (scheme : List Char) (authority : Option Authority) (path : Path)
    (query fragment : Option (List Char)) (hscheme : Printing scheme)
    (hauthority : ∀ a, authority = some a → a.Prints) (hpath : path.Prints) :
    (withTail scheme authority path query fragment).Prints where
  scheme := hscheme
  authority := hauthority
  path := hpath
  query := by
    rintro q hq
    obtain ⟨q, -, rfl⟩ := Option.map_eq_some_iff.mp hq
    exact encode_query scheme q
  fragment := by
    rintro f hf
    obtain ⟨f, -, rfl⟩ := Option.map_eq_some_iff.mp hf
    exact encode_fragment f

theorem readAfterSlashes_prints (scheme cs : List Char) (hscheme : Printing scheme) (u : Url)
    (h : readAfterSlashes scheme cs = .ok u) : u.Prints := by
  rw [readAfterSlashes, stages_ok] at h
  obtain ⟨⟨authority, left⟩, hread, h⟩ := h
  obtain rfl := Except.ok.inj h
  refine withTail_prints scheme _ _ _ _ hscheme ?_ ?_
  · rintro a ha
    obtain rfl := Option.some.inj ha
    exact readAuthority_prints _ _ _ _ _ hread
  · unfold pathAfterAuthority
    split
    · split_ifs
      · exact fun s hs => List.mem_singleton.mp hs ▸ printing_nil
      · exact List.forall_mem_nil _
    · exact readSegments_prints _ [] _ (List.forall_mem_nil _)

theorem readFile_prints (scheme cs : List Char) (hscheme : Printing scheme) (u : Url)
    (h : readFile scheme cs = .ok u) : u.Prints := by
  rw [readFile, stages_ok] at h
  obtain ⟨host, hhost, h⟩ := h
  obtain rfl := Except.ok.inj h
  have hfile : Printing host.render := by
    rw [readFileHost] at hhost
    split_ifs at hhost
    · obtain rfl := Except.ok.inj hhost
      exact printing_nil
    · obtain ⟨read, hread, rfl⟩ := (map_ok _ _ _).mp hhost
      split_ifs
      · exact printing_nil
      · exact sound_prints read (netHost_sound _ read hread)
  refine withTail_prints scheme _ _ _ _ hscheme ?_ ?_
  · rintro a ha
    obtain rfl := Option.some.inj ha
    refine ⟨printing_nil, printing_nil, ?_⟩
    dsimp only
    split_ifs
    · exact printing_nil
    · exact hfile
  · exact readSegments_prints _ [] _ (List.forall_mem_nil _)

theorem readOther_prints (scheme cs : List Char) (hscheme : Printing scheme) (u : Url)
    (h : readOther scheme cs = .ok u) : u.Prints := by
  rw [readOther] at h
  split at h
  · exact readAfterSlashes_prints scheme _ hscheme u h
  · obtain rfl := Except.ok.inj h
    refine withTail_prints scheme _ _ _ _ hscheme (by rintro _ ⟨⟩) ?_
    split
    · exact readSegments_prints _ [] _ (List.forall_mem_nil _)
    · exact encode_prints inControls (fun _ hc => hc) _

theorem readAfterScheme_prints (scheme rest : List Char) (hscheme : Printing scheme) (u : Url)
    (h : readAfterScheme scheme rest = .ok u) : u.Prints := by
  rw [readAfterScheme] at h
  split at h
  · exact readAfterSlashes_prints scheme _ hscheme u h
  · exact readFile_prints scheme rest hscheme u h
  · exact readOther_prints scheme rest hscheme u h

theorem lower_prints (c : Char) (h : inScheme c = true) : inControls (lower c) = false := by
  have hauthority : inAuthority c = true := by
    simp only [inScheme, isLetter, Bool.or_eq_true, Bool.and_eq_true, decide_eq_true_eq,
      beq_iff_eq] at h
    simp only [inAuthority_eq, Bool.or_eq_true, Bool.and_eq_true, decide_eq_true_eq]
    rcases h with ((((h | h) | h) | rfl) | rfl) | rfl
    · exact .inl (.inl (.inl h))
    · exact .inl (.inl (.inr h))
    · exact .inl (.inr h)
    all_goals decide
  have hall : ∀ c : Char, c.toNat < 0x7F → inScheme c = true → inControls (lower c) = false := by
    refine char_below _ ?_
    decide
  have hlow := inAuthority_prints c hauthority
  simp only [inControls, Bool.or_eq_false_iff, decide_eq_false_iff_not] at hlow
  exact hall c (by omega) h

theorem scheme?_prints (cs scheme rest : List Char) (h : scheme? cs = some (scheme, rest)) :
    Printing scheme := by
  unfold scheme? at h
  split at h
  · split_ifs at h with hname
    obtain ⟨rfl, -⟩ := Prod.mk.inj (Option.some.inj h)
    rw [Bool.and_eq_true, List.all_eq_true] at hname
    intro c hc
    obtain ⟨d, hd, rfl⟩ := List.mem_map.mp hc
    exact lower_prints d (hname.2 d hd)
  · cases h

/-- A URL that was read is written in printing characters. -/
theorem parse_prints (s : String) (u : Url) (h : parse s = .ok u) : u.Prints := by
  rw [parse] at h
  split at h
  · cases h
  · rename_i scheme rest hscheme
    exact readAfterScheme_prints scheme rest (scheme?_prints _ _ _ hscheme) u h

theorem relativeTo_prints (base : Url) (hbase : base.Prints) (cs : List Char) (u : Url)
    (h : relativeTo base cs = .ok u) : u.Prints := by
  have honPath : ∀ (path : Path) (query fragment : Option (List Char)), path.Prints →
      (withTail base.scheme base.authority path query fragment).Prints :=
    fun path query fragment hpath =>
      withTail_prints base.scheme _ path query fragment hbase.scheme hbase.authority hpath
  unfold relativeTo at h
  dsimp only at h
  split at h
  · obtain rfl := Except.ok.inj h
    have hkept := honPath base.path (splitTail cs).2.1 (splitTail cs).2.2 hbase.path
    refine ⟨hkept.scheme, hkept.authority, hkept.path, ?_, hkept.fragment⟩
    dsimp only
    split
    · exact hbase.query
    · rintro q hq
      obtain rfl := Option.some.inj hq
      exact encode_query base.scheme _
  · split_ifs at h
    · exact readAfterSlashes_prints base.scheme _ hbase.scheme u h
    · obtain rfl := Except.ok.inj h
      exact honPath _ _ _ (readSegments_prints _ [] _ (List.forall_mem_nil _))
    · obtain rfl := Except.ok.inj h
      refine honPath _ _ _ (readSegments_prints _ _ _ fun s hs => ?_)
      have hkept := List.dropLast_subset _ (List.mem_reverse.mp hs)
      cases hpath : base.path with
      | rootless text => rw [hpath] at hkept; cases hkept
      | rooted segments =>
        rw [hpath] at hkept
        have hprints := hbase.path
        rw [hpath] at hprints
        exact hprints s hkept

/-- So is what a reference means at one. -/
theorem resolve_prints (base : Url) (hbase : base.Prints) (reference : String) (u : Url)
    (h : base.resolve reference = .ok u) : u.Prints := by
  unfold resolve at h
  dsimp only at h
  split at h
  · exact relativeTo_prints base hbase _ u h
  · rename_i scheme rest hscheme
    split_ifs at h
    · exact relativeTo_prints base hbase _ u h
    · exact readAfterScheme_prints scheme rest (scheme?_prints _ _ _ hscheme) u h

end MapClient.Url
