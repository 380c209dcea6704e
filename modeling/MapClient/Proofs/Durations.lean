import MapClient.Outcome
import Mathlib.Algebra.Order.Group.Int
import Mathlib.Tactic.Ring
import Mathlib.Tactic.SplitIfs

/-!
# Elapsed time in machine words

A duration is kept as whole seconds and a fraction that is counted up from them,
within as many milliseconds as a signed word of 64 bits holds. The difference of
two instants is found from their days and from their times of the day, where a
leap second is counted, and a fraction carries over into the seconds. No step of
this overflows, and what comes of it is the difference in nanoseconds.
-/

set_option autoImplicit false

namespace MapClient

theorem Word.signed?_fits (n : Int) (h : -9223372036854775808 ≤ n)
    (h' : n ≤ 9223372036854775807) : Word.signed? n = some n := if_pos ⟨h, h'⟩

theorem Word.signed?_iff (n m : Int) : Word.signed? n = some m ↔
    (-9223372036854775808 ≤ n ∧ n ≤ 9223372036854775807) ∧ m = n := by
  unfold Word.signed?
  split_ifs with h
  · simp only [Option.some.injEq, h, and_self, true_and, eq_comm]
  · simp [h]

theorem Instant.wholeMillis_eq (ns : Int) :
    wholeMillis ns = if 0 ≤ ns then ns / 1000000 else -(-ns / 1000000) := by
  unfold wholeMillis
  split_ifs with h
  · exact Int.tdiv_eq_ediv_of_nonneg h
  · rw [← Int.tdiv_eq_ediv_of_nonneg (by omega), Int.neg_tdiv, neg_neg]

structure Duration where
  seconds : Int
  nanos : Nat
  nanos_lt : nanos < 1000000000
  least : -9223372036854775807000000 ≤ seconds * 1000000000 + nanos
  most : seconds * 1000000000 + nanos ≤ 9223372036854775807000000
  deriving DecidableEq

namespace Duration

def inNanos (d : Duration) : Int := d.seconds * 1000000000 + d.nanos

def of? (seconds : Int) (nanos : Nat) : Option Duration :=
  if h : nanos < 1000000000 ∧ -9223372036854775807000000 ≤ seconds * 1000000000 + nanos ∧
      seconds * 1000000000 + nanos ≤ 9223372036854775807000000 then
    some ⟨seconds, nanos, h.1, h.2.1, h.2.2⟩
  else none

def add? (d e : Duration) : Option Duration := do
  let seconds ← Word.signed? (d.seconds + e.seconds)
  if d.nanos + e.nanos < 1000000000 then
    of? seconds (d.nanos + e.nanos)
  else
    let carried ← Word.signed? (seconds + 1)
    of? carried (d.nanos + e.nanos - 1000000000)

def wholeSeconds (d : Duration) : Int :=
  if d.seconds < 0 ∧ 0 < d.nanos then d.seconds + 1 else d.seconds

def beyond (d : Duration) : Int :=
  if d.seconds < 0 ∧ 0 < d.nanos then d.nanos - 1000000000 else d.nanos

def millis? (d : Duration) : Option Int := do
  let whole ← Word.signed? (d.wholeSeconds * 1000)
  Word.signed? (whole + Instant.wholeMillis d.beyond)

def nanos? (d : Duration) : Option Int := do
  let whole ← Word.signed? (d.wholeSeconds * 1000000000)
  Word.signed? (whole + d.beyond)

theorem of?_fits (seconds : Int) (nanos : Nat) (hnanos : nanos < 1000000000)
    (hleast : -9223372036854775807000000 ≤ seconds * 1000000000 + nanos)
    (hmost : seconds * 1000000000 + nanos ≤ 9223372036854775807000000) :
    ∃ d, of? seconds nanos = some d ∧ d.seconds = seconds ∧ d.nanos = nanos :=
  ⟨_, dif_pos ⟨hnanos, hleast, hmost⟩, rfl, rfl⟩

/-- A sum that can be kept is the sum of the nanoseconds. -/
theorem add?_fits (d e : Duration) (hleast : -9223372036854775807000000 ≤ d.inNanos + e.inNanos)
    (hmost : d.inNanos + e.inNanos ≤ 9223372036854775807000000) :
    ∃ f, d.add? e = some f ∧ f.inNanos = d.inNanos + e.inNanos := by
  have hd := d.nanos_lt
  have he := e.nanos_lt
  unfold inNanos at *
  have hseconds : Word.signed? (d.seconds + e.seconds) = some (d.seconds + e.seconds) :=
    Word.signed?_fits _ (by omega) (by omega)
  have hcarried : Word.signed? (d.seconds + e.seconds + 1) = some (d.seconds + e.seconds + 1) :=
    Word.signed?_fits _ (by omega) (by omega)
  simp only [add?, hseconds, Option.bind_eq_bind, Option.bind_some]
  split_ifs with hfraction
  · obtain ⟨f, hf, hs, hn⟩ := of?_fits (d.seconds + e.seconds) (d.nanos + e.nanos) hfraction
      (by omega) (by omega)
    exact ⟨f, hf, by omega⟩
  · obtain ⟨f, hf, hs, hn⟩ := of?_fits (d.seconds + e.seconds + 1)
      (d.nanos + e.nanos - 1000000000) (by omega) (by omega) (by omega)
    rw [hcarried, Option.bind_some]
    exact ⟨f, hf, by omega⟩

theorem inNanos_parts (d : Duration) :
    d.inNanos = d.wholeSeconds * 1000000000 + d.beyond := by
  unfold inNanos wholeSeconds beyond
  split_ifs <;> omega

/-- What is beyond the whole seconds is less than one, on the side of zero that they are on. -/
theorem beyond_bounds (d : Duration) :
    (0 ≤ d.wholeSeconds ∧ 0 ≤ d.beyond ∧ d.beyond < 1000000000) ∨
    (d.wholeSeconds ≤ 0 ∧ -1000000000 < d.beyond ∧ d.beyond ≤ 0) := by
  have hd := d.nanos_lt
  unfold wholeSeconds beyond
  split_ifs <;> omega

theorem millis?_eq (d : Duration) : d.millis? = some (Instant.wholeMillis d.inNanos) := by
  have hleast := d.least
  have hmost := d.most
  have hnanos : d.inNanos = d.seconds * 1000000000 + d.nanos := rfl
  have hparts := d.inNanos_parts
  have hbounds := d.beyond_bounds
  -- both parts are on the same side of zero, so they can be rounded apart
  have hrounded : Instant.wholeMillis d.inNanos =
      d.wholeSeconds * 1000 + Instant.wholeMillis d.beyond := by
    rw [Instant.wholeMillis_eq, Instant.wholeMillis_eq]
    split_ifs <;> omega
  have hfits : -9223372036854775807 ≤ Instant.wholeMillis d.inNanos ∧
      Instant.wholeMillis d.inNanos ≤ 9223372036854775807 := by
    rw [Instant.wholeMillis_eq]
    split_ifs <;> omega
  have hwhole : Word.signed? (d.wholeSeconds * 1000) = some (d.wholeSeconds * 1000) :=
    Word.signed?_fits _ (by omega) (by omega)
  rw [millis?, hwhole, hrounded]
  exact Word.signed?_fits _ (by omega) (by omega)

theorem nanos?_eq (d : Duration) : d.nanos? = Word.signed? d.inNanos := by
  have hparts := d.inNanos_parts
  have hbounds := d.beyond_bounds
  rw [nanos?, hparts]
  by_cases hwhole : -9223372036854775808 ≤ d.wholeSeconds * 1000000000 ∧
      d.wholeSeconds * 1000000000 ≤ 9223372036854775807
  · rw [Word.signed?_fits _ hwhole.1 hwhole.2]
    rfl
  · -- the whole seconds are nearer to zero than the sum
    have hsum : Word.signed? (d.wholeSeconds * 1000000000 + d.beyond) = none :=
      if_neg (by omega)
    rw [show Word.signed? (d.wholeSeconds * 1000000000) = none from if_neg hwhole, hsum]
    rfl

end Duration

namespace Instant

/-- The days that a calendar has, which goes from the year -262143 to the year 262142. -/
def Representable (t : Instant) : Prop :=
  -8334601228800 ≤ t.seconds ∧ t.seconds ≤ 8210266876799 ∧ t.nanos < 2 * billion

instance : DecidablePred Representable := fun _ =>
  inferInstanceAs (Decidable (_ ∧ _ ∧ _))

def day (t : Instant) : Int := t.seconds / 86400

def daysBetween? (a b : Instant) : Option Duration := do
  let days ← Word.signed? (b.day - a.day)
  let seconds ← Word.signed? (days * 86400)
  Duration.of? seconds 0

/-- The duration between two times of the day. The fractions of leap seconds count
for a second and more, and a difference of fractions for what is below it. -/
def timesBetween? (a b : Instant) : Option Duration := do
  let seconds ← Word.signed? (b.secondOfDay - a.secondOfDay)
  let counted ← Word.signed? (seconds + leapBetween a b)
  let fraction ← Word.signed? (b.nanos - a.nanos)
  let carried ← Word.signed? (counted + fraction / 1000000000)
  Duration.of? carried (fraction % 1000000000).toNat

def between? (a b : Instant) : Option Duration := do
  let days ← daysBetween? a b
  let times ← timesBetween? a b
  days.add? times

theorem leapBetween_bounds (a b : Instant) : -1 ≤ leapBetween a b ∧ leapBetween a b ≤ 1 := by
  unfold leapBetween
  split_ifs <;> omega

/-- A leap second that has passed in one direction has passed in the other. -/
theorem leapBetween_swap (a b : Instant) : leapBetween b a = -leapBetween a b := by
  unfold leapBetween
  split_ifs <;> omega

theorem nanosTo_swap (a b : Instant) : b.nanosTo a = -a.nanosTo b := by
  rw [nanosTo, nanosTo, leapBetween_swap]
  ring

theorem secondOfDay_bounds (t : Instant) : 0 ≤ t.secondOfDay ∧ t.secondOfDay < 86400 := by
  unfold secondOfDay
  omega

theorem daysBetween?_fits (a b : Instant) (ha : a.Representable) (hb : b.Representable) :
    ∃ d, daysBetween? a b = some d ∧ d.inNanos = (b.day - a.day) * 86400 * 1000000000 := by
  obtain ⟨halow, hahigh, -⟩ := ha
  obtain ⟨hblow, hbhigh, -⟩ := hb
  have hday : Word.signed? (b.day - a.day) = some (b.day - a.day) := by
    unfold day
    exact Word.signed?_fits _ (by omega) (by omega)
  have hseconds : Word.signed? ((b.day - a.day) * 86400) = some ((b.day - a.day) * 86400) := by
    unfold day
    exact Word.signed?_fits _ (by omega) (by omega)
  obtain ⟨d, hd, hs, hn⟩ := Duration.of?_fits ((b.day - a.day) * 86400) 0 (by decide)
    (by unfold day; omega) (by unfold day; omega)
  refine ⟨d, ?_, ?_⟩
  · simp only [daysBetween?, hday, hseconds, Option.bind_eq_bind, Option.bind_some, hd]
  · rw [Duration.inNanos, hs, hn, Nat.cast_zero, add_zero]

theorem timesBetween?_fits (a b : Instant) (ha : a.nanos < 2 * billion)
    (hb : b.nanos < 2 * billion) :
    ∃ d, timesBetween? a b = some d ∧ d.inNanos =
      (b.secondOfDay - a.secondOfDay + leapBetween a b) * 1000000000 + (b.nanos - a.nanos) := by
  have hleap := leapBetween_bounds a b
  have hatime := a.secondOfDay_bounds
  have hbtime := b.secondOfDay_bounds
  unfold billion at ha hb
  obtain ⟨d, hd, hs, hn⟩ := Duration.of?_fits
    (b.secondOfDay - a.secondOfDay + leapBetween a b + ((b.nanos : Int) - a.nanos) / 1000000000)
    (((b.nanos : Int) - a.nanos) % 1000000000).toNat (by omega) (by omega) (by omega)
  refine ⟨d, ?_, ?_⟩
  · have hseconds := Word.signed?_fits (b.secondOfDay - a.secondOfDay) (by omega) (by omega)
    have hcounted := Word.signed?_fits (b.secondOfDay - a.secondOfDay + leapBetween a b)
      (by omega) (by omega)
    have hfraction := Word.signed?_fits (b.nanos - a.nanos) (by omega) (by omega)
    have hcarried := Word.signed?_fits (b.secondOfDay - a.secondOfDay + leapBetween a b +
      ((b.nanos : Int) - a.nanos) / 1000000000) (by omega) (by omega)
    simp only [timesBetween?, hseconds, hcounted, hfraction, hcarried, Option.bind_eq_bind,
      Option.bind_some, hd]
  · rw [Duration.inNanos, hs, hn]
    omega

theorem between?_fits (a b : Instant) (ha : a.Representable) (hb : b.Representable) :
    ∃ d, between? a b = some d ∧ d.inNanos = a.nanosTo b := by
  obtain ⟨days, hdays, hlength⟩ := daysBetween?_fits a b ha hb
  obtain ⟨times, htimes, hlength'⟩ := timesBetween?_fits a b ha.2.2 hb.2.2
  have hleap := leapBetween_bounds a b
  obtain ⟨halow, hahigh, hananos⟩ := ha
  obtain ⟨hblow, hbhigh, hbnanos⟩ := hb
  have hsum : days.inNanos + times.inNanos = a.nanosTo b := by
    rw [hlength, hlength', nanosTo, billion, day, day, secondOfDay, secondOfDay]
    omega
  have hnanosTo : a.nanosTo b = (b.seconds - a.seconds + leapBetween a b) * 1000000000 +
    (b.nanos - a.nanos) := rfl
  unfold billion at hananos hbnanos
  obtain ⟨d, hd, hlength⟩ := days.add?_fits times (by omega) (by omega)
  exact ⟨d, by rw [between?, hdays, Option.bind_eq_bind, Option.bind_some, htimes]; exact hd,
    hlength.trans hsum⟩

def count (t : Instant) : Int := t.seconds * 1000000000 + t.nanos

def Before (a b : Instant) : Prop :=
  a.seconds < b.seconds ∨ a.seconds = b.seconds ∧ a.nanos < b.nanos

theorem isLeap_false (t : Instant) : t.isLeap = false ↔ t.nanos < 1000000000 := by
  rw [isLeap, billion, decide_eq_false_iff_not, Nat.not_le]

theorem nanosTo_count (a b : Instant) (ha : a.isLeap = false) (hb : b.isLeap = false) :
    a.nanosTo b = b.count - a.count := by
  have hleap : leapBetween a b = 0 := by
    simp [leapBetween, ha, hb]
  rw [nanosTo, hleap, count, count, billion]
  omega

theorem count_lt_iff (a b : Instant) (ha : a.isLeap = false) (hb : b.isLeap = false) :
    a.count < b.count ↔ a.Before b := by
  rw [isLeap_false] at ha hb
  unfold count Before
  omega

end Instant

namespace Outcome

def reversed (o : Outcome) : Outcome :=
  { o with dispatchedAt := o.completedAt, completedAt := o.dispatchedAt }

/-- The elapsed time of two instants that a calendar has is found without an overflow
in words of 64 bits, leap seconds included, and exchanging the instants negates it. Its
milliseconds are rounded toward zero, and its nanoseconds are given if they fit in a word.
Apart from leap seconds it is the exact difference, which has the sign of the order and
adds up over an instant between. -/
theorem elapsed_exact (o : Outcome) (hdispatched : o.dispatchedAt.Representable)
    (hcompleted : o.completedAt.Representable) :
    (∃ d, o.dispatchedAt.between? o.completedAt = some d ∧ d.inNanos = o.elapsed ∧
      d.millis? = some o.elapsedMillis ∧ d.nanos? = o.elapsedNanos?) ∧
    (∃ d, o.completedAt.between? o.dispatchedAt = some d ∧ d.inNanos = -o.elapsed) ∧
    o.reversed.elapsed = -o.elapsed ∧ o.reversed.elapsedMillis = -o.elapsedMillis ∧
    o.elapsedMillis = o.elapsed.tdiv (10 ^ 6) ∧
    (∀ n, o.elapsedNanos? = some n ↔
      (-2 ^ 63 ≤ o.elapsed ∧ o.elapsed ≤ 2 ^ 63 - 1) ∧ n = o.elapsed) ∧
    (o.dispatchedAt.isLeap = false → o.completedAt.isLeap = false →
      o.elapsed = o.completedAt.count - o.dispatchedAt.count ∧
      (0 < o.elapsed ↔ o.dispatchedAt.Before o.completedAt) ∧
      (o.elapsed < 0 ↔ o.completedAt.Before o.dispatchedAt) ∧
      ∀ between : Instant, between.isLeap = false →
        { o with completedAt := between }.elapsed + { o with dispatchedAt := between }.elapsed =
          o.elapsed) := by
  have hreversed : o.reversed.elapsed = -o.elapsed := Instant.nanosTo_swap _ _
  refine ⟨?_, ?_, hreversed, ?_, rfl, fun n => ?_, fun hd hc => ⟨?_, ?_, ?_, ?_⟩⟩
  · obtain ⟨d, hbetween, hlength⟩ := Instant.between?_fits _ _ hdispatched hcompleted
    refine ⟨d, hbetween, hlength, ?_, ?_⟩
    · rw [d.millis?_eq, hlength]
      rfl
    · rw [d.nanos?_eq, hlength]
      rfl
  · obtain ⟨d, hbetween, hlength⟩ := Instant.between?_fits _ _ hcompleted hdispatched
    exact ⟨d, hbetween, hlength.trans (Instant.nanosTo_swap _ _)⟩
  · rw [elapsedMillis, hreversed, Instant.wholeMillis, Int.neg_tdiv]
    rfl
  · exact Word.signed?_iff o.elapsed n
  · exact Instant.nanosTo_count _ _ hd hc
  · rw [← Instant.count_lt_iff _ _ hd hc, elapsed, Instant.nanosTo_count _ _ hd hc]
    omega
  · rw [← Instant.count_lt_iff _ _ hc hd, elapsed, Instant.nanosTo_count _ _ hd hc]
    omega
  · intro between hb
    simp only [elapsed]
    rw [Instant.nanosTo_count _ _ hd hb, Instant.nanosTo_count _ _ hb hc,
      Instant.nanosTo_count _ _ hd hc]
    omega

/-- The longest time there is, counted from the end into a leap second: more
nanoseconds than a word holds, and fewer milliseconds. -/
theorem longest_elapsed :
    let first : Instant := ⟨-8334601228800, 0⟩
    let last : Instant := ⟨8210266876799, 1999999999⟩
    let before : Instant := ⟨8210266876799, 999999999⟩
    let o : Outcome := ⟨"", .error .noRuntime, last, first⟩
    let o' : Outcome := ⟨"", .error .noRuntime, before, first⟩
    (last.Representable ∧ first.Representable ∧ last.isLeap = true ∧
      o.elapsed = -16544868105600999999999 ∧ o.elapsedMillis = -16544868105600999 ∧
      o.elapsedNanos? = none ∧ o.reversed.elapsed = 16544868105600999999999 ∧
      ∃ d, last.between? first = some d ∧ d.inNanos = -16544868105600999999999 ∧
        d.millis? = some (-16544868105600999) ∧ d.nanos? = none) ∧
    (before.Representable ∧ before.isLeap = false ∧ first.isLeap = false ∧
      first.Before before ∧ o'.elapsed < 0 ∧ o'.elapsed = first.count - before.count) := by
  intro first last before o o'
  have hlast : last.Representable := by decide
  have hbefore : before.Representable := by decide
  have hfirst : first.Representable := by decide
  refine ⟨?_, ?_⟩
  · obtain ⟨⟨d, hd, hlength, hmillis, hnanos⟩, -, hreversed, -⟩ := elapsed_exact o hlast hfirst
    have helapsed : o.elapsed = -16544868105600999999999 := by decide
    refine ⟨hlast, hfirst, by decide, helapsed, by decide, by decide, ?_, d, hd, ?_, ?_, ?_⟩
    · rw [hreversed, helapsed]
      rfl
    · exact hlength.trans helapsed
    · exact hmillis.trans (by decide)
    · exact hnanos.trans (by decide)
  · obtain ⟨-, -, -, -, -, -, hexact⟩ := elapsed_exact o' hbefore hfirst
    obtain ⟨hcount, -, hsign, -⟩ := hexact (by decide) (by decide)
    have horder : first.Before before := Or.inl (by decide)
    exact ⟨hbefore, by decide, by decide, horder, hsign.mpr horder, hcount⟩

end Outcome

end MapClient
