import Mathlib.Data.List.Infix
import BlockOrder.Proofs.Pattern.Opener

/-!
# Stripping and a single pass

Stripping takes out the earliest match and looks at the shortened text from its start again.  A
single pass goes on behind the match instead.  The two differ where what stands before and behind
a gap makes up an opening text together, and only there.  Whether that can happen is seen from the
opening texts.
-/

namespace BlockOrder

open List (Forall₂)

namespace Span

def shift (d : Nat) (m : Span) : Span := ⟨d + m.start, d + m.stop⟩

/-- The stretch that starts first, the left one if they start together. -/
def earlier : Option Span → Option Span → Option Span
  | none, b => b
  | some a, none => some a
  | some a, some b => if b.start < a.start then some b else some a

theorem earlier_none (a : Option Span) : earlier a none = a := by
  cases a <;> rfl

theorem earlier_assoc (a b c : Option Span) :
    earlier (earlier a b) c = earlier a (earlier b c) := by
  match a, b, c with
  | none, _, _ => rfl
  | some a, none, _ => rfl
  | some a, some b, none =>
      rw [earlier_none, earlier_none]
  | some a, some b, some c =>
      by_cases hab : b.start < a.start
      · by_cases hbc : c.start < b.start
        · simp [earlier, hab, hbc, Nat.lt_trans hbc hab]
        · simp [earlier, hab, hbc]
      · by_cases hbc : c.start < b.start
        · by_cases hac : c.start < a.start <;> simp [earlier, hab, hbc, hac]
        · have hac : ¬ c.start < a.start := by omega
          simp [earlier, hab, hbc, hac]

theorem map_shift_earlier (d : Nat) (a b : Option Span) :
    (earlier a b).map (shift d) = earlier (a.map (shift d)) (b.map (shift d)) := by
  match a, b with
  | none, _ => rfl
  | some a, none => rfl
  | some a, some b =>
      simp only [earlier, Option.map_some, shift, Nat.add_lt_add_iff_left]
      split <;> rfl

theorem map_shift_shift (d e : Nat) (a : Option Span) :
    (a.map (shift e)).map (shift d) = a.map (shift (d + e)) := by
  cases a with
  | none => rfl
  | some a => simp only [Option.map_some, shift, Nat.add_assoc]

theorem map_shift_zero (a : Option Span) : a.map (shift 0) = a := by
  cases a with
  | none => rfl
  | some a => simp only [Option.map_some, shift, Nat.zero_add]

end Span

namespace Matcher

/-! ## A single pass -/

/-- The nonempty first match at or after a place that starts earliest, that of the first such
pattern in the list when several start together. -/
def earliestFrom? (patterns : List Matcher) (t : Text) (place : Nat) : Option Span :=
  patterns.foldl (fun best p => Span.earlier best
    ((p.searchFrom (some place) place (t.take place).reverse (t.drop place)).filter
      (!·.isEmpty))) none

/-- The earliest matches from a place on, each sought where the last one ended. -/
def passFrom (patterns : List Matcher) (t : Text) : (fuel place : Nat) → List Span
  | 0, _ => []
  | fuel + 1, place =>
      match earliestFrom? patterns t place with
      | none => []
      | some m => m :: passFrom patterns t fuel m.stop

/-- The text without the matches of a single pass.  Every match takes a character, so there are at
most as many as it has characters. -/
def onePass (patterns : List Matcher) (t : Text) : Text :=
  without t 0 (passFrom patterns t t.length 0)

/-- Whether stripping takes out a match over the seam that the last one left. -/
def straddlesWithin (patterns : List Matcher) : (fuel seam : Nat) → Text → Bool
  | 0, _, _ => false
  | fuel + 1, seam, t =>
      match earliest? patterns t with
      | none => false
      | some m =>
          (m.start < seam && seam < m.stop) || straddlesWithin patterns fuel m.start (m.cut t)

def straddles (patterns : List Matcher) (t : Text) : Bool :=
  straddlesWithin patterns t.length 0 t

/-! ## The earliest match -/

/-- How far the first of several patterns that matches at the start of a text goes. -/
def firstReach? (patterns : List Matcher) (t : Text) : Option Nat :=
  patterns.findSome? (·.reach? t)

/-- The first place where a pattern matches, up to the end of the match. -/
def scan? (patterns : List Matcher) : Text → Option Span
  | [] => none
  | x :: rest =>
      match firstReach? patterns (x :: rest) with
      | some n => some ⟨0, n⟩
      | none => (scan? patterns rest).map (Span.shift 1)

theorem scan?_cons (p : Matcher) (patterns : List Matcher) (t : Text) :
    scan? (p :: patterns) t = Span.earlier (scan? [p] t) (scan? patterns t) := by
  induction t with
  | nil => rfl
  | cons x rest ih =>
      simp only [scan?, firstReach?, List.findSome?_cons, List.findSome?_nil]
      cases p.reach? (x :: rest) with
      | some n =>
          simp only
          cases patterns.findSome? (·.reach? (x :: rest)) with
          | some n' => rfl
          | none =>
              cases scan? patterns rest with
              | none => rfl
              | some m => rfl
      | none =>
          simp only [ih, Span.map_shift_earlier]
          cases patterns.findSome? (·.reach? (x :: rest)) with
          | some n' =>
              cases scan? [p] rest with
              | none => rfl
              | some m => simp [Span.earlier, Span.shift]
          | none => rfl

variable {openers : List Opener} {patterns : List Matcher}

theorem Opens.reach?_nil {o : Opener} {p : Matcher} (h : Opens o p) : p.reach? [] = none := by
  rw [← Option.not_isSome_iff_eq_none, h.reach?_isSome]
  cases ho : o.text with
  | nil => exact absurd ho h.ne_nil
  | cons x rest => nofun

theorem Opens.searchFrom_eq {o : Opener} {p : Matcher} (h : Opens o p) (origin : Option Nat)
    (pos : Nat) (before rest : Text) :
    p.searchFrom origin pos before rest = (scan? [p] rest).map (Span.shift pos) := by
  induction rest generalizing pos before with
  | nil =>
      rw [searchFrom, matchAt?_of_isForward h.isForward, h.reach?_nil]
      rfl
  | cons x rest ih =>
      rw [searchFrom, matchAt?_of_isForward h.isForward, scan?, firstReach?]
      simp only [List.findSome?_cons, List.findSome?_nil]
      cases p.reach? (x :: rest) with
      | some n => rfl
      | none =>
          simp only [Option.map_none]
          rw [ih, Span.map_shift_shift]

theorem Opens.start_lt_stop {o : Opener} {p : Matcher} (h : Opens o p) {t : Text} {m : Span}
    (hm : scan? [p] t = some m) : m.start < m.stop := by
  induction t generalizing m with
  | nil => cases hm
  | cons x rest ih =>
      simp only [scan?, firstReach?, List.findSome?_cons, List.findSome?_nil] at hm
      cases hreach : p.reach? (x :: rest) with
      | some n =>
          rw [hreach] at hm
          obtain rfl := Option.some.inj hm
          have hle := h.length_le _ n hreach
          have hpos := List.length_pos_iff.mpr h.ne_nil
          exact Nat.lt_of_lt_of_le hpos hle
      | none =>
          rw [hreach] at hm
          obtain ⟨m', hm', rfl⟩ := Option.map_eq_some_iff.mp hm
          exact Nat.add_lt_add_left (ih hm') 1

theorem Opens.filter_searchFrom {o : Opener} {p : Matcher} (h : Opens o p) (origin : Option Nat)
    (pos : Nat) (before rest : Text) :
    (p.searchFrom origin pos before rest).filter (!·.isEmpty) =
      (scan? [p] rest).map (Span.shift pos) := by
  rw [h.searchFrom_eq]
  cases hscan : scan? [p] rest with
  | none => rfl
  | some m =>
      have hlt := h.start_lt_stop hscan
      have hnonempty : (m.shift pos).isEmpty = false :=
        beq_eq_false_iff_ne.mpr (Nat.ne_of_lt (Nat.add_lt_add_left hlt pos))
      rw [Option.map_some, Option.filter_some, hnonempty]
      rfl

theorem scan?_nil (t : Text) : scan? [] t = none := by
  induction t with
  | nil => rfl
  | cons x rest ih =>
      rw [scan?, ih]
      rfl

theorem earliestFrom?_eq (h : Forall₂ Opens openers patterns) (t : Text) (place : Nat) :
    earliestFrom? patterns t place =
      (scan? patterns (t.drop place)).map (Span.shift place) := by
  have hfold : ∀ best : Option Span, patterns.foldl (fun best p => Span.earlier best
      ((p.searchFrom (some place) place (t.take place).reverse (t.drop place)).filter
        (!·.isEmpty))) best =
      Span.earlier best ((scan? patterns (t.drop place)).map (Span.shift place)) := by
    induction h with
    | nil =>
        intro best
        rw [scan?_nil]
        exact (Span.earlier_none best).symm
    | cons hp _ ih =>
        intro best
        rw [List.foldl_cons, ih, scan?_cons, Span.map_shift_earlier, ← Span.earlier_assoc,
          hp.filter_searchFrom]
  exact hfold none

/-- A pass starts with the match that stripping takes out first. -/
theorem earliest?_eq_earliestFrom? (patterns : List Matcher) (t : Text) :
    earliest? patterns t = earliestFrom? patterns t 0 := by
  unfold earliest? earliestFrom?
  congr 1
  funext best p
  change (match p.find? t with | none => _ | some m => _) =
    Span.earlier best ((p.find? t).filter (!·.isEmpty))
  cases p.find? t with
  | none => exact (Span.earlier_none best).symm
  | some m =>
      rw [Option.filter_some]
      cases hempty : m.isEmpty with
      | true =>
          simp only [hempty, if_true]
          exact (Span.earlier_none best).symm
      | false =>
          simp only [hempty]
          cases best <;> rfl

theorem earliest?_eq (h : Forall₂ Opens openers patterns) (t : Text) :
    earliest? patterns t = scan? patterns t := by
  rw [earliest?_eq_earliestFrom?, earliestFrom?_eq h, Span.map_shift_zero]
  rfl

/-! ## Places without an opening text -/

/-- No opening text stands at an offset below `n`. -/
def Unopened (openers : List Opener) (t : Text) (n : Nat) : Prop :=
  ∀ s < n, ∀ o ∈ openers, ¬ o.text <+: t.drop s

theorem firstReach?_eq_none (h : Forall₂ Opens openers patterns) {t : Text} :
    firstReach? patterns t = none ↔ ∀ o ∈ openers, ¬ o.text <+: t := by
  induction h with
  | nil => simp [firstReach?]
  | cons hp _ ih =>
      rename_i o p _ _ _
      have hreach : p.reach? t = none ↔ ¬ o.text <+: t := by
        rw [← Option.not_isSome_iff_eq_none, hp.reach?_isSome, List.isPrefixOf_iff_prefix]
      rw [firstReach?, List.findSome?_eq_none_iff, List.forall_mem_cons, List.forall_mem_cons,
        hreach, ← List.findSome?_eq_none_iff, ← firstReach?, ih]

theorem exists_of_firstReach? (h : Forall₂ Opens openers patterns) {t : Text} {n : Nat}
    (hn : firstReach? patterns t = some n) : ∃ o ∈ openers, o.text <+: t ∧
      o.text.length ≤ n ∧ n ≤ t.length ∧
        (o.toLineEnd = true → ∀ x ∈ (t.drop n).head?, x = '\n') := by
  induction h with
  | nil => cases hn
  | cons hp _ ih =>
      rename_i o p _ _ _
      rw [firstReach?, List.findSome?_cons] at hn
      cases hreach : p.reach? t with
      | some m =>
          rw [hreach] at hn
          obtain rfl := Option.some.inj hn
          have hopen : o.text <+: t := by
            rw [← List.isPrefixOf_iff_prefix, ← hp.reach?_isSome, hreach]
            rfl
          exact ⟨o, List.mem_cons_self, hopen, hp.length_le t m hreach,
            (exists_of_reach? hp.isForward hreach).1, fun hend => hp.newline hend t m hreach⟩
      | none =>
          rw [hreach] at hn
          obtain ⟨o', ho', hfacts⟩ := ih hn
          exact ⟨o', List.mem_cons_of_mem o ho', hfacts⟩

theorem unopened_of_scan?_none (h : Forall₂ Opens openers patterns) {t : Text}
    (hscan : scan? patterns t = none) : Unopened openers t t.length := by
  induction t with
  | nil => exact fun s hs => absurd hs (Nat.not_lt_zero s)
  | cons x rest ih =>
      rw [scan?] at hscan
      split at hscan
      · cases hscan
      · rename_i hfirst
        intro s hs
        cases s with
        | zero => exact (firstReach?_eq_none h).mp hfirst
        | succ s => exact ih (Option.map_eq_none_iff.mp hscan) s (Nat.lt_of_succ_lt_succ hs)

/-- A match is found at the first place where an opening text stands. -/
theorem exists_of_scan? (h : Forall₂ Opens openers patterns) {t : Text} {m : Span}
    (hscan : scan? patterns t = some m) : m.start ≤ t.length ∧ Unopened openers t m.start ∧
      ∃ n, firstReach? patterns (t.drop m.start) = some n ∧ m.stop = m.start + n := by
  induction t generalizing m with
  | nil => cases hscan
  | cons x rest ih =>
      rw [scan?] at hscan
      split at hscan
      · rename_i n hfirst
        obtain rfl := Option.some.inj hscan
        exact ⟨Nat.zero_le _, fun s hs => absurd hs (Nat.not_lt_zero s), n, hfirst,
          (Nat.zero_add n).symm⟩
      · rename_i hfirst
        obtain ⟨m, hm, rfl⟩ := Option.map_eq_some_iff.mp hscan
        obtain ⟨hstart, hunopened, n, hn, hstop⟩ := ih hm
        refine ⟨?_, ?_, n, ?_, ?_⟩
        · change 1 + m.start ≤ rest.length + 1
          omega
        · intro s hs
          cases s with
          | zero => exact (firstReach?_eq_none h).mp hfirst
          | succ s =>
              change s + 1 < 1 + m.start at hs
              exact hunopened s (by omega)
        · change firstReach? patterns ((x :: rest).drop (1 + m.start)) = some n
          rw [Nat.add_comm, List.drop_succ_cons]
          exact hn
        · change 1 + m.stop = 1 + m.start + n
          omega

theorem scan?_append (h : Forall₂ Opens openers patterns) {kept rest : Text}
    (hkept : Unopened openers (kept ++ rest) kept.length) :
    scan? patterns (kept ++ rest) = (scan? patterns rest).map (Span.shift kept.length) := by
  induction kept with
  | nil => exact (Span.map_shift_zero _).symm
  | cons x kept ih =>
      have hfirst : firstReach? patterns (x :: (kept ++ rest)) = none :=
        (firstReach?_eq_none h).mpr (hkept 0 (Nat.succ_pos _))
      have hmore : Unopened openers (kept ++ rest) kept.length :=
        fun s hs => hkept (s + 1) (Nat.succ_lt_succ hs)
      rw [List.cons_append, scan?, hfirst]
      simp only
      rw [ih hmore, Span.map_shift_shift, List.length_cons, Nat.add_comm]

theorem unopened_take {t : Text} {n : Nat} (h : Unopened openers t n) :
    Unopened openers (t.take n) n := by
  intro s hs o ho hprefix
  apply h s hs o ho
  rw [List.drop_take] at hprefix
  exact hprefix.trans (List.take_prefix _ _)

/-! ## Stripping as a single pass -/

/-- A match that starts in the text that is kept straddles the seam behind it, since no opening
text stands in what is kept. -/
theorem length_le_start (h : Forall₂ Opens openers patterns) {kept rest : Text} {m : Span}
    (hkept : Unopened openers kept kept.length) (hscan : scan? patterns (kept ++ rest) = some m)
    (hstraddles : ¬ (m.start < kept.length ∧ kept.length < m.stop)) :
    kept.length ≤ m.start := by
  rw [← Nat.not_lt]
  intro hlt
  obtain ⟨-, -, n, hn, hstop⟩ := exists_of_scan? h hscan
  obtain ⟨o, ho, hprefix, hlength, -⟩ := exists_of_firstReach? h hn
  refine hkept m.start hlt o ho ?_
  rw [List.drop_append_of_le_length (Nat.le_of_lt hlt)] at hprefix
  apply List.prefix_of_prefix_length_le hprefix (List.prefix_append _ _)
  rw [List.length_drop]
  omega

/-- A match behind the text that is kept is one of the rest, and what is kept with what stands
before it has no opening text either. -/
theorem exists_scan?_rest (h : Forall₂ Opens openers patterns) {kept rest : Text} {m : Span}
    (hscan : scan? patterns (kept ++ rest) = some m) (hstart : kept.length ≤ m.start) :
    ∃ m', scan? patterns rest = some m' ∧ m = m'.shift kept.length ∧
      (kept ++ rest.take m'.start).length = m.start ∧
        Unopened openers (kept ++ rest.take m'.start) m.start := by
  obtain ⟨-, hunopened, -⟩ := exists_of_scan? h hscan
  have hbefore : Unopened openers (kept ++ rest) kept.length :=
    fun s hs => hunopened s (Nat.lt_of_lt_of_le hs hstart)
  rw [scan?_append h hbefore, Option.map_eq_some_iff] at hscan
  obtain ⟨m', hm', rfl⟩ := hscan
  obtain ⟨hinside, -⟩ := exists_of_scan? h hm'
  refine ⟨m', hm', rfl, ?_, ?_⟩
  · rw [List.length_append, List.length_take, Nat.min_eq_left hinside]
    rfl
  · rw [← List.take_length_add_append]
    exact unopened_take hunopened

theorem cut_shift (kept rest : Text) (m : Span) :
    (m.shift kept.length).cut (kept ++ rest) =
      (kept ++ rest.take m.start) ++ rest.drop m.stop := by
  rw [Span.cut, Span.shift, List.take_length_add_append, List.drop_length_add_append]

/-- Stripping what has been kept and what is left is a single pass over what is left, as long as no
match straddles the seam between them. -/
theorem stripWithin_eq (h : Forall₂ Opens openers patterns) (fuel : Nat) (t kept : Text)
    (place : Nat) (hkept : Unopened openers kept kept.length)
    (hstraddles : straddlesWithin patterns fuel kept.length (kept ++ t.drop place) = false) :
    stripWithin patterns fuel (kept ++ t.drop place) =
      kept ++ without t place (passFrom patterns t fuel place) := by
  induction fuel generalizing kept place with
  | zero => rfl
  | succ fuel ih =>
      rw [straddlesWithin, earliest?_eq h] at hstraddles
      rw [stripWithin, passFrom, earliest?_eq h, earliestFrom?_eq h]
      cases hscan : scan? patterns (kept ++ t.drop place) with
      | none =>
          have hnone := unopened_of_scan?_none h hscan
          rw [scan?_append h fun s hs => hnone s (by rw [List.length_append]; omega),
            Option.map_eq_none_iff] at hscan
          rw [hscan]
          rfl
      | some m =>
          rw [hscan] at hstraddles
          simp only [Bool.or_eq_false_iff, Bool.and_eq_false_iff, decide_eq_false_iff_not,
            ← not_and_or] at hstraddles
          obtain ⟨hseam, hstraddles⟩ := hstraddles
          have hstart := length_le_start h hkept hscan hseam
          obtain ⟨m', hm', rfl, hlength, hunopened⟩ := exists_scan?_rest h hscan hstart
          rw [← hlength] at hstraddles hunopened
          rw [cut_shift, List.drop_drop] at hstraddles
          simp only [hm', Option.map_some]
          rw [cut_shift, List.drop_drop, ih _ _ hunopened hstraddles, without, List.append_assoc]
          congr 3
          exact (Nat.add_sub_cancel_left _ _).symm

theorem unopened_nil (openers : List Opener) (t : Text) : Unopened openers t 0 :=
  fun s hs => absurd hs (Nat.not_lt_zero s)

theorem strip_eq_onePass (h : Forall₂ Opens openers patterns) {t : Text}
    (hstraddles : straddles patterns t = false) : strip patterns t = onePass patterns t :=
  stripWithin_eq h t.length t [] 0 (unopened_nil openers []) hstraddles

/-! ## Seams -/

/-- Whatever the last match left out, no opening text can start before it and end behind it:
either the match ran to the end of its line, or the start of that text together with the start of
the match would have been an opening text already. -/
def Seamless (openers : List Opener) : Prop :=
  ∀ o ∈ openers, '\n' ∉ o.text ∧ ∀ k < o.text.length, 0 < k → ∀ m ∈ openers,
    m.toLineEnd = true ∨
      ∃ i < k, ∃ n ∈ openers, n.text <+: (o.text.take k ++ m.text).drop i

instance (openers : List Opener) : Decidable (Seamless openers) :=
  inferInstanceAs (Decidable (∀ o ∈ openers, '\n' ∉ o.text ∧ ∀ k < o.text.length, 0 < k →
    ∀ m ∈ openers, m.toLineEnd = true ∨
      ∃ i < k, ∃ n ∈ openers, n.text <+: (o.text.take k ++ m.text).drop i))

/-- A text that starts before a seam and ends behind it is in two parts. -/
theorem exists_of_prefix_append {l u r : Text} (h : l <+: u ++ r) (hlength : u.length < l.length) :
    l.take u.length = u ∧ l.drop u.length ≠ [] ∧ l.drop u.length <+: r := by
  obtain ⟨v, rfl⟩ := List.prefix_of_prefix_length_le (List.prefix_append u r) h
    (Nat.le_of_lt hlength)
  rw [List.prefix_append_right_inj] at h
  rw [List.length_append] at hlength
  refine ⟨List.take_left' rfl, ?_, ?_⟩
  · rw [List.drop_left]
    rintro rfl
    exact Nat.lt_irrefl _ hlength
  · rw [List.drop_left]
    exact h

theorem Seamless.unopened_cut (hseamless : Seamless openers) (h : Forall₂ Opens openers patterns)
    {t : Text} {m : Span} (hscan : scan? patterns t = some m) :
    Unopened openers (m.cut t) m.start := by
  obtain ⟨hinside, hunopened, n, hn, hstop⟩ := exists_of_scan? h hscan
  obtain ⟨last, hlast, hopen, -, -, hline⟩ := exists_of_firstReach? h hn
  rw [List.drop_drop, ← hstop] at hline
  intro s hs o ho hprefix
  -- what is kept from the offset to the seam
  obtain ⟨u, hu⟩ : ∃ u, u = (t.take m.start).drop s := ⟨_, rfl⟩
  have hlength : u.length = m.start - s := by
    rw [hu, List.length_drop, List.length_take, Nat.min_eq_left hinside]
  have hrest : t.drop s = u ++ t.drop m.start := by
    rw [hu, ← List.drop_append_of_le_length (by rw [List.length_take]; omega),
      List.take_append_drop]
  rw [Span.cut, List.drop_append_of_le_length (by rw [List.length_take]; omega), ← hu]
    at hprefix
  by_cases hwhole : o.text.length ≤ u.length
  · apply hunopened s hs o ho
    rw [hrest]
    exact (List.prefix_of_prefix_length_le hprefix (List.prefix_append _ _) hwhole).trans
      (List.prefix_append _ _)
  · obtain ⟨htake, hne, hdrop⟩ := exists_of_prefix_append hprefix (Nat.not_le.mp hwhole)
    obtain ⟨hnewline, hseam⟩ := hseamless o ho
    obtain hend | ⟨i, hi, o', ho', hprefix'⟩ :=
      hseam u.length (Nat.not_le.mp hwhole) (by omega) last hlast
    · obtain ⟨x, v, hv⟩ := List.exists_cons_of_ne_nil hne
      rw [hv] at hdrop
      obtain ⟨w, hw⟩ := hdrop
      obtain rfl : x = '\n' := hline hend x (by rw [← hw]; rfl)
      exact hnewline (List.mem_of_mem_drop (hv ▸ List.mem_cons_self))
    · apply hunopened (s + i) (by omega) o' ho'
      rw [htake] at hprefix'
      rw [← List.drop_drop, hrest]
      have hboth : u ++ last.text <+: u ++ t.drop m.start :=
        (List.prefix_append_right_inj u).mpr hopen
      exact hprefix'.trans (hboth.drop i)

theorem Seamless.straddlesWithin_eq_false (hseamless : Seamless openers)
    (h : Forall₂ Opens openers patterns) (fuel : Nat) {seam : Nat} {t : Text}
    (ht : Unopened openers t seam) : straddlesWithin patterns fuel seam t = false := by
  induction fuel generalizing seam t with
  | zero => rfl
  | succ fuel ih =>
      rw [straddlesWithin, earliest?_eq h]
      cases hscan : scan? patterns t with
      | none => rfl
      | some m =>
          obtain ⟨-, -, n, hn, -⟩ := exists_of_scan? h hscan
          obtain ⟨o, ho, hopen, -⟩ := exists_of_firstReach? h hn
          have hstart : ¬ m.start < seam := fun hlt => ht m.start hlt o ho hopen
          simp only [hstart, decide_false, Bool.false_and, Bool.false_or]
          exact ih (hseamless.unopened_cut h hscan)

/-- Where opening texts cannot meet across a gap, nothing straddles one, and stripping is a single
pass. -/
theorem Seamless.strip_eq_onePass (hseamless : Seamless openers)
    (h : Forall₂ Opens openers patterns) (t : Text) :
    straddles patterns t = false ∧ strip patterns t = onePass patterns t := by
  have hstraddles : straddles patterns t = false :=
    hseamless.straddlesWithin_eq_false h t.length (unopened_nil openers t)
  exact ⟨hstraddles, Matcher.strip_eq_onePass h hstraddles⟩

end Matcher

end BlockOrder
