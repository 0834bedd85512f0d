import BlockOrder.Proofs.Text.Case
import Mathlib.Data.List.Nodup

/-!
# Characters that differ in case only

Most characters with the same lower case are a capital and its small letter, so that just one of
them is upper case.  The exceptions are the titlecase letters, which are not upper case, and a few
capitals whose small letter belongs to another capital, too.  To compare the tables, sets of code
points are represented by the bits of a number.
-/

namespace BlockOrder

/-! ## Sets of code points -/

/-- The number whose bits are set at the given places. -/
def bitsOf (places : List Nat) : Nat := places.foldr (fun n bits => bits ||| 1 <<< n) 0

theorem testBit_or_one_shiftLeft (bits m n : Nat) :
    (bits ||| 1 <<< m).testBit n = (bits.testBit n || decide (n = m)) := by
  rw [Nat.testBit_or, Nat.shiftLeft_eq, Nat.one_mul, Nat.testBit_two_pow]
  simp only [eq_comm]

theorem testBit_bitsOf (places : List Nat) (n : Nat) :
    (bitsOf places).testBit n = true ↔ n ∈ places := by
  induction places with
  | nil => simp [bitsOf]
  | cons m rest ih =>
      change (bitsOf rest ||| 1 <<< m).testBit n = true ↔ _
      rw [testBit_or_one_shiftLeft, Bool.or_eq_true, ih, decide_eq_true_eq, List.mem_cons, or_comm]

/-- Whether each place in turn sets a bit that was clear. -/
def setsClearBits (bits : Nat) : List Nat → Bool
  | [] => true
  | n :: rest => !bits.testBit n && setsClearBits (bits ||| 1 <<< n) rest

theorem setsClearBits_iff (bits : Nat) (places : List Nat) :
    setsClearBits bits places = true ↔
      places.Nodup ∧ ∀ n ∈ places, bits.testBit n = false := by
  induction places generalizing bits with
  | nil => simp [setsClearBits]
  | cons m rest ih =>
      simp only [setsClearBits, Bool.and_eq_true, Bool.not_eq_true', ih, testBit_or_one_shiftLeft,
        Bool.or_eq_false_iff, decide_eq_false_iff_not, List.nodup_cons, List.forall_mem_cons]
      constructor
      · rintro ⟨hm, hrest, hbits⟩
        exact ⟨⟨fun hmem => (hbits m hmem).2 rfl, hrest⟩, hm, fun n hn => (hbits n hn).1⟩
      · rintro ⟨⟨hmem, hrest⟩, hm, hbits⟩
        exact ⟨hm, hrest, fun n hn => ⟨hbits n hn, fun h => hmem (h ▸ hn)⟩⟩

/-! ## Capitals -/

def capitalRuns : List Run := ⟨0x41, 0x5A, 1⟩ :: uppercaseRuns

def capitals : List Nat := capitalRuns.flatMap Run.members

theorem uppercaseRuns_wide : ∀ r ∈ uppercaseRuns, 0x80 ≤ r.first ∧ r.first ≤ r.last := by
  decide +kernel

theorem Run.contains_of_mem_members {r : Run} (hr : r.first ≤ r.last) {n : Nat}
    (h : n ∈ r.members) : r.contains n = true := by
  obtain ⟨i, hi, rfl⟩ := List.mem_range'.mp h
  have hmul : r.step * i ≤ r.last - r.first :=
    Nat.le_trans (Nat.mul_le_mul_left _ (Nat.le_of_lt_succ hi)) (Nat.mul_div_le _ _)
  have hlast : r.first + r.step * i ≤ r.last := by omega
  simp [contains, hlast]

theorem mem_capitals {n : Nat} : n ∈ capitals ↔ ∃ r ∈ capitalRuns, r.contains n = true := by
  rw [capitals, List.mem_flatMap]
  constructor
  · rintro ⟨r, hr, hn⟩
    have hle : r.first ≤ r.last := by
      rcases List.mem_cons.mp hr with rfl | hr
      · decide
      · exact (uppercaseRuns_wide r hr).2
    exact ⟨r, hr, Run.contains_of_mem_members hle hn⟩
  · rintro ⟨r, hr, hn⟩
    exact ⟨r, hr, Run.mem_members hn⟩

theorem isUppercase_iff_mem_capitals (c : Char) : isUppercase c = true ↔ c.toNat ∈ capitals := by
  rw [mem_capitals, capitalRuns, List.exists_mem_cons_iff]
  have hascii : Run.contains ⟨0x41, 0x5A, 1⟩ c.toNat = true ↔
      0x41 ≤ c.toNat ∧ c.toNat ≤ 0x5A := by
    simp [Run.contains, Nat.mod_one]
  rw [hascii]
  by_cases hc : c.toNat < 0x80
  · rw [isUppercase_iff hc]
    constructor
    · exact .inl
    · rintro (h | ⟨r, hr, hcontains⟩)
      · exact h
      · have hwide := (uppercaseRuns_wide r hr).1
        simp only [Run.contains, Bool.and_eq_true, decide_eq_true_eq] at hcontains
        omega
  · rw [isUppercase, if_neg hc, List.any_eq_true]
    constructor
    · exact .inr
    · rintro (h | h)
      · omega
      · exact h

/-! ## Pairs of a capital and its small letter -/

/-- The titlecase letters, each for two letters of which only the first is a capital. -/
def titlecase : List Nat :=
  [0x1C5, 0x1C8, 0x1CB, 0x1F2] ++ List.range' 0x1F88 8 ++ List.range' 0x1F98 8 ++
    List.range' 0x1FA8 8 ++ [0x1FBC, 0x1FCC, 0x1FFC]

/-- The capitals whose small letter is that of a more common one: a dotted I, a theta, and the
signs for ohm, kelvin and ångström. -/
def spareCapitals : List Nat := [0x130, 0x3F4, 0x2126, 0x212A, 0x212B]

/-- A character that leaves open which of two characters is the capital. -/
def IsAmbiguous (c : Char) : Prop := c.toNat ∈ titlecase ++ spareCapitals

instance : DecidablePred IsAmbiguous :=
  fun c => inferInstanceAs (Decidable (c.toNat ∈ titlecase ++ spareCapitals))

/-- The code points that change in lower case, with their lower case. -/
def casePairs : List (Nat × Nat) :=
  caseShifts.flatMap fun r => r.run.members.map fun n => (n, r.image n)

def clearPairs : List (Nat × Nat) :=
  casePairs.filter fun p => !(bitsOf (titlecase ++ spareCapitals)).testBit p.1

theorem clearPairs_setsClearBits : setsClearBits 0 (clearPairs.map Prod.snd) = true := by
  decide +kernel

theorem clearPairs_capital :
    (clearPairs.all fun p =>
      (bitsOf capitals).testBit p.1 && !(bitsOf capitals).testBit p.2) = true := by
  decide +kernel

theorem mem_clearPairs {c : Char} (hc : ¬ IsAmbiguous c) (h : lowerFirst c ≠ c) :
    (c.toNat, (lowerFirst c).toNat) ∈ clearPairs := by
  obtain ⟨r, hr, hcontains, himage⟩ := exists_mem_caseShifts h
  refine List.mem_filter.mpr ⟨?_, ?_⟩
  · rw [himage]
    exact List.mem_flatMap.mpr ⟨r, hr, List.mem_map.mpr ⟨_, Run.mem_members hcontains, rfl⟩⟩
  · rw [Bool.not_eq_true', Bool.eq_false_iff]
    intro hbit
    exact hc ((testBit_bitsOf _ _).mp hbit)

theorem isUppercase_of_lowerFirst_ne {c : Char} (hc : ¬ IsAmbiguous c) (h : lowerFirst c ≠ c) :
    isUppercase c = true ∧ isUppercase (lowerFirst c) = false := by
  have hcapital := List.all_eq_true.mp clearPairs_capital _ (mem_clearPairs hc h)
  rw [Bool.and_eq_true, Bool.not_eq_true', testBit_bitsOf, Bool.eq_false_iff, ne_eq,
    testBit_bitsOf] at hcapital
  rw [Bool.eq_false_iff, ne_eq, isUppercase_iff_mem_capitals, isUppercase_iff_mem_capitals]
  exact hcapital

theorem eq_of_lowerFirst_eq {x y : Char} (hx : ¬ IsAmbiguous x) (hy : ¬ IsAmbiguous y)
    (hx' : lowerFirst x ≠ x) (hy' : lowerFirst y ≠ y) (h : lowerFirst x = lowerFirst y) :
    x = y := by
  have hnodup := ((setsClearBits_iff _ _).mp clearPairs_setsClearBits).1
  have hpair := List.inj_on_of_nodup_map hnodup (mem_clearPairs hx hx') (mem_clearPairs hy hy')
    (congrArg Char.toNat h)
  exact Char.toNat_inj.mp (congrArg Prod.fst hpair)

/-- Of two characters that differ in case only, just one is upper case. -/
theorem isUppercase_ne_of_lowerFirst_eq {x y : Char} (hx : ¬ IsAmbiguous x)
    (hy : ¬ IsAmbiguous y) (hne : x ≠ y) (h : lowerFirst x = lowerFirst y) :
    isUppercase x ≠ isUppercase y := by
  by_cases hx' : lowerFirst x = x
  · have hy' : lowerFirst y ≠ y := fun hy' => hne (hx'.symm.trans (h.trans hy'))
    obtain ⟨hupper, hlower⟩ := isUppercase_of_lowerFirst_ne hy hy'
    rw [← h, hx'] at hlower
    simp [hupper, hlower]
  · obtain ⟨hupper, hlower⟩ := isUppercase_of_lowerFirst_ne hx hx'
    by_cases hy' : lowerFirst y = y
    · rw [h, hy'] at hlower
      simp [hupper, hlower]
    · exact absurd (eq_of_lowerFirst_eq hx hy hx' hy' h) hne

/-- An ambiguous character together with one of the same lower case, either both upper case or
neither: the small letter of a titlecase letter, the common capital of a spare one. -/
theorem IsAmbiguous.exists_lowerFirst_eq {c : Char} (hc : IsAmbiguous c) :
    ∃ d, c ≠ d ∧ lowerFirst c = lowerFirst d ∧ isUppercase c = isUppercase d := by
  have htitlecase : ∀ n ∈ titlecase, Char.ofNat n ≠ lowerFirst (Char.ofNat n) ∧
      lowerFirst (Char.ofNat n) = lowerFirst (lowerFirst (Char.ofNat n)) ∧
        isUppercase (Char.ofNat n) = isUppercase (lowerFirst (Char.ofNat n)) := by
    decide +kernel
  have hspare : ∀ n ∈ spareCapitals,
      Char.ofNat n ≠ upperFirst (lowerFirst (Char.ofNat n)) ∧
        lowerFirst (Char.ofNat n) = lowerFirst (upperFirst (lowerFirst (Char.ofNat n))) ∧
          isUppercase (Char.ofNat n) =
            isUppercase (upperFirst (lowerFirst (Char.ofNat n))) := by
    decide +kernel
  rw [← Char.ofNat_toNat c]
  rcases List.mem_append.mp hc with h | h
  · exact ⟨_, htitlecase _ h⟩
  · exact ⟨_, hspare _ h⟩

end BlockOrder
