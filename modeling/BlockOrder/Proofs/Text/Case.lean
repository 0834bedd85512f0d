import BlockOrder.Text.Blank
import BlockOrder.Text.Case
import BlockOrder.Text.Letter

/-!
# Letters and their cases

A character that is not its own lower case is a letter, and its lower case is one, too.  The
tables are compared run by run: most runs of the case table lie in one range of letters, and so
do their images.
-/

namespace BlockOrder

/-- Whether one of the ranges holds all code points from `a` to `b`. -/
def covers : List (Nat × Nat) → (a b : Nat) → Bool
  | [], _, _ => false
  | r :: rest, a, b => Nat.ble r.1 a && (Nat.ble b r.2 || covers rest a b)

theorem inRanges_eq_covers (ranges : List (Nat × Nat)) (n : Nat) :
    inRanges ranges n = covers ranges n n := by
  induction ranges with
  | nil => rfl
  | cons r rest ih =>
      obtain ⟨lo, hi⟩ := r
      rw [inRanges, covers, ih, Bool.eq_iff_iff]
      by_cases h : n < lo
      · simp [h, Nat.not_le.mpr h]
      · simp [h, Nat.not_lt.mp h]

theorem covers_mono {ranges : List (Nat × Nat)} {a b n : Nat} (h : covers ranges a b = true)
    (ha : a ≤ n) (hb : n ≤ b) : covers ranges n n = true := by
  induction ranges with
  | nil => cases h
  | cons r rest ih =>
      simp only [covers, Bool.and_eq_true, Bool.or_eq_true, Nat.ble_eq] at h ⊢
      obtain ⟨hlo, hhi | hrest⟩ := h
      · exact ⟨Nat.le_trans hlo ha, .inl (Nat.le_trans hb hhi)⟩
      · exact ⟨Nat.le_trans hlo ha, .inr (ih hrest)⟩

theorem isAlphanumeric_eq_covers {c : Char} (hc : 0x80 ≤ c.toNat) :
    isAlphanumeric c = (covers alphabetics c.toNat c.toNat ||
      covers decimalDigits c.toNat c.toNat || covers otherNumbers c.toNat c.toNat ||
        covers laterLetters c.toNat c.toNat) := by
  rw [isAlphanumeric, if_neg (Nat.not_lt.mpr hc)]
  simp only [inRanges_eq_covers]

theorem le_iff_toNat_le (a b : Char) : a ≤ b ↔ a.toNat ≤ b.toNat := UInt32.le_iff_toNat_le

theorem toNat_ofNat_of_isValidChar {n : Nat} (h : n.isValidChar) : (Char.ofNat n).toNat = n := by
  rw [Char.ofNat, dif_pos h]
  rfl

/-! ## ASCII -/

theorem isAsciiLetter_iff (c : Char) : isAsciiLetter c = true ↔
    (0x61 ≤ c.toNat ∧ c.toNat ≤ 0x7A) ∨ (0x41 ≤ c.toNat ∧ c.toNat ≤ 0x5A) := by
  simp [isAsciiLetter, le_iff_toNat_le]

theorem isAsciiDigit_iff (c : Char) :
    isAsciiDigit c = true ↔ 0x30 ≤ c.toNat ∧ c.toNat ≤ 0x39 := by
  simp [isAsciiDigit, le_iff_toNat_le]

theorem isUppercase_iff {c : Char} (hc : c.toNat < 0x80) :
    isUppercase c = true ↔ 0x41 ≤ c.toNat ∧ c.toNat ≤ 0x5A := by
  simp [isUppercase, hc, le_iff_toNat_le]

theorem toNat_lowerFirst {c : Char} (hc : c.toNat < 0x80) :
    (lowerFirst c).toNat =
      if 0x41 ≤ c.toNat ∧ c.toNat ≤ 0x5A then c.toNat + 32 else c.toNat := by
  rw [lowerFirst, if_pos hc, asciiLower, apply_ite Char.toNat,
    toNat_ofNat_of_isValidChar (.inl (by omega))]
  simp [le_iff_toNat_le]

/-! ## White space is no letter -/

def wideBlanks : List Nat :=
  [0x85, 0xA0, 0x1680, 0x2000, 0x2001, 0x2002, 0x2003, 0x2004, 0x2005, 0x2006, 0x2007, 0x2008,
    0x2009, 0x200A, 0x2028, 0x2029, 0x202F, 0x205F, 0x3000]

theorem isAlphanumeric_of_isBlankChar {c : Char} (h : isBlankChar c = true) :
    isAlphanumeric c = false := by
  unfold isBlankChar at h
  by_cases hc : c.toNat < 0x80
  · simp only [hc, if_true, Bool.or_eq_true, Bool.and_eq_true, beq_iff_eq,
      decide_eq_true_eq] at h
    rw [isAlphanumeric, if_pos hc, Bool.eq_false_iff, ne_eq, Bool.or_eq_true, isAsciiLetter_iff,
      isAsciiDigit_iff]
    omega
  · have hmem : c.toNat ∈ wideBlanks := by
      simp only [hc, if_false, Bool.or_eq_true, Bool.and_eq_true, beq_iff_eq,
        decide_eq_true_eq] at h
      simp only [wideBlanks, List.mem_cons, List.not_mem_nil, or_false]
      omega
    have hnone : ∀ n ∈ wideBlanks, (covers alphabetics n n || covers decimalDigits n n ||
        covers otherNumbers n n || covers laterLetters n n) = false := by
      decide +kernel
    rw [isAlphanumeric_eq_covers (Nat.not_lt.mp hc)]
    exact hnone _ hmem

/-! ## Cased characters are letters -/

/-- Whether all code points from `a` to `b` are those of letters, of ASCII or beyond. -/
def lettersBetween (a b : Nat) : Bool :=
  covers [(0x41, 0x5A), (0x61, 0x7A)] a b ||
    (Nat.ble 0x80 a && (Nat.ble b 0xD7FF || Nat.ble 0xE000 a && Nat.ble b 0x10FFFF) &&
      (covers alphabetics a b || covers laterLetters a b))

theorem lettersBetween_mono {a b n : Nat} (h : lettersBetween a b = true) (ha : a ≤ n)
    (hb : n ≤ b) : lettersBetween n n = true := by
  simp only [lettersBetween, Bool.and_eq_true, Bool.or_eq_true, Nat.ble_eq] at h ⊢
  rcases h with h | ⟨hvalid, h | h⟩
  · exact .inl (covers_mono h ha hb)
  · exact .inr ⟨by omega, .inl (covers_mono h ha hb)⟩
  · exact .inr ⟨by omega, .inr (covers_mono h ha hb)⟩

/-- A letter, and in particular no digit that may be part of a number. -/
structure IsLetter (c : Char) : Prop where
  alphanumeric : isAlphanumeric c = true
  notDigit : isAsciiDigit c = false

theorem toNat_ofNat_of_lettersBetween {n : Nat} (h : lettersBetween n n = true) :
    (Char.ofNat n).toNat = n := by
  apply toNat_ofNat_of_isValidChar
  simp only [lettersBetween, Bool.and_eq_true, Bool.or_eq_true, Nat.ble_eq] at h
  simp only [Nat.isValidChar]
  rcases h with h | ⟨⟨-, hvalid⟩, -⟩
  · simp only [covers, Bool.and_eq_true, Bool.or_eq_true, Nat.ble_eq, Bool.false_eq_true,
      or_false] at h
    omega
  · omega

theorem isLetter_of_lettersBetween {c : Char} (h : lettersBetween c.toNat c.toNat = true) :
    IsLetter c := by
  simp only [lettersBetween, Bool.and_eq_true, Bool.or_eq_true, Nat.ble_eq] at h
  rcases h with h | ⟨⟨hwide, -⟩, h⟩
  · simp only [covers, Bool.and_eq_true, Bool.or_eq_true, Nat.ble_eq, Bool.false_eq_true,
      or_false] at h
    constructor
    · rw [isAlphanumeric, if_pos (by omega), Bool.or_eq_true, isAsciiLetter_iff]
      omega
    · rw [Bool.eq_false_iff, ne_eq, isAsciiDigit_iff]
      omega
  · constructor
    · rw [isAlphanumeric_eq_covers hwide]
      rcases h with h | h <;> simp [h]
    · rw [Bool.eq_false_iff, ne_eq, isAsciiDigit_iff]
      omega

/-- The code points of a run. -/
def Run.members (r : Run) : List Nat :=
  List.range' r.first ((r.last - r.first) / r.step + 1) r.step

theorem Run.mem_members {r : Run} {n : Nat} (h : r.contains n = true) : n ∈ r.members := by
  simp only [contains, Bool.and_eq_true, decide_eq_true_eq, beq_iff_eq] at h
  obtain ⟨⟨hfirst, hlast⟩, hstep⟩ := h
  refine List.mem_range'.mpr ⟨(n - r.first) / r.step, ?_, ?_⟩
  · exact Nat.lt_succ_of_le (Nat.div_le_div_right (Nat.sub_le_sub_right hlast _))
  · have hdiv := Nat.div_add_mod (n - r.first) r.step
    omega

/-- Whether a run and its images are letters: as a whole, or at least one by one. -/
def ShiftedRun.isOfLetters (r : ShiftedRun) : Bool :=
  (lettersBetween r.run.first r.run.last &&
      lettersBetween (r.image r.run.first) (r.image r.run.last)) ||
    r.run.members.all fun n => lettersBetween n n && lettersBetween (r.image n) (r.image n)

/-- The characters that change in lower case, those of ASCII first. -/
def caseShifts : List ShiftedRun := ⟨⟨0x41, 0x5A, 1⟩, 32⟩ :: lowerShifts

theorem caseShifts_isOfLetters : caseShifts.all ShiftedRun.isOfLetters = true := by
  decide +kernel

theorem ShiftedRun.lettersBetween_of_contains {r : ShiftedRun} (hr : r.isOfLetters = true)
    {n : Nat} (hn : r.run.contains n = true) :
    lettersBetween n n = true ∧ lettersBetween (r.image n) (r.image n) = true := by
  rw [isOfLetters, Bool.or_eq_true, Bool.and_eq_true] at hr
  rcases hr with ⟨hrun, himage⟩ | hmembers
  · simp only [Run.contains, Bool.and_eq_true, decide_eq_true_eq] at hn
    obtain ⟨⟨hfirst, hlast⟩, -⟩ := hn
    refine ⟨lettersBetween_mono hrun hfirst hlast, lettersBetween_mono himage ?_ ?_⟩ <;>
      simp only [image] <;> omega
  · exact (Bool.and_eq_true _ _).mp (List.all_eq_true.mp hmembers n (Run.mem_members hn))

theorem lettersBetween_of_mem_caseShifts {r : ShiftedRun} (hr : r ∈ caseShifts) {n : Nat}
    (hn : r.run.contains n = true) :
    lettersBetween n n = true ∧ lettersBetween (r.image n) (r.image n) = true :=
  ShiftedRun.lettersBetween_of_contains (List.all_eq_true.mp caseShifts_isOfLetters r hr) hn

theorem exists_mem_caseShifts {c : Char} (h : lowerFirst c ≠ c) :
    ∃ r ∈ caseShifts, r.run.contains c.toNat = true ∧
      (lowerFirst c).toNat = r.image c.toNat := by
  by_cases hc : c.toNat < 0x80
  · have hupper : 0x41 ≤ c.toNat ∧ c.toNat ≤ 0x5A := by
      apply Decidable.byContradiction
      intro hno
      apply h
      apply Char.toNat_inj.mp
      rw [toNat_lowerFirst hc, if_neg hno]
    refine ⟨_, List.mem_cons_self, ?_, ?_⟩
    · simpa [Run.contains, Nat.mod_one] using hupper
    · rw [toNat_lowerFirst hc, if_pos hupper]
      rfl
  · rw [lowerFirst, if_neg hc, shiftBy] at h ⊢
    cases hfind : lowerShifts.find? (·.run.contains c.toNat) with
    | none =>
        rw [hfind] at h
        exact absurd (Char.ofNat_toNat c) h
    | some r =>
        have hr : r ∈ caseShifts := List.mem_cons_of_mem _ (List.mem_of_find?_eq_some hfind)
        have hcontains : r.run.contains c.toNat = true := by
          simpa using List.find?_some hfind
        exact ⟨r, hr, hcontains,
          toNat_ofNat_of_lettersBetween (lettersBetween_of_mem_caseShifts hr hcontains).2⟩

theorem isLetter_of_lowerFirst_ne {c : Char} (h : lowerFirst c ≠ c) :
    IsLetter c ∧ IsLetter (lowerFirst c) := by
  obtain ⟨r, hr, hcontains, himage⟩ := exists_mem_caseShifts h
  obtain ⟨hletter, hlower⟩ := lettersBetween_of_mem_caseShifts hr hcontains
  rw [← himage] at hlower
  exact ⟨isLetter_of_lettersBetween hletter, isLetter_of_lettersBetween hlower⟩

end BlockOrder
