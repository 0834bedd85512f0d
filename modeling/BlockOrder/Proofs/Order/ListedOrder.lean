import Mathlib.Data.List.Perm.Subperm
import BlockOrder.Proofs.Order.CustomOrder
import BlockOrder.Proofs.Text.Case

/-!
# Characters in their listed order

A custom order is meant to sort the characters that it lists as it lists them.  Every listed
character has entries of its own, one or two.  The order of the characters is that of their
entries as long as every character is found among its own ones and they have no other folding
than it has.  Without regard to case this leaves out the capitals, which are looked up as small
letters but listed as they are; else it leaves out letters in title case and those whose capital
belongs to another letter.
-/

namespace BlockOrder

namespace KeyOrder

variable {o : CollationOptions} {k : KeyOrder} {first : CaseFirst}

/-- What a character is looked up as. -/
def lookedUp (first : CaseFirst) (c : Char) : Char :=
  if first = .either then lowerFirst c else c

/-- The character is found among the entries that an order has for it, and these have no folding
but its own. -/
def KeepsPlace (first : CaseFirst) (c : Char) : Prop :=
  lookedUp first c ∈ expandOrder first [c] ∧
    ∀ d ∈ expandOrder first [c], lowerFirst d = lowerFirst c

instance (first : CaseFirst) (c : Char) : Decidable (KeepsPlace first c) :=
  @instDecidableAnd _ _ inferInstance (List.decidableBAll _ _)

/-- The options with an order of characters and none that are left out. -/
def listing (o : CollationOptions) (listed : String) : CollationOptions :=
  { o with customOrder := some listed, ignored := none }

/-- The characters of an order compare as they are listed. -/
def RanksListed (o : CollationOptions) (listed : String) : Prop :=
  listed.toList.Pairwise fun x y => (ofOptions (listing o listed) .asc).compare [x] [y] = .lt

/-! ## Places -/

theorem expandOrder_append (first : CaseFirst) (a b : List Char) :
    expandOrder first (a ++ b) = expandOrder first a ++ expandOrder first b :=
  List.flatMap_append

theorem expandOrder_cons (first : CaseFirst) (c : Char) (b : List Char) :
    expandOrder first (c :: b) = expandOrder first [c] ++ expandOrder first b :=
  expandOrder_append first [c] b

theorem mem_expandOrder {a : List Char} {d : Char} :
    d ∈ expandOrder first a ↔ ∃ c ∈ a, d ∈ expandOrder first [c] := by
  simp only [expandOrder, List.mem_flatMap, List.mem_singleton, exists_eq_left]

theorem length_expandOrder_le (first : CaseFirst) (c : Char) :
    (expandOrder first [c]).length ≤ 2 := by
  rw [expandOrder, List.flatMap_singleton]
  by_cases heq : upperFirst c = lowerFirst c
  · simp [heq]
  · cases first <;> simp [heq]

theorem place?_eq (o : CollationOptions) (d : Direction) (entries : List Char) (c : Char) :
    (ofOptions o d).place? entries c = entries.findIdx? (· == lookedUp o.caseFirst c) := by
  simp only [place?, ofOptions, withCollate, lookedUp, decide_eq_true_eq]

theorem findIdx?_eq_none_of_notMem {entries : List Char} {c : Char} (h : c ∉ entries) :
    entries.findIdx? (· == c) = none := by
  rw [List.findIdx?_eq_none_iff]
  intro d hd
  rw [beq_eq_false_iff_ne]
  rintro rfl
  exact h hd

theorem exists_findIdx? {entries : List Char} {c : Char} (h : c ∈ entries) :
    ∃ n < entries.length, entries.findIdx? (· == c) = some n := by
  obtain ⟨n, hn⟩ : ∃ n, entries.findIdx? (· == c) = some n := by
    rw [← Option.isSome_iff_exists, List.findIdx?_isSome, List.any_eq_true]
    exact ⟨c, h, beq_self_eq_true c⟩
  obtain ⟨hlt, -⟩ := List.findIdx?_eq_some_iff_getElem.mp hn
  exact ⟨n, hlt, hn⟩

/-- What is found in the middle is found behind all that comes before. -/
theorem exists_findIdx?_middle {before own : List Char} (after : List Char) {c : Char}
    (hbefore : c ∉ before) (hown : c ∈ own) : ∃ n < own.length,
      (before ++ (own ++ after)).findIdx? (· == c) = some (before.length + n) := by
  obtain ⟨n, hlt, hn⟩ := exists_findIdx? hown
  refine ⟨n, hlt, ?_⟩
  rw [List.findIdx?_append, findIdx?_eq_none_of_notMem hbefore, List.findIdx?_append, hn,
    Option.none_or, Option.some_or, Option.map_some, Nat.add_comm]

theorem KeepsPlace.notMem_expandOrder {c : Char} (hc : KeepsPlace first c) {a : List Char}
    (ha : ∀ d ∈ a, KeepsPlace first d ∧ lowerFirst d ≠ lowerFirst c) :
    lookedUp first c ∉ expandOrder first a := by
  intro hmem
  obtain ⟨d, hd, hmem⟩ := mem_expandOrder.mp hmem
  obtain ⟨hkeeps, hne⟩ := ha d hd
  have hthere : lowerFirst (lookedUp first c) = lowerFirst d := hkeeps.2 _ hmem
  have hhere : lowerFirst (lookedUp first c) = lowerFirst c := hc.2 _ hc.1
  exact hne (hthere.symm.trans hhere)

/-- Where all characters keep their places and none has the folding of another, a character is
found behind the entries of those before it, among its own. -/
theorem exists_place {before after : List Char} {c : Char} {entries : List Char}
    (hentries : entries = expandOrder first (before ++ c :: after)) (hc : KeepsPlace first c)
    (hbefore : ∀ d ∈ before, KeepsPlace first d ∧ lowerFirst d ≠ lowerFirst c) :
    ∃ n < (expandOrder first [c]).length, entries.findIdx? (· == lookedUp first c) =
      some ((expandOrder first before).length + n) := by
  rw [hentries, expandOrder_append, expandOrder_cons first c after]
  exact exists_findIdx?_middle _ (hc.notMem_expandOrder hbefore) hc.1

/-! ## Comparing listed characters -/

theorem compare_listed (hcase : o.IgnoresCase) {listed : String} (hne : listed ≠ "")
    (x y : Char) : (ofOptions (listing o listed) .asc).compare [x] [y] =
      (ofOptions (listing o listed) .asc).charOrder (expandOrder o.caseFirst listed.toList)
        x y :=
  compare_singleton (o := listing o listed) hcase rfl hne (List.not_mem_nil) (List.not_mem_nil)

theorem pairwise_of_split {α : Type} {R : α → α → Prop} {l : List α}
    (h : ∀ a x b y c, l = a ++ x :: (b ++ y :: c) → R x y) : l.Pairwise R := by
  induction l with
  | nil => exact .nil
  | cons x l ih =>
      refine List.pairwise_cons.mpr ⟨?_, ih ?_⟩
      · intro y hy
        obtain ⟨b, c, rfl⟩ := List.append_of_mem hy
        exact h [] x b y c rfl
      · rintro a x' b y c rfl
        exact h (x :: a) x' b y c rfl

theorem ranksListed_of_keepsPlace (hcase : o.IgnoresCase) {listed : String}
    (hdistinct : (listed.toList.map lowerFirst).Nodup)
    (hkeeps : ∀ c ∈ listed.toList, KeepsPlace o.caseFirst c) : RanksListed o listed := by
  apply pairwise_of_split
  intro a x b y c hsplit
  have hne : listed ≠ "" := by
    rintro rfl
    exact absurd hsplit (by simp)
  rw [hsplit] at hdistinct hkeeps
  have hsplit' : listed.toList = (a ++ x :: b) ++ y :: c := by
    rw [hsplit, List.append_assoc, List.cons_append]
  -- the characters before one have other foldings
  have hapart : ∀ {before : List Char} {z : Char} {after : List Char},
      a ++ x :: (b ++ y :: c) = before ++ z :: after →
        ∀ d ∈ before, KeepsPlace o.caseFirst d ∧ lowerFirst d ≠ lowerFirst z := by
    intro before z after heq d hd
    refine ⟨hkeeps d (heq ▸ List.mem_append_left _ hd), ?_⟩
    rw [heq, List.map_append, List.nodup_append, List.map_cons] at hdistinct
    exact hdistinct.2.2 _ (List.mem_map_of_mem hd) _ List.mem_cons_self
  obtain ⟨n, hn, hx⟩ := exists_place (congrArg _ hsplit) (hkeeps x (by simp)) (hapart rfl)
  obtain ⟨m, -, hy⟩ := exists_place (congrArg _ hsplit') (hkeeps y (by simp))
    (hapart (hsplit.symm.trans hsplit'))
  have hxplace := (place?_eq (listing o listed) .asc _ x).trans hx
  have hyplace := (place?_eq (listing o listed) .asc _ y).trans hy
  rw [compare_listed hcase hne, charOrder_of_placed hxplace hyplace, Nat.compare_eq_lt]
  rw [expandOrder_append, List.length_append, expandOrder_cons o.caseFirst x, List.length_append]
  omega

/-! ## Characters that do not keep their places -/

theorem not_ranksListed_of_first {x y : Char} {l : List Char}
    (h : (ofOptions (listing o (String.ofList (x :: y :: l))) .asc).compare [x] [y] ≠ .lt) :
    ¬ RanksListed o (String.ofList (x :: y :: l)) := by
  intro hranks
  rw [RanksListed, String.toList_ofList] at hranks
  exact h ((List.pairwise_cons.mp hranks).1 y List.mem_cons_self)

theorem collate_letter_blank (hcase : o.IgnoresCase) {c : Char} (hc : IsLetter c) :
    o.collate [c] [' '] = .gt := by
  have hblank : isBlankChar c = false := by
    rw [Bool.eq_false_iff]
    intro hblank
    exact absurd hc.alphanumeric (by simp [isAlphanumeric_of_isBlankChar hblank])
  have hletter : KeyPart.single o.numeric c = .letter (lowerFirst c) := by
    simp [KeyPart.single, KeyPart.ofChar, hc.notDigit, hblank, hc.alphanumeric]
  have hspace : KeyPart.single o.numeric ' ' = .blank := by
    cases o.numeric <;> rfl
  rw [collate_singleton hcase, hletter, hspace]
  rfl

/-- A character that is not found among its own entries comes after a space, even if it is listed
before it. -/
theorem exists_not_ranksListed_of_notMem (hcase : o.IgnoresCase) {c : Char}
    (hc : lookedUp o.caseFirst c ∉ expandOrder o.caseFirst [c]) :
    ∃ listed : String, (listed.toList.map lowerFirst).Nodup ∧ c ∈ listed.toList ∧
      ¬ RanksListed o listed := by
  have hlower : lowerFirst c ≠ c := by
    intro heq
    apply hc
    have hlooked : lookedUp o.caseFirst c = c := by
      unfold lookedUp
      split
      · exact heq
      · rfl
    rw [hlooked, expandOrder, List.flatMap_singleton, heq]
    by_cases hupper : upperFirst c = c
    · simp [hupper]
    · cases o.caseFirst <;> simp [hupper]
  obtain ⟨hletter, hsmall⟩ := isLetter_of_lowerFirst_ne hlower
  have hspace : ∀ {d : Char}, IsLetter d → d ≠ ' ' := by
    rintro d hd rfl
    exact absurd hd.alphanumeric (by decide)
  have hlooked : lookedUp o.caseFirst c ≠ ' ' := by
    unfold lookedUp
    split
    · exact hspace hsmall
    · exact hspace hletter
  have hunplaced : (ofOptions (listing o (String.ofList [c, ' '])) .asc).place?
      (expandOrder o.caseFirst (String.ofList [c, ' ']).toList) c = none := by
    rw [place?_eq, String.toList_ofList, expandOrder_cons]
    apply findIdx?_eq_none_of_notMem
    have hblank : expandOrder o.caseFirst [' '] = [' '] := by
      cases o.caseFirst <;> rfl
    rw [hblank, List.mem_append, List.mem_singleton, not_or]
    exact ⟨hc, hlooked⟩
  refine ⟨String.ofList [c, ' '], ?_, ?_, ?_⟩
  · have hother : lowerFirst c ≠ lowerFirst ' ' := hspace hsmall
    simpa using hother
  · simp
  · apply not_ranksListed_of_first
    rw [compare_listed hcase (by simp), charOrder_of_unplaced (.inl hunplaced)]
    change o.collate [c] [' '] ≠ .lt
    rw [collate_letter_blank hcase hletter]
    nofun

/-- Some character without case is not one of four given ones. -/
theorem exists_uncased_notMem (forbidden : List Char) (h : forbidden.length ≤ 4) :
    ∃ z, z ∉ forbidden ∧ lowerFirst z = z ∧ ∀ first, expandOrder first [z] = [z] := by
  obtain ⟨z, hz, hnot⟩ : ∃ z ∈ [' ', '!', '#', '$', '%'], z ∉ forbidden := by
    apply Decidable.byContradiction
    intro hno
    have hsubset : [' ', '!', '#', '$', '%'] ⊆ forbidden := by
      intro z hz
      exact Decidable.byContradiction fun hnot => hno ⟨z, hz, hnot⟩
    have hlength := (List.subperm_of_subset (by decide) hsubset).length_le
    exact absurd (Nat.le_trans hlength h) (by decide)
  have huncased : ∀ z ∈ [' ', '!', '#', '$', '%'], lowerFirst z = z ∧ upperFirst z = z := by
    simp only [List.forall_mem_cons, List.not_mem_nil, false_implies, implies_true, and_true]
    decide
  obtain ⟨hlower, hupper⟩ := huncased z hz
  refine ⟨z, hnot, hlower, ?_⟩
  intro first
  simp [expandOrder, hlower, hupper]

/-- A character of another folding among the entries of a listed one comes before what is listed
between the two. -/
theorem exists_not_ranksListed_of_mem (hcase : o.IgnoresCase) {c d : Char}
    (hd : d ∈ expandOrder o.caseFirst [c]) (hne : lowerFirst d ≠ lowerFirst c) :
    ∃ listed : String, (listed.toList.map lowerFirst).Nodup ∧ c ∈ listed.toList ∧
      ¬ RanksListed o listed := by
  have hfirst : o.caseFirst ≠ .either := by
    intro heq
    rw [heq, expandOrder, List.flatMap_singleton] at hd
    obtain rfl : d = c := by
      simpa using hd
    exact hne rfl
  have hlooked : ∀ z, lookedUp o.caseFirst z = z := fun z => if_neg hfirst
  have hlength := length_expandOrder_le o.caseFirst c
  obtain ⟨z, hz, hlower, hexpand⟩ := exists_uncased_notMem
    (expandOrder o.caseFirst [c] ++ [lowerFirst c, lowerFirst d])
    (by rw [List.length_append]; exact Nat.add_le_add_right hlength 2)
  simp only [List.mem_append, List.mem_cons, List.not_mem_nil, or_false, not_or] at hz
  obtain ⟨hentries, hzc, hzd⟩ := hz
  let listed := String.ofList [c, z, d]
  have hexpanded : expandOrder o.caseFirst listed.toList =
      expandOrder o.caseFirst [c] ++ (z :: expandOrder o.caseFirst [d]) := by
    rw [String.toList_ofList, expandOrder_cons, expandOrder_cons o.caseFirst z, hexpand]
    rfl
  obtain ⟨n, hn, hplaced⟩ := exists_findIdx? hd
  have hdplace : (ofOptions (listing o listed) .asc).place?
      (expandOrder o.caseFirst listed.toList) d = some n := by
    rw [place?_eq, hexpanded, List.findIdx?_append]
    change Option.or ((expandOrder o.caseFirst [c]).findIdx? (· == lookedUp o.caseFirst d)) _ = _
    rw [hlooked, hplaced, Option.some_or]
  have hzplace : (ofOptions (listing o listed) .asc).place?
      (expandOrder o.caseFirst listed.toList) z =
        some (expandOrder o.caseFirst [c]).length := by
    obtain ⟨m, hm, hfound⟩ := exists_findIdx?_middle (expandOrder o.caseFirst [d]) hentries
      (List.mem_singleton_self z)
    obtain rfl : m = 0 := Nat.lt_one_iff.mp hm
    rw [place?_eq, hexpanded]
    change List.findIdx? (· == lookedUp o.caseFirst z) _ = _
    rw [hlooked]
    exact hfound
  refine ⟨listed, ?_, by simp [listed], ?_⟩
  · simp only [listed, String.toList_ofList, List.map_cons, List.map_nil, hlower]
    simp [Ne.symm hzc, hzd, Ne.symm hne]
  · intro hranks
    rw [RanksListed, String.toList_ofList] at hranks
    have hlt := (List.pairwise_cons.mp (List.pairwise_cons.mp hranks).2).1 d
      List.mem_cons_self
    rw [compare_listed hcase (by simp [listed]), charOrder_of_placed hzplace hdplace,
      Nat.compare_eq_lt] at hlt
    omega

/-- An order of characters with different foldings ranks them as it lists them if all keep their
places, and every character that does not keep its place is listed in an order that fails to. -/
theorem ranksListed_keepsPlace (hcase : o.IgnoresCase) :
    (∀ listed : String, (listed.toList.map lowerFirst).Nodup →
        (∀ c ∈ listed.toList, KeepsPlace o.caseFirst c) → RanksListed o listed) ∧
      ∀ c, ¬ KeepsPlace o.caseFirst c → ∃ listed : String,
        (listed.toList.map lowerFirst).Nodup ∧ c ∈ listed.toList ∧ ¬ RanksListed o listed := by
  constructor
  · intro listed hdistinct hkeeps
    exact ranksListed_of_keepsPlace hcase hdistinct hkeeps
  · intro c hc
    by_cases hown : lookedUp o.caseFirst c ∈ expandOrder o.caseFirst [c]
    · obtain ⟨d, hd, hne⟩ : ∃ d ∈ expandOrder o.caseFirst [c], lowerFirst d ≠ lowerFirst c := by
        apply Decidable.byContradiction
        intro hno
        refine hc ⟨hown, fun d hd => ?_⟩
        exact Decidable.byContradiction fun hne => hno ⟨d, hd, hne⟩
      exact exists_not_ranksListed_of_mem hcase hd hne
    · exact exists_not_ranksListed_of_notMem hcase hown

/-- Capitals and small letters in no alphabetical order, with a digit and a sign between them. -/
theorem ranksListed_of_mixed :
    ({ caseFirst := .upper } : CollationOptions).IgnoresCase ∧
      ("zB7éA-".toList.map lowerFirst).Nodup ∧
      (∀ c ∈ "zB7éA-".toList, KeepsPlace .upper c) ∧
      RanksListed { caseFirst := .upper } "zB7éA-" := by
  have hcase : ({ caseFirst := .upper } : CollationOptions).IgnoresCase := .inl rfl
  have hdistinct : ("zB7éA-".toList.map lowerFirst).Nodup := by
    decide +kernel
  have hall : ("zB7éA-".toList.all fun c => KeepsPlace .upper c) = true := by
    decide +kernel
  have hkeeps : ∀ c ∈ "zB7éA-".toList, KeepsPlace .upper c := by
    intro c hc
    exact of_decide_eq_true (List.all_eq_true.mp hall c hc)
  exact ⟨hcase, hdistinct, hkeeps, (ranksListed_keepsPlace hcase).1 _ hdistinct hkeeps⟩

/-- Capitals are looked up as small letters, which are not listed, and so they are collated; the
capital of a sharp s is found before what is listed between the two. -/
theorem not_ranksListed_of_capitals :
    ("BA".toList.map lowerFirst).Nodup ∧
      (ofOptions { customOrder := some "BA" } .asc).compare ['B'] ['A'] = .gt ∧
      ("ßzS".toList.map lowerFirst).Nodup ∧
      (ofOptions { customOrder := some "ßzS", caseFirst := .upper } .asc).compare ['z'] ['S'] =
        .gt := by
  decide +kernel

end KeyOrder

end BlockOrder
