import BlockOrder.Directive.Basic
import BlockOrder.Proofs.Text.Decimal
import Mathlib.Data.List.Infix

/-!
# Directives read back

A directive may be written with or without a direction and with or without a depth, and the
comment it stands in may be closed behind it.  Parsing gives what was written, and the defaults
for what was not.  Only a numeral that is too large is refused, and only a text without the keyword
holds no directive.
-/

namespace BlockOrder

namespace Text

theorem after?_eq_some_iff {pattern t rest : Text} :
    after? pattern t = some rest ↔ t = pattern ++ rest := by
  induction pattern generalizing t with
  | nil => simp [after?]
  | cons p ps ih =>
      cases t with
      | nil => simp [after?]
      | cons c cs =>
          by_cases hpc : p = c
          · simp [after?, hpc, ih]
          · simp [after?, hpc, Ne.symm hpc]

theorem after?_append (pattern rest : Text) : after? pattern (pattern ++ rest) = some rest :=
  after?_eq_some_iff.mpr rfl

theorem after?_eq_none {pattern t : Text} (h : ¬ pattern <+: t) : after? pattern t = none := by
  cases hafter : after? pattern t with
  | none => rfl
  | some rest => exact absurd ⟨rest, (after?_eq_some_iff.mp hafter).symm⟩ h

end Text

namespace Directive

theorem afterFirst?_eq_none {pattern t : Text} (h : ¬ pattern <:+: t) :
    afterFirst? pattern t = none := by
  induction t with
  | nil => exact Text.after?_eq_none fun hpre => h hpre.isInfix
  | cons c rest ih =>
      rw [afterFirst?, Text.after?_eq_none fun hpre => h hpre.isInfix, Option.none_or]
      exact ih fun hinfix => h (List.infix_cons hinfix)

/-- A pattern whose first character does not come again in it cannot begin in front of one of its
occurrences and end inside. -/
theorem not_prefix_append {x : Char} {xs before : Text} (hx : x ∉ xs) (hne : before ≠ [])
    (h : ¬ x :: xs <+: before) (rest : Text) : ¬ x :: xs <+: before ++ (x :: xs ++ rest) := by
  intro hpre
  rcases List.prefix_or_prefix_of_prefix hpre (List.prefix_append _ _) with hin | ⟨behind, hbehind⟩
  · exact h hin
  · obtain ⟨c, before, rfl⟩ := List.exists_cons_of_ne_nil hne
    cases behind with
    | nil => exact h (by rw [← hbehind, List.append_nil])
    | cons y behind =>
        have hinside : ∀ u, x :: xs <+: c :: before ++ u → y :: behind <+: u := by
          intro u hu
          rw [← hbehind] at hu
          exact (List.prefix_append_right_inj _).mp hu
        obtain rfl : y = x := (List.cons_prefix_cons.mp (hinside _ hpre)).1
        have hxs : before ++ y :: behind = xs := (List.cons.inj hbehind).2
        exact hx (hxs ▸ List.mem_append_right _ List.mem_cons_self)

theorem afterFirst?_append {x : Char} {xs before : Text} (hx : x ∉ xs)
    (h : ¬ x :: xs <:+: before) (rest : Text) :
    afterFirst? (x :: xs) (before ++ (x :: xs ++ rest)) = some rest := by
  induction before with
  | nil =>
      change (Text.after? (x :: xs) (x :: xs ++ rest)).or _ = _
      rw [Text.after?_append, Option.some_or]
  | cons c before ih =>
      have hinfix := fun hpre => h (List.IsPrefix.isInfix hpre)
      have hnone := not_prefix_append hx (List.cons_ne_nil c before) hinfix rest
      rw [List.cons_append, afterFirst?, ← List.cons_append, Text.after?_eq_none hnone,
        Option.none_or]
      exact ih fun hinfix => h (List.infix_cons hinfix)

/-! ## What can be written -/

/-- How the direction is written, if it is. -/
inductive DirectionWord where
  | absent
  | asc
  | desc

namespace DirectionWord

def text : DirectionWord → Text
  | absent => []
  | asc => " asc".toList
  | desc => " desc".toList

def direction : DirectionWord → Direction
  | absent | asc => .asc
  | desc => .desc

end DirectionWord

/-- How the depth is written, if it is. -/
inductive DepthWord where
  | absent
  | inf
  | infinite
  | numeral (digits : Text) (nonempty : digits ≠ []) (isDigits : digits.all isAsciiDigit = true)

namespace DepthWord

def text : DepthWord → Text
  | absent => []
  | inf => " inf".toList
  | infinite => " infinite".toList
  | numeral digits _ _ => ' ' :: digits

/-- The depth that is meant; a numeral has to be less than 2^64. -/
def depth : DepthWord → Except DirectiveError Depth
  | absent => .ok (.limited 0)
  | inf | infinite => .ok .unbounded
  | numeral digits _ _ =>
      let n := Nat.ofDigitChars 10 digits 0
      if n < 0x10000000000000000 then .ok (.limited n) else .error (.invalidDepth digits)

end DepthWord

/-! ## Reading -/

theorem readDirection_eq_of_head {t : Text} (h : ∀ c ∈ t.head?, c ≠ 'a' ∧ c ≠ 'd') :
    readDirection t = (.asc, t) := by
  cases t with
  | nil => rfl
  | cons c t =>
      have hc := h c rfl
      simp [readDirection, Text.after?, hc.1.symm, hc.2.symm]

theorem skipSpace_eq_of_head {t : Text} (h : t.head? ≠ some ' ') : skipSpace t = t := by
  cases t with
  | nil => rfl
  | cons c t =>
      rw [skipSpace]
      rintro rest ⟨rfl, -⟩
      exact h rfl

theorem readDepth_digits {digits rest : Text} (hne : digits ≠ [])
    (hdigits : digits.all isAsciiDigit = true) (hrest : rest.head?.any isDecimalDigit = false) :
    readDepth (digits ++ rest) =
      if Nat.ofDigitChars 10 digits 0 < 0x10000000000000000 then
        .ok (.limited (Nat.ofDigitChars 10 digits 0))
      else .error (.invalidDepth digits) := by
  have hdecimal : digits.all isDecimalDigit = true := by
    rw [List.all_eq_true] at hdigits ⊢
    exact fun c hc => isDecimalDigit_of_isAsciiDigit (hdigits c hc)
  have hspan := (span_of_all hdecimal hrest).1
  have hnotEmpty : digits.isEmpty = false := by simpa using hne
  simp only [readDepth, hspan, hnotEmpty, decimal?_digits hne hdigits, Bool.not_false, if_true]

/-- What may stand behind a directive: nothing, or the end of a comment. -/
def IsEnding (ending : Text) : Prop := ending = [] ∨ ending = " */".toList

/-- Behind the space in front of it a depth is read as it was written, and is no direction. -/
theorem readDepth_text (word : DepthWord) {ending : Text} (hending : IsEnding ending) :
    readDepth (skipSpace (word.text ++ ending)) = word.depth ∧
      ∀ c ∈ (skipSpace (word.text ++ ending)).head?, c ≠ ' ' ∧ c ≠ 'a' ∧ c ≠ 'd' := by
  cases word with
  | absent | inf | infinite =>
      rcases hending with rfl | rfl <;> refine ⟨rfl, ?_⟩ <;> rintro c ⟨⟩ <;> decide
  | numeral digits hne hdigits =>
      change readDepth (digits ++ ending) = _ ∧ ∀ c ∈ (digits ++ ending).head?, _
      constructor
      · apply readDepth_digits hne hdigits
        rcases hending with rfl | rfl <;> rfl
      · obtain ⟨c, digits, rfl⟩ := List.exists_cons_of_ne_nil hne
        have hc : isAsciiDigit c = true := (Bool.and_eq_true_iff.mp hdigits).1
        rintro x ⟨⟩
        refine ⟨?_, ?_, ?_⟩ <;> rintro rfl <;> cases hc

/-- A direction is read as it was written; what is left differs at most by a space from what
stands behind it. -/
theorem readDirection_text (word : DirectionWord) {rest : Text}
    (hrest : ∀ c ∈ (skipSpace rest).head?, c ≠ ' ' ∧ c ≠ 'a' ∧ c ≠ 'd') :
    ∃ left, readDirection (skipSpace (word.text ++ rest)) = (word.direction, left) ∧
      skipSpace left = skipSpace rest := by
  cases word with
  | absent =>
      refine ⟨skipSpace rest, readDirection_eq_of_head fun c hc => (hrest c hc).2, ?_⟩
      exact skipSpace_eq_of_head fun hspace => (hrest ' ' hspace).1 rfl
  | asc => exact ⟨rest, rfl, rfl⟩
  | desc => exact ⟨rest, rfl, rfl⟩

/-- A written directive is read as it was written, behind any text in which the keyword does not
occur; a text without the keyword holds no directive. -/
theorem parse_written (line skipParents : Nat) :
    (∀ (before : Text) (direction : DirectionWord) (depth : DepthWord) (ending : Text),
      ¬ Classifier.keyword.toList <:+: before → IsEnding ending →
      parse (before ++ Classifier.keyword.toList ++ direction.text ++ depth.text ++ ending)
          line skipParents =
        depth.depth.map fun depth => ⟨direction.direction, depth, skipParents⟩) ∧
    ∀ t : Text, ¬ Classifier.keyword.toList <:+: t →
      parse t line skipParents = .error (.missing line) := by
  constructor
  · intro before direction depth ending hbefore hending
    obtain ⟨hdepth, hhead⟩ := readDepth_text depth hending
    obtain ⟨left, hdirection, hleft⟩ := readDirection_text direction hhead
    have hkeyword : afterFirst? Classifier.keyword.toList
        (before ++ Classifier.keyword.toList ++ direction.text ++ depth.text ++ ending) =
          some (direction.text ++ (depth.text ++ ending)) := by
      simp only [List.append_assoc]
      exact afterFirst?_append (by decide) hbefore _
    simp only [parse, hkeyword, hdirection, hleft, hdepth]
    cases depth.depth <;> rfl
  · intro t ht
    rw [parse, afterFirst?_eq_none ht]

/-- The largest depth, written with zeros in front and behind a part of the keyword. -/
theorem parse_written_padded :
    ¬ Classifier.keyword.toList <:+: "/* @block ".toList ∧ IsEnding " */".toList ∧
      parse ("/* @block ".toList ++ Classifier.keyword.toList ++ " desc".toList ++
          " 0018446744073709551615".toList ++ " */".toList) 3 1 =
        .ok ⟨.desc, .limited 18446744073709551615, 1⟩ := by
  have hbefore : ¬ Classifier.keyword.toList <:+: "/* @block ".toList := by decide
  have hwritten := (parse_written 3 1).1 "/* @block ".toList .desc
    (.numeral "0018446744073709551615".toList (by decide) (by decide)) " */".toList hbefore
    (.inr rfl)
  exact ⟨hbefore, .inr rfl, hwritten.trans (by rfl)⟩

end Directive

end BlockOrder
