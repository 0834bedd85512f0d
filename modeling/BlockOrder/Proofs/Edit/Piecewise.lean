import BlockOrder.Edit.Merge
import BlockOrder.Proofs.Document.Slice
import BlockOrder.Proofs.Text.Breaks

/-!
# Merging as replacing pieces

A merge works on one text in place and keeps account of how far the rest of it has moved.  What
it comes to is read off the block as it was: the texts of the accepted edits with the pieces of
the block between them.  On the way no place that is asked for lies outside the text.
-/

namespace BlockOrder

namespace Text

/-- The text without the characters from `low` up to `high`, which both have to be places in it,
in this order. -/
def remove? (t : Text) (low high : Nat) : Option Text :=
  if low ≤ high ∧ high ≤ t.length then some (t.take low ++ t.drop high) else none

/-- The text with another one put in at a place, which has to be a place in it. -/
def insert? (t : Text) (place : Nat) (new : Text) : Option Text :=
  if place ≤ t.length then some (t.take place ++ new ++ t.drop place) else none

/-- The text with the characters from `low` up to `high` taken out, if there are any, and another
text put in at `low`. -/
def replace? (t : Text) (low high : Nat) (new : Text) : Option Text :=
  (if low < high then t.remove? low high else some t).bind fun kept => kept.insert? low new

theorem remove?_append (x y z : Text) :
    (x ++ y ++ z).remove? x.length (x ++ y).length = some (x ++ z) := by
  rw [remove?, if_pos, List.drop_left, List.append_assoc, List.take_left]
  simp

theorem insert?_append (x new z : Text) : (x ++ z).insert? x.length new = some (x ++ new ++ z) := by
  rw [insert?, if_pos, List.take_left, List.drop_left]
  simp

theorem replace?_append (x y z new : Text) :
    (x ++ y ++ z).replace? x.length (x ++ y).length new = some (x ++ new ++ z) := by
  unfold replace?
  split
  · rw [remove?_append, Option.bind_some, insert?_append]
  · next hlength =>
      obtain rfl : y = [] := by simpa using hlength
      rw [List.append_nil, Option.bind_some, insert?_append]

theorem drop_eq_take_append_drop (t : Text) {a b : Nat} (h : a ≤ b) :
    t.drop a = (t.drop a).take (b - a) ++ t.drop b := by
  conv_lhs => rw [← List.take_append_drop (b - a) (t.drop a)]
  rw [List.drop_drop, Nat.add_sub_cancel' h]

end Text

namespace Edit

variable {start : Position} {t done : Text} {m : Merging} {e : Edit}

def firstIn (start : Position) (t : Text) (e : Edit) : Nat := offsetIn start t e.range.start

/-- The offset at which an edit ends, raised to that at which it starts. -/
def lastIn (start : Position) (t : Text) (e : Edit) : Nat :=
  max (firstIn start t e) (offsetIn start t e.range.stop)

theorem offsetIn_le (start : Position) (t : Text) (p : Position) :
    offsetIn start t p ≤ t.length := by
  unfold offsetIn
  dsimp only
  split
  · exact Nat.le_refl _
  · next line hline =>
      exact Text.lineStart_add_le hline
        (Nat.le_trans (Document.within_le _ _) line.length_withoutNewline_le)

theorem firstIn_le_lastIn (start : Position) (t : Text) (e : Edit) :
    firstIn start t e ≤ lastIn start t e := Nat.le_max_left _ _

theorem lastIn_le (start : Position) (t : Text) (e : Edit) : lastIn start t e ≤ t.length :=
  Nat.max_le.mpr ⟨offsetIn_le _ _ _, offsetIn_le _ _ _⟩

/-! ## Accepted edits -/

/-- An edit starts at or after the end of the edit that was accepted before it, if there is
one. -/
def Follows (start : Position) (t : Text) (previous : Option Edit) (e : Edit) : Prop :=
  ∀ p ∈ previous, lastIn start t p ≤ firstIn start t e

instance (start : Position) (t : Text) (previous : Option Edit) (e : Edit) :
    Decidable (Follows start t previous e) :=
  match previous with
  | none => .isTrue fun _ hp => nomatch hp
  | some p => decidable_of_iff (lastIn start t p ≤ firstIn start t e) (by simp [Follows])

/-- The edits that are accepted after `previous`, and those that are rejected. -/
def sift (start : Position) (t : Text) :
    (previous : Option Edit) → List Edit → List Edit × List Edit
  | _, [] => ([], [])
  | previous, e :: rest =>
      if Follows start t previous e then
        let later := sift start t (some e) rest
        (e :: later.1, later.2)
      else
        let later := sift start t previous rest
        (later.1, e :: later.2)

/-- The text of a block from a place on, in which the pieces between the edits are as they were
and every edit has its text in place of the piece that it replaces. -/
def replacedFrom (start : Position) (t : Text) (place : Nat) : List Edit → Text
  | [] => t.drop place
  | e :: rest =>
      (t.drop place).take (firstIn start t e - place) ++ e.text ++
        replacedFrom start t (lastIn start t e) rest

/-! ## Merging with checks -/

/-- A step of a merge that fails if a shift leads below zero, or if characters are taken out or
put in beyond the end of the text as it stands then. -/
def Merging.step? (start : Position) (base : Text) (m : Merging) (e : Edit) : Option Merging := do
  let first := firstIn start base e
  let last := lastIn start base e
  if first < m.appliedEnd then
    return { m with rejected := m.rejected ++ [e] }
  let low ← (first + m.shift).toNat?
  let high ← (last + m.shift).toNat?
  let text ← m.text.replace? low high e.text
  return { text
           rejected := m.rejected
           appliedEnd := last
           shift := m.shift + (e.text.length - (last - first : Nat)) }

theorem Merging.step_of_lt (h : firstIn start t e < m.appliedEnd) :
    m.step start t e = { m with rejected := m.rejected ++ [e] } := if_pos h

theorem Merging.step_of_le (h : m.appliedEnd ≤ firstIn start t e) :
    m.step start t e =
      { text := m.text.take (firstIn start t e + m.shift).toNat ++ e.text ++
          m.text.drop (lastIn start t e + m.shift).toNat
        rejected := m.rejected
        appliedEnd := lastIn start t e
        shift := m.shift + (e.text.length - (lastIn start t e - firstIn start t e : Nat)) } :=
  if_neg (Nat.not_lt.mpr h)

/-- A merge has put `done` in place of the block up to `appliedEnd`, and the rest of the block
has moved by as much as that changed its length. -/
structure Reached (base done : Text) (m : Merging) : Prop where
  text : m.text = done ++ base.drop m.appliedEnd
  within : m.appliedEnd ≤ base.length
  shift : (done.length : Int) = m.appliedEnd + m.shift

namespace Reached

theorem places {first last : Nat} (h : Reached t done m) (hfirst : m.appliedEnd ≤ first)
    (hle : first ≤ last) (hlast : last ≤ t.length) :
    ∃ gone, m.text = done ++ (t.drop m.appliedEnd).take (first - m.appliedEnd) ++ gone ++
        t.drop last ∧
      first + m.shift =
        ((done ++ (t.drop m.appliedEnd).take (first - m.appliedEnd)).length : Nat) ∧
      last + m.shift =
        ((done ++ (t.drop m.appliedEnd).take (first - m.appliedEnd) ++ gone).length : Nat) := by
  have hshift := h.shift
  refine ⟨(t.drop first).take (last - first), ?_, ?_, ?_⟩
  · calc m.text
        = done ++ ((t.drop m.appliedEnd).take (first - m.appliedEnd) ++
            ((t.drop first).take (last - first) ++ t.drop last)) := by
          rw [← t.drop_eq_take_append_drop hle, ← t.drop_eq_take_append_drop hfirst, h.text]
      _ = _ := by simp only [List.append_assoc]
  all_goals
    simp only [List.length_append, List.length_take, List.length_drop]
    omega

theorem reject (h : Reached t done m) (hfirst : firstIn start t e < m.appliedEnd) :
    m.step? start t e = some (m.step start t e) ∧
      m.step start t e = { m with rejected := m.rejected ++ [e] } ∧
      Reached t done (m.step start t e) := by
  rw [Merging.step_of_lt hfirst]
  exact ⟨if_pos hfirst, rfl, h.text, h.within, h.shift⟩

/-- The piece of the block before an accepted edit stays, and the text of the edit comes next. -/
theorem accept (h : Reached t done m) (hfirst : m.appliedEnd ≤ firstIn start t e) :
    m.step? start t e = some (m.step start t e) ∧
      (m.step start t e).appliedEnd = lastIn start t e ∧
      (m.step start t e).rejected = m.rejected ∧
      Reached t (done ++ (t.drop m.appliedEnd).take (firstIn start t e - m.appliedEnd) ++ e.text)
        (m.step start t e) := by
  obtain ⟨gone, htext, hlow, hhigh⟩ :=
    h.places hfirst (firstIn_le_lastIn start t e) (lastIn_le start t e)
  generalize hfront : done ++ (t.drop m.appliedEnd).take (firstIn start t e - m.appliedEnd) =
    front at htext hlow hhigh ⊢
  have hstep : m.step start t e =
      { text := front ++ e.text ++ t.drop (lastIn start t e)
        rejected := m.rejected
        appliedEnd := lastIn start t e
        shift := m.shift + (e.text.length - (lastIn start t e - firstIn start t e : Nat)) } := by
    rw [Merging.step_of_le hfirst, hlow, hhigh, Int.toNat_natCast, Int.toNat_natCast, htext,
      List.drop_left, List.append_assoc front, List.take_left]
  have hstep? : m.step? start t e = some (m.step start t e) := by
    rw [hstep]
    simp only [Merging.step?, Nat.not_lt.mpr hfirst, hlow, hhigh, htext, Int.toNat?,
      Text.replace?_append, if_false, Option.bind_eq_bind, Option.bind_some, Option.pure_def]
  refine ⟨hstep?, ?_⟩
  rw [hstep]
  refine ⟨rfl, rfl, rfl, lastIn_le start t e, ?_⟩
  have hle := firstIn_le_lastIn start t e
  simp only [List.length_append]
  omega

/-- No edit fails a check, the accepted ones replace their pieces, and the others are left. -/
theorem foldl (start : Position) (edits : List Edit) (previous : Option Edit)
    (h : Reached t done m) (hprevious : m.appliedEnd = (previous.map (lastIn start t)).getD 0) :
    edits.foldlM (Merging.step? start t) m = some (edits.foldl (Merging.step start t) m) ∧
      (edits.foldl (Merging.step start t) m).text =
        done ++ replacedFrom start t m.appliedEnd (sift start t previous edits).1 ∧
      (edits.foldl (Merging.step start t) m).rejected =
        m.rejected ++ (sift start t previous edits).2 := by
  induction edits generalizing done m previous with
  | nil => exact ⟨rfl, h.text, (List.append_nil _).symm⟩
  | cons e rest ih =>
      have hfollows : Follows start t previous e ↔ m.appliedEnd ≤ firstIn start t e := by
        rw [hprevious]
        cases previous <;> simp [Follows]
      rw [List.foldlM_cons, List.foldl_cons]
      by_cases hfirst : m.appliedEnd ≤ firstIn start t e
      · obtain ⟨hstep, hend, hrejected, hreached⟩ := h.accept hfirst
        obtain ⟨hrun, htext, hleft⟩ := ih (some e) hreached hend
        rw [hstep, sift, if_pos (hfollows.mpr hfirst)]
        refine ⟨hrun, ?_, ?_⟩
        · rw [htext, hend, replacedFrom]
          simp only [List.append_assoc]
        · rw [hleft, hrejected]
      · obtain ⟨hstep, heq, hreached⟩ := h.reject (Nat.lt_of_not_le hfirst)
        obtain ⟨hrun, htext, hleft⟩ := ih previous hreached (by rw [heq, hprevious])
        rw [hstep, sift, if_neg (mt hfollows.mp hfirst)]
        refine ⟨hrun, ?_, ?_⟩
        · rw [htext, heq]
        · rw [hleft, heq, List.append_assoc]
          rfl

end Reached

/-- A merge gives the pieces of the block between the accepted edits with the texts of these, and
the rejected edits.  It never shifts a place below the start of the text and never takes out or
puts in characters beyond its end. -/
theorem merge_eq_replacedFrom (start : Position) (t : Text) (edits : List Edit) :
    edits.foldlM (Merging.step? start t) ⟨t, [], 0, 0⟩ =
        some (edits.foldl (Merging.step start t) ⟨t, [], 0, 0⟩) ∧
      merge start t edits =
        (replacedFrom start t 0 (sift start t none edits).1, (sift start t none edits).2) := by
  have hreached : Reached t [] ⟨t, [], 0, 0⟩ := ⟨rfl, Nat.zero_le _, rfl⟩
  obtain ⟨hrun, htext, hrejected⟩ := hreached.foldl start edits none rfl
  refine ⟨hrun, ?_⟩
  rw [merge, htext, hrejected, List.nil_append, List.nil_append]

end Edit

end BlockOrder
