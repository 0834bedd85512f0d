import Mathlib.Data.List.Forall2
import BlockOrder.Pattern.Search
import BlockOrder.Proofs.Text.CasePairs

/-!
# Patterns that look ahead only

Whether such a pattern matches at a place, and how far, depends on the characters after the place
and on nothing else.  Matching at a place is compared with matching at the start of what follows
there: all cursors on the way are the same but for their offsets, and so are the sets of cursors
that have been met.
-/

namespace BlockOrder

namespace Assertion

/-- Whether the condition is about the characters that follow. -/
def looksAhead : Assertion → Bool
  | textEnd | lineEnd | noWordAfter => true
  | _ => false

theorem holds_of_looksAhead {a : Assertion} (h : a.looksAhead = true) (before before' rest : Text) :
    a.holds before rest = a.holds before' rest := by
  cases a with
  | textEnd | lineEnd | noWordAfter => rfl
  | _ => exact absurd h (by decide)

end Assertion

namespace Matcher

/-- Whether the pattern has a shape in which nothing asks for what comes before, and nothing is
recorded. -/
def isForward : Matcher → Bool
  | empty | one _ => true
  | check a => a.looksAhead
  | seq p q | alt p q => p.isForward && q.isForward
  | star _ p | atomic p => p.isForward
  | _ => false

end Matcher

/-- Two cursors at one place of a text: the text of the first one starts `d` characters late. -/
structure Cursor.Moved (d : Nat) (t : Text) (c c' : Cursor) : Prop where
  pos : c.pos = d + c'.pos
  inside : c'.pos ≤ t.length
  rest : c.rest = t.drop c'.pos
  rest' : c'.rest = t.drop c'.pos
  records : c.records = {}
  records' : c'.records = {}

section

variable {d : Nat} {t : Text} {c c' : Cursor}

open List (Forall₂)

namespace Cursor.Moved

theorem refl (pos : Nat) (before rest : Text) :
    Moved pos rest ⟨pos, before, rest, {}⟩ ⟨0, [], rest, {}⟩ :=
  ⟨rfl, Nat.zero_le _, rfl, rfl, rfl, rfl⟩

/-- The cursors after one more character. -/
theorem next {x : Char} {rest : Text} (h : Moved d t c c') (hrest : c.rest = x :: rest)
    (before before' : Text) :
    Moved d t ⟨c.pos + 1, before, rest, {}⟩ ⟨c'.pos + 1, before', rest, {}⟩ := by
  have hdrop : t.drop c'.pos = x :: rest := h.rest.symm.trans hrest
  have hinside : c'.pos < t.length := by
    rw [← Nat.not_le, ← List.drop_eq_nil_iff, hdrop]
    exact List.cons_ne_nil x rest
  have htail : rest = t.drop (c'.pos + 1) := by
    rw [← List.drop_drop, hdrop, List.drop_one, List.tail_cons]
  refine ⟨?_, hinside, htail, htail, rfl, rfl⟩
  exact congrArg (· + 1) h.pos

theorem of_mem {cs cs' : List Cursor} (h : Forall₂ (Moved d t) cs cs') {e : Cursor}
    (he : e ∈ cs) : ∃ e', Moved d t e e' := by
  induction h with
  | nil => cases he
  | cons hc _ ih =>
      obtain rfl | he := List.mem_cons.mp he
      · exact ⟨_, hc⟩
      · exact ih he

end Cursor.Moved

/-! ## Cursors that have been met -/

/-- The same places have been met, but for their offsets. -/
def Visited.Moved (d : Nat) (v v' : Visited) : Prop :=
  ∀ n, v.bits.testBit (d + n) = v'.bits.testBit n

namespace Visited

theorem moved_empty : Moved d {} {} := by
  intro n
  change Nat.testBit 0 _ = Nat.testBit 0 _
  rw [Nat.zero_testBit, Nat.zero_testBit]

theorem has_of_records {v : Visited} (h : c.records = {}) :
    v.has c.pos c = v.bits.testBit c.pos := by
  rw [has, h]
  rfl

theorem testBit_add {v : Visited} (h : c.records = {}) (n : Nat) :
    (v.add c.pos c).bits.testBit n = (v.bits.testBit n || decide (n = c.pos)) := by
  rw [add, h]
  exact testBit_or_one_shiftLeft v.bits c.pos n

variable {v v' : Visited}

theorem Moved.has (hv : Moved d v v') (hc : Cursor.Moved d t c c') :
    v.has c.pos c = v'.has c'.pos c' := by
  rw [has_of_records hc.records, has_of_records hc.records', hc.pos]
  exact hv c'.pos

theorem Moved.add (hv : Moved d v v') (hc : Cursor.Moved d t c c') :
    Moved d (v.add c.pos c) (v'.add c'.pos c') := by
  intro n
  have hplace : d + n = c.pos ↔ n = c'.pos := by
    rw [hc.pos]
    exact Nat.add_left_cancel_iff
  rw [testBit_add hc.records, testBit_add hc.records', hv n, decide_eq_decide.mpr hplace]

end Visited

theorem distinctFrom_moved {cs cs' : List Cursor} (hcs : Forall₂ (Cursor.Moved d t) cs cs')
    {v v' : Visited} (hv : v.Moved d v') :
    Forall₂ (Cursor.Moved d t) (distinctFrom v cs) (distinctFrom v' cs') := by
  induction hcs generalizing v v' with
  | nil => exact .nil
  | cons hc _ ih =>
      rw [distinctFrom, distinctFrom, hv.has hc]
      split
      · exact ih hv
      · exact .cons hc (ih (hv.add hc))

theorem distinct_moved {cs cs' : List Cursor} (hcs : Forall₂ (Cursor.Moved d t) cs cs') :
    Forall₂ (Cursor.Moved d t) (distinct cs) (distinct cs') := by
  match hcs with
  | .nil => exact .nil
  | .cons hc .nil => exact .cons hc .nil
  | .cons hc (.cons hnext hmore) =>
      exact distinctFrom_moved (.cons hc (.cons hnext hmore)) Visited.moved_empty

/-! ## Repetitions -/

structure Trail.Moved (d : Nat) (t : Text) (a a' : Trail) : Prop where
  begun : a.begun.Moved d a'.begun
  found : Forall₂ (Cursor.Moved d t) a.found a'.found

namespace Trail.Moved

variable {a a' : Trail}

theorem emit (h : Moved d t a a') (hc : Cursor.Moved d t c c') :
    Moved d t (a.emit c) (a'.emit c') :=
  ⟨h.begun, .cons hc h.found⟩

theorem begin (h : Moved d t a a') (hc : Cursor.Moved d t c c') :
    Moved d t { a with begun := a.begun.add c.pos c }
      { a' with begun := a'.begun.add c'.pos c' } :=
  ⟨h.begun.add hc, h.found⟩

end Trail.Moved

theorem explore_moved {step step' : Cursor → List Cursor}
    (hstep : ∀ c c', Cursor.Moved d t c c' → Forall₂ (Cursor.Moved d t) (step c) (step' c'))
    (greedy : Bool) (fuel : Nat) {a a' : Trail} (hc : Cursor.Moved d t c c')
    (ha : a.Moved d t a') :
    (explore greedy step fuel c a).Moved d t (explore greedy step' fuel c' a') := by
  induction fuel generalizing c c' a a' with
  | zero => exact ha.emit hc
  | succ fuel ih =>
      rw [explore, explore, ha.begun.has hc]
      split
      · exact ha
      · -- every next cursor leads from trails that agree to trails that agree
        have hround : ∀ {b b' : Trail}, b.Moved d t b' →
            ((step c).foldl (fun b next => if next.pos = c.pos then b
                else explore greedy step fuel next b) b).Moved d t
              ((step' c').foldl (fun b next => if next.pos = c'.pos then b
                else explore greedy step' fuel next b) b') := by
          intro b b' hb
          refine List.rel_foldl ?_ hb (hstep c c' hc)
          intro b b' hb next next' hnext
          have hsame : next.pos = c.pos ↔ next'.pos = c'.pos := by
            rw [hnext.pos, hc.pos]
            exact Nat.add_left_cancel_iff
          dsimp only
          by_cases hpos : next.pos = c.pos
          · rw [if_pos hpos, if_pos (hsame.mp hpos)]
            exact hb
          · rw [if_neg hpos, if_neg (mt hsame.mpr hpos)]
            exact ih hnext hb
        cases greedy with
        | true => exact (hround (ha.begin hc)).emit hc
        | false => exact hround ((ha.begin hc).emit hc)

theorem runOf_moved (s : CharSet) {rest : Text} (hc : Cursor.Moved d t c c')
    (hrest : c.rest = rest) (before before' : Text) :
    Forall₂ (Cursor.Moved d t) (runOf s {} c.pos before rest)
      (runOf s {} c'.pos before' rest) := by
  have hhere : ∀ {rest}, c.rest = rest → Cursor.Moved d t ⟨c.pos, before, rest, {}⟩
      ⟨c'.pos, before', rest, {}⟩ := by
    rintro rest rfl
    exact ⟨hc.pos, hc.inside, hc.rest, hc.rest, rfl, rfl⟩
  induction rest generalizing c c' before before' with
  | nil => exact .cons (hhere hrest) .nil
  | cons x rest ih =>
      rw [runOf, runOf]
      refine .cons (hhere hrest) ?_
      split
      · have hnext := hc.next hrest (x :: before) (x :: before')
        refine ih hnext rfl _ _ ?_
        rintro _ rfl
        exact hnext
      · exact .nil

/-! ## Matching -/

namespace Matcher

theorem outcomes_moved {p : Matcher} (hp : p.isForward = true) (origin origin' : Option Nat)
    (hc : Cursor.Moved d t c c') :
    Forall₂ (Cursor.Moved d t) (p.outcomes origin c) (p.outcomes origin' c') := by
  induction p generalizing c c' with
  | empty => exact .cons hc .nil
  | one s =>
      rw [outcomes, outcomes, hc.rest', ← hc.rest]
      split
      · exact .nil
      · rename_i x rest hrest
        split
        · rw [hc.records, hc.records']
          exact .cons (hc.next hrest _ _) .nil
        · exact .nil
  | check a =>
      rw [outcomes, outcomes, Assertion.holds_of_looksAhead hp c.before c'.before, hc.rest',
        ← hc.rest]
      split
      · exact .cons hc .nil
      · exact .nil
  | seq p q ihp ihq =>
      rw [isForward, Bool.and_eq_true] at hp
      rw [outcomes, outcomes]
      match p.outcomes origin c, p.outcomes origin' c', ihp hp.1 hc with
      | _, _, .nil => exact .nil
      | _, _, .cons hm .nil => exact ihq hp.2 hm
      | _, _, .cons hm (.cons hnext hmore) =>
          apply distinct_moved
          apply List.rel_flatMap (.cons hm (.cons hnext hmore))
          intro m m' hm
          exact ihq hp.2 hm
  | alt p q ihp ihq =>
      rw [isForward, Bool.and_eq_true] at hp
      exact distinct_moved (List.rel_append (ihp hp.1 hc) (ihq hp.2 hc))
  | star greedy p ih =>
      have hexplored : Forall₂ (Cursor.Moved d t)
          (distinct
            (explore greedy (p.outcomes origin) (c.rest.length + 1) c ⟨{}, []⟩).found.reverse)
          (distinct (explore greedy (p.outcomes origin') (c'.rest.length + 1) c'
            ⟨{}, []⟩).found.reverse) := by
        have hlength : c'.rest.length = c.rest.length := by
          rw [hc.rest, hc.rest']
        rw [hlength]
        apply distinct_moved
        apply List.rel_reverse
        refine (explore_moved ?_ greedy _ hc ⟨Visited.moved_empty, .nil⟩).found
        intro c c' hc
        exact ih hp hc
      cases p with
      | one s =>
          have hrun := runOf_moved s hc rfl c.before c'.before
          have hrest : c.rest = c'.rest := hc.rest.trans hc.rest'.symm
          rw [outcomes, outcomes, hc.records, hc.records', ← hrest]
          split
          · exact List.rel_reverse hrun
          · exact hrun
      | _ => exact hexplored
  | atomic p ih => exact List.forall₂_take 1 (ih hp hc)
  | _ => exact absurd hp (by simp [isForward])

/-- How far the first match at the start of a text goes. -/
def reach? (p : Matcher) (t : Text) : Option Nat :=
  (p.outcomes none ⟨0, [], t, {}⟩).head?.map Cursor.pos

theorem exists_of_reach? {p : Matcher} (hp : p.isForward = true) {t : Text} {n : Nat}
    (h : p.reach? t = some n) :
    n ≤ t.length ∧ ∃ e, (p.outcomes none ⟨0, [], t, {}⟩).head? = some e ∧ e.rest = t.drop n := by
  have hmoved := outcomes_moved hp none none (.refl 0 [] t)
  rw [reach?] at h
  match p.outcomes none ⟨0, [], t, {}⟩, hmoved, h with
  | e :: _, .cons he _, h =>
      obtain rfl := Option.some.inj h
      have hpos := he.pos
      rw [Nat.zero_add] at hpos
      exact ⟨hpos ▸ he.inside, e, rfl, hpos ▸ he.rest⟩

/-- A match reaches as far at every place as it does at the start of what follows there. -/
theorem matchAt?_of_isForward {p : Matcher} (hp : p.isForward = true) (origin : Option Nat)
    (pos : Nat) (before rest : Text) :
    p.matchAt? origin ⟨pos, before, rest, {}⟩ =
      (p.reach? rest).map fun n => ⟨pos, pos + n⟩ := by
  rw [matchAt?, reach?]
  match p.outcomes origin ⟨pos, before, rest, {}⟩, p.outcomes none ⟨0, [], rest, {}⟩,
      outcomes_moved hp origin none (.refl pos before rest) with
  | _, _, .nil => rfl
  | e :: _, e' :: _, .cons he _ =>
      have hmin : min (e.records.start.getD pos) e.pos = pos := by
        rw [he.records, he.pos]
        exact Nat.min_eq_left (Nat.le_add_right _ _)
      rw [List.head?_cons, List.head?_cons, Option.map_some, Option.map_some, Option.map_some,
        hmin, he.pos]

end Matcher

end

end BlockOrder
