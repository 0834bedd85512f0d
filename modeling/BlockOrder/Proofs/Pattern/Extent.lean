import BlockOrder.Proofs.Pattern.Opener

/-!
# Matches lie in the text

A pattern may look ahead and behind, repeat, go back to what it has recorded and move the start of
its match.  The cursors with which it ends stand in the text all the same in which it was begun.
So every match that is found ends inside the text, and not before it starts.
-/

namespace BlockOrder

namespace Cursor

variable {t : Text} {c e : Cursor}

/-- What is before the cursor and what comes after it make up the text. -/
structure Stands (t : Text) (c : Cursor) : Prop where
  text : c.before.reverse ++ c.rest = t
  pos : c.pos = c.before.length

namespace Stands

theorem pos_le (h : Stands t c) : c.pos ≤ t.length := by
  rw [h.pos, ← h.text, List.length_append, List.length_reverse]
  exact Nat.le_add_right _ _

theorem withRecords (h : Stands t c) (records : Records) :
    Stands t { c with records := records } := ⟨h.text, h.pos⟩

theorem next {x : Char} {rest : Text} (h : Stands t c) (hrest : c.rest = x :: rest)
    (records : Records) : Stands t ⟨c.pos + 1, x :: c.before, rest, records⟩ := by
  refine ⟨?_, congrArg (· + 1) h.pos⟩
  rw [← h.text, hrest, List.reverse_cons, List.append_assoc]
  rfl

theorem forward (h : Stands t c) (n : Nat) : Stands t (c.forward n) := by
  induction n generalizing c with
  | zero => exact h
  | succ n ih =>
      rw [Cursor.forward]
      split
      · exact h
      · next hrest => exact ih (h.next hrest _)

theorem of_skip? {s : Text} (h : Stands t c) (he : skip? s c = some e) : Stands t e := by
  induction s generalizing c with
  | nil =>
      obtain rfl := Option.some.inj he
      exact h
  | cons x s ih =>
      rw [skip?] at he
      split at he
      · next hrest =>
          split at he
          · exact ih (h.next hrest _) he
          · cases he
      · cases he

end Stands

end Cursor

/-! ## Repetitions -/

section

variable {P : Cursor → Prop} {step : Cursor → List Cursor} {c : Cursor} {a : Trail}

namespace Trail

/-- The repetition may end with cursors of a kind only. -/
def All (P : Cursor → Prop) (a : Trail) : Prop := ∀ e ∈ a.found, P e

theorem all_empty : All P ⟨{}, []⟩ := fun _ he => nomatch he

theorem All.emit (ha : a.All P) (hc : P c) : (a.emit c).All P := List.forall_mem_cons.mpr ⟨hc, ha⟩

/-- The rounds that follow on a cursor, and the cursor itself before them or after them. -/
theorem All.rounds {cs : List Cursor} {f : Trail → Cursor → Trail}
    (hf : ∀ next ∈ cs, ∀ b : Trail, b.All P → (f b next).All P) (greedy : Bool) (ha : a.All P)
    (hc : P c) :
    All P (if greedy then (cs.foldl f (if greedy then a else a.emit c)).emit c
      else cs.foldl f (if greedy then a else a.emit c)) := by
  have hfold : ∀ b : Trail, b.All P → (cs.foldl f b).All P := by
    intro b hb
    exact List.foldlRecOn cs f hb fun b hb next hnext => hf next hnext b hb
  cases greedy with
  | true => exact (hfold a ha).emit hc
  | false => exact hfold _ (ha.emit hc)

end Trail

theorem explore_all (hstep : ∀ c, P c → ∀ e ∈ step c, P e) (greedy : Bool) (fuel : Nat) (hc : P c)
    (ha : a.All P) : (explore greedy step fuel c a).All P := by
  induction fuel generalizing c a with
  | zero => exact ha.emit hc
  | succ fuel ih =>
      rw [explore]
      split
      · exact ha
      · refine Trail.All.rounds (a := { a with begun := _ }) ?_ greedy ha hc
        intro next hnext b hb
        split
        · exact hb
        · exact ih (hstep c hc next hnext) hb

theorem exploreUpTo_all (hstep : ∀ c, P c → ∀ e ∈ step c, P e) (greedy : Bool) (size n : Nat)
    (hc : P c) (ha : a.All P) : (exploreUpTo greedy size step n c a).All P := by
  induction n generalizing c a with
  | zero => exact ha.emit hc
  | succ n ih =>
      simp only [exploreUpTo]
      split
      · exact ha
      · refine Trail.All.rounds (a := { a with begun := _ }) ?_ greedy ha hc
        intro next hnext b hb
        exact ih (hstep c hc next hnext) hb

theorem of_mem_stepTimes (hstep : ∀ c, P c → ∀ e ∈ step c, P e) (n : Nat) {cs : List Cursor}
    (hcs : ∀ c ∈ cs, P c) : ∀ e ∈ stepTimes step n cs, P e := by
  induction n generalizing cs with
  | zero => exact hcs
  | succ n ih =>
      cases cs with
      | nil => exact nofun
      | cons c cs =>
          apply ih
          intro e he
          obtain ⟨m, hm, he⟩ := List.mem_flatMap.mp (Matcher.mem_of_mem_distinct he)
          exact hstep m (hcs m hm) e he

end

theorem stands_of_mem_runOf {t : Text} {s : CharSet} {records : Records} {pos : Nat}
    {before rest : Text} (h : Cursor.Stands t ⟨pos, before, rest, records⟩) {e : Cursor}
    (he : e ∈ runOf s records pos before rest) : Cursor.Stands t e := by
  induction rest generalizing pos before with
  | nil =>
      obtain rfl := List.mem_singleton.mp he
      exact h
  | cons x rest ih =>
      rw [runOf] at he
      obtain rfl | he := List.mem_cons.mp he
      · exact h
      · split at he
        · exact ih (h.next rfl records) he
        · cases he

/-! ## Matching -/

namespace Matcher

variable {t : Text} {c e : Cursor} {origin : Option Nat}

/-- Looking ahead or behind leads nowhere else. -/
theorem stands_of_mem_look (hc : c.Stands t) (positive : Bool) (found : List Cursor)
    (he : e ∈ match found with
      | [] => if positive then [] else [c]
      | e :: _ => if positive then [{ c with records := e.records }] else []) : e.Stands t := by
  cases found <;> cases positive
  · obtain rfl := List.mem_singleton.mp he
    exact hc
  · cases he
  · cases he
  · obtain rfl := List.mem_singleton.mp he
    exact hc.withRecords _

/-- A pattern ends in the text in which it was begun. -/
theorem stands_of_mem_outcomes {p : Matcher} (hc : c.Stands t) (he : e ∈ p.outcomes origin c) :
    e.Stands t := by
  induction p generalizing c e with
  | empty =>
      obtain rfl := List.mem_singleton.mp he
      exact hc
  | one s =>
      rw [outcomes] at he
      split at he
      · cases he
      · next hrest =>
          split at he
          · obtain rfl := List.mem_singleton.mp he
            exact hc.next hrest _
          · cases he
  | check a =>
      rw [outcomes] at he
      split at he
      · obtain rfl := List.mem_singleton.mp he
        exact hc
      · cases he
  | seq p q ihp ihq =>
      obtain ⟨m, hm, he⟩ := exists_of_mem_outcomes_seq he
      exact ihq (ihp hc hm) he
  | alt p q ihp ihq =>
      obtain he | he := List.mem_append.mp (mem_of_mem_distinct he)
      · exact ihp hc he
      · exact ihq hc he
  | times n p ih =>
      refine of_mem_stepTimes (fun c hc e he => ih hc he) n ?_ e he
      exact List.forall_mem_singleton.mpr hc
  | upTo greedy n p ih =>
      have hfound := List.mem_reverse.mp (mem_of_mem_distinct he)
      exact exploreUpTo_all (fun c hc e he => ih hc he) greedy _ n hc Trail.all_empty e hfound
  | star greedy p ih =>
      have hexplored : e ∈ distinct (explore greedy (p.outcomes origin) (c.rest.length + 1) c
          ⟨{}, []⟩).found.reverse → e.Stands t := by
        intro he
        have hfound := List.mem_reverse.mp (mem_of_mem_distinct he)
        exact explore_all (fun c hc e he => ih hc he) greedy _ hc Trail.all_empty e hfound
      cases p with
      | one s =>
          rw [outcomes] at he
          refine stands_of_mem_runOf (s := s) hc ?_
          cases greedy with
          | true => exact List.mem_reverse.mp he
          | false => exact he
      | _ => exact hexplored he
  | record i p ih =>
      rw [outcomes] at he
      obtain ⟨m, hm, rfl⟩ := List.mem_map.mp he
      exact (ih (hc.withRecords _) hm).withRecords _
  | again i anyCase =>
      rw [outcomes] at he
      split at he
      · cases he
      · exact hc.of_skip? (Option.mem_toList.mp he)
  | recorded i =>
      rw [outcomes] at he
      split at he
      · obtain rfl := List.mem_singleton.mp he
        exact hc
      · cases he
  | ahead positive p ih => exact stands_of_mem_look hc positive _ he
  | behind positive width p ih =>
      cases width <;> exact stands_of_mem_look hc positive _ he
  | atomic p ih => exact ih hc (List.mem_of_mem_take he)
  | automaton a =>
      rw [outcomes] at he
      split at he
      · cases he
      · obtain rfl := List.mem_singleton.mp he
        exact hc.forward _
  | restart =>
      obtain rfl := List.mem_singleton.mp he
      exact hc.withRecords _
  | resume =>
      rw [outcomes] at he
      split at he
      · obtain rfl := List.mem_singleton.mp he
        exact hc
      · cases he
  | choose t p q iht ihp ihq =>
      rw [outcomes] at he
      split at he
      · exact ihq hc he
      · next hfirst => exact ihp (iht hc (hfirst ▸ List.mem_cons_self)) he

theorem matchAt?_extent {p : Matcher} {m : Span} (hc : c.Stands t)
    (hm : p.matchAt? origin c = some m) : m.start ≤ m.stop ∧ m.stop ≤ t.length := by
  obtain ⟨e, he, rfl⟩ := Option.map_eq_some_iff.mp hm
  have hstands := stands_of_mem_outcomes hc (List.mem_of_head? he)
  exact ⟨Nat.min_le_right _ _, hstands.pos_le⟩

theorem searchFrom_extent {p : Matcher} {m : Span} {pos : Nat} {before rest : Text}
    (hc : Cursor.Stands t ⟨pos, before, rest, {}⟩)
    (hm : p.searchFrom origin pos before rest = some m) :
    m.start ≤ m.stop ∧ m.stop ≤ t.length := by
  induction rest generalizing pos before with
  | nil => exact matchAt?_extent hc hm
  | cons x rest ih =>
      rw [searchFrom] at hm
      split at hm
      · next hmatch => exact matchAt?_extent hc (hmatch.trans hm)
      · exact ih (hc.next rfl {}) hm

theorem find?_extent {p : Matcher} {m : Span} (hm : p.find? t = some m) :
    m.start ≤ m.stop ∧ m.stop ≤ t.length :=
  searchFrom_extent ⟨rfl, rfl⟩ hm

end Matcher

end BlockOrder
