import BlockOrder.Lines.Cache

/-!
# Computations that may be cancelled

How a computation that succeeds goes on, and what it means that a computation has one result
from all states of a kind.  The state of such a computation is the line cache, or contains it.
-/

namespace BlockOrder

variable {ε σ α β : Type}

theorem bind_of_ok {x : EStateM ε σ α} {f : α → EStateM ε σ β} {s s' : σ} {a : α}
    (h : x s = .ok a s') : (x >>= f) s = f a s' := by
  simp [bind, EStateM.bind, h]

theorem bind_of_error {x : EStateM ε σ α} {f : α → EStateM ε σ β} {s s' : σ} {e : ε}
    (h : x s = .error e s') : (x >>= f) s = .error e s' := by
  simp [bind, EStateM.bind, h]

theorem exists_ok_of_bind {x : EStateM ε σ α} {f : α → EStateM ε σ β} {s s'' : σ} {b : β}
    (h : (x >>= f) s = .ok b s'') : ∃ a s', x s = .ok a s' ∧ f a s' = .ok b s'' := by
  cases hx : x s with
  | ok a s' =>
      rw [bind_of_ok hx] at h
      exact ⟨a, s', rfl, h⟩
  | error e s' =>
      rw [bind_of_error hx] at h
      cases h

/-- What a computation does next matters for the results that it has, and for no others. -/
theorem bind_congr_of_ok {x : EStateM ε σ α} {f g : α → EStateM ε σ β} {s : σ}
    (h : ∀ a s', x s = .ok a s' → f a s' = g a s') : (x >>= f) s = (x >>= g) s := by
  cases hx : x s with
  | ok a s' => rw [bind_of_ok hx, bind_of_ok hx, h a s' hx]
  | error e s' => rw [bind_of_error hx, bind_of_error hx]

/-- From every state with `I` the computation succeeds, always with the result `a`, and leaves a
state with `J`. -/
def Yields (I : σ → Prop) (x : EStateM ε σ α) (a : α) (J : σ → Prop) : Prop :=
  ∀ s, I s → ∃ s', x s = .ok a s' ∧ J s'

namespace Yields

variable {I I' J J' K : σ → Prop} {x : EStateM ε σ α} {f : α → EStateM ε σ β} {a : α} {b : β}

theorem pure (a : α) : Yields I (Pure.pure a : EStateM ε σ α) a I := fun s hs => ⟨s, rfl, hs⟩

theorem bind (hx : Yields I x a J) (hf : Yields J (f a) b K) : Yields I (x >>= f) b K := by
  intro s hs
  obtain ⟨s', hxs, hs'⟩ := hx s hs
  obtain ⟨s'', hfs, hs''⟩ := hf s' hs'
  exact ⟨s'', by rw [bind_of_ok hxs, hfs], hs''⟩

theorem mono (hx : Yields I x a J) (hI : ∀ s, I' s → I s) (hJ : ∀ s, J s → J' s) :
    Yields I' x a J' := by
  intro s hs
  obtain ⟨s', hxs, hs'⟩ := hx s (hI s hs)
  exact ⟨s', hxs, hJ s' hs'⟩

/-- Reading the state is harmless if what goes on is the same for all states with `I`. -/
theorem get_bind {f : σ → EStateM ε σ β} {y : EStateM ε σ β} (hf : ∀ s, I s → f s = y)
    (hy : Yields I y b J) : Yields I (get >>= f) b J := by
  intro s hs
  obtain ⟨s', hys, hs'⟩ := hy s hs
  refine ⟨s', ?_, hs'⟩
  rw [← hys, ← hf s hs]
  rfl

end Yields

/-- From every state the computation succeeds, with a result that has a property. -/
def Returns (x : EStateM ε σ α) (P : α → Prop) : Prop := ∀ s, ∃ a s', x s = .ok a s' ∧ P a

namespace Returns

variable {x : EStateM ε σ α} {f : α → EStateM ε σ β} {P : α → Prop} {Q : β → Prop}

theorem pure {a : α} (ha : P a) : Returns (Pure.pure a : EStateM ε σ α) P :=
  fun s => ⟨a, s, rfl, ha⟩

theorem bind (hx : Returns x P) (hf : ∀ a, P a → Returns (f a) Q) : Returns (x >>= f) Q := by
  intro s
  obtain ⟨a, s', hxs, ha⟩ := hx s
  obtain ⟨b, s'', hfs, hb⟩ := hf a ha s'
  exact ⟨b, s'', by rw [bind_of_ok hxs, hfs], hb⟩

theorem get_bind {f : σ → EStateM ε σ β} (hf : ∀ s, Returns (f s) Q) : Returns (get >>= f) Q :=
  fun s => hf s s

end Returns

/-- From every state with `I` the computation succeeds, leaves such a state, and has a result
with `P`. -/
def Delivers (I : σ → Prop) (x : EStateM ε σ α) (P : α → Prop) : Prop :=
  ∀ s, I s → ∃ a s', x s = .ok a s' ∧ I s' ∧ P a

namespace Delivers

variable {I : σ → Prop} {x : EStateM ε σ α} {P : α → Prop} {Q : β → Prop}

theorem pure {a : α} (ha : P a) : Delivers I (Pure.pure a : EStateM ε σ α) P :=
  fun s hs => ⟨a, s, rfl, hs, ha⟩

theorem bind {f : α → EStateM ε σ β} (hx : Delivers I x P)
    (hf : ∀ a, P a → Delivers I (f a) Q) : Delivers I (x >>= f) Q := by
  intro s hs
  obtain ⟨a, s', hxs, hs', ha⟩ := hx s hs
  obtain ⟨b, s'', hfs, hs'', hb⟩ := hf a ha s' hs'
  exact ⟨b, s'', by rw [bind_of_ok hxs, hfs], hs'', hb⟩

theorem get_bind {f : σ → EStateM ε σ β} (hf : ∀ s, Delivers I (f s) Q) :
    Delivers I (get >>= f) Q := fun s hs => hf s s hs

theorem of_yields {a : α} {J : σ → Prop} (hx : Yields I x a J) (hJ : ∀ s, J s → I s) :
    Delivers I x (· = a) := by
  intro s hs
  obtain ⟨s', hxs, hs'⟩ := hx s hs
  exact ⟨a, s', hxs, hJ s' hs', rfl⟩

end Delivers

/-- The state that a computation leaves, whether it succeeds or not. -/
def final : EStateM.Result ε σ α → σ
  | .ok _ s => s
  | .error _ s => s

section Transparent

variable {ι : Type}

/-- From a state of one of the kinds `I` the computation leaves a state of one of these kinds. -/
def Safe (I : ι → σ → Prop) (x : EStateM ε σ α) : Prop := ∀ i s, I i s → ∃ j, I j (final (x s))

theorem Safe.pure {I : ι → σ → Prop} (a : α) : Safe I (Pure.pure a : EStateM ε σ α) :=
  fun i _ hs => ⟨i, hs⟩

theorem Safe.bind {I : ι → σ → Prop} {x : EStateM ε σ α} {f : α → EStateM ε σ β}
    (hx : Safe I x) (hf : ∀ a, Safe I (f a)) : Safe I (x >>= f) := by
  intro i s hs
  obtain ⟨j, hj⟩ := hx i s hs
  cases h : x s with
  | ok a s' =>
      rw [h] at hj
      rw [bind_of_ok h]
      exact hf a j s' hj
  | error e s' =>
      rw [h] at hj
      rw [bind_of_error h]
      exact ⟨j, hj⟩

/-- The computation keeps to states of the kinds `I`.  Unless it is cancelled it succeeds, and its
result and the kind of state it leaves depend on nothing but the kind of state it starts from. -/
structure Transparent (I : ι → σ → Prop) (cancelled : Bool) (x : EStateM ε σ α) : Prop where
  safe : Safe I x
  steady : cancelled = false → ∀ i, ∃ a j, Yields (I i) x a (I j)

namespace Transparent

variable {I : ι → σ → Prop} {cancelled : Bool} {x : EStateM ε σ α} {f : α → EStateM ε σ β}

theorem pure (a : α) : Transparent I cancelled (Pure.pure a : EStateM ε σ α) :=
  ⟨.pure a, fun _ i => ⟨a, i, .pure a⟩⟩

theorem bind (hx : Transparent I cancelled x) (hf : ∀ a, Transparent I cancelled (f a)) :
    Transparent I cancelled (x >>= f) := by
  refine ⟨hx.safe.bind fun a => (hf a).safe, fun hnot i => ?_⟩
  obtain ⟨a, j, ha⟩ := hx.steady hnot i
  obtain ⟨b, k, hb⟩ := (hf a).steady hnot j
  exact ⟨b, k, ha.bind hb⟩

end Transparent

end Transparent

/-! ## Computations that may fail as well -/

section Fallible

variable {δ : Type} {x : ExceptT δ (EStateM ε σ) α} {f : α → ExceptT δ (EStateM ε σ) β}

/-- What cannot fail goes on as it does elsewhere. -/
theorem run_lift_bind (x : EStateM ε σ α) (f : α → ExceptT δ (EStateM ε σ) β) :
    (liftM x >>= f).run = x >>= fun a => (f a).run := by
  funext s
  change EStateM.bind (EStateM.bind x _) _ s = EStateM.bind x _ s
  unfold EStateM.bind
  cases x s <;> rfl

theorem run_bind (x : ExceptT δ (EStateM ε σ) α) (f : α → ExceptT δ (EStateM ε σ) β) :
    (x >>= f).run = x.run >>= fun
      | .ok a => (f a).run
      | .error e => pure (.error e) := by
  funext s
  change EStateM.bind x _ s = EStateM.bind x _ s
  unfold EStateM.bind
  cases x s with
  | ok r _ => cases r <;> rfl
  | error _ _ => rfl

theorem run_bind_of_ok {s s' : σ} {a : α} (h : x.run s = .ok (.ok a) s') :
    (x >>= f).run s = (f a).run s' := by
  rw [run_bind, bind_of_ok h]

theorem run_bind_of_error {s s' : σ} {e : δ} (h : x.run s = .ok (.error e) s') :
    (x >>= f).run s = .ok (.error e) s' := by
  rw [run_bind, bind_of_ok h]
  rfl

theorem Yields.run_lift {I J : σ → Prop} {x : EStateM ε σ α} {a : α} (hx : Yields I x a J) :
    Yields I (liftM x : ExceptT δ (EStateM ε σ) α).run (.ok a) J := hx.bind (.pure _)

theorem Yields.run_bind {I J K : σ → Prop} {a : α} {r : Except δ β} (hx : Yields I x.run (.ok a) J)
    (hf : Yields J (f a).run r K) : Yields I (x >>= f).run r K := by
  rw [BlockOrder.run_bind]
  exact hx.bind hf

theorem Yields.run_lift_bind {I J K : σ → Prop} {x : EStateM ε σ α} {a : α} {r : Except δ β}
    (hx : Yields I x a J) (hf : Yields J (f a).run r K) : Yields I (liftM x >>= f).run r K := by
  rw [BlockOrder.run_lift_bind]
  exact hx.bind hf

theorem Transparent.run_bind {ι : Type} {I : ι → σ → Prop} {cancelled : Bool}
    (hx : Transparent I cancelled x.run) (hf : ∀ a, Transparent I cancelled (f a).run) :
    Transparent I cancelled (x >>= f).run := by
  rw [BlockOrder.run_bind]
  refine hx.bind fun r => ?_
  cases r with
  | ok a => exact hf a
  | error e => exact .pure _

theorem Transparent.run_lift_bind {ι : Type} {I : ι → σ → Prop} {cancelled : Bool}
    {x : EStateM ε σ α} (hx : Transparent I cancelled x)
    (hf : ∀ a, Transparent I cancelled (f a).run) :
    Transparent I cancelled (liftM x >>= f).run := by
  rw [BlockOrder.run_lift_bind]
  exact hx.bind hf

end Fallible

theorem LineCache.ensure_eq (k : Classifier) (d : Document) (cancelled : Bool) (first last : Nat)
    (c : LineCache) :
    ensure k d cancelled first last c =
      if d.lineCount = 0 then .ok () c
      else if (c.resize d.lineCount).computed.contains (clampSpan d first last) then
        .ok () (c.resize d.lineCount)
      else if cancelled then .error {} (c.resize d.lineCount)
      else .ok () (refresh k d (clampSpan d first last) (c.resize d.lineCount)) := by
  unfold ensure
  split
  · rfl
  · change (if (c.resize d.lineCount).computed.contains (clampSpan d first last) then pure ()
      else if cancelled then throw {} else modify (refresh k d (clampSpan d first last)) :
        Work Unit) (c.resize d.lineCount) = _
    split
    · rfl
    split <;> rfl

end BlockOrder
