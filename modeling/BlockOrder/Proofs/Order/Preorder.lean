import BlockOrder.Proofs.Order.Oriented

/-!
# The order of sort keys is a total preorder

Without a custom order, keys compare by what they read as once the ignored characters are left
out.  Descending order is ascending order the other way round.
-/

namespace BlockOrder

open Std

theorem Direction.transCmp_apply {α : Type} (d : Direction) (cmp : α → α → Ordering)
    [TransCmp cmp] : TransCmp fun a b => d.apply (cmp a b) := by
  cases d with
  | desc =>
      have hopposite : (fun a b => (cmp a b).swap) = fun a b => cmp b a := by
        funext a b
        exact OrientedCmp.eq_swap.symm
      change TransCmp fun a b => (cmp a b).swap
      rw [hopposite]
      infer_instance
  | _ => exact inferInstanceAs (TransCmp cmp)

theorem Direction.apply_eq_eq {d : Direction} {o : Ordering} : d.apply o = .eq ↔ o = .eq := by
  cases d with
  | desc => exact Ordering.swap_eq_eq
  | _ => exact Iff.rfl

/-- Keys compare as a total preorder in every direction. -/
def CollationOptions.Consistent (o : CollationOptions) : Prop :=
  ∀ d, TransCmp (KeyOrder.ofOptions o d).compare

namespace KeyOrder

variable {o : CollationOptions} {d : Direction}

theorem compare_ofOptions (hcase : o.IgnoresCase)
    (hcustom : o.customOrder = none ∨ o.customOrder = some "") (hd : d ≠ .rand) :
    (ofOptions o d).compare = fun a b =>
      d.apply (KeyPart.listOrder (KeyPart.ofText o.numeric ((ofOptions o d).reduce a))
        (KeyPart.ofText o.numeric ((ofOptions o d).reduce b))) := by
  have hnone : (ofOptions o d).customOrder = none := by
    rcases hcustom with h | h <;> simp [ofOptions, withCollate, h]
  have hdirection : (ofOptions o d).direction ≠ .rand := hd
  funext a b
  rw [KeyOrder.compare, if_neg hdirection, hnone]
  exact congrArg d.apply (hcase.collate_eq _ _)

/-- Keys that do not count case compare as a total preorder. -/
theorem transCmp_ofOptions (hcase : o.IgnoresCase)
    (hcustom : o.customOrder = none ∨ o.customOrder = some "") (d : Direction) :
    TransCmp (ofOptions o d).compare := by
  by_cases hd : d = .rand
  · subst hd
    exact { eq_swap := rfl, isLE_trans := fun _ _ => rfl }
  · have hkeys := transCmp_comap (fun t => KeyPart.ofText o.numeric ((ofOptions o d).reduce t))
      KeyPart.listOrder
    rw [compare_ofOptions hcase hcustom hd]
    exact d.transCmp_apply _

/-- Keys that do not count case compare as a total preorder in either direction, one direction
opposite to the other, and those are equal that read as the same parts. -/
theorem compare_totalPreorder (hcase : o.IgnoresCase)
    (hcustom : o.customOrder = none ∨ o.customOrder = some "") (a b c : Text) :
    (ofOptions o .desc).compare a b = ((ofOptions o .asc).compare a b).swap ∧
      ∀ d, d = .asc ∨ d = .desc →
        (ofOptions o d).compare b a = ((ofOptions o d).compare a b).swap ∧
        (((ofOptions o d).compare a b).isLE = true → ((ofOptions o d).compare b c).isLE = true →
          ((ofOptions o d).compare a c).isLE = true) ∧
        ((ofOptions o d).compare a b = .eq ↔
          ∃ parts, KeyPart.Reads o.numeric ((ofOptions o d).reduce a) parts ∧
            KeyPart.Reads o.numeric ((ofOptions o d).reduce b) parts) := by
  constructor
  · rw [compare_ofOptions hcase hcustom (show Direction.desc ≠ .rand by decide),
      compare_ofOptions hcase hcustom (show Direction.asc ≠ .rand by decide)]
    rfl
  · intro d hd
    have hrand : d ≠ .rand := by
      rcases hd with rfl | rfl <;> nofun
    have htrans := transCmp_ofOptions hcase hcustom d
    refine ⟨OrientedCmp.eq_swap, TransCmp.isLE_trans, ?_⟩
    rw [compare_ofOptions hcase hcustom hrand, Direction.apply_eq_eq,
      LawfulEqCmp.compare_eq_iff_eq]
    constructor
    · intro h
      exact ⟨_, KeyPart.reads_ofText _ _, KeyPart.reads_iff.mpr h.symm⟩
    · rintro ⟨parts, ha, hb⟩
      rw [ha.ofText_eq, hb.ofText_eq]

/-- Case does not count, nor does the underscore; nine comes before ten, and ten before ten with
leading zeros. -/
theorem compare_totalPreorder_of_numerals :
    ({ ignored := some "_" } : CollationOptions).IgnoresCase ∧
      ((ofOptions { ignored := some "_" } .asc).compare "item_9".toList "Item10".toList).isLE =
        true ∧
      ((ofOptions { ignored := some "_" } .asc).compare "Item10".toList "it_em0010".toList).isLE =
        true ∧
      ((ofOptions { ignored := some "_" } .asc).compare "item_9".toList
        "it_em0010".toList).isLE = true := by
  have hcase : ({ ignored := some "_" } : CollationOptions).IgnoresCase := .inl rfl
  have hfirst : ((ofOptions { ignored := some "_" } .asc).compare "item_9".toList
      "Item10".toList).isLE = true := by decide +kernel
  have hsecond : ((ofOptions { ignored := some "_" } .asc).compare "Item10".toList
      "it_em0010".toList).isLE = true := by decide +kernel
  exact ⟨hcase, hfirst, hsecond,
    ((compare_totalPreorder hcase (.inl rfl) _ _ _).2 .asc (.inl rfl)).2.1 hfirst hsecond⟩

end KeyOrder

end BlockOrder
