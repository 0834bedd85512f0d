import BlockOrder.Proofs.Order.Oriented
import Mathlib.Data.List.Basic

/-!
# Custom orders

With a custom order, keys compare character by character: two characters that are both listed by
their places, all others by collation.  Texts are therefore ordered as transitively as the
characters in them.  That is always so among listed characters, but a character that is not
listed may be collated between two that are listed the other way round.
-/

namespace BlockOrder

open Std

namespace KeyPart

variable {numeric : Bool}

/-! ## Continuations come later -/

theorem numberOrder_append (digits : Text) {more : Text} (h : more ≠ []) :
    numberOrder digits (digits ++ more) = .lt := by
  have hmore : 0 < more.length := List.length_pos_of_ne_nil h
  have hlength : compare digits.length (digits ++ more).length = .lt := by
    rw [Nat.compare_eq_lt, List.length_append]
    omega
  unfold numberOrder
  have happend : significant (digits ++ more) =
      if (significant digits).isEmpty then significant more else significant digits ++ more :=
    List.dropWhile_append
  cases hzeros : significant digits with
  | nil =>
      rw [happend, hzeros, List.isEmpty_nil, if_pos rfl]
      -- only zeros so far: either a significant digit follows, or the numeral gets longer
      cases significant more with
      | nil => rw [hlength]; rfl
      | cons d ds => rfl
  | cons d ds =>
      rw [happend, hzeros, List.isEmpty_cons, if_neg (by simp)]
      have hlonger : compare (d :: ds).length (d :: ds ++ more).length = .lt := by
        rw [Nat.compare_eq_lt, List.length_append]
        omega
      rw [hlonger]
      rfl

theorem ofText_ne_nil {t : Text} (h : t ≠ []) : ofText numeric t ≠ [] := by
  cases t with
  | nil => exact absurd rfl h
  | cons c rest =>
      rw [ofText]
      split
      · split <;> simp
      · simp

theorem listOrder_nil {parts : List KeyPart} (h : parts ≠ []) : listOrder [] parts = .lt := by
  cases parts with
  | nil => exact absurd rfl h
  | cons p more => rfl

theorem listOrder_cons (p : KeyPart) (a b : List KeyPart) :
    listOrder (p :: a) (p :: b) = listOrder a b := by
  have hself : p.order p = .eq := ReflCmp.compare_self
  rw [listOrder, hself]
  rfl

theorem exists_digits_append (t : Text) : ∃ digits rest, digits ++ rest = t ∧
    digits.all isAsciiDigit = true ∧ rest.head?.any isAsciiDigit = false := by
  refine ⟨t.takeWhile isAsciiDigit, t.dropWhile isAsciiDigit,
    List.takeWhile_append_dropWhile, List.all_takeWhile, ?_⟩
  have hends := List.head?_dropWhile_not isAsciiDigit t
  cases hhead : (t.dropWhile isAsciiDigit).head? with
  | none => rfl
  | some c =>
      rw [hhead] at hends
      exact hends

theorem listOrder_ofText_append (a : Text) {b : Text} (hb : b ≠ []) :
    listOrder (ofText numeric a) (ofText numeric (a ++ b)) = .lt := by
  have hreads := reads_ofText numeric a
  generalize ofText numeric a = parts at hreads
  induction hreads with
  | nil => exact listOrder_nil (ofText_ne_nil hb)
  | char noNumber _ ih =>
      rw [List.cons_append, ofText_cons_char noNumber, listOrder_cons]
      exact ih
  | @number digits rest parts counts nonempty isDigits ends reads ih =>
      subst counts
      cases rest with
      | cons c rest =>
          rw [List.append_assoc, ofText_digits nonempty isDigits (by simpa using ends),
            listOrder_cons]
          exact ih
      | nil =>
          -- digits at the start of `b` belong to the same number
          obtain ⟨more, rest, rfl, hmore, hends⟩ := exists_digits_append b
          obtain rfl := reads.ofText_eq
          rw [List.append_nil]
          by_cases hnil : more = []
          · subst hnil
            rw [List.nil_append, ofText_digits nonempty isDigits hends, listOrder_cons]
            exact ih
          · have hdigits : (digits ++ more).all isAsciiDigit = true := by
              rw [List.all_append, isDigits, hmore]
              rfl
            rw [← List.append_assoc, ofText_digits (by simp [hnil]) hdigits hends, listOrder]
            change (numberOrder digits (digits ++ more)).then _ = .lt
            rw [numberOrder_append digits hnil]
            rfl

end KeyPart

namespace KeyOrder

variable {k : KeyOrder} {o : CollationOptions} {d : Direction} {order : List Char}

/-- The order of characters: by their places if both are listed, else by collation. -/
def charOrder (k : KeyOrder) (order : List Char) (x y : Char) : Ordering :=
  match k.place? order x, k.place? order y with
  | some i, some j => Ord.compare i j
  | _, _ => k.collate [x] [y]

theorem charOrder_of_unplaced {x y : Char}
    (h : k.place? order x = none ∨ k.place? order y = none) :
    k.charOrder order x y = k.collate [x] [y] := by
  unfold charOrder
  rcases h with h | h
  · rw [h]
  · rw [h]
    cases k.place? order x <;> rfl

theorem charOrder_of_placed {x y : Char} {i j : Nat} (hx : k.place? order x = some i)
    (hy : k.place? order y = some j) : k.charOrder order x y = Ord.compare i j := by
  simp only [charOrder, hx, hy]

theorem placed_or_unplaced (k : KeyOrder) (order : List Char) (x y : Char) :
    (∃ i j, k.place? order x = some i ∧ k.place? order y = some j) ∨
      (k.place? order x = none ∨ k.place? order y = none) := by
  cases k.place? order x with
  | none => exact .inr (.inl rfl)
  | some i =>
      cases k.place? order y with
      | none => exact .inr (.inr rfl)
      | some j => exact .inl ⟨i, j, rfl, rfl⟩

theorem charOrder_swap (h : k.Oriented) (x y : Char) :
    k.charOrder order x y = (k.charOrder order y x).swap := by
  rcases placed_or_unplaced k order x y with ⟨i, j, hi, hj⟩ | hplace
  · rw [charOrder_of_placed hi hj, charOrder_of_placed hj hi, Nat.compare_swap]
  · rw [charOrder_of_unplaced hplace, charOrder_of_unplaced hplace.symm]
    exact h [x] [y]

/-! ## Comparing by a custom order, step by step -/

theorem customCompare_of_ne {x y : Char} (h : k.charOrder order x y ≠ .eq) (xs ys : Text) :
    k.customCompare order (x :: xs) (y :: ys) = some (k.charOrder order x y) := by
  rcases placed_or_unplaced k order x y with ⟨i, j, hi, hj⟩ | hplace
  · rw [charOrder_of_placed hi hj] at h ⊢
    have hij : i ≠ j := fun hij => h (Nat.compare_eq_eq.mpr hij)
    simp only [customCompare, hi, hj, if_pos hij]
  · rw [charOrder_of_unplaced hplace] at h ⊢
    rw [customCompare_of_unplaced hplace, if_neg h]

/-- After characters that are equal the rest decides; if one of the texts ends there, their
lengths may decide at once. -/
theorem customCompare_of_eq {x y : Char} (h : k.charOrder order x y = .eq) (xs ys : Text) :
    k.customCompare order (x :: xs) (y :: ys) = k.customCompare order xs ys ∨
      (xs.isEmpty || ys.isEmpty) = true ∧
        k.customCompare order (x :: xs) (y :: ys) =
          some (Ord.compare xs.length ys.length) := by
  rcases placed_or_unplaced k order x y with ⟨i, j, hi, hj⟩ | hplace
  · rw [charOrder_of_placed hi hj, Nat.compare_eq_eq] at h
    simp only [customCompare, hi, hj, if_neg (not_not.mpr h)]
    split
    · next hempty => exact .inr ⟨hempty, rfl⟩
    · exact .inl rfl
  · rw [charOrder_of_unplaced hplace] at h
    left
    rw [customCompare_of_unplaced hplace, if_pos h]

/-! ## Characters that are equal -/

theorem single_eq_of_place? {numeric : Bool} {x y : Char} {i : Nat}
    (hx : k.place? order x = some i) (hy : k.place? order y = some i) :
    KeyPart.single numeric x = KeyPart.single numeric y := by
  obtain ⟨_, hx, _⟩ := List.findIdx?_eq_some_iff_getElem.mp hx
  obtain ⟨_, hy, _⟩ := List.findIdx?_eq_some_iff_getElem.mp hy
  rw [beq_iff_eq] at hx hy
  have heq := hx.symm.trans hy
  cases hcase : k.ignoreCase with
  | true =>
      simp only [hcase, if_true] at heq
      exact KeyPart.single_eq_of_lowerFirst_eq heq
  | false =>
      simp only [hcase, Bool.false_eq_true, if_false] at heq
      rw [heq]

theorem collate_singleton (h : o.IgnoresCase) (x y : Char) :
    o.collate [x] [y] = (KeyPart.single o.numeric x).order (KeyPart.single o.numeric y) := by
  rw [h.collate_eq, KeyPart.ofText_singleton, KeyPart.ofText_singleton]
  exact Ordering.then_eq

theorem single_eq_of_charOrder (h : o.IgnoresCase) {x y : Char}
    (hxy : (ofOptions o d).charOrder order x y = .eq) :
    KeyPart.single o.numeric x = KeyPart.single o.numeric y := by
  rcases placed_or_unplaced (ofOptions o d) order x y with ⟨i, j, hi, hj⟩ | hplace
  · rw [charOrder_of_placed hi hj, Nat.compare_eq_eq] at hxy
    exact single_eq_of_place? hi (hxy ▸ hj)
  · rw [charOrder_of_unplaced hplace] at hxy
    exact LawfulEqCmp.eq_of_compare ((collate_singleton h x y).symm.trans hxy)

/-- Texts that agree so far in their parts are collated by what follows, where one of them
ends. -/
theorem collate_append_nil (h : o.IgnoresCase) {u v : Text}
    (huv : u.map (KeyPart.single o.numeric) = v.map (KeyPart.single o.numeric)) {b : Text}
    (hb : b ≠ []) : o.collate u (v ++ b) = .lt := by
  rw [h.collate_eq, KeyPart.ofText_congr huv]
  exact KeyPart.listOrder_ofText_append v hb

theorem compareLex_of_isEmpty {α : Type} {cmp : α → α → Ordering} {xs ys : List α}
    (h : (xs.isEmpty || ys.isEmpty) = true) :
    List.compareLex cmp xs ys = Ord.compare xs.length ys.length := by
  cases xs with
  | nil => cases ys <;> rfl
  | cons x xs =>
      cases ys with
      | nil => rfl
      | cons y ys => cases h

/-- Where the custom order does not decide, collation finds that one text continues the other or
that they are equal. -/
theorem customCompare_getD (h : o.IgnoresCase) {u v : Text}
    (huv : u.map (KeyPart.single o.numeric) = v.map (KeyPart.single o.numeric)) (a b : Text) :
    ((ofOptions o d).customCompare order a b).getD (o.collate (u ++ a) (v ++ b)) =
      List.compareLex ((ofOptions o d).charOrder order) a b := by
  induction a generalizing b u v with
  | nil =>
      rw [List.append_nil]
      cases b with
      | nil =>
          rw [List.append_nil, h.collate_eq, KeyPart.ofText_congr huv]
          exact ReflCmp.compare_self
      | cons y ys => exact collate_append_nil h huv (List.cons_ne_nil y ys)
  | cons x xs ih =>
      cases b with
      | nil =>
          rw [List.append_nil, h.collate_swap]
          exact congrArg Ordering.swap (collate_append_nil h huv.symm (List.cons_ne_nil x xs))
      | cons y ys =>
          rw [List.compareLex_cons_cons]
          cases hxy : (ofOptions o d).charOrder order x y with
          | eq =>
              rcases customCompare_of_eq hxy xs ys with hrest | ⟨hempty, hlength⟩
              · rw [hrest, List.append_cons u, List.append_cons v]
                apply ih
                rw [List.map_append, List.map_append, huv, List.map_singleton,
                  List.map_singleton, single_eq_of_charOrder h hxy]
              · rw [hlength]
                exact (compareLex_of_isEmpty hempty).symm
          | _ =>
              rw [customCompare_of_ne (by rw [hxy]; nofun), hxy]
              rfl

theorem compare_eq_compareLex (h : o.IgnoresCase) {listed : String}
    (hlisted : o.customOrder = some listed) (hne : listed ≠ "") (a b : Text) :
    (ofOptions o .asc).compare a b =
      List.compareLex
        ((ofOptions o .asc).charOrder (expandOrder o.caseFirst listed.toList))
        ((ofOptions o .asc).reduce a) ((ofOptions o .asc).reduce b) := by
  have horder : (ofOptions o .asc).customOrder =
      some (expandOrder o.caseFirst listed.toList) := by
    simp [ofOptions, withCollate, hlisted, hne]
  have hasc : (ofOptions o .asc).direction ≠ .rand := nofun
  rw [KeyOrder.compare, if_neg hasc, horder]
  have hnil : ([] : Text).map (KeyPart.single o.numeric) = [].map _ := rfl
  exact customCompare_getD h hnil ((ofOptions o .asc).reduce a) ((ofOptions o .asc).reduce b)

/-! ## Transitivity -/

theorem compareLex_map {α β : Type} (cmp : β → β → Ordering) (f : α → β) (xs ys : List α) :
    List.compareLex cmp (xs.map f) (ys.map f) =
      List.compareLex (fun x y => cmp (f x) (f y)) xs ys := by
  induction xs generalizing ys with
  | nil => cases ys <;> rfl
  | cons x xs ih =>
      cases ys with
      | nil => rfl
      | cons y ys =>
          rw [List.map_cons, List.map_cons, List.compareLex_cons_cons, ih,
            List.compareLex_cons_cons]

/-- Lists are ordered as transitively as what they consist of. -/
theorem compareLex_isLE_trans {α : Type} {cmp : α → α → Ordering} {p : α → Prop}
    (hswap : ∀ x y, cmp x y = (cmp y x).swap)
    (htrans : ∀ x y z, p x → p y → p z → (cmp x y).isLE = true → (cmp y z).isLE = true →
      (cmp x z).isLE = true)
    {xs ys zs : List α} (hxs : ∀ x ∈ xs, p x) (hys : ∀ y ∈ ys, p y) (hzs : ∀ z ∈ zs, p z)
    (hxy : (List.compareLex cmp xs ys).isLE = true)
    (hyz : (List.compareLex cmp ys zs).isLE = true) :
    (List.compareLex cmp xs zs).isLE = true := by
  have : TransCmp fun x y : { x // p x } => cmp x y := {
    eq_swap := hswap _ _
    isLE_trans := fun {x y z} => htrans x y z x.2 y.2 z.2 }
  rw [← List.attachWith_map_subtype_val hxs] at hxy ⊢
  rw [← List.attachWith_map_subtype_val hzs] at hyz ⊢
  rw [← List.attachWith_map_subtype_val hys] at hxy hyz
  rw [compareLex_map] at hxy hyz ⊢
  exact TransCmp.isLE_trans hxy hyz

/-- Keys are ordered as transitively as the characters that count in them. -/
theorem compare_isLE_trans (hcase : o.IgnoresCase) {listed : String}
    (hlisted : o.customOrder = some listed) (hne : listed ≠ "") {p : Char → Prop}
    (htrans : ∀ x y z, p x → p y → p z →
      ((ofOptions o .asc).charOrder (expandOrder o.caseFirst listed.toList) x y).isLE = true →
      ((ofOptions o .asc).charOrder (expandOrder o.caseFirst listed.toList) y z).isLE = true →
      ((ofOptions o .asc).charOrder (expandOrder o.caseFirst listed.toList) x z).isLE = true)
    {a b c : Text} (hp : ∀ x ∈ (ofOptions o .asc).reduce (a ++ b ++ c), p x)
    (hab : ((ofOptions o .asc).compare a b).isLE = true)
    (hbc : ((ofOptions o .asc).compare b c).isLE = true) :
    ((ofOptions o .asc).compare a c).isLE = true := by
  simp only [reduce, List.filter_append, List.mem_append] at hp
  rw [compare_eq_compareLex hcase hlisted hne] at hab hbc ⊢
  exact compareLex_isLE_trans (charOrder_swap (oriented_ofOptions hcase .asc)) htrans
    (fun x hx => hp x (.inl (.inl hx))) (fun x hx => hp x (.inl (.inr hx)))
    (fun x hx => hp x (.inr hx)) hab hbc

theorem reduce_singleton {x : Char} (hx : x ∉ k.ignored) : k.reduce [x] = [x] := by
  simpa [reduce] using hx

theorem compare_singleton (hcase : o.IgnoresCase) {listed : String}
    (hlisted : o.customOrder = some listed) (hne : listed ≠ "") {x y : Char}
    (hx : x ∉ (ofOptions o .asc).ignored) (hy : y ∉ (ofOptions o .asc).ignored) :
    (ofOptions o .asc).compare [x] [y] =
      (ofOptions o .asc).charOrder (expandOrder o.caseFirst listed.toList) x y := by
  rw [compare_eq_compareLex hcase hlisted hne, reduce_singleton hx, reduce_singleton hy,
    List.compareLex_cons_cons]
  exact Ordering.then_eq

/-- With a custom order, comparing the other way round gives the opposite.  Texts of some
characters compare transitively if and only if these characters do; listed characters always
do. -/
theorem compare_custom_trans_iff (hcase : o.IgnoresCase) {listed : String}
    (hlisted : o.customOrder = some listed) (hne : listed ≠ "") :
    (∀ a b, (ofOptions o .asc).compare b a = ((ofOptions o .asc).compare a b).swap) ∧
      (∀ p : Char → Prop,
        (∀ a b c : Text, (∀ x ∈ (ofOptions o .asc).reduce (a ++ b ++ c), p x) →
            ((ofOptions o .asc).compare a b).isLE = true →
            ((ofOptions o .asc).compare b c).isLE = true →
            ((ofOptions o .asc).compare a c).isLE = true) ↔
          ∀ x y z, p x → p y → p z → ((ofOptions o .asc).compare [x] [y]).isLE = true →
            ((ofOptions o .asc).compare [y] [z]).isLE = true →
            ((ofOptions o .asc).compare [x] [z]).isLE = true) ∧
      ∀ a b c : Text,
        (∀ x ∈ (ofOptions o .asc).reduce (a ++ b ++ c),
          (ofOptions o .asc).place? (expandOrder o.caseFirst listed.toList) x ≠ none) →
        ((ofOptions o .asc).compare a b).isLE = true →
        ((ofOptions o .asc).compare b c).isLE = true →
        ((ofOptions o .asc).compare a c).isLE = true := by
  have horiented : (ofOptions o .asc).Oriented := oriented_ofOptions hcase .asc
  refine ⟨fun a b => horiented.compare_swap b a, ?_, ?_⟩
  · intro p
    constructor
    · intro h x y z hx hy hz
      apply h
      intro w hw
      have hmem := List.mem_of_mem_filter hw
      simp only [List.cons_append, List.nil_append, List.mem_cons, List.not_mem_nil,
        or_false] at hmem
      rcases hmem with rfl | rfl | rfl <;> assumption
    · intro h a b c hp
      apply compare_isLE_trans hcase hlisted hne
        (p := fun x => p x ∧ x ∉ (ofOptions o .asc).ignored)
      · rintro x y z ⟨hx, hx'⟩ ⟨hy, hy'⟩ ⟨hz, hz'⟩
        rw [← compare_singleton hcase hlisted hne hx' hy',
          ← compare_singleton hcase hlisted hne hy' hz',
          ← compare_singleton hcase hlisted hne hx' hz']
        exact h x y z hx hy hz
      · intro x hx
        exact ⟨hp x hx, by simpa using (List.mem_filter.mp hx).2⟩
  · intro a b c hp
    apply compare_isLE_trans hcase hlisted hne _ hp
    intro x y z hx hy hz
    obtain ⟨i, hi⟩ := Option.ne_none_iff_exists'.mp hx
    obtain ⟨j, hj⟩ := Option.ne_none_iff_exists'.mp hy
    obtain ⟨l, hl⟩ := Option.ne_none_iff_exists'.mp hz
    rw [charOrder_of_placed hi hj, charOrder_of_placed hj hl, charOrder_of_placed hi hl]
    exact TransCmp.isLE_trans

/-- Texts of listed letters, one of which continues past the end of another. -/
theorem compare_custom_trans_of_listed :
    ({ customOrder := some "zyx" } : CollationOptions).IgnoresCase ∧ "zyx" ≠ "" ∧
      ((ofOptions { customOrder := some "zyx" } .asc).compare ['z', 'Y'] ['y']).isLE = true ∧
      ((ofOptions { customOrder := some "zyx" } .asc).compare ['y'] ['y', 'z']).isLE = true ∧
      ((ofOptions { customOrder := some "zyx" } .asc).compare ['z', 'Y'] ['y', 'z']).isLE =
        true := by
  have hcase : ({ customOrder := some "zyx" } : CollationOptions).IgnoresCase := .inl rfl
  have hne : "zyx" ≠ "" := by decide
  have hfirst : ((ofOptions { customOrder := some "zyx" } .asc).compare ['z', 'Y'] ['y']).isLE =
      true := by decide +kernel
  have hsecond : ((ofOptions { customOrder := some "zyx" } .asc).compare ['y'] ['y', 'z']).isLE =
      true := by decide +kernel
  have hplaced : (['z', 'Y'] ++ ['y'] ++ ['y', 'z']).all (fun x =>
      ((ofOptions { customOrder := some "zyx" } .asc).place?
        (expandOrder .either "zyx".toList) x).isSome) = true := by decide +kernel
  refine ⟨hcase, hne, hfirst, hsecond,
    (compare_custom_trans_iff hcase rfl hne).2.2 _ _ _ (fun x hx => ?_) hfirst hsecond⟩
  exact Option.isSome_iff_ne_none.mp
    (List.all_eq_true.mp hplaced x (List.mem_of_mem_filter hx))

/-- The letters `z` and `x` are listed in this order, and `y` is collated between `x` and `z`. -/
theorem compare_custom_cycle :
    (ofOptions { customOrder := some "zx" } .asc).compare ['x'] ['y'] = .lt ∧
      (ofOptions { customOrder := some "zx" } .asc).compare ['y'] ['z'] = .lt ∧
      (ofOptions { customOrder := some "zx" } .asc).compare ['x'] ['z'] = .gt := by
  decide +kernel

end KeyOrder

end BlockOrder
