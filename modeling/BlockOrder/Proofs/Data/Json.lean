import BlockOrder.Data.Json
import BlockOrder.Proofs.Text.Decimal

/-!
# JSON read back

Data that is rendered as JSON is parsed as the same data, if it consists of what JSON has words
for: nothing, truth values, integers, strings, lists and records.  Rendering writes no blanks, so
what follows a value has to tell where a number ends.
-/

namespace BlockOrder.Data

/-- Data that JSON has a way of writing for. -/
inductive IsJson : Data → Prop where
  | null : IsJson .null
  | bool (b : Bool) : IsJson (.bool b)
  | int (n : Int) : IsJson (.int n)
  | string (s : String) : IsJson (.string s)
  | list {items : List Data} (h : ∀ d ∈ items, IsJson d) : IsJson (.list items)
  | record {fields : List (String × Data)} (h : ∀ e ∈ fields, IsJson e.2) : IsJson (.record fields)

namespace Json

/-! ## Strings -/

theorem hexadecimal?_hexDigits : ∀ n < 0x20, hexadecimal? (hexDigits 4 n) = some n := by decide

theorem length_hexDigits (width n : Nat) : (hexDigits width n).length = width := by
  induction width generalizing n with
  | zero => rfl
  | succ width ih => rw [hexDigits, List.length_append, ih, List.length_singleton]

theorem charOfCode?_toNat (c : Char) : charOfCode? c.toNat = some c := by
  have hvalid : c.toNat.isValidChar := c.valid
  rw [charOfCode?, if_pos hvalid, Char.ofNat_toNat]

theorem unicodeEscape?_hexDigits {c : Char} (hc : c.toNat < 0x20) (rest : Text) :
    unicodeEscape? (hexDigits 4 c.toNat ++ rest) = some (c, rest) := by
  have hlength := length_hexDigits 4 c.toNat
  have hunit : unit? (hexDigits 4 c.toNat ++ rest) = some (c.toNat, rest) := by
    rw [unit?, List.take_left' hlength, List.drop_left' hlength, if_pos hlength,
      hexadecimal?_hexDigits _ hc, Option.map_some]
  have hlow : ¬ 0xD800 ≤ c.toNat := by omega
  simp [unicodeEscape?, hunit, hlow, charOfCode?_toNat]

theorem stringBody?_escaped (fuel : Nat) (c : Char) (rest : Text) :
    stringBody? (fuel + 1) (escaped c ++ rest) =
      (stringBody? fuel rest).map fun (t, more) => (c :: t, more) := by
  fun_cases escaped c with
  | case1 | case2 | case3 | case4 | case5 | case6 | case7 => rfl
  | case8 _ _ _ _ _ _ _ _ hlow =>
      simp only [List.cons_append, stringBody?, unicodeEscape?_hexDigits hlow,
        Option.bind_eq_bind, Option.bind_some]
      generalize stringBody? fuel rest = body
      cases body <;> rfl
  | case9 _ hquote hslash _ _ _ _ _ hlow =>
      have hplain : (decide (c.toNat < 0x20) || c == '\\') = false := by
        rw [decide_eq_false hlow, Bool.false_or, beq_eq_false_iff_ne]
        exact hslash
      rw [List.singleton_append, stringBody?, hplain]
      · simp
      · exact hquote
      · rintro x more rfl
        exact absurd rfl hslash

theorem escaped_ne_nil (c : Char) : escaped c ≠ [] := by
  fun_cases escaped c <;> simp

theorem length_le_flatMap_escaped (s : Text) : s.length ≤ (s.flatMap escaped).length := by
  induction s with
  | nil => exact Nat.le_refl 0
  | cons c s ih =>
      have hpos : 0 < (escaped c).length := List.length_pos_iff.mpr (escaped_ne_nil c)
      rw [List.flatMap_cons, List.length_append, List.length_cons]
      omega

theorem stringBody?_flatMap_escaped {fuel : Nat} {s : Text} (hfuel : s.length < fuel)
    (rest : Text) : stringBody? fuel (s.flatMap escaped ++ '"' :: rest) = some (s, rest) := by
  induction s generalizing fuel with
  | nil =>
      cases fuel with
      | zero => cases hfuel
      | succ fuel => rfl
  | cons c s ih =>
      cases fuel with
      | zero => cases hfuel
      | succ fuel =>
          rw [List.flatMap_cons, List.append_assoc, stringBody?_escaped,
            ih (Nat.lt_of_succ_lt_succ hfuel), Option.map_some]

theorem toList_quoted (s : String) :
    (quoted s).toList = '"' :: (s.toList.flatMap escaped ++ ['"']) := by
  rw [quoted, String.toList_ofList, List.cons_append]

/-- Behind its opening quote a string is read up to the closing one. -/
theorem stringBody?_quoted (s : String) (rest : Text) :
    stringBody? ((s.toList.flatMap escaped ++ '"' :: rest).length + 1)
      (s.toList.flatMap escaped ++ '"' :: rest) = some (s.toList, rest) := by
  apply stringBody?_flatMap_escaped
  have hle := length_le_flatMap_escaped s.toList
  rw [List.length_append]
  omega

/-! ## Numbers -/

/-- The characters that a number may consist of. -/
def isNumberChar (c : Char) : Bool :=
  isAsciiDigit c || c == '-' || c == '+' || c == '.' || c == 'e' || c == 'E'

theorem all_isNumberChar_toDigits (n : Nat) : (Nat.toDigits 10 n).all isNumberChar = true := by
  have h := all_isAsciiDigit_toDigits n
  rw [List.all_eq_true] at h ⊢
  intro c hc
  simp [isNumberChar, h c hc]

theorem span_toDigits (n : Nat) : (Nat.toDigits 10 n).takeWhile isAsciiDigit = Nat.toDigits 10 n ∧
    (Nat.toDigits 10 n).dropWhile isAsciiDigit = [] := by
  have hnil : ([] : Text).head?.any isAsciiDigit = false := rfl
  have h := span_of_all (all_isAsciiDigit_toDigits n) hnil
  rwa [List.append_nil] at h

theorem head?_toDigits_ne {n : Nat} (h : 1 < (Nat.toDigits 10 n).length) :
    (Nat.toDigits 10 n).head? ≠ some '0' := by
  intro hzero
  rw [eq_zero_of_head?_toDigits hzero] at h
  exact absurd h (by decide)

theorem number?_toDigits (n : Nat) {rest : Text} (hrest : rest.head?.any isNumberChar = false) :
    number? (Nat.toDigits 10 n ++ rest) = some (.int n, rest) := by
  obtain ⟨hword, hleft⟩ := span_of_all (all_isNumberChar_toDigits n) hrest
  unfold isNumberChar at hword hleft
  simp only [number?, hword, hleft]
  split
  · next digits heq =>
      have hminus := List.all_eq_true.mp (all_isAsciiDigit_toDigits n) '-' (by simp [heq])
      cases hminus
  · simp only [span_toDigits, decimal?_toDigits]
    simpa using head?_toDigits_ne

theorem number?_minus_toDigits {n : Nat} (hn : n ≠ 0) {rest : Text}
    (hrest : rest.head?.any isNumberChar = false) :
    number? ('-' :: Nat.toDigits 10 n ++ rest) = some (.int (-n), rest) := by
  have hall : ('-' :: Nat.toDigits 10 n).all isNumberChar = true := by
    rw [List.all_cons, all_isNumberChar_toDigits, Bool.and_true]
    rfl
  obtain ⟨hword, hleft⟩ := span_of_all hall hrest
  unfold isNumberChar at hword hleft
  simp only [number?, hword, hleft, span_toDigits, decimal?_toDigits]
  simpa [hn] using head?_toDigits_ne

theorem toList_toString_int (n : Int) : (toString n).toList =
    if 0 ≤ n then Nat.toDigits 10 n.toNat else '-' :: Nat.toDigits 10 (-n).toNat := by
  rw [Int.toString_eq_repr, Int.repr_eq_if]
  split
  · rw [Nat.repr_eq_ofList_toDigits, String.toList_ofList]
  · simp [Nat.repr_eq_ofList_toDigits]

theorem number?_toString (n : Int) {rest : Text} (hrest : rest.head?.any isNumberChar = false) :
    number? ((toString n).toList ++ rest) = some (.int n, rest) := by
  rw [toList_toString_int]
  split
  · next hn => rw [number?_toDigits _ hrest, Int.toNat_of_nonneg hn]
  · next hn =>
      rw [number?_minus_toDigits (by omega) hrest, Int.toNat_of_nonneg (by omega), Int.neg_neg]

/-! ## Values -/

theorem skipBlanks_cons {c : Char} (h : [' ', '\n', '\r', '\t'].contains c = false) (t : Text) :
    skipBlanks (c :: t) = c :: t := by
  simp only [List.contains_cons, List.contains_nil, Bool.or_false, Bool.or_eq_false_iff] at h
  simp [skipBlanks, h]

/-- The text starts as a value does: neither with a blank nor with a bracket that ends a list. -/
def OpensValue (t : Text) : Prop :=
  ∃ c rest, t = c :: rest ∧ [' ', '\n', '\r', '\t', ']'].contains c = false

theorem OpensValue.skipBlanks_append {t : Text} (h : OpensValue t) (rest : Text) :
    skipBlanks (t ++ rest) = t ++ rest := by
  obtain ⟨c, t, rfl, hc⟩ := h
  apply skipBlanks_cons
  rw [List.contains_eq_mem, decide_eq_false_iff_not] at hc ⊢
  intro hmem
  exact hc (by simp_all)

/-- An integer is rendered with a minus sign or a digit in front. -/
theorem exists_toString_int (n : Int) : ∃ c rest, (toString n).toList = c :: rest ∧
    (c == '-' || isAsciiDigit c) = true := by
  rw [toList_toString_int]
  split
  · have hne : Nat.toDigits 10 n.toNat ≠ [] := Nat.toDigits_ne_nil
    obtain ⟨c, digits, hdigits⟩ := List.exists_cons_of_ne_nil hne
    have hc : isAsciiDigit c = true :=
      List.all_eq_true.mp (all_isAsciiDigit_toDigits n.toNat) c (by simp [hdigits])
    exact ⟨c, digits, hdigits, by rw [hc, Bool.or_true]⟩
  · exact ⟨'-', _, rfl, rfl⟩

theorem opensValue_toString (n : Int) : OpensValue (toString n).toList := by
  obtain ⟨c, rest, htext, hc⟩ := exists_toString_int n
  refine ⟨c, rest, htext, ?_⟩
  rw [List.contains_eq_mem, decide_eq_false_iff_not]
  intro hmem
  simp only [List.mem_cons, List.not_mem_nil, or_false] at hmem
  rcases hmem with rfl | rfl | rfl | rfl | rfl <;> cases hc

/-- The items of a list as they are rendered. -/
def itemsText (items : List Data) : Text := (",".intercalate (renderItems items)).toList

/-- The fields of a record as they are rendered. -/
def fieldsText (fields : List (String × Data)) : Text :=
  (",".intercalate (renderFields fields)).toList

theorem itemsText_singleton (d : Data) : itemsText [d] = (render d).toList := by
  simp [itemsText, renderItems]

theorem itemsText_cons_cons (d e : Data) (items : List Data) :
    itemsText (d :: e :: items) = (render d).toList ++ ',' :: itemsText (e :: items) := by
  simp [itemsText, renderItems]

theorem fieldsText_singleton (e : String × Data) :
    fieldsText [e] = (quoted e.1).toList ++ ':' :: (render e.2).toList := by
  simp [fieldsText, renderFields]

theorem fieldsText_cons_cons (e e' : String × Data) (fields : List (String × Data)) :
    fieldsText (e :: e' :: fields) =
      (quoted e.1).toList ++ ':' :: (render e.2).toList ++ ',' :: fieldsText (e' :: fields) := by
  simp [fieldsText, renderFields]

theorem toList_render_list (items : List Data) :
    (render (.list items)).toList = '[' :: itemsText items ++ [']'] := by
  simp [render, itemsText]

theorem toList_render_record (fields : List (String × Data)) :
    (render (.record fields)).toList = '\x7b' :: fieldsText fields ++ ['\x7d'] := by
  simp [render, fieldsText]

theorem opensValue_render {d : Data} (h : d.IsJson) : OpensValue (render d).toList := by
  cases h with
  | null => exact ⟨'n', _, rfl, rfl⟩
  | bool b =>
      cases b with
      | false => exact ⟨'f', _, rfl, rfl⟩
      | true => exact ⟨'t', _, rfl, rfl⟩
  | int n => exact opensValue_toString n
  | string s => exact ⟨'"', _, toList_quoted s, rfl⟩
  | list _ => exact ⟨'[', _, toList_render_list _, rfl⟩
  | record _ => exact ⟨'\x7b', _, toList_render_record _, rfl⟩

theorem opensValue_itemsText {d : Data} (h : d.IsJson) (items : List Data) :
    OpensValue (itemsText (d :: items)) := by
  obtain ⟨c, t, ht, hc⟩ := opensValue_render h
  cases items with
  | nil => exact ⟨c, t, (itemsText_singleton d).trans ht, hc⟩
  | cons e items =>
      refine ⟨c, t ++ ',' :: itemsText (e :: items), ?_, hc⟩
      rw [itemsText_cons_cons, ht, List.cons_append]

theorem exists_fieldsText (e : String × Data) (fields : List (String × Data)) :
    ∃ t, fieldsText (e :: fields) = '"' :: t := by
  cases fields with
  | nil => exact ⟨_, by rw [fieldsText_singleton, toList_quoted, List.cons_append]⟩
  | cons e' fields =>
      exact ⟨_, by rw [fieldsText_cons_cons, toList_quoted, List.cons_append, List.cons_append]⟩

/-- Parsing the rendering of the data gives it back, if what follows is no part of a number. -/
def ReadBack (d : Data) : Prop :=
  ∀ (fuel : Nat) (rest : Text), (render d).toList.length ≤ fuel →
    rest.head?.any isNumberChar = false →
      value? fuel ((render d).toList ++ rest) = some (d, rest)

theorem items?_itemsText {d : Data} {items : List Data} (h : ∀ x ∈ d :: items, ReadBack x)
    {fuel : Nat} (hfuel : (itemsText (d :: items)).length < fuel) (read : List Data)
    (rest : Text) : items? fuel read (itemsText (d :: items) ++ ']' :: rest) =
      some (.list (read.reverse ++ d :: items), rest) := by
  induction items generalizing d fuel read with
  | nil =>
      obtain ⟨fuel, rfl⟩ := Nat.exists_eq_add_one_of_ne_zero (Nat.ne_zero_of_lt hfuel)
      rw [itemsText_singleton] at hfuel ⊢
      have hvalue := h d (by simp) fuel (']' :: rest) (Nat.le_of_lt_succ hfuel) rfl
      simp [items?, hvalue, skipBlanks_cons]
  | cons e items ih =>
      obtain ⟨fuel, rfl⟩ := Nat.exists_eq_add_one_of_ne_zero (Nat.ne_zero_of_lt hfuel)
      rw [itemsText_cons_cons, List.length_append, List.length_cons] at hfuel
      rw [itemsText_cons_cons, List.append_assoc, List.cons_append]
      have hvalue := h d (by simp) fuel (',' :: (itemsText (e :: items) ++ ']' :: rest))
        (by omega) rfl
      have hlt : (itemsText (e :: items)).length < fuel := by omega
      have hitems := ih (fun x hx => h x (List.mem_cons_of_mem d hx)) hlt (d :: read)
      simp [items?, hvalue, skipBlanks_cons, hitems]

/-- One field is read up to the comma or brace behind it. -/
theorem fields?_field {d : Data} (h : ReadBack d) {fuel : Nat}
    (hfuel : (render d).toList.length ≤ fuel) (name : String) (read : List (String × Data))
    {c : Char} (hc : isNumberChar c = false) (rest : Text) :
    fields? (fuel + 1) read ((quoted name).toList ++ ':' :: ((render d).toList ++ c :: rest)) =
      match skipBlanks (c :: rest) with
      | ',' :: more => fields? fuel ((name, d) :: read) more
      | '\x7d' :: more => some (.record ((name, d) :: read).reverse, more)
      | _ => none := by
  have hname := stringBody?_quoted name (':' :: ((render d).toList ++ c :: rest))
  have hvalue := h fuel (c :: rest) hfuel hc
  rw [toList_quoted, List.cons_append, List.append_assoc, List.singleton_append, fields?,
    skipBlanks_cons (by rfl)]
  simp only [hname, Option.bind_eq_bind, Option.bind_some]
  rw [skipBlanks_cons (by rfl)]
  simp only [hvalue, Option.bind_some, String.ofList_toList]
  rfl

theorem fields?_fieldsText {e : String × Data} {fields : List (String × Data)}
    (h : ∀ x ∈ e :: fields, ReadBack x.2) {fuel : Nat}
    (hfuel : (fieldsText (e :: fields)).length < fuel) (read : List (String × Data))
    (rest : Text) : fields? fuel read (fieldsText (e :: fields) ++ '\x7d' :: rest) =
      some (.record (read.reverse ++ e :: fields), rest) := by
  induction fields generalizing e fuel read with
  | nil =>
      obtain ⟨fuel, rfl⟩ := Nat.exists_eq_add_one_of_ne_zero (Nat.ne_zero_of_lt hfuel)
      rw [fieldsText_singleton, List.length_append, List.length_cons] at hfuel
      have hvalue : ReadBack e.2 := h e (by simp)
      rw [fieldsText_singleton, List.append_assoc, List.cons_append,
        fields?_field hvalue (by omega) e.1 read (by rfl), skipBlanks_cons (by rfl)]
      simp
  | cons e' fields ih =>
      obtain ⟨fuel, rfl⟩ := Nat.exists_eq_add_one_of_ne_zero (Nat.ne_zero_of_lt hfuel)
      rw [fieldsText_cons_cons, List.length_append, List.length_append, List.length_cons,
        List.length_cons] at hfuel
      have hvalue : ReadBack e.2 := h e (by simp)
      have hlt : (fieldsText (e' :: fields)).length < fuel := by omega
      have hfields := ih (fun x hx => h x (List.mem_cons_of_mem e hx)) hlt (e :: read)
      rw [fieldsText_cons_cons, List.append_assoc, List.append_assoc, List.cons_append,
        List.cons_append, fields?_field hvalue (by omega) e.1 read (by rfl),
        skipBlanks_cons (by rfl)]
      simpa using hfields

theorem readBack_of_succ {d : Data} (hd : d.IsJson)
    (h : ∀ (fuel : Nat) (rest : Text), (render d).toList.length ≤ fuel + 1 →
      rest.head?.any isNumberChar = false →
        value? (fuel + 1) ((render d).toList ++ rest) = some (d, rest)) : ReadBack d := by
  intro fuel rest hfuel hrest
  obtain ⟨c, t, ht, -⟩ := opensValue_render hd
  cases fuel with
  | zero => simp [ht] at hfuel
  | succ fuel => exact h fuel rest hfuel hrest

theorem readBack_int (n : Int) : ReadBack (.int n) := by
  apply readBack_of_succ (.int n)
  intro fuel rest _ hrest
  obtain ⟨c, digits, htext, hc⟩ := exists_toString_int n
  have hnumber := number?_toString n hrest
  have hopens := (opensValue_toString n).skipBlanks_append rest
  rw [show render (.int n) = toString n from rfl, value?, hopens]
  rw [htext, List.cons_append] at hnumber ⊢
  split
  · next h => cases h
  · next h => cases h; cases hc
  · next h => cases h; cases hc
  · next h => cases h; cases hc
  · next h => cases h; rw [if_pos hc, hnumber]

theorem readBack_string (s : String) : ReadBack (.string s) := by
  apply readBack_of_succ (.string s)
  intro fuel rest _ _
  have hbody := stringBody?_quoted s rest
  rw [show render (.string s) = quoted s from rfl, toList_quoted, List.cons_append,
    List.append_assoc, List.singleton_append, value?, skipBlanks_cons (by rfl)]
  simp only [hbody, Option.map_some, String.ofList_toList]

theorem readBack_list {items : List Data} (hjson : ∀ d ∈ items, d.IsJson)
    (h : ∀ d ∈ items, ReadBack d) : ReadBack (.list items) := by
  apply readBack_of_succ (.list hjson)
  intro fuel rest hfuel _
  rw [toList_render_list] at hfuel ⊢
  rw [List.cons_append, List.cons_append, List.append_assoc, List.singleton_append, value?,
    skipBlanks_cons (by rfl)]
  cases items with
  | nil => rfl
  | cons d items =>
      have hlength : (itemsText (d :: items)).length < fuel := by
        simp only [List.cons_append, List.length_cons, List.length_append, List.length_nil] at hfuel
        omega
      have hitems := items?_itemsText h hlength [] rest
      obtain ⟨c, t, ht, hc⟩ := opensValue_itemsText (hjson d List.mem_cons_self) items
      have hblanks := (opensValue_itemsText (hjson d List.mem_cons_self) items).skipBlanks_append
        (']' :: rest)
      simp only [hblanks]
      split
      · next more heq =>
          rw [ht] at heq
          cases heq
          cases hc
      · exact hitems

theorem readBack_record {fields : List (String × Data)} (hjson : ∀ e ∈ fields, e.2.IsJson)
    (h : ∀ e ∈ fields, ReadBack e.2) : ReadBack (.record fields) := by
  apply readBack_of_succ (.record hjson)
  intro fuel rest hfuel _
  rw [toList_render_record] at hfuel ⊢
  rw [List.cons_append, List.cons_append, List.append_assoc, List.singleton_append, value?,
    skipBlanks_cons (by rfl)]
  cases fields with
  | nil => rfl
  | cons e fields =>
      have hlength : (fieldsText (e :: fields)).length < fuel := by
        simp only [List.cons_append, List.length_cons, List.length_append, List.length_nil] at hfuel
        omega
      have hfields := fields?_fieldsText h hlength [] rest
      obtain ⟨t, ht⟩ := exists_fieldsText e fields
      rw [ht, List.cons_append] at hfields ⊢
      simp only [skipBlanks_cons (by rfl : [' ', '\n', '\r', '\t'].contains '"' = false)]
      exact hfields

theorem readBack_of_isJson {d : Data} (h : d.IsJson) : ReadBack d := by
  induction h with
  | null => exact readBack_of_succ .null fun _ _ _ _ => rfl
  | bool b =>
      cases b with
      | false => exact readBack_of_succ (.bool false) fun _ _ _ _ => rfl
      | true => exact readBack_of_succ (.bool true) fun _ _ _ _ => rfl
  | int n => exact readBack_int n
  | string s => exact readBack_string s
  | list h ih => exact readBack_list h ih
  | record h ih => exact readBack_record h ih

theorem parse?_render {d : Data} (h : d.IsJson) : parse? (render d).toList = some d := by
  have hvalue := readBack_of_isJson h (2 * (render d).toList.length + 2) [] (by omega) rfl
  rw [List.append_nil] at hvalue
  rw [parse?, hvalue]
  rfl

end Json

end BlockOrder.Data
