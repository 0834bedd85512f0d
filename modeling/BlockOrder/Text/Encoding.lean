import BlockOrder.Text.Basic

/-!
# Encoded size

Some rules count the bytes in which a text is encoded.
-/

namespace BlockOrder

/-- The number of bytes in which a text is encoded. -/
def encodedSize (t : Text) : Nat := t.foldl (fun n c => n + c.utf8Size) 0

/-- The first characters of a text whose encoding has a given number of bytes, if some have. -/
def takeEncoded? : (size : Nat) → Text → Option Text
  | 0, _ => some []
  | _ + 1, [] => none
  | size, c :: rest =>
      if c.utf8Size ≤ size then (takeEncoded? (size - c.utf8Size) rest).map (c :: ·) else none

end BlockOrder
