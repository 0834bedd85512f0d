import BlockOrder.Config.Options
import BlockOrder.Text.Blank
import BlockOrder.Text.Case
import BlockOrder.Text.Letter

/-!
# Collation

The order of keys, the same in all places.  White space comes before punctuation, punctuation
before numbers and numbers before letters.  Runs of digits compare by value, letters without
regard to case; case decides between keys that are otherwise equal, if it counts at all.
-/

namespace BlockOrder

abbrev Collate := Text → Text → Ordering

def codePointOrder : Collate
  | [], [] => .eq
  | [], _ :: _ => .lt
  | _ :: _, [] => .gt
  | x :: xs, y :: ys => if x < y then .lt else if y < x then .gt else codePointOrder xs ys

/-- What a key is compared by: a run of digits, or a single character of some other kind. -/
inductive KeyPart where
  | blank
  | punctuation (c : Char)
  | number (digits : Text)
  /-- A letter in lower case. -/
  | letter (c : Char)
deriving DecidableEq

namespace KeyPart

/-- The place of a kind among the kinds. -/
def kind : KeyPart → Nat
  | blank => 0
  | punctuation _ => 1
  | number _ => 2
  | letter _ => 3

def significant (digits : Text) : Text := digits.dropWhile (· == '0')

/-- Runs of digits by value: a longer numeral is larger, leading zeros apart.  Of numerals with
the same value the shorter one comes first. -/
def numberOrder (a b : Text) : Ordering :=
  (compare (significant a).length (significant b).length).then
    ((codePointOrder (significant a) (significant b)).then (compare a.length b.length))

/-- The order of parts: by kind, then within the kind. -/
def order : KeyPart → KeyPart → Ordering
  | number a, number b => numberOrder a b
  | punctuation a, punctuation b => compare a b
  | letter a, letter b => compare a b
  | a, b => compare a.kind b.kind

/-- A character as a part of its own. -/
def ofChar (c : Char) : KeyPart :=
  if isBlankChar c then blank
  else if isAlphanumeric c then letter (lowerFirst c)
  else punctuation c

/-- The parts of a key.  Digits that follow each other make one part if `numeric`. -/
def ofText (numeric : Bool) : Text → List KeyPart
  | [] => []
  | c :: rest =>
      if numeric && isAsciiDigit c then
        match ofText numeric rest with
        | number digits :: more => number (c :: digits) :: more
        | parts => number [c] :: parts
      else ofChar c :: ofText numeric rest

/-- Lists of parts, compared from the left; a list comes before its continuations. -/
def listOrder : List KeyPart → List KeyPart → Ordering
  | [], [] => .eq
  | [], _ :: _ => .lt
  | _ :: _, [] => .gt
  | x :: xs, y :: ys => (x.order y).then (listOrder xs ys)

end KeyPart

namespace CollationOptions

/-- The order of two texts by the first place at which they differ in case only. -/
def caseOrder (first : CaseFirst) : Collate
  | x :: xs, y :: ys =>
      if x = y || lowerFirst x ≠ lowerFirst y then caseOrder first xs ys
      else
        let ordering := if isUppercase x && !isUppercase y then Ordering.lt else .gt
        match first with
        | .upper => ordering
        | .lower | .either => ordering.swap
  | _, _ => .eq

def collate (o : CollationOptions) : Collate := fun a b =>
  let primary := KeyPart.listOrder (KeyPart.ofText o.numeric a) (KeyPart.ofText o.numeric b)
  primary.then <|
    match o.sensitivity with
    | .base | .accent => .eq
    | .case => caseOrder o.caseFirst a b
    | .variant => (caseOrder o.caseFirst a b).then (codePointOrder a b)

end CollationOptions

end BlockOrder
