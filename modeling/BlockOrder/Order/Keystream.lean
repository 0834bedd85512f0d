/-!
# Random numbers

A stream of 32-bit words that a seed determines: the output of the ChaCha function with twelve
rounds over a block counter, under a key that is derived from the seed.
-/

namespace BlockOrder

/-- A place in the stream of words of a key. -/
structure Keystream where
  key : List UInt32
  index : Nat

namespace Keystream

/-- The word at a place of a state. -/
def wordAt (state : List UInt32) (i : Nat) : UInt32 := state.getD i 0

def rotate (x : UInt32) (n : UInt32) : UInt32 := (x <<< n) ||| (x >>> (32 - n))

/-- The quarter round on four words of a state. -/
def quarterRound (a b c d : Nat) (s : List UInt32) : List UInt32 :=
  let wa := wordAt s a + wordAt s b
  let wd := rotate (wordAt s d ^^^ wa) 16
  let wc := wordAt s c + wd
  let wb := rotate (wordAt s b ^^^ wc) 12
  let wa := wa + wb
  let wd := rotate (wd ^^^ wa) 8
  let wc := wc + wd
  let wb := rotate (wb ^^^ wc) 7
  (((s.set a wa).set b wb).set c wc).set d wd

/-- Two rounds: one on the columns and one on the diagonals of a state. -/
def doubleRound (s : List UInt32) : List UInt32 :=
  let columns := quarterRound 3 7 11 15 (quarterRound 2 6 10 14
    (quarterRound 1 5 9 13 (quarterRound 0 4 8 12 s)))
  quarterRound 3 4 9 14 (quarterRound 2 7 8 13
    (quarterRound 1 6 11 12 (quarterRound 0 5 10 15 columns)))

/-- The state before the rounds: the words of "expand 32-byte k", the key, and the number of the
block. -/
def initialState (key : List UInt32) (block : Nat) : List UInt32 :=
  [0x61707865, 0x3320646e, 0x79622d32, 0x6b206574] ++ key ++
    [UInt32.ofNat block, UInt32.ofNat (block / 0x100000000), 0, 0]

/-- One block of output: twelve rounds, and the initial state added to the result. -/
def block (key : List UInt32) (n : Nat) : List UInt32 :=
  let start := initialState key n
  let mixed := (List.range 6).foldl (fun s _ => doubleRound s) start
  List.zipWith (· + ·) start mixed

/-- The words of the key that a state yields, `n` of them. -/
def keyWords : (n : Nat) → UInt64 → List UInt32
  | 0, _ => []
  | n + 1, state =>
      let state := state * 6364136223846793005 + 11634580027462260723
      let word := (((state >>> 18) ^^^ state) >>> 27).toUInt32
      let turn := (state >>> 59).toUInt32
      let word := if turn = 0 then word else (word >>> turn) ||| (word <<< (32 - turn))
      word :: keyWords n state

/-- The start of the stream of a seed. -/
def ofSeed (seed : UInt64) : Keystream := ⟨keyWords 8 seed, 0⟩

def next (k : Keystream) : UInt32 × Keystream :=
  (wordAt (block k.key (k.index / 16)) (k.index % 16), { k with index := k.index + 1 })

/-- The largest low word with which a draw below `n` counts: `n` moved to the left as far as 32
bits allow, less one. -/
def zone (n : Nat) : Nat := (n <<< (31 - n.log2)) - 1

/-- A number below `n`, each with the same chance.  A word counts if its product with `n` has a
low half within the zone; the high half is the number.  At least every second word counts, so a
small number of attempts is enough. -/
def drawWithin (n : Nat) : (attempts : Nat) → Keystream → Nat × Keystream
  | 0, k => (0, k)
  | attempts + 1, k =>
      let (word, k) := k.next
      let product := word.toNat * n
      if product % 0x100000000 ≤ zone n then (product / 0x100000000, k) else drawWithin n attempts k

def draw (n : Nat) (k : Keystream) : Nat × Keystream := drawWithin n 1000 k

end Keystream

end BlockOrder
