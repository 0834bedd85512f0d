import BlockOrder.Edit.Merge
import BlockOrder.StableSort

/-!
# Pending edits

Edits that have been computed and wait to become part of a larger one.  An edit that is taken is
pending no more.
-/

namespace BlockOrder

/-- Edits in the order in which they came up. -/
structure Pending where
  edits : List Edit
deriving DecidableEq

namespace Pending

def none : Pending := ⟨[]⟩

def push (p : Pending) (e : Edit) : Pending := ⟨p.edits ++ [e]⟩

def restore (p : Pending) (edits : List Edit) : Pending := ⟨p.edits ++ edits⟩

def retain (keep : Edit → Bool) (p : Pending) : Pending := ⟨p.edits.filter keep⟩

/-- Takes the edits that lie inside a range of a document.  They are handed out clamped and in
the order of their starts. -/
def takeWithin (d : Document) (r : Range) (p : Pending) : List Edit × Pending :=
  let inside := fun e : Edit => (d.clamp r).contains (d.clamp e.range)
  let taken := (p.edits.filter inside).map (Edit.clamp d)
  (sortBy (fun a b => a.range.start ≤ b.range.start) taken,
    ⟨p.edits.filter fun e => !inside e⟩)

/-- The text of a range with the pending edits inside it applied.  Edits that overlap an applied
one stay pending. -/
def editedText (d : Document) (r : Range) (p : Pending) : Text × Pending :=
  let (taken, left) := p.takeWithin d r
  let (text, rejected) := Edit.merge (d.clamp r).start (d.slice r) taken
  (text, left.restore rejected)

end Pending

end BlockOrder
