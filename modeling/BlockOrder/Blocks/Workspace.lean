import BlockOrder.Lines.Cache
import BlockOrder.Config.Basic

/-!
# Workspaces

What a call works with: the document, the patterns and settings of the session, and whether the
call has been cancelled.  The cache of the session is the state of the computation.
-/

namespace BlockOrder

/-- The surroundings of a call. -/
structure Workspace where
  document : Document
  classifier : Classifier
  config : Config
  cancelled : Bool

namespace Workspace

def check (w : Workspace) : Work Unit := if w.cancelled then throw {} else pure ()

/-- Makes sure that the facts about some lines are there. -/
def ensure (w : Workspace) (first last : Nat) : Work Unit :=
  LineCache.ensure w.classifier w.document w.cancelled first last

/-- What is known about the lines from `first` to `last` once it has been made sure that the
facts are there. -/
def lines (w : Workspace) (first last : Nat) : Work (List (Option LineFacts)) := do
  w.ensure first last
  return (← get).slice first last

/-- What is known about one line once it has been made sure that the facts are there. -/
def line (w : Workspace) (n : Nat) : Work (Option LineFacts) := do
  w.ensure n n
  return (← get).get? n

end Workspace

end BlockOrder
