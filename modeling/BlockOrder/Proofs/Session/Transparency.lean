import BlockOrder.Proofs.Buffer.Edits
import BlockOrder.Proofs.Sort.Transparency
import BlockOrder.Session

/-!
# The line cache does not show

A session answers every query as a session does that has just been opened, whatever queries it
has answered before, cancelled or not, and whatever edits of the document have been reported to
it.
-/

namespace BlockOrder

/-! ## Directives -/

namespace Workspace

variable {w : Workspace}

theorem transparent_factsOf (w : Workspace) (ranges : List Range) :
    w.Transparent (Session.factsOf w ranges) := by
  induction ranges with
  | nil => exact .pure []
  | cons r rest ih => exact (transparent_lines w _ _).bind fun _ => ih.bind fun _ => .pure _

theorem transparent_markers (w : Workspace) (r : Option Range) : w.Transparent (w.markers r) :=
  (transparent_check w).bind fun _ => .pure _

theorem transparent_targets (w : Workspace) (r : Option Range) (markers : List Marker) :
    w.Transparent (w.targets r markers) := by
  induction markers with
  | nil => exact .pure []
  | cons m rest ih =>
      unfold targets
      split
      · exact ih
      split
      · exact (transparent_select w _ _).bind fun _ => ih.bind fun _ => .pure _
      · exact ih

theorem transparent_followTargets (w : Workspace) (targets : List Target) (pending : Pending) :
    w.Transparent (w.followTargets targets pending).run := by
  induction targets generalizing pending with
  | nil => exact .pure _
  | cons t rest ih => exact (transparent_sortEdit w _ _ pending).run_bind fun _ => ih _

theorem transparent_formatEdits (w : Workspace) (r : Option Range) :
    w.Transparent (w.formatEdits r).run :=
  .run_lift_bind (transparent_markers w none) fun _ =>
    .run_lift_bind (transparent_targets w _ _) fun _ =>
      (transparent_followTargets w _ _).run_bind fun _ => .pure _

end Workspace

/-! ## Queries -/

/-- What a session can be asked about a document. -/
inductive Query where
  | lineFacts (ranges : Option (List Range))
  | blocks (r : Range)
  | innerBlocks (r : Range)
  | expand (r : Range) (e : Expansion)
  | expandSelection (r : Range)
  | sortBlocks (o : SortOptions) (ranges : List Range) (pending : Pending)
  | sortEdit (o : SortOptions) (selection : Range) (pending : Pending)
  | markers (r : Option Range)
  | formatEdits (r : Option Range)

namespace Query

/-- What comes of the work on a query. -/
def Result : Query → Type
  | lineFacts _ => List LineFacts
  | blocks _ | innerBlocks _ => List Range
  | expand _ _ | expandSelection _ => Range
  | sortBlocks _ _ _ => Except Inconsistent (List Text × Pending)
  | sortEdit _ _ _ => Except Inconsistent (Edit × Pending)
  | markers _ => List Marker
  | formatEdits _ => Except Inconsistent (List Edit)

/-- The answer to a query, also if the call is cancelled. -/
def Answer : Query → Type
  | sortEdit _ _ _ => Except Inconsistent (Option Edit × Pending)
  | q => q.Result

/-- The work on a query. -/
def work (w : Workspace) : (q : Query) → Work q.Result
  | lineFacts ranges => Session.factsOf w (ranges.getD [w.document.whole])
  | blocks r => w.blocks r
  | innerBlocks r => w.innerBlocks r
  | expand r e => w.expand r e
  | expandSelection r =>
      w.select r (if r.isEmpty then w.config.expandCursor else w.config.expandSelection)
  | sortBlocks o ranges pending => (w.sortBlocks o ranges pending).run
  | sortEdit o selection pending => (w.sortEdit o selection pending).run
  | markers r => w.markers r
  | formatEdits r => (w.formatEdits r).run

/-- The answer that the result of the work gives; there is none if the call is cancelled. -/
def answer (d : Document) : (q : Query) → Option q.Result → q.Answer
  | lineFacts _, result => Option.getD (α := List LineFacts) result []
  | blocks _, result | innerBlocks _, result => Option.getD (α := List Range) result []
  | expand r _, result | expandSelection r, result => Option.getD (α := Range) result (d.clamp r)
  | sortBlocks _ _ pending, result =>
      Option.getD (α := Except Inconsistent (List Text × Pending)) result (.ok ([], pending))
  | sortEdit _ _ _, some result =>
      Except.map (fun (edit, pending) => (some edit, pending)) (α := Edit × Pending) result
  | sortEdit _ _ pending, none => .ok (none, pending)
  | markers _, result => Option.getD (α := List Marker) result []
  | formatEdits _, result =>
      Option.getD (α := Except Inconsistent (List Edit)) result (.ok [])

theorem transparent_work (w : Workspace) (q : Query) : w.Transparent (q.work w) := by
  cases q with
  | lineFacts ranges => exact w.transparent_factsOf _
  | blocks r => exact w.transparent_blocks r
  | innerBlocks r => exact w.transparent_innerBlocks r
  | expand r e => exact w.transparent_expand r e
  | expandSelection r => exact w.transparent_select r _
  | sortBlocks o ranges pending => exact w.transparent_sortBlocks o ranges pending
  | sortEdit o selection pending => exact w.transparent_sortEdit o selection pending
  | markers r => exact w.transparent_markers r
  | formatEdits r => exact w.transparent_formatEdits r

end Query

namespace Session

/-- Asks a session about a document. -/
def ask (s : Session) (d : Document) (cancelled : Bool) : (q : Query) → q.Answer × Session
  | .lineFacts ranges => s.lineFacts d ranges cancelled
  | .blocks r => s.blocks d r cancelled
  | .innerBlocks r => s.innerBlocks d r cancelled
  | .expand r e => s.expand d r e cancelled
  | .expandSelection r => s.expandSelection d r cancelled
  | .sortBlocks o ranges pending => s.sortBlocks d o ranges pending cancelled
  | .sortEdit o selection pending => s.sortEdit d o selection pending cancelled
  | .markers r => s.markers d r cancelled
  | .formatEdits r => s.formatEdits d r cancelled

theorem ask_eq (s : Session) (d : Document) (cancelled : Bool) (q : Query) :
    s.ask d cancelled q = (q.answer d (s.run (q.work (s.workspace d cancelled))).1,
      (s.run (q.work (s.workspace d cancelled))).2) := by
  cases q with
  | sortEdit o selection pending =>
      change s.sortEdit d o selection pending cancelled = (Query.answer d
        (.sortEdit o selection pending)
        (s.run ((s.workspace d cancelled).sortEdit o selection pending)).1,
        (s.run ((s.workspace d cancelled).sortEdit o selection pending)).2)
      unfold sortEdit
      obtain ⟨result, s'⟩ := s.run ((s.workspace d cancelled).sortEdit o selection pending)
      cases result <;> rfl
  | _ => rfl

/-- The session with the settings and patterns of `fresh`, and a cache that is faithful to a
document. -/
def Stands (fresh : Session) (d : Document) (s : Session) : Prop :=
  ∃ c, s = { fresh with cache := c } ∧ LineCache.Faithful fresh.classifier d c

theorem stands_start (config : Config) (language : String) (d : Document) :
    Stands (start config language) d (start config language) :=
  ⟨.empty, rfl, LineCache.faithful_empty _ d⟩

variable {fresh s : Session} {d : Document}

theorem Stands.close (h : Stands fresh d s) : Stands fresh d s.close := by
  obtain ⟨c, rfl, -⟩ := h
  exact ⟨.empty, rfl, LineCache.faithful_empty _ d⟩

theorem run_of_ok {α : Type} {s : Session} {x : Work α} {a : α} {c : LineCache}
    (h : x s.cache = .ok a c) : s.run x = (some a, { s with cache := c }) := by
  rw [run, h]

theorem Stands.workspace_eq (h : Stands fresh d s) (cancelled : Bool) :
    s.workspace d cancelled = fresh.workspace d cancelled := by
  obtain ⟨c, rfl, -⟩ := h
  rfl

/-- What work delivers from faithful caches comes of running it. -/
theorem Stands.exists_run {α : Type} (h : Stands fresh d s) {x : Work α} {P : α → Prop}
    (hx : Delivers (fresh.workspace d false).Faithful x P) :
    ∃ a s', s.run x = (some a, s') ∧ P a := by
  obtain ⟨c, rfl, hc⟩ := h
  obtain ⟨a, c', hok, -, ha⟩ := hx c hc
  exact ⟨a, _, run_of_ok hok, ha⟩

theorem run_snd {α : Type} (s : Session) (x : Work α) :
    (s.run x).2 = { s with cache := final (x s.cache) } := by
  unfold run
  cases x s.cache <;> rfl

theorem Stands.ask (h : Stands fresh d s) (cancelled : Bool) (q : Query) :
    Stands fresh d (s.ask d cancelled q).2 := by
  obtain ⟨c, rfl, hc⟩ := h
  obtain ⟨-, hfinal⟩ := (q.transparent_work (fresh.workspace d cancelled)).safe () c hc
  rw [ask_eq, run_snd]
  exact ⟨_, rfl, hfinal⟩

/-- Sessions with the same settings and faithful caches give the same answers. -/
theorem Stands.ask_eq {s' : Session} (h : Stands fresh d s) (h' : Stands fresh d s') (q : Query) :
    (s.ask d false q).1 = (s'.ask d false q).1 := by
  obtain ⟨c, rfl, hc⟩ := h
  obtain ⟨c', rfl, hc'⟩ := h'
  obtain ⟨a, -, ha⟩ := (q.transparent_work (fresh.workspace d false)).steady rfl ()
  have hrun : ∀ c, LineCache.Faithful fresh.classifier d c →
      (({ fresh with cache := c } : Session).run
        (q.work (({ fresh with cache := c } : Session).workspace d false))).1 = some a := by
    intro c hc
    obtain ⟨_, hok, -⟩ := ha c hc
    exact congrArg Prod.fst (run_of_ok hok)
  rw [Session.ask_eq, Session.ask_eq, hrun c hc, hrun c' hc']

/-! ## Edits -/

/-- An edit of a plain buffer by a plain text, on lines that the buffer has. -/
structure Editable (b : Buffer) (e : Edit) : Prop where
  ordered : e.range.start ≤ e.range.stop
  startLine : e.range.start.line < b.document.lineCount
  stopLine : e.range.stop.line < b.document.lineCount
  plain : b.text.Plain
  plainText : e.text.Plain
  /-- The text after the edit has no more characters than can be counted in 64 bits. -/
  countable : (b.edit e).text.length ≤ LineSet.lastLineNumber

theorem Stands.edit {b : Buffer} (h : Stands fresh b.document s) {e : Edit}
    (he : Editable b e) : Stands fresh (b.edit e).document (s.noteEdit e) := by
  obtain ⟨c, rfl, hc⟩ := h
  have hmono := b.document.clampPosition_mono he.ordered
  obtain ⟨new, hnew, hlines⟩ := Buffer.exists_edit_lines he.plain he.plainText rfl rfl hmono
  rw [Document.clampPosition_line he.startLine, Document.clampPosition_line he.stopLine] at hlines
  have hle := Position.line_le he.ordered
  have hcount : (b.edit e).document.lineCount ≤ LineSet.lastLineNumber + 1 := by
    rw [Document.lineCount, Buffer.document_lines (Buffer.plain_edit he.plain he.plainText),
      Text.length_lines]
    have hnewlines := List.count_le_length (a := '\n') (l := (b.edit e).text)
    have hsize := he.countable
    omega
  have hfaithful := hc.invalidate hle he.stopLine hlines hcount
  rw [hnew] at hfaithful
  exact ⟨_, rfl, hfaithful⟩

/-- The sessions and buffers that come of opening a session on a buffer, asking it, closing it,
and making and reporting edits, in any order and number. -/
inductive Reachable (config : Config) (language : String) (opened : Buffer) :
    Session → Buffer → Prop
  | start : Reachable config language opened (start config language) opened
  | ask {s : Session} {b : Buffer} (cancelled : Bool) (q : Query)
      (before : Reachable config language opened s b) :
      Reachable config language opened (s.ask b.document cancelled q).2 b
  | close {s : Session} {b : Buffer} (before : Reachable config language opened s b) :
      Reachable config language opened s.close b
  | edit {s : Session} {b : Buffer} {e : Edit} (editable : Editable b e)
      (before : Reachable config language opened s b) :
      Reachable config language opened (s.noteEdit e) (b.edit e)

theorem Reachable.stands {config : Config} {language : String} {opened b : Buffer}
    (h : Reachable config language opened s b) :
    Stands (Session.start config language) b.document s := by
  induction h with
  | start => exact stands_start config language opened.document
  | ask cancelled q _ ih => exact ih.ask cancelled q
  | close _ ih => exact ih.close
  | edit editable _ ih => exact ih.edit editable

/-- Whatever has happened before, a session answers a query that is not cancelled as a session
does that has just been opened. -/
theorem Reachable.ask_eq_ask_start {config : Config} {language : String} {opened b : Buffer}
    (h : Reachable config language opened s b) (q : Query) :
    (s.ask b.document false q).1 = ((Session.start config language).ask b.document false q).1 :=
  h.stands.ask_eq (stands_start config language b.document) q

/-- A buffer of two lines. -/
def twoLines : Buffer := ⟨"b\na".toList, .lf, "text"⟩

/-- The first line becomes two lines. -/
def splitLine : Edit := ⟨⟨.ofOffset 0 0, .endOf 0⟩, "c\nd".toList⟩

/-- A session that has been asked for blocks, has seen a line become two lines, and has been asked
by a call that was cancelled. -/
theorem ask_eq_ask_start_after_edit :
    Editable twoLines splitLine ∧ ∀ q,
      (((((start {} "text").ask twoLines.document false (.blocks (.lines 0 1))).2.noteEdit
        splitLine).ask (twoLines.edit splitLine).document true (.formatEdits none)).2.ask
          (twoLines.edit splitLine).document false q).1 =
        ((start {} "text").ask (twoLines.edit splitLine).document false q).1 := by
  have heditable : Editable twoLines splitLine :=
    ⟨by decide, by decide, by decide, by decide, by decide, by decide⟩
  exact ⟨heditable, fun q => Reachable.ask_eq_ask_start
    (.ask true _ (.edit heditable (.ask false _ .start))) q⟩

end Session

end BlockOrder
