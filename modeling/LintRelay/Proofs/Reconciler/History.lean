import LintRelay.Proofs.Reconciler.Display

/-!
# Histories of a reconciler

A `History` is a reconciler with the tickets it gave out and everything it sent. Histories grow by
operations, in any order and with any tickets. In each of them the editor displays for every path
exactly what is recorded (`display_eq_record`).
-/

namespace LintRelay

namespace Reconciler

/-- What may be asked of a reconciler. -/
inductive Operation where
  | begin
  | reconcile (new : FileDiagnostics)
  | reconcileRun (ticket : Ticket) (new : FileDiagnostics)
  | reconcileFile (p : Path) (ds : List Diagnostic)
  | setSourceId (sourceId : String)

end Reconciler

/-- A reconciler with the tickets that it gave and all that it sent, oldest first. -/
structure History where
  reconciler : Reconciler
  taken : List Ticket
  sent : List Sent

namespace History

/-- A reconciler that did nothing yet. -/
def start (sourceId : String) : History := ⟨.start sourceId, [], []⟩

/-- The history after one more operation. -/
def after (h : History) : Reconciler.Operation → History
  | .begin =>
    let (r, ticket) := h.reconciler.begin
    ⟨r, h.taken ++ [ticket], h.sent⟩
  | .reconcile new =>
    let (r, sent, _) := h.reconciler.reconcile new
    ⟨r, h.taken ++ [h.reconciler.begin.2], h.sent ++ sent⟩
  | .reconcileRun ticket new =>
    let (r, sent, _) := h.reconciler.reconcileRun ticket new
    ⟨r, h.taken, h.sent ++ sent⟩
  | .reconcileFile p ds =>
    let (r, sent) := h.reconciler.reconcileFile p ds
    ⟨r, h.taken, h.sent ++ sent⟩
  | .setSourceId sourceId => { h with reconciler := h.reconciler.setSourceId sourceId }

/-- The history that operations make, first one first. -/
def ofOperations (sourceId : String) (ops : List Reconciler.Operation) : History :=
  ops.foldl after (start sourceId)

/-- The record and the display of a history agree. -/
def InStep (h : History) : Prop := Agrees h.sent h.reconciler.published

theorem InStep.after {h : History} (hin : h.InStep) (op : Reconciler.Operation) :
    (h.after op).InStep := by
  cases op with
  | begin => exact hin
  | reconcile new => exact Agrees.reconcileRun (r := h.reconciler.begin.1) hin _ new
  | reconcileRun ticket new => exact Agrees.reconcileRun hin ticket new
  | reconcileFile p ds => exact Agrees.reconcileFile hin p ds
  | setSourceId sourceId => exact hin

theorem InStep.foldl_after {h : History} (hin : h.InStep) (ops : List Reconciler.Operation) :
    (ops.foldl History.after h).InStep := by
  induction ops generalizing h with
  | nil => exact hin
  | cons op ops ih => exact ih (hin.after op)

theorem inStep_ofOperations (sourceId : String) (ops : List Reconciler.Operation) :
    (ofOperations sourceId ops).InStep :=
  InStep.foldl_after (h := start sourceId) Agrees.start ops

/-- **The display is the record.** After every sequence of operations, whatever tickets its project
runs hold, what was last sent for a path is what is recorded for it. In particular nothing is
displayed outside the record, and no entry of the record differs from what was last sent. -/
theorem display_eq_record (sourceId : String) (ops : List Reconciler.Operation) :
    let h := ofOperations sourceId ops
    (∀ p, displayed h.sent p = (h.reconciler.published.find? p).getD []) ∧
    (∀ p, h.reconciler.published.contains p = false → displayed h.sent p = []) ∧
    (∀ e ∈ h.reconciler.published.entries, displayed h.sent e.1 = e.2) := by
  intro h
  have hin : h.InStep := inStep_ofOperations sourceId ops
  refine ⟨hin, ?_, ?_⟩
  · intro p hmissing
    rw [hin p]
    exact PathMap.listAt_of_not_contains _ hmissing
  · intro e he
    rw [hin e.1]
    exact PathMap.listAt_of_mem _ he

end History
end LintRelay
