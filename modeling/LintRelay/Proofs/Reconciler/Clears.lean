import LintRelay.Proofs.Reconciler.History

/-!
# What a project run clears

A project run that is applied sends the entries of its result and then clears, once each and in the
order of paths, exactly the files that show something and are missing from the result
(`applied_run_sends`). The clears are computed from the record; that they are right about the
display is the agreement of the two.
-/

namespace LintRelay

/-- The files that a project run clears. -/
def clearedPaths (shown new : FileDiagnostics) : List Path :=
  (shown.entries.filter fun e => !e.2.isEmpty && !new.contains e.1).map (·.1)

theorem clears_eq_map (shown new : FileDiagnostics) :
    clears shown new = (clearedPaths shown new).map fun p => ⟨p, []⟩ := by
  rw [clears, clearedPaths, List.map_map]
  rfl

/-- Clears come in the order of paths, so no path is cleared twice. -/
theorem clearedPaths_increasing (shown new : FileDiagnostics) :
    (clearedPaths shown new).Pairwise (fun p q => p.key < q.key) :=
  List.pairwise_map.mpr (shown.increasing.filter _)

/-- A path is cleared, in some spelling, exactly when something is recorded for it and the result
has no entry for it. -/
theorem exists_clearedPaths_iff {shown new : FileDiagnostics} {p : Path} :
    (∃ q ∈ clearedPaths shown new, q.same p = true) ↔
      new.contains p = false ∧ shown.listAt p ≠ [] := by
  have contains_congr : ∀ q : Path, q.key = p.key → new.contains q = new.contains p := by
    intro q hkey
    rw [new.contains_eq_isSome, new.contains_eq_isSome, new.find?_congr hkey]
  constructor
  · rintro ⟨q, hq, hsame⟩
    have hkey := Path.same_iff.mp hsame
    obtain ⟨e, he, rfl⟩ := List.mem_map.mp hq
    obtain ⟨hmem, hcond⟩ := List.mem_filter.mp he
    obtain ⟨hfull, hmissing⟩ := (Bool.and_eq_true _ _).mp hcond
    rw [← contains_congr e.1 hkey, ← shown.listAt_congr hkey, shown.listAt_of_mem hmem]
    exact ⟨by simpa using hmissing, by simpa using hfull⟩
  · rintro ⟨hmissing, hfull⟩
    cases hfind : shown.find? p with
    | none => exact absurd (by rw [PathMap.listAt, hfind, Option.getD_none]) hfull
    | some ds =>
        obtain ⟨q, hmem, hkey⟩ := shown.find?_eq_some_iff.mp hfind
        rw [PathMap.listAt, hfind, Option.getD_some] at hfull
        refine ⟨q, List.mem_map.mpr ⟨(q, ds), List.mem_filter.mpr ⟨hmem, ?_⟩, rfl⟩,
          Path.same_iff.mpr hkey⟩
        simpa [contains_congr q hkey, hmissing] using hfull

/-- After a result nothing is left that the same result would clear. -/
theorem clears_self (new : FileDiagnostics) : clears new new = [] := by
  rw [clears, List.map_eq_nil_iff, List.filter_eq_nil_iff]
  intro e he
  have hthere : new.contains e.1 = true := by
    rw [new.contains_eq_isSome, new.find?_of_mem he, Option.isSome_some]
  simp [hthere]

/-- **Clears are exact.** A project run that is applied, after any history, sends one publication
for each entry of its result, in the order of paths, and then one empty publication for each path
that displays something and is not in the result, in the order of paths; its counts are the lengths
of the two parts. Whatever tickets are taken before the same result is applied again, the second
time only its entries are sent and nothing is cleared. -/
theorem applied_run_sends (sourceId : String) (ops : List Reconciler.Operation) (ticket : Ticket)
    (new : FileDiagnostics) (r : Reconciler) (sent : List Sent) (published cleared : Nat)
    (applied : (History.ofOperations sourceId ops).reconciler.reconcileRun ticket new =
      (r, sent, .applied published cleared)) :
    let h := History.ofOperations sourceId ops
    let entries : List Publication := new.entries.map fun e => ⟨e.1, e.2⟩
    (∃ gone : List Path,
      sent = h.reconciler.send (entries ++ gone.map fun p => ⟨p, []⟩) ∧
      entries.Pairwise (fun a b => a.path.key < b.path.key) ∧
      gone.Pairwise (fun p q => p.key < q.key) ∧
      (∀ p, (∃ q ∈ gone, q.same p = true) ↔
        new.contains p = false ∧ displayed h.sent p ≠ []) ∧
      published = entries.length ∧ cleared = gone.length) ∧
    (∀ last again : Ticket, ¬ again < ticket →
      ({ r with lastTicket := last }).reconcileRun again new =
        ({ r with lastTicket := last, generation := again }, h.reconciler.send entries,
          .applied entries.length 0)) := by
  intro h entries
  have hin : h.InStep := History.inStep_ofOperations sourceId ops
  have hfresh : ¬ ticket < h.reconciler.generation := by
    intro hstale
    rw [Reconciler.reconcileRun_stale new hstale] at applied
    simp at applied
  rw [Reconciler.reconcileRun_applied new hfresh] at applied
  obtain ⟨rfl, rfl, hcounts⟩ := by simpa using applied
  obtain ⟨rfl, rfl⟩ := hcounts
  refine ⟨⟨clearedPaths h.reconciler.published new, ?_, ?_, ?_, ?_, ?_, ?_⟩, ?_⟩
  · rw [← clears_eq_map]
    rfl
  · exact List.pairwise_map.mpr new.increasing
  · exact clearedPaths_increasing _ _
  · intro p
    rw [hin p]
    exact exists_clearedPaths_iff
  · simp [entries, PathMap.size]
  · rw [clears_eq_map, List.length_map]
  · intro last again hagain
    rw [Reconciler.reconcileRun_applied new hagain, clears_self]
    simp [entries, announcements, PathMap.size, Reconciler.send]

/-- A file that shows something and is missing from the result is cleared, one that was cleared
before or is in the result with nothing is not. -/
theorem applied_run_sends_mixed :
    let d : Diagnostic := default
    let old : FileDiagnostics :=
      (PathMap.empty.insert (.ofString "/b.js") [d]).insert (.ofString "/c.js") []
    let new : FileDiagnostics := .insert .empty (.ofString "/c.js") []
    let h := History.ofOperations "tslint-ts" [
      .reconcileFile (.ofString "/a.js") [d], .begin, .reconcileRun 1 old,
      .reconcileFile (.ofString "/e.js") [d]]
    ∃ gone : List Path,
      (h.reconciler.reconcileRun 1 new).2.1 =
        h.reconciler.send (⟨.ofString "/c.js", []⟩ :: gone.map fun p => ⟨p, []⟩) ∧
      (∀ p, (∃ q ∈ gone, q.same p = true) ↔
        new.contains p = false ∧ displayed h.sent p ≠ []) ∧
      gone.length = 2 := by
  intro d old new h
  obtain ⟨⟨gone, hsent, -, -, hgone, -, hcleared⟩, -⟩ :=
    applied_run_sends "tslint-ts" _ 1 new _ _ 1 2 (show h.reconciler.reconcileRun 1 new = _ from rfl)
  exact ⟨gone, hsent, hgone, hcleared.symm⟩

end LintRelay
