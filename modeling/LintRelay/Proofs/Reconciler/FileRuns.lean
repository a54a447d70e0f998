import LintRelay.Proofs.Reconciler.FinishOrder

/-!
# Runs over single files

A run over one file has no ticket, so its result is published whenever it is there. That does no
harm between different files: their results are recorded in any order with the same outcome
(`recordFiles_perm`), each is sent once and for its own file, and no other entry changes
(`file_results_independent`). Two results for one file are another matter; the later one counts.
-/

namespace LintRelay

/-- The record after results for single files, first one first. -/
def recordFiles (shown : FileDiagnostics) (results : List Publication) : FileDiagnostics :=
  results.foldl (fun m c => recordFile m c.path c.diagnostics) shown

/-- Whether results are for different files, however these are spelled. -/
def ForDifferentFiles (results : List Publication) : Prop :=
  results.Pairwise fun c d => c.path.same d.path = false

instance (results : List Publication) : Decidable (ForDifferentFiles results) :=
  inferInstanceAs (Decidable (results.Pairwise _))

theorem ForDifferentFiles.eq_or_ne {results : List Publication} (h : ForDifferentFiles results)
    {c d : Publication} (hc : c ∈ results) (hd : d ∈ results) :
    c = d ∨ c.path.key ≠ d.path.key := by
  have distinct : (results.map fun c => c.path.key).Nodup :=
    List.pairwise_map.mpr (h.imp Path.same_eq_false_iff.mp)
  by_cases hkey : c.path.key = d.path.key
  · exact .inl (List.inj_on_of_nodup_map distinct hc hd hkey)
  · exact .inr hkey

/-- The order in which different files are recorded is irrelevant. -/
theorem recordFiles_perm {results order : List Publication} (h : ForDifferentFiles results)
    (hperm : results.Perm order) (shown : FileDiagnostics) :
    recordFiles shown results = recordFiles shown order := by
  refine hperm.foldl_eq' (fun c hc d hd shown => ?_) shown
  rcases h.eq_or_ne hc hd with rfl | hne
  · rfl
  · exact recordFile_comm hne shown _ _

namespace History

/-- Results for single files are published one after the other. -/
def publishFiles (h : History) (results : List Publication) : History :=
  results.foldl (fun h c => h.after (.reconcileFile c.path c.diagnostics)) h

/-- Results for single files are recorded and sent in their order, and nothing else happens. -/
theorem publishFiles_eq (h : History) (results : List Publication) :
    h.publishFiles results =
      ⟨{ h.reconciler with published := recordFiles h.reconciler.published results }, h.taken,
        h.sent ++ h.reconciler.send results⟩ := by
  induction results generalizing h with
  | nil =>
      rw [show h.reconciler.send [] = [] from rfl, List.append_nil]
      rfl
  | cons c results ih =>
      rw [publishFiles, List.foldl_cons, ← publishFiles, ih]
      show (⟨_, h.taken, (h.sent ++ h.reconciler.send [c]) ++ h.reconciler.send results⟩ : History)
        = _
      rw [List.append_assoc]
      rfl

theorem InStep.publishFiles {h : History} (hin : h.InStep) (results : List Publication) :
    (h.publishFiles results).InStep := by
  induction results generalizing h with
  | nil => exact hin
  | cons c results ih => exact ih (hin.after _)

/-- **Results for different files are independent.** They are published after any history. Every
order of them leaves the same record, spelled alike, the same result in force and the same display.
Whatever results came before it, each one is sent once, for its own file; its entry becomes the
result, where an empty one adds none, and every other entry and the result in force stay as they
were. -/
theorem file_results_independent (sourceId : String) (ops : List Reconciler.Operation)
    (results order : List Publication) (different : ForDifferentFiles results)
    (reordered : order.Perm results) :
    let h := ofOperations sourceId ops
    Alike (h.publishFiles order) (h.publishFiles results) ∧
    ∀ (before : List Publication) (c : Publication),
      let now := h.publishFiles before
      let next := now.after (.reconcileFile c.path c.diagnostics)
      h.publishFiles (before ++ [c]) = next ∧
      next.sent = now.sent ++ [⟨h.reconciler.sourceId, c⟩] ∧
      next.reconciler.published.find? c.path =
        (if c.diagnostics = [] then (now.reconciler.published.find? c.path).map fun _ => []
        else some c.diagnostics) ∧
      (∀ p, p.same c.path = false →
        next.reconciler.published.entryAt? p = now.reconciler.published.entryAt? p) ∧
      next.reconciler.generation = now.reconciler.generation := by
  intro h
  have hin : h.InStep := inStep_ofOperations sourceId ops
  refine ⟨(hin.publishFiles order).alike (hin.publishFiles results) ?_ ?_, ?_⟩
  · rw [publishFiles_eq, publishFiles_eq]
    exact (recordFiles_perm different reordered.symm _).symm
  · rw [publishFiles_eq, publishFiles_eq]
  · intro before c now next
    have hnow : now = h.publishFiles before := rfl
    have hsource : now.reconciler.sourceId = h.reconciler.sourceId := by
      rw [hnow, publishFiles_eq]
    refine ⟨List.foldl_concat .., ?_, ?_, ?_, rfl⟩
    · show now.sent ++ [⟨now.reconciler.sourceId, c⟩] = _
      rw [hsource]
    · exact (find?_recordFile _ _ _ _).trans (if_pos rfl)
    · intro p hp
      exact entryAt?_recordFile_of_ne (Path.same_eq_false_iff.mp hp).symm _ _

/-- Of four results, one clears a file, one replaces what is shown, one is empty for a file that is
not known, and one is for a new file. Backwards they leave the same record, in which the unknown
file is missing. -/
theorem file_results_independent_backwards :
    let d : Diagnostic := default
    let old : FileDiagnostics :=
      (PathMap.empty.insert (.ofString "/a.js") [d]).insert (.ofString "/b.js") [d]
    let h := ofOperations "tslint-ts" [.reconcile old]
    let unknown : Publication := ⟨.ofString "/c.js", []⟩
    let fresh : Publication := ⟨.ofString "/d.js", [d]⟩
    let results := [⟨.ofString "//a.js", []⟩, ⟨.ofString "/b.js/", [d, d]⟩, unknown, fresh]
    ForDifferentFiles results ∧ results.reverse.Perm results ∧
      Alike (h.publishFiles results.reverse) (h.publishFiles results) ∧
      (h.publishFiles results).reconciler.published.paths =
        [.ofString "/a.js", .ofString "/b.js", .ofString "/d.js"] ∧
      (h.publishFiles ([fresh] ++ [unknown])).reconciler.published.find? unknown.path = none := by
  intro d old h unknown fresh results
  have different : ForDifferentFiles results := by decide
  obtain ⟨halike, hcalls⟩ := file_results_independent "tslint-ts" [.reconcile old] results
    results.reverse different (List.reverse_perm _)
  obtain ⟨hnext, -, hempty, -, -⟩ := hcalls [fresh] unknown
  refine ⟨different, List.reverse_perm _, halike, by decide, ?_⟩
  rw [hnext]
  exact hempty.trans (by decide)

/-- Of two results for one file the later one is displayed. -/
example :
    let d : Diagnostic := default
    let clear : Publication := ⟨.ofString "/a.js", []⟩
    let report : Publication := ⟨.ofString "//a.js", [d]⟩
    displayed ((start "tslint-ts").publishFiles [clear, report]).sent (.ofString "/a.js") = [d] ∧
      displayed ((start "tslint-ts").publishFiles [report, clear]).sent (.ofString "/a.js") = [] := by
  decide

end History
end LintRelay
