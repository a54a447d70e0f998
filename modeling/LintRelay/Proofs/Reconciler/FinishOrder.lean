import LintRelay.Proofs.Reconciler.Tickets
import Mathlib.Data.List.MinMax
import Mathlib.Order.Nat

/-!
# The order in which project runs finish

Project runs that overlap take their tickets first and finish in any order; some fail. What is
recorded, in force and displayed in the end does not depend on that order: it is the result of the
newest run that succeeds (`finish_order_irrelevant`). What is sent on the way does depend on it.

The proof splits a list of runs at its newest success. The runs before it leave something older in
force, so its result is applied; the successes after it are stale.
-/

namespace LintRelay

/-- A project run with its ticket and with its result, which a run that fails does not have. -/
structure ProjectRun where
  ticket : Ticket
  result : Option FileDiagnostics

namespace History

/-- Runs with the given results begin one after the other. -/
def beginAll (h : History) : List (Option FileDiagnostics) → History × List ProjectRun
  | [] => (h, [])
  | result :: results =>
    let (h', runs) := (h.after .begin).beginAll results
    (h', ⟨h.reconciler.begin.2, result⟩ :: runs)

/-- A run finishes. One that fails reconciles nothing. -/
def finish (h : History) (run : ProjectRun) : History :=
  match run.result with
  | some new => h.after (.reconcileRun run.ticket new)
  | none => h

/-- Runs finish one after the other. -/
def finishAll (h : History) (runs : List ProjectRun) : History := runs.foldl finish h

/-! ## Beginning -/

theorem beginAll_cons (h : History) (result : Option FileDiagnostics)
    (results : List (Option FileDiagnostics)) :
    h.beginAll (result :: results) =
      (((h.after .begin).beginAll results).1,
        ⟨h.reconciler.begin.2, result⟩ :: ((h.after .begin).beginAll results).2) :=
  rfl

/-- Beginning takes tickets and does nothing else. -/
theorem beginAll_frame (h : History) (results : List (Option FileDiagnostics)) :
    (h.beginAll results).1.reconciler.published = h.reconciler.published ∧
    (h.beginAll results).1.reconciler.generation = h.reconciler.generation ∧
    (h.beginAll results).1.sent = h.sent := by
  induction results generalizing h with
  | nil => exact ⟨rfl, rfl, rfl⟩
  | cons result results ih => exact ih (h.after .begin)

/-- The tickets of the runs are those taken since, in the order of the runs. -/
theorem beginAll_taken (h : History) (results : List (Option FileDiagnostics)) :
    (h.beginAll results).1.taken = h.taken ++ (h.beginAll results).2.map (·.ticket) := by
  induction results generalizing h with
  | nil => exact (List.append_nil _).symm
  | cons result results ih =>
      rw [beginAll_cons, ih (h.after .begin), List.map_cons]
      exact List.append_assoc _ [h.reconciler.begin.2] _

theorem beginAll_counted {h : History} (hc : Counted h.reconciler h.taken)
    (results : List (Option FileDiagnostics)) (room : h.taken.length + results.length < UInt64.size) :
    Counted (h.beginAll results).1.reconciler (h.beginAll results).1.taken := by
  induction results generalizing h with
  | nil => exact hc
  | cons result results ih =>
      rw [List.length_cons] at room
      apply ih (hc.begin (by omega))
      show (h.taken ++ [h.reconciler.begin.2]).length + results.length < UInt64.size
      rw [List.length_append, List.length_singleton]
      omega

/-- The tickets of runs that begin after a lawful history are different from each other, and newer
than the result in force. -/
theorem Lawful.beginAll_tickets {sourceId : String} {h : History} (hl : Lawful sourceId h)
    (results : List (Option FileDiagnostics)) (room : h.taken.length + results.length < UInt64.size) :
    ((h.beginAll results).2.map (·.ticket)).Nodup ∧
    ∀ run ∈ (h.beginAll results).2, h.reconciler.generation ≤ run.ticket := by
  have hincreasing := (beginAll_counted (hl.counted (by omega)) results room).increasing
  rw [beginAll_taken, List.pairwise_append] at hincreasing
  obtain ⟨-, hnew, hcross⟩ := hincreasing
  refine ⟨hnew.imp fun hlt => UInt64.ne_of_lt hlt, ?_⟩
  intro run hrun
  rcases hl.generation_mem with hzero | hmem
  · exact hzero ▸ UInt64.zero_le
  · exact UInt64.le_of_lt (hcross _ hmem _ (List.mem_map_of_mem hrun))

/-! ## Finishing -/

theorem finish_some {h : History} {run : ProjectRun} {new : FileDiagnostics}
    (hresult : run.result = some new) :
    h.finish run = h.after (.reconcileRun run.ticket new) := by
  rw [finish, hresult]

/-- A run that fails, or is older than the result in force, changes nothing. -/
theorem finish_eq_self {h : History} {run : ProjectRun}
    (hold : run.result ≠ none → run.ticket < h.reconciler.generation) : h.finish run = h := by
  cases hresult : run.result with
  | none => rw [finish, hresult]
  | some new =>
      have hstale := hold (by rw [hresult]; exact Option.some_ne_none new)
      rw [finish_some hresult, after, Reconciler.reconcileRun_stale new hstale]
      simp

theorem finishAll_cons (h : History) (run : ProjectRun) (runs : List ProjectRun) :
    h.finishAll (run :: runs) = (h.finish run).finishAll runs :=
  rfl

theorem finishAll_append (h : History) (runs runs' : List ProjectRun) :
    h.finishAll (runs ++ runs') = (h.finishAll runs).finishAll runs' :=
  List.foldl_append

theorem finishAll_eq_self {h : History} {runs : List ProjectRun}
    (hold : ∀ run ∈ runs, run.result ≠ none → run.ticket < h.reconciler.generation) :
    h.finishAll runs = h := by
  induction runs with
  | nil => rfl
  | cons run runs ih =>
      obtain ⟨hrun, hruns⟩ := List.forall_mem_cons.mp hold
      rw [finishAll_cons, finish_eq_self hrun]
      exact ih hruns

/-- Runs leave nothing newer in force than the newest of them. -/
theorem generation_finishAll_le {h : History} {runs : List ProjectRun} {bound : Ticket}
    (hstart : h.reconciler.generation ≤ bound)
    (hruns : ∀ run ∈ runs, run.result ≠ none → run.ticket ≤ bound) :
    (h.finishAll runs).reconciler.generation ≤ bound := by
  induction runs generalizing h with
  | nil => exact hstart
  | cons run runs ih =>
      obtain ⟨hrun, hrest⟩ := List.forall_mem_cons.mp hruns
      refine ih ?_ hrest
      cases hresult : run.result with
      | none => rwa [finish, hresult]
      | some new =>
          rw [finish_some hresult]
          rcases Reconciler.generation_reconcileRun h.reconciler run.ticket new with heq | heq
          · exact UInt64.le_trans (UInt64.le_of_eq heq) hstart
          · exact UInt64.le_trans (UInt64.le_of_eq heq)
              (hrun (by rw [hresult]; exact Option.some_ne_none new))

/-- The result of a run that is not stale is in force after it. -/
theorem finish_applied {h : History} {run : ProjectRun} {new : FileDiagnostics}
    (hresult : run.result = some new) (hfresh : h.reconciler.generation ≤ run.ticket) :
    (h.finish run).reconciler.published = new ∧
      (h.finish run).reconciler.generation = run.ticket := by
  rw [finish_some hresult, after,
    Reconciler.reconcileRun_applied new (UInt64.not_lt.mpr hfresh)]
  exact ⟨rfl, rfl⟩

/-- Among runs with different tickets, the result of the newest success is in force in the end. -/
theorem finishAll_newest {h : History} {runs : List ProjectRun} {run : ProjectRun}
    {new : FileDiagnostics} (distinct : (runs.map (·.ticket)).Nodup) (hmem : run ∈ runs)
    (hresult : run.result = some new)
    (newest : ∀ other ∈ runs, other.result ≠ none → other.ticket ≤ run.ticket)
    (hstart : h.reconciler.generation ≤ run.ticket) :
    (h.finishAll runs).reconciler.published = new ∧
      (h.finishAll runs).reconciler.generation = run.ticket := by
  obtain ⟨before, later, rfl⟩ := List.append_of_mem hmem
  have hfresh : (h.finishAll before).reconciler.generation ≤ run.ticket :=
    generation_finishAll_le hstart fun other hother =>
      newest other (List.mem_append_left _ hother)
  obtain ⟨hpublished, hgeneration⟩ := finish_applied hresult hfresh
  -- later successes have other tickets, so they are older
  have hstale : ∀ other ∈ later, other.result ≠ none →
      other.ticket < ((h.finishAll before).finish run).reconciler.generation := by
    intro other hother hsome
    rw [hgeneration]
    have hle := newest other
      (List.mem_append_right _ (List.mem_cons_of_mem _ hother)) hsome
    refine UInt64.lt_of_le_of_ne hle ?_
    rw [List.map_append, List.map_cons, List.nodup_append] at distinct
    intro heq
    exact (List.nodup_cons.mp distinct.2.1).1 (heq ▸ List.mem_map_of_mem hother)
  rw [finishAll_append, finishAll_cons, finishAll_eq_self hstale]
  exact ⟨hpublished, hgeneration⟩

/-- If some run succeeds, one of those that do is the newest. -/
theorem exists_newest {runs : List ProjectRun} (h : ∃ run ∈ runs, run.result ≠ none) :
    ∃ run ∈ runs, ∃ new, run.result = some new ∧
      ∀ other ∈ runs, other.result ≠ none → other.ticket ≤ run.ticket := by
  cases hmax : (runs.filter (·.result.isSome)).argmax (·.ticket.toNat) with
  | none =>
      obtain ⟨run, hrun, hsome⟩ := h
      have hempty := List.filter_eq_nil_iff.mp (List.argmax_eq_none.mp hmax) run hrun
      exact absurd (Option.isSome_iff_ne_none.mpr hsome) hempty
  | some run =>
      obtain ⟨hrun, hsome⟩ := List.mem_filter.mp (List.argmax_mem hmax)
      obtain ⟨new, hnew⟩ := Option.isSome_iff_exists.mp hsome
      refine ⟨run, hrun, new, hnew, ?_⟩
      intro other hother hother'
      have hfilter : other ∈ runs.filter (·.result.isSome) :=
        List.mem_filter.mpr ⟨hother, Option.isSome_iff_ne_none.mpr hother'⟩
      exact UInt64.le_iff_toNat_le.mpr
        (List.le_of_mem_argmax (f := fun run : ProjectRun => run.ticket.toNat) hfilter hmax)

theorem InStep.finishAll {h : History} (hin : h.InStep) (runs : List ProjectRun) :
    (h.finishAll runs).InStep := by
  induction runs generalizing h with
  | nil => exact hin
  | cons run runs ih =>
      apply ih
      cases hresult : run.result with
      | none => rwa [finish, hresult]
      | some new => rw [finish_some hresult]; exact hin.after _

/-! ## The end -/

/-- Two histories have the same record and the same ticket in force, and the editor displays the
same after both. -/
structure Alike (a b : History) : Prop where
  published : a.reconciler.published = b.reconciler.published
  generation : a.reconciler.generation = b.reconciler.generation
  displayed : ∀ p, displayed a.sent p = displayed b.sent p

theorem Alike.symm {a b : History} (h : Alike a b) : Alike b a :=
  ⟨h.published.symm, h.generation.symm, fun p => (h.displayed p).symm⟩

theorem Alike.trans {a b c : History} (h : Alike a b) (h' : Alike b c) : Alike a c :=
  ⟨h.published.trans h'.published, h.generation.trans h'.generation,
    fun p => (h.displayed p).trans (h'.displayed p)⟩

/-- Where record and display agree, the display follows the record. -/
theorem InStep.alike {a b : History} (ha : a.InStep) (hb : b.InStep)
    (published : a.reconciler.published = b.reconciler.published)
    (generation : a.reconciler.generation = b.reconciler.generation) : Alike a b :=
  ⟨published, generation, fun p => by rw [ha p, hb p, published]⟩

/-- **The order of finishing is irrelevant.** Runs that begin after a lawful history finish in any
order. In the end the record, the ticket in force and the display are those of the newest run that
succeeds, and if all fail, they are what they were. So any two orders end alike. -/
theorem finish_order_irrelevant (sourceId : String) (h : History) (lawful : Lawful sourceId h)
    (results : List (Option FileDiagnostics))
    (room : h.taken.length + results.length < UInt64.size) :
    let begun := (h.beginAll results).1
    let runs := (h.beginAll results).2
    (∀ order : List ProjectRun, order.Perm runs →
      ((∀ run ∈ runs, run.result = none) → Alike (begun.finishAll order) h) ∧
      (∀ run ∈ runs, ∀ new, run.result = some new →
        (∀ other ∈ runs, other.result ≠ none → other.ticket ≤ run.ticket) →
        (begun.finishAll order).reconciler.published = new ∧
        (begun.finishAll order).reconciler.generation = run.ticket ∧
        ∀ p, displayed (begun.finishAll order).sent p = (new.find? p).getD [])) ∧
    (∀ order₁ order₂ : List ProjectRun, order₁.Perm runs → order₂.Perm runs →
      Alike (begun.finishAll order₁) (begun.finishAll order₂)) := by
  intro begun runs
  obtain ⟨hpublished, hgeneration, hsent⟩ := beginAll_frame h results
  obtain ⟨distinct, hnewer⟩ := lawful.beginAll_tickets results room
  have hin : begun.InStep := by
    show Agrees begun.sent begun.reconciler.published
    rw [hsent, hpublished]
    exact lawful.inStep
  have all_fail : ∀ order : List ProjectRun, order.Perm runs →
      (∀ run ∈ runs, run.result = none) → Alike (begun.finishAll order) h := by
    intro order hperm hfail
    have hself : begun.finishAll order = begun :=
      finishAll_eq_self fun run hrun hsome => absurd (hfail run (hperm.subset hrun)) hsome
    rw [hself]
    exact hin.alike lawful.inStep hpublished hgeneration
  have newest_decides : ∀ order : List ProjectRun, order.Perm runs → ∀ run ∈ runs, ∀ new,
      run.result = some new →
      (∀ other ∈ runs, other.result ≠ none → other.ticket ≤ run.ticket) →
      (begun.finishAll order).reconciler.published = new ∧
      (begun.finishAll order).reconciler.generation = run.ticket := by
    intro order hperm run hrun new hresult newest
    apply finishAll_newest ((hperm.map _).nodup_iff.mpr distinct) (hperm.symm.subset hrun) hresult
    · exact fun other hother => newest other (hperm.subset hother)
    · rw [hgeneration]
      exact hnewer run hrun
  refine ⟨fun order hperm => ⟨all_fail order hperm, ?_⟩, ?_⟩
  · intro run hrun new hresult newest
    obtain ⟨hend, hticket⟩ := newest_decides order hperm run hrun new hresult newest
    refine ⟨hend, hticket, fun p => ?_⟩
    rw [hin.finishAll order p, hend, PathMap.listAt]
  · intro order₁ order₂ hperm₁ hperm₂
    by_cases hsome : ∃ run ∈ runs, run.result ≠ none
    · obtain ⟨run, hrun, new, hresult, newest⟩ := exists_newest hsome
      obtain ⟨hend₁, hticket₁⟩ := newest_decides order₁ hperm₁ run hrun new hresult newest
      obtain ⟨hend₂, hticket₂⟩ := newest_decides order₂ hperm₂ run hrun new hresult newest
      exact (hin.finishAll order₁).alike (hin.finishAll order₂)
        (hend₁.trans hend₂.symm) (hticket₁.trans hticket₂.symm)
    · have hfail : ∀ run ∈ runs, run.result = none := by
        intro run hrun
        by_contra hne
        exact hsome ⟨run, hrun, hne⟩
      exact (all_fail order₁ hperm₁ hfail).trans (all_fail order₂ hperm₂ hfail).symm

/-- Of three runs that overlap after a first one, the newest fails and the second decides. -/
theorem finish_order_irrelevant_three :
    let first : FileDiagnostics := .insert .empty (.ofString "/a.js") [default]
    let h := (start "tslint-ts").after (.reconcile first)
    let begun := (h.beginAll [some first, some .empty, none]).1
    let runs := (h.beginAll [some first, some .empty, none]).2
    Alike (begun.finishAll runs) (begun.finishAll runs.reverse) ∧
      (begun.finishAll runs.reverse).reconciler.generation = 3 ∧
      displayed (begun.finishAll runs.reverse).sent (.ofString "/a.js") = [] := by
  intro first h begun runs
  have lawful : Lawful "tslint-ts" h := .after .start trivial
  obtain ⟨hend, hsame⟩ :=
    finish_order_irrelevant "tslint-ts" h lawful [some first, some .empty, none] (by decide)
  have newest : ∀ other ∈ runs, other.result ≠ none → other.ticket ≤ 3 := by
    have hruns : runs = [⟨2, some first⟩, ⟨3, some .empty⟩, ⟨4, none⟩] := by rfl
    rw [hruns]
    simp
  obtain ⟨-, hgeneration, hdisplayed⟩ := (hend runs.reverse (List.reverse_perm _)).2
    ⟨3, some .empty⟩ (List.mem_cons_of_mem _ (List.mem_cons_self ..)) .empty rfl newest
  exact ⟨hsame _ _ (.refl _) (List.reverse_perm _), hgeneration, hdisplayed _⟩

end History
end LintRelay
