import LintRelay.Proofs.Path.Map
import LintRelay.Reconciler.Basic

/-!
# What the editor displays

`displayed log p` is what the editor shows for `p` once everything in `log` has been sent. A record
`Agrees` with a log when it holds exactly this for every path; then a reconciler knows what has to
be cleared. Both ways of reconciling keep the agreement (`Agrees.reconcileRun`,
`Agrees.reconcileFile`).
-/

namespace LintRelay

/-- Whether something sent is for the path `p`, however that is spelled. -/
def Sent.isFor (s : Sent) (p : Path) : Bool := s.publication.path.same p

/-- What is displayed for `p` after a log, oldest first: the diagnostics of the last publication for
`p`, and none if there was no publication for it. -/
def displayed (log : List Sent) (p : Path) : List Diagnostic :=
  match log.reverse.find? (·.isFor p) with
  | some s => s.publication.diagnostics
  | none => []

@[simp] theorem displayed_nil (p : Path) : displayed [] p = [] := rfl

/-- What is sent for other paths does not change what is displayed for `p`. -/
theorem displayed_append_of_none {log new : List Sent} {p : Path}
    (h : ∀ s ∈ new, s.isFor p = false) : displayed (log ++ new) p = displayed log p := by
  have hnone : new.reverse.find? (·.isFor p) = none := by
    rw [List.find?_eq_none]
    intro s hs
    rw [h s (List.mem_reverse.mp hs)]
    exact Bool.false_ne_true
  rw [displayed, displayed, List.reverse_append, List.find?_append, hnone, Option.none_or]

/-- Where everything new for `p` carries the same diagnostics, these are displayed. -/
theorem displayed_append_of_some {log new : List Sent} {p : Path} {ds : List Diagnostic}
    (some_for : ∃ s ∈ new, s.isFor p = true)
    (all_carry : ∀ s ∈ new, s.isFor p = true → s.publication.diagnostics = ds) :
    displayed (log ++ new) p = ds := by
  rw [displayed, List.reverse_append, List.find?_append]
  cases hfind : new.reverse.find? (·.isFor p) with
  | none =>
      obtain ⟨s, hs, hfor⟩ := some_for
      exact absurd hfor (List.find?_eq_none.mp hfind s (List.mem_reverse.mpr hs))
  | some s =>
      have hfor := List.find?_some hfind
      rw [Option.some_or]
      exact all_carry s (List.mem_reverse.mp (List.mem_of_find?_eq_some hfind)) hfor

/-- The names under which publications are sent do not matter to what is displayed. -/
theorem displayed_congr {log other : List Sent}
    (h : log.map (·.publication) = other.map (·.publication)) (p : Path) :
    displayed log p = displayed other p := by
  have hview : ∀ log : List Sent, displayed log p =
      (((log.map (·.publication)).reverse.find? fun q => q.path.same p).map
        (·.diagnostics)).getD [] := by
    intro log
    rw [← List.map_reverse, List.find?_map, displayed]
    show (match log.reverse.find? (·.isFor p) with
      | some s => s.publication.diagnostics
      | none => []) = ((Option.map _ (log.reverse.find? (·.isFor p))).map _).getD []
    cases log.reverse.find? (·.isFor p) <;> rfl
  rw [hview, hview, h]

/-! ## The publications of a project run -/

/-- Everything that a project run publishes for `p` is what its result says of `p`. -/
theorem diagnostics_of_published {shown new : FileDiagnostics} {q : Publication} {p : Path}
    (hq : q ∈ announcements new ++ clears shown new) (hp : q.path.key = p.key) :
    q.diagnostics = new.listAt p := by
  rcases List.mem_append.mp hq with hq | hq
  · obtain ⟨e, he, rfl⟩ := List.mem_map.mp hq
    exact (new.listAt_of_mem he).symm.trans (new.listAt_congr hp)
  · obtain ⟨e, he, rfl⟩ := List.mem_map.mp hq
    have hmissing : new.contains e.1 = false := by
      have := (List.mem_filter.mp he).2
      simp_all
    exact (new.listAt_of_not_contains hmissing).symm.trans (new.listAt_congr hp)

/-- A project run publishes nothing for `p` only if nothing was shown for it and its result says
nothing of it. -/
theorem listAt_of_unpublished {shown new : FileDiagnostics} {p : Path}
    (h : ∀ q ∈ announcements new ++ clears shown new, q.path.key ≠ p.key) :
    new.listAt p = [] ∧ shown.listAt p = [] := by
  have hnew : new.find? p = none := by
    rw [PathMap.find?_eq_none_iff]
    intro e he
    exact h ⟨e.1, e.2⟩ (List.mem_append_left _ (List.mem_map_of_mem he))
  refine ⟨by rw [PathMap.listAt, hnew, Option.getD_none], ?_⟩
  cases hshown : shown.find? p with
  | none => rw [PathMap.listAt, hshown, Option.getD_none]
  | some ds =>
      obtain ⟨q, hmem, hkey⟩ := shown.find?_eq_some_iff.mp hshown
      have hmissing : new.contains q = false := by
        rw [PathMap.contains_eq_isSome, new.find?_congr hkey, hnew, Option.isSome_none]
      -- the entry is not cleared, so it is empty
      have hempty : ds.isEmpty = true := by
        by_contra hne
        have hclear : (⟨q, []⟩ : Publication) ∈ clears shown new :=
          List.mem_map.mpr ⟨(q, ds), List.mem_filter.mpr ⟨hmem, by simp [hmissing, hne]⟩, rfl⟩
        exact h _ (List.mem_append_right _ hclear) hkey
      rw [PathMap.listAt, hshown, Option.getD_some]
      exact List.isEmpty_iff.mp hempty

/-! ## The record of one file -/

/-- The result of a file's own run replaces its entry. Where it is empty, an entry is emptied and
none is added. -/
theorem find?_recordFile (shown : FileDiagnostics) (p q : Path) (ds : List Diagnostic) :
    (recordFile shown p ds).find? q =
      if p.key = q.key then
        if ds = [] then (shown.find? p).map fun _ => [] else some ds
      else shown.find? q := by
  unfold recordFile
  cases ds with
  | cons d ds => simp [PathMap.find?_insert]
  | nil =>
      cases hfind : shown.find? p with
      | none =>
          by_cases hkey : p.key = q.key
          · have hnone : shown.find? q = none := by rw [← shown.find?_congr hkey, hfind]
            simp [PathMap.contains_eq_isSome, hfind, hnone]
          · simp [PathMap.contains_eq_isSome, hfind, hkey]
      | some old => simp [PathMap.contains_eq_isSome, hfind, PathMap.find?_insert]

/-- The record of a file's own run holds its result, and is the old one elsewhere. -/
theorem listAt_recordFile (shown : FileDiagnostics) (p q : Path) (ds : List Diagnostic) :
    (recordFile shown p ds).listAt q = if p.key = q.key then ds else shown.listAt q := by
  rw [PathMap.listAt, find?_recordFile]
  split
  · split
    · rename_i hempty
      rw [hempty]
      cases shown.find? p <;> rfl
    · rfl
  · rfl

/-- The run leaves the entries of other files as they are, their spelling included. -/
theorem entryAt?_recordFile_of_ne {p q : Path} (h : p.key ≠ q.key) (shown : FileDiagnostics)
    (ds : List Diagnostic) : (recordFile shown p ds).entryAt? q = shown.entryAt? q := by
  unfold recordFile
  split
  · rfl
  · rw [PathMap.insert, PathMap.entryAt?_alter, if_neg h]

/-- Whether there is an entry for a file does not depend on the results of others. -/
theorem contains_recordFile_of_ne {p q : Path} (h : p.key ≠ q.key) (shown : FileDiagnostics)
    (ds : List Diagnostic) : (recordFile shown p ds).contains q = shown.contains q := by
  rw [PathMap.contains_eq_isSome, PathMap.contains_eq_isSome, find?_recordFile, if_neg h]

/-- Results for different files are recorded in any order. -/
theorem recordFile_comm {p q : Path} (h : p.key ≠ q.key) (shown : FileDiagnostics)
    (ds es : List Diagnostic) :
    recordFile (recordFile shown p ds) q es = recordFile (recordFile shown q es) p ds := by
  rw [recordFile, recordFile.eq_1 (recordFile shown q es), contains_recordFile_of_ne h,
    contains_recordFile_of_ne h.symm, recordFile, recordFile]
  -- where one of the two is not recorded, the other one alone is
  by_cases hp : (ds.isEmpty && !shown.contains p) = true
  · simp only [if_pos hp]
  · by_cases hq : (es.isEmpty && !shown.contains q) = true
    · simp only [if_pos hq]
    · simp only [if_neg hp, if_neg hq]
      exact shown.alter_comm h (fun _ => ds) fun _ => es

/-! ## Agreement -/

/-- A record holds for every path exactly what is displayed after a log. -/
def Agrees (log : List Sent) (record : FileDiagnostics) : Prop :=
  ∀ p, displayed log p = record.listAt p

theorem Agrees.start : Agrees [] .empty := fun _ => rfl

namespace Reconciler

/-- A result with a ticket older than that in force is dropped. -/
theorem reconcileRun_stale {r : Reconciler} {ticket : Ticket} (new : FileDiagnostics)
    (h : ticket < r.generation) :
    r.reconcileRun ticket new = (r, [], .stale ticket r.generation) :=
  if_pos h

/-- Any other result is published and takes the place of the record. -/
theorem reconcileRun_applied {r : Reconciler} {ticket : Ticket} (new : FileDiagnostics)
    (h : ¬ ticket < r.generation) :
    r.reconcileRun ticket new =
      ({ r with published := new, generation := ticket },
        r.send (announcements new ++ clears r.published new),
        .applied new.size (clears r.published new).length) :=
  if_neg h

theorem mem_send {r : Reconciler} {ps : List Publication} {s : Sent} :
    s ∈ r.send ps ↔ s.sourceId = r.sourceId ∧ s.publication ∈ ps := by
  unfold send
  rw [List.mem_map]
  constructor
  · rintro ⟨q, hq, rfl⟩
    exact ⟨rfl, hq⟩
  · rintro ⟨hid, hq⟩
    exact ⟨s.publication, hq, by rw [← hid]⟩

end Reconciler

/-- What a project run sends brings the display to its result. -/
theorem Agrees.publications {log : List Sent} {r : Reconciler} (h : Agrees log r.published)
    (new : FileDiagnostics) :
    Agrees (log ++ r.send (announcements new ++ clears r.published new)) new := by
  intro p
  by_cases hfor : ∃ s ∈ r.send (announcements new ++ clears r.published new), s.isFor p = true
  · apply displayed_append_of_some hfor
    intro s hs hp
    exact diagnostics_of_published (Reconciler.mem_send.mp hs).2 (Path.same_iff.mp hp)
  · have hother : ∀ s ∈ r.send (announcements new ++ clears r.published new),
        s.isFor p = false := by
      intro s hs
      exact Bool.eq_false_iff.mpr fun hp => hfor ⟨s, hs, hp⟩
    have hunpublished : ∀ q ∈ announcements new ++ clears r.published new,
        q.path.key ≠ p.key := by
      intro q hq hkey
      exact hfor ⟨⟨r.sourceId, q⟩, Reconciler.mem_send.mpr ⟨rfl, hq⟩, Path.same_iff.mpr hkey⟩
    obtain ⟨hnew, hshown⟩ := listAt_of_unpublished hunpublished
    rw [displayed_append_of_none hother, h p, hnew, hshown]

/-- A project run keeps the agreement, whatever its ticket. -/
theorem Agrees.reconcileRun {log : List Sent} {r : Reconciler} (h : Agrees log r.published)
    (ticket : Ticket) (new : FileDiagnostics) :
    Agrees (log ++ (r.reconcileRun ticket new).2.1) (r.reconcileRun ticket new).1.published := by
  by_cases hstale : ticket < r.generation
  · rw [Reconciler.reconcileRun_stale new hstale, List.append_nil]
    exact h
  · rw [Reconciler.reconcileRun_applied new hstale]
    exact h.publications new

/-- A run over one file keeps the agreement. -/
theorem Agrees.reconcileFile {log : List Sent} {r : Reconciler} (h : Agrees log r.published)
    (p : Path) (ds : List Diagnostic) :
    Agrees (log ++ (r.reconcileFile p ds).2) (r.reconcileFile p ds).1.published := by
  intro q
  show displayed (log ++ [⟨r.sourceId, ⟨p, ds⟩⟩]) q = (recordFile r.published p ds).listAt q
  rw [listAt_recordFile]
  by_cases hkey : p.key = q.key
  · rw [if_pos hkey]
    apply displayed_append_of_some
    · exact ⟨_, List.mem_singleton_self _, Path.same_iff.mpr hkey⟩
    · intro s hs _
      rw [List.mem_singleton.mp hs]
  · rw [if_neg hkey, ← h q]
    apply displayed_append_of_none
    intro s hs
    rw [List.mem_singleton.mp hs]
    exact Path.same_eq_false_iff.mpr hkey

end LintRelay
