import LintRelay.Proofs.Reconciler.Contention

/-!
# Overlapping reconciliations are serializable

Whatever turns the calls take, they come to the same as one after the other in the order in which
they got the lock (`overlap_is_serial`). The invariant (`InTurn`) relates a contention to the serial
work of the calls that got the lock. While one of them holds it, the calls before it are all done,
and `Midway` says which part of its own job the holder has published.
-/

namespace LintRelay
namespace Reconciler

/-! ## Jobs -/

/-- Two reconcilers have the same record and the same run in force. What a job does depends on
nothing else but the name of the source. -/
structure SameRecord (r s : Reconciler) : Prop where
  published : r.published = s.published
  generation : r.generation = s.generation

theorem Job.perform_stale {r : Reconciler} {ticket : Ticket} (new : FileDiagnostics)
    (h : ticket < r.generation) :
    (Job.run ticket new).perform r = (r, [], some (.stale ticket r.generation)) := by
  rw [perform, reconcileRun_stale new h]

theorem Job.perform_applied {r : Reconciler} {ticket : Ticket} (new : FileDiagnostics)
    (h : ¬ ticket < r.generation) :
    (Job.run ticket new).perform r =
      ({ r with published := new, generation := ticket },
        r.send (announcements new ++ clears r.published new),
        some (.applied new.size (clears r.published new).length)) := by
  rw [perform, reconcileRun_applied new h]

theorem map_publication_send (r : Reconciler) (ps : List Publication) :
    (r.send ps).map (·.publication) = ps := by
  rw [send, List.map_map]
  exact List.map_id ps

theorem Job.publications_stale {r : Reconciler} {ticket : Ticket} (new : FileDiagnostics)
    (h : ticket < r.generation) : (Job.run ticket new).publications r = [] := by
  rw [publications, perform_stale new h, List.map_nil]

theorem Job.publications_applied {r : Reconciler} {ticket : Ticket} (new : FileDiagnostics)
    (h : ¬ ticket < r.generation) :
    (Job.run ticket new).publications r = announcements new ++ clears r.published new := by
  rw [publications, perform_applied new h, map_publication_send]

/-- What clearing the entries `es` of a record publishes. -/
def clearsOf (new : FileDiagnostics) (es : List (Path × List Diagnostic)) : List Publication :=
  (es.filter fun e => !e.2.isEmpty && !new.contains e.1).map fun e => ⟨e.1, []⟩

theorem clearsOf_cons_of_pos {new : FileDiagnostics} {e : Path × List Diagnostic}
    (rest : List (Path × List Diagnostic)) (h : (!e.2.isEmpty && !new.contains e.1) = true) :
    clearsOf new (e :: rest) = ⟨e.1, []⟩ :: clearsOf new rest := by
  simp [clearsOf, h]

theorem clearsOf_cons_of_neg {new : FileDiagnostics} {e : Path × List Diagnostic}
    (rest : List (Path × List Diagnostic)) (h : ¬(!e.2.isEmpty && !new.contains e.1) = true) :
    clearsOf new (e :: rest) = clearsOf new rest := by
  simp [clearsOf, h]

/-- `Midway r job s said`: a call that found the record of `r` is at stage `s` of its job and has
published `said`. -/
inductive Midway (r : Reconciler) : Job → Stage → List Publication → Prop
  | entered {job : Job} : Midway r job (.entered job) []
  | announcing {ticket : Ticket} {new : FileDiagnostics} {rest : List (Path × List Diagnostic)}
      {said : List Publication} :
      ¬ ticket < r.generation →
      said ++ rest.map (fun e => ⟨e.1, e.2⟩) = announcements new →
      Midway r (.run ticket new) (.announcing ticket new rest) said
  | clearing {ticket : Ticket} {new : FileDiagnostics} {rest : List (Path × List Diagnostic)}
      {gone : List Publication} :
      ¬ ticket < r.generation →
      gone ++ clearsOf new rest = clears r.published new →
      Midway r (.run ticket new) (.clearing ticket new rest gone.length) (announcements new ++ gone)
  | recording {p : Path} {ds : List Diagnostic} :
      Midway r (.file p ds) (.recording p ds) [⟨p, ds⟩]

theorem Midway.busy {r : Reconciler} {job : Job} {s : Stage} {said : List Publication}
    (h : Midway r job s said) : s.Busy := by
  cases h <;> trivial

/-- What a call has published is the beginning of what its job publishes. -/
theorem Midway.said_isPrefix {r : Reconciler} {job : Job} {s : Stage} {said : List Publication}
    (h : Midway r job s said) : said <+: job.publications r := by
  cases h with
  | entered => exact List.nil_prefix
  | announcing hfresh hsaid =>
      rw [Job.publications_applied _ hfresh, ← hsaid, List.append_assoc]
      exact List.prefix_append _ _
  | clearing hfresh hgone =>
      rw [Job.publications_applied _ hfresh, ← hgone, ← List.append_assoc]
      exact List.prefix_append _ _
  | recording => exact List.prefix_rfl

namespace Contention

variable {r : Reconciler} {calls : Nat → Call} {c c' : Contention}

/-! ## The invariant -/

/-- Whether the calls `jobs` are done, and the record is what they left. -/
structure Settled (r : Reconciler) (c : Contention) (jobs : List (Nat × Job)) : Prop where
  record : SameRecord c.reconciler (Serial.ofJobs r jobs).reconciler
  all_done : ∀ x ∈ jobs, ∃ answer, c.stage x.1 = .done x.2 answer

/-- How a contention relates to the calls that got the lock: they are all settled, or all but the
last one, which holds the lock and is midway. -/
inductive Progress (r : Reconciler) (c : Contention) : Prop
  | free : c.holder = none → Settled r c c.served →
      c.publications = (Serial.ofJobs r c.served).sent → Progress r c
  | held {i : Nat} {job : Job} {before : List (Nat × Job)} {said : List Publication} :
      c.holder = some i → c.served = before ++ [(i, job)] → Settled r c before →
      c.publications = (Serial.ofJobs r before).sent ++ said.map (fun p => (i, p)) →
      Midway (Serial.ofJobs r before).reconciler job (c.stage i) said → Progress r c

/-- Calls get the lock once and for what they ask, and those that got it are served in turn. -/
structure InTurn (r : Reconciler) (calls : Nat → Call) (c : Contention) : Prop where
  distinct : (c.served.map (·.1)).Nodup
  asked : ∀ x ∈ c.served, Asked calls c x.1 x.2
  queued_asked : ∀ i job, c.stage i = .queued job → Asked calls c i job
  served_of_busy : ∀ i, (c.stage i).Busy → c.holder = some i
  done_served : ∀ i job answer, c.stage i = .done job answer →
    (i, job) ∈ c.served ∧ (i, answer) ∈ (Serial.ofJobs r c.served).answers
  progress : Progress r c

@[simp] theorem publications_say (c : Contention) (i : Nat) (p : Publication) :
    (c.say i p).publications = c.publications ++ [(i, p)] := by
  rw [publications, say, List.map_append]
  rfl

theorem stage_move_self (c : Contention) (i : Nat) (s : Stage) : (c.move i s).stage i = s :=
  Function.update_self ..

theorem stage_move_of_ne (c : Contention) {i j : Nat} (s : Stage) (h : j ≠ i) :
    (c.move i s).stage j = c.stage j :=
  Function.update_of_ne h ..

/-- A call that is not done is not among those that are settled. -/
theorem Settled.ne {jobs : List (Nat × Job)} (h : Settled r c jobs) {i : Nat}
    (hi : ∀ job answer, c.stage i ≠ .done job answer) : ∀ x ∈ jobs, x.1 ≠ i := by
  rintro x hx rfl
  obtain ⟨answer, hdone⟩ := h.all_done x hx
  exact hi _ _ hdone

/-- Calls stay settled while others go on and the record is left alone. -/
theorem Settled.frame {jobs : List (Nat × Job)} (h : Settled r c jobs)
    (record : SameRecord c'.reconciler c.reconciler)
    (stage : ∀ x ∈ jobs, c'.stage x.1 = c.stage x.1) : Settled r c' jobs where
  record := ⟨record.published.trans h.record.published, record.generation.trans h.record.generation⟩
  all_done := fun x hx => by
    rw [stage x hx]
    exact h.all_done x hx

namespace InTurn

/-- The call that holds the lock is midway, and those before it are settled. -/
theorem held_of_busy (h : InTurn r calls c) {i : Nat} (hi : (c.stage i).Busy) :
    ∃ job before said, c.served = before ++ [(i, job)] ∧ Settled r c before ∧
      c.publications = (Serial.ofJobs r before).sent ++ said.map (fun p => (i, p)) ∧
      Midway (Serial.ofJobs r before).reconciler job (c.stage i) said := by
  have hholder := h.served_of_busy i hi
  cases h.progress with
  | free hfree _ _ => exact absurd (hholder.symm.trans hfree) (by simp)
  | held hheld hserved hsettled hsent hmid =>
      obtain rfl := Option.some.inj (hheld.symm.trans hholder)
      exact ⟨_, _, _, hserved, hsettled, hsent, hmid⟩

/-- A call that waits did not get the lock before. -/
theorem not_served_of_queued (h : InTurn r calls c) {i : Nat} {job : Job}
    (hi : c.stage i = .queued job) : i ∉ c.served.map (·.1) := by
  have hne : ∀ job' answer, c.stage i ≠ .done job' answer := by simp [hi]
  intro hmem
  obtain ⟨x, hx, hxi⟩ := List.mem_map.mp hmem
  cases h.progress with
  | free _ hsettled _ => exact hsettled.ne hne x hx hxi
  | held _ hserved hsettled _ hmid =>
      rw [hserved, List.mem_append, List.mem_singleton] at hx
      rcases hx with hx | rfl
      · exact hsettled.ne hne x hx hxi
      · obtain rfl : _ = i := hxi
        have hbusy := hmid.busy
        rw [hi] at hbusy
        exact hbusy

theorem start (r : Reconciler) (calls : Nat → Call) : InTurn r calls (start r) where
  distinct := List.nodup_nil
  asked := fun x hx => absurd hx List.not_mem_nil
  queued_asked := fun i job hi => absurd hi (by simp [Contention.start])
  served_of_busy := fun i hi => absurd hi id
  done_served := fun i job answer hi => absurd hi (by simp [Contention.start])
  progress := .free rfl ⟨⟨rfl, rfl⟩, fun x hx => absurd hx List.not_mem_nil⟩ rfl

/-- The order is kept by what needs no lock: calls may be made, tickets taken, and the source may
get another name. -/
theorem frame (h : InTurn r calls c) (record : SameRecord c'.reconciler c.reconciler)
    (holder : c'.holder = c.holder) (sent : c'.sent = c.sent) (served : c'.served = c.served)
    (taken : ∀ x ∈ c.taken, x ∈ c'.taken)
    (stage : ∀ i, c'.stage i = c.stage i ∨
      (c.stage i = .unmade ∧ ∃ job, c'.stage i = .queued job ∧ Asked calls c' i job)) :
    InTurn r calls c' := by
  have still_asked : ∀ i job, Asked calls c i job → Asked calls c' i job := by
    rintro i job ⟨own, hjob, hown⟩
    exact ⟨own, hjob, fun htakes => taken _ (hown htakes)⟩
  have unchanged : ∀ i, c.stage i ≠ .unmade → c'.stage i = c.stage i := fun i hi =>
    (stage i).resolve_right fun hmade => hi hmade.1
  have settled : ∀ jobs, Settled r c jobs → Settled r c' jobs := by
    intro jobs hs
    apply hs.frame record
    intro x hx
    apply unchanged
    obtain ⟨answer, hdone⟩ := hs.all_done x hx
    simp [hdone]
  have publications : c'.publications = c.publications := by
    rw [Contention.publications, sent, Contention.publications]
  refine ⟨served ▸ h.distinct, ?_, ?_, ?_, ?_, ?_⟩
  · intro x hx
    exact still_asked _ _ (h.asked x (served ▸ hx))
  · intro i job hi
    rcases stage i with hsame | ⟨-, job', hqueued, hasked⟩
    · exact still_asked _ _ (h.queued_asked i job (hsame ▸ hi))
    · obtain rfl : job = job' := by simpa using hi.symm.trans hqueued
      exact hasked
  · intro i hi
    rcases stage i with hsame | ⟨-, job', hqueued, -⟩
    · exact holder ▸ h.served_of_busy i (hsame ▸ hi)
    · rw [hqueued] at hi
      exact hi.elim
  · intro i job answer hi
    rcases stage i with hsame | ⟨-, job', hqueued, -⟩
    · exact served ▸ h.done_served i job answer (hsame ▸ hi)
    · exact absurd (hi.symm.trans hqueued) (by simp)
  · cases h.progress with
    | free hfree hsettled hsent =>
        refine .free (holder.trans hfree) ?_ ?_
        · exact served ▸ settled _ hsettled
        · rw [publications, served, hsent]
    | @held i job before said hheld hserved hsettled hsent hmid =>
        have hstage : c'.stage i = c.stage i := by
          apply unchanged
          intro hunmade
          have hbusy := hmid.busy
          rw [hunmade] at hbusy
          exact hbusy
        exact .held (holder.trans hheld) (served.trans hserved) (settled _ hsettled)
          (publications.trans hsent) (hstage ▸ hmid)

/-- A call is made, and waits. -/
theorem make (h : InTurn r calls c) {i : Nat} (hi : c.stage i = .unmade) :
    InTurn r calls
      ((if (calls i).takesTicket then c.takeTicket i else c).move i
        (.queued ((calls i).job c.reconciler.begin.2))) := by
  by_cases htakes : (calls i).takesTicket = true
  · rw [if_pos htakes]
    refine h.frame ⟨rfl, rfl⟩ rfl rfl rfl (fun x hx => List.mem_append_left _ hx) fun j => ?_
    by_cases hji : j = i
    · subst hji
      refine .inr ⟨hi, _, stage_move_self _ j _, c.reconciler.begin.2, rfl, fun _ => ?_⟩
      exact List.mem_append_right _ (List.mem_singleton_self _)
    · exact .inl (stage_move_of_ne (c.takeTicket i) _ hji)
  · rw [if_neg htakes]
    refine h.frame ⟨rfl, rfl⟩ rfl rfl rfl (fun x hx => hx) fun j => ?_
    by_cases hji : j = i
    · subst hji
      refine .inr ⟨hi, _, stage_move_self _ j _, c.reconciler.begin.2, rfl, ?_⟩
      exact fun htakes' => absurd htakes' htakes
    · exact .inl (stage_move_of_ne c _ hji)

/-- A waiting call gets the lock when it is free. -/
theorem enter (h : InTurn r calls c) {i : Nat} {job : Job} (hi : c.stage i = .queued job)
    (hfree : c.holder = none) : InTurn r calls (c.enter i job) := by
  have stage_of_ne : ∀ j, j ≠ i → (c.enter i job).stage j = c.stage j :=
    fun j hj => c.stage_move_of_ne (.entered job) hj
  have stage_self : (c.enter i job).stage i = .entered job := c.stage_move_self i _
  have hnew := h.not_served_of_queued hi
  obtain ⟨hsettled, hsent⟩ : Settled r c c.served ∧
      c.publications = (Serial.ofJobs r c.served).sent := by
    cases h.progress with
    | free _ hsettled hsent => exact ⟨hsettled, hsent⟩
    | held hheld => exact absurd (hheld.symm.trans hfree) (by simp)
  refine ⟨?_, ?_, ?_, ?_, ?_, ?_⟩
  · show ((c.served ++ [(i, job)]).map (·.1)).Nodup
    rw [List.map_append, List.nodup_append]
    refine ⟨h.distinct, List.nodup_singleton _, ?_⟩
    rintro j hj _ hk rfl
    rw [List.mem_singleton.mp hk] at hj
    exact hnew hj
  · intro x hx
    rcases List.mem_append.mp hx with hx | hx
    · exact h.asked x hx
    · rw [List.mem_singleton.mp hx]
      exact h.queued_asked i job hi
  · intro j job' hj
    by_cases hji : j = i
    · rw [hji, stage_self] at hj
      exact absurd hj (by simp)
    · exact h.queued_asked j job' (stage_of_ne j hji ▸ hj)
  · intro j hj
    by_cases hji : j = i
    · rw [hji]
      rfl
    · rw [stage_of_ne j hji] at hj
      exact absurd ((h.served_of_busy j hj).symm.trans hfree) (by simp)
  · intro j job' answer hj
    by_cases hji : j = i
    · rw [hji, stage_self] at hj
      exact absurd hj (by simp)
    · obtain ⟨hserved, hanswer⟩ := h.done_served j job' answer (stage_of_ne j hji ▸ hj)
      refine ⟨List.mem_append_left _ hserved, ?_⟩
      show _ ∈ (Serial.ofJobs r (c.served ++ [(i, job)])).answers
      rw [Serial.ofJobs_concat]
      exact List.mem_append_left _ hanswer
  · refine @Progress.held _ _ i job c.served [] rfl rfl ?_ ?_ ?_
    · exact hsettled.frame ⟨rfl, rfl⟩ fun x hx =>
        stage_of_ne _ (hsettled.ne (by simp [hi]) x hx)
    · rw [List.map_nil, List.append_nil]
      exact hsent
    · exact stage_self ▸ .entered

/-- The call that holds the lock goes on with its job. -/
theorem proceed (h : InTurn r calls c) {i : Nat} {s : Stage} (new : List Publication)
    (hi : (c.stage i).Busy)
    (hmid : ∀ before job said, Settled r c before →
      Midway (Serial.ofJobs r before).reconciler job (c.stage i) said →
      Midway (Serial.ofJobs r before).reconciler job s (said ++ new))
    (reconciler : c'.reconciler = c.reconciler) (holder : c'.holder = c.holder)
    (publications : c'.publications = c.publications ++ new.map fun p => (i, p))
    (served : c'.served = c.served) (taken : c'.taken = c.taken)
    (stage : c'.stage = Function.update c.stage i s) : InTurn r calls c' := by
  obtain ⟨job, before, said, hserved, hsettled, hsent, hmidway⟩ := h.held_of_busy hi
  have hmidway' := hmid before job said hsettled hmidway
  have stage_of_ne : ∀ j, j ≠ i → c'.stage j = c.stage j := fun j hj => by
    rw [stage, Function.update_of_ne hj]
  have stage_self : c'.stage i = s := by rw [stage, Function.update_self]
  have still_asked : ∀ j job', Asked calls c j job' → Asked calls c' j job' := by
    rintro j job' ⟨own, hjob, hown⟩
    exact ⟨own, hjob, taken ▸ hown⟩
  have hbusy := hmidway'.busy
  refine ⟨served ▸ h.distinct, fun x hx => still_asked _ _ (h.asked x (served ▸ hx)), ?_, ?_, ?_, ?_⟩
  · intro j job' hj
    by_cases hji : j = i
    · rw [hji, stage_self] at hj
      rw [hj] at hbusy
      exact hbusy.elim
    · exact still_asked _ _ (h.queued_asked j job' (stage_of_ne j hji ▸ hj))
  · intro j hj
    by_cases hji : j = i
    · rw [hji, holder]
      exact h.served_of_busy i hi
    · exact holder ▸ h.served_of_busy j (stage_of_ne j hji ▸ hj)
  · intro j job' answer hj
    by_cases hji : j = i
    · rw [hji, stage_self] at hj
      rw [hj] at hbusy
      exact hbusy.elim
    · exact served ▸ h.done_served j job' answer (stage_of_ne j hji ▸ hj)
  · refine @Progress.held _ _ i job before (said ++ new)
      (holder.trans (h.served_of_busy i hi)) (served.trans hserved) ?_ ?_ (stage_self ▸ hmidway')
    · refine hsettled.frame (reconciler ▸ ⟨rfl, rfl⟩) fun x hx => stage_of_ne _ ?_
      apply hsettled.ne _ x hx
      intro job' answer hdone
      rw [hdone] at hi
      exact hi
    · rw [publications, hsent, List.map_append, List.append_assoc]

/-- The call that holds the lock has published everything and answers. -/
theorem leave (h : InTurn r calls c) {i : Nat} {job : Job} {r' : Reconciler}
    {answer : Option ReconcileOutcome} (hi : (c.stage i).Busy)
    (hend : ∀ before job' said, Settled r c before →
      Midway (Serial.ofJobs r before).reconciler job' (c.stage i) said →
      job' = job ∧ said = job.publications (Serial.ofJobs r before).reconciler ∧
      answer = (job.perform (Serial.ofJobs r before).reconciler).2.2 ∧
      SameRecord r' (job.perform (Serial.ofJobs r before).reconciler).1) :
    InTurn r calls (c.leave i job r' answer) := by
  obtain ⟨_, before, said, hserved, hsettled, hsent, hmidway⟩ := h.held_of_busy hi
  obtain ⟨rfl, hsaid, hanswer, hrecord⟩ := hend before _ said hsettled hmidway
  rename_i job
  have stage_of_ne : ∀ j, j ≠ i → (c.leave i job r' answer).stage j = c.stage j :=
    fun j hj => c.stage_move_of_ne (.done job answer) hj
  have stage_self : (c.leave i job r' answer).stage i = .done job answer := c.stage_move_self i _
  have hserial : Serial.ofJobs r c.served = (Serial.ofJobs r before).after (i, job) := by
    rw [hserved, Serial.ofJobs_concat]
  refine ⟨h.distinct, h.asked, ?_, ?_, ?_, ?_⟩
  · intro j job' hj
    by_cases hji : j = i
    · rw [hji, stage_self] at hj
      exact absurd hj (by simp)
    · exact h.queued_asked j job' (stage_of_ne j hji ▸ hj)
  · intro j hj
    by_cases hji : j = i
    · rw [hji, stage_self] at hj
      exact hj.elim
    · rw [stage_of_ne j hji] at hj
      have hheld := (h.served_of_busy j hj).symm.trans (h.served_of_busy i hi)
      exact absurd (Option.some.inj hheld) hji
  · intro j job' answer' hj
    by_cases hji : j = i
    · rw [hji, stage_self] at hj
      obtain ⟨rfl, rfl⟩ := by simpa using hj
      rw [hji]
      refine ⟨?_, ?_⟩
      · show (i, job) ∈ c.served
        rw [hserved]
        exact List.mem_append_right _ (List.mem_singleton_self _)
      · show (i, answer) ∈ (Serial.ofJobs r c.served).answers
        rw [hserial, hanswer]
        exact List.mem_append_right _ (List.mem_singleton_self _)
    · exact h.done_served j job' answer' (stage_of_ne j hji ▸ hj)
  · refine .free rfl ⟨?_, ?_⟩ ?_
    · show SameRecord r' (Serial.ofJobs r c.served).reconciler
      rw [hserial]
      exact hrecord
    · intro x hx
      have hx : x ∈ before ++ [(i, job)] := hserved ▸ hx
      rcases List.mem_append.mp hx with hx | hx
      · have hne : x.1 ≠ i := by
          apply hsettled.ne _ x hx
          intro job' answer' hdone
          rw [hdone] at hi
          exact hi
        rw [stage_of_ne x.1 hne]
        exact hsettled.all_done x hx
      · rw [List.mem_singleton.mp hx]
        exact ⟨answer, stage_self⟩
    · show c.publications = (Serial.ofJobs r c.served).sent
      rw [hserial, hsent, hsaid]
      rfl

/-- A call that takes its next step keeps the order. -/
theorem step (h : InTurn r calls c) (i : Nat) : InTurn r calls (c.step calls i) := by
  unfold Contention.step
  cases hi : c.stage i with
  | unmade =>
      exact h.make hi
  | queued job =>
      dsimp only
      split
      · exact h
      · rename_i hfree
        exact h.enter hi (by simpa using hfree)
  | entered job =>
      have hbusy : (c.stage i).Busy := hi ▸ trivial
      cases job with
      | run ticket new =>
          dsimp only
          split
          · -- the result is stale: nothing was published, and nothing changes
            rename_i hstale
            apply h.leave hbusy
            intro before job' said hsettled hmid
            rw [hsettled.record.generation] at hstale
            rw [hi] at hmid
            cases hmid
            rw [Job.publications_stale new hstale, Job.perform_stale new hstale,
              hsettled.record.generation]
            exact ⟨rfl, rfl, rfl, hsettled.record⟩
          · rename_i hfresh
            refine h.proceed [] hbusy ?_ rfl rfl (List.append_nil _).symm rfl rfl rfl
            intro before job' said hsettled hmid
            rw [hsettled.record.generation] at hfresh
            rw [hi] at hmid
            cases hmid
            exact .announcing hfresh rfl
      | file p ds =>
          refine h.proceed [⟨p, ds⟩] hbusy ?_ rfl rfl (publications_say ..) rfl rfl rfl
          intro before job' said hsettled hmid
          rw [hi] at hmid
          cases hmid
          exact .recording
  | announcing ticket new rest =>
      have hbusy : (c.stage i).Busy := hi ▸ trivial
      cases rest with
      | cons e rest =>
          refine h.proceed [⟨e.1, e.2⟩] hbusy ?_ rfl rfl (publications_say ..) rfl rfl rfl
          intro before job' said hsettled hmid
          rw [hi] at hmid
          cases hmid with
          | announcing hfresh hsaid =>
              refine .announcing hfresh ?_
              rw [List.append_assoc]
              exact hsaid
      | nil =>
          refine h.proceed [] hbusy ?_ rfl rfl (List.append_nil _).symm rfl rfl rfl
          intro before job' said hsettled hmid
          rw [hi] at hmid
          cases hmid with
          | announcing hfresh hsaid =>
              rw [List.map_nil, List.append_nil] at hsaid
              rw [hsaid, hsettled.record.published]
              exact @Midway.clearing _ _ _ _ [] hfresh rfl
  | clearing ticket new rest cleared =>
      have hbusy : (c.stage i).Busy := hi ▸ trivial
      cases rest with
      | cons e rest =>
          dsimp only
          split
          · rename_i hclear
            refine h.proceed [⟨e.1, []⟩] hbusy ?_ rfl rfl (publications_say ..) rfl rfl rfl
            intro before job' said hsettled hmid
            rw [hi] at hmid
            cases hmid with
            | @clearing _ _ _ gone hfresh hgone =>
                rw [List.append_assoc]
                have hlength : gone.length + 1 = (gone ++ [(⟨e.1, []⟩ : Publication)]).length := by
                  simp
                rw [hlength]
                refine .clearing hfresh ?_
                rw [← hgone, clearsOf_cons_of_pos rest hclear, List.append_assoc]
                rfl
          · rename_i hkeep
            refine h.proceed [] hbusy ?_ rfl rfl (List.append_nil _).symm rfl rfl rfl
            intro before job' said hsettled hmid
            rw [hi] at hmid
            cases hmid with
            | clearing hfresh hgone =>
                rw [List.append_nil]
                refine .clearing hfresh ?_
                rw [← hgone, clearsOf_cons_of_neg rest hkeep]
      | nil =>
          apply h.leave hbusy
          intro before job' said hsettled hmid
          rw [hi] at hmid
          cases hmid with
          | clearing hfresh hgone =>
              obtain rfl : _ = clears _ _ := (List.append_nil _).symm.trans hgone
              rw [Job.publications_applied new hfresh, Job.perform_applied new hfresh]
              exact ⟨rfl, rfl, rfl, rfl, rfl⟩
  | recording p ds =>
      have hbusy : (c.stage i).Busy := hi ▸ trivial
      apply h.leave hbusy
      intro before job' said hsettled hmid
      rw [hi] at hmid
      cases hmid
      rw [hsettled.record.published]
      exact ⟨rfl, rfl, rfl, rfl, hsettled.record.generation⟩
  | done job answer => exact h

theorem after (h : InTurn r calls c) (turn : Turn) : InTurn r calls (c.after calls turn) := by
  cases turn with
  | call i => exact h.step i
  | begin => exact h.frame ⟨rfl, rfl⟩ rfl rfl rfl (fun _ hx => hx) fun _ => .inl rfl
  | setSourceId sourceId => exact h.frame ⟨rfl, rfl⟩ rfl rfl rfl (fun _ hx => hx) fun _ => .inl rfl

theorem foldl_after (h : InTurn r calls c) (turns : List Turn) :
    InTurn r calls (turns.foldl (Contention.after calls) c) := by
  induction turns generalizing c with
  | nil => exact h
  | cons turn turns ih => exact ih (h.after turn)

end InTurn

theorem inTurn_ofTurns (r : Reconciler) (calls : Nat → Call) (turns : List Turn) :
    InTurn r calls (ofTurns r calls turns) :=
  (InTurn.start r calls).foldl_after turns

/-- **Overlapping reconciliations are serializable.** Whatever turns any calls take: each call gets
the lock at most once and then does what it asked for, with the ticket that it holds. What is
published is at any time the beginning of what the same calls publish one after the other, each of
them everything it has to publish, in the order in which they got the lock; and a call that is done
has answered as it answers there. Where no call holds the lock, in particular in the end, all that
got it are done, and publications, record and run in force are those of the serial work. -/
theorem overlap_is_serial (r : Reconciler) (calls : Nat → Call) (turns : List Turn) :
    let c := ofTurns r calls turns
    let serial := Serial.ofJobs r c.served
    ((c.served.map (·.1)).Nodup ∧ ∀ x ∈ c.served, Asked calls c x.1 x.2) ∧
    c.publications <+: serial.sent ∧
    (∀ i job answer, c.stage i = .done job answer →
      (i, job) ∈ c.served ∧ (i, answer) ∈ serial.answers) ∧
    (c.holder = none →
      c.publications = serial.sent ∧
      c.reconciler.published = serial.reconciler.published ∧
      c.reconciler.generation = serial.reconciler.generation ∧
      ∀ x ∈ c.served, ∃ answer, c.stage x.1 = .done x.2 answer) ∧
    (c.Finished → c.holder = none) := by
  intro c serial
  have h : InTurn r calls c := inTurn_ofTurns r calls turns
  refine ⟨⟨h.distinct, h.asked⟩, ?_, h.done_served, ?_, ?_⟩
  · cases h.progress with
    | free _ _ hsent => exact hsent ▸ List.prefix_rfl
    | @held i job before said _ hserved _ hsent hmid =>
        have hserial : serial = (Serial.ofJobs r before).after (i, job) := by
          rw [← Serial.ofJobs_concat, ← hserved]
        rw [hserial, hsent, Serial.after, List.prefix_append_right_inj]
        exact hmid.said_isPrefix.map _
  · intro hfree
    cases h.progress with
    | free _ hsettled hsent =>
        exact ⟨hsent, hsettled.record.published, hsettled.record.generation, hsettled.all_done⟩
    | held hheld => exact absurd (hheld.symm.trans hfree) (by simp)
  · intro hfinished
    cases h.progress with
    | free hfree => exact hfree
    | @held i _ _ _ _ _ _ _ hmid =>
        have hbusy := hmid.busy
        rcases hfinished i with hunmade | ⟨job, answer, hdone⟩
        · rw [hunmade] at hbusy
          exact hbusy.elim
        · rw [hdone] at hbusy
          exact hbusy.elim

/-- A call that took its ticket first and gets the lock last finds itself overtaken. -/
example :
    let calls : Nat → Call := fun _ => .newest .empty
    let c := ofTurns (.start "tslint-ts") calls
      ([1, 2, 2, 1, 2, 1, 2, 1, 2, 1, 1].map .call)
    c.served.map (·.1) = [2, 1] ∧ c.holder = none ∧
      c.stage 1 = .done (.run 1 .empty) (some (.stale 1 2)) := by
  exact ⟨rfl, rfl, rfl⟩

end Contention
end Reconciler
end LintRelay
