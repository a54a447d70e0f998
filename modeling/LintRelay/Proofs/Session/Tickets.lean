import LintRelay.Proofs.Reconciler.Tickets
import LintRelay.Proofs.Session.Activity
import Mathlib.Data.List.Induction

/-!
# Newer project runs win

However lint calls overlap, a project run never takes the place of a newer one
(`newer_run_wins`). The invariant (`Ordered`) is that the open tickets are different from each other
and from those applied, and that the tickets applied increase up to the one in force. A run that
finishes is then compared with the newest run that was applied, not with the newest that began.
-/

namespace LintRelay

/-! ## Open tickets -/

@[simp] theorem openTickets_append (ps qs : List Pending) :
    openTickets (ps ++ qs) = openTickets ps ++ openTickets qs :=
  List.filterMap_append

theorem mem_openTickets {ps : List Pending} {t : Ticket} :
    t ∈ openTickets ps ↔ ∃ p ∈ ps, p.ticket = some t :=
  List.mem_filterMap

/-- Where the open tickets differ, that of a call is not open any more once the call is done. -/
theorem not_mem_openTickets_eraseIdx {ps : List Pending} {i : Nat} {p : Pending} {t : Ticket}
    (distinct : (openTickets ps).Nodup) (hp : ps[i]? = some p) (ht : p.ticket = some t) :
    t ∉ openTickets (ps.eraseIdx i) := by
  obtain ⟨hi, rfl⟩ := List.getElem?_eq_some_iff.mp hp
  have hsplit : ps = ps.take i ++ ps[i] :: ps.drop (i + 1) := by simp
  rw [hsplit, openTickets_append] at distinct
  rw [List.eraseIdx_eq_take_drop_succ, openTickets_append]
  have hhead : openTickets (ps[i] :: ps.drop (i + 1)) = t :: openTickets (ps.drop (i + 1)) :=
    List.filterMap_cons_some ht
  rw [hhead, List.nodup_append] at distinct
  obtain ⟨-, htail, hcross⟩ := distinct
  rw [List.mem_append, not_or]
  exact ⟨fun hmem => hcross t hmem t (List.mem_cons_self ..) rfl, (List.nodup_cons.mp htail).1⟩

theorem openTickets_eraseIdx_sublist (ps : List Pending) (i : Nat) :
    (openTickets (ps.eraseIdx i)).Sublist (openTickets ps) :=
  (List.eraseIdx_sublist ps i).filterMap _

/-- Taking a ticket shows, even where the counter wraps. -/
theorem ticketTaken_begin (r : Reconciler) : ticketTaken r r.begin.1 = [r.begin.2] := by
  have hne : r.lastTicket + 1 ≠ r.lastTicket := by simp
  exact if_neg hne

theorem ticketTaken_self (r : Reconciler) : ticketTaken r r = [] := if_pos rfl

/-- A start that hands out no ticket opens none. -/
theorem openTickets_pending_none {started : Started}
    (h : ∀ p, started = .waiting p → p.ticket = none) : openTickets started.pending = [] := by
  cases started with
  | ended result => rfl
  | waiting p => exact List.filterMap_cons_none (h p rfl)

/-- A start that hands out a ticket opens this one or, if the call ends at once, none. -/
theorem openTickets_pending_some {started : Started} {t : Ticket}
    (h : ∀ p, started = .waiting p → p.ticket = some t) :
    openTickets started.pending = [] ∨ openTickets started.pending = [t] := by
  cases started with
  | ended result => exact .inl rfl
  | waiting p => exact .inr (List.filterMap_cons_some (h p rfl))

/-! ## The newest ticket applied -/

/-- The last of the tickets applied; zero before the first. -/
def newestApplied (applied : List Ticket) : Ticket := applied.getLast?.getD 0

@[simp] theorem newestApplied_concat (applied : List Ticket) (t : Ticket) :
    newestApplied (applied ++ [t]) = t := by
  rw [newestApplied, List.getLast?_concat, Option.getD_some]

/-- Before the first project run nothing is in force; afterwards one of those applied is. -/
theorem newestApplied_cases (applied : List Ticket) :
    (applied = [] ∧ newestApplied applied = 0) ∨ newestApplied applied ∈ applied := by
  cases hlast : applied.getLast? with
  | none =>
      rw [List.getLast?_eq_none_iff.mp hlast]
      exact .inl ⟨rfl, rfl⟩
  | some t =>
      obtain ⟨before, rfl⟩ := List.getLast?_eq_some_iff.mp hlast
      rw [newestApplied_concat]
      exact .inr (List.mem_append_right _ (List.mem_singleton_self t))

/-- Where the tickets applied increase, the last one is the greatest. -/
theorem le_newestApplied {applied : List Ticket} (h : applied.Pairwise (· < ·)) :
    ∀ t ∈ applied, t ≤ newestApplied applied := by
  intro t ht
  cases hlast : applied.getLast? with
  | none =>
      rw [List.getLast?_eq_none_iff.mp hlast] at ht
      exact absurd ht List.not_mem_nil
  | some u =>
      obtain ⟨before, rfl⟩ := List.getLast?_eq_some_iff.mp hlast
      rw [newestApplied_concat]
      rcases List.mem_append.mp ht with hbefore | hu
      · exact UInt64.le_of_lt ((List.pairwise_append.mp h).2.2 t hbefore u (List.mem_singleton_self u))
      · exact UInt64.le_of_eq (List.mem_singleton.mp hu)

/-- A ticket is older than the newest applied exactly when one newer than it was applied. -/
theorem lt_newestApplied_iff {applied : List Ticket} (h : applied.Pairwise (· < ·)) {t : Ticket} :
    t < newestApplied applied ↔ ∃ u ∈ applied, t < u := by
  constructor
  · intro hlt
    rcases newestApplied_cases applied with ⟨-, hzero⟩ | hmem
    · rw [hzero] at hlt
      exact absurd hlt (UInt64.not_lt.mpr UInt64.zero_le)
    · exact ⟨_, hmem, hlt⟩
  · rintro ⟨u, hu, hlt⟩
    exact UInt64.lt_of_lt_of_le hlt (le_newestApplied h u hu)

namespace Session.Activity

/-- The tickets of an activity are in order. -/
structure Ordered (a : Activity) : Prop where
  counted : Counted a.session.reconciler a.taken
  open_taken : ∀ t ∈ openTickets a.waiting, t ∈ a.taken
  open_increasing : (openTickets a.waiting).Pairwise (· < ·)
  open_unapplied : ∀ t ∈ openTickets a.waiting, t ∉ a.applied
  applied_taken : ∀ t ∈ a.applied, t ∈ a.taken
  applied_increasing : a.applied.Pairwise (· < ·)
  in_force : a.session.reconciler.generation = newestApplied a.applied

/-- The order is kept where no ticket is taken or applied and none becomes open. -/
theorem Ordered.frame {a b : Activity} (ha : a.Ordered)
    (last : b.session.reconciler.lastTicket = a.session.reconciler.lastTicket)
    (generation : b.session.reconciler.generation = a.session.reconciler.generation)
    (waiting : (openTickets b.waiting).Sublist (openTickets a.waiting))
    (taken : b.taken = a.taken) (applied : b.applied = a.applied) : b.Ordered where
  counted := taken ▸ ha.counted.congr last
  open_taken := fun t ht => taken ▸ ha.open_taken t (waiting.subset ht)
  open_increasing := ha.open_increasing.sublist waiting
  open_unapplied := fun t ht => applied ▸ ha.open_unapplied t (waiting.subset ht)
  applied_taken := fun t ht => taken ▸ ha.applied_taken t (applied ▸ ht)
  applied_increasing := applied ▸ ha.applied_increasing
  in_force := by rw [generation, applied, ha.in_force]

theorem Ordered.start {x : Session} (hnew : x.IsNew) : (start x).Ordered := by
  obtain ⟨sourceId, hstart⟩ := hnew.reconciler
  refine ⟨?_, ?_, .nil, ?_, ?_, .nil, ?_⟩
  · exact hstart ▸ Counted.start sourceId
  · exact fun t ht => absurd ht List.not_mem_nil
  · exact fun t ht => absurd ht List.not_mem_nil
  · exact fun t ht => absurd ht List.not_mem_nil
  · show x.reconciler.generation = 0
    rw [hstart]
    rfl

/-- A ticket that is taken is newer than all others, whether or not it becomes open. -/
theorem Ordered.take {a b : Activity} (ha : a.Ordered) {opened : List Ticket}
    (room : a.taken.length + 1 < UInt64.size)
    (reconciler : b.session.reconciler = a.session.reconciler.begin.1)
    (taken : b.taken = a.taken ++ [a.session.reconciler.begin.2])
    (waiting : openTickets b.waiting = openTickets a.waiting ++ opened)
    (hopened : opened = [] ∨ opened = [a.session.reconciler.begin.2])
    (applied : b.applied = a.applied) : b.Ordered := by
  have hnewer := ha.counted.lt_next room
  have hmem : ∀ u ∈ openTickets b.waiting,
      u ∈ openTickets a.waiting ∨ u = a.session.reconciler.begin.2 := by
    intro u hu
    rw [waiting, List.mem_append] at hu
    refine hu.imp_right fun hu => ?_
    rcases hopened with rfl | rfl
    · exact absurd hu List.not_mem_nil
    · exact List.mem_singleton.mp hu
  refine ⟨?_, ?_, ?_, ?_, ?_, applied ▸ ha.applied_increasing, ?_⟩
  · rw [reconciler, taken]
    exact ha.counted.begin room
  · intro u hu
    rw [taken, List.mem_append, List.mem_singleton]
    exact (hmem u hu).imp_left (ha.open_taken u)
  · rw [waiting]
    rcases hopened with rfl | rfl
    · rw [List.append_nil]
      exact ha.open_increasing
    · exact increasing_concat ha.open_increasing fun u hu => hnewer u (ha.open_taken u hu)
  · intro u hu happlied
    rw [applied] at happlied
    rcases hmem u hu with hu | rfl
    · exact ha.open_unapplied u hu happlied
    · exact UInt64.lt_irrefl _ (hnewer _ (ha.applied_taken _ happlied))
  · intro u hu
    rw [taken]
    exact List.mem_append_left _ (ha.applied_taken u (applied ▸ hu))
  · rw [reconciler, applied]
    exact ha.in_force

/-- A start takes at most one ticket. -/
theorem Ordered.after_start {a : Activity} (ha : a.Ordered) (t : FileTree) (call : LintCall)
    (room : (a.after (.start t call)).taken.length < UInt64.size) :
    (a.after (.start t call)).Ordered := by
  have hwaiting : openTickets (a.after (.start t call)).waiting =
      openTickets a.waiting ++ openTickets (a.session.start t call).2.pending :=
    openTickets_append _ _
  have htaken : (a.after (.start t call)).taken =
      a.taken ++ ticketTaken a.session.reconciler (a.session.start t call).1.reconciler :=
    rfl
  rcases a.session.start_ticket t call with ⟨hsame, hnone⟩ | ⟨hbegin, hsome⟩
  · rw [hsame, ticketTaken_self, List.append_nil] at htaken
    rw [openTickets_pending_none hnone, List.append_nil] at hwaiting
    exact ha.frame (congrArg _ hsame) (congrArg _ hsame) (by rw [hwaiting]) htaken rfl
  · rw [hbegin, ticketTaken_begin] at htaken
    rw [htaken, List.length_append, List.length_singleton] at room
    exact ha.take room hbegin htaken hwaiting (openTickets_pending_some hsome) rfl

/-- The ticket of a waiting call that is not older than the one in force is newer than all applied
before, since each ticket is applied once. -/
theorem Ordered.lt_of_fresh {a : Activity} (ha : a.Ordered) {t : Ticket}
    (hopen : t ∈ openTickets a.waiting) (hfresh : ¬ t < a.session.reconciler.generation) :
    ∀ u ∈ a.applied, u < t := by
  intro u hu
  have hle : u ≤ a.session.reconciler.generation :=
    ha.in_force ▸ le_newestApplied ha.applied_increasing u hu
  refine UInt64.lt_of_le_of_ne (UInt64.le_trans hle (UInt64.not_lt.mp hfresh)) ?_
  rintro rfl
  exact ha.open_unapplied u hopen hu

/-- A waiting run that is applied gives up its ticket, and this ticket is in force. -/
theorem Ordered.apply {a b : Activity} (ha : a.Ordered) {i : Nat} {p : Pending} {t : Ticket}
    (hp : a.waiting[i]? = some p) (ht : p.ticket = some t)
    (hfresh : ¬ t < a.session.reconciler.generation)
    (last : b.session.reconciler.lastTicket = a.session.reconciler.lastTicket)
    (generation : b.session.reconciler.generation = t)
    (waiting : b.waiting = a.waiting.eraseIdx i)
    (taken : b.taken = a.taken) (applied : b.applied = a.applied ++ [t]) : b.Ordered := by
  have hopen : t ∈ openTickets a.waiting := mem_openTickets.mpr ⟨p, List.mem_of_getElem? hp, ht⟩
  have hclosed := waiting ▸ openTickets_eraseIdx_sublist a.waiting i
  have hdistinct := ha.open_increasing.imp fun hlt => UInt64.ne_of_lt hlt
  refine ⟨?_, ?_, ha.open_increasing.sublist hclosed, ?_, ?_, ?_, ?_⟩
  · exact taken ▸ ha.counted.congr last
  · exact fun u hu => taken ▸ ha.open_taken u (hclosed.subset hu)
  · intro u hu happlied
    rcases List.mem_append.mp (applied ▸ happlied) with hmem | hmem
    · exact ha.open_unapplied u (hclosed.subset hu) hmem
    · rw [List.mem_singleton.mp hmem, waiting] at hu
      exact not_mem_openTickets_eraseIdx hdistinct hp ht hu
  · intro u hu
    rw [taken]
    rcases List.mem_append.mp (applied ▸ hu) with hu | hu
    · exact ha.applied_taken u hu
    · exact List.mem_singleton.mp hu ▸ ha.open_taken t hopen
  · rw [applied]
    exact increasing_concat ha.applied_increasing (ha.lt_of_fresh hopen hfresh)
  · rw [generation, applied, newestApplied_concat]

/-- The end of a call opens no ticket, and applies its own only if that is the newest. -/
theorem Ordered.after_answer {a : Activity} (ha : a.Ordered) (i : Nat)
    (output : Except LintError String) : (a.after (.answer i output)).Ordered := by
  cases hp : a.waiting[i]? with
  | none => rwa [after_answer_none output hp]
  | some p =>
      have hclosed := openTickets_eraseIdx_sublist a.waiting i
      rw [Activity.after_answer output hp]
      cases hread : readOutput p output with
      | error e =>
          rw [finish_failed hread]
          exact ha.frame rfl rfl hclosed rfl (List.append_nil _)
      | ok set =>
          cases hticket : p.ticket with
          | none =>
              rw [finish_file hread hticket, p.appliedTicket_published, hticket]
              exact ha.frame rfl rfl hclosed rfl (List.append_nil _)
          | some ticket =>
              by_cases hold : ticket < a.session.reconciler.generation
              · rw [finish_stale hread hticket hold]
                exact ha.frame rfl rfl hclosed rfl (List.append_nil _)
              · rw [finish_applied hread hticket hold, p.appliedTicket_published, hticket]
                exact ha.apply hp hticket hold rfl rfl rfl rfl rfl

theorem taken_after (a : Activity) (e : Event) : a.taken <+: (a.after e).taken := by
  cases e with
  | start t call => exact List.prefix_append _ _
  | answer i output =>
      have hsame : (a.after (.answer i output)).taken = a.taken := by
        cases hp : a.waiting[i]? with
        | none => rw [after_answer_none output hp]
        | some p => rw [Activity.after_answer output hp]
      exact hsame ▸ List.prefix_rfl
  | update s =>
      obtain ⟨x, hafter, -⟩ := a.after_update s
      exact hafter ▸ List.prefix_rfl

theorem Ordered.after {a : Activity} (ha : a.Ordered) (e : Event)
    (room : (a.after e).taken.length < UInt64.size) : (a.after e).Ordered := by
  cases e with
  | start t call => exact ha.after_start t call room
  | answer i output => exact ha.after_answer i output
  | update s =>
      obtain ⟨x, hafter, sourceId, hx⟩ := a.after_update s
      have hlast : x.reconciler.lastTicket = a.session.reconciler.lastTicket := by
        rw [hx]
        rfl
      have hgeneration : x.reconciler.generation = a.session.reconciler.generation := by
        rw [hx]
        rfl
      rw [hafter]
      exact ha.frame hlast hgeneration (List.Sublist.refl _) rfl rfl

theorem Ordered.foldl_after {a : Activity} (ha : a.Ordered) (events : List Event)
    (room : (events.foldl Activity.after a).taken.length < UInt64.size) :
    (events.foldl Activity.after a).Ordered := by
  induction events using List.reverseRecOn with
  | nil => exact ha
  | append_singleton events e ih =>
      rw [List.foldl_append, List.foldl_cons, List.foldl_nil] at room ⊢
      exact (ih (Nat.lt_of_le_of_lt (taken_after ..).length_le room)).after e room

theorem ordered_ofEvents {x : Session} (hnew : x.IsNew) (events : List Event)
    (room : (ofEvents x events).taken.length < UInt64.size) : (ofEvents x events).Ordered :=
  (Ordered.start hnew).foldl_after events room

/-- **A newer project run is never overwritten by an older one.** Whatever calls and new settings
overlap, in any order and with any answers of the linter: tickets are taken in increasing order and
waiting project runs hold different ones of them; in force is the greatest ticket applied, and the
tickets applied increase. A project run that finishes with a report is stale exactly when a newer
one was applied, and then it changes nothing; otherwise it is applied and says so. -/
theorem newer_run_wins (x : Session) (hnew : x.IsNew) (events : List Event)
    (room : (ofEvents x events).taken.length < UInt64.size - 1) :
    let a := ofEvents x events
    let inForce := a.session.reconciler.generation
    a.taken.Pairwise (· < ·) ∧
    ((openTickets a.waiting).Pairwise (· < ·) ∧ ∀ t ∈ openTickets a.waiting, t ∈ a.taken) ∧
    ((a.applied = [] ∧ inForce = 0) ∨ (inForce ∈ a.applied ∧ ∀ t ∈ a.applied, t ≤ inForce)) ∧
    a.applied.Pairwise (· < ·) ∧
    (∀ i p ticket output set, a.waiting[i]? = some p → p.ticket = some ticket →
      readOutput p output = .ok set →
      let b := a.after (.answer i output)
      let outcome := (a.session.finish p output).2.2
      (outcome = .ok .stale ↔ ∃ u ∈ a.applied, ticket < u) ∧
      (outcome = .ok .stale →
        b.session = a.session ∧ b.sent = a.sent ∧ b.applied = a.applied) ∧
      (outcome ≠ .ok .stale →
        (∃ cleared, outcome = .ok (.published set.size cleared)) ∧
        b.session.reconciler.published = set ∧ b.session.reconciler.generation = ticket ∧
        b.applied = a.applied ++ [ticket])) := by
  intro a inForce
  have ha : a.Ordered := ordered_ofEvents hnew events (by omega)
  refine ⟨ha.counted.increasing, ⟨ha.open_increasing, ha.open_taken⟩, ?_, ha.applied_increasing, ?_⟩
  · rw [show inForce = newestApplied a.applied from ha.in_force]
    refine (newestApplied_cases a.applied).imp_right fun hmem => ?_
    exact ⟨hmem, le_newestApplied ha.applied_increasing⟩
  · intro i p ticket output set hp hticket hread b outcome
    have hstale_iff : ticket < a.session.reconciler.generation ↔ ∃ u ∈ a.applied, ticket < u := by
      rw [ha.in_force]
      exact lt_newestApplied_iff ha.applied_increasing
    have hafter : b = _ := Activity.after_answer output hp
    by_cases hold : ticket < a.session.reconciler.generation
    · have hfinish := finish_stale hread hticket hold
      have houtcome : outcome = .ok .stale := congrArg (·.2.2) hfinish
      refine ⟨⟨fun _ => hstale_iff.mp hold, fun _ => houtcome⟩, fun _ => ?_, ?_⟩
      · rw [hafter, hfinish]
        exact ⟨rfl, List.append_nil _, List.append_nil _⟩
      · exact fun hne => absurd houtcome hne
    · have hfinish := finish_applied hread hticket hold
      have houtcome : outcome = .ok (.published set.size _) := congrArg (·.2.2) hfinish
      have hfresh : outcome ≠ .ok .stale := by simp [houtcome]
      refine ⟨⟨fun h => absurd h hfresh, fun h => absurd (hstale_iff.mpr h) hold⟩,
        fun h => absurd h hfresh, fun _ => ?_⟩
      rw [hafter, hfinish, p.appliedTicket_published, hticket]
      exact ⟨⟨_, houtcome⟩, rfl, rfl, rfl⟩

/-- Files with nothing but the configuration of the linter, at the root. -/
def configAlone : FileTree where
  node? := fun l => if l = [Text.bytesOf "tslint.json"] then some (.file [] false) else none
  places := [[Text.bytesOf "tslint.json"]]
  base := []

/-- A project lint that waits while the fixing one that repeats it is already done. -/
def overtaken : Activity :=
  ofEvents .standard [
    .start configAlone (.project (some (.ofString "/a.js")) false),
    .start configAlone .fixLast,
    .answer 1 (.ok "")]

/-- A project lint is overtaken by the fixing one that repeats it. -/
theorem newer_run_wins_overtaken :
    overtaken.taken = [1, 2] ∧ overtaken.applied = [2] ∧
    ∃ p, overtaken.waiting[0]? = some p ∧
      (overtaken.session.finish p (.ok "")).2.2 = .ok .stale ∧
      (overtaken.after (.answer 0 (.ok ""))).session = overtaken.session := by
  have htaken : overtaken.taken = [1, 2] := by rfl
  have happlied : overtaken.applied = [2] := by rfl
  have room : overtaken.taken.length < UInt64.size - 1 := by rw [htaken]; decide
  obtain ⟨-, -, -, -, hend⟩ := newer_run_wins .standard .standard _ room
  obtain ⟨p, hp, hticket⟩ : ∃ p, overtaken.waiting[0]? = some p ∧ p.ticket = some 1 :=
    ⟨_, rfl, rfl⟩
  have hread : readOutput p (.ok "") = .ok .empty := by rfl
  obtain ⟨hstale, hkept, -⟩ := hend 0 p 1 (.ok "") .empty hp hticket hread
  have hnewer : ∃ u ∈ overtaken.applied, (1 : Ticket) < u := ⟨2, by simp [happlied], by decide⟩
  exact ⟨htaken, happlied, p, hp, hstale.mpr hnewer, (hkept (hstale.mpr hnewer)).1⟩

end Session.Activity
end LintRelay
