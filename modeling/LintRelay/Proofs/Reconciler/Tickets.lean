import LintRelay.Proofs.Reconciler.History

/-!
# Tickets

Tickets are taken from a counter of 64 bits. As long as it does not wrap, the tickets taken from a
reconciler increase (`Counted`), and where project runs hold tickets that were really taken
(`Lawful`), the result in force has one of them or is the empty one of the beginning.
-/

namespace LintRelay

/-- A ticket that is newer than all others goes to the end of them. -/
theorem increasing_concat {ts : List Ticket} {t : Ticket} (h : ts.Pairwise (· < ·))
    (newer : ∀ u ∈ ts, u < t) : (ts ++ [t]).Pairwise (· < ·) := by
  rw [List.pairwise_append]
  refine ⟨h, List.pairwise_singleton _ _, ?_⟩
  intro u hu v hv
  rw [List.mem_singleton.mp hv]
  exact newer u hu

/-- The tickets taken from a reconciler, oldest first, are its first ones in increasing order. -/
structure Counted (r : Reconciler) (taken : List Ticket) : Prop where
  count : r.lastTicket.toNat = taken.length
  increasing : taken.Pairwise (· < ·)
  le_last : ∀ t ∈ taken, t ≤ r.lastTicket

namespace Counted

variable {r : Reconciler} {taken : List Ticket}

theorem start (sourceId : String) : Counted (.start sourceId) [] :=
  ⟨rfl, .nil, fun _ ht => absurd ht List.not_mem_nil⟩

/-- Only the counter matters. -/
theorem congr {r' : Reconciler} (hc : Counted r taken) (h : r'.lastTicket = r.lastTicket) :
    Counted r' taken :=
  ⟨h ▸ hc.count, hc.increasing, h ▸ hc.le_last⟩

theorem toNat_next (hc : Counted r taken) (room : taken.length + 1 < UInt64.size) :
    r.begin.2.toNat = taken.length + 1 := by
  show (r.lastTicket + 1).toNat = taken.length + 1
  rw [UInt64.toNat_add, hc.count]
  exact Nat.mod_eq_of_lt room

/-- The next ticket is newer than all that were taken. -/
theorem lt_next (hc : Counted r taken) (room : taken.length + 1 < UInt64.size) :
    ∀ t ∈ taken, t < r.begin.2 := by
  intro t ht
  have hle := UInt64.le_iff_toNat_le.mp (hc.le_last t ht)
  rw [hc.count] at hle
  rw [UInt64.lt_iff_toNat_lt, hc.toNat_next room]
  omega

theorem begin (hc : Counted r taken) (room : taken.length + 1 < UInt64.size) :
    Counted r.begin.1 (taken ++ [r.begin.2]) where
  count := by
    rw [List.length_append, List.length_singleton]
    exact hc.toNat_next room
  increasing := increasing_concat hc.increasing (hc.lt_next room)
  le_last := by
    intro t ht
    rcases List.mem_append.mp ht with ht | ht
    · exact UInt64.le_of_lt (hc.lt_next room t ht)
    · exact List.mem_singleton.mp ht ▸ UInt64.le_refl _

end Counted

namespace Reconciler

/-- Whether an operation comes with a ticket among those taken, if it comes with one. -/
def Operation.HoldsOneOf (taken : List Ticket) : Operation → Prop
  | .reconcileRun ticket _ => ticket ∈ taken
  | _ => True

theorem lastTicket_reconcileRun (r : Reconciler) (ticket : Ticket) (new : FileDiagnostics) :
    (r.reconcileRun ticket new).1.lastTicket = r.lastTicket := by
  unfold reconcileRun
  split <;> rfl

/-- The result in force is afterwards the same one or that of the run. -/
theorem generation_reconcileRun (r : Reconciler) (ticket : Ticket) (new : FileDiagnostics) :
    (r.reconcileRun ticket new).1.generation = r.generation ∨
      (r.reconcileRun ticket new).1.generation = ticket := by
  unfold reconcileRun
  split
  · exact .inl rfl
  · exact .inr rfl

end Reconciler

namespace History

/-- Histories whose project runs hold tickets that the reconciler gave out. -/
inductive Lawful (sourceId : String) : History → Prop
  | start : Lawful sourceId (.start sourceId)
  | after {h : History} {op : Reconciler.Operation} :
      Lawful sourceId h → op.HoldsOneOf h.taken → Lawful sourceId (h.after op)

/-- Tickets that were taken stay taken. -/
theorem taken_after (h : History) (op : Reconciler.Operation) : h.taken <+: (h.after op).taken := by
  cases op with
  | begin => exact List.prefix_append _ _
  | reconcile new => exact List.prefix_append _ _
  | reconcileRun ticket new => exact List.prefix_rfl
  | reconcileFile p ds => exact List.prefix_rfl
  | setSourceId sourceId => exact List.prefix_rfl

/-- Every operation leaves the tickets counted, unless the counter wraps. -/
theorem counted_after {h : History} (hc : Counted h.reconciler h.taken)
    (op : Reconciler.Operation) (room : (h.after op).taken.length < UInt64.size) :
    Counted (h.after op).reconciler (h.after op).taken := by
  have room_of_take : (h.taken ++ [h.reconciler.begin.2]).length < UInt64.size →
      h.taken.length + 1 < UInt64.size := by
    rw [List.length_append]
    exact id
  cases op with
  | begin => exact hc.begin (room_of_take room)
  | reconcile new =>
      exact (hc.begin (room_of_take room)).congr (Reconciler.lastTicket_reconcileRun ..)
  | reconcileRun ticket new => exact hc.congr (Reconciler.lastTicket_reconcileRun ..)
  | reconcileFile p ds => exact hc.congr rfl
  | setSourceId sourceId => exact hc.congr rfl

namespace Lawful

variable {sourceId : String} {h : History}

theorem inStep (hl : Lawful sourceId h) : h.InStep := by
  induction hl with
  | start => exact Agrees.start
  | after _ _ ih => exact ih.after _

theorem counted (hl : Lawful sourceId h) (room : h.taken.length < UInt64.size) :
    Counted h.reconciler h.taken := by
  induction hl with
  | start => exact Counted.start sourceId
  | after _ _ ih =>
      exact counted_after (ih (Nat.lt_of_le_of_lt (taken_after ..).length_le room)) _ room

/-- The result in force is the empty one of the beginning or has a ticket that was taken. -/
theorem generation_mem (hl : Lawful sourceId h) :
    h.reconciler.generation = 0 ∨ h.reconciler.generation ∈ h.taken := by
  induction hl with
  | start => exact .inl rfl
  | @after h op _ hop ih =>
      have hkept : h.reconciler.generation = 0 ∨
          h.reconciler.generation ∈ (h.after op).taken :=
        ih.imp_right fun hmem => (taken_after h op).subset hmem
      cases op with
      | begin => exact hkept
      | reconcile new =>
          rcases Reconciler.generation_reconcileRun h.reconciler.begin.1 h.reconciler.begin.2 new
            with heq | heq
          · exact heq ▸ hkept
          · exact .inr (List.mem_append_right _ (List.mem_singleton.mpr heq))
      | reconcileRun ticket new =>
          rcases Reconciler.generation_reconcileRun h.reconciler ticket new with heq | heq
          · exact heq ▸ hkept
          · right
            rw [show (h.after (.reconcileRun ticket new)).reconciler.generation = ticket from heq]
            exact hop
      | reconcileFile p ds => exact hkept
      | setSourceId sourceId => exact hkept

end Lawful
end History
end LintRelay
