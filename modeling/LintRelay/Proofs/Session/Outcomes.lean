import LintRelay.Session.Run
import LintRelay.Proofs.Session.Tickets

/-!
# What lint calls say of themselves

The outcome of a call tells what the call did (`outcome_tells_truth`): whether the linter was run,
how much was sent, and that everything displayed is as it was unless the call published. A call is
followed from its start to its end (`Takes`), with whatever happens to the session in between.
-/

namespace LintRelay

/-! ## The linter -/

/-- What a run of the linter comes to. -/
inductive LinterAnswer where
  | printed (text : String)
  | unstarted (cause : FileError)
  /-- It fails, with an exit code unless a signal ended it. -/
  | failed (code : Option Int) (stderr : String)

/-- The answer as the session receives it. -/
def LinterAnswer.output : LinterAnswer → Except LintError String
  | .printed text => .ok text
  | .unstarted cause => .error (.spawn cause)
  | .failed code stderr => .error (.subprocess code stderr)

/-- Linters that are run in a file tree answer in one of these ways. -/
theorem Invocation.exists_answer (i : Invocation) (t : FileTree) :
    ∃ answer : LinterAnswer, (i.run t).2 = answer.output := by
  unfold run runTimed
  cases Program.prepare t i with
  | error cause => exact ⟨.unstarted cause, rfl⟩
  | ok found =>
      show ∃ answer : LinterAnswer, conclude (Program.runImage found.1 found.2).2 = answer.output
      generalize (Program.runImage found.1 found.2).2 = finished
      unfold conclude
      split
      · exact ⟨.printed _, rfl⟩
      · exact ⟨.failed _ _, rfl⟩
      · exact ⟨.failed _ _, rfl⟩

/-! ## Errors of the search -/

/-- Whether an error says that looking for a file failed. -/
def LintError.IsDiscovery (e : LintError) : Prop := ∃ name cause, e = .discovery name cause

theorem firstFile_error {t : FileTree} {name : String} {dirs : List Path} {e : LintError}
    (h : firstFile t name dirs = .error e) : e.IsDiscovery := by
  induction dirs with
  | nil => exact absurd h (by simp [firstFile])
  | cons dir dirs ih =>
      rw [firstFile] at h
      split at h
      · exact ⟨name, _, (Except.error.inj h).symm⟩
      · split at h
        · exact absurd h (by simp)
        · exact ih h

theorem findUp_error {t : FileTree} {name : String} {start : Path} {e : LintError}
    (h : findUp t name start = .error e) : e.IsDiscovery :=
  firstFile_error h

theorem error_of_map_error {ε α β : Type} {f : α → β} {x : Except ε α} {e : ε}
    (h : x.map f = .error e) : x = .error e := by
  cases x with
  | ok a => exact absurd h (by simp [Except.map])
  | error e' => exact congrArg _ (Except.error.inj h)

theorem eq_ok_of_toOption {ε α : Type} {x : Except ε α} {a : α} (h : x.toOption = some a) :
    x = .ok a := by
  cases x with
  | error e => exact absurd h (by simp [Except.toOption])
  | ok b => rw [Option.some.inj h]

theorem projectTarget_error {t : FileTree} {s : Settings} {file dir : Path} {e : LintError}
    (h : projectTarget t s file dir = .error e) : e.IsDiscovery :=
  findUp_error (error_of_map_error h)

theorem planRun_error {t : FileTree} {s : Settings} {config dir : Path} {target : LintTarget}
    {fix : Bool} {e : LintError} (h : planRun t s config target dir fix = .error e) :
    e.IsDiscovery := by
  have hprogram : resolveProgram t s.linterCommand dir = .error e := error_of_map_error h
  unfold resolveProgram at hprogram
  split at hprogram
  · exact absurd hprogram (by simp)
  · exact findUp_error (error_of_map_error hprogram)

namespace Session

/-! ## The halves of a call -/

/-- The results that a call ends with before the linter is run. -/
inductive Unrun : Except LintError LintOutcome → Prop
  | skipped : Unrun (.ok .skipped)
  | noConfig : Unrun (.ok .noConfig)
  | discovery (name : String) (cause : FileError) : Unrun (.error (.discovery name cause))

theorem Unrun.of_isDiscovery {e : LintError} (h : e.IsDiscovery) : Unrun (.error e) := by
  obtain ⟨name, cause, rfl⟩ := h
  exact .discovery name cause

/-- A call that ends at its start ends with such a result. -/
theorem unrun_of_ended {x : Session} {t : FileTree} {call : LintCall}
    {result : Except LintError LintOutcome} (h : (x.start t call).2 = .ended result) :
    Unrun result := by
  have hstarts := x.start_starts t call
  generalize (x.start t call).1 = x' at hstarts
  rw [h] at hstarts
  cases hstarts with
  | skipped => exact .skipped
  | project _ _ _ hproject =>
      cases hproject with
      | lookupFails e hlookup => exact .of_isDiscovery (findUp_error hlookup)
      | noConfig => exact .noConfig
      | targetFails _ e _ htarget => exact .of_isDiscovery (projectTarget_error htarget)
      | planFails _ _ e _ _ hplan => exact .of_isDiscovery (planRun_error hplan)
  | file _ _ _ hfile =>
      cases hfile with
      | lookupFails e hlookup => exact .of_isDiscovery (findUp_error hlookup)
      | noConfig => exact .noConfig
      | planFails _ e _ hplan => exact .of_isDiscovery (planRun_error hplan)

/-- What the linter answers is read, or is refused with an error that is not one of the search. -/
theorem readOutput_error {p : Pending} {answer : LinterAnswer} {e : LintError}
    (h : readOutput p answer.output = .error e) : ¬e.IsDiscovery := by
  rintro ⟨name, cause, rfl⟩
  cases answer with
  | printed text =>
      unfold readOutput LinterAnswer.output at h
      cases hparse : Report.parse text ⟨some p.workingDir, p.useRuleSeverity⟩ with
      | ok set => simp [hparse, Except.mapError] at h
      | error e => simp [hparse, Except.mapError] at h
  | unstarted cause => simp [readOutput, LinterAnswer.output] at h
  | failed code stderr => simp [readOutput, LinterAnswer.output] at h

/-- What the end of a call comes to, once the linter has answered. -/
inductive Ends (x : Session) (p : Pending) :
    Session → List Sent → Except LintError LintOutcome → Prop
  | failed {e : LintError} : ¬e.IsDiscovery → Ends x p x [] (.error e)
  | stale : Ends x p x [] (.ok .stale)
  | applied (ticket : Ticket) (set : FileDiagnostics) :
      Ends x p
        { x with reconciler := { x.reconciler with published := set, generation := ticket } }
        (x.reconciler.send (announcements set ++ clears x.reconciler.published set))
        (.ok (.published set.size (clears x.reconciler.published set).length))
  | file (ds : List Diagnostic) :
      Ends x p { x with reconciler := (x.reconciler.reconcileFile p.file ds).1 }
        (x.reconciler.reconcileFile p.file ds).2 (.ok (.published 1 0))

theorem finish_ends (x : Session) (p : Pending) (answer : LinterAnswer) :
    Ends x p (x.finish p answer.output).1 (x.finish p answer.output).2.1
      (x.finish p answer.output).2.2 := by
  cases hread : readOutput p answer.output with
  | error e =>
      rw [finish_failed hread]
      exact .failed (readOutput_error hread)
  | ok set =>
      cases hticket : p.ticket with
      | none =>
          rw [finish_file hread hticket]
          exact .file _
      | some ticket =>
          by_cases hold : ticket < x.reconciler.generation
          · rw [finish_stale hread hticket hold]
            exact .stale
          · rw [finish_applied hread hticket hold]
            exact .applied ticket set

namespace Ends

variable {x x' : Session} {p : Pending} {sent : List Sent}
  {result : Except LintError LintOutcome}

theorem lastProjectFile (h : Ends x p x' sent result) : x'.lastProjectFile = x.lastProjectFile := by
  cases h <;> rfl

theorem not_unrun (h : Ends x p x' sent result) : ¬Unrun result := by
  rintro hunrun
  cases h with
  | failed he =>
      cases hunrun with
      | discovery name cause => exact he ⟨name, cause, rfl⟩
  | stale => cases hunrun
  | applied => cases hunrun
  | file => cases hunrun

/-- A call that did not publish has sent nothing and changed nothing. -/
theorem unpublished (h : Ends x p x' sent result)
    (hresult : ∀ files cleared, result ≠ .ok (.published files cleared)) : x' = x ∧ sent = [] := by
  cases h with
  | failed => exact ⟨rfl, rfl⟩
  | stale => exact ⟨rfl, rfl⟩
  | applied => exact absurd rfl (hresult _ _)
  | file => exact absurd rfl (hresult _ _)

/-- The counts of a call that published are those of what it has sent; the last ones are clears. -/
theorem published {files cleared : Nat} (h : Ends x p x' sent (.ok (.published files cleared))) :
    sent.length = files + cleared ∧
      ∀ s ∈ sent.drop files, s.publication.diagnostics = [] := by
  cases h with
  | applied ticket set =>
      have hfiles : set.size = (announcements set).length := by
        rw [announcements, List.length_map, PathMap.size]
      refine ⟨?_, ?_⟩
      · rw [Reconciler.send, List.length_map, List.length_append, hfiles]
      · intro s hs
        rw [Reconciler.send, ← List.map_drop, hfiles, List.drop_left] at hs
        obtain ⟨q, hq, rfl⟩ := List.mem_map.mp hs
        obtain ⟨e, -, rfl⟩ := List.mem_map.mp hq
        rfl
  | file ds => exact ⟨rfl, fun s hs => absurd hs List.not_mem_nil⟩

end Ends

namespace Activity

/-! ## A call from its start to its end -/

/-- What a call did. -/
structure Course where
  runs : List Invocation
  sent : List Sent
  result : Except LintError LintOutcome

/-- `Takes a t call b c course`: a call that starts in the activity `a` with the files `t` comes to
its end in the activity `b` and leaves the activity `c` behind. Between `a` and `b` it waits for the
linter, and anything may happen; a call that does not wait ends where it starts. -/
inductive Takes (a : Activity) (t : FileTree) (call : LintCall) :
    Activity → Activity → Course → Prop
  | ended {result : Except LintError LintOutcome} :
      (a.session.start t call).2 = .ended result →
      Takes a t call (a.after (.start t call)) (a.after (.start t call)) ⟨[], [], result⟩
  | answered {p : Pending} {b : Activity} {i : Nat} (during : List Event) (answer : LinterAnswer) :
      (a.session.start t call).2 = .waiting p →
      during.foldl after (a.after (.start t call)) = b →
      b.waiting[i]? = some p →
      Takes a t call b (b.after (.answer i answer.output))
        ⟨[p.invocation], (b.session.finish p answer.output).2.1,
          (b.session.finish p answer.output).2.2⟩

/-- A call that nothing comes in between of takes such a course. -/
theorem takes_run (a : Activity) (t : FileTree) (call : LintCall) :
    ∃ b c course, Takes a t call b c course ∧ c.session = (a.session.run t call).1 ∧
      course.sent = (a.session.run t call).2.2.1 ∧
      course.result = (a.session.run t call).2.2.2 := by
  rw [run]
  cases hstarted : a.session.start t call with
  | mk x started =>
      have hsecond : (a.session.start t call).2 = started := by rw [hstarted]
      have hafter : (a.after (.start t call)).session = x := congrArg Prod.fst hstarted
      cases started with
      | ended result => exact ⟨_, _, _, .ended hsecond, hafter, rfl, rfl⟩
      | waiting p =>
          obtain ⟨answer, hanswer⟩ := p.invocation.exists_answer t
          have hwaits : (a.after (.start t call)).waiting[a.waiting.length]? = some p := by
            show (a.waiting ++ (a.session.start t call).2.pending)[a.waiting.length]? = some p
            rw [hsecond]
            exact List.getElem?_concat_length
          have htakes := Takes.answered [] answer hsecond rfl hwaits
          refine ⟨_, _, _, htakes, ?_, ?_, ?_⟩
          · dsimp only [List.foldl_nil]
            rw [after_answer _ hwaits, hafter, ← hanswer]
          · dsimp only [List.foldl_nil]
            rw [hafter, ← hanswer]
          · dsimp only [List.foldl_nil]
            rw [hafter, ← hanswer]

/-- Whether a call lints the project of a file that is admitted. -/
def LintsProjectOf (x : Session) (call : LintCall) (file : Path) : Prop :=
  call.file? x = some file ∧ x.admits file = true ∧ call.projectFix?.isSome = true

/-- A start leaves the run in force alone. -/
theorem generation_start (x : Session) (t : FileTree) (call : LintCall) :
    (x.start t call).1.reconciler.generation = x.reconciler.generation := by
  rcases x.start_ticket t call with ⟨h, _⟩ | ⟨h, _⟩
  · rw [h]
  · rw [h]
    rfl

/-- The start of a call keeps the file for which a project lint was last asked, unless the call
lints a project, and then this is its file from now on. -/
theorem lastProjectFile_start (x : Session) (t : FileTree) (call : LintCall) :
    (∃ file, LintsProjectOf x call file ∧ (x.start t call).1.lastProjectFile = some file ∧
      (x.start t call).2 ≠ .ended (.ok .skipped)) ∨
    ((∀ file, ¬LintsProjectOf x call file) ∧
      (x.start t call).1.lastProjectFile = x.lastProjectFile) := by
  generalize hx : (x.start t call).1 = x'
  generalize hstarted : (x.start t call).2 = started
  have hstarts := x.start_starts t call
  rw [hx, hstarted] at hstarts
  cases hstarts with
  | skipped hskip =>
      refine .inr ⟨?_, rfl⟩
      rintro file ⟨hfile, hadmits, -⟩
      rw [hskip file hfile] at hadmits
      exact Bool.false_ne_true hadmits
  | @project file fix _ _ hfile hadmits hfix hproject =>
      refine .inl ⟨file, ⟨hfile, hadmits, by rw [hfix]; rfl⟩, ?_, ?_⟩
      · cases hproject <;> rfl
      · cases hproject <;> simp
  | file _ _ hfix _ =>
      refine .inr ⟨?_, rfl⟩
      rintro file ⟨-, -, hsome⟩
      rw [hfix] at hsome
      exact Bool.false_ne_true hsome

namespace Takes

variable {a b c : Activity} {t : FileTree} {call : LintCall} {course : Course}

/-- All that a call sends is sent by its end. -/
theorem sent_eq (h : Takes a t call b c course) : c.sent = b.sent ++ course.sent := by
  cases h with
  | ended => exact (List.append_nil _).symm
  | answered _ _ _ _ hwaits => rw [after_answer _ hwaits]

/-- A call that did not publish has sent nothing, and its end has changed nothing. -/
theorem unpublished (h : Takes a t call b c course)
    (hresult : ∀ files cleared, course.result ≠ .ok (.published files cleared)) :
    course.sent = [] ∧ c.session = b.session := by
  cases h with
  | ended => exact ⟨rfl, rfl⟩
  | answered _ answer _ _ hwaits =>
      obtain ⟨hsession, hsent⟩ := (finish_ends _ _ answer).unpublished hresult
      rw [after_answer _ hwaits]
      exact ⟨hsent, hsession⟩

/-- Whether a call has run the linter can be told from its result. -/
theorem runs (h : Takes a t call b c course) :
    (Unrun course.result ∧ course.runs = []) ∨
      (¬Unrun course.result ∧ ∃ invocation, course.runs = [invocation]) := by
  cases h with
  | ended hended => exact .inl ⟨unrun_of_ended hended, rfl⟩
  | @answered p => exact .inr ⟨(finish_ends _ _ _).not_unrun, p.invocation, rfl⟩

theorem published (h : Takes a t call b c course) {files cleared : Nat}
    (hresult : course.result = .ok (.published files cleared)) :
    course.sent.length = files + cleared ∧
      ∀ s ∈ course.sent.drop files, s.publication.diagnostics = [] := by
  cases h with
  | ended hended =>
      have hunrun := unrun_of_ended hended
      dsimp only at hresult
      rw [hresult] at hunrun
      cases hunrun
  | @answered p _ _ _ answer =>
      have hends := finish_ends b.session p answer
      dsimp only at hresult
      rw [hresult] at hends
      exact hends.published

theorem lastProjectFile (h : Takes a t call b c course) :
    c.session.lastProjectFile = b.session.lastProjectFile := by
  cases h with
  | ended => rfl
  | answered _ answer _ _ hwaits =>
      rw [after_answer _ hwaits]
      exact (finish_ends _ _ answer).lastProjectFile

/-- A skipped call does not lint a project. -/
theorem not_lintsProjectOf (h : Takes a t call b c course) (hresult : course.result = .ok .skipped)
    (file : Path) : ¬LintsProjectOf a.session call file := by
  intro hlints
  cases h with
  | ended hended =>
      dsimp only at hresult
      rw [hresult] at hended
      rcases lastProjectFile_start a.session t call with ⟨_, _, _, hne⟩ | ⟨hnone, _⟩
      · exact hne hended
      · exact hnone file hlints
  | @answered p _ _ _ answer =>
      have hends := finish_ends b.session p answer
      dsimp only at hresult
      rw [hresult] at hends
      exact hends.not_unrun .skipped

end Takes

theorem not_lintsProjectOf_file (x : Session) (p : Option Path) (file : Path) :
    ¬LintsProjectOf x (.file p) file :=
  fun h => Bool.false_ne_true h.2.2

theorem LintsProjectOf.unique {x : Session} {call : LintCall} {p q : Path}
    (hp : LintsProjectOf x call p) (hq : LintsProjectOf x call q) : p = q :=
  Option.some.inj (hp.1.symm.trans hq.1)

theorem lastProjectFile_update (a : Activity) (s : Settings) :
    (a.after (.update s)).session.lastProjectFile = a.session.lastProjectFile := by
  rw [after]
  cases h : a.session.updateSettings s with
  | error e => rfl
  | ok x =>
      obtain ⟨_, _, rfl⟩ := updateSettings_ok h
      rfl

/-- **The outcome of a call tells the truth.** Whatever the session, the files, the linter and what
comes in between, a call that does not publish sends nothing and changes neither the record nor the
generation in force; it has asked for no run of the linter if it is skipped, finds no configuration
or fails in the search, and for one run otherwise; what it publishes and clears is counted right;
and only a project lint of an admitted file, however it ends, changes which file that was last. -/
theorem outcome_tells_truth (a : Activity) (t : FileTree) (call : LintCall) (b c : Activity)
    (course : Course) (h : Takes a t call b c course) :
    let s := a.after (.start t call)
    (s.sent = a.sent ∧ c.sent = b.sent ++ course.sent ∧
      s.session.reconciler.published = a.session.reconciler.published ∧
      s.session.reconciler.generation = a.session.reconciler.generation) ∧
    ((∀ files cleared, course.result ≠ .ok (.published files cleared)) →
      course.sent = [] ∧
      c.session.reconciler.published = b.session.reconciler.published ∧
      c.session.reconciler.generation = b.session.reconciler.generation) ∧
    (Unrun course.result ∧ course.runs = [] ∨
      ¬Unrun course.result ∧ ∃ invocation, course.runs = [invocation]) ∧
    (∀ files cleared, course.result = .ok (.published files cleared) →
      course.sent.length = files + cleared ∧
      ∀ last ∈ course.sent.drop files, last.publication.diagnostics = []) ∧
    (∀ file, LintsProjectOf a.session call file → s.session.lastProjectFile = some file) ∧
    ((course.result = .ok .skipped ∨ ∃ file, call = .file file) →
      s.session.lastProjectFile = a.session.lastProjectFile) ∧
    c.session.lastProjectFile = b.session.lastProjectFile ∧
    ∀ new, (a.after (.update new)).session.lastProjectFile = a.session.lastProjectFile := by
  intro s
  have hlast := lastProjectFile_start a.session t call
  refine ⟨⟨rfl, h.sent_eq, published_start _ _ _, generation_start _ _ _⟩, ?_, h.runs,
    fun _ _ => h.published, ?_, ?_, h.lastProjectFile, a.lastProjectFile_update⟩
  · intro hresult
    obtain ⟨hsent, hsession⟩ := h.unpublished hresult
    rw [hsession]
    exact ⟨hsent, rfl, rfl⟩
  · intro file hlints
    rcases hlast with ⟨other, hother, hsome, -⟩ | ⟨hnone, -⟩
    · rw [hlints.unique hother]
      exact hsome
    · exact absurd hlints (hnone file)
  · intro hkeeps
    rcases hlast with ⟨file, hlints, -, -⟩ | ⟨-, hsame⟩
    · refine absurd hlints ?_
      rcases hkeeps with hresult | ⟨p, rfl⟩
      · exact h.not_lintsProjectOf hresult file
      · exact not_lintsProjectOf_file _ p file
    · exact hsame

/-- The overtaken lint has asked for one run of the linter, and its end leaves all as it is. -/
theorem outcome_tells_truth_overtaken :
    ∃ p : Pending, overtaken.waiting[0]? = some p ∧
      let c := overtaken.after (.answer 0 (.ok ""))
      Takes (start .standard) configAlone (.project (some (.ofString "/a.js")) false) overtaken c
        ⟨[p.invocation], [], .ok .stale⟩ ∧
      c.sent = overtaken.sent ∧
      c.session.reconciler.generation = overtaken.session.reconciler.generation ∧
      c.session.lastProjectFile = overtaken.session.lastProjectFile := by
  obtain ⟨p, hstart, hp, hend⟩ : ∃ p,
      (Session.standard.start configAlone (.project (some (.ofString "/a.js")) false)).2 =
        .waiting p ∧
      overtaken.waiting[0]? = some p ∧
      (overtaken.session.finish p (.ok "")).2 = ([], .ok .stale) :=
    ⟨_, rfl, rfl, rfl⟩
  have hduring : [.start configAlone .fixLast, .answer 1 (.ok "")].foldl after
      ((start .standard).after
        (.start configAlone (.project (some (.ofString "/a.js")) false))) = overtaken := rfl
  have htakes := Takes.answered _ (.printed "") hstart hduring hp
  dsimp only [LinterAnswer.output] at htakes
  rw [hend] at htakes
  obtain ⟨⟨-, hsent, -, -⟩, hkept, -, -, -, -, hlast, -⟩ :=
    outcome_tells_truth _ _ _ _ _ _ htakes
  obtain ⟨-, -, hgeneration⟩ := hkept (by simp)
  exact ⟨p, hp, htakes, by rw [hsent, List.append_nil], hgeneration, hlast⟩

end Activity
end Session
end LintRelay
