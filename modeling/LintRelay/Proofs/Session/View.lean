import LintRelay.Program.Run
import LintRelay.Proofs.FileTree.Bases
import LintRelay.Proofs.Session.Requests
import LintRelay.Proofs.Session.Rooted

/-!
# What the linter sees of the files

A session looks for files from the directory in which it runs itself, while the linter reads its
arguments in the directory of the file that is linted. Absolute paths lead to the same from both, and
all paths that the linter is given for a file with an absolute path are absolute. A relative path
leads astray unless as much of both directories is left when it has climbed (`linter_sees`): a file
below the directory of the session is looked for below its own (`linter_sees_below`), and one beside
it is found (`linter_sees_beside`).
-/

namespace LintRelay

def LintTarget.path : LintTarget → Path
  | .project config => config
  | .file p => p

/-! ## Paths that a search finds -/

theorem Path.isAbsolute_of_mem_ancestorsUpTo {n : Nat} {p q : Path} (h : p.isAbsolute = true)
    (hq : q ∈ p.ancestorsUpTo n) : q.isAbsolute = true := by
  induction n generalizing p with
  | zero => exact absurd hq List.not_mem_nil
  | succ n ih =>
      rw [ancestorsUpTo] at hq
      obtain ⟨segments, hsegments, -⟩ := components_of_isAbsolute h
      rcases List.eq_nil_or_concat' segments with rfl | ⟨cs, c, rfl⟩
      · rw [parent?_of_root hsegments] at hq
        rwa [List.mem_singleton.mp hq]
      · obtain ⟨above, habove, hcomponents⟩ := exists_parent? hsegments
        rw [habove] at hq
        rcases List.mem_cons.mp hq with rfl | hq
        · exact h
        · exact ih (isAbsolute_of_components hcomponents) hq

/-- What is found from an absolute directory has an absolute path. -/
theorem IsNearest.isAbsolute {t : FileTree} {name : String} {start p : Path}
    (h : IsNearest t name start p) (hstart : start.isAbsolute = true) : p.isAbsolute = true := by
  obtain ⟨nearer, dir, farther, hancestors, rfl, -⟩ := h
  have hdir : dir ∈ start.ancestors := by simp [hancestors]
  exact Path.isAbsolute_join (Path.isAbsolute_of_mem_ancestorsUpTo hstart hdir) _

/-- A program that is found runs with the same files, in the directory that its run is given. -/
theorem Program.prepare_ok {t there : FileTree} {i : Invocation} {image : Image}
    (h : prepare t i = .ok (there, image)) :
    ∃ l, t.reach i.workingDir = .ok ⟨l, .directory⟩ ∧ there = t.withBase l := by
  unfold prepare at h
  by_cases hnul : (i.program.bytes :: i.workingDir.bytes :: i.arguments).any (·.contains 0) = true
  · rw [if_pos hnul] at h
    cases h
  · rw [if_neg hnul] at h
    cases hreach : t.reach i.workingDir with
    | error e =>
        rw [hreach] at h
        cases h
    | ok r =>
        rw [hreach] at h
        obtain ⟨l, node⟩ := r
        cases node with
        | directory =>
            refine ⟨l, rfl, ?_⟩
            cases hfind : find (t.withBase l) searchPath i.program
                (i.program.bytes :: i.arguments) with
            | error e =>
                simp [bind, Except.bind, hfind] at h
            | ok found =>
                simp [bind, Except.bind, pure, Except.pure, hfind] at h
                exact h.1.symm
        | file content executable => cases h
        | link target => cases h
        | device => cases h

namespace Session

/-- **The linter sees the files that were meant, if their paths are absolute.** Let a call wait for
the linter, and let the directory of its run be at `l`; the linter reads its arguments from there.
The paths among them are the nearest configuration and what the call may cover. For a file with an
absolute path they are all absolute. An absolute path leads to the same as for the session, and so
does any path if `l` is the directory of the session. Where nothing is a link, what a path leads to
from both is at the same place exactly if as much of both directories is left after its climbs; for
the file itself this is so if the path of its directory goes down as often as it climbs, or climbs
to the root and goes down no more often. -/
theorem linter_sees (x : Session) (t : FileTree) (call : LintCall) (p : Pending) (l : Location)
    (hwaits : (x.start t call).2 = .waiting p)
    (hdir : t.reach p.invocation.workingDir = .ok ⟨l, .directory⟩) :
    (∀ there image, Program.prepare t p.invocation = .ok (there, image) → there = t.withBase l) ∧
    ∃ file program config target fix,
      call.file? x = some file ∧
      p.invocation = .make program config target (workingDirFor file) fix ∧
      IsNearest t x.settings.lintConfigFile (workingDirFor file) config ∧
      call.MayCover t x.settings file target ∧
      (∀ a ∈ [config, target.path],
        (file.isAbsolute = true → a.isAbsolute = true) ∧
        (a.isAbsolute = true ∨ l = t.base → (t.withBase l).reach a = t.reach a) ∧
        (t.LinkFree → ∀ seen meant,
          (t.withBase l).reach a = .ok seen → t.reach a = .ok meant →
          (seen.location = meant.location ↔ a.LeadsAlike l t.base))) ∧
      (t.LinkFree → file.isAbsolute = false →
        let dir := (workingDirFor file).trail
        file.LeadsAlike l t.base ↔ dir.names.length = dir.climbs ∨
          (dir.names.length < dir.climbs ∧ t.base.length ≤ dir.climbs)) := by
  refine ⟨fun there image hprepare => ?_, ?_⟩
  · obtain ⟨m, hm, rfl⟩ := Program.prepare_ok hprepare
    obtain ⟨rfl, -⟩ := Reached.mk.inj (Except.ok.inj (hm.symm.trans hdir))
    rfl
  obtain ⟨file, program, config, target, hfile, hadmits, hconfig, hcovers, hinvocation⟩ :=
    invocation_of_waiting hwaits
  obtain ⟨name, hname⟩ := Admission.exists_fileName? hadmits
  have habsolute : file.isAbsolute = true → ∀ a ∈ [config, target.path], a.isAbsolute = true := by
    intro h
    -- an admitted file has a name, so its directory is absolute and the searches start there
    have hworking := isAbsolute_workingDirFor h hname
    have htarget : target.path.isAbsolute = true := by
      cases target with
      | file q => exact hcovers ▸ h
      | project q => exact hcovers.2.isAbsolute hworking
    simpa using ⟨hconfig.isAbsolute hworking, htarget⟩
  refine ⟨file, program, config, target, _, hfile, hinvocation, hconfig, hcovers,
    fun a ha => ⟨fun h => habsolute h a ha, ?_, fun hfree _ _ => hfree.same_location_iff⟩, ?_⟩
  · rintro (h | rfl)
    · exact t.reach_withBase_absolute l h
    · rfl
  · -- without links, the directory of the run is where its path leads
    intro hfree h
    rw [hinvocation] at hdir
    have hl : l = (workingDirFor file).destination t.base := hfree.location_of_reach hdir
    rw [hl]
    exact Path.leadsAlike_workingDirFor_iff h hname t.base

/-- Files of one name: beside the directory of the session, below it and further below. -/
def nameTwins : FileTree where
  node? := fun l =>
    let one (paths : List (List String)) := (paths.map (·.map Text.bytesOf)).contains l
    if one [["r"], ["r", "a"], ["r", "b"], ["r", "a", "c"], ["r", "a", "c", "c"]] then
      some .directory
    else if one [["r", "tslint.json"], ["r", "b", "x.js"], ["r", "a", "tslint.json"],
        ["r", "a", "c", "x.js"], ["r", "a", "c", "c", "x.js"]] then some (.file [] false)
    else none
  places := [["r"], ["r", "a"], ["r", "b"], ["r", "a", "c"], ["r", "a", "c", "c"],
    ["r", "tslint.json"], ["r", "b", "x.js"], ["r", "a", "tslint.json"], ["r", "a", "c", "x.js"],
    ["r", "a", "c", "c", "x.js"]].map (·.map Text.bytesOf)
  base := ["r", "a"].map Text.bytesOf

theorem linkFree_nameTwins : nameTwins.LinkFree := by
  refine .of_node? fun l target => ?_
  unfold nameTwins
  dsimp only
  split
  · simp
  · split <;> simp

/-- A file beside the directory of the session is the one that the linter reads. -/
theorem linter_sees_beside :
    let l := ["r", "b"].map Text.bytesOf
    ∃ p, (Session.standard.start nameTwins (.file (some (.ofString "../b/x.js")))).2 =
        .waiting p ∧
      nameTwins.reach p.invocation.workingDir = .ok ⟨l, .directory⟩ ∧
      ∃ seen meant, (nameTwins.withBase l).reach (.ofString "../b/x.js") = .ok seen ∧
        nameTwins.reach (.ofString "../b/x.js") = .ok meant ∧ seen.location = meant.location := by
  intro l
  obtain ⟨p, hwaits, hdir⟩ : ∃ p,
      (Session.standard.start nameTwins (.file (some (.ofString "../b/x.js")))).2 = .waiting p ∧
      nameTwins.reach p.invocation.workingDir = .ok ⟨l, .directory⟩ := ⟨_, rfl, by rfl⟩
  obtain ⟨seen, meant, hseen, hmeant⟩ : ∃ seen meant,
      (nameTwins.withBase l).reach (.ofString "../b/x.js") = .ok seen ∧
      nameTwins.reach (.ofString "../b/x.js") = .ok meant := ⟨_, _, rfl, rfl⟩
  refine ⟨p, hwaits, hdir, seen, meant, hseen, hmeant, ?_⟩
  obtain ⟨-, file, program, config, target, fix, hfile, -, -, hcovers, hsees, hown⟩ :=
    linter_sees _ _ _ p l hwaits hdir
  obtain rfl : .ofString "../b/x.js" = file := Option.some.inj hfile
  obtain rfl : target = .file (.ofString "../b/x.js") := by
    cases target with
    | file q => exact congrArg LintTarget.file hcovers
    | project q => exact absurd hcovers.1 (by simp [LintCall.LintsProject])
  obtain ⟨-, -, hsame⟩ := hsees (.ofString "../b/x.js") (by simp [LintTarget.path])
  exact (hsame linkFree_nameTwins seen meant hseen hmeant).mpr
    ((hown linkFree_nameTwins (by decide)).mpr (.inl (by decide)))

/-- For a file below the directory of the session, the linter reads another one, and it finds no
configuration where the session has found one. -/
theorem linter_sees_below :
    let l := ["r", "a", "c"].map Text.bytesOf
    ∃ p, (Session.standard.start nameTwins (.file (some (.ofString "c/x.js")))).2 = .waiting p ∧
      p.invocation.arguments =
        ["--force", "--format", "json", "--config", "tslint.json", "c/x.js"].map Text.bytesOf ∧
      nameTwins.reach p.invocation.workingDir = .ok ⟨l, .directory⟩ ∧
      nameTwins.reach (.ofString "c/x.js") =
        .ok ⟨["r", "a", "c", "x.js"].map Text.bytesOf, .file [] false⟩ ∧
      (nameTwins.withBase l).reach (.ofString "c/x.js") =
        .ok ⟨["r", "a", "c", "c", "x.js"].map Text.bytesOf, .file [] false⟩ ∧
      nameTwins.reach (.ofString "tslint.json") =
        .ok ⟨["r", "a", "tslint.json"].map Text.bytesOf, .file [] false⟩ ∧
      (nameTwins.withBase l).reach (.ofString "tslint.json") = .error .notFound :=
  ⟨_, rfl, by rfl, by rfl, by rfl, by rfl, by rfl, by rfl⟩

end Session
end LintRelay
