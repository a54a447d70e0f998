import LintRelay.FileTree.Basic
import LintRelay.Proofs.Path.Joining

/-!
# Where paths lead

Read without looking at any file, a path leads from a directory to a location: a name goes down,
`..` goes up and stays at the root (`Path.destination`). A relative path climbs some times over the
directory where it starts and goes down by names from there (`Path.trail`); its normal form keeps the
names but counts the climbs by two, because a `..` that stayed is removed by the next one
(`normalComponents_relative`). So normalizing keeps where a path leads if it is absolute or climbs at
most once, and otherwise only at the root or next to it (`destination_normalize_iff`). A name that is
resolved from an absolute directory is safe (`destination_resolve`). The other way round, absolute
paths that lead to one place have one normal form if as many climbs over the root are left in both
(`normalize_eq_iff`).
-/

namespace LintRelay

namespace Component

/-- Where a component leads from a location if nothing is a link. Nothing is above the root. -/
def step (l : Location) : Component → Location
  | .root => []
  | .current => l
  | .up => l.dropLast
  | .name n => l ++ [n]

end Component

/-- Where a path leads from a directory, as its components say. -/
def Path.destination (base : Location) (p : Path) : Location :=
  p.components.foldl Component.step base

/-- What following components comes to: how often they climb over the directory where they start,
and the names that lead down from there. -/
structure Trail where
  climbs : Nat
  names : List Bytes
  deriving Repr, DecidableEq

namespace Trail

/-- The trail that stays where it starts. -/
def stay : Trail := ⟨0, []⟩

/-- One more component. It takes back the last name if it is `..`, and climbs where there is none. -/
def follow (s : Trail) : Component → Trail
  | .root => stay
  | .current => s
  | .up => if s.names = [] then ⟨s.climbs + 1, []⟩ else ⟨s.climbs, s.names.dropLast⟩
  | .name n => ⟨s.climbs, s.names ++ [n]⟩

/-- Where a trail leads from a directory. -/
def location (s : Trail) (base : Location) : Location :=
  base.take (base.length - s.climbs) ++ s.names

/-- What is left of a trail when two climbs cancel each other. -/
def reduce (s : Trail) : Trail := ⟨s.climbs % 2, s.names⟩

/-- The components of a reduced trail. -/
def components (s : Trail) : List Component :=
  (if s.climbs % 2 = 1 then [.up] else []) ++ s.names.map .name

@[simp] theorem location_stay (base : Location) : stay.location base = base := by
  simp [location, stay]

/-- From the root, only the names count. -/
@[simp] theorem location_root (s : Trail) : s.location [] = s.names := by simp [location]

theorem step_location (s : Trail) (base : Location) {c : Component} (hc : c ≠ .root) :
    c.step (s.location base) = (s.follow c).location base := by
  cases c with
  | root => exact absurd rfl hc
  | current => rfl
  | name n => exact List.append_assoc ..
  | up =>
      by_cases hnames : s.names = []
      · -- one more climb keeps one name less of the directory, and none too few
        simp only [Component.step, follow, location, hnames, if_true, List.append_nil]
        rw [List.dropLast_eq_take, List.take_take, List.length_take]
        congr 1
        omega
      · simp only [Component.step, follow, location, hnames, if_false]
        exact List.dropLast_append_of_ne_nil hnames

theorem foldl_step_location (s : Trail) (base : Location) {cs : List Component}
    (hcs : .root ∉ cs) :
    cs.foldl Component.step (s.location base) = (cs.foldl follow s).location base := by
  induction cs generalizing s with
  | nil => rfl
  | cons c cs ih =>
      obtain ⟨hc, hcs⟩ := not_or.mp (List.mem_cons.not.mp hcs)
      rw [List.foldl_cons, step_location s base (Ne.symm hc), ih (s.follow c) hcs, List.foldl_cons]

/-- Reducing a trail changes where it leads, unless no two climbs cancel or what is left of them
leads to the root all the same. -/
theorem location_reduce_iff (s : Trail) (base : Location) :
    s.reduce.location base = s.location base ↔
      s.climbs ≤ 1 ∨ base.length ≤ s.climbs % 2 := by
  have htake : s.reduce.location base = s.location base ↔
      base.length - s.climbs % 2 = base.length - s.climbs := by
    show base.take (base.length - s.climbs % 2) ++ s.names = s.location base ↔ _
    rw [location, List.append_left_inj]
    constructor
    · intro heq
      have hlength := congrArg List.length heq
      rw [List.length_take, List.length_take] at hlength
      omega
    · exact fun heq => by rw [heq]
  rw [htake]
  omega

/-- A reduced trail is what its components are followed to. -/
theorem foldl_follow_components (s : Trail) : s.components.foldl follow stay = s.reduce := by
  have hnames : ∀ (k : Nat) (before names : List Bytes),
      (names.map .name).foldl follow ⟨k, before⟩ = ⟨k, before ++ names⟩ := by
    intro k before names
    induction names generalizing before with
    | nil => rw [List.append_nil]; rfl
    | cons n names ih => rw [List.map_cons, List.foldl_cons, follow, ih, List.append_assoc]; rfl
  have hparity : s.climbs % 2 = 0 ∨ s.climbs % 2 = 1 := Nat.mod_two_eq_zero_or_one _
  unfold components reduce
  rcases hparity with hclimbs | hclimbs <;> rw [hclimbs]
  · exact hnames 0 [] s.names
  · exact hnames 1 [] s.names

end Trail

namespace Path

/-- The trail of a path. -/
def trail (p : Path) : Trail := p.components.foldl Trail.follow .stay

/-! ## Destinations -/

/-- A relative path leads where its trail does. -/
theorem destination_relative {p : Path} (h : p.isAbsolute = false) (base : Location) :
    p.destination base = p.trail.location base := by
  have hfold := Trail.foldl_step_location .stay base (root_not_mem_components h)
  rwa [Trail.location_stay] at hfold

/-- An absolute path leads from every directory where its names do from the root. -/
theorem destination_absolute {p : Path} (h : p.isAbsolute = true) (base : Location) :
    p.destination base = p.trail.names := by
  obtain ⟨segments, hp, hsegments⟩ := components_of_isAbsolute h
  have hroot : .root ∉ segments := fun hmem => (hsegments _ hmem).ne_root rfl
  have hfold := Trail.foldl_step_location .stay [] hroot
  rw [Trail.location_stay, Trail.location_root] at hfold
  rw [destination, trail, hp]
  exact hfold

theorem destination_eq_foldl_steps (base : Location) (p : Path) :
    p.destination base = p.steps.foldl Component.step base := by
  rw [foldl_steps fun _ => rfl, destination]

/-- Where a path leads, segment by segment of its spelling. -/
theorem destination_eq_foldl (base : Location) (p : Path) :
    p.destination base = ((splitSlash p.bytes).filterMap Component.ofSegment?).foldl Component.step
      (if p.isAbsolute = true then [] else base) := by
  rw [destination_eq_foldl_steps, steps_eq, List.foldl_append]
  cases p.isAbsolute <;> rfl

/-- A path that goes on from another one leads where it does from where that leads. -/
theorem destination_join (dir : Path) (base : Location) (p : Path) :
    (dir.join p).destination base = p.destination (dir.destination base) := by
  cases hp : p.isAbsolute with
  | true =>
      rw [show dir.join p = p by rw [join, if_pos hp], destination_absolute hp,
        destination_absolute hp]
  | false =>
      simp only [destination_eq_foldl_steps, dir.steps_join hp, List.foldl_append]

/-! ## Normal forms -/

/-- What folding leaves of a trail, last component first. -/
theorem fold_components (s : Trail) {bottom : List Component}
    (hbottom : bottom = [] ∨ bottom = [.root]) {c : Component} (hc : c ≠ .root) :
    c.fold (s.components.reverse ++ bottom) = (s.follow c).components.reverse ++ bottom := by
  cases c with
  | root => exact absurd rfl hc
  | current => rfl
  | name n =>
      have hcomponents : (s.follow (.name n)).components = s.components ++ [.name n] := by
        show _ ++ (s.names ++ [n]).map Component.name = _
        rw [List.map_append, ← List.append_assoc]
        rfl
      rw [hcomponents, List.reverse_append]
      rfl
  | up =>
      rcases List.eq_nil_or_concat' s.names with hnames | ⟨names, n, hnames⟩
      · -- without a name, `..` stays on an even number of climbs and removes the one of an odd number
        have hfollow : s.follow .up = ⟨s.climbs + 1, []⟩ := by rw [Trail.follow, if_pos hnames]
        rw [hfollow]
        unfold Trail.components
        rw [hnames]
        rcases Nat.mod_two_eq_zero_or_one s.climbs with hclimbs | hclimbs
        · have hnext : (s.climbs + 1) % 2 = 1 := by omega
          rcases hbottom with rfl | rfl <;> simp [hclimbs, hnext, Component.fold]
        · have hnext : (s.climbs + 1) % 2 = 0 := by omega
          rcases hbottom with rfl | rfl <;> simp [hclimbs, hnext, Component.fold]
      · have hfollow : s.follow .up = ⟨s.climbs, names⟩ := by
          rw [Trail.follow, if_neg (by simp [hnames]), hnames, List.dropLast_concat]
        rw [hfollow]
        simp [Trail.components, hnames, Component.fold]

theorem foldl_fold_components (s : Trail) {bottom : List Component}
    (hbottom : bottom = [] ∨ bottom = [.root]) {cs : List Component} (hcs : .root ∉ cs) :
    cs.foldl Component.fold (s.components.reverse ++ bottom) =
      (cs.foldl Trail.follow s).components.reverse ++ bottom := by
  induction cs generalizing s with
  | nil => rfl
  | cons c cs ih =>
      obtain ⟨hc, hcs⟩ := not_or.mp (List.mem_cons.not.mp hcs)
      rw [List.foldl_cons, fold_components s hbottom (Ne.symm hc), ih (s.follow c) hcs,
        List.foldl_cons]

/-- The normal form of a relative path: one `..` for an odd number of climbs, and the names. -/
theorem normalComponents_relative {p : Path} (h : p.isAbsolute = false) :
    p.normalComponents = p.trail.components := by
  have hfold := foldl_fold_components .stay (.inl rfl) (root_not_mem_components h)
  rw [List.append_nil, List.append_nil] at hfold
  rw [normalComponents, show ([] : List Component) = Trail.stay.components.reverse from rfl, hfold,
    List.reverse_reverse]
  rfl

/-- The normal form of an absolute path is the root and the same. -/
theorem normalComponents_absolute {p : Path} (h : p.isAbsolute = true) :
    p.normalComponents = .root :: p.trail.components := by
  obtain ⟨segments, hp, hsegments⟩ := components_of_isAbsolute h
  have hroot : .root ∉ segments := fun hmem => (hsegments _ hmem).ne_root rfl
  have hfold := foldl_fold_components .stay (.inr rfl) hroot
  rw [normalComponents, trail, hp, List.foldl_cons, List.foldl_cons]
  show (segments.foldl Component.fold [.root]).reverse = _
  rw [show [Component.root] = Trail.stay.components.reverse ++ [.root] from rfl, hfold,
    List.reverse_append, List.reverse_reverse]
  rfl

theorem isAbsolute_normalize (p : Path) : p.normalize.isAbsolute = p.isAbsolute := by
  cases h : p.isAbsolute with
  | true => rw [normalize, normalComponents_absolute h, isAbsolute_ofComponents]
  | false =>
      refine Bool.eq_false_iff.mpr fun habsolute => ?_
      obtain ⟨segments, hp, -⟩ := components_of_isAbsolute habsolute
      rw [components_normalize, normalComponents_relative h] at hp
      have hmem : .root ∈ p.trail.components := hp ▸ List.mem_cons_self ..
      unfold Trail.components at hmem
      split at hmem <;> simp at hmem

/-- Normalizing reduces the trail. -/
theorem trail_normalize (p : Path) : p.normalize.trail = p.trail.reduce := by
  rw [trail, components_normalize]
  cases h : p.isAbsolute with
  | true => rw [normalComponents_absolute h]; exact p.trail.foldl_follow_components
  | false => rw [normalComponents_relative h, Trail.foldl_follow_components]

/-- Absolute paths have one normal form exactly if they lead to one place and climb over the root
equally often, modulo two. -/
theorem normalize_eq_iff {p q : Path} (hp : p.isAbsolute = true) (hq : q.isAbsolute = true) :
    p.normalize = q.normalize ↔
      p.destination [] = q.destination [] ∧ p.trail.climbs % 2 = q.trail.climbs % 2 := by
  rw [destination_absolute hp, destination_absolute hq]
  constructor
  · intro heq
    have hreduce := congrArg trail heq
    rw [trail_normalize, trail_normalize, Trail.reduce, Trail.reduce, Trail.mk.injEq] at hreduce
    exact hreduce.symm
  · rintro ⟨hnames, hclimbs⟩
    rw [normalize, normalize, normalComponents_absolute hp, normalComponents_absolute hq,
      Trail.components, Trail.components, hnames, hclimbs]

/-- The normal form of an absolute path has no `.`, and `..` exactly if a climb over the root is
left. -/
theorem components_normalize_of_isAbsolute {p : Path} (h : p.isAbsolute = true) :
    p.normalize.components = .root ::
      ((if p.trail.climbs % 2 = 1 then [.up] else []) ++ (p.destination []).map .name) := by
  rw [components_normalize, normalComponents_absolute h, destination_absolute h, Trail.components]

/-! ## What normalizing keeps -/

/-- The normal form of an absolute path leads where the path does. -/
theorem destination_normalize_of_isAbsolute {p : Path} (h : p.isAbsolute = true) (base : Location) :
    p.normalize.destination base = p.destination base := by
  rw [destination_absolute ((isAbsolute_normalize p).trans h), destination_absolute h,
    trail_normalize, Trail.reduce]

/-- **Normalizing keeps where a path leads, except for long climbs.** The normal form of an absolute
path leads where the path does. That of a relative path leads there if the path climbs at most once,
or from the root, or from just below it if a climb is left. Any longer climb goes astray, since the
normal form climbs over fewer directories. -/
theorem destination_normalize_iff (base : Location) (p : Path) :
    p.normalize.destination base = p.destination base ↔
      p.isAbsolute = true ∨ p.trail.climbs ≤ 1 ∨ base.length ≤ p.trail.climbs % 2 := by
  cases h : p.isAbsolute with
  | true => exact iff_of_true (destination_normalize_of_isAbsolute h base) (.inl rfl)
  | false =>
      rw [destination_relative ((isAbsolute_normalize p).trans h), destination_relative h,
        trail_normalize, Trail.location_reduce_iff]
      simp

/-- What is seen from an absolute directory is absolute, so resolving it keeps where it leads. -/
theorem destination_resolve {dir : Path} (h : dir.isAbsolute = true) (base : Location) (p : Path) :
    (dir.resolve p).destination base = p.destination (dir.destination base) := by
  rw [resolve, destination_normalize_of_isAbsolute (isAbsolute_join h p), destination_join]

/-- Two climbs cancel each other, and the normal form names another file. -/
theorem two_climbs_cancel :
    let base := [Text.bytesOf "p", Text.bytesOf "q"]
    let p := ofString "../../x.js"
    p.normalize = ofString "x.js" ∧
    p.destination base = [Text.bytesOf "x.js"] ∧
    p.normalize.destination base = base ++ [Text.bytesOf "x.js"] ∧
    p.normalize.destination base ≠ p.destination base := by
  decide

end Path
end LintRelay
