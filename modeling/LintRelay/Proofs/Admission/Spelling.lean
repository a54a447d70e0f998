import LintRelay.Admission
import LintRelay.Proofs.Glob.Matching
import LintRelay.Proofs.Path.Normal
import Mathlib.Tactic.SplitIfs

/-!
# Admission and the spelling of a path

The extension of a path is that of its normal form, but an exclude pattern matches the bytes of a
path as it is spelled. So the verdict on a file may depend on how its path is spelled, and it does
as soon as a pattern names a directory (`excluded_only_as_spelled`). Nothing else is to blame
(`admits_of_spelling`): where a path and its normal form get different verdicts, some exclude
pattern tells the two spellings apart, and that pattern asks for more than the name, or the path is
spelled with something behind the name.
-/

namespace LintRelay

/-! ## Tokens without a slash -/

/-- No character but the slash has the byte of a slash in its spelling. -/
theorem slash_not_mem_utf8EncodeChar {c : Char} (h : c ≠ '/') :
    slash ∉ String.utf8EncodeChar c := by
  have hval : c.val.toNat ≠ 47 := fun heq => h (Char.toNat_inj.mp heq)
  intro hmem
  -- Every byte of a spelling of several is at least 128, and a single byte is the code itself.
  have hnum : 47 ∈ (String.utf8EncodeChar c).map UInt8.toNat := List.mem_map.mpr ⟨slash, hmem, rfl⟩
  unfold String.utf8EncodeChar at hnum
  dsimp only at hnum
  split_ifs at hnum
  all_goals
    simp only [List.map_cons, List.map_nil, List.mem_cons, List.not_mem_nil, or_false,
      UInt8.toNat_ofNat'] at hnum
    omega

namespace Glob

mutual

/-- Whether a token stands for nothing with a slash in it. -/
def Token.sparesSlash : Token → Bool
  | .char c => c != '/'
  | .byteClass negated ranges => !inByteClass negated ranges slash
  | .oneOf alternatives => eachSparesSlash alternatives
  | _ => false

/-- Whether tokens in a row stand for nothing with a slash in it. -/
def allSpareSlash : List Token → Bool
  | [] => true
  | t :: ts => t.sparesSlash && allSpareSlash ts

/-- Whether no alternative stands for anything with a slash in it. -/
def eachSparesSlash : List (List Token) → Bool
  | [] => true
  | ts :: tss => allSpareSlash ts && eachSparesSlash tss

end

mutual

theorem Token.slash_not_mem {bs : Bytes} : ∀ t : Token,
    t.sparesSlash = true → t.StandsFor bs → slash ∉ bs
  | .char c => by
      intro hspares hbs
      rw [Token.sparesSlash, bne_iff_ne] at hspares
      rw [Token.StandsFor] at hbs
      exact hbs ▸ slash_not_mem_utf8EncodeChar hspares
  | .byteClass negated ranges => by
      intro hspares hbs
      simp only [Token.sparesSlash, Bool.not_eq_true'] at hspares
      rw [Token.StandsFor] at hbs
      obtain ⟨b, rfl, hb⟩ := hbs
      intro hmem
      rw [← List.mem_singleton.mp hmem, hspares] at hb
      exact Bool.false_ne_true hb
  | .oneOf alternatives => by
      intro hspares hbs
      rw [Token.sparesSlash] at hspares
      simp only [Token.StandsFor] at hbs
      split at hbs
      · exact hbs ▸ List.not_mem_nil
      · exact slash_not_mem_of_any alternatives hspares hbs
  | .any => by simp [Token.sparesSlash]
  | .run => by simp [Token.sparesSlash]
  | .leadingDirs => by simp [Token.sparesSlash]
  | .contents => by simp [Token.sparesSlash]
  | .betweenDirs => by simp [Token.sparesSlash]

theorem slash_not_mem_of_all {bs : Bytes} : ∀ ts : List Token,
    allSpareSlash ts = true → AllStandFor ts bs → slash ∉ bs
  | [] => by
      intro _ hbs
      rw [AllStandFor] at hbs
      exact hbs ▸ List.not_mem_nil
  | t :: ts => by
      intro hspares hbs
      rw [allSpareSlash, Bool.and_eq_true] at hspares
      rw [AllStandFor] at hbs
      obtain ⟨front, back, hfront, hback, rfl⟩ := hbs
      rw [List.mem_append, not_or]
      exact ⟨t.slash_not_mem hspares.1 hfront, slash_not_mem_of_all ts hspares.2 hback⟩

theorem slash_not_mem_of_any {bs : Bytes} : ∀ tss : List (List Token),
    eachSparesSlash tss = true → AnyStandsFor tss bs → slash ∉ bs
  | [] => by simp [AnyStandsFor]
  | ts :: tss => by
      intro hspares hbs
      rw [eachSparesSlash, Bool.and_eq_true] at hspares
      rw [AnyStandsFor] at hbs
      rcases hbs with ⟨-, hbs⟩ | hbs
      · exact slash_not_mem_of_all ts hspares.1 hbs
      · exact slash_not_mem_of_any tss hspares.2 hbs

end

/-! ## Patterns that ask for a name -/

/-- Whether a pattern asks for a name only: what follows the wildcards at its front has no slash. -/
def asksForName : List Token → Bool
  | .leadingDirs :: .run :: ts => allSpareSlash ts
  | .leadingDirs :: ts => allSpareSlash ts
  | .run :: ts => allSpareSlash ts
  | _ => false

end Glob

/-- Whether `name` is what stands in `bs` behind the last slash. -/
def EndsIn (bs name : Bytes) : Prop :=
  slash ∉ name ∧ (bs = name ∨ ∃ dirs, bs = dirs ++ slash :: name)

theorem EndsIn.suffix {bs name : Bytes} (h : EndsIn bs name) : name <:+ bs := by
  rcases h.2 with rfl | ⟨dirs, rfl⟩
  · exact List.suffix_refl _
  · exact ⟨dirs ++ [slash], by simp⟩

theorem EndsIn.rooted {bs name : Bytes} (h : EndsIn bs name) : EndsIn (slash :: bs) name := by
  refine ⟨h.1, .inr ?_⟩
  rcases h.2 with rfl | ⟨dirs, rfl⟩
  · exact ⟨[], rfl⟩
  · exact ⟨slash :: dirs, rfl⟩

/-- An end without a slash lies within the name. -/
theorem EndsIn.suffix_of_suffix {bs name back : Bytes} (h : EndsIn bs name) (hback : back <:+ bs)
    (hslash : slash ∉ back) : back <:+ name := by
  rcases h.2 with rfl | ⟨dirs, rfl⟩
  · exact hback
  · have hlong : slash :: name <:+ dirs ++ slash :: name := ⟨dirs, rfl⟩
    -- An end that is longer than the name would have the slash in front of it.
    rcases List.suffix_or_suffix_of_suffix hback hlong with hshort | hlong
    · rcases List.suffix_cons_iff.mp hshort with rfl | hshort
      · exact absurd (List.mem_cons_self ..) hslash
      · exact hshort
    · exact absurd (hlong.subset (List.mem_cons_self ..)) hslash

/-- An end without a slash that begins the sequence or follows a slash is the name. -/
theorem EndsIn.eq_of_leadingDirs {bs name front back : Bytes} (h : EndsIn bs name)
    (hfront : front = [] ∨ ∃ dirs, front = dirs ++ [slash]) (hbs : front ++ back = bs)
    (hslash : slash ∉ back) : back = name := by
  have hback : back <:+ name := h.suffix_of_suffix ⟨front, hbs⟩ hslash
  have hends : EndsIn bs back := by
    refine ⟨hslash, ?_⟩
    rcases hfront with rfl | ⟨dirs, rfl⟩
    · exact .inl hbs.symm
    · exact .inr ⟨dirs, by rw [← hbs]; simp⟩
  exact hback.eq_of_length_le (hends.suffix_of_suffix h.suffix h.1).length_le

namespace Glob

theorem allStandFor_run {ts : List Token} {bs : Bytes} :
    AllStandFor (.run :: ts) bs ↔ ∃ back, back <:+ bs ∧ AllStandFor ts back := by
  simp only [AllStandFor, Token.StandsFor, true_and]
  constructor
  · rintro ⟨front, back, hback, rfl⟩
    exact ⟨back, ⟨front, rfl⟩, hback⟩
  · rintro ⟨back, ⟨front, rfl⟩, hback⟩
    exact ⟨front, back, hback, rfl⟩

theorem allStandFor_leadingDirs_run {ts : List Token} {bs : Bytes} :
    AllStandFor (.leadingDirs :: .run :: ts) bs ↔ AllStandFor (.run :: ts) bs := by
  rw [AllStandFor]
  constructor
  · rintro ⟨front, back, -, hback, rfl⟩
    obtain ⟨last, hlast, h⟩ := allStandFor_run.mp hback
    exact allStandFor_run.mpr ⟨last, hlast.trans (List.suffix_append ..), h⟩
  · intro h
    exact ⟨[], bs, .inl rfl, h, rfl⟩

theorem run_stands_for_name {ts : List Token} (hspares : allSpareSlash ts = true)
    {bs name : Bytes} (hbs : EndsIn bs name) :
    AllStandFor (.run :: ts) bs ↔ AllStandFor (.run :: ts) name := by
  rw [allStandFor_run, allStandFor_run]
  constructor
  · rintro ⟨back, hback, h⟩
    exact ⟨back, hbs.suffix_of_suffix hback (slash_not_mem_of_all ts hspares h), h⟩
  · rintro ⟨back, hback, h⟩
    exact ⟨back, hback.trans hbs.suffix, h⟩

theorem leadingDirs_stand_for_name {ts : List Token} (hspares : allSpareSlash ts = true)
    {bs name : Bytes} (hbs : EndsIn bs name) :
    AllStandFor (.leadingDirs :: ts) bs ↔ AllStandFor ts name := by
  rw [AllStandFor]
  constructor
  · rintro ⟨front, back, hfront, hback, heq⟩
    rw [Token.StandsFor] at hfront
    exact hbs.eq_of_leadingDirs hfront heq (slash_not_mem_of_all ts hspares hback) ▸ hback
  · intro h
    rcases hbs.2 with rfl | ⟨dirs, rfl⟩
    · exact ⟨[], bs, .inl rfl, h, rfl⟩
    · exact ⟨dirs ++ [slash], name, .inr ⟨dirs, rfl⟩, h, by simp⟩

/-- A pattern that asks for a name does not look at the directories. -/
theorem accepts_of_endsIn {g : Glob} (h : asksForName g.tokens = true) {bs cs name : Bytes}
    (hbs : EndsIn bs name) (hcs : EndsIn cs name) : g.accepts bs = g.accepts cs := by
  have stands : AllStandFor g.tokens bs ↔ AllStandFor g.tokens cs := by
    unfold asksForName at h
    split at h
    · rename_i ts htokens
      rw [htokens, allStandFor_leadingDirs_run, allStandFor_leadingDirs_run,
        run_stands_for_name h hbs, run_stands_for_name h hcs]
    · rename_i ts _ htokens
      rw [htokens, leadingDirs_stand_for_name h hbs, leadingDirs_stand_for_name h hcs]
    · rename_i ts htokens
      rw [htokens, run_stands_for_name h hbs, run_stands_for_name h hcs]
    · exact absurd h Bool.false_ne_true
  rw [Bool.eq_iff_iff, accepts, accepts, matchesAll_iff, matchesAll_iff, stands]

example : (parse "**/*.min.js").toOption.any (asksForName ·.tokens) = true := by decide +kernel

end Glob

/-! ## The name at the end of a normal form -/

theorem joinSlash_cons {ss : List Bytes} (hne : ss ≠ []) (s : Bytes) :
    joinSlash (s :: ss) = s ++ slash :: joinSlash ss := by
  cases ss with
  | nil => exact absurd rfl hne
  | cons t ts => rfl

theorem joinSlash_concat {ss : List Bytes} (hne : ss ≠ []) (s : Bytes) :
    joinSlash (ss ++ [s]) = joinSlash ss ++ slash :: s := by
  induction ss with
  | nil => exact absurd rfl hne
  | cons t ts ih =>
      by_cases hts : ts = []
      · rw [hts]
        rfl
      · rw [List.cons_append, joinSlash_cons (by simp), ih hts, joinSlash_cons hts,
          List.append_assoc, List.cons_append]

/-- Segments that are joined end in the last one. -/
theorem endsIn_joinSlash (ss : List Bytes) {s : Bytes} (hs : slash ∉ s) :
    EndsIn (joinSlash (ss ++ [s])) s := by
  refine ⟨hs, ?_⟩
  by_cases hne : ss = []
  · exact .inl (by rw [hne]; rfl)
  · exact .inr ⟨joinSlash ss, joinSlash_concat hne s⟩

namespace Path

/-- Folding keeps a name that comes last. -/
theorem normalComponents_of_fileName? {p : Path} {name : Bytes} (h : p.fileName? = some name) :
    ∃ before, p.normalComponents = before ++ [.name name] := by
  have hlast : p.components.getLast? = some (.name name) := by
    unfold fileName? at h
    split at h
    · rename_i hlast
      rw [hlast, Option.some.inj h]
    · exact absurd h (by simp)
  obtain ⟨before, hbefore⟩ := List.getLast?_eq_some_iff.mp hlast
  refine ⟨(before.foldl Component.fold []).reverse, ?_⟩
  rw [normalComponents, hbefore, List.foldl_append, ← List.reverse_cons]
  rfl

/-- The normal form has the same name at its end. -/
theorem fileName?_normalize {p : Path} {name : Bytes} (h : p.fileName? = some name) :
    p.normalize.fileName? = some name := by
  obtain ⟨before, hbefore⟩ := normalComponents_of_fileName? h
  rw [fileName?, components_normalize, hbefore, List.getLast?_concat]

/-- The normal form is spelled with nothing behind the name. -/
theorem endsIn_normalize {p : Path} {name : Bytes} (h : p.fileName? = some name) :
    EndsIn p.normalize.bytes name := by
  obtain ⟨before, hbefore⟩ := normalComponents_of_fileName? h
  obtain ⟨segments, hsegments, hall⟩ := p.wellFormed_normalComponents
  have hname : slash ∉ name := by
    have hmem : Component.name name ∈ p.normalComponents := by simp [hbefore]
    -- The root, which may stand in front of the segments, is no name.
    have hsegment : Component.name name ∈ segments := by
      rcases hsegments with heq | heq
      · exact heq ▸ hmem
      · exact (List.mem_cons.mp (heq ▸ hmem)).resolve_left (by simp)
    exact (hall _ hsegment).no_slash
  have hspelled (cs : List Component) :
      EndsIn (joinSlash ((cs ++ [Component.name name]).map Component.bytes)) name := by
    rw [List.map_append]
    exact endsIn_joinSlash _ hname
  rw [normalize, hbefore]
  cases before with
  | nil => exact hspelled []
  | cons c cs =>
      cases c with
      | root => exact (hspelled cs).rooted
      | current => exact hspelled (.current :: cs)
      | up => exact hspelled (.up :: cs)
      | name bs => exact hspelled (.name bs :: cs)

end Path

/-! ## Verdicts on spellings -/

namespace Admission

/-- **A path and its normal form are judged alike, but for what exclude patterns see.** A path with
a name at its end has the extension of its normal form. Where the two get different verdicts, some
exclude pattern matches one spelling and not the other, and either that pattern asks for more than a
name or the path is spelled with something behind its name. -/
theorem admits_of_spelling (a : Admission) {p : Path} {name : Bytes}
    (hname : p.fileName? = some name) :
    a.hasExtension p = a.hasExtension p.normalize ∧
      (a.admits p ≠ a.admits p.normalize →
        ∃ g ∈ a.excludes, g.accepts p.bytes ≠ g.accepts p.normalize.bytes ∧
          (Glob.asksForName g.tokens = true → ¬ EndsIn p.bytes name)) := by
  have hextension : a.hasExtension p = a.hasExtension p.normalize := by
    rw [hasExtension, hasExtension, Path.extension?, Path.extension?, hname,
      Path.fileName?_normalize hname]
  refine ⟨hextension, fun hdiffer => ?_⟩
  by_contra hnone
  -- Patterns are all that can tell the two apart, so it is enough that each one judges them alike.
  have same : ∀ g ∈ a.excludes, g.accepts p.bytes = g.accepts p.normalize.bytes := by
    intro g hg
    by_contra hg'
    refine hnone ⟨g, hg, hg', fun hasks hends => hg' ?_⟩
    exact Glob.accepts_of_endsIn hasks hends (Path.endsIn_normalize hname)
  refine hdiffer ?_
  have hany : (a.excludes.any fun g => g.accepts p.bytes) =
      a.excludes.any fun g => g.accepts p.normalize.bytes := by
    rw [Bool.eq_iff_iff, List.any_eq_true, List.any_eq_true]
    exact exists_congr fun g => and_congr_right fun hg => by rw [same g hg]
  rw [admits, admits, hextension, hany]

/-- The folder `/x` is excluded. -/
def closedFolder : Admission :=
  ⟨["js"], [⟨[.char '/', .char 'x', .char '/', .run]⟩]⟩

/-- A file in `/x`, reached through another folder. -/
def detour : Path := .ofString "/y/../x/a.js"

theorem admits_of_spelling_detour :
    detour.fileName? = some (Text.bytesOf "a.js") ∧
      ∃ g ∈ closedFolder.excludes,
        g.accepts detour.bytes ≠ g.accepts detour.normalize.bytes ∧
          (Glob.asksForName g.tokens = true → ¬ EndsIn detour.bytes (Text.bytesOf "a.js")) := by
  have hname : detour.fileName? = some (Text.bytesOf "a.js") := by decide +kernel
  exact ⟨hname, (admits_of_spelling closedFolder hname).2 (by decide +kernel)⟩

/-- An excluded file is linted under another spelling of its path. -/
theorem excluded_only_as_spelled :
    ¬ ∀ (extensions exclude : List String) (a : Admission) (p : Path) (name : Bytes),
      ofLists extensions exclude = .ok a → p.isAbsolute = true → p.fileName? = some name →
        a.admits p = a.admits p.normalize := by
  intro halike
  have hread : ofLists [".js"] ["/x/*"] = .ok closedFolder := by rfl
  have hsame := halike _ _ closedFolder detour (Text.bytesOf "a.js") hread (by decide +kernel)
    (by decide +kernel)
  exact absurd hsame (by decide +kernel)

end Admission
end LintRelay
