import LintRelay.Proofs.Path.Absolute
import LintRelay.Uri.Basic

/-!
# The URIs of files

A file has one URI, however its path is spelled, and different files have different ones
(`ofFile?_eq_iff`). Encoding loses nothing, because a percent sign is encoded itself
(`encodeName_injective`), and what is encoded has no slash in it, so that the slashes of a URI
separate the names of its path (`text_rooted_injective`).
-/

namespace LintRelay

/-! ## Encoded names -/

namespace Percent

theorem digit_injective : ∀ m < 16, ∀ n < 16, digit m = digit n → m = n := by decide

theorem digit_ne_slash : ∀ n < 16, digit n ≠ '/' := by decide

theorem toNat_ofNat : ∀ n < 0x80, (Char.ofNat n).toNat = n := by decide

theorem triple_injective {b c : UInt8} (h : triple b = triple c) : b = c := by
  have hb : b.toNat < 256 := b.toNat_lt
  have hc : c.toNat < 256 := c.toNat_lt
  simp only [triple, List.cons.injEq, true_and, and_true] at h
  obtain ⟨hhigh, hlow⟩ := h
  have hhigh := digit_injective _ (by omega) _ (by omega) hhigh
  have hlow := digit_injective _ (by omega) _ (by omega) hlow
  apply UInt8.toNat_inj.mp
  omega

section Plain

variable {b : UInt8}

/-- A byte that is not encoded in a file's name is written as the character with its number. -/
theorem toNat_of_plain (h : inFileSegment b = false) : (Char.ofNat b.toNat).toNat = b.toNat := by
  apply toNat_ofNat
  simp only [inFileSegment, inPath, inFragment, isControl, Bool.or_eq_false_iff,
    decide_eq_false_iff_not, UInt8.not_le] at h
  have hlt : b.toNat < (0x7F : UInt8).toNat := UInt8.lt_iff_toNat_lt.mp h.1.1.1.2
  exact Nat.lt_trans hlt (by decide)

/-- It is none of the characters that are encoded. -/
theorem ne_of_plain (h : inFileSegment b = false) {c : UInt8} (hascii : c.toNat < 0x80)
    (hc : inFileSegment c = true) : Char.ofNat b.toNat ≠ Char.ofNat c.toNat := by
  intro heq
  have hnat := congrArg Char.toNat heq
  rw [toNat_of_plain h, toNat_ofNat _ hascii] at hnat
  rw [UInt8.toNat_inj.mp hnat, hc] at h
  exact absurd h (by simp)

theorem ne_percent_of_plain (h : inFileSegment b = false) : Char.ofNat b.toNat ≠ '%' :=
  ne_of_plain h (c := 0x25) (by decide) (by decide)

theorem ne_slash_of_plain (h : inFileSegment b = false) : Char.ofNat b.toNat ≠ '/' :=
  ne_of_plain h (c := 0x2F) (by decide) (by decide)

end Plain

/-- The text of a name in a file's path. -/
def encodeName (name : Bytes) : List Char := encode inFileSegment name

theorem encodeName_cons_of_encoded {b : UInt8} (h : inFileSegment b = true) (name : Bytes) :
    encodeName (b :: name) = triple b ++ encodeName name := by
  show (if inFileSegment b then triple b else [Char.ofNat b.toNat]) ++ encodeName name = _
  rw [if_pos h]

theorem encodeName_cons_of_plain {b : UInt8} (h : inFileSegment b = false) (name : Bytes) :
    encodeName (b :: name) = Char.ofNat b.toNat :: encodeName name := by
  show (if inFileSegment b then triple b else [Char.ofNat b.toNat]) ++ encodeName name = _
  rw [h]
  rfl

/-- The first byte of a name can be told from its text. -/
theorem encodeName_cons_inj {b c : UInt8} {name other : Bytes}
    (h : encodeName (b :: name) = encodeName (c :: other)) :
    b = c ∧ encodeName name = encodeName other := by
  -- only an encoded byte begins with a percent sign
  cases hb : inFileSegment b with
  | true =>
      cases hc : inFileSegment c with
      | true =>
          rw [encodeName_cons_of_encoded hb, encodeName_cons_of_encoded hc] at h
          obtain ⟨htriple, hrest⟩ := List.append_inj h rfl
          exact ⟨triple_injective htriple, hrest⟩
      | false =>
          rw [encodeName_cons_of_encoded hb, encodeName_cons_of_plain hc] at h
          exact absurd (List.cons.inj h).1.symm (ne_percent_of_plain hc)
  | false =>
      cases hc : inFileSegment c with
      | true =>
          rw [encodeName_cons_of_plain hb, encodeName_cons_of_encoded hc] at h
          exact absurd (List.cons.inj h).1 (ne_percent_of_plain hb)
      | false =>
          rw [encodeName_cons_of_plain hb, encodeName_cons_of_plain hc] at h
          obtain ⟨hchar, hrest⟩ := List.cons.inj h
          have hnat := congrArg Char.toNat hchar
          rw [toNat_of_plain hb, toNat_of_plain hc] at hnat
          exact ⟨UInt8.toNat_inj.mp hnat, hrest⟩

theorem encodeName_cons_ne_nil (b : UInt8) (name : Bytes) : encodeName (b :: name) ≠ [] := by
  cases hb : inFileSegment b with
  | true => simp [encodeName_cons_of_encoded hb, triple]
  | false => simp [encodeName_cons_of_plain hb]

/-- Different names have different texts. -/
theorem encodeName_injective : Function.Injective encodeName := by
  intro name
  induction name with
  | nil =>
      intro other h
      cases other with
      | nil => rfl
      | cons c other => exact absurd h.symm (encodeName_cons_ne_nil c other)
  | cons b name ih =>
      intro other h
      cases other with
      | nil => exact absurd h (encodeName_cons_ne_nil b name)
      | cons c other =>
          obtain ⟨rfl, hrest⟩ := encodeName_cons_inj h
          rw [ih hrest]

/-- The text of a name has no slash in it. -/
theorem slash_not_mem_encodeName (name : Bytes) : '/' ∉ encodeName name := by
  induction name with
  | nil => exact List.not_mem_nil
  | cons b name ih =>
      have hlt : b.toNat < 256 := b.toNat_lt
      cases hb : inFileSegment b with
      | true =>
          have hhigh := digit_ne_slash (b.toNat / 16) (by omega)
          have hlow := digit_ne_slash (b.toNat % 16) (by omega)
          rw [encodeName_cons_of_encoded hb]
          simp [triple, ih, hhigh.symm, hlow.symm]
      | false =>
          rw [encodeName_cons_of_plain hb]
          simp [ih, (ne_slash_of_plain hb).symm]

end Percent

/-! ## Texts of paths -/

theorem text_rooted_cons (s : List Char) (ss : List (List Char)) :
    (UriPath.rooted (s :: ss)).text = '/' :: (s ++ (UriPath.rooted ss).text) :=
  rfl

/-- A segment goes as far as the next slash. -/
theorem takeWhile_segment {s : List Char} (hs : '/' ∉ s) (ss : List (List Char)) :
    (s ++ (UriPath.rooted ss).text).takeWhile (· != '/') = s := by
  have hall : ∀ c ∈ s, (c != '/') = true := by
    intro c hc
    have hne : c ≠ '/' := fun heq => hs (heq ▸ hc)
    simpa using hne
  rw [List.takeWhile_append_of_pos hall]
  cases ss with
  | nil => exact List.append_nil s
  | cons t ts => rw [text_rooted_cons, List.takeWhile_cons_of_neg (by simp), List.append_nil]

/-- The slashes separate the segments. -/
theorem text_rooted_injective {ss ts : List (List Char)} (hss : ∀ s ∈ ss, '/' ∉ s)
    (hts : ∀ t ∈ ts, '/' ∉ t) (h : (UriPath.rooted ss).text = (UriPath.rooted ts).text) :
    ss = ts := by
  induction ss generalizing ts with
  | nil =>
      cases ts with
      | nil => rfl
      | cons t ts => exact absurd h (by simp [UriPath.text])
  | cons s ss ih =>
      cases ts with
      | nil => exact absurd h (by simp [UriPath.text])
      | cons t ts =>
          have hs := List.forall_mem_cons.mp hss
          have ht := List.forall_mem_cons.mp hts
          rw [text_rooted_cons, text_rooted_cons] at h
          have hbehind := (List.cons.inj h).2
          have hsegment := congrArg (List.takeWhile (· != '/')) hbehind
          rw [takeWhile_segment hs.1, takeWhile_segment ht.1] at hsegment
          subst hsegment
          rw [ih hs.2 ht.2 (List.append_cancel_left hbehind)]

/-! ## Names of absolute paths -/

namespace Path

/-- The names of an absolute path tell its components. -/
theorem components_eq_of_fileSegments {p q : Path} (hp : p.isAbsolute = true)
    (hq : q.isAbsolute = true) (h : Uri.fileSegments p = Uri.fileSegments q) :
    p.components = q.components := by
  obtain ⟨ps, hps, hpseg⟩ := components_of_isAbsolute hp
  obtain ⟨qs, hqs, hqseg⟩ := components_of_isAbsolute hq
  unfold Uri.fileSegments at h
  rw [hps, hqs] at h
  have hsame := congrArg (List.filterMap Component.ofSegment?) h
  simp only [List.drop_one, List.tail_cons] at hsame
  rw [filterMap_ofSegment? hpseg, filterMap_ofSegment? hqseg] at hsame
  rw [hps, hqs, hsame]

end Path

/-! ## The URI of a file -/

namespace Uri

/-- The segments in the URI of a file: its names, or an empty one for the root. -/
def encodedSegments : List Bytes → List (List Char)
  | [] => [[]]
  | names => names.map Percent.encodeName

theorem slash_not_mem_encodedSegments (names : List Bytes) :
    ∀ s ∈ encodedSegments names, '/' ∉ s := by
  cases names with
  | nil => simp [encodedSegments]
  | cons n ns =>
      intro s hs
      obtain ⟨name, -, rfl⟩ := List.mem_map.mp hs
      exact Percent.slash_not_mem_encodeName name

/-- Names that are not empty are told by their segments. -/
theorem encodedSegments_injective {ms ns : List Bytes} (hms : ∀ m ∈ ms, m ≠ [])
    (hns : ∀ n ∈ ns, n ≠ []) (h : encodedSegments ms = encodedSegments ns) : ms = ns := by
  -- the root has one empty segment, which no name has
  have hroot : ∀ n : Bytes, ∀ ns, (∀ m ∈ n :: ns, m ≠ []) → encodedSegments (n :: ns) ≠ [[]] := by
    intro n ns hne heq
    have hn := (List.cons.inj heq).1
    exact hne n (List.mem_cons_self ..) (Percent.encodeName_injective (hn.trans rfl))
  cases ms with
  | nil =>
      cases ns with
      | nil => rfl
      | cons n ns => exact absurd h.symm (hroot n ns hns)
  | cons m ms =>
      cases ns with
      | nil => exact absurd h (hroot m ms hms)
      | cons n ns => exact List.map_injective_iff.mpr Percent.encodeName_injective h

theorem ofFile?_of_isAbsolute {p : Path} (h : p.isAbsolute = true) :
    ofFile? p =
      some (String.ofList ("file://".toList ++
        (UriPath.rooted (encodedSegments (fileSegments p))).text)) := by
  unfold ofFile?
  rw [if_pos h]
  cases fileSegments p with
  | nil => rfl
  | cons n ns =>
      simp only [encodedSegments, UriPath.text, List.flatMap_map]
      rfl

theorem ofFile?_of_not_isAbsolute {p : Path} (h : p.isAbsolute = false) : ofFile? p = none := by
  unfold ofFile?
  rw [h]
  rfl

/-- The file that a URI names is absolute, unless the path of the URI is empty. -/
theorem isAbsolute_of_file? {u : Uri} {p : Path} (h : u.file? = some p) :
    p.isAbsolute = true ∨ p = .empty := by
  unfold file? at h
  split at h
  · cases h
  · rename_i segments _
    split at h
    · cases segments with
      | nil =>
          refine .inr ?_
          rw [← Option.some.inj h]
          rfl
      | cons s ss =>
          refine .inl ?_
          rw [← Option.some.inj h, List.flatMap_cons, List.cons_append]
          unfold Path.isAbsolute
          split <;> rfl
    · cases h

theorem ne_nil_of_mem_fileSegments {p : Path} (h : p.isAbsolute = true) :
    ∀ n ∈ fileSegments p, n ≠ [] := by
  obtain ⟨segments, hcomponents, hsegments⟩ := Path.components_of_isAbsolute h
  intro n hn
  rw [fileSegments, hcomponents] at hn
  obtain ⟨c, hc, rfl⟩ := List.mem_map.mp hn
  exact (hsegments c hc).bytes_ne_nil

/-- **An absolute path shares its URI with its other spellings, and with nothing else.** -/
theorem ofFile?_eq_iff {p q : Path} (hp : p.isAbsolute = true) :
    ofFile? q = ofFile? p ↔ q.key = p.key := by
  constructor
  · intro h
    cases hq : q.isAbsolute with
    | false =>
        rw [ofFile?_of_not_isAbsolute hq, ofFile?_of_isAbsolute hp] at h
        exact absurd h (by simp)
    | true =>
        rw [ofFile?_of_isAbsolute hq, ofFile?_of_isAbsolute hp, Option.some.injEq,
          String.ofList_inj] at h
        have htext := text_rooted_injective (slash_not_mem_encodedSegments _)
          (slash_not_mem_encodedSegments _) (List.append_cancel_left h)
        have hnames := encodedSegments_injective (ne_nil_of_mem_fileSegments hq)
          (ne_nil_of_mem_fileSegments hp) htext
        exact Path.key_eq_iff.mpr (Path.components_eq_of_fileSegments hq hp hnames)
  · intro h
    have hcomponents := Path.key_eq_iff.mp h
    obtain ⟨segments, hsegments, -⟩ := Path.components_of_isAbsolute hp
    have hq := Path.isAbsolute_of_components (hcomponents.trans hsegments)
    rw [ofFile?_of_isAbsolute hq, ofFile?_of_isAbsolute hp, fileSegments, hcomponents, fileSegments]

end Uri
end LintRelay
