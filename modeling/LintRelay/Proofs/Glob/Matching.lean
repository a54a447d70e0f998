import LintRelay.Glob.Match
import LintRelay.Path.Basic

/-!
# What a pattern matches

Matching follows every way of reading a sequence at once, and keeps of what is left only one of each
length. `Token.StandsFor` says what a token means without any search: which bytes it stands for. The
search finds exactly that (`matchesAll_iff`): what is left behind tokens is what follows bytes that
they stand for, and two rests of one length are the same since both end the same sequence
(`mem_distinct`).
-/

namespace LintRelay.Glob

/-! ## The meaning of tokens -/

mutual

/-- Whether a token stands for these bytes. -/
def Token.StandsFor : Token → Bytes → Prop
  | .char c, bs => bs = String.utf8EncodeChar c
  | .any, bs => ∃ b, bs = [b]
  | .run, _ => True
  | .leadingDirs, bs => bs = [] ∨ ∃ front, bs = front ++ [slash]
  | .contents, bs => ∃ rest, bs = slash :: rest
  | .betweenDirs, bs => bs = [slash] ∨ ∃ front, bs = slash :: (front ++ [slash])
  | .byteClass negated ranges, bs => ∃ b, bs = [b] ∧ inByteClass negated ranges b
  | .oneOf alternatives, bs =>
    if allVoid alternatives then bs = [] else AnyStandsFor alternatives bs

/-- Whether tokens in a row stand for these bytes. -/
def AllStandFor : List Token → Bytes → Prop
  | [], bs => bs = []
  | t :: ts, bs => ∃ front back, t.StandsFor front ∧ AllStandFor ts back ∧ front ++ back = bs

/-- Whether one of the alternatives that say something stands for these bytes. -/
def AnyStandsFor : List (List Token) → Bytes → Prop
  | [], _ => False
  | ts :: tss, bs => (areVoid ts = false ∧ AllStandFor ts bs) ∨ AnyStandsFor tss bs

end

/-! ## What the search finds -/

theorem mem_ends {r bs : Bytes} : r ∈ ends bs ↔ ∃ front, front ++ r = bs := by
  induction bs with
  | nil => simp [ends]
  | cons b bs ih =>
      rw [ends, List.mem_cons, ih]
      constructor
      · rintro (rfl | ⟨front, rfl⟩)
        · exact ⟨[], rfl⟩
        · exact ⟨b :: front, rfl⟩
      · rintro ⟨_ | ⟨c, front⟩, h⟩
        · exact .inl h
        · exact .inr ⟨front, (List.cons.inj h).2⟩

theorem mem_endsAfterSlash {r bs : Bytes} :
    r ∈ endsAfterSlash bs ↔ ∃ front, front ++ slash :: r = bs := by
  induction bs with
  | nil => simp [endsAfterSlash]
  | cons b bs ih =>
      have later : (∃ front, front ++ slash :: r = b :: bs) ↔
          (b = slash ∧ r = bs) ∨ ∃ front, front ++ slash :: r = bs := by
        constructor
        · rintro ⟨_ | ⟨c, front⟩, h⟩
          · obtain ⟨rfl, rfl⟩ := List.cons.inj h
            exact .inl ⟨rfl, rfl⟩
          · exact .inr ⟨front, (List.cons.inj h).2⟩
        · rintro (⟨rfl, rfl⟩ | ⟨front, rfl⟩)
          · exact ⟨[], rfl⟩
          · exact ⟨b :: front, rfl⟩
      rw [later, ← ih, endsAfterSlash]
      by_cases hb : b = slash
      · simp [hb, slash]
      · have hne : (b == 0x2F) = false := by simpa [slash] using hb
        simp [hb, hne]

theorem mem_restAfter {front r bs : Bytes} : r ∈ restAfter front bs ↔ front ++ r = bs := by
  unfold restAfter
  split
  · rename_i hfront
    obtain ⟨back, rfl⟩ := List.isPrefixOf_iff_prefix.mp hfront
    rw [List.drop_left, List.mem_singleton, List.append_cancel_left_eq]
  · rename_i hfront
    refine ⟨fun h => absurd h List.not_mem_nil, fun h => absurd ?_ hfront⟩
    exact List.isPrefixOf_iff_prefix.mpr ⟨r, h⟩

/-- Among ends of one sequence nothing is lost by keeping one of each length. -/
theorem mem_distinct {bs : Bytes} {rests : List Bytes} (h : ∀ r ∈ rests, r <:+ bs) {r : Bytes} :
    r ∈ distinct rests ↔ r ∈ rests := by
  induction rests generalizing r with
  | nil => rfl
  | cons s rests ih =>
      obtain ⟨hs, hrests⟩ := List.forall_mem_cons.mp h
      rw [distinct, List.foldr_cons, ← distinct]
      split
      · rename_i hany
        obtain ⟨t, ht, hlength⟩ := List.any_eq_true.mp hany
        have ht : t ∈ rests := (ih hrests).mp ht
        -- Both end `bs` and are equally long, so the one left out is the one kept.
        have hst : s = t :=
          (List.suffix_of_suffix_length_le hs (hrests t ht)
            (Nat.le_of_eq (eq_of_beq hlength).symm)).eq_of_length (eq_of_beq hlength).symm
        rw [ih hrests, List.mem_cons, hst]
        exact ⟨.inr, fun hr => hr.elim (fun heq => heq ▸ ht) id⟩
      · rw [List.mem_cons, List.mem_cons, ih hrests]

/-- What is left behind bytes in front of `bs` ends `bs`. -/
theorem suffix_of_front {r bs : Bytes} {P : Bytes → Prop} (h : ∃ front, P front ∧ front ++ r = bs) :
    r <:+ bs := by
  obtain ⟨front, -, hfront⟩ := h
  exact ⟨front, hfront⟩

/-- What is left behind one byte. -/
theorem mem_byte_rests {r bs : Bytes} {P : UInt8 → Prop} :
    (∃ front, (∃ b, front = [b] ∧ P b) ∧ front ++ r = bs) ↔ ∃ b, P b ∧ bs = b :: r := by
  constructor
  · rintro ⟨_, ⟨b, rfl, hb⟩, rfl⟩
    exact ⟨b, hb, rfl⟩
  · rintro ⟨b, hb, rfl⟩
    exact ⟨[b], ⟨b, rfl, hb⟩, rfl⟩

/-- What is left behind leading directories. -/
theorem mem_leadingDirs_rests {r bs : Bytes} :
    r ∈ bs :: endsAfterSlash bs ↔
      ∃ front, (front = [] ∨ ∃ dirs, front = dirs ++ [slash]) ∧ front ++ r = bs := by
  rw [List.mem_cons, mem_endsAfterSlash]
  constructor
  · rintro (rfl | ⟨dirs, rfl⟩)
    · exact ⟨[], .inl rfl, rfl⟩
    · exact ⟨dirs ++ [slash], .inr ⟨dirs, rfl⟩, by simp⟩
  · rintro ⟨_, rfl | ⟨dirs, rfl⟩, rfl⟩
    · exact .inl rfl
    · exact .inr ⟨dirs, by simp⟩

mutual

/-- Behind a token is left what follows bytes that it stands for. -/
theorem Token.mem_rests {r bs : Bytes} : ∀ t : Token,
    r ∈ t.rests bs ↔ ∃ front, t.StandsFor front ∧ front ++ r = bs
  | .char c => by
      simp only [Token.rests, Token.StandsFor, mem_restAfter, exists_eq_left]
  | .any => by
      have byte := @mem_byte_rests r bs fun _ => True
      simp only [and_true, true_and] at byte
      simp only [Token.StandsFor, byte]
      cases bs <;> simp [Token.rests, eq_comm]
  | .run => by
      simp only [Token.rests, Token.StandsFor, mem_ends, true_and]
  | .leadingDirs => by
      simp only [Token.rests, Token.StandsFor, mem_leadingDirs_rests]
  | .contents => by
      simp only [Token.rests, Token.StandsFor, List.mem_flatMap, mem_restAfter, mem_ends]
      constructor
      · rintro ⟨_, rfl, front, rfl⟩
        exact ⟨slash :: front, ⟨front, rfl⟩, rfl⟩
      · rintro ⟨_, ⟨front, rfl⟩, rfl⟩
        exact ⟨front ++ r, rfl, front, rfl⟩
  | .betweenDirs => by
      simp only [Token.rests, Token.StandsFor, List.mem_flatMap, mem_restAfter,
        mem_leadingDirs_rests]
      constructor
      · rintro ⟨_, rfl, front, hfront, rfl⟩
        refine ⟨slash :: front, ?_, rfl⟩
        rcases hfront with rfl | ⟨dirs, rfl⟩
        · exact .inl rfl
        · exact .inr ⟨dirs, rfl⟩
      · rintro ⟨_, rfl | ⟨dirs, rfl⟩, rfl⟩
        · exact ⟨r, rfl, [], .inl rfl, rfl⟩
        · exact ⟨dirs ++ [slash] ++ r, rfl, dirs ++ [slash], .inr ⟨dirs, rfl⟩, rfl⟩
  | .byteClass negated ranges => by
      simp only [Token.StandsFor, mem_byte_rests]
      cases bs with
      | nil => simp [Token.rests]
      | cons b bs =>
          simp only [Token.rests, List.cons.injEq]
          split
          · rename_i hb
            exact ⟨fun h => ⟨b, hb, rfl, (List.mem_singleton.mp h).symm⟩,
              fun ⟨_, _, _, h⟩ => List.mem_singleton.mpr h.symm⟩
          · rename_i hb
            exact ⟨fun h => absurd h List.not_mem_nil, fun ⟨_, hc, h, _⟩ => absurd (h ▸ hc) hb⟩
  | .oneOf alternatives => by
      simp only [Token.rests, Token.StandsFor]
      split
      · rw [List.mem_singleton]
        constructor
        · rintro rfl
          exact ⟨[], rfl, rfl⟩
        · rintro ⟨_, rfl, rfl⟩
          rfl
      · exact mem_restsOfAny alternatives

/-- Behind tokens in a row is left what follows bytes that they stand for. -/
theorem mem_restsOfAll {r bs : Bytes} : ∀ ts : List Token,
    r ∈ restsOfAll ts bs ↔ ∃ front, AllStandFor ts front ∧ front ++ r = bs
  | [] => by simp [restsOfAll, AllStandFor, eq_comm]
  | t :: ts => by
      -- What is kept of each length stands for all of it only among ends of one sequence, so the
      -- rests are seen to be ends before the meaning of the tokens is used.
      have first : ∀ s ∈ t.rests bs, s <:+ bs := fun s hs =>
        suffix_of_front ((Token.mem_rests t).mp hs)
      have all : ∀ s ∈ (distinct (t.rests bs)).flatMap (restsOfAll ts), s <:+ bs := by
        intro s hs
        obtain ⟨u, hu, hs⟩ := List.mem_flatMap.mp hs
        exact (suffix_of_front ((mem_restsOfAll ts).mp hs)).trans
          (first u ((mem_distinct first).mp hu))
      rw [restsOfAll, mem_distinct all, List.mem_flatMap]
      constructor
      · rintro ⟨u, hu, hr⟩
        obtain ⟨front, hfront, rfl⟩ := (Token.mem_rests t).mp ((mem_distinct first).mp hu)
        obtain ⟨back, hback, rfl⟩ := (mem_restsOfAll ts).mp hr
        exact ⟨front ++ back, ⟨front, back, hfront, hback, rfl⟩, by simp⟩
      · rintro ⟨_, ⟨front, back, hfront, hback, rfl⟩, hbs⟩
        rw [List.append_assoc] at hbs
        exact ⟨back ++ r, (mem_distinct first).mpr ((Token.mem_rests t).mpr ⟨front, hfront, hbs⟩),
          (mem_restsOfAll ts).mpr ⟨back, hback, rfl⟩⟩

/-- Behind one of the alternatives is left what follows bytes that it stands for. -/
theorem mem_restsOfAny {r bs : Bytes} : ∀ tss : List (List Token),
    r ∈ restsOfAny tss bs ↔ ∃ front, AnyStandsFor tss front ∧ front ++ r = bs
  | [] => by simp [restsOfAny, AnyStandsFor]
  | ts :: tss => by
      rw [restsOfAny, List.mem_append, mem_restsOfAny tss]
      cases hvoid : areVoid ts with
      | true => simp [AnyStandsFor, hvoid]
      | false => simp [AnyStandsFor, hvoid, mem_restsOfAll ts, or_and_right, exists_or]

end

/-- A pattern matches the bytes that its tokens stand for. -/
theorem matchesAll_iff {ts : List Token} {bs : Bytes} :
    matchesAll ts bs = true ↔ ts = [.leadingDirs] ∨ AllStandFor ts bs := by
  have search : (restsOfAll ts bs).any (·.isEmpty) = true ↔ AllStandFor ts bs := by
    simp only [List.any_eq_true, List.isEmpty_iff, mem_restsOfAll]
    constructor
    · rintro ⟨_, ⟨front, hfront, rfl⟩, rfl⟩
      rwa [List.append_nil]
    · intro h
      exact ⟨[], ⟨bs, h, List.append_nil bs⟩, rfl⟩
  unfold matchesAll
  split
  · simp
  · rename_i hdirs
    rw [search, or_iff_right hdirs]

end LintRelay.Glob
