import LatencyHarness.Proofs.Texts

/-! The numerals of a number, and that reading takes these and nothing else.

A numeral is the digits of the number, perhaps with zeros before them and a plus sign before those.
What is read up to a limit are just the numerals of the numbers within the limit. -/
namespace LatencyHarness.Text

variable {limit acc n m d : Nat} {overflow : NumeralError} {c : Char} {l s : List Char}

/-- A text is the digits of a number, perhaps behind zeros. -/
def IsUnsignedOf (n : Nat) (l : List Char) : Prop :=
  ∃ zeros, l = List.replicate zeros '0' ++ numeral n

/-- A text is a numeral of a number: its digits, perhaps behind zeros, and all that perhaps behind a
plus sign. -/
def IsNumeralOf (n : Nat) (s : List Char) : Prop :=
  IsUnsignedOf n s ∨ ∃ l, s = '+' :: l ∧ IsUnsignedOf n l

/-! ### Digits -/

theorem digit?_eq_some : digit? c = some d ↔ d < 10 ∧ c = Nat.digitChar d := by
  constructor
  · intro h
    unfold digit? at h
    split at h
    · next hrange =>
      obtain rfl := Option.some.inj h
      obtain ⟨hlow, hhigh⟩ : 48 ≤ c.toNat ∧ c.toNat ≤ 57 := hrange
      have hchars : ∀ k < 58, 48 ≤ k → Nat.digitChar (k - 48) = Char.ofNat k := by decide
      refine ⟨by change c.toNat - 48 < 10; omega, ?_⟩
      change c = Nat.digitChar (c.toNat - 48)
      rw [hchars c.toNat (by omega) hlow, Char.ofNat_toNat]
    · exact absurd h nofun
  · rintro ⟨hd, rfl⟩
    exact digit?_digitChar hd

/-- Of a number that is not zero, another digit goes behind the others. -/
theorem numeral_concat (hacc : 0 < acc) (hd : d < 10) :
    numeral (acc * 10 + d) = numeral acc ++ [Nat.digitChar d] := by
  have hdiv : (acc * 10 + d) / 10 = acc := by omega
  have hmod : (acc * 10 + d) % 10 = d := by omega
  rw [numeral, Nat.toDigits_of_base_le (by decide) (by omega), hdiv, hmod, numeral]

theorem readDigits_cons (h : readDigits limit overflow acc (c :: l) = .ok n) :
    ∃ d, digit? c = some d ∧ acc * 10 + d ≤ limit ∧
      readDigits limit overflow (acc * 10 + d) l = .ok n := by
  rw [readDigits] at h
  cases hc : digit? c with
  | none =>
    simp only [hc, reduceCtorEq] at h
  | some d =>
    simp only [hc] at h
    split at h
    · cases h
    · next hsmall => exact ⟨d, rfl, Nat.not_lt.mp hsmall, h⟩

theorem le_of_readDigits (hacc : acc ≤ limit) (h : readDigits limit overflow acc l = .ok n) :
    n ≤ limit := by
  induction l generalizing acc with
  | nil =>
    obtain rfl := Except.ok.inj h
    exact hacc
  | cons c l ih =>
    obtain ⟨d, -, hsmall, hrest⟩ := readDigits_cons h
    exact ih hsmall hrest

/-- Once a number other than zero has been read, what follows are its further digits. -/
theorem numeral_of_readDigits (hacc : 0 < acc) (h : readDigits limit overflow acc l = .ok n) :
    numeral n = numeral acc ++ l := by
  induction l generalizing acc with
  | nil =>
    obtain rfl := Except.ok.inj h
    rw [List.append_nil]
  | cons c l ih =>
    obtain ⟨d, hdigit, -, hrest⟩ := readDigits_cons h
    obtain ⟨hd, rfl⟩ := digit?_eq_some.mp hdigit
    rw [ih (by omega) hrest, numeral_concat hacc hd, List.append_assoc, List.singleton_append]

theorem isUnsignedOf_of_readDigits (hne : l ≠ [])
    (h : readDigits limit overflow 0 l = .ok n) : IsUnsignedOf n l := by
  induction l with
  | nil => exact absurd rfl hne
  | cons c l ih =>
    obtain ⟨d, hdigit, -, hrest⟩ := readDigits_cons h
    obtain ⟨hd, rfl⟩ := digit?_eq_some.mp hdigit
    rw [Nat.zero_mul, Nat.zero_add] at hrest
    -- zeros are passed over up to the last character or the first other digit
    by_cases hzero : d = 0
    · subst hzero
      by_cases hnil : l = []
      · subst hnil
        obtain rfl := Except.ok.inj hrest
        exact ⟨0, rfl⟩
      · obtain ⟨zeros, hl⟩ := ih hnil hrest
        exact ⟨zeros + 1, congrArg (List.cons '0') hl⟩
    · refine ⟨0, ?_⟩
      rw [numeral_of_readDigits (Nat.pos_of_ne_zero hzero) hrest, numeral,
        Nat.toDigits_of_lt_base hd]
      rfl

theorem readDigits_eq_ok (hne : l ≠ []) :
    readDigits limit overflow 0 l = .ok n ↔ n ≤ limit ∧ IsUnsignedOf n l := by
  constructor
  · intro h
    exact ⟨le_of_readDigits (Nat.zero_le limit) h, isUnsignedOf_of_readDigits hne h⟩
  · rintro ⟨hn, zeros, rfl⟩
    rw [readDigits_append (readDigits_zeros limit overflow zeros)]
    exact readDigits_numeral overflow hn

/-! ### Numerals -/

theorem IsUnsignedOf.ne_nil (h : IsUnsignedOf n l) : l ≠ [] := by
  obtain ⟨zeros, rfl⟩ := h
  exact List.append_ne_nil_of_right_ne_nil _ Nat.toDigits_ne_nil

theorem IsUnsignedOf.isDigit (h : IsUnsignedOf n l) (hc : c ∈ l) : c.isDigit = true := by
  obtain ⟨zeros, rfl⟩ := h
  rcases List.mem_append.mp hc with hzero | hdigit
  · rw [List.eq_of_mem_replicate hzero]
    rfl
  · exact isDigit_of_mem_numeral hdigit

/-- A plus sign with something behind it is passed over. -/
theorem readNat_plus (hne : l ≠ []) :
    readNat limit ('+' :: l) = readDigits limit .tooLarge 0 l := by
  cases l with
  | nil => exact absurd rfl hne
  | cons c l => rfl

theorem readNat_of_no_plus (hne : s ≠ []) (hplus : s.head? ≠ some '+') :
    readNat limit s = readDigits limit .tooLarge 0 s := by
  unfold readNat
  split
  · exact absurd rfl hne
  · exact absurd rfl hplus
  · exact absurd rfl hplus
  · rfl

theorem not_isNumeralOf_nil : ¬ IsNumeralOf n [] := by
  rintro (h | ⟨l, hl, -⟩)
  · exact h.ne_nil rfl
  · exact absurd hl nofun

theorem IsUnsignedOf.no_plus (h : IsUnsignedOf n s) : s.head? ≠ some '+' := fun hplus =>
  absurd (h.isDigit (List.mem_of_mem_head? hplus)) (by decide)

theorem isNumeralOf_plus : IsNumeralOf n ('+' :: l) ↔ IsUnsignedOf n l := by
  refine ⟨?_, fun h => .inr ⟨l, rfl, h⟩⟩
  rintro (h | ⟨l', hl, h⟩)
  · exact absurd rfl h.no_plus
  · rw [(List.cons.inj hl).2]
    exact h

theorem isNumeralOf_of_no_plus (hplus : s.head? ≠ some '+') :
    IsNumeralOf n s ↔ IsUnsignedOf n s := by
  refine ⟨?_, .inl⟩
  rintro (h | ⟨l, rfl, -⟩)
  · exact h
  · exact absurd rfl hplus

/-- Reading accepts the numerals of the numbers within the limit, and nothing else. -/
theorem readNat_eq_ok : readNat limit s = .ok n ↔ n ≤ limit ∧ IsNumeralOf n s := by
  by_cases hnil : s = []
  · subst hnil
    exact ⟨nofun, fun h => absurd h.2 not_isNumeralOf_nil⟩
  by_cases hplus : s.head? = some '+'
  · obtain ⟨l, rfl⟩ := List.head?_eq_some_iff.mp hplus
    rw [isNumeralOf_plus]
    by_cases hl : l = []
    · subst hl
      exact ⟨nofun, fun h => absurd rfl h.2.ne_nil⟩
    · rw [readNat_plus hl, readDigits_eq_ok hl]
  · rw [readNat_of_no_plus hnil hplus, readDigits_eq_ok hnil, isNumeralOf_of_no_plus hplus]

theorem nat?_eq_some : nat? limit s = some n ↔ n ≤ limit ∧ IsNumeralOf n s := by
  rw [← readNat_eq_ok, nat?]
  cases readNat limit s with
  | ok m => simp [Except.toOption]
  | error e => simp [Except.toOption]

/-- A text is a numeral of one number at most. -/
theorem IsNumeralOf.unique (hm : IsNumeralOf m s) (hn : IsNumeralOf n s) : m = n := by
  have hreadm := nat?_eq_some.mpr ⟨Nat.le_max_left m n, hm⟩
  have hreadn := nat?_eq_some.mpr ⟨Nat.le_max_right m n, hn⟩
  exact Option.some.inj (hreadm.symm.trans hreadn)

/-- No numeral begins with a minus sign. -/
theorem IsNumeralOf.no_minus (h : IsNumeralOf n s) : s.head? ≠ some '-' := by
  rcases h with hunsigned | ⟨l, rfl, -⟩
  · exact fun hminus => absurd (hunsigned.isDigit (List.mem_of_mem_head? hminus)) (by decide)
  · exact fun hminus => absurd (Option.some.inj hminus) (by decide)

/-- Signed reading accepts numerals too. -/
theorem readInt64_of_isNumeralOf (h : IsNumeralOf n s) (hn : n ≤ maxI64) : readInt64 s = .ok n := by
  have hdigits {l : List Char} (hl : IsUnsignedOf n l) :
      (readDigits maxI64 .tooLarge 0 l).map (fun m => (m : Int)) = .ok n := by
    rw [(readDigits_eq_ok hl.ne_nil).mpr ⟨hn, hl⟩]
    rfl
  have hminus := h.no_minus
  unfold readInt64
  split
  · exact absurd h not_isNumeralOf_nil
  · exact absurd rfl (isNumeralOf_plus.mp h).ne_nil
  · exact absurd rfl hminus
  · exact absurd rfl hminus
  · exact hdigits (isNumeralOf_plus.mp h)
  · next hplus =>
    refine hdigits ((isNumeralOf_of_no_plus fun hhead => ?_).mp h)
    obtain ⟨l, hl⟩ := List.head?_eq_some_iff.mp hhead
    exact hplus l hl

theorem isNumeralOf_numeral (n : Nat) : IsNumeralOf n (numeral n) := .inl ⟨0, rfl⟩

end LatencyHarness.Text
