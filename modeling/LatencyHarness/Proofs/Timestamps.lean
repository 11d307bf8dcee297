import LatencyHarness.Proofs.Texts
import LatencyHarness.Timestamp

/-! Points in time are read back as they were written.

Each part of a written timestamp has a fixed number of digits, so reading takes just these, however
lenient it is otherwise. -/
namespace LatencyHarness.Timestamp

open Text

/-! ### Numbers with zeros in front -/

section Padded

variable {width n : Nat}

theorem length_padded (h : (numeral n).length ≤ width) : (padded width n).length = width := by
  unfold padded
  rw [List.length_append, List.length_replicate]
  omega

theorem isDigit_of_mem_padded {c : Char} (hc : c ∈ padded width n) : c.isDigit = true := by
  rcases List.mem_append.mp hc with hzero | hdigit
  · rw [List.eq_of_mem_replicate hzero]
    decide
  · exact isDigit_of_mem_numeral hdigit

theorem padded_ne_nil : padded width n ≠ [] :=
  List.append_ne_nil_of_right_ne_nil _ Nat.toDigits_ne_nil

theorem nat?_padded {limit : Nat} (h : n ≤ limit) : nat? limit (padded width n) = some n := by
  refine nat?_of_digits padded_ne_nil (fun _ hc => isDigit_of_mem_padded hc) ?_
  unfold padded
  rw [readDigits_append (readDigits_zeros limit .tooLarge _)]
  exact readDigits_numeral .tooLarge h

/-- Digits begin with a digit. -/
theorem padded_eq_cons (width n : Nat) : ∃ c r, padded width n = c :: r ∧ c.isDigit = true := by
  cases hpadded : padded width n with
  | nil => exact absurd hpadded padded_ne_nil
  | cons c r =>
    exact ⟨c, r, rfl, isDigit_of_mem_padded (hpadded ▸ List.mem_cons_self)⟩

theorem trimStart_padded (s : List Char) :
    trimStart (padded width n ++ s) = padded width n ++ s := by
  obtain ⟨c, r, hpadded, hdigit⟩ := padded_eq_cons width n
  rw [hpadded]
  exact List.dropWhile_cons_of_neg (by simp [isBlank_of_isDigit hdigit])

/-! ### The parts of a timestamp -/

variable {s : List Char}

theorem number?_padded (h : (numeral n).length ≤ width) (hlimit : n ≤ maxI64) :
    number? width (padded width n ++ s) = some (n, s) := by
  have hlength := length_padded h
  have hdigits : ((padded width n ++ s).take width).takeWhile (·.isDigit) = padded width n := by
    rw [List.take_left' hlength]
    exact List.takeWhile_eq_self_iff.mpr fun _ hc => isDigit_of_mem_padded hc
  unfold number?
  simp only [trimStart_padded, hdigits, List.isEmpty_eq_false_iff.mpr padded_ne_nil,
    nat?_padded hlimit, List.drop_left, Option.map_some, Bool.false_eq_true, if_false]

theorem mark?_cons {c : Char} (h : isBlank c = false) (s : List Char) :
    mark? c (c :: s) = some s := by
  have htrim : trimStart (c :: s) = c :: s := List.dropWhile_cons_of_neg (by simp [h])
  unfold mark?
  rw [htrim]
  exact if_pos rfl

theorem year?_yearText {year : Int} (h : 0 ≤ year ∧ year ≤ 9999) :
    year? (yearText year ++ s) = some (year, s) := by
  have htext : yearText year = padded 4 year.toNat := by
    unfold yearText
    rw [if_pos h]
  have hnumber : number? 4 (padded 4 year.toNat ++ s) = some (year.toNat, s) :=
    number?_padded (length_numeral_le (by omega : _ < 10000) (by decide) rfl)
      (by unfold maxI64; omega)
  obtain ⟨c, r, hpadded, hdigit⟩ := padded_eq_cons 4 year.toNat
  have hsign (x : Char) (hx : x.isDigit = false) : c ≠ x := by
    rintro rfl
    exact absurd (hdigit.symm.trans hx) nofun
  have hyear : ((year.toNat : Nat) : Int) = year := Int.toNat_of_nonneg h.1
  unfold year?
  rw [htext, trimStart_padded]
  -- without a sign the year has at most four digits
  split
  · next heq =>
    rw [hpadded] at heq
    exact absurd (List.cons.inj heq).1 (hsign '-' rfl)
  · next heq =>
    rw [hpadded] at heq
    exact absurd (List.cons.inj heq).1 (hsign '+' rfl)
  · rw [hnumber, Option.map_some]
    exact congrArg (fun y => some (y, s)) hyear

theorem fraction?_padded {scale : Nat} (hnine : width ≤ 9) (hscale : Nat.pow 10 (9 - width) = scale)
    (h : (numeral n).length ≤ width) (hlimit : n ≤ maxU64) :
    fraction? ('.' :: (padded width n ++ 'Z' :: s)) = some (n * scale, 'Z' :: s) := by
  have hlength := length_padded h
  have hdigits : (padded width n ++ 'Z' :: s).takeWhile (·.isDigit) = padded width n := by
    rw [List.takeWhile_append_of_pos fun _ hc => isDigit_of_mem_padded hc]
    exact List.append_nil _
  have hkept : (padded width n).take 9 = padded width n :=
    List.take_of_length_le (hlength.trans_le hnine)
  unfold fraction?
  simp only [hdigits, hkept, hlength, hscale, List.isEmpty_eq_false_iff.mpr padded_ne_nil,
    nat?_padded hlimit, Option.map_some, Bool.false_eq_true, if_false, List.drop_left' hlength]

/-- The decimals that are left out are zeros. -/
theorem fraction?_fractionText {nano : Nat} (h : nano < nanosPerSecond) :
    fraction? (fractionText nano ++ 'Z' :: s) = some (nano, 'Z' :: s) := by
  unfold nanosPerSecond at h
  unfold fractionText
  -- one case for each number of decimals: none, three, six, nine
  split
  · next hzero =>
    rw [hzero]
    rfl
  · split
    · next hmillis =>
      have hwhole : nano / 1000000 * 1000000 = nano :=
        Nat.div_mul_cancel (Nat.dvd_of_mod_eq_zero hmillis)
      have hread := fraction?_padded (s := s) (by decide) (rfl : Nat.pow 10 (9 - 3) = 1000000)
        (length_numeral_le (by omega : nano / 1000000 < 1000) (by decide) rfl)
        (by unfold maxU64; omega)
      rwa [hwhole] at hread
    · split
      · next hmicros =>
        have hwhole : nano / 1000 * 1000 = nano :=
          Nat.div_mul_cancel (Nat.dvd_of_mod_eq_zero hmicros)
        have hread := fraction?_padded (s := s) (by decide) (rfl : Nat.pow 10 (9 - 6) = 1000)
          (length_numeral_le (by omega : nano / 1000 < 1000000) (by decide) rfl)
          (by unfold maxU64; omega)
        rwa [hwhole] at hread
      · have hread := fraction?_padded (s := s) (by decide) (rfl : Nat.pow 10 (9 - 9) = 1)
          (length_numeral_le (by omega : nano < 1000000000) (by decide) rfl) (by unfold maxU64; omega)
        rwa [Nat.mul_one] at hread

end Padded

/-! ### Whole timestamps -/

/-- A timestamp in a year of four digits that is in no leap second. -/
structure IsOrdinary (t : Timestamp) : Prop where
  year : 0 ≤ t.date.year ∧ t.date.year ≤ 9999
  date : t.date.isValid = true
  second : t.second < secondsPerDay
  nano : t.nano < nanosPerSecond

/-- A timestamp at the offset zero is its own. -/
theorem ofLocal?_zero {t : Timestamp} (hdate : t.date.isValid = true)
    (hsecond : t.second < secondsPerDay) : ofLocal? t.date t.second t.nano 0 = some t := by
  have hfirst : ¬ (t.second : Int) - 0 < 0 := by omega
  have hlast : (t.second : Int) - 0 < secondsPerDay := by omega
  have hsame : ((t.second : Int) - 0).toNat = t.second := by omega
  unfold ofLocal?
  simp only [if_neg hfirst, if_pos hlast, hsame, hdate, Bool.and_self, if_true]

/-- A timestamp is read back from its text. -/
theorem read?_write {t : Timestamp} (h : t.IsOrdinary) : read? t.write = some t := by
  have hdate := h.date
  simp only [Date.isValid, Bool.and_eq_true, decide_eq_true_eq] at hdate
  obtain ⟨⟨⟨-, hmonth⟩, -⟩, hday⟩ := hdate
  have hsecond : t.second < 86400 := h.second
  have hwrite : t.write = yearText t.date.year ++ '-' :: (padded 2 t.date.month ++ '-' ::
      (padded 2 t.date.day ++ 'T' :: (padded 2 (t.second / 3600) ++ ':' ::
        (padded 2 (t.second / 60 % 60) ++ ':' :: (padded 2 (t.second % 60) ++
          (fractionText t.nano ++ ['Z'])))))) := by
    simp [write, Nat.div_eq_of_lt h.nano, Nat.mod_eq_of_lt h.nano]
  have htwo {n : Nat} (hn : n < 100) (s : List Char) :
      number? 2 (padded 2 n ++ s) = some (n, s) :=
    number?_padded (length_numeral_le hn (by decide) rfl) (by unfold maxI64; omega)
  have hdays : t.date.day < 100 := by
    refine hday.trans_lt ?_
    unfold Date.daysIn
    split
    · split <;> decide
    · split <;> decide
  -- the text is read part by part, each of which leaves the rest untouched
  have hnext {α β : Type} {part : Option α} {a : α} {k : α → Option β} (hpart : part = some a) :
      (part >>= k) = k a := by
    rw [hpart]
    rfl
  have hmiddle : 'T' = 't' ∨ 'T' = 'T' ∨ 'T' = ' ' := .inr (.inl rfl)
  unfold read?
  rw [hwrite]
  refine (hnext (year?_yearText h.year)).trans ?_
  refine (hnext (mark?_cons (by decide) _)).trans ?_
  refine (hnext (htwo (by omega) _)).trans ?_
  refine (hnext (mark?_cons (by decide) _)).trans ?_
  refine (hnext (htwo hdays _)).trans ?_
  refine (if_pos hmiddle).trans ?_
  refine (hnext rfl).trans ?_
  refine (hnext (htwo (by omega) _)).trans ?_
  refine (hnext (mark?_cons (by decide) _)).trans ?_
  refine (hnext (htwo (by omega) _)).trans ?_
  refine (hnext (mark?_cons (by decide) _)).trans ?_
  refine (hnext (htwo (by omega) _)).trans ?_
  refine (hnext (fraction?_fractionText h.nano)).trans ?_
  refine (hnext (by decide : offset? (trimStart ['Z']) = some (0, []))).trans ?_
  -- what is left are the ranges and the sum of the parts
  have hblank : ¬ ¬ isBlankText [] = true := not_not.mpr rfl
  have hrange : ¬ (24 ≤ t.second / 3600 ∨ 60 ≤ t.second / 60 % 60 ∨ 60 < t.second % 60) := by
    omega
  have hleap : t.second % 60 / 60 = 0 := by omega
  have hsum : t.second / 3600 * 3600 + t.second / 60 % 60 * 60 + (t.second % 60 - 0) =
      t.second := by omega
  dsimp only
  rw [if_neg hblank, if_neg hrange, hleap, hsum, Nat.zero_mul, Nat.add_zero]
  exact ofLocal?_zero h.date h.second

end LatencyHarness.Timestamp
