import LatencyHarness.Text.Blank
import LatencyHarness.Text.Lines
import LatencyHarness.Text.Numeral
import LatencyHarness.Text.Utf8
import Mathlib.Data.List.DropRight
import Mathlib.Data.List.Infix
import Mathlib.Data.List.TakeWhile

/-! Texts that are read back as they were written: characters from their bytes, numbers from their
digits, lines from what stands between the line feeds. -/
namespace LatencyHarness.Text

/-! ### Characters -/

namespace Utf8

variable {a b c d : UInt8} {n : Nat}

theorem toNat_ofNat_lt {n : Nat} (h : n < 256) : (UInt8.ofNat n).toNat = n := by
  rw [UInt8.toNat_ofNat']
  exact Nat.mod_eq_of_lt h

theorem isTail_iff : isTail b = true ↔ 128 ≤ b.toNat ∧ b.toNat ≤ 191 := by
  simp [isTail, UInt8.le_iff_toNat_le]

/-- A character of one byte. -/
theorem head_one (ha : a.toNat = n) (hn : n < 0x80) (rest : Bytes) :
    head a rest = .char (.ofNat n) 1 := by
  have hlt : a < 0x80 := by
    rw [UInt8.lt_iff_toNat_lt, ha]
    exact hn
  rw [head, if_pos hlt, ha]

/-- A character of two bytes. -/
theorem head_two (ha : a.toNat = n / 64 % 32 + 192) (hb : b.toNat = n % 64 + 128)
    (hn : 0x80 ≤ n ∧ n < 0x800) (rest : Bytes) : head a (b :: rest) = .char (.ofNat n) 2 := by
  have hfirst : ¬ a < 0x80 ∧ (0xC2 ≤ a && a ≤ 0xDF) = true := by
    simp only [UInt8.lt_iff_toNat_lt, UInt8.le_iff_toNat_le, ha, Bool.and_eq_true,
      decide_eq_true_eq, UInt8.reduceToNat]
    omega
  have htail : isTail b = true := isTail_iff.mpr (by omega)
  have hvalue : a.toNat % 0x20 * 0x40 + tailBits b = n := by
    rw [tailBits, ha, hb]
    omega
  rw [head, if_neg hfirst.1, if_pos hfirst.2, head2, if_pos htail, hvalue]

/-- A character of three bytes. -/
theorem head_three (ha : a.toNat = n / 4096 % 16 + 224) (hb : b.toNat = n / 64 % 64 + 128)
    (hc : c.toNat = n % 64 + 128) (hn : 0x800 ≤ n ∧ n < 0x10000) (hvalid : n < 0xD800 ∨ 0xDFFF < n)
    (rest : Bytes) : head a (b :: c :: rest) = .char (.ofNat n) 3 := by
  have hfirst : ¬ a < 0x80 ∧ ¬ (0xC2 ≤ a && a ≤ 0xDF) = true ∧ (0xE0 ≤ a && a ≤ 0xEF) = true := by
    simp only [UInt8.lt_iff_toNat_lt, UInt8.le_iff_toNat_le, ha, Bool.and_eq_true,
      decide_eq_true_eq, UInt8.reduceToNat]
    omega
  have hsecond : secondOk a b = true := by
    simp only [secondOk, isTail, beq_iff_eq, ← UInt8.toNat_inj, UInt8.le_iff_toNat_le, ha, hb,
      UInt8.reduceToNat]
    split
    · simp
      omega
    · split
      · simp
        omega
      · rw [if_neg (by omega), if_neg (by omega)]
        simp
        omega
  have htail : isTail c = true := isTail_iff.mpr (by omega)
  have hvalue : a.toNat % 0x10 * 0x1000 + tailBits b * 0x40 + tailBits c = n := by
    rw [tailBits, tailBits, ha, hb, hc]
    omega
  rw [head, if_neg hfirst.1, if_neg hfirst.2.1, if_pos hfirst.2.2, head3, hsecond]
  simp only [Bool.not_true, Bool.false_eq_true, if_false, htail, if_true, hvalue]

/-- A character of four bytes. -/
theorem head_four (ha : a.toNat = n / 262144 % 8 + 240) (hb : b.toNat = n / 4096 % 64 + 128)
    (hc : c.toNat = n / 64 % 64 + 128) (hd : d.toNat = n % 64 + 128)
    (hn : 0x10000 ≤ n ∧ n < 0x110000) (rest : Bytes) :
    head a (b :: c :: d :: rest) = .char (.ofNat n) 4 := by
  have hfirst : ¬ a < 0x80 ∧ ¬ (0xC2 ≤ a && a ≤ 0xDF) = true ∧ ¬ (0xE0 ≤ a && a ≤ 0xEF) = true ∧
      (0xF0 ≤ a && a ≤ 0xF4) = true := by
    simp only [UInt8.lt_iff_toNat_lt, UInt8.le_iff_toNat_le, ha, Bool.and_eq_true,
      decide_eq_true_eq, UInt8.reduceToNat]
    omega
  have hsecond : secondOk a b = true := by
    simp only [secondOk, isTail, beq_iff_eq, ← UInt8.toNat_inj, UInt8.le_iff_toNat_le, ha, hb,
      UInt8.reduceToNat]
    rw [if_neg (by omega), if_neg (by omega)]
    split
    · simp
      omega
    · split
      · simp
        omega
      · simp
        omega
  have htail : isTail c = true ∧ isTail d = true :=
    ⟨isTail_iff.mpr (by omega), isTail_iff.mpr (by omega)⟩
  have hvalue : a.toNat % 0x08 * 0x40000 + tailBits b * 0x1000 + tailBits c * 0x40 + tailBits d =
      n := by
    rw [tailBits, tailBits, tailBits, ha, hb, hc, hd]
    omega
  rw [head, if_neg hfirst.1, if_neg hfirst.2.1, if_neg hfirst.2.2.1, if_pos hfirst.2.2.2, head4,
    hsecond]
  simp only [Bool.not_true, Bool.false_eq_true, if_false, htail.1, htail.2, if_true, hvalue]

/-- The bytes of a character begin with just this character. -/
theorem head_encodeChar (ch : Char) (rest : Bytes) : ∃ a r,
    String.utf8EncodeChar ch = a :: r ∧ head a (r ++ rest) = .char ch (r.length + 1) := by
  have hvalue : Char.ofNat ch.val.toNat = ch := Char.ofNat_toNat ch
  have hvalid : ch.val.toNat < 0xD800 ∨ 0xDFFF < ch.val.toNat ∧ ch.val.toNat < 0x110000 := ch.valid
  rw [String.utf8EncodeChar.eq_1]
  generalize ch.val.toNat = n at hvalue hvalid ⊢
  rw [← hvalue]
  -- one case for each number of bytes
  split
  · exact ⟨_, _, rfl, head_one (toNat_ofNat_lt (by omega)) (by omega) _⟩
  · split
    · exact ⟨_, _, rfl, head_two (toNat_ofNat_lt (by omega)) (toNat_ofNat_lt (by omega))
        (by omega) _⟩
    · split
      · exact ⟨_, _, rfl, head_three (toNat_ofNat_lt (by omega)) (toNat_ofNat_lt (by omega))
          (toNat_ofNat_lt (by omega)) (by omega) (by omega) _⟩
      · exact ⟨_, _, rfl, head_four (toNat_ofNat_lt (by omega)) (toNat_ofNat_lt (by omega))
          (toNat_ofNat_lt (by omega)) (toNat_ofNat_lt (by omega)) (by omega) _⟩

/-- The first character of a text is read off its bytes, with those of the rest behind it. -/
theorem encode_cons (ch : Char) (t : List Char) : ∃ a r, encode (ch :: t) = a :: (r ++ encode t) ∧
    head a (r ++ encode t) = .char ch (r.length + 1) := by
  obtain ⟨a, r, hbytes, hhead⟩ := head_encodeChar ch (encode t)
  refine ⟨a, r, ?_, hhead⟩
  rw [encode, List.flatMap_cons, hbytes]
  rfl

theorem decodeFrom_encode (start : Nat) (acc t : List Char) :
    decodeFrom start acc (encode t) = .ok (acc.reverse ++ t) := by
  induction t generalizing start acc with
  | nil => simp [encode, decodeFrom]
  | cons ch t ih =>
    obtain ⟨a, r, hencode, hhead⟩ := encode_cons ch t
    rw [hencode, decodeFrom, hhead]
    simp only [Nat.add_sub_cancel, List.drop_left]
    rw [ih, List.reverse_cons, List.append_assoc]
    rfl

theorem decodeLossyOnto_encode (acc t : List Char) :
    decodeLossyOnto acc (encode t) = acc.reverse ++ t := by
  induction t generalizing acc with
  | nil => simp [encode, decodeLossyOnto]
  | cons ch t ih =>
    obtain ⟨a, r, hencode, hhead⟩ := encode_cons ch t
    rw [hencode, decodeLossyOnto, hhead]
    simp only [Nat.add_sub_cancel, List.drop_left]
    rw [ih, List.reverse_cons, List.append_assoc]
    rfl

/-- A text is read back from its bytes. -/
theorem decode_encode (t : List Char) : decode (encode t) = .ok t :=
  decodeFrom_encode 0 [] t

theorem decodeLossy_encode (t : List Char) : decodeLossy (encode t) = t :=
  decodeLossyOnto_encode [] t

end Utf8

/-! ### Numbers -/

theorem digit?_digitChar {d : Nat} (hd : d < 10) : digit? (Nat.digitChar d) = some d := by
  revert d
  decide

theorem readDigits_append {limit acc n : Nat} {overflow : NumeralError} {l : List Char}
    (h : readDigits limit overflow acc l = .ok n) (r : List Char) :
    readDigits limit overflow acc (l ++ r) = readDigits limit overflow n r := by
  induction l generalizing acc with
  | nil =>
    obtain rfl := Except.ok.inj h
    rfl
  | cons c l ih =>
    rw [List.cons_append, readDigits]
    rw [readDigits] at h
    cases hc : digit? c with
    | none => simp [hc] at h
    | some d =>
      simp only [hc] at h ⊢
      split at h
      · exact absurd h nofun
      · next hsmall =>
        rw [if_neg hsmall]
        exact ih h

theorem readDigits_zeros (limit : Nat) (overflow : NumeralError) (k : Nat) :
    readDigits limit overflow 0 (List.replicate k '0') = .ok 0 := by
  induction k with
  | zero => rfl
  | succ k ih =>
    rw [List.replicate_succ, readDigits]
    exact (if_neg (Nat.not_lt_zero limit)).trans ih

/-- A number within the limit is read back from its digits. -/
theorem readDigits_numeral {limit n : Nat} (overflow : NumeralError) (h : n ≤ limit) :
    readDigits limit overflow 0 (numeral n) = .ok n := by
  -- the last digit is read after all the others
  induction n using Nat.strong_induction_on with
  | _ n ih =>
    have hlast (d acc : Nat) (hd : d < 10) (hsum : acc * 10 + d = n) :
        readDigits limit overflow acc [Nat.digitChar d] = .ok n := by
      rw [readDigits, digit?_digitChar hd]
      simp only [hsum, if_neg (Nat.not_lt.mpr h), readDigits]
    by_cases hn : n < 10
    · rw [numeral, Nat.toDigits_of_lt_base hn]
      exact hlast n 0 hn (by omega)
    · have hfront := ih (n / 10) (by omega) (by omega)
      rw [numeral, Nat.toDigits_of_base_le (by decide) (by omega)]
      rw [numeral] at hfront
      rw [readDigits_append hfront]
      exact hlast (n % 10) (n / 10) (by omega) (by omega)

theorem isDigit_of_mem_numeral {n : Nat} {c : Char} (hc : c ∈ numeral n) : c.isDigit = true :=
  Nat.isDigit_of_mem_toDigits (b := 10) (n := n) (by decide) (by decide) hc

/-- A number below a power of ten has no more digits than the exponent. -/
theorem length_numeral_le {n k bound : Nat} (h : n < bound) (hk : 0 < k)
    (hbound : Nat.pow 10 k = bound) : (numeral n).length ≤ k :=
  (Nat.length_toDigits_le_iff (by decide) hk).mpr (h.trans_eq hbound.symm)

/-- Digits are read as they stand, for none of them is a sign. -/
theorem nat?_of_digits {limit n : Nat} {l : List Char} (hne : l ≠ [])
    (hdigits : ∀ c ∈ l, c.isDigit = true) (hread : readDigits limit .tooLarge 0 l = .ok n) :
    nat? limit l = some n := by
  unfold nat?
  cases l with
  | nil => exact absurd rfl hne
  | cons c r =>
    have hdigit : c.isDigit = true := hdigits c List.mem_cons_self
    have hplus : c ≠ '+' := by
      rintro rfl
      exact absurd hdigit (by decide)
    have hnat : readNat limit (c :: r) = readDigits limit .tooLarge 0 (c :: r) := by
      unfold readNat
      split
      · next heq => exact absurd heq nofun
      · next heq => exact absurd (List.cons.inj heq).1 hplus
      · next heq => exact absurd (List.cons.inj heq).1 hplus
      · rfl
    rw [hnat, hread]
    rfl

theorem nat?_numeral {limit n : Nat} (h : n ≤ limit) : nat? limit (numeral n) = some n :=
  nat?_of_digits Nat.toDigits_ne_nil (fun _ hc => isDigit_of_mem_numeral hc)
    (readDigits_numeral .tooLarge h)

/-! ### Blanks -/

theorem isBlank_of_isDigit {c : Char} (hc : c.isDigit = true) : isBlank c = false := by
  simp only [Char.isDigit, Bool.and_eq_true, decide_eq_true_eq, ge_iff_le, UInt32.le_iff_toNat_le]
    at hc
  obtain ⟨hlow, hhigh⟩ : 48 ≤ c.toNat ∧ c.toNat ≤ 57 := hc
  simp only [isBlank, Bool.or_eq_false_iff, Bool.and_eq_false_iff, decide_eq_false_iff_not,
    beq_eq_false_iff_ne]
  omega

theorem trim_isPart (l : List Char) : trim l <:+: l := by
  have hend : trim l <+: trimStart l := by
    unfold trim trimEnd
    rw [← List.reverse_suffix, List.reverse_reverse]
    exact List.dropWhile_suffix _
  exact hend.isInfix.trans (List.dropWhile_suffix _).isInfix

theorem mem_dropWhile_isBlank {l : List Char} {c : Char} (hmem : c ∈ l) (hc : isBlank c = false) :
    c ∈ l.dropWhile isBlank := by
  rw [← List.takeWhile_append_dropWhile (p := isBlank) (l := l)] at hmem
  refine (List.mem_append.mp hmem).resolve_left fun hblank => ?_
  have hyes : isBlank c = true := List.mem_takeWhile_imp hblank
  exact Bool.noConfusion (hyes.symm.trans hc)

/-- Only blanks are lost by trimming. -/
theorem mem_trim {l : List Char} {c : Char} (hmem : c ∈ l) (hc : isBlank c = false) :
    c ∈ trim l := by
  have hstart : c ∈ trimStart l := mem_dropWhile_isBlank hmem hc
  exact List.mem_reverse.mpr (mem_dropWhile_isBlank (List.mem_reverse.mpr hstart) hc)

theorem trim_of_forall {l : List Char} (h : ∀ c ∈ l, isBlank c = false) : trim l = l := by
  have hdrop {l : List Char} (h : ∀ c ∈ l, isBlank c = false) : l.dropWhile isBlank = l := by
    cases l with
    | nil => rfl
    | cons c l => rw [List.dropWhile_cons_of_neg (by simp [h c List.mem_cons_self])]
  have hreverse : ∀ c ∈ l.reverse, isBlank c = false := fun c hc => h c (List.mem_reverse.mp hc)
  unfold trim trimStart trimEnd
  rw [hdrop h, hdrop hreverse, List.reverse_reverse]

/-- What has been trimmed has no blanks around it any more. -/
theorem trim_trim (l : List Char) : trim (trim l) = trim l := by
  have hfirst : trimStart (trim l) = trim l := by
    -- the first character that is left has outlasted the trimming at the start
    obtain ⟨rest, hrest⟩ : trim l <+: trimStart l := List.rdropWhile_prefix isBlank _
    cases htrim : trim l with
    | nil => rfl
    | cons c cs =>
      have hc : isBlank c = false := by
        have hhead := List.head?_dropWhile_not isBlank l
        rw [show l.dropWhile isBlank = trim l ++ rest from hrest.symm, htrim] at hhead
        exact hhead
      exact List.dropWhile_cons_of_neg (by simp [hc])
  calc trim (trim l)
    _ = trimEnd (trimStart (trim l)) := rfl
    _ = trimEnd (trim l) := by rw [hfirst]
    _ = trim l := List.rdropWhile_idempotent isBlank _

theorem trim_numeral (n : Nat) : trim (numeral n) = numeral n :=
  trim_of_forall fun _ hc => isBlank_of_isDigit (isDigit_of_mem_numeral hc)

theorem trim_append_blank (l : List Char) {c : Char} (hc : isBlank c = true) :
    trim (l ++ [c]) = trim l := by
  unfold trim trimStart trimEnd
  rw [List.dropWhile_append]
  split
  · next hnil =>
    rw [List.isEmpty_iff.mp hnil, List.dropWhile_cons_of_pos hc]
    rfl
  · rw [List.reverse_append, List.reverse_singleton, List.singleton_append,
      List.dropWhile_cons_of_pos hc]

/-! ### Cutting at an element -/

section Cuts

variable {α : Type} [DecidableEq α] {c : α} {l : List α}

theorem decide_ne_of_notMem (h : c ∉ l) : ∀ x ∈ l, decide (x ≠ c) = true := by
  intro x hx
  exact decide_eq_true fun heq => h (heq ▸ hx)

theorem takeWhile_ne_of_notMem (h : c ∉ l) : l.takeWhile (· ≠ c) = l :=
  List.takeWhile_eq_self_iff.mpr (decide_ne_of_notMem h)

theorem dropWhile_ne_of_notMem (h : c ∉ l) : l.dropWhile (· ≠ c) = [] :=
  List.dropWhile_eq_nil_iff.mpr (decide_ne_of_notMem h)

theorem takeWhile_ne_append (h : c ∉ l) (rest : List α) :
    (l ++ c :: rest).takeWhile (· ≠ c) = l := by
  rw [List.takeWhile_append_of_pos (decide_ne_of_notMem h), List.takeWhile_cons_of_neg (by simp),
    List.append_nil]

theorem dropWhile_ne_append (h : c ∉ l) (rest : List α) :
    (l ++ c :: rest).dropWhile (· ≠ c) = c :: rest := by
  rw [List.dropWhile_append_of_pos (decide_ne_of_notMem h), List.dropWhile_cons_of_neg (by simp)]

/-- A list that has an element is cut where the element stands first. -/
theorem takeWhile_ne_append_of_mem (h : c ∈ l) : ∃ rest, l = l.takeWhile (· ≠ c) ++ c :: rest := by
  obtain ⟨front, rest, hl, hfront⟩ := List.eq_append_cons_of_mem h
  refine ⟨rest, ?_⟩
  nth_rewrite 2 [hl]
  rw [takeWhile_ne_append hfront rest]
  exact hl

/-- Induction from one cut to the next: on the lists without the element, and from what stands behind
its first place to the whole. -/
@[elab_as_elim]
theorem cutInduction {P : List α → Prop} (c : α) (whole : ∀ l, c ∉ l → P l)
    (cut : ∀ l rest, c ∉ l → P rest → P (l ++ c :: rest)) (l : List α) : P l := by
  induction hn : l.length using Nat.strong_induction_on generalizing l with
  | _ n ih =>
    by_cases hmem : c ∈ l
    · obtain ⟨front, rest, rfl, hfront⟩ := List.eq_append_cons_of_mem hmem
      have hrest : rest.length < n := by
        rw [← hn, List.length_append, List.length_cons]
        omega
      exact cut front rest hfront (ih rest.length hrest rest rfl)
    · exact whole l hmem

end Cuts

/-! ### Lines -/

section Lines

variable {α : Type} [DecidableEq α] {b : LineBreak α} {l : List α}

/-- What comes before the first line feed is the first line. -/
theorem splitLines_append_feed (h : b.feed ∉ l) (rest : List α) :
    splitLines b (l ++ b.feed :: rest) = dropReturn b l :: splitLines b rest := by
  have hdrop := dropWhile_ne_append h rest
  rw [splitLines]
  split
  · next hnil => exact absurd (hdrop.symm.trans hnil) (List.cons_ne_nil _ _)
  · next _ hcons =>
    rw [hdrop] at hcons
    rw [takeWhile_ne_append h rest, (List.cons.inj hcons).2]

theorem splitLines_of_notMem (h : b.feed ∉ l) :
    splitLines b l = if l.isEmpty then [] else [l] := by
  have hdrop := dropWhile_ne_of_notMem h
  rw [splitLines]
  split
  · rfl
  · next hcons => exact absurd (hcons.symm.trans hdrop) (List.cons_ne_nil _ _)

theorem mem_of_mem_dropReturn {a : α} (h : a ∈ dropReturn b l) : a ∈ l := by
  unfold dropReturn at h
  split at h
  · exact List.mem_of_mem_dropLast h
  · exact h

/-- No line has a line feed in it. -/
theorem feed_notMem_of_mem_splitLines {line : List α} (h : line ∈ splitLines b l) :
    b.feed ∉ line := by
  induction l using cutInduction b.feed with
  | whole l hl =>
    rw [splitLines_of_notMem hl] at h
    split at h
    · exact absurd h List.not_mem_nil
    · rw [List.mem_singleton.mp h]
      exact hl
  | cut front rest hfront ih =>
    rw [splitLines_append_feed hfront] at h
    rcases List.mem_cons.mp h with rfl | hrest
    · exact fun hmem => hfront (mem_of_mem_dropReturn hmem)
    · exact ih hrest

end Lines

theorem trim_dropReturn (l : List Char) : trim (dropReturn .char l) = trim l := by
  unfold dropReturn
  split
  · next hlast =>
    obtain ⟨front, rfl⟩ := List.getLast?_eq_some_iff.mp hlast
    rw [List.dropLast_concat]
    exact (trim_append_blank front (by decide)).symm
  · rfl

theorem dropReturn_numeral (n : Nat) : dropReturn .char (numeral n) = numeral n := by
  unfold dropReturn
  rw [if_neg]
  intro hlast
  have hdigit := isDigit_of_mem_numeral (List.mem_of_getLast? hlast)
  exact absurd hdigit (by decide)

theorem feed_notMem_numeral (n : Nat) : '\n' ∉ numeral n := fun hmem =>
  absurd (isDigit_of_mem_numeral hmem) (by decide)

end LatencyHarness.Text
