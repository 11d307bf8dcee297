import LatencyHarness.Json.Scan
import LatencyHarness.Proofs.Texts

/-! JSON that is read back as it was written: strings, numbers and the members of an object.

Each reader takes exactly what its writer has put there, whatever follows, and leaves the rest to
the next one. -/
namespace LatencyHarness.Json

open Text

/-! ### Readers one after the other -/

namespace Scan

variable {α β : Type} {s r : List Char}

/-- The next reader goes on where the one before has stopped. -/
theorem bind_eq {t : Scan α} {k : α → Scan β} {a : α} (h : t s = .ok (a, r)) :
    (t >>= k) s = k a r := by
  change Except.bind (t s) _ = _
  rw [h]
  rfl

/-- A whole text is read if its reader leaves nothing over. -/
theorem run_eq {t : Scan α} {a : α} (h : t s = .ok (a, [])) : run t s = .ok a := by
  unfold run
  rw [h]
  rfl

theorem peekSolid_cons {c : Char} (h : isBlank c = false) (s : List Char) :
    peekSolid (c :: s) = .ok (some c, c :: s) := by
  change Except.ok (((c :: s).dropWhile isBlank).head?, (c :: s).dropWhile isBlank) = _
  rw [List.dropWhile_cons_of_neg (by simp [h])]
  rfl

theorem isBlank_of_isDigit {c : Char} (h : c.isDigit = true) : isBlank c = false := by
  simp only [isBlank, Bool.or_eq_false_iff, decide_eq_false_iff_not]
  refine ⟨⟨⟨?_, ?_⟩, ?_⟩, ?_⟩ <;> rintro rfl <;> exact absurd h (by decide)

theorem word_append (w s : List Char) : word w (w ++ s) = .ok ((), s) := by
  induction w with
  | nil => rfl
  | cons c w ih =>
    refine (bind_eq (a := c) (r := w ++ s) rfl).trans ?_
    rw [if_neg (not_not.mpr rfl)]
    exact ih

/-! ### Strings -/

/-- The hexadecimal digits of a number below 256 are read as this number. -/
theorem hex4_digits {n : Nat} (h : n < 256) (s : List Char) :
    hex4 ('0' :: '0' :: Hex.digit (n / 16) :: Hex.digit (n % 16) :: s) = .ok (n, s) := by
  have hvalue : ∀ d < 16, Hex.value? (Hex.digit d) = some d := by decide
  have hsize : ¬ Utf8.size ('0' :: '0' :: Hex.digit (n / 16) :: Hex.digit (n % 16) :: s) < 4 := by
    have hfirst := Char.utf8Size_pos (Hex.digit (n / 16))
    have hsecond := Char.utf8Size_pos (Hex.digit (n % 16))
    have hzero : ('0' : Char).utf8Size = 1 := by decide
    simp only [Utf8.size, List.foldr_cons, hzero]
    omega
  have hdigits : (('0' :: '0' :: Hex.digit (n / 16) :: Hex.digit (n % 16) :: s).take 4).mapM
      Hex.value? = some [0, 0, n / 16, n % 16] := by
    have hzero : Hex.value? '0' = some 0 := by decide
    simp [hzero, hvalue (n / 16) (by omega), hvalue (n % 16) (by omega)]
  have hsum : ((0 * 16 + 0) * 16 + n / 16) * 16 + n % 16 = n := by omega
  unfold hex4
  refine (bind_eq rfl).trans ?_
  rw [if_neg hsize, hdigits]
  exact congrArg (fun m => Except.ok (m, s)) hsum

theorem unicode_digits {n : Nat} (h : n < 256) (s : List Char) :
    unicode ('0' :: '0' :: Hex.digit (n / 16) :: Hex.digit (n % 16) :: s) = .ok (.ofNat n, s) := by
  have htrailing : ¬ isTrailing n = true := by simp [isTrailing]; omega
  have hleading : ¬ isLeading n = true := by simp [isLeading]; omega
  refine (bind_eq (hex4_digits h s)).trans ?_
  rw [if_neg htrailing, if_neg hleading]
  rfl

/-- What the letter of a short escape stands for, and that it is no other kind of escape. -/
theorem lookup_escapeLetter {c l : Char} (h : escapeLetter? c = some l) :
    shortEscapes.lookup l = some c ∧ l ≠ 'u' ∧ l ≠ '/' := by
  obtain ⟨e, hfind, rfl⟩ := Option.map_eq_some_iff.mp h
  have hstands := List.find?_some hfind
  obtain rfl : e.2 = c := of_decide_eq_true hstands
  have hall : ∀ e ∈ shortEscapes, shortEscapes.lookup e.1 = some e.2 ∧ e.1 ≠ 'u' ∧ e.1 ≠ '/' := by
    decide
  exact hall e (List.mem_of_find?_eq_some hfind)

/-- A character that needs no short escape is neither a quote nor a backslash. -/
theorem ne_of_escapeLetter {c : Char} (h : escapeLetter? c = none) : c ≠ '"' ∧ c ≠ '\\' := by
  constructor
  · rintro rfl
    exact absurd h (by decide)
  · rintro rfl
    exact absurd h (by decide)

/-- One character is taken, however it is written. -/
theorem stringOnto_escape (c : Char) (fuel : Nat) (acc s : List Char) :
    stringOnto escaped (fuel + 1) acc (escape c ++ s) = stringOnto escaped fuel (c :: acc) s := by
  have hbackslash (r : List Char) (h : escaped r = .ok (c, s)) :
      stringOnto escaped (fuel + 1) acc ('\\' :: r) = stringOnto escaped fuel (c :: acc) s := by
    refine (bind_eq (a := '\\') (r := r) rfl).trans ?_
    rw [if_neg (by decide), if_pos rfl]
    exact bind_eq h
  unfold escape
  split
  · next l hletter =>
    obtain ⟨hlookup, hu, hslash⟩ := lookup_escapeLetter hletter
    refine hbackslash (l :: s) ?_
    refine (bind_eq (a := l) (r := s) rfl).trans ?_
    rw [if_neg hu, if_neg hslash, hlookup]
    rfl
  · next hletter =>
    split
    · next hcontrol =>
      refine hbackslash _ ((bind_eq (a := 'u') rfl).trans ?_)
      rw [if_pos rfl]
      refine (unicode_digits (by omega) s).trans ?_
      rw [Char.ofNat_toNat]
    · next hplain =>
      obtain ⟨hquote, hback⟩ := ne_of_escapeLetter hletter
      refine (bind_eq (a := c) (r := s) rfl).trans ?_
      rw [if_neg hquote, if_neg hback, if_neg hplain]

theorem stringOnto_escapes {t : List Char} {fuel : Nat} (h : t.length < fuel) (acc s : List Char) :
    stringOnto escaped fuel acc (t.flatMap escape ++ '"' :: s) = .ok (acc.reverse ++ t, s) := by
  -- by induction on the text: a character takes one unit of fuel, whether it is escaped or not
  induction t generalizing fuel acc with
  | nil =>
    cases fuel with
    | zero => exact absurd h (Nat.not_lt_zero _)
    | succ fuel =>
      rw [List.append_nil]
      rfl
  | cons c t ih =>
    cases fuel with
    | zero => exact absurd h (Nat.not_lt_zero _)
    | succ fuel =>
      rw [List.flatMap_cons, List.append_assoc, stringOnto_escape,
        ih (Nat.lt_of_succ_lt_succ h), List.reverse_cons, List.append_assoc]
      rfl

theorem length_le_escapes (t : List Char) : t.length ≤ (t.flatMap escape).length := by
  induction t with
  | nil => exact Nat.le_refl 0
  | cons c t ih =>
    have hone : 0 < (escape c).length := by
      unfold escape
      split
      · exact Nat.succ_pos _
      · split
        · exact Nat.succ_pos _
        · exact Nat.succ_pos _
    rw [List.flatMap_cons, List.length_append, List.length_cons]
    omega

/-- A text is read back from between its quotes. -/
theorem stringBody_escapes (t s : List Char) :
    stringBody (t.flatMap escape ++ '"' :: s) = .ok (t, s) := by
  have hfuel : t.length < (t.flatMap escape ++ '"' :: s).length + 1 := by
    have hlength := length_le_escapes t
    rw [List.length_append]
    omega
  exact (bind_eq rfl).trans (stringOnto_escapes hfuel [] s)

/-! ### Numbers -/

/-- What may follow a number: a character that cannot be part of it. -/
def EndsNumber (s : List Char) : Prop :=
  ∃ c r, s = c :: r ∧ c.isDigit = false ∧ c ≠ '.' ∧ c ≠ 'e' ∧ c ≠ 'E'

theorem digits_append {ds : List Char} (hdigits : ∀ c ∈ ds, c.isDigit = true)
    (hs : EndsNumber s) : digits (ds ++ s) = .ok (ds, s) := by
  obtain ⟨c, r, rfl, hc, -⟩ := hs
  have htake : (ds ++ c :: r).takeWhile (·.isDigit) = ds := by
    rw [List.takeWhile_append_of_pos hdigits, List.takeWhile_cons_of_neg (by simp [hc]),
      List.append_nil]
  refine (bind_eq rfl).trans ?_
  rw [htake]
  exact congrArg (fun rest => Except.ok (ds, rest)) (List.drop_left)

/-- What digits are read as is what they stand for, onto the number in front of them. -/
theorem foldl_of_readDigits {limit acc n : Nat} {l : List Char}
    (h : readDigits limit .tooLarge acc l = .ok n) :
    l.foldl (fun n c => 10 * n + (c.toNat - '0'.toNat)) acc = n := by
  induction l generalizing acc with
  | nil => exact Except.ok.inj h
  | cons c l ih =>
    rw [readDigits] at h
    split at h
    · contradiction
    · next d hd =>
      split at h
      · contradiction
      · unfold digit? at hd
        split at hd
        · obtain rfl := Option.some.inj hd
          rw [List.foldl_cons, Nat.mul_comm]
          exact ih h
        · contradiction

theorem valueOf_numeral (n : Nat) : valueOf (numeral n) = n :=
  foldl_of_readDigits (readDigits_numeral .tooLarge (Nat.le_refl n))

/-- Only the number zero begins with a zero. -/
theorem numeral_of_zero {n : Nat} {r : List Char} (h : numeral n = '0' :: r) : r = [] := by
  induction n using Nat.strong_induction_on generalizing r with
  | _ n ih =>
    by_cases hn : n < 10
    · rw [numeral, Nat.toDigits_of_lt_base hn] at h
      exact (List.cons.inj h).2.symm
    · -- the digits in front of the last one would be a single zero
      rw [numeral, Nat.toDigits_of_base_le (by decide) (by omega)] at h
      cases hfront : numeral (n / 10) with
      | nil => exact absurd hfront Nat.toDigits_ne_nil
      | cons c front =>
        rw [numeral] at hfront
        rw [hfront, List.cons_append] at h
        obtain ⟨rfl, -⟩ := List.cons.inj h
        obtain rfl := ih (n / 10) (by omega) hfront
        have hzero := valueOf_numeral (n / 10)
        rw [numeral, hfront] at hzero
        have : valueOf ['0'] = 0 := rfl
        omega

theorem wholeDigits_numeral (n : Nat) (hs : EndsNumber s) :
    wholeDigits (numeral n ++ s) = .ok (numeral n, s) := by
  refine (bind_eq (digits_append (fun _ hc => isDigit_of_mem_numeral hc) hs)).trans ?_
  have hne : numeral n ≠ [] := Nat.toDigits_ne_nil
  have hzero (r : List Char) : numeral n = '0' :: r → r = [] := numeral_of_zero
  generalize numeral n = ds at hne hzero ⊢
  split
  · exact absurd rfl hne
  · rfl
  · next r hmore => exact absurd (hzero r rfl) hmore
  · rfl

theorem decimals_none (hs : EndsNumber s) : decimals s = .ok ([], s) := by
  obtain ⟨c, r, rfl, -, hpoint, -⟩ := hs
  refine (bind_eq (a := some c) (r := c :: r) rfl).trans ?_
  rw [if_pos fun h => hpoint (Option.some.inj h)]
  rfl

theorem exponent_none (hs : EndsNumber s) : exponent s = .ok (none, s) := by
  obtain ⟨c, r, rfl, -, -, hlower, hupper⟩ := hs
  have hmark : isExponentMark (some c) = false := by simp [isExponentMark, hlower, hupper]
  refine (bind_eq (a := some c) (r := c :: r) rfl).trans ?_
  rw [hmark]
  rfl

/-- A number of 32 bits is far from the end of double precision. -/
theorem not_isTooLarge {n : Nat} (h : n ≤ maxU32) : isTooLarge n 0 = false := by
  have hbelow : n < 10000000000 := by
    unfold maxU32 at h
    omega
  have hlength : (numeral n).length ≤ 10 := length_numeral_le hbelow (by decide) rfl
  have hmagnitude : ¬ 300 < ((numeral n).length : Int) + 0 := by omega
  unfold isTooLarge
  simp only [hmagnitude, decide_false, Bool.and_false, Bool.false_and]

theorem number_numeral {n : Nat} (h : n ≤ maxU32) (hs : EndsNumber s) :
    number false (numeral n ++ s) = .ok (.natural n, s) := by
  have hlarge : ¬ isTooLarge (valueOf (numeral n ++ [])) ((none : Option Int).getD 0 -
      ([] : List Char).length) = true := by
    rw [List.append_nil, valueOf_numeral]
    exact ne_true_of_eq_false (not_isTooLarge h)
  have hlimit : ¬ n > maxU64 := by
    unfold maxU32 at h
    unfold maxU64
    omega
  refine (bind_eq (wholeDigits_numeral n hs)).trans ?_
  refine (bind_eq (decimals_none hs)).trans ?_
  refine (bind_eq (exponent_none hs)).trans ?_
  rw [if_neg hlarge, valueOf_numeral]
  -- no sign, no decimals, no exponent and no overflow: the number is a natural one
  have hkind : (false || !([] : List Char).isEmpty || (none : Option Int).isSome ||
      decide (n > maxU64)) = false := by simp [hlimit]
  dsimp only
  rw [hkind]
  rfl

/-! ### The members of an object -/

theorem quote_append (t s : List Char) : quote t ++ s = '"' :: (t.flatMap escape ++ '"' :: s) := by
  simp [quote]

/-- The first member of an object stands behind the opening brace. -/
theorem key?_first (k s : List Char) : key? true (quote k ++ s) = .ok (some k, s) := by
  have hkey : key? true ('"' :: (k.flatMap escape ++ '"' :: s)) =
      (stringBody >>= fun k => pure (some k)) (k.flatMap escape ++ '"' :: s) := rfl
  rw [quote_append, hkey]
  exact bind_eq (stringBody_escapes k s)

/-- Another member stands behind a comma. -/
theorem key?_next (k s : List Char) : key? false (',' :: (quote k ++ s)) = .ok (some k, s) := by
  have hkey : key? false (',' :: '"' :: (k.flatMap escape ++ '"' :: s)) =
      (stringBody >>= fun k => pure (some k)) (k.flatMap escape ++ '"' :: s) := rfl
  rw [quote_append, hkey]
  exact bind_eq (stringBody_escapes k s)

theorem key?_none (first : Bool) (s : List Char) :
    key? first ('\x7d' :: s) = .ok (none, '\x7d' :: s) := by
  cases first with
  | false => rfl
  | true => rfl

theorem colon_cons (s : List Char) : colon (':' :: s) = .ok ((), s) := rfl

theorem close_cons {bracket : Char} (h : isBlank bracket = false) (s : List Char) :
    close bracket (bracket :: s) = .ok ((), s) := by
  refine (bind_eq (peekSolid_cons h s)).trans ?_
  dsimp only
  rw [if_pos rfl]
  rfl

theorem deeper_of_lt {depth : Nat} (h : 1 < depth) (s : List Char) :
    deeper depth s = .ok (depth - 1, s) := by
  unfold deeper
  rw [if_neg (Nat.not_le_of_lt h)]
  rfl

/-- A member of an object as it is written. -/
def memberText (m : List Char × List Char) : List Char := quote m.1 ++ ':' :: m.2

theorem memberText_append (k v s : List Char) :
    memberText (k, v) ++ s = quote k ++ ':' :: (v ++ s) := by
  simp [memberText]

/-- Members that follow another one, each behind a comma, and the closing brace. -/
def membersText (ms : List (List Char × List Char)) (s : List Char) : List Char :=
  ms.flatMap (fun m => ',' :: memberText m) ++ '\x7d' :: s

theorem membersText_cons (m : List Char × List Char) (ms : List (List Char × List Char))
    (s : List Char) : membersText (m :: ms) s = ',' :: (memberText m ++ membersText ms s) := by
  simp [membersText]

theorem length_lt_membersText (ms : List (List Char × List Char)) (s : List Char) :
    ms.length < (membersText ms s).length := by
  induction ms with
  | nil => exact Nat.succ_pos _
  | cons m ms ih =>
    rw [membersText_cons, List.length_cons, List.length_cons, List.length_append]
    omega

theorem endsNumber_membersText (ms : List (List Char × List Char)) (s : List Char) :
    EndsNumber (membersText ms s) := by
  cases ms with
  | nil => exact ⟨'\x7d', s, rfl, by decide⟩
  | cons m ms => exact ⟨',', _, rfl, by decide⟩

section Members

variable {member : List Char → α → Scan α}

/-- One member after the other is read, whatever follows it in an object. -/
inductive Gathers (member : List Char → α → Scan α) : List (List Char × List Char) → α → α → Prop
  | nil (a : α) : Gathers member [] a a
  | cons {k v : List Char} {ms : List (List Char × List Char)} {a b c : α}
    (hfirst : ∀ s, EndsNumber s → member k a (':' :: (v ++ s)) = .ok (b, s))
    (hrest : Gathers member ms b c) : Gathers member ((k, v) :: ms) a c

theorem members_next {k v s : List Char} {fuel : Nat} {a a' : α}
    (hmember : member k a (':' :: (v ++ s)) = .ok (a', s)) :
    members member (fuel + 1) false a (',' :: (memberText (k, v) ++ s)) =
      members member fuel false a' s := by
  rw [memberText_append]
  exact (bind_eq (key?_next k _)).trans (bind_eq hmember)

theorem members_rest {ms : List (List Char × List Char)} {a a' : α} (h : Gathers member ms a a')
    {fuel : Nat} (hfuel : ms.length < fuel) (s : List Char) :
    members member fuel false a (membersText ms s) = .ok (a', '\x7d' :: s) := by
  -- by induction on the members, for each is followed by what the next one starts with
  induction h generalizing fuel with
  | nil a =>
    obtain ⟨fuel, rfl⟩ := Nat.exists_eq_add_of_lt hfuel
    exact bind_eq (key?_none false s)
  | cons hfirst hrest ih =>
    next k v ms a a' a'' =>
    cases fuel with
    | zero => exact absurd hfuel (Nat.not_lt_zero _)
    | succ fuel =>
      rw [membersText_cons, members_next (hfirst _ (endsNumber_membersText ms s))]
      exact ih (Nat.lt_of_succ_lt_succ hfuel)

/-- The members of an object are read one after the other, up to its closing brace. -/
theorem members_object {m : List Char × List Char} {ms : List (List Char × List Char)} {a a' : α}
    (h : Gathers member (m :: ms) a a') {fuel : Nat} (hfuel : (m :: ms).length < fuel)
    (s : List Char) : members member fuel true a (memberText m ++ membersText ms s) =
      .ok (a', '\x7d' :: s) := by
  cases h with
  | cons hfirst hrest =>
    next k v a₁ =>
    cases fuel with
    | zero => exact absurd hfuel (Nat.not_lt_zero _)
    | succ fuel =>
      rw [memberText_append]
      refine (bind_eq (key?_first k _)).trans ?_
      refine (bind_eq (hfirst _ (endsNumber_membersText ms s))).trans ?_
      exact members_rest hrest (Nat.lt_of_succ_lt_succ hfuel) s

end Members

end Scan

/-! ### Characters of a written text -/

/-- A text without control characters, line breaks among them. -/
def IsPlain (s : List Char) : Prop := ∀ c ∈ s, 0x20 ≤ c.toNat

instance (s : List Char) : Decidable (IsPlain s) := List.decidableBAll _ s

theorem IsPlain.append {s t : List Char} (hs : IsPlain s) (ht : IsPlain t) : IsPlain (s ++ t) :=
  fun c hc => (List.mem_append.mp hc).elim (hs c) (ht c)

theorem IsPlain.cons {c : Char} {s : List Char} (hc : 0x20 ≤ c.toNat) (hs : IsPlain s) :
    IsPlain (c :: s) := List.forall_mem_cons.mpr ⟨hc, hs⟩

/-- Control characters are escaped. -/
theorem isPlain_escape (c : Char) : IsPlain (escape c) := by
  have hletters : ∀ e ∈ shortEscapes, 0x20 ≤ e.1.toNat := by decide
  have hdigits : ∀ d < 16, 0x20 ≤ (Hex.digit d).toNat := by decide
  have hnone : IsPlain [] := fun _ h => absurd h List.not_mem_nil
  unfold escape
  split
  · next l hletter =>
    obtain ⟨e, hfind, rfl⟩ := Option.map_eq_some_iff.mp hletter
    exact .cons (by decide) (.cons (hletters e (List.mem_of_find?_eq_some hfind)) hnone)
  · split
    · next hcontrol =>
      have hnumber : IsPlain [Hex.digit (c.toNat / 16), Hex.digit (c.toNat % 16)] :=
        .cons (hdigits _ (by omega)) (.cons (hdigits _ (by omega)) hnone)
      have hfront : IsPlain ['\\', 'u', '0', '0'] := by decide
      exact hfront.append hnumber
    · next hplain => exact .cons (Nat.le_of_not_lt hplain) hnone

theorem isPlain_quote (t : List Char) : IsPlain (quote t) := by
  have hmark : IsPlain ['"'] := by decide
  have hbody : IsPlain (t.flatMap escape) := fun x hx =>
    have ⟨c, _, hc⟩ := List.mem_flatMap.mp hx
    isPlain_escape c x hc
  exact hmark.append (hbody.append hmark)

theorem isPlain_numeral (n : Nat) : IsPlain (numeral n) := fun c hc => by
  have hdigit := isDigit_of_mem_numeral hc
  simp only [Char.isDigit, Bool.and_eq_true, decide_eq_true_eq, ge_iff_le] at hdigit
  exact Nat.le_trans (by decide : 0x20 ≤ (48 : UInt32).toNat) hdigit.1

theorem isPlain_memberText {m : List Char × List Char} (h : IsPlain m.2) :
    IsPlain (Scan.memberText m) := (isPlain_quote m.1).append (.cons (by decide) h)

theorem isPlain_membersText {ms : List (List Char × List Char)} (h : ∀ m ∈ ms, IsPlain m.2)
    {s : List Char} (hs : IsPlain s) : IsPlain (Scan.membersText ms s) := by
  induction ms with
  | nil => exact .cons (by decide) hs
  | cons m ms ih =>
    obtain ⟨hm, hms⟩ := List.forall_mem_cons.mp h
    rw [Scan.membersText_cons]
    exact .cons (by decide) ((isPlain_memberText hm).append (ih hms))

end LatencyHarness.Json
