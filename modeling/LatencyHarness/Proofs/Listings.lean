import LatencyHarness.Proofs.Listeners
import LatencyHarness.Proofs.Numerals
import Mathlib.Algebra.Group.Nat.Defs
import Mathlib.Data.List.Dedup

/-! What is read off a listing with one process id on a line.

Whatever the text is, the numbers of 32 bits that stand on lines of their own are read, in increasing
order and each once, and no other line makes a difference. -/
namespace LatencyHarness.SocketTable

open Text

variable {p : Pid} {ps : List Pid} {s before after line : List Char}

/-! ### One line -/

/-- The process ids are the numbers of 32 bits. -/
theorem pid?_eq_some : pid? s = some p ↔ IsNumeralOf p.toNat s := by
  have hsmall (p : Pid) : p.toNat ≤ maxU32 := Nat.le_of_lt_succ p.toNat_lt
  unfold pid?
  rw [Option.map_eq_some_iff]
  constructor
  · rintro ⟨n, hn, rfl⟩
    obtain ⟨hle, hnumeral⟩ := nat?_eq_some.mp hn
    rw [UInt32.toNat_ofNat_of_lt' (Nat.lt_succ_of_le hle)]
    exact hnumeral
  · intro h
    exact ⟨p.toNat, nat?_eq_some.mpr ⟨hsmall p, h⟩, UInt32.ofNat_toNat⟩

theorem mem_ofLines {text : List Char} :
    p ∈ ofLines text ↔ ∃ line ∈ lines text, IsNumeralOf p.toNat (trim line) := by
  unfold ofLines
  rw [mem_ordered, List.mem_filterMap]
  simp only [pid?_eq_some]

/-- A text without a line feed is read as one line. -/
theorem mem_ofLines_line (hline : '\n' ∉ line) :
    p ∈ ofLines line ↔ IsNumeralOf p.toNat (trim line) := by
  have hlines : lines line = if line.isEmpty then [] else [line] := splitLines_of_notMem hline
  rw [mem_ofLines, hlines]
  cases line with
  | nil => simp [trim, trimStart, trimEnd, not_isNumeralOf_nil]
  | cons c line => simp

/-! ### One line after the other -/

/-- What stands before a line feed and what stands behind it are read each by itself. -/
theorem mem_ofLines_append_feed :
    p ∈ ofLines (before ++ '\n' :: after) ↔ p ∈ ofLines before ∨ p ∈ ofLines after := by
  induction before using cutInduction '\n' with
  | whole line hline =>
    have hlines : lines (line ++ '\n' :: after) = dropReturn .char line :: lines after :=
      splitLines_append_feed hline after
    rw [mem_ofLines, hlines, List.exists_mem_cons_iff, trim_dropReturn, mem_ofLines_line hline,
      mem_ofLines]
  | cut line rest hline ih =>
    have hlines (rest : List Char) :
        lines (line ++ '\n' :: rest) = dropReturn .char line :: lines rest :=
      splitLines_append_feed hline rest
    rw [mem_ofLines, mem_ofLines] at ih
    rw [List.append_assoc, List.cons_append, mem_ofLines, mem_ofLines, hlines, hlines,
      List.exists_mem_cons_iff, List.exists_mem_cons_iff, ih, or_assoc]

theorem ofLines_increasing (text : List Char) : (ofLines text).Pairwise (· < ·) :=
  ordered_increasing _

/-- A line with nothing on it to read can be left out. -/
theorem ofLines_leave_out (hline : ∀ p, p ∉ ofLines line) :
    ofLines (before ++ '\n' :: (line ++ '\n' :: after)) = ofLines (before ++ '\n' :: after) := by
  refine eq_of_increasing (ofLines_increasing _) (ofLines_increasing _) fun p => ?_
  rw [mem_ofLines_append_feed, mem_ofLines_append_feed, mem_ofLines_append_feed]
  simp only [hline p, false_or]

/-! ### Listings as they are printed -/

/-- What is printed on a line: a process id, or a text that is no number of 32 bits. -/
inductive Entry where
  | pid (p : Pid)
  | other (text : List Char) (noPid : ∀ n < 2 ^ 32, ¬ IsNumeralOf n (trim text))
    (oneLine : '\n' ∉ text)

namespace Entry

def text : Entry → List Char
  | pid p => numeral p.toNat
  | other text _ _ => text

def pid? : Entry → Option Pid
  | pid p => some p
  | other _ _ _ => none

theorem oneLine (e : Entry) : '\n' ∉ e.text := by
  cases e with
  | pid p => exact feed_notMem_numeral p.toNat
  | other text _ honeLine => exact honeLine

theorem isNumeralOf_trim_text {e : Entry} :
    IsNumeralOf p.toNat (trim e.text) ↔ e.pid? = some p := by
  cases e with
  | pid q =>
    change IsNumeralOf p.toNat (trim (numeral q.toNat)) ↔ some q = some p
    rw [trim_numeral, Option.some.injEq]
    constructor
    · exact fun h => UInt32.toNat.inj ((isNumeralOf_numeral q.toNat).unique h)
    · rintro rfl
      exact isNumeralOf_numeral q.toNat
  | other text hnoPid _ =>
    exact ⟨fun h => absurd h (hnoPid p.toNat p.toNat_lt), nofun⟩

end Entry

/-- A line as it is printed, with a carriage return before its line feed or without one. -/
structure PrintedLine where
  entry : Entry
  return? : Bool

namespace PrintedLine

/-- What stands before the line feed. -/
def text (l : PrintedLine) : List Char := l.entry.text ++ if l.return? then ['\r'] else []

theorem oneLine (l : PrintedLine) : '\n' ∉ l.text := by
  unfold text
  rw [List.mem_append, not_or]
  refine ⟨l.entry.oneLine, ?_⟩
  split
  · decide
  · exact List.not_mem_nil

theorem trim_text (l : PrintedLine) : trim l.text = trim l.entry.text := by
  unfold text
  split
  · exact trim_append_blank l.entry.text rfl
  · rw [List.append_nil]

theorem mem_ofLines_text {l : PrintedLine} : p ∈ ofLines l.text ↔ l.entry.pid? = some p := by
  rw [mem_ofLines_line l.oneLine, l.trim_text, Entry.isNumeralOf_trim_text]

end PrintedLine

/-- The text of some lines. -/
def listing (ls : List PrintedLine) : List Char := ls.flatMap fun l => l.text ++ ['\n']

theorem mem_ofLines_listing {ls : List PrintedLine} :
    p ∈ ofLines (listing ls) ↔ p ∈ ls.filterMap (·.entry.pid?) := by
  induction ls with
  | nil =>
    rw [show listing [] = [] from rfl, mem_ofLines_line List.not_mem_nil]
    exact ⟨fun h => absurd h not_isNumeralOf_nil, nofun⟩
  | cons l ls ih =>
    have hlisting : listing (l :: ls) = l.text ++ '\n' :: listing ls := by
      unfold listing
      rw [List.flatMap_cons, List.append_assoc, List.singleton_append]
    rw [hlisting, mem_ofLines_append_feed, ih, PrintedLine.mem_ofLines_text]
    simp [List.mem_filterMap]

/-- Sorted and without repetitions, process ids increase strictly. -/
theorem sorted_dedup_increasing (ps : List Pid) :
    (ps.dedup.mergeSort (· ≤ ·)).Pairwise (· < ·) := by
  have htrans : ∀ a b c : Pid, decide (a ≤ b) = true → decide (b ≤ c) = true →
      decide (a ≤ c) = true := by
    intro a b c hab hbc
    exact decide_eq_true (UInt32.le_trans (of_decide_eq_true hab) (of_decide_eq_true hbc))
  have htotal : ∀ a b : Pid, (decide (a ≤ b) || decide (b ≤ a)) = true := by
    intro a b
    simpa using UInt32.le_total a b
  have hsorted : (ps.dedup.mergeSort (· ≤ ·)).Pairwise fun a b => decide (a ≤ b) = true :=
    List.pairwise_mergeSort htrans htotal _
  have hdistinct : (ps.dedup.mergeSort (· ≤ ·)).Nodup :=
    (List.mergeSort_perm _ _).nodup_iff.mpr (List.nodup_dedup ps)
  refine hsorted.imp₂ (fun a b hle hne => ?_) hdistinct
  exact UInt32.lt_of_le_of_ne (of_decide_eq_true hle) hne

/-- Whatever the text is, the process ids that are read increase strictly, and they are the numbers of
32 bits of which some line is a numeral, but for blanks around it. Lines that are blank, begin with a
minus sign or are numerals of greater numbers are no such lines, and one that is not can be left out
without a difference to what is read. So the ids that are printed are read back, sorted and each once,
whatever else is printed on lines between them. -/
theorem listing_is_read_as_a_set (text : List Char) (ls : List PrintedLine) :
    (ofLines text).Pairwise (· < ·) ∧
    (∀ n, n ∈ (ofLines text).map (·.toNat) ↔
      n < 2 ^ 32 ∧ ∃ line ∈ lines text, IsNumeralOf n (trim line)) ∧
    (∀ line, (trim line = [] ∨ (trim line).head? = some '-' ∨
        ∃ n, 2 ^ 32 ≤ n ∧ IsNumeralOf n (trim line)) →
      ∀ n < 2 ^ 32, ¬ IsNumeralOf n (trim line)) ∧
    (∀ before line after, '\n' ∉ line → (∀ n < 2 ^ 32, ¬ IsNumeralOf n (trim line)) →
      ofLines (before ++ '\n' :: (line ++ '\n' :: after)) = ofLines (before ++ '\n' :: after)) ∧
    ofLines (listing ls) = (ls.filterMap (·.entry.pid?)).dedup.mergeSort (· ≤ ·) := by
  refine ⟨ofLines_increasing text, fun n => ?_, fun line hline n hn hnumeral => ?_,
    fun before line after honeLine hline => ?_, ?_⟩
  · rw [List.mem_map]
    constructor
    · rintro ⟨p, hp, rfl⟩
      exact ⟨p.toNat_lt, mem_ofLines.mp hp⟩
    · rintro ⟨hn, hline⟩
      have hpid : (UInt32.ofNat n).toNat = n := UInt32.toNat_ofNat_of_lt' hn
      exact ⟨.ofNat n, mem_ofLines.mpr (hpid.symm ▸ hline), hpid⟩
  · rcases hline with hblank | hminus | ⟨m, hm, hgreat⟩
    · exact not_isNumeralOf_nil (hblank ▸ hnumeral)
    · exact hnumeral.no_minus hminus
    · exact absurd (hnumeral.unique hgreat) (by omega)
  · refine ofLines_leave_out fun p hp => ?_
    exact hline p.toNat p.toNat_lt ((mem_ofLines_line honeLine).mp hp)
  · refine eq_of_increasing (ofLines_increasing _) (sorted_dedup_increasing _) fun p => ?_
    rw [mem_ofLines_listing, List.mem_mergeSort, List.mem_dedup]

example : ofLines "456\n123\r\n 456\n\nnoise\n+007\n4294967296\n-5\n1 2".toList = [7, 123, 456] := by
  decide +kernel

end LatencyHarness.SocketTable
