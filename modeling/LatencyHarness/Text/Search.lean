/-! Looking for one sequence inside another. -/
namespace LatencyHarness.Text

variable {α : Type} [BEq α]

/-- Whether `part` occurs in a sequence in one piece. -/
def occursIn (part : List α) : List α → Bool
  | [] => part.isEmpty
  | a :: rest => part.isPrefixOf (a :: rest) || occursIn part rest

theorem occursIn_iff [LawfulBEq α] {part whole : List α} :
    occursIn part whole = true ↔ part <:+: whole := by
  induction whole with
  | nil => simp [occursIn]
  | cons a rest ih =>
    simp only [occursIn, Bool.or_eq_true, List.isPrefixOf_iff_prefix, ih, List.infix_cons_iff]

end LatencyHarness.Text
