import LatencyHarness.Invocation
import LatencyHarness.Proofs.JsonTexts
import LatencyHarness.Proofs.Timestamps

/-! A report is read back from the line it was printed on. -/
namespace LatencyHarness

open Json
open Json.Scan
open RunState (object)

/-! ### Values -/

section Values

variable {α : Type} {lookup : List Char → Option α} {name : List Char} {a : α}

theorem stringValue_quote (t s : List Char) : stringValue (quote t ++ s) = .ok (t, s) := by
  rw [quote_append]
  exact (bind_eq (peekSolid_cons (by decide) _)).trans (stringBody_escapes t s)

theorem named_of_lookup (h : lookup name = some a) (s : List Char) :
    (named lookup name : Json.Scan α) s = .ok (a, s) := by
  unfold named
  rw [h]
  rfl

theorem choice_quote (h : lookup name = some a) (depth : Nat) (s : List Char) :
    choice lookup depth (quote name ++ s) = .ok (a, s) := by
  have hstring := stringValue_quote name s
  unfold choice
  rw [quote_append] at hstring ⊢
  refine (bind_eq (peekSolid_cons (by decide) _)).trans ?_
  exact (bind_eq hstring).trans (named_of_lookup h s)

end Values

/-- A failure as it is written: a text or nothing. -/
def failureText (failure : Option String) : List Char :=
  match failure with
  | some t => quoted t
  | none => "null".toList

theorem optionalText_write (failure : Option String) (s : List Char) :
    optionalText (failureText failure ++ s) = .ok (failure, s) := by
  cases failure with
  | none =>
    have hnull : failureText none = ['n', 'u', 'l', 'l'] := by decide
    rw [hnull]
    refine (bind_eq (peekSolid_cons (by decide) _)).trans ?_
    refine (bind_eq (a := ()) (r := ['u', 'l', 'l'] ++ s) rfl).trans ?_
    exact bind_eq (word_append ['u', 'l', 'l'] s)
  | some t =>
    have hstring := stringValue_quote t.toList s
    unfold optionalText failureText quoted
    rw [quote_append] at hstring ⊢
    refine (bind_eq (peekSolid_cons (by decide) _)).trans ?_
    refine (bind_eq hstring).trans ?_
    rw [String.ofList_toList]
    rfl

theorem wordValue_numeral (n : UInt32) {s : List Char} (hs : EndsNumber s) :
    wordValue (Text.numeral n.toNat ++ s) = .ok (n, s) := by
  have hlimit : n.toNat ≤ Text.maxU32 := Nat.le_of_lt_succ n.toNat_lt
  have hnumber := number_numeral hlimit hs
  cases hnumeral : Text.numeral n.toNat with
  | nil => exact absurd hnumeral Nat.toDigits_ne_nil
  | cons c r =>
    have hdigit : c.isDigit = true :=
      Text.isDigit_of_mem_numeral (n := n.toNat) (hnumeral ▸ List.mem_cons_self)
    rw [hnumeral] at hnumber
    refine (bind_eq (peekSolid_cons (isBlank_of_isDigit hdigit) _)).trans ?_
    -- a digit is no sign, so the number is read from here on
    generalize hnext : some c = next
    split
    · obtain rfl := Option.some.inj hnext
      exact absurd hdigit (by decide)
    · obtain rfl := Option.some.inj hnext
      rw [if_pos hdigit]
      refine (bind_eq hnumber).trans ?_
      dsimp only
      rw [if_pos hlimit, UInt32.ofNat_toNat]
      rfl
    · exact absurd hnext nofun

theorem timestampValue_write {t : Timestamp} (h : t.IsOrdinary) (s : List Char) :
    timestampValue (quote t.write ++ s) = .ok (t, s) :=
  (bind_eq (stringValue_quote t.write s)).trans (named_of_lookup (Timestamp.read?_write h) s)

/-! ### States -/

/-- An object is written as its first member and the others behind it. -/
theorem object_append (m : List Char × List Char) (ms : List (List Char × List Char))
    (s : List Char) : object ((m :: ms).map memberText) ++ s =
      '\x7b' :: (memberText m ++ membersText ms s) := by
  -- the commas between the members stand in front of all but the first
  have hbetween (m : List Char) (ms : List (List Char)) :
      (List.intersperse [','] (m :: ms)).flatten = m ++ ms.flatMap (',' :: ·) := by
    induction ms generalizing m with
    | nil => simp
    | cons m' ms ih => rw [List.intersperse_cons_cons]; simp [ih]
  simp [object, hbetween, membersText, List.flatMap_map]

namespace RunState

variable {depth : Nat}

theorem ofTag?_tag (v : Verdict) : Verdict.ofTag? v.tag.toList = some v := by
  cases v <;> decide

theorem nextPart_verdict (fuel : Nat) (s : List Char) :
    nextPart (fuel + 1) false (',' :: (quote "verdict".toList ++ s)) = .ok (some .verdict, s) := by
  refine (bind_eq (key?_next _ s)).trans ?_
  dsimp only
  rw [if_neg (by decide), if_pos rfl]
  rfl

theorem nextPart_none (fuel : Nat) (first : Bool) (s : List Char) :
    nextPart (fuel + 1) first ('\x7d' :: s) = .ok (none, '\x7d' :: s) :=
  bind_eq (key?_none first s)

/-- A state without a verdict ends behind its tag. -/
theorem afterTag_plain {name : List Char} {state : RunState}
    (h : Tag.ofName? name = some (.plain state)) (fuel : Nat) (s : List Char) :
    afterTag (fuel + 1) depth (':' :: (quote name ++ '\x7d' :: s)) = .ok (state, '\x7d' :: s) := by
  refine (bind_eq (colon_cons _)).trans ?_
  refine (bind_eq (choice_quote h depth _)).trans ?_
  exact bind_eq (nextPart_none fuel false s)

theorem afterTag_done (v : Verdict) (fuel : Nat) (s : List Char) :
    afterTag (fuel + 1) depth (':' :: (quote "done".toList ++ ',' :: (quote "verdict".toList ++
      ':' :: (quote v.tag.toList ++ '\x7d' :: s)))) = .ok (.done v, '\x7d' :: s) := by
  have hdone : Tag.ofName? "done".toList = some .done := by decide
  refine (bind_eq (colon_cons _)).trans ?_
  refine (bind_eq (choice_quote hdone depth _)).trans ?_
  refine (bind_eq (nextPart_verdict fuel _)).trans ?_
  refine (bind_eq (colon_cons _)).trans ?_
  refine (bind_eq (bind_eq (choice_quote (ofTag?_tag v) depth _))).trans ?_
  exact bind_eq (nextPart_none fuel false s)

/-- A state is read as what its members say, between its braces. -/
theorem scan_object (hdepth : 1 < depth) {state : RunState} {content s : List Char}
    (h : ∀ fuel, afterTag (fuel + 1) (depth - 1) content = .ok (state, '\x7d' :: s)) :
    scan depth ('\x7b' :: (quote "state".toList ++ content)) = .ok (state, s) := by
  refine (bind_eq (peekSolid_cons (by decide) _)).trans ?_
  refine (bind_eq (deeper_of_lt hdepth _)).trans ?_
  refine (bind_eq (a := ()) (r := quote "state".toList ++ content) rfl).trans ?_
  refine (bind_eq rfl).trans ?_
  refine (bind_eq (bind_eq (key?_first _ content))).trans ?_
  refine (bind_eq (h _)).trans ?_
  exact bind_eq (close_cons (by decide) s)

/-- A state is read back from its text, whatever follows. -/
theorem scan_toJson (hdepth : 1 < depth) (state : RunState) (s : List Char) :
    scan depth (state.toJson ++ s) = .ok (state, s) := by
  have hplain {name : List Char} {state : RunState} (h : Tag.ofName? name = some (.plain state)) :
      scan depth (object ([("state".toList, quote name)].map memberText) ++ s) =
        .ok (state, s) := by
    rw [object_append, memberText_append]
    exact scan_object hdepth fun fuel => afterTag_plain h fuel s
  cases state with
  | preflightCleanup => exact hplain (by decide)
  | startingDependencyA => exact hplain (by decide)
  | startingDependencyB => exact hplain (by decide)
  | runningClient => exact hplain (by decide)
  | tearingDown => exact hplain (by decide)
  | done v =>
    have htext : (done v).toJson = object ([("state".toList, quote "done".toList),
        ("verdict".toList, quote v.tag.toList)].map memberText) := rfl
    rw [htext, object_append, memberText_append, membersText_cons, memberText_append]
    exact scan_object hdepth fun fuel => afterTag_done v fuel s

end RunState

/-! ### Reports -/

namespace RunReport

/-- A field that has not been read before is read. -/
theorem once_none {α : Type} {t : Json.Scan α} {a : α} {v s : List Char}
    (h : t (v ++ s) = .ok (a, s)) : once none t (':' :: (v ++ s)) = .ok (some a, s) := by
  refine (bind_eq (colon_cons (v ++ s))).trans ?_
  exact bind_eq h

/-- The fields of a report as they are written. -/
def fields (r : RunReport) : List (List Char × List Char) :=
  [("failure".toList, failureText r.failure),
    ("teardown_passes".toList, Text.numeral r.teardownPasses.toNat),
    ("started_at".toList, quote r.startedAt.write),
    ("finished_at".toList, quote r.finishedAt.write)]

theorem toJson_append (r : RunReport) (s : List Char) : r.toJson ++ s =
    '\x7b' :: (memberText ("state".toList, r.state.toJson) ++ membersText r.fields s) :=
  object_append ("state".toList, r.state.toJson) r.fields s

/-- The fields are read one after the other into a draft. -/
theorem gathers_fields {r : RunReport} (hstarted : r.startedAt.IsOrdinary)
    (hfinished : r.finishedAt.IsOrdinary) {depth : Nat} (hdepth : 1 < depth) :
    Gathers (fun k d => Draft.member depth k d)
      (("state".toList, r.state.toJson) :: r.fields) {}
      ⟨some r.state, some r.failure, some r.teardownPasses, some r.startedAt,
        some r.finishedAt⟩ := by
  -- the draft after each member
  let stateRead : Draft := { state := some r.state }
  let failureRead : Draft := { stateRead with failure := some r.failure }
  let passesRead : Draft := { failureRead with teardownPasses := some r.teardownPasses }
  let startRead : Draft := { passesRead with startedAt := some r.startedAt }
  refine .cons (b := stateRead) (fun s _ => ?state) (.cons (b := failureRead) (fun s _ => ?failure)
    (.cons (b := passesRead) (fun s hs => ?passes) (.cons (b := startRead) (fun s _ => ?started)
      (.cons (fun s _ => ?finished) (.nil _)))))
  case state =>
    unfold Draft.member
    rw [if_pos rfl]
    exact bind_eq (once_none (RunState.scan_toJson hdepth r.state s))
  case failure =>
    unfold Draft.member
    rw [if_neg (by decide), if_pos rfl]
    exact bind_eq (once_none (optionalText_write r.failure s))
  case passes =>
    unfold Draft.member
    rw [if_neg (by decide), if_neg (by decide), if_pos rfl]
    exact bind_eq (once_none (wordValue_numeral r.teardownPasses hs))
  case started =>
    unfold Draft.member
    rw [if_neg (by decide), if_neg (by decide), if_neg (by decide), if_pos rfl]
    exact bind_eq (once_none (timestampValue_write hstarted s))
  case finished =>
    unfold Draft.member
    rw [if_neg (by decide), if_neg (by decide), if_neg (by decide), if_neg (by decide), if_pos rfl]
    exact bind_eq (once_none (timestampValue_write hfinished s))

/-- A report is read back from its text, whatever follows. -/
theorem scan_toJson {r : RunReport} (hstarted : r.startedAt.IsOrdinary)
    (hfinished : r.finishedAt.IsOrdinary) {depth : Nat} (hdepth : 2 < depth) (s : List Char) :
    scan depth (r.toJson ++ s) = .ok (r, s) := by
  rw [toJson_append]
  refine (bind_eq (peekSolid_cons (by decide) _)).trans ?_
  refine (bind_eq (deeper_of_lt (by omega) _)).trans ?_
  refine (bind_eq (a := ()) rfl).trans ?_
  refine (bind_eq rfl).trans ?_
  -- there are no more members than characters, so the fuel is enough
  have hfuel : (("state".toList, r.state.toJson) :: r.fields).length <
      (memberText ("state".toList, r.state.toJson) ++ membersText r.fields s).length + 1 := by
    have hmany := length_lt_membersText r.fields s
    rw [List.length_cons, List.length_append]
    omega
  have hfields := gathers_fields hstarted hfinished (by omega : 1 < depth - 1)
  refine (bind_eq (members_object hfields hfuel s)).trans ?_
  exact bind_eq (close_cons (by decide) s)

/-! ### Characters of a report -/

theorem isPlain_object (m : List Char × List Char) (ms : List (List Char × List Char))
    (h : ∀ v ∈ m :: ms, IsPlain v.2) : IsPlain (object ((m :: ms).map memberText)) := by
  obtain ⟨hm, hms⟩ := List.forall_mem_cons.mp h
  rw [← List.append_nil (object _), object_append]
  exact .cons (by decide) ((isPlain_memberText hm).append (isPlain_membersText hms nofun))

theorem isPlain_state (state : RunState) : IsPlain state.toJson := by
  have hplain (name : List Char) : IsPlain (object [memberText ("state".toList, quote name)]) :=
    isPlain_object ("state".toList, quote name) [] <|
      List.forall_mem_singleton.mpr (isPlain_quote name)
  cases state with
  | preflightCleanup => exact hplain _
  | startingDependencyA => exact hplain _
  | startingDependencyB => exact hplain _
  | runningClient => exact hplain _
  | tearingDown => exact hplain _
  | done v =>
    exact isPlain_object ("state".toList, quote "done".toList)
      [("verdict".toList, quote v.tag.toList)] <|
      List.forall_mem_cons.mpr
        ⟨isPlain_quote _, List.forall_mem_singleton.mpr (isPlain_quote _)⟩

theorem isPlain_failureText (failure : Option String) : IsPlain (failureText failure) := by
  cases failure with
  | none => decide
  | some t => exact isPlain_quote t.toList

/-- A report is written without control characters, whatever its failure is made of. -/
theorem isPlain_toJson (r : RunReport) : IsPlain r.toJson :=
  isPlain_object ("state".toList, r.state.toJson) r.fields <|
    List.forall_mem_cons.mpr ⟨isPlain_state r.state, List.forall_mem_cons.mpr
      ⟨isPlain_failureText r.failure, List.forall_mem_cons.mpr
        ⟨isPlain_numeral _, List.forall_mem_cons.mpr
          ⟨isPlain_quote _, List.forall_mem_singleton.mpr (isPlain_quote _)⟩⟩⟩⟩

theorem ofJson_toJson {r : RunReport} (hstarted : r.startedAt.IsOrdinary)
    (hfinished : r.finishedAt.IsOrdinary) : RunReport.ofJson r.toJson = .ok r := by
  have hscan := scan_toJson hstarted hfinished (by decide : 2 < Json.Scan.maxDepth) []
  rw [List.append_nil] at hscan
  exact run_eq hscan

end RunReport

/-! ### The printed line -/

namespace Completion

theorem ofLines_concat (lines : List String) (line : String) :
    ofLines (lines ++ [line]) = ofLines lines ++ line ++ "\n" := by
  unfold ofLines
  simp [String.append_assoc]

variable {σ : Type} {o : RunOptions} {s : Controller σ} {r : RunReport}

/-- The last line of a run that has been asked for JSON is its report. There is no other line break
in it, and it is read back as this report, with the verdict and the exit status of the program. -/
theorem printed_report_is_read_back (hjson : o.json = true) (hstarted : r.startedAt.IsOrdinary)
    (hfinished : r.finishedAt.IsOrdinary) :
    (ofRun o (.ok r s)).out =
        ofLines s.supervisor.session.journal.console ++ String.ofList r.toJson ++ "\n" ∧
      '\n' ∉ r.toJson ∧ '\r' ∉ r.toJson ∧
      RunReport.ofJson r.toJson = .ok r ∧
      (RunReport.ofJson r.toJson).map RunReport.succeeded = .ok r.succeeded ∧
      (RunReport.ofJson r.toJson).map RunReport.exitCode = .ok (ofRun o (.ok r s)).code := by
  have hread := RunReport.ofJson_toJson hstarted hfinished
  have hout : (ofRun o (.ok r s)).out =
      ofLines (s.supervisor.session.journal.console ++ [String.ofList r.toJson]) := by
    simp only [ofRun, hjson, if_true]
  refine ⟨hout.trans (ofLines_concat _ _), fun h => ?_, fun h => ?_, hread, ?_, ?_⟩
  · exact absurd (RunReport.isPlain_toJson r _ h) (by decide)
  · exact absurd (RunReport.isPlain_toJson r _ h) (by decide)
  · rw [hread]
    rfl
  · rw [hread]
    rfl

/-- A report from the first year to the last, with a failure of several lines. -/
def oddReport : RunReport where
  state := .done .failure
  failure := some "said \"no\" \\ \r\nthen\x07 𝄞"
  teardownPasses := 4294967295
  startedAt := ⟨⟨0, 2, 29⟩, 86399, 120000⟩
  finishedAt := ⟨⟨9999, 12, 31⟩, 0, 999999999⟩

def oddLine : List Char :=
  "\x7b\"state\":\x7b\"state\":\"done\",\"verdict\":\"failure\"\x7d,".toList ++
  "\"failure\":\"said \\\"no\\\" \\\\ \\r\\nthen\\u0007 𝄞\",".toList ++
  "\"teardown_passes\":4294967295,\"started_at\":\"0000-02-29T23:59:59.000120Z\",".toList ++
  "\"finished_at\":\"9999-12-31T00:00:00.999999999Z\"\x7d".toList

theorem printed_report_with_odd_failure :
    (ofRun ⟨false, true, none, none, none, none, none, none⟩
        (.ok oddReport (.start (.start () .absent)))).out = String.ofList oddLine ++ "\n" ∧
      RunReport.ofJson oddLine = .ok oddReport := by
  have hstarted : oddReport.startedAt.IsOrdinary := ⟨by decide, by decide, by decide, by decide⟩
  have hfinished : oddReport.finishedAt.IsOrdinary :=
    ⟨by decide, by decide, by decide, by decide⟩
  have htext : oddReport.toJson = oddLine := by decide +kernel
  obtain ⟨hout, -, -, hread, -⟩ :=
    printed_report_is_read_back (o := ⟨false, true, none, none, none, none, none, none⟩)
      (s := .start (.start () .absent)) rfl hstarted hfinished
  have hnothing : ofLines (Journal.console []) = "" := rfl
  rw [htext] at hout hread
  refine ⟨hout.trans ?_, hread⟩
  change ofLines (Journal.console []) ++ _ ++ _ = _
  rw [hnothing, String.empty_append]

end Completion

end LatencyHarness
