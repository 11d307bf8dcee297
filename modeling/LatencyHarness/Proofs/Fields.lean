import LatencyHarness.Proofs.Texts

/-! The fields of a text that is put together from words and the blanks between them. -/
namespace LatencyHarness.Text

variable {c : Char} {word gap rest l : List Char}

theorem fields_cons_blank (hc : isBlank c = true) (l : List Char) : fields (c :: l) = fields l := by
  rw [fields, if_pos hc]

theorem fields_append_of_blank (hgap : ∀ c ∈ gap, isBlank c = true) (l : List Char) :
    fields (gap ++ l) = fields l := by
  induction gap with
  | nil => rfl
  | cons c gap ih =>
    rw [List.cons_append, fields_cons_blank (hgap c List.mem_cons_self)]
    exact ih fun d hd => hgap d (List.mem_cons_of_mem c hd)

theorem fields_of_blank (hgap : ∀ c ∈ gap, isBlank c = true) : fields gap = [] := by
  have h := fields_append_of_blank hgap []
  rw [List.append_nil] at h
  rw [h, fields]

theorem takeWhile_solid_append (hword : ∀ c ∈ word, isBlank c = false)
    (hrest : ∀ c ∈ rest.head?, isBlank c = true) :
    (word ++ rest).takeWhile (!isBlank ·) = word ∧
      (word ++ rest).dropWhile (!isBlank ·) = rest := by
  have hsolid : ∀ c ∈ word, (!isBlank c) = true := fun c hc => by rw [hword c hc, Bool.not_false]
  have hstop : rest.takeWhile (!isBlank ·) = [] ∧ rest.dropWhile (!isBlank ·) = rest := by
    cases rest with
    | nil => exact ⟨rfl, rfl⟩
    | cons c rest =>
      have hc : ¬ (!isBlank c) = true := by
        rw [hrest c rfl, Bool.not_true]
        exact Bool.false_ne_true
      exact ⟨List.takeWhile_cons_of_neg hc, List.dropWhile_cons_of_neg hc⟩
  rw [List.takeWhile_append_of_pos hsolid, List.dropWhile_append_of_pos hsolid, hstop.1, hstop.2,
    List.append_nil]
  exact ⟨rfl, rfl⟩

/-- A word at the front that blanks or nothing follow is the first field. -/
theorem fields_word_append (hne : word ≠ []) (hword : ∀ c ∈ word, isBlank c = false)
    (hrest : ∀ c ∈ rest.head?, isBlank c = true) : fields (word ++ rest) = word :: fields rest := by
  cases word with
  | nil => exact absurd rfl hne
  | cons c word =>
    obtain ⟨htake, hdrop⟩ := takeWhile_solid_append
      (fun d hd => hword d (List.mem_cons_of_mem c hd)) hrest
    have hc : ¬ isBlank c = true := by
      rw [hword c List.mem_cons_self]
      exact Bool.false_ne_true
    rw [List.cons_append, fields, if_neg hc, htake, hdrop]

/-- The first field of a text reaches as far as the first blank. -/
theorem isBlank_of_mem_head?_dropWhile (hc : c ∈ (l.dropWhile (!isBlank ·)).head?) :
    isBlank c = true := by
  have hstop := List.head?_dropWhile_not (!isBlank ·) l
  rw [Option.mem_def.mp hc] at hstop
  simpa using hstop

theorem solid_of_mem_takeWhile (hc : c ∈ l.takeWhile (!isBlank ·)) : isBlank c = false := by
  simpa using List.mem_takeWhile_imp hc

/-- Blanks behind a text belong to none of its fields. -/
theorem fields_append_blank (hgap : ∀ c ∈ gap, isBlank c = true) (l : List Char) :
    fields (l ++ gap) = fields l := by
  -- word by word, as the text is cut
  fun_induction fields l with
  | case1 => exact fields_of_blank hgap
  | case2 c r hc ih =>
    rw [List.cons_append, fields_cons_blank hc]
    exact ih
  | case3 c r hc ih =>
    have hnext : ∀ d ∈ (r.dropWhile (!isBlank ·) ++ gap).head?, isBlank d = true := by
      intro d hd
      rw [List.head?_append, Option.mem_def, Option.or_eq_some_iff] at hd
      rcases hd with hleft | ⟨-, hblank⟩
      · exact isBlank_of_mem_head?_dropWhile hleft
      · exact hgap d (List.mem_of_mem_head? hblank)
    have hcut : r ++ gap = r.takeWhile (!isBlank ·) ++ (r.dropWhile (!isBlank ·) ++ gap) := by
      rw [← List.append_assoc, List.takeWhile_append_dropWhile]
    obtain ⟨htake, hdrop⟩ := takeWhile_solid_append (fun _ => solid_of_mem_takeWhile) hnext
    rw [List.cons_append, fields, if_neg hc, hcut, htake, hdrop, ih]

theorem mem_of_mem_fields {field : List Char} (hfield : field ∈ fields l) (hc : c ∈ field) :
    c ∈ l := by
  fun_induction fields l with
  | case1 => exact absurd hfield List.not_mem_nil
  | case2 d r hd ih => exact List.mem_cons_of_mem d (ih hfield)
  | case3 d r hd ih =>
    rcases List.mem_cons.mp hfield with rfl | hlater
    · rcases List.mem_cons.mp hc with rfl | htake
      · exact List.mem_cons_self
      · exact List.mem_cons_of_mem d ((List.takeWhile_prefix _).subset htake)
    · exact List.mem_cons_of_mem d ((List.dropWhile_suffix _).subset (ih hlater))

end LatencyHarness.Text
