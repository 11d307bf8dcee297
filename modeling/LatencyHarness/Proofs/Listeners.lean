import LatencyHarness.Proofs.Fields
import LatencyHarness.Reclaim.SocketTable
import Mathlib.Data.List.Sort

/-! What is read off a table of listening sockets.

Whatever the text is, each of its rows is read by itself, and one that belongs to a port says so:
its fourth field ends in a colon and just this port. In a table of the usual shape the owner of a
row is found behind the other columns, unless the name of its program has a slash after a blank. -/
namespace LatencyHarness.SocketTable

open Text

variable {p q : Pid} {ps qs : List Pid}

/-! ### Sets of process ids -/

theorem mem_insert : q ∈ insert p ps ↔ q = p ∨ q ∈ ps := by
  induction ps with
  | nil => simp [insert]
  | cons a ps ih =>
    rw [insert]
    split
    · exact List.mem_cons
    · split
      · next heq => simp [heq]
      · rw [List.mem_cons, ih, List.mem_cons, or_left_comm]

theorem insert_increasing (h : ps.Pairwise (· < ·)) : (insert p ps).Pairwise (· < ·) := by
  induction ps with
  | nil => exact List.pairwise_singleton _ _
  | cons a ps ih =>
    obtain ⟨hhead, htail⟩ := List.pairwise_cons.mp h
    rw [insert]
    split
    · next hlt =>
      refine List.pairwise_cons.mpr ⟨fun q hq => ?_, h⟩
      rcases List.mem_cons.mp hq with rfl | hq
      · exact hlt
      · exact UInt32.lt_trans hlt (hhead q hq)
    · next hnlt =>
      split
      · exact h
      · next hne =>
        refine List.pairwise_cons.mpr ⟨fun q hq => ?_, ih htail⟩
        rcases mem_insert.mp hq with rfl | hq
        · exact UInt32.lt_of_le_of_ne (UInt32.not_lt.mp hnlt) fun heq => hne heq.symm
        · exact hhead q hq

theorem mem_ordered : q ∈ ordered ps ↔ q ∈ ps := by
  induction ps with
  | nil => exact Iff.rfl
  | cons p ps ih =>
    change q ∈ insert p (ordered ps) ↔ _
    rw [mem_insert, ih, List.mem_cons]

theorem ordered_increasing (ps : List Pid) : (ordered ps).Pairwise (· < ·) := by
  induction ps with
  | nil => exact List.Pairwise.nil
  | cons p ps ih => exact insert_increasing ih

/-- An increasing list of process ids is told by its members. -/
theorem eq_of_increasing (hps : ps.Pairwise (· < ·)) (hqs : qs.Pairwise (· < ·))
    (h : ∀ p, p ∈ ps ↔ p ∈ qs) : ps = qs := by
  have hirrefl : Std.Irrefl fun a b : Pid => a < b := ⟨UInt32.lt_irrefl⟩
  have hantisymm : Std.Antisymm fun a b : Pid => a < b :=
    ⟨fun a b hab hba => absurd (UInt32.lt_trans hab hba) (UInt32.lt_irrefl a)⟩
  exact hps.eq_of_mem_iff hqs h

/-! ### The port of a row -/

section Rows

/-- What stands behind the last colon of an address, if it has one. -/
def portText? (address : List Char) : Option (List Char) :=
  if ':' ∈ address then some (address.reverse.takeWhile (· ≠ ':')).reverse else none

variable {port : Port} {host address row l : List Char} {pid : Pid}

theorem portText?_append (hl : ':' ∉ l) (host : List Char) :
    portText? (host ++ ':' :: l) = some l := by
  have hreverse : (host ++ ':' :: l).reverse = l.reverse ++ ':' :: host.reverse := by
    rw [List.reverse_append, List.reverse_cons, List.append_assoc, List.singleton_append]
  have hl' : ':' ∉ l.reverse := fun hmem => hl (List.mem_reverse.mp hmem)
  unfold portText?
  rw [if_pos (List.mem_append_right host List.mem_cons_self), hreverse, takeWhile_ne_append hl',
    List.reverse_reverse]

/-- A colon and a text are at the end of an address just when the text stands behind the last
colon. -/
theorem portText?_eq_some (hl : ':' ∉ l) : portText? address = some l ↔ (':' :: l) <:+ address := by
  constructor
  · intro h
    unfold portText? at h
    split at h
    · next hcolon =>
      obtain ⟨rest, hcut⟩ := takeWhile_ne_append_of_mem (List.mem_reverse.mpr hcolon)
      obtain rfl := Option.some.inj h
      refine ⟨rest.reverse, ?_⟩
      have hback := congrArg List.reverse hcut
      rw [List.reverse_reverse, List.reverse_append, List.reverse_cons, List.append_assoc] at hback
      exact hback.symm
    · exact absurd h nofun
  · rintro ⟨host, rfl⟩
    exact portText?_append hl host

theorem colon_notMem_numeral (n : Nat) : ':' ∉ numeral n := fun hmem =>
  absurd (isDigit_of_mem_numeral hmem) (by decide)

theorem numeral_inj {m n : Nat} (h : numeral m = numeral n) : m = n := by
  have hm := nat?_numeral (Nat.le_max_left m n)
  have hn := nat?_numeral (Nat.le_max_right m n)
  rw [h, hn] at hm
  exact (Option.some.inj hm).symm

/-- A row gives an owner of a port if it is marked, its address ends in the port, and an owner can
be read off it. -/
theorem ownerOf?_eq_some : ownerOf? port row = some pid ↔ listenMark <:+: row ∧
    (∃ address, (fields row)[3]? = some address ∧
      portText? address = some (numeral port.toNat)) ∧ rowOwner? (fields row) = some pid := by
  unfold ownerOf?
  rw [← occursIn_iff]
  cases occursIn listenMark row with
  | false => simp
  | true =>
    dsimp only
    cases (fields row)[3]? with
    | none => simp
    | some address =>
      by_cases hport : (':' :: numeral port.toNat) <:+ address
      · simp [portText?_eq_some (colon_notMem_numeral port.toNat), hport]
      · simp [portText?_eq_some (colon_notMem_numeral port.toNat), hport]

/-! ### One row after the other -/

/-- A carriage return at the end of a row does not count. -/
theorem ownerOf?_append_return (port : Port) (row : List Char) :
    ownerOf? port (row ++ ['\r']) = ownerOf? port row := by
  have hfields : fields (row ++ ['\r']) = fields row := by
    refine fields_append_blank (fun c hc => ?_) row
    rw [List.mem_singleton.mp hc]
    rfl
  have hmark : listenMark <:+: row ++ ['\r'] ↔ listenMark <:+: row := by
    refine ⟨fun h => ?_, fun h => h.trans (List.prefix_append row _).isInfix⟩
    refine (List.infix_concat_iff.mp h).resolve_left fun hsuffix => ?_
    have hlast := hsuffix.getLast (by decide)
    rw [List.getLast_concat] at hlast
    exact absurd hlast (by decide)
  refine Option.ext fun pid => ?_
  rw [ownerOf?_eq_some, ownerOf?_eq_some, hfields, hmark]

theorem ownerOf?_dropReturn (port : Port) (row : List Char) :
    ownerOf? port (dropReturn .char row) = ownerOf? port row := by
  unfold dropReturn
  split
  · next hlast =>
    obtain ⟨front, rfl⟩ := List.getLast?_eq_some_iff.mp hlast
    rw [List.dropLast_concat]
    exact (ownerOf?_append_return port front).symm
  · rfl

theorem ownerOf?_nil (port : Port) : ownerOf? port [] = none := rfl

theorem mem_owners {table : List Char} :
    pid ∈ owners port table ↔ ∃ row ∈ lines table, ownerOf? port row = some pid := by
  unfold owners
  rw [mem_ordered, List.mem_filterMap]

theorem mem_owners_row (hrow : '\n' ∉ row) :
    pid ∈ owners port row ↔ ownerOf? port row = some pid := by
  have hlines : lines row = if row.isEmpty then [] else [row] := splitLines_of_notMem hrow
  rw [mem_owners, hlines]
  cases row with
  | nil => simp [ownerOf?_nil]
  | cons c row => simp

/-- A table is the rows between its line feeds, each read by itself. -/
theorem mem_owners_iff_splitOn (port : Port) (pid : Pid) (table : List Char) :
    pid ∈ owners port table ↔ ∃ row ∈ table.splitOn '\n', ownerOf? port row = some pid := by
  induction table using cutInduction '\n' with
  | whole row hrow =>
    rw [mem_owners_row hrow, List.splitOn_eq_singleton hrow]
    simp
  | cut row rest hrow ih =>
    have hlines : lines (row ++ '\n' :: rest) = dropReturn .char row :: lines rest :=
      splitLines_append_feed hrow rest
    have hpieces : (row ++ '\n' :: rest).splitOn '\n' = row :: rest.splitOn '\n' := by
      refine List.splitOnP_append_cons_of_forall_mem (fun c hc => ?_) '\n' rfl rest
      exact beq_false_of_ne fun heq => hrow (heq ▸ hc)
    rw [mem_owners] at ih ⊢
    rw [hlines, hpieces, List.exists_mem_cons_iff, List.exists_mem_cons_iff, ownerOf?_dropReturn,
      ih]

/-- Whatever the table is, its owners of a port are listed in increasing order, and they are those
of its rows, each read by itself: rows may be moved and repeated. A row has an owner of a port only
if it is marked and its fourth field has just this port behind its last colon; so it has none of
another port. -/
theorem table_is_read_row_by_row (table : List Char) (port : Port) :
    (owners port table).Pairwise (· < ·) ∧
    (∀ pid, pid ∈ owners port table ↔ ∃ row ∈ lines table, pid ∈ owners port row) ∧
    (∀ table', (∀ row, row ∈ table'.splitOn '\n' ↔ row ∈ table.splitOn '\n') →
      owners port table' = owners port table) ∧
    (∀ row ∈ lines table, ∀ pid ∈ owners port row, listenMark <:+: row ∧
      ∃ address, (fields row)[3]? = some address ∧
        portText? address = some (numeral port.toNat)) ∧
    (∀ row ∈ lines table, ∀ other : Port, owners port row ≠ [] → owners other row ≠ [] →
      other = port) := by
  have hreads {p : Port} {row : List Char} (hrow : row ∈ lines table) {pid : Pid}
      (hpid : pid ∈ owners p row) : ownerOf? p row = some pid :=
    (mem_owners_row (feed_notMem_of_mem_splitLines hrow)).mp hpid
  refine ⟨ordered_increasing _, fun pid => ?_, fun table' hsame => ?_, fun row hrow pid hpid => ?_,
    fun row hrow other hport hother => ?_⟩
  · rw [mem_owners]
    refine exists_congr fun row => and_congr_right fun hrow => ?_
    exact (mem_owners_row (feed_notMem_of_mem_splitLines hrow)).symm
  · refine eq_of_increasing (ordered_increasing _) (ordered_increasing _) fun pid => ?_
    rw [mem_owners_iff_splitOn, mem_owners_iff_splitOn]
    exact exists_congr fun row => and_congr_left fun _ => hsame row
  · obtain ⟨hmark, haddress, -⟩ := ownerOf?_eq_some.mp (hreads hrow hpid)
    exact ⟨hmark, haddress⟩
  · obtain ⟨p, hp⟩ := List.exists_mem_of_ne_nil _ hport
    obtain ⟨q, hq⟩ := List.exists_mem_of_ne_nil _ hother
    obtain ⟨-, ⟨address, haddress, htext⟩, -⟩ := ownerOf?_eq_some.mp (hreads hrow hp)
    obtain ⟨-, ⟨address', haddress', htext'⟩, -⟩ := ownerOf?_eq_some.mp (hreads hrow hq)
    -- the one address has one text behind its last colon
    obtain rfl : address' = address := Option.some.inj (haddress'.symm.trans haddress)
    have hnumeral : numeral other.toNat = numeral port.toNat :=
      Option.some.inj (htext'.symm.trans htext)
    exact UInt16.toNat.inj (numeral_inj hnumeral)

end Rows

/-- Rows that begin alike, of which one has too few fields and one is of another port; a carriage
return ends the first. -/
def mixedRows : List (List Char) :=
  ["tcp 0 0 *:3002 *:* LISTEN 42/rpc\r".toList, "LISTEN".toList,
    "tcp 0 0 *:30020 *:* LISTEN 55/x".toList, "tcp 0 0 [::]:3002 *:* LISTEN 17/y".toList]

/-- Turned round, the table has the same owners. -/
theorem table_is_read_row_by_row_in_mixed_rows :
    (∀ row, row ∈ (['\n'].intercalate mixedRows.reverse).splitOn '\n' ↔
      row ∈ (['\n'].intercalate mixedRows).splitOn '\n') ∧
    owners 3002 (['\n'].intercalate mixedRows) = [17, 42] ∧
    owners 3002 (['\n'].intercalate mixedRows.reverse) = [17, 42] := by
  have hrows : ∀ row ∈ mixedRows, '\n' ∉ row := by decide +kernel
  have hpieces := List.splitOn_intercalate '\n' hrows (List.cons_ne_nil _ _)
  have hturned : (['\n'].intercalate mixedRows.reverse).splitOn '\n' = mixedRows.reverse :=
    List.splitOn_intercalate '\n' (fun row hrow => hrows row (List.mem_reverse.mp hrow))
      (by simp [mixedRows])
  have hsame : ∀ row, row ∈ (['\n'].intercalate mixedRows.reverse).splitOn '\n' ↔
      row ∈ (['\n'].intercalate mixedRows).splitOn '\n' := by
    intro row
    rw [hturned, hpieces, List.mem_reverse]
  have howners : owners 3002 (['\n'].intercalate mixedRows) = [17, 42] := by decide +kernel
  obtain ⟨-, -, hmoved, -⟩ := table_is_read_row_by_row (['\n'].intercalate mixedRows) 3002
  exact ⟨hsame, howners, (hmoved _ hsame).trans howners⟩

/-! ### Tables of the usual shape -/

theorem forall_solid {l : List Char} (h : l.any isBlank = false) : ∀ c ∈ l, isBlank c = false := by
  simpa using h

/-- A column of a table: a word without a slash. -/
structure Column where
  chars : List Char
  nonempty : chars ≠ []
  solid : ∀ c ∈ chars, isBlank c = false
  noSlash : '/' ∉ chars

/-- The blanks behind a column. -/
structure Gap where
  chars : List Char
  nonempty : chars ≠ []
  blank : ∀ c ∈ chars, isBlank c = true
  oneLine : '\n' ∉ chars

/-- What a row shows of the process that has the socket: a dash, or its id and the name of its
program, which may be any text on one line. -/
inductive Owner where
  | hidden (rest : List Char) (blank : ∀ c ∈ rest, isBlank c = true) (oneLine : '\n' ∉ rest)
  | process (pid : Pid) (name : List Char) (oneLine : '\n' ∉ name)

namespace Owner

def text : Owner → List Char
  | hidden rest _ _ => '-' :: rest
  | process pid name _ => numeral pid.toNat ++ '/' :: name

def pid? : Owner → Option Pid
  | hidden _ _ _ => none
  | process pid _ _ => some pid

/-- No slash stands behind a blank of the name. -/
def IsPlain : Owner → Prop
  | hidden _ _ _ => True
  | process _ name _ => '/' ∉ name.dropWhile (!isBlank ·)

instance : (o : Owner) → Decidable o.IsPlain
  | hidden _ _ _ => .isTrue trivial
  | process _ name _ => inferInstanceAs (Decidable ('/' ∉ name.dropWhile (!isBlank ·)))

end Owner

/-- A row for a listening socket. -/
structure Listener where
  protocol : Column
  received : Column
  queued : Column
  host : List Char
  solidHost : ∀ c ∈ host, isBlank c = false
  noSlashInHost : '/' ∉ host
  port : Port
  foreign : Column
  owner : Owner
  /-- the blanks behind the six columns before the owner -/
  gaps : Fin 6 → Gap

/-- A row of a table: one for a listening socket, or one without the mark. -/
inductive Row where
  | listener (l : Listener)
  | other (text : List Char) (unmarked : ¬ listenMark <:+: text) (oneLine : '\n' ∉ text)

theorem slash_notMem_numeral (n : Nat) : '/' ∉ numeral n := fun hmem =>
  absurd (isDigit_of_mem_numeral hmem) (by decide)

namespace Listener

/-- The local address, with the port. -/
def address (l : Listener) : Column where
  chars := l.host ++ ':' :: numeral l.port.toNat
  nonempty := by simp
  solid c hc := by
    rcases List.mem_append.mp hc with hhost | hport
    · exact l.solidHost c hhost
    · rcases List.mem_cons.mp hport with rfl | hdigit
      · rfl
      · exact isBlank_of_isDigit (isDigit_of_mem_numeral hdigit)
  noSlash := by
    rw [List.mem_append, List.mem_cons, not_or, not_or]
    exact ⟨l.noSlashInHost, by decide, slash_notMem_numeral _⟩

/-- The state of the socket. -/
def state : Column := ⟨listenMark, by decide, forall_solid (by decide), by decide⟩

/-- The columns before the owner, each with the blanks behind it. -/
def columns (l : Listener) : List (Column × Gap) :=
  [(l.protocol, l.gaps 0), (l.received, l.gaps 1), (l.queued, l.gaps 2), (l.address, l.gaps 3),
    (l.foreign, l.gaps 4), (state, l.gaps 5)]

def text (l : Listener) : List Char :=
  (l.columns.flatMap fun x => x.1.chars ++ x.2.chars) ++ l.owner.text

end Listener

def Row.text : Row → List Char
  | listener l => l.text
  | other text _ _ => text

/-- The text of a table. -/
def tableText (rows : List Row) : List Char := ['\n'].intercalate (rows.map Row.text)

/-! ### The owner of a row -/

theorem fields_columns (xs : List (Column × Gap)) (rest : List Char) :
    fields ((xs.flatMap fun x => x.1.chars ++ x.2.chars) ++ rest) =
      xs.map (·.1.chars) ++ fields rest := by
  induction xs with
  | nil => rfl
  | cons x xs ih =>
    obtain ⟨column, gap⟩ := x
    let later := (xs.flatMap fun x => x.1.chars ++ x.2.chars) ++ rest
    have hblank : ∀ c ∈ (gap.chars ++ later).head?, isBlank c = true := by
      intro c hc
      rw [List.head?_append_of_ne_nil _ gap.nonempty] at hc
      exact gap.blank c (List.mem_of_mem_head? hc)
    calc fields (((column, gap) :: xs).flatMap (fun x => x.1.chars ++ x.2.chars) ++ rest)
        = fields (column.chars ++ (gap.chars ++ later)) := by
          rw [List.flatMap_cons, List.append_assoc, List.append_assoc]
      _ = column.chars :: fields (gap.chars ++ later) :=
          fields_word_append column.nonempty column.solid hblank
      _ = column.chars :: fields later := by rw [fields_append_of_blank gap.blank]
      _ = column.chars :: (xs.map (·.1.chars) ++ fields rest) := by rw [ih]

theorem beforeSlash?_eq_none {field : List Char} (h : '/' ∉ field) : beforeSlash? field = none := by
  unfold beforeSlash?
  rw [if_neg (by simpa using h)]

/-- The fields of an owner's text: the first begins with the id and a slash, and the others belong
to the name. -/
theorem Owner.fields_process (pid : Pid) (name : List Char) :
    fields (numeral pid.toNat ++ '/' :: name) =
      (numeral pid.toNat ++ '/' :: name.takeWhile (!isBlank ·)) ::
        fields (name.dropWhile (!isBlank ·)) := by
  let word := numeral pid.toNat ++ '/' :: name.takeWhile (!isBlank ·)
  have hword : ∀ c ∈ word, isBlank c = false := by
    intro c hc
    rcases List.mem_append.mp hc with hdigit | hname
    · exact isBlank_of_isDigit (isDigit_of_mem_numeral hdigit)
    · rcases List.mem_cons.mp hname with rfl | hsolid
      · rfl
      · exact solid_of_mem_takeWhile hsolid
  have hcut : numeral pid.toNat ++ '/' :: name = word ++ name.dropWhile (!isBlank ·) := by
    rw [List.append_assoc, List.cons_append, List.takeWhile_append_dropWhile]
  rw [hcut]
  exact fields_word_append (by simp [word]) hword fun _ => isBlank_of_mem_head?_dropWhile

theorem pid?_numeral (pid : Pid) : SocketTable.pid? (numeral pid.toNat) = some pid := by
  have hlimit : pid.toNat ≤ maxU32 := Nat.le_of_lt_succ pid.toNat_lt
  unfold SocketTable.pid?
  rw [nat?_numeral hlimit, Option.map_some, UInt32.ofNat_toNat]

/-- Behind columns without a slash the owner is read off as it is shown, if its name is plain. -/
theorem rowOwner?_append {columns : List (List Char)} (hcolumns : ∀ column ∈ columns, '/' ∉ column)
    {o : Owner} (ho : o.IsPlain) : rowOwner? (columns ++ fields o.text) = o.pid? := by
  have hnone {fs : List (List Char)} (h : ∀ f ∈ fs, '/' ∉ f) :
      fs.reverse.findSome? beforeSlash? = none := by
    rw [List.findSome?_eq_none_iff]
    exact fun f hf => beforeSlash?_eq_none (h f (List.mem_reverse.mp hf))
  cases o with
  | hidden rest blank oneLine =>
    have hfields : fields (['-'] ++ rest) = [['-']] := by
      rw [fields_word_append (List.cons_ne_nil _ _) (forall_solid (by decide)) fun c hc =>
        blank c (List.mem_of_mem_head? hc), fields_of_blank blank]
    change rowOwner? (columns ++ fields (['-'] ++ rest)) = none
    rw [hfields, rowOwner?, hnone]
    · rfl
    · intro f hf
      rcases List.mem_append.mp hf with hcolumn | hdash
      · exact hcolumns f hcolumn
      · rw [List.mem_singleton.mp hdash]
        decide
  | process pid name oneLine =>
    have hname : ∀ f ∈ fields (name.dropWhile (!isBlank ·)), '/' ∉ f := fun f hf hslash =>
      ho (mem_of_mem_fields hf hslash)
    have hbefore : beforeSlash? (numeral pid.toNat ++ '/' :: name.takeWhile (!isBlank ·)) =
        some (numeral pid.toNat) := by
      unfold beforeSlash?
      rw [if_pos (by simp), takeWhile_ne_append (slash_notMem_numeral _)]
    change rowOwner? (columns ++ fields (numeral pid.toNat ++ '/' :: name)) = some pid
    -- the fields of the name are passed over, and the one with the id comes next
    rw [Owner.fields_process, rowOwner?, List.reverse_append, List.reverse_cons, List.append_assoc,
      List.findSome?_append, hnone hname, Option.none_or, List.singleton_append, List.findSome?_cons,
      hbefore]
    exact pid?_numeral pid

namespace Listener

theorem fields_text (l : Listener) :
    fields l.text = l.columns.map (·.1.chars) ++ fields l.owner.text :=
  fields_columns l.columns l.owner.text

theorem listenMark_text (l : Listener) : listenMark <:+: l.text := by
  refine ⟨(l.columns.take 5).flatMap fun x => x.1.chars ++ x.2.chars,
    (l.gaps 5).chars ++ l.owner.text, ?_⟩
  simp [text, columns, state]

/-- Of its own port a row gives the owner that it shows, if the name is plain, and of others
none. -/
theorem ownerOf?_text (l : Listener) (port : Port) (hplain : l.port = port → l.owner.IsPlain)
    (pid : Pid) :
    ownerOf? port l.text = some pid ↔ l.port = port ∧ l.owner.pid? = some pid := by
  have haddress : (fields l.text)[3]? = some (l.host ++ ':' :: numeral l.port.toNat) := by
    rw [l.fields_text]
    rfl
  have hport : portText? (l.host ++ ':' :: numeral l.port.toNat) = some (numeral l.port.toNat) :=
    portText?_append (colon_notMem_numeral _) l.host
  have hcolumns : ∀ column ∈ l.columns.map (·.1.chars), '/' ∉ column := by
    intro column hcolumn
    obtain ⟨x, -, rfl⟩ := List.mem_map.mp hcolumn
    exact x.1.noSlash
  have howner (h : l.port = port) : rowOwner? (fields l.text) = l.owner.pid? := by
    rw [l.fields_text]
    exact rowOwner?_append hcolumns (hplain h)
  rw [ownerOf?_eq_some]
  constructor
  · rintro ⟨-, ⟨address, haddress', htext⟩, hpid⟩
    rw [haddress] at haddress'
    obtain rfl := Option.some.inj haddress'
    rw [hport] at htext
    have hsame : l.port = port := UInt16.toNat.inj (numeral_inj (Option.some.inj htext))
    exact ⟨hsame, howner hsame ▸ hpid⟩
  · rintro ⟨hsame, hpid⟩
    exact ⟨l.listenMark_text, ⟨_, haddress, hsame ▸ hport⟩, (howner hsame).trans hpid⟩

theorem feed_notMem_text (l : Listener) : '\n' ∉ l.text := by
  intro hfeed
  rcases List.mem_append.mp hfeed with hcolumns | howner
  · obtain ⟨x, -, hx⟩ := List.mem_flatMap.mp hcolumns
    rcases List.mem_append.mp hx with hcolumn | hgap
    · exact absurd (x.1.solid _ hcolumn) (by decide)
    · exact x.2.oneLine hgap
  · cases ho : l.owner with
    | hidden rest blank oneLine =>
      rw [ho] at howner
      rcases List.mem_cons.mp howner with heq | hrest
      · exact absurd heq (by decide)
      · exact oneLine hrest
    | process pid name oneLine =>
      rw [ho] at howner
      rcases List.mem_append.mp howner with hdigit | hname
      · exact feed_notMem_numeral _ hdigit
      · rcases List.mem_cons.mp hname with heq | hname
        · exact absurd heq (by decide)
        · exact oneLine hname

end Listener

theorem Row.feed_notMem_text (row : Row) : '\n' ∉ row.text := by
  cases row with
  | listener l => exact l.feed_notMem_text
  | other text unmarked oneLine => exact oneLine

/-- In a table of the usual shape the owners of a port are those that its rows show, if on the rows
of this port no slash stands behind a blank in the name of a program. -/
theorem owners_are_those_shown (rows : List Row) (port : Port)
    (hplain : ∀ l, Row.listener l ∈ rows → l.port = port → l.owner.IsPlain) :
    (owners port (tableText rows)).Pairwise (· < ·) ∧
    ∀ pid, pid ∈ owners port (tableText rows) ↔
      ∃ l, Row.listener l ∈ rows ∧ l.port = port ∧ l.owner.pid? = some pid := by
  refine ⟨ordered_increasing _, fun pid => ?_⟩
  have hread : ∀ row ∈ rows, ownerOf? port row.text = some pid ↔
      ∃ l, row = .listener l ∧ l.port = port ∧ l.owner.pid? = some pid := by
    intro row hrow
    cases row with
    | listener l =>
      rw [Row.text, l.ownerOf?_text port (hplain l hrow)]
      simp
    | other text unmarked oneLine =>
      rw [Row.text, ownerOf?_eq_some]
      simp [unmarked]
  have hpieces : pid ∈ owners port (tableText rows) ↔
      ∃ row ∈ rows, ownerOf? port row.text = some pid := by
    rw [mem_owners_iff_splitOn]
    cases rows with
    | nil => simp [tableText, ownerOf?_nil]
    | cons row rows =>
      have htexts : ∀ text ∈ (row :: rows).map Row.text, '\n' ∉ text := by
        intro text htext
        obtain ⟨r, -, rfl⟩ := List.mem_map.mp htext
        exact r.feed_notMem_text
      rw [tableText, List.splitOn_intercalate '\n' htexts (List.cons_ne_nil _ _)]
      simp
  rw [hpieces]
  constructor
  · rintro ⟨row, hrow, howner⟩
    obtain ⟨l, rfl, hshown⟩ := (hread row hrow).mp howner
    exact ⟨l, hrow, hshown⟩
  · rintro ⟨l, hl, hshown⟩
    exact ⟨.listener l, hl, (hread _ hl).mpr ⟨l, rfl, hshown⟩⟩

/-! Two rows of one port, and one of another. -/
section Sample

def blankGap : Gap := ⟨[' '], by decide, List.all_eq_true.mp (by decide), by decide⟩

def zeroColumn : Column := ⟨['0'], by decide, forall_solid (by decide), by decide⟩

/-- A row for a socket that is bound on all addresses. -/
def boundEverywhere (port : Port) (owner : Owner) : Listener where
  protocol := ⟨"tcp".toList, by decide, forall_solid (by decide), by decide⟩
  received := zeroColumn
  queued := zeroColumn
  host := "0.0.0.0".toList
  solidHost := forall_solid (by decide)
  noSlashInHost := by decide
  port := port
  foreign := ⟨"0.0.0.0:*".toList, by decide, forall_solid (by decide), by decide⟩
  owner := owner
  gaps _ := blankGap

/-- The names have blanks and slashes, but on port 3002 no slash behind a blank. -/
def plainRows : List Row :=
  [.other "Proto Local".toList (by decide) (by decide),
    .listener (boundEverywhere 3002 (.process 1010 "sbin/node worker".toList (by decide))),
    .listener (boundEverywhere 3004 (.process 7 "sshd: /usr/sbin".toList (by decide))),
    .listener (boundEverywhere 3002 (.hidden [' '] (List.all_eq_true.mp (by decide)) (by decide))),
    .listener (boundEverywhere 3002 (.process 42 [] (by decide)))]

/-- Both names have a slash behind a blank. -/
def unplainRows : List Row :=
  [.listener (boundEverywhere 3002 (.process 1006 "sshd: /usr/sbin".toList (by decide))),
    .listener (boundEverywhere 3002 (.process 1010 "node worker 7/3".toList (by decide)))]

theorem owners_are_those_shown_in_plain_rows :
    (∀ l, Row.listener l ∈ plainRows → l.port = 3002 → l.owner.IsPlain) ∧
    owners 3002 (tableText plainRows) = [42, 1010] := by
  have hplain : ∀ l, Row.listener l ∈ plainRows → l.port = 3002 → l.owner.IsPlain := by
    intro l hl hport
    simp only [plainRows, List.mem_cons, reduceCtorEq, Row.listener.injEq, List.not_mem_nil,
      or_false, false_or] at hl
    rcases hl with rfl | rfl | rfl | rfl
    · decide
    · exact absurd hport (by decide)
    · decide
    · decide
  obtain ⟨hincreasing, hshown⟩ := owners_are_those_shown plainRows 3002 hplain
  refine ⟨hplain, eq_of_increasing hincreasing (by decide) fun pid => (hshown pid).trans ?_⟩
  simp only [plainRows, List.mem_cons, reduceCtorEq, Row.listener.injEq, List.not_mem_nil,
    or_false, false_or]
  constructor
  · rintro ⟨l, rfl | rfl | rfl | rfl, hport, hpid⟩
    · exact .inr (Option.some.inj hpid).symm
    · exact absurd hport (by decide)
    · exact absurd hpid nofun
    · exact .inl (Option.some.inj hpid).symm
  · rintro (rfl | rfl)
    · exact ⟨_, .inr (.inr (.inr rfl)), rfl, rfl⟩
    · exact ⟨_, .inl rfl, rfl, rfl⟩

/-- The owner of the first row is missed, and what is taken for that of the second is part of its
name. -/
theorem slash_behind_a_blank_misleads :
    ¬ ∀ (rows : List Row) (port : Port), (owners port (tableText rows)).Pairwise (· < ·) ∧
      ∀ pid, pid ∈ owners port (tableText rows) ↔
        ∃ l, Row.listener l ∈ rows ∧ l.port = port ∧ l.owner.pid? = some pid := by
  intro hall
  obtain ⟨-, hshown⟩ := hall unplainRows 3002
  have howners : owners 3002 (tableText unplainRows) = [7] := by decide +kernel
  have hshows : ∃ l, Row.listener l ∈ unplainRows ∧ l.port = 3002 ∧ l.owner.pid? = some 1006 :=
    ⟨_, List.mem_cons_self, rfl, rfl⟩
  have hfound := (hshown 1006).mpr hshows
  rw [howners] at hfound
  exact absurd hfound (by decide)

end Sample

end LatencyHarness.SocketTable
