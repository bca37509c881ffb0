import HyperCom.Lib.TextLines
import HyperCom.Protocol.DecimalText
import HyperCom.Protocol.UnicodeText
import HyperCom.Server.AdminReports

/-!
# The list of the reports

What `reports list` prints. The columns that the server fills are ASCII without
newline; the reason is what the reporter wrote, of which the first 28 bytes are
printed as they are. So the table has its lines and its characters exactly if these
bytes are without newline and end where a character does.

The padding counts bytes, and the cut is at a byte, so a character that lies across the cut
is printed in half. A newline in the reason starts a line that looks like any other.
-/

namespace HyperCom

open TextLines

/-! ## Columns -/

/-- Text that stays in its line and takes nothing from its neighbours. -/
def OneLine (text : ByteString) : Prop := ∀ byte ∈ text, byte.toNat < 0x80 ∧ byte ≠ 0x0A

instance : DecidablePred OneLine := fun text =>
  List.decidableBAll (fun byte : UInt8 => byte.toNat < 0x80 ∧ byte ≠ 0x0A) text

namespace OneLine

theorem append {first second : ByteString} (hfirst : OneLine first) (hsecond : OneLine second) :
    OneLine (first ++ second) :=
  List.forall_mem_append.mpr ⟨hfirst, hsecond⟩

theorem blanks (count : ℕ) : OneLine (List.replicate count 0x20) := by
  intro byte hmem
  rw [List.eq_of_mem_replicate hmem]
  decide

theorem newline_not_mem {text : ByteString} (h : OneLine text) : 0x0A ∉ text := fun hmem =>
  (h 0x0A hmem).2 rfl

theorem utf8 {text : ByteString} (h : OneLine text) : Utf8 text :=
  .of_marks fun byte hmem => utf8_mark (h byte hmem).1

theorem padRight {text : ByteString} (h : OneLine text) (width : ℕ) :
    OneLine (padRight text width) :=
  (h.append (blanks _)).append (blanks 1)

theorem printed (number : ℕ) : OneLine (ascii (toString number)) := by
  intro byte hmem
  obtain ⟨hlow, hhigh⟩ := (printed_number number).1 byte hmem
  refine ⟨by omega, ?_⟩
  rintro rfl
  exact absurd hlow (by decide)

theorem printedId (id : ℤ) : OneLine (ascii (toString id)) := by
  cases id with
  | ofNat number => exact printed number
  | negSucc number =>
    have hminus : OneLine [0x2D] := by simp [OneLine]
    have hsigned : ascii (toString (Int.negSucc number)) = [0x2D] ++ ascii (toString (number + 1)) := by
      rw [show toString (Int.negSucc number) = "-" ++ toString (number + 1) from rfl, ascii,
        String.toList_append]
      rfl
    rw [hsigned]
    exact hminus.append (printed _)

theorem hex (input : ByteString) : OneLine (encodeHex input) := by
  have hall : ∀ n : Fin 256, OneLine (hexPair (UInt8.ofNat n)) := by decide +kernel
  intro byte hmem
  obtain ⟨source, -, hbyte⟩ := List.mem_flatMap.mp hmem
  have hpair := hall ⟨source.toNat, source.toNat_lt⟩
  rw [UInt8.ofNat_toNat] at hpair
  exact hpair byte hbyte

end OneLine

theorem ReportTarget.printed_oneLine (target : ReportTarget) :
    OneLine target.printed.1 ∧ OneLine target.printed.2 := by
  have hpost : OneLine (ascii "post") := by decide
  have haccount : OneLine (ascii "account") := by decide
  cases target with
  | post postId => exact ⟨hpost, .printedId postId⟩
  | account targetPubkey =>
    exact ⟨haccount, fun byte hmem => OneLine.hex targetPubkey.1 byte (List.mem_of_mem_take hmem)⟩

/-! ## A line of the table -/

/-- The columns before the reason. -/
def ReportRow.head (row : ReportRow) : ByteString :=
  padRight (ascii (toString row.id)) 6 ++ padRight row.target.printed.1 10 ++
    padRight row.target.printed.2 20

/-- What is printed of the reason. -/
def ReportRow.shownReason (row : ReportRow) : ByteString := row.reason.take 28

/-- What stands behind the reason, after one blank. -/
def ReportRow.tail (row : ReportRow) : ByteString :=
  List.replicate (30 - row.shownReason.length) 0x20 ++ (ascii "#" ++ ascii (toString row.reporterId))

/-- The line without its end. -/
def ReportRow.body (row : ReportRow) : ByteString := row.head ++ row.shownReason ++ 0x20 :: row.tail

/-- There is one blank at least behind a column. -/
theorem padRight_eq (text : ByteString) (width : ℕ) :
    padRight text width = text ++ 0x20 :: List.replicate (width - text.length) 0x20 := by
  rw [padRight, List.append_assoc, ← List.replicate_succ', List.replicate_succ]

theorem ReportRow.line_eq (row : ReportRow) : row.line = row.body ++ [0x0A] := by
  have hend : ascii "\n" = [0x0A] := rfl
  rw [line, padRight_eq (row.reason.take 28), hend]
  simp only [body, head, tail, shownReason, List.append_assoc, List.cons_append]

theorem ReportRow.head_oneLine (row : ReportRow) : OneLine row.head := by
  obtain ⟨hkind, htarget⟩ := row.target.printed_oneLine
  exact (((OneLine.printedId _).padRight _).append (hkind.padRight _)).append (htarget.padRight _)

theorem ReportRow.tail_oneLine (row : ReportRow) : OneLine row.tail :=
  (OneLine.blanks _).append (OneLine.append (by decide) (.printedId _))

theorem ReportRow.newline_mem_body (row : ReportRow) :
    0x0A ∉ row.body ↔ 0x0A ∉ row.shownReason := by
  have hblank : (0x0A : UInt8) ≠ 0x20 := by decide
  simp [body, row.head_oneLine.newline_not_mem, row.tail_oneLine.newline_not_mem, hblank]

/-- The line starts with the id of its row, which a blank ends. -/
theorem ReportRow.id_prefix_body (row : ReportRow) :
    ascii (toString row.id) ++ [0x20] <+: row.body := by
  refine ⟨List.replicate (6 - (ascii (toString row.id)).length) 0x20 ++
    padRight row.target.printed.1 10 ++ padRight row.target.printed.2 20 ++ row.shownReason ++
    0x20 :: row.tail, ?_⟩
  simp only [body, head, padRight_eq (ascii (toString row.id)), List.append_assoc, List.cons_append,
    List.nil_append]

/-! ## The table -/

/-- The header without its end. -/
def reportsHeader : ByteString :=
  padRight (ascii "ID") 6 ++ padRight (ascii "TYPE") 10 ++ padRight (ascii "CIBLE") 20 ++
    padRight (ascii "MOTIF") 30 ++ ascii "PAR"

theorem reportsHeader_oneLine : OneLine reportsHeader := by decide

/-- The rows the list is about: the oldest ones. -/
def Tables.listedReports (tables : Tables) : List ReportRow :=
  (tables.reports.mergeSort fun first second => first.createdAt ≤ second.createdAt).take
    reportsListLimit

theorem Tables.length_listedReports (tables : Tables) :
    tables.listedReports.length = min tables.reports.length reportsListLimit := by
  rw [listedReports, List.length_take, List.length_mergeSort, min_comm]

/-- The output of `reports list`. -/
def printedReports (database : DatabaseHandle) : ByteString :=
  (runReportsCommand database { verb := ascii "reports", arguments := [ascii "list"] } 0).1

/-- What the administrator should read: under the header a line for each row, the one of
the `i`-th row in the `i`-th place, and UTF-8 all of it. -/
structure ReportsShown (tables : Tables) (output : ByteString) : Prop where
  lines : ∃ lines : List ByteString, output = endLines 0x0A (reportsHeader :: lines) ∧
    (∀ line ∈ lines, 0x0A ∉ line) ∧
    lines.length = min tables.reports.length reportsListLimit ∧
    List.Forall₂ (fun row line => ascii (toString row.id) ++ [0x20] <+: line)
      tables.listedReports lines
  utf8 : Utf8 output

section Output

variable {database : DatabaseHandle} (hread : ∀ step, database.faults .listReports step = false)
  (hreports : database.tables.reports ≠ [])

include hread hreports

/-- The output is the header and a body for each row, however many lines that makes. -/
theorem printedReports_eq : printedReports database =
    endLines 0x0A (reportsHeader :: database.tables.listedReports.map ReportRow.body) := by
  have hlist : listReports database reportsListLimit = some database.tables.listedReports := by
    have hsteps : (fun step => database.faults .listReports (step + 1)) = fun _ => false :=
      funext fun step => hread (step + 1)
    rw [listReports, DatabaseHandle.query, hread 0, hsteps, DatabaseHandle.stepRows_never]
    rfl
  have hsome : database.tables.listedReports ≠ [] := by
    have hlength := database.tables.length_listedReports
    have hpos : 0 < database.tables.reports.length := List.length_pos_iff.mpr hreports
    rw [← List.length_pos_iff, hlength]
    exact lt_min hpos (by decide)
  obtain ⟨row, rows, hrows⟩ := List.exists_cons_of_ne_nil hsome
  have hheader : ascii "PAR\n" = ascii "PAR" ++ [0x0A] := rfl
  have hline : ReportRow.line = fun row => row.body ++ [0x0A] := funext ReportRow.line_eq
  have hprint : printedReports database = printReports database := rfl
  rw [hprint, printReports, hlist, hrows, endLines, List.flatMap_cons, List.flatMap_map, hheader,
    hline]
  simp only [reportsHeader, List.append_assoc]

/-- The lines are there exactly if no reason that is printed breaks one. -/
theorem unbroken_iff :
    (∃ lines : List ByteString, printedReports database = endLines 0x0A (reportsHeader :: lines) ∧
      (∀ line ∈ lines, 0x0A ∉ line) ∧
      lines.length = min database.tables.reports.length reportsListLimit ∧
      List.Forall₂ (fun row line => ascii (toString row.id) ++ [0x20] <+: line)
        database.tables.listedReports lines) ↔
      ∀ row ∈ database.tables.listedReports, 0x0A ∉ row.shownReason := by
  rw [printedReports_eq hread hreports, ← Tables.length_listedReports]
  constructor
  · rintro ⟨lines, hlines, hunbroken, hlength, -⟩ row hrow
    have hall : ∀ line ∈ reportsHeader :: lines, 0x0A ∉ line :=
      List.forall_mem_cons.mpr ⟨reportsHeader_oneLine.newline_not_mem, hunbroken⟩
    have hbodies := unbroken_of_endLines_eq hall (by simp [hlength]) hlines
    rw [← row.newline_mem_body]
    exact hbodies row.body (List.mem_cons_of_mem _ (List.mem_map_of_mem hrow))
  · intro hreasons
    refine ⟨database.tables.listedReports.map ReportRow.body, rfl, ?_, List.length_map _, ?_⟩
    · rw [List.forall_mem_map]
      exact fun row hrow => row.newline_mem_body.mpr (hreasons row hrow)
    · rw [List.forall₂_map_right_iff, List.forall₂_same]
      exact fun row _ => row.id_prefix_body

/-- The output is UTF-8 exactly if what is printed of each reason is. -/
theorem utf8_printedReports_iff :
    Utf8 (printedReports database) ↔
      ∀ row ∈ database.tables.listedReports, Utf8 row.shownReason := by
  have hblank : OneLine [0x20] := by decide
  have hnewline : Utf8 [0x0A] := .of_marks fun byte hmem => by
    rw [List.mem_singleton.mp hmem]
    exact utf8_mark (by decide)
  have hheader : Utf8 (reportsHeader ++ [0x0A]) := reportsHeader_oneLine.utf8.append hnewline
  have htail : ∀ row : ReportRow, Utf8 (0x20 :: (row.tail ++ [0x0A])) := fun row =>
    (hblank.append row.tail_oneLine).utf8.append hnewline
  have hlines : Utf8 (database.tables.listedReports.flatMap fun row =>
      row.head ++ row.shownReason ++ 0x20 :: (row.tail ++ [0x0A])) ↔
      ∀ row ∈ database.tables.listedReports, Utf8 row.shownReason :=
    written_lines_iff utf8_prefixFree (utf8_mark (by decide))
      (fun row => row.head_oneLine.utf8) htail
  rw [← hlines, printedReports_eq hread hreports, endLines, List.flatMap_cons, List.flatMap_map]
  simp only [ReportRow.body, List.append_assoc, List.cons_append]
  constructor
  · exact hheader.of_append utf8_prefixFree
  · exact hheader.append

end Output

/-- For every set of stored reports that SQLite can read: the list has a line for each
row, and is UTF-8, if and only if the first 28 bytes of each reason in it are without
newline and UTF-8 by themselves. -/
theorem reports_list_iff (database : DatabaseHandle)
    (hread : ∀ step, database.faults .listReports step = false)
    (hreports : database.tables.reports ≠ []) :
    ReportsShown database.tables (printedReports database) ↔
      ∀ row ∈ database.tables.listedReports,
        0x0A ∉ row.reason.take 28 ∧ Utf8 (row.reason.take 28) := by
  have hunbroken := unbroken_iff hread hreports
  have hutf8 := utf8_printedReports_iff hread hreports
  constructor
  · rintro ⟨hlines, hall⟩ row hrow
    exact ⟨hunbroken.mp hlines row hrow, hutf8.mp hall row hrow⟩
  · intro hreasons
    exact ⟨hunbroken.mpr fun row hrow => (hreasons row hrow).1,
      hutf8.mpr fun row hrow => (hreasons row hrow).2⟩

/-! ## One report -/

/-- The post of the thread, reported once. -/
def reportedPost (reason : ByteString) : Tables :=
  { openedPost with
    reports := [{ id := 1, target := .post 1, reporterId := 1, reason, createdAt := 0 }]
    reportsSequence := 1 }

/-- Any reason that the reader of the request accepts gets there. -/
theorem reportedPost_reachable [Sodium] {reason : ByteString}
    (hreason : TextInRange maxReportReasonLength reason) : ReachableTables (reportedPost reason) := by
  have hbefore : ReachableTables (accountContext openedPost 1 (repeatedKey 1)).database.tables :=
    openedPost_reachable
  have hserved := hbefore.served .reportPostRequest
    (ByteReader.start (ReportPostRequest.writeTo { postId := 1, reason }))
  have hrange : ReportPostRequest.InRange { postId := 1, reason } := hreason
  rwa [routeMessage, handleReportPostRequest,
    guardedRequest_decoded rfl (ReportPostRequest.exact.readFrom_start hrange)] at hserved

theorem listedReports_reportedPost (reason : ByteString) :
    (reportedPost reason).listedReports = (reportedPost reason).reports := by
  rw [Tables.listedReports, reportedPost, List.mergeSort_singleton]
  rfl

/-- A short reason is shown in its line. -/
theorem spam_report_shown :
    ReportsShown (reportedPost (ascii "spam")) (printedReports { tables := reportedPost (ascii "spam") }) := by
  refine (reports_list_iff { tables := reportedPost (ascii "spam") } (fun _ => rfl)
    (List.cons_ne_nil _ _)).mpr fun row hrow => ?_
  rw [listedReports_reportedPost] at hrow
  rw [List.mem_singleton.mp hrow]
  have hspam : OneLine ((ascii "spam").take 28) := by decide
  exact ⟨hspam.newline_not_mem, hspam.utf8⟩

/-- A reason with a newline, which every validator lets pass, is read as two reports. -/
theorem forged_report_shown :
    letI := transparentSodium
    ∃ reason, TextInRange maxReportReasonLength reason ∧ ReachableTables (reportedPost reason) ∧
      (reportedPost reason).reports ≠ [] ∧
      ¬ReportsShown (reportedPost reason) (printedReports { tables := reportedPost reason }) := by
  let := transparentSodium
  have hreason : TextInRange maxReportReasonLength (ascii "spam\n7      post       9") := by decide
  refine ⟨_, hreason, reportedPost_reachable hreason, List.cons_ne_nil _ _, fun hshown => ?_⟩
  have hunbroken := (unbroken_iff (fun _ => rfl) (List.cons_ne_nil _ _)).mp hshown.lines
  rw [listedReports_reportedPost] at hunbroken
  exact hunbroken _ (List.mem_singleton_self _) (by decide)

end HyperCom
