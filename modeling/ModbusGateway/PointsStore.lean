import ModbusGateway.Csv
import ModbusGateway.Interface
import ModbusGateway.Lib.Run
import ModbusGateway.Lib.Table

/-!
# The points file as a store

Three operations change the file: appending a line, removing a point by its row, clearing. Each is an
edit of the table of loaded points. This module says which operation a request performs
(`handleHttpClient_file`), when a line is accepted (`checkedPoint_eq_some_iff`), what each operation
leaves in the file, and what the file is then loaded as. The lines of an appended text follow the file's own
only when the file's last line is terminated; every operation leaves it so.
-/

namespace Gateway

/-- The points of an appended text, read as the lines it makes. -/
def readBack (csv_line : Bytes) : List ReadPointConfig := parseLines (Text.getlines lf (csv_line ++ [lf]))

/-! ## Operations and requests -/

inductive Operation where
  | appendPoint (csv_line : Bytes)
  | removePoint (remove_index : Nat)
  | clearPoints
deriving DecidableEq

/-- The flag the operation returns and the file it leaves. -/
def Operation.run (file_path : Bytes) (fate : WriteFate) : Operation → PointsFile → Bool × PointsFile
  | .appendPoint csv_line, file =>
    ((appendPointToConfigFileFromLine file_path fate csv_line file).1.isOk,
      (appendPointToConfigFileFromLine file_path fate csv_line file).2)
  | .removePoint remove_index, file =>
    ((removePointFromConfigFileByIndex file_path fate remove_index file).1.isOk,
      (removePointFromConfigFileByIndex file_path fate remove_index file).2)
  | .clearPoints, file => saveProfileReadPointsToCsv fate file { name := profileName file_path }

/-- The operation a request asks for, if any. -/
def operationOf (received : Bytes) : Option Operation :=
  let path := requestPath received
  if received.isEmpty then none
  else if (str "/deletepoint").isPrefixOf path then
    (Numeral.strtoul ulongMax (getQueryParam path (str "idx"))).map .removePoint
  else if (str "/clearpoints").isPrefixOf path then some .clearPoints
  else if (str "/addpoint").isPrefixOf path ∧ (buildCsvLineFromForm path).isEmpty = false then
    some (.appendPoint (buildCsvLineFromForm path))
  else none

/-- **A request changes the file as its operation does**, or not at all. -/
theorem handleHttpClient_file (file_path : Bytes) (fate : WriteFate) (received : Bytes) (file : PointsFile) :
    (handleHttpClient file_path fate received file).2 =
      match operationOf received with
      | none => file
      | some op => (op.run file_path fate file).2 := by
  unfold handleHttpClient operationOf
  simp only
  by_cases h0 : received.isEmpty
  · simp [h0]
  by_cases h1 : (str "/deletepoint").isPrefixOf (requestPath received)
  · simp only [h0, h1, if_true, if_false, Bool.false_eq_true, handleDeletePoint]
    cases Numeral.strtoul ulongMax (getQueryParam (requestPath received) (str "idx")) with
    | none => rfl
    | some idx =>
      simp only [Option.map_some, Operation.run]
      split <;> simp_all
  by_cases h2 : (str "/clearpoints").isPrefixOf (requestPath received)
  · simp only [h0, h1, h2, if_true, if_false, Bool.false_eq_true, handleClearPoints, Operation.run]
    split <;> simp_all
  by_cases h3 : (str "/addpoint").isPrefixOf (requestPath received)
  · simp only [h0, h1, h2, h3, if_true, if_false, Bool.false_eq_true, handleAddPoint, true_and]
    by_cases hl : (buildCsvLineFromForm (requestPath received)).isEmpty
    · simp [hl]
    · simp only [hl, Bool.false_eq_true, if_false, Operation.run, if_true]
      split <;> simp_all
  · simp only [h0, h1, h2, h3, if_false, Bool.false_eq_true, false_and]
    split <;> rfl

/-! ## Append -/

/-- The check passes: the line is a point, and no point of the file has its DNP3 kind and index. -/
def Accepts (file : PointsFile) (csv_line : Bytes) (p : ReadPointConfig) : Prop :=
  parseLine csv_line = some p ∧ dnpKey p ∉ (loadConfiguredPointsFromCsvForUi file).map dnpKey

/-- The point a line passes the checks with. -/
def checkedPoint (file : PointsFile) (csv_line : Bytes) : Option ReadPointConfig :=
  (parseLine csv_line).filter fun p => decide (dnpKey p ∉ (loadConfiguredPointsFromCsvForUi file).map dnpKey)

theorem checkedPoint_eq_some_iff {file : PointsFile} {csv_line : Bytes} {p : ReadPointConfig} :
    checkedPoint file csv_line = some p ↔ Accepts file csv_line p := by
  rw [checkedPoint, Option.filter_eq_some_iff, decide_eq_true_iff, Accepts]

theorem conflict_eq_none_iff {tmp existing : ReadPointConfig} :
    conflict tmp existing = none ↔ dnpKey existing ≠ dnpKey tmp := by
  unfold conflict dnpKey
  by_cases hs : isSameConfiguredPoint existing tmp
  · -- equal points have equal kinds and indexes, so the second check would refuse them too
    have : existing.type = tmp.type ∧ existing.dnp3_analog_index = tmp.dnp3_analog_index := by
      simp only [isSameConfiguredPoint, Bool.and_eq_true, beq_iff_eq] at hs
      exact ⟨hs.1.1.2, hs.2⟩
    simp [hs, this]
  · simp [hs]

theorem findSome?_conflict_eq_none_iff {tmp : ReadPointConfig} {points : List ReadPointConfig} :
    points.findSome? (conflict tmp) = none ↔ dnpKey tmp ∉ points.map dnpKey := by
  rw [List.findSome?_eq_none_iff, List.mem_map]
  constructor
  · rintro h ⟨q, hq, he⟩
    exact conflict_eq_none_iff.1 (h q hq) he
  · intro h q hq
    exact conflict_eq_none_iff.2 fun he => h ⟨q, hq, he⟩

/-- **What `AppendPoint…` does with an accepted line.** -/
theorem append_accepted {file : PointsFile} {csv_line : Bytes} {p : ReadPointConfig} (h : Accepts file csv_line p)
    (file_path : Bytes) (fate : WriteFate) :
    (Operation.appendPoint csv_line).run file_path fate file = append fate file (csv_line ++ [lf]) := by
  obtain ⟨hp, hk⟩ := h
  unfold parseLine at hp
  unfold Operation.run appendPointToConfigFileFromLine
  cases ht : tryBuildReadPointFromCsvLine csv_line with
  | error e => simp [ht, Except.toOption] at hp
  | ok q =>
    obtain rfl : q = p := by simpa [ht, Except.toOption] using hp
    simp only [ht, findSome?_conflict_eq_none_iff.2 hk]
    obtain ⟨ok, file'⟩ := append fate file (csv_line ++ [lf])
    cases ok <;> rfl

/-- **What `AppendPoint…` does with any other line.** -/
theorem append_rejected {file : PointsFile} {csv_line : Bytes} (h : ∀ p, ¬Accepts file csv_line p)
    (file_path : Bytes) (fate : WriteFate) :
    (Operation.appendPoint csv_line).run file_path fate file = (false, file) := by
  unfold Operation.run appendPointToConfigFileFromLine
  cases ht : tryBuildReadPointFromCsvLine csv_line with
  | error e => simp only [ht]; rfl
  | ok p =>
    cases hc : (loadConfiguredPointsFromCsvForUi file).findSome? (conflict p) with
    | some e => simp only [ht, hc]; rfl
    | none => exact absurd ⟨by simp [parseLine, ht, Except.toOption], findSome?_conflict_eq_none_iff.1 hc⟩ (h p)

theorem append_cases (file : PointsFile) (csv_line : Bytes) :
    (∃ p, Accepts file csv_line p) ∨ (∀ p, ¬Accepts file csv_line p) ∧ checkedPoint file csv_line = none := by
  cases h : checkedPoint file csv_line with
  | some p => exact .inl ⟨p, checkedPoint_eq_some_iff.1 h⟩
  | none =>
    refine .inr ⟨fun p hp => ?_, rfl⟩
    rw [← checkedPoint_eq_some_iff, h] at hp
    cases hp

/-! ## Remove and clear -/

theorem remove_valid {file : PointsFile} {i : Nat} (h : i < (loadConfiguredPointsFromCsvForUi file).length)
    (file_path : Bytes) (fate : WriteFate) :
    (Operation.removePoint i).run file_path fate file =
      rewrite fate file (csvText ((loadConfiguredPointsFromCsvForUi file).eraseIdx i)) := by
  unfold Operation.run removePointFromConfigFileByIndex saveProfileReadPointsToCsv
  simp only [Nat.not_le.2 h, if_false]
  obtain ⟨ok, file'⟩ := rewrite fate file (csvText ((loadConfiguredPointsFromCsvForUi file).eraseIdx i))
  cases ok <;> rfl

theorem remove_invalid {file : PointsFile} {i : Nat} (h : (loadConfiguredPointsFromCsvForUi file).length ≤ i)
    (file_path : Bytes) (fate : WriteFate) :
    (Operation.removePoint i).run file_path fate file = (false, file) := by
  unfold Operation.run removePointFromConfigFileByIndex
  simp only [h, if_true]
  rfl

/-! ## Loading after an operation -/

theorem storable_of_mem_eraseIdx {file : PointsFile} {i : Nat} {p : ReadPointConfig}
    (h : p ∈ (loadConfiguredPointsFromCsvForUi file).eraseIdx i) : Storable p :=
  storable_of_mem_load (List.mem_of_mem_eraseIdx h)

theorem load_eq (file : PointsFile) :
    loadConfiguredPointsFromCsvForUi file = parseLines (Text.getlines lf (file.getD [])) := rfl

/-- Text appended to a terminated file appends the points it is read as. -/
theorem load_append {file : PointsFile} (hf : FileTerminated file) (text : Bytes) :
    loadConfiguredPointsFromCsvForUi (some (file.getD [] ++ text)) =
      loadConfiguredPointsFromCsvForUi file ++ parseLines (Text.getlines lf text) := by
  rw [load_eq, load_eq, Option.getD_some, Text.getlines_append hf, parseLines_append]

/-- The unfinished last line of a file. -/
def lastLine (file : PointsFile) : Bytes := Text.unfinished lf (file.getD [])

theorem parseLines_lastLine (file : PointsFile) :
    parseLines (Text.getlines lf (lastLine file)) = (parseLine (lastLine file)).toList := by
  by_cases h : lastLine file = []
  · rw [h]; rfl
  · have hl : lf ∉ lastLine file := Text.not_mem_unfinished _
    rw [Text.getlines_last hl h, parseLines, List.filterMap_cons]
    cases parseLine (lastLine file) <;> rfl

/-- Text appended to any file continues the file's unfinished last line. -/
theorem load_append_lastLine (file : PointsFile) : ∃ before : List ReadPointConfig,
    loadConfiguredPointsFromCsvForUi file = before ++ parseLines (Text.getlines lf (lastLine file)) ∧
    ∀ text, loadConfiguredPointsFromCsvForUi (some (file.getD [] ++ text)) =
      before ++ parseLines (Text.getlines lf (lastLine file ++ text)) := by
  obtain ⟨s, hs, ht⟩ := Text.exists_terminated (d := lf) (file.getD [])
  refine ⟨parseLines (Text.getlines lf s), ?_, fun text => ?_⟩
  · rw [load_eq, lastLine, ← parseLines_append, ← Text.getlines_append hs, ← ht]
  · rw [load_eq, lastLine, Option.getD_some, ← parseLines_append, ← Text.getlines_append hs, ← List.append_assoc, ← ht]

theorem terminated_append (file : PointsFile) (csv_line : Bytes) :
    FileTerminated (some (file.getD [] ++ (csv_line ++ [lf]))) := by
  rw [FileTerminated, Option.getD_some, ← List.append_assoc]
  exact Text.terminated_snoc _

/-! ## Lines with no break inside -/

theorem parseLine_trimCopy (line : Bytes) : parseLine (trimCopy line) = parseLine line := by
  unfold parseLine tryBuildReadPointFromCsvLine
  rw [trimCopy, trimCopy, Text.trim_trim]

theorem parseLines_blank {text : Bytes} (h : ∀ c ∈ text, isTrimmed c = true) :
    parseLines (Text.getlines lf text) = [] := by
  rw [parseLines, List.filterMap_eq_nil_iff]
  intro l hl
  apply parseLine_eq_none_of_skipped
  have hnil : trimCopy l = [] := Text.trim_eq_nil_iff.2 fun c hc => h c (Text.mem_of_mem_getlines hc hl)
  rw [hnil]; rfl

/-- The one-line text is read back as the point it was parsed as. -/
theorem readBack_of_no_break {csv_line : Bytes} (h : lf ∉ csv_line) :
    readBack csv_line = (parseLine csv_line).toList := by
  rw [readBack, Text.getlines_line h, Text.getlines_nil, parseLines, List.filterMap_cons]
  cases parseLine csv_line <;> rfl

/-- The same when line breaks stand only among the blanks at both ends. -/
theorem readBack_of_no_inner_break {csv_line : Bytes} (h : lf ∉ trimCopy csv_line) :
    readBack csv_line = (parseLine csv_line).toList := by
  obtain ⟨p, q, hp, hq, he⟩ := @Text.exists_trim _ isTrimmed csv_line
  -- the blanks in front: whole lines, then the start of the point's own line
  obtain ⟨p1, hp1, hpe⟩ := Text.exists_terminated (d := lf) p
  have hp2 := Text.not_mem_unfinished (d := lf) p
  generalize Text.unfinished lf p = p2 at hpe hp2
  -- the blanks behind: the end of that line, then whole lines
  have hmem : lf ∈ q ++ [lf] := by simp
  obtain ⟨q1, q2, hqe, hq1⟩ := List.eq_append_cons_of_mem hmem
  have hqb : ∀ c ∈ q1 ++ lf :: q2, isTrimmed c = true := by
    rw [← hqe]
    intro c hc
    rcases List.mem_append.1 hc with hc | hc
    · exact hq c hc
    · rw [List.mem_singleton.1 hc]; rfl
  have htext : csv_line ++ [lf] = p1 ++ ((p2 ++ trimCopy csv_line ++ q1) ++ lf :: q2) := by
    rw [List.append_assoc _ q1, ← hqe, trimCopy]
    conv_lhs => rw [he, hpe]
    simp only [List.append_assoc]
  have hmid : lf ∉ p2 ++ trimCopy csv_line ++ q1 := by
    simp only [List.mem_append, not_or]
    exact ⟨⟨hp2, h⟩, hq1⟩
  have hline : parseLine (p2 ++ trimCopy csv_line ++ q1) = parseLine csv_line := by
    rw [← parseLine_trimCopy, trimCopy, List.append_assoc,
      Text.trim_blank_append (fun c hc => hp c (by rw [hpe]; exact List.mem_append_right _ hc)),
      Text.trim_append_blank (fun c hc => hqb c (List.mem_append_left _ hc)), ← trimCopy, parseLine_trimCopy,
      parseLine_trimCopy]
  rw [readBack, htext, Text.getlines_append hp1, Text.getlines_line hmid, parseLines_append,
    parseLines_blank fun c hc => hp c (by rw [hpe]; exact List.mem_append_left _ hc), List.nil_append, parseLines,
    List.filterMap_cons, hline, ← parseLines,
    parseLines_blank fun c hc => hqb c (List.mem_append_right _ (List.mem_cons_of_mem _ hc))]
  cases parseLine csv_line <;> rfl

/-! ## The store refines the table -/

/-- The edit of the loaded points an operation amounts to when its write succeeds. -/
def Operation.edit (file : PointsFile) : Operation → Table.Edit ReadPointConfig
  | .appendPoint csv_line =>
    match checkedPoint file csv_line with
    | some _ => .append (readBack csv_line)
    | none => .keep
  | .removePoint remove_index => .erase remove_index
  | .clearPoints => .clear

/-- **Refinement.** On a terminated file an operation edits the table of loaded points, and leaves the
file terminated. -/
theorem load_run (file_path : Bytes) {file : PointsFile} (hf : FileTerminated file) (op : Operation) :
    FileTerminated (op.run file_path .succeeds file).2 ∧
    loadConfiguredPointsFromCsvForUi (op.run file_path .succeeds file).2 =
      (op.edit file).apply (loadConfiguredPointsFromCsvForUi file) := by
  cases op with
  | appendPoint csv_line =>
    rcases append_cases file csv_line with ⟨p, hp⟩ | ⟨hno, hnone⟩
    · rw [append_accepted hp, append_succeeds, Operation.edit, checkedPoint_eq_some_iff.2 hp]
      exact ⟨terminated_append file csv_line, load_append hf _⟩
    · rw [append_rejected hno, Operation.edit, hnone]
      exact ⟨hf, rfl⟩
  | removePoint i =>
    by_cases hi : i < (loadConfiguredPointsFromCsvForUi file).length
    · rw [remove_valid hi, rewrite_succeeds]
      exact ⟨terminated_csvText _, load_csvText fun p hp => storable_of_mem_eraseIdx hp⟩
    · rw [remove_invalid (Nat.not_lt.1 hi)]
      exact ⟨hf, (List.eraseIdx_of_length_le (Nat.not_lt.1 hi)).symm⟩
  | clearPoints =>
    refine ⟨terminated_csvText _, ?_⟩
    have hnone : ∀ p ∈ ([] : List ReadPointConfig), Storable p := by simp
    exact load_csvText hnone

end Gateway
