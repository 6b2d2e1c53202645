import ModbusGateway.PointsStore

/-!
# Start-up after a session

`BuildConfigFileProfile` reads the same file as the interface, with one difference: a file whose every
record starts like an automatic example of an earlier version is emptied first.

* `restart_faithful_iff` — after any operations of the interface, start-up takes over exactly the
  listed points unless that branch is taken and there are points to lose.
* `fileHasOnlyLegacyAutoExamples_iff` — when it is taken, in terms of the file's lines; the points that are lost
  then bear one of the two names (`lost_points_named`).
* `restart_discards_saved_point` — a point saved under an example's name is gone after the restart.
-/

namespace Gateway

theorem readProfileLines_fst (lines : List Bytes) (n : Nat) : (readProfileLines n lines).1 = parseLines lines := by
  induction lines generalizing n with
  | nil => rfl
  | cons line lines ih =>
    rw [readProfileLines, parseLines, List.filterMap_cons, parseLine]
    cases tryBuildReadPointFromCsvLine line with
    | ok point => exact congrArg (point :: ·) (ih (n + 1))
    | error e =>
      simp only [Except.toOption]
      split
      · exact ih (n + 1)
      · exact ih (n + 1)

/-! ## The automatic examples of an earlier version -/

/-- The lines that are neither blank nor a comment, without the blanks around them. -/
def records (lines : List Bytes) : List Bytes := (lines.map trimCopy).filter fun clean => !isSkipped clean

/-- A line whose first field is the name of an example, with nothing around it. -/
def NamedExample (clean : Bytes) : Prop :=
  ∃ fields, clean = str "Exemplo inteiro HR0" ++ 59 :: fields ∨ clean = str "Exemplo float32 HR10_HR11" ++ 59 :: fields

theorem isLegacyAutoExampleLine_iff {clean : Bytes} : isLegacyAutoExampleLine clean = true ↔ NamedExample clean := by
  rw [isLegacyAutoExampleLine, Bool.or_eq_true, List.isPrefixOf_iff_prefix, List.isPrefixOf_iff_prefix]
  constructor
  · rintro (⟨fields, rfl⟩ | ⟨fields, rfl⟩)
    · exact ⟨fields, .inl rfl⟩
    · exact ⟨fields, .inr rfl⟩
  · rintro ⟨fields, rfl | rfl⟩
    · exact .inl ⟨fields, rfl⟩
    · exact .inr ⟨fields, rfl⟩

/-- The loop: some record has been found, and every record is an example. -/
theorem onlyLegacyAutoExamples_iff {found : Bool} {lines : List Bytes} : onlyLegacyAutoExamples found lines = true ↔
    (found = true ∨ records lines ≠ []) ∧ ∀ clean ∈ records lines, NamedExample clean := by
  induction lines generalizing found with
  | nil => simp [onlyLegacyAutoExamples, records]
  | cons line lines ih =>
    rw [onlyLegacyAutoExamples, records, List.map_cons]
    cases hskip : isSkipped (trimCopy line) with
    | true =>
      rw [List.filter_cons_of_neg (by rw [hskip]; decide), if_pos rfl]
      exact ih
    | false =>
      rw [List.filter_cons_of_pos (by rw [hskip]; rfl), if_neg Bool.false_ne_true, List.forall_mem_cons,
        ← isLegacyAutoExampleLine_iff]
      split
      next hlegacy =>
        rw [ih, hlegacy]
        simp [records]
      next hother => simp [hother]

/-- **When the file is taken for the old examples.** -/
theorem fileHasOnlyLegacyAutoExamples_iff {file : PointsFile} : fileHasOnlyLegacyAutoExamples file = true ↔
    records (fileLines file) ≠ [] ∧ ∀ clean ∈ records (fileLines file), NamedExample clean := by
  rw [fileHasOnlyLegacyAutoExamples, onlyLegacyAutoExamples_iff]
  simp

/-- A line that is a point is a record. -/
theorem mem_records {lines : List Bytes} {line : Bytes} (hl : line ∈ lines) {p : ReadPointConfig}
    (h : parseLine line = some p) : trimCopy line ∈ records lines := by
  obtain ⟨parsed⟩ := parseLine_eq_some_iff.1 h
  exact List.mem_filter.2 ⟨List.mem_map_of_mem hl, by rw [parsed.not_skipped]; rfl⟩

theorem description_of_example {line : Bytes} {p : ReadPointConfig} (h : parseLine line = some p)
    (hnamed : NamedExample (trimCopy line)) :
    p.description = str "Exemplo inteiro HR0" ∨ p.description = str "Exemplo float32 HR10_HR11" := by
  obtain ⟨parsed⟩ := parseLine_eq_some_iff.1 h
  have hfields := parsed.fields
  obtain ⟨fields, hline | hline⟩ := hnamed
  · rw [hline, splitSemicolonLine, Text.getlines_line (by decide)] at hfields
    exact .inl (List.cons.inj hfields).1.symm
  · rw [hline, splitSemicolonLine, Text.getlines_line (by decide)] at hfields
    exact .inr (List.cons.inj hfields).1.symm

/-- The points of a file taken for the old examples bear their names. -/
theorem lost_points_named {file : PointsFile} (h : fileHasOnlyLegacyAutoExamples file = true) {p : ReadPointConfig}
    (hp : p ∈ loadConfiguredPointsFromCsvForUi file) :
    p.description = str "Exemplo inteiro HR0" ∨ p.description = str "Exemplo float32 HR10_HR11" := by
  obtain ⟨line, hline, hparse⟩ := List.mem_filterMap.1 hp
  exact description_of_example hparse ((fileHasOnlyLegacyAutoExamples_iff.1 h).2 _ (mem_records hline hparse))

/-! ## The three branches -/

theorem startUp_missing (file_path : Bytes) :
    (buildConfigFileProfile file_path .succeeds none).profile.read_points = [] ∧
    (buildConfigFileProfile file_path .succeeds none).file = some (csvText []) := ⟨rfl, rfl⟩

theorem startUp_legacy {text : Bytes} (h : fileHasOnlyLegacyAutoExamples (some text) = true) (file_path : Bytes) :
    (buildConfigFileProfile file_path .succeeds (some text)).profile.read_points = [] ∧
    (buildConfigFileProfile file_path .succeeds (some text)).file = some (csvText []) := by
  simp [buildConfigFileProfile, h, saveProfileReadPointsToCsv]

theorem startUp_load {text : Bytes} (h : fileHasOnlyLegacyAutoExamples (some text) = false) (file_path : Bytes)
    (fate : WriteFate) :
    (buildConfigFileProfile file_path fate (some text)).profile.read_points =
      loadConfiguredPointsFromCsvForUi (some text) ∧
    (buildConfigFileProfile file_path fate (some text)).file = some text := by
  simp only [buildConfigFileProfile, h, Option.isNone_some, Bool.false_eq_true, if_false,
    build_read_points, readProfileLines_fst, and_true]
  rfl

/-! ## Agreement with the interface -/

/-- Start-up takes over the points the interface lists, and leaves them in the file. -/
def RestartFaithful (file_path : Bytes) (file : PointsFile) : Prop :=
  (buildConfigFileProfile file_path .succeeds file).profile.read_points = loadConfiguredPointsFromCsvForUi file ∧
  loadConfiguredPointsFromCsvForUi (buildConfigFileProfile file_path .succeeds file).file =
    loadConfiguredPointsFromCsvForUi file

theorem restartFaithful_iff_of_file (file_path : Bytes) (file : PointsFile) :
    RestartFaithful file_path file ↔
      fileHasOnlyLegacyAutoExamples file = false ∨ loadConfiguredPointsFromCsvForUi file = [] := by
  have hempty : loadConfiguredPointsFromCsvForUi (some (csvText [])) = [] := load_csvText (by simp)
  unfold RestartFaithful
  cases file with
  | none =>
    rw [(startUp_missing file_path).1, (startUp_missing file_path).2, hempty]
    exact ⟨fun _ => .inr rfl, fun _ => ⟨rfl, rfl⟩⟩
  | some text =>
    cases hl : fileHasOnlyLegacyAutoExamples (some text) with
    | true =>
      rw [(startUp_legacy hl file_path).1, (startUp_legacy hl file_path).2, hempty]
      constructor
      · rintro ⟨h, -⟩
        exact .inr h.symm
      · rintro (h | h)
        · cases h
        · exact ⟨h.symm, h.symm⟩
    | false =>
      rw [(startUp_load hl file_path .succeeds).1, (startUp_load hl file_path .succeeds).2]
      simp

/-- The file after some operations of the interface on the file the program created. -/
def session (file_path : Bytes) (ops : List Operation) : PointsFile :=
  ops.foldl (fun file op => (op.run file_path .succeeds file).2) (buildConfigFileProfile file_path .succeeds none).file

/-- **When a restart is faithful**, after every session. -/
theorem restart_faithful_iff (file_path : Bytes) (ops : List Operation) :
    RestartFaithful file_path (session file_path ops) ↔
      fileHasOnlyLegacyAutoExamples (session file_path ops) = false ∨
        loadConfiguredPointsFromCsvForUi (session file_path ops) = [] :=
  restartFaithful_iff_of_file file_path (session file_path ops)

def lineExample : Bytes := str "Exemplo inteiro HR0;10.0.0.1;502;1;holding;0;int16;0"

/-- **A saved point is discarded.** It is listed after the add, and neither start-up nor the file has it
after the restart. -/
theorem restart_discards_saved_point :
    ((Operation.appendPoint lineExample).run (str "points_config.csv") .succeeds
      (session (str "points_config.csv") [])).1 = true ∧
    (loadConfiguredPointsFromCsvForUi (session (str "points_config.csv") [.appendPoint lineExample])).length = 1 ∧
    ¬RestartFaithful (str "points_config.csv") (session (str "points_config.csv") [.appendPoint lineExample]) := by
  refine ⟨by decide +kernel, by decide +kernel, ?_⟩
  rintro ⟨hpoints, -⟩
  exact absurd (congrArg List.length hpoints) (by decide +kernel)

end Gateway
