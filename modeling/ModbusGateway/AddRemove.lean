import ModbusGateway.PointsStore

/-!
# Adding and removing one point, every write succeeding

* `remove_point_spec` — `RemovePointFromConfigFileByIndex` erases exactly the row it is given, whatever
  the file held, and what `SaveProfileReadPointsToCsv` writes for a loaded list is loaded as that list.
* `add_point_iff` — when an accepted one-line record really becomes one more point. The record is
  appended to whatever the file ends with: to an unfinished last line it is glued
  (`add_point_glued`), and the file then holds no new point although `true` is returned.
-/

namespace Gateway

/-! ## Remove (`Interface.cpp:298`) -/

theorem remove_point_ok {file : PointsFile} {i : Nat} (h : i < (loadConfiguredPointsFromCsvForUi file).length)
    (file_path : Bytes) : removePointFromConfigFileByIndex file_path .succeeds i file =
      (.ok (), some (csvText ((loadConfiguredPointsFromCsvForUi file).eraseIdx i))) := by
  unfold removePointFromConfigFileByIndex saveProfileReadPointsToCsv
  simp [Nat.not_le.2 h]

theorem remove_point_error {file : PointsFile} {i : Nat} (h : (loadConfiguredPointsFromCsvForUi file).length ≤ i)
    (file_path : Bytes) (fate : WriteFate) :
    removePointFromConfigFileByIndex file_path fate i file = (.error errorPointIndex, file) := by
  unfold removePointFromConfigFileByIndex
  simp [h]

theorem load_save {file : PointsFile} (profile : ProfileConfig)
    (h : profile.read_points = loadConfiguredPointsFromCsvForUi file) (before : PointsFile) :
    loadConfiguredPointsFromCsvForUi (saveProfileReadPointsToCsv .succeeds before profile).2 =
      profile.read_points := by
  rw [saveProfileReadPointsToCsv, rewrite_succeeds, load_csvText]
  intro p hp
  exact storable_of_mem_load (h ▸ hp)

/-- **Removal and the save/load round trip.** -/
theorem remove_point_spec (file_path : Bytes) (file : PointsFile) :
    (∀ i < (loadConfiguredPointsFromCsvForUi file).length, ∃ file',
      removePointFromConfigFileByIndex file_path .succeeds i file = (.ok (), file') ∧
      loadConfiguredPointsFromCsvForUi file' = (loadConfiguredPointsFromCsvForUi file).eraseIdx i) ∧
    (∀ i ≥ (loadConfiguredPointsFromCsvForUi file).length,
      removePointFromConfigFileByIndex file_path .succeeds i file = (.error errorPointIndex, file)) ∧
    ∀ (before : PointsFile) (profile : ProfileConfig), profile.read_points = loadConfiguredPointsFromCsvForUi file →
      saveProfileReadPointsToCsv .succeeds before profile =
        (true, (saveProfileReadPointsToCsv .succeeds before profile).2) ∧
      loadConfiguredPointsFromCsvForUi (saveProfileReadPointsToCsv .succeeds before profile).2 =
        profile.read_points := by
  refine ⟨?_, ?_, ?_⟩
  · intro i hi
    refine ⟨_, remove_point_ok hi file_path, ?_⟩
    exact load_csvText fun p hp => storable_of_mem_eraseIdx hp
  · intro i hi
    exact remove_point_error hi file_path .succeeds
  · intro before profile h
    exact ⟨rfl, load_save profile h before⟩

/-- Three points, a comment and a line that is no point. -/
def pointsMixed : PointsFile :=
  some (str "A;10.0.0.1;502;1;holding;0;int16;1\n# coils\nB;10.0.0.2;502;1;coil;3;bool;1\nB;10.0.0.2\n" ++
    str "C;10.0.0.3;502;1;holding;4;int16;2\n")

/-- The row in the middle. -/
theorem remove_point_spec_middle :
    ∃ file', removePointFromConfigFileByIndex (str "points_config.csv") .succeeds 1 pointsMixed = (.ok (), file') ∧
      loadConfiguredPointsFromCsvForUi file' = (loadConfiguredPointsFromCsvForUi pointsMixed).eraseIdx 1 :=
  (remove_point_spec (str "points_config.csv") pointsMixed).1 1 (by decide +kernel)

/-! ## Append (`Interface.cpp:268`) -/

/-- An accepted add adds exactly the parsed point, a refused one nothing. -/
def AddsExactly (file_path : Bytes) (file : PointsFile) (csv_line : Bytes) : Prop :=
  match appendPointToConfigFileFromLine file_path .succeeds csv_line file with
  | (.ok (), file') => ∃ p, tryBuildReadPointFromCsvLine csv_line = .ok p ∧
      loadConfiguredPointsFromCsvForUi file' = loadConfiguredPointsFromCsvForUi file ++ [p]
  | (.error _, file') => file' = file

/-- The unfinished last line holds no point, and glued to it the record is still the same point. -/
def GluesCleanly (file : PointsFile) (csv_line : Bytes) (p : ReadPointConfig) : Prop :=
  parseLine (lastLine file) = none ∧ parseLine (lastLine file ++ csv_line) = some p

theorem append_point_ok {file : PointsFile} {csv_line : Bytes} {p : ReadPointConfig} (h : Accepts file csv_line p)
    (file_path : Bytes) : appendPointToConfigFileFromLine file_path .succeeds csv_line file =
      (.ok (), some (file.getD [] ++ (csv_line ++ [lf]))) := by
  have hrun := append_accepted h file_path .succeeds
  rw [append_succeeds, Operation.run, Prod.mk.injEq] at hrun
  generalize appendPointToConfigFileFromLine file_path .succeeds csv_line file = r at hrun ⊢
  obtain ⟨_ | u, file'⟩ := r
  · cases hrun.1
  · exact Prod.ext rfl hrun.2

theorem append_point_error {file : PointsFile} {csv_line : Bytes} (h : ∀ p, ¬Accepts file csv_line p)
    (file_path : Bytes) (fate : WriteFate) :
    ∃ e, appendPointToConfigFileFromLine file_path fate csv_line file = (.error e, file) := by
  have hrun := append_rejected h file_path fate
  rw [Operation.run, Prod.mk.injEq] at hrun
  generalize appendPointToConfigFileFromLine file_path fate csv_line file = r at hrun ⊢
  obtain ⟨e | u, file'⟩ := r
  · exact ⟨e, Prod.ext rfl hrun.2⟩
  · cases hrun.1

theorem addsExactly_iff {file : PointsFile} {csv_line : Bytes} (file_path : Bytes) :
    AddsExactly file_path file csv_line ↔ ∀ p, Accepts file csv_line p →
      loadConfiguredPointsFromCsvForUi (some (file.getD [] ++ (csv_line ++ [lf]))) =
        loadConfiguredPointsFromCsvForUi file ++ [p] := by
  unfold AddsExactly
  rcases append_cases file csv_line with ⟨p, hp⟩ | ⟨hno, -⟩
  · rw [append_point_ok hp]
    constructor
    · rintro ⟨q, hq, hl⟩ r hr
      have hqr : some q = some r := (tryBuild_eq_ok_iff.1 hq).symm.trans hr.1
      exact Option.some.inj hqr ▸ hl
    · intro h
      exact ⟨p, tryBuild_eq_ok_iff.2 hp.1, h p hp⟩
  · obtain ⟨e, he⟩ := append_point_error hno file_path .succeeds
    rw [he]
    exact ⟨fun _ p hp => absurd hp (hno p), fun _ => rfl⟩

theorem toList_eq_append_singleton {α : Type} {a b : Option α} {c : α} :
    a.toList = b.toList ++ [c] ↔ b = none ∧ a = some c := by
  cases a <;> cases b <;> simp

/-- **When an accepted record becomes exactly one more point.** -/
theorem add_point_iff (file_path : Bytes) (file : PointsFile) (csv_line : Bytes) (h : lf ∉ csv_line) :
    AddsExactly file_path file csv_line ↔ ∀ p, Accepts file csv_line p → GluesCleanly file csv_line p := by
  obtain ⟨before, hb, happ⟩ := load_append_lastLine file
  have hglued : lf ∉ lastLine file ++ csv_line := by
    rw [List.mem_append, not_or]
    exact ⟨Text.not_mem_unfinished _, h⟩
  rw [addsExactly_iff]
  refine forall_congr' fun p => imp_congr_right fun _ => ?_
  rw [happ, hb, parseLines_lastLine, List.append_assoc, List.append_cancel_left_eq, ← List.append_assoc,
    ← readBack, readBack_of_no_break hglued, toList_eq_append_singleton, GluesCleanly]

/-- A terminated file takes every accepted record. -/
theorem add_point_terminated (file_path : Bytes) {file : PointsFile} (hf : FileTerminated file) {csv_line : Bytes}
    (h : lf ∉ csv_line) : AddsExactly file_path file csv_line := by
  rw [add_point_iff _ _ _ h]
  intro p hp
  have hlast : lastLine file = [] := Text.unfinished_eq_nil_iff.2 hf
  rw [GluesCleanly, hlast]
  exact ⟨rfl, hp.1⟩

def pointsOne : PointsFile := some (str "A;10.0.0.1;502;1;holding;0;int16;1\n")

def pointsOneUnfinished : PointsFile := some (str "A;10.0.0.1;502;1;holding;0;int16;1")

def lineTwo : Bytes := str "B;10.0.0.2;502;1;holding;0;int16;2"

theorem add_point_iff_finished :
    AddsExactly (str "points_config.csv") pointsOne lineTwo ↔
      ∀ p, Accepts pointsOne lineTwo p → GluesCleanly pointsOne lineTwo p :=
  add_point_iff (str "points_config.csv") pointsOne lineTwo (by decide)

/-- **A record glued to an unfinished line is lost**, and `true` is returned. -/
theorem add_point_glued :
    lf ∉ lineTwo ∧
    appendPointToConfigFileFromLine (str "points_config.csv") .succeeds lineTwo pointsOneUnfinished =
      (.ok (), some (str "A;10.0.0.1;502;1;holding;0;int16;1B;10.0.0.2;502;1;holding;0;int16;2\n")) ∧
    ¬AddsExactly (str "points_config.csv") pointsOneUnfinished lineTwo := by
  have hrun : appendPointToConfigFileFromLine (str "points_config.csv") .succeeds lineTwo pointsOneUnfinished =
      (.ok (), some (str "A;10.0.0.1;502;1;holding;0;int16;1B;10.0.0.2;502;1;holding;0;int16;2\n")) := by
    decide +kernel
  refine ⟨by decide, hrun, ?_⟩
  unfold AddsExactly
  rw [hrun]
  rintro ⟨p, -, hl⟩
  have hlen := congrArg List.length hl
  rw [List.length_append, List.length_singleton] at hlen
  exact absurd hlen (by decide +kernel)

end Gateway
