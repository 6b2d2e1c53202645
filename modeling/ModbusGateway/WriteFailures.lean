import ModbusGateway.PointsStore

/-!
# The points file when the file system refuses a write

`SaveProfile…` truncates the file and never looks at the stream again, `AppendPoint…` writes one line
and does the same; both return `true` once the open succeeded. A full disk therefore leaves a prefix of
the output behind a `true`.

* `load_take_csvText_iff` — a cut rewrite is loaded as the intended points only if no more than its
  last line break is missing, or no point was to be written.
* `honest_iff` — for every operation, prior file and fate: when the returned flag tells the truth.
* `remove_on_full_disk` — a removal that loses every point and returns `true`.
-/

namespace Gateway

/-! ## Cut rewrites -/

/-- A cut header line is still a comment, or empty. -/
theorem parseLine_take_headerLine {l : Bytes} (h : l ∈ headerLines) (k : Nat) : parseLine (l.take k) = none := by
  have hh : ∀ l ∈ headerLines, l.head? = some 35 := by decide +kernel
  cases k with
  | zero => rfl
  | succ k =>
    apply parseLine_comment
    rw [List.head?_take, if_neg (Nat.succ_ne_zero k)]
    exact hh l h

/-- A cut line holds no more points than the line. -/
theorem length_parseLine_take_le {points : List ReadPointConfig} (h : ∀ p ∈ points, Storable p) {l : Bytes}
    (hl : l ∈ csvLines points) (k : Nat) : (parseLine (l.take k)).toList.length ≤ (parseLine l).toList.length := by
  rcases List.mem_append.1 hl with hl | hl
  · rw [parseLine_take_headerLine hl]; exact Nat.zero_le _
  · obtain ⟨p, hp, rfl⟩ := List.mem_map.1 hl
    rw [parseLine_csvRow (h p hp)]
    cases parseLine ((csvRow p).take k) <;> simp

theorem parseLines_singleton (l : Bytes) : parseLines [l] = (parseLine l).toList := by
  rw [parseLines, List.filterMap_cons]
  cases parseLine l <;> rfl

/-- What a cut text is loaded as. -/
theorem parseLines_joinEnd_append {done : List Bytes} (hd : ∀ l ∈ done, lf ∉ l) {l : Bytes} (hl : lf ∉ l) :
    parseLines (Text.getlines lf (Text.joinEnd lf done ++ l)) = parseLines done ++ (parseLine l).toList := by
  rw [Text.getlines_append (Text.terminated_joinEnd done), Text.getlines_joinEnd hd, parseLines_append]
  congr 1
  by_cases hnil : l = []
  · rw [hnil]; rfl
  · rw [Text.getlines_last hl hnil, parseLines_singleton]

theorem parseLines_csvLines {points : List ReadPointConfig} (h : ∀ p ∈ points, Storable p) :
    parseLines (csvLines points) = points := by
  rw [csvLines, parseLines_append, parseLines_headerLines, List.nil_append, parseLines_rows h]

/-- A cut row is the point of the row only when nothing of it is cut. -/
theorem parseLine_take_csvRow_iff {q : ReadPointConfig} (hstor : Storable q) {k : Nat} :
    (parseLine ((csvRow q).take k)).toList = [q] ↔ (csvRow q).length ≤ k := by
  constructor
  · intro heq
    by_contra hcut
    refine parseLine_take_csvRow hstor (k := k) (by omega) ?_
    cases hp : parseLine ((csvRow q).take k) with
    | none => simp [hp] at heq
    | some q' => simpa [hp] using heq
  · intro hle
    rw [List.take_of_length_le hle, parseLine_csvRow hstor]
    rfl

/-- The last line of a saved file is the row of the last point. -/
theorem getLast?_csvLines {points : List ReadPointConfig} (hne : points ≠ []) :
    (csvLines points).getLast? = some (csvRow (points.getLast hne)) := by
  rw [csvLines, List.getLast?_append_of_ne_nil _ (by simpa using hne), List.getLast?_map,
    List.getLast?_eq_getLast_of_ne_nil hne]
  rfl

section
variable {points : List ReadPointConfig} (h : ∀ p ∈ points, Storable p) {n : Nat}
include h

/-- The cut, seen through the loader. -/
theorem load_take_csvText (hn : n < (csvText points).length) : ∃ done l rest k,
    csvLines points = done ++ l :: rest ∧ k ≤ l.length ∧
    (csvText points).length + k = n + l.length + 1 + (Text.joinEnd lf rest).length ∧
    loadConfiguredPointsFromCsvForUi (some ((csvText points).take n)) =
      parseLines done ++ (parseLine (l.take k)).toList := by
  rw [csvText_eq] at hn
  obtain ⟨done, l, rest, k, hlines, hk, htake, hlen⟩ := Text.take_joinEnd hn
  have hbreak := csvLines_no_break h
  rw [hlines] at hbreak
  refine ⟨done, l, rest, k, hlines, hk, by rw [csvText_eq]; exact hlen, ?_⟩
  rw [load_eq, Option.getD_some, csvText_eq, htake]
  exact parseLines_joinEnd_append (fun f hf => hbreak f (by simp [hf]))
    fun hm => hbreak l (by simp) (List.mem_of_mem_take hm)

/-- A cut rewrite never holds more points than intended. -/
theorem length_load_take_csvText_le :
    (loadConfiguredPointsFromCsvForUi (some ((csvText points).take n))).length ≤ points.length := by
  by_cases hn : n < (csvText points).length
  · obtain ⟨done, l, rest, k, hlines, -, -, hload⟩ := load_take_csvText h hn
    have hpoints := congrArg (fun ls => (parseLines ls).length) hlines
    have hcut := length_parseLine_take_le h (l := l) (by rw [hlines]; simp) k
    simp only [parseLines_csvLines h, parseLines_append, ← List.singleton_append (l := rest), List.length_append,
      parseLines_singleton] at hpoints
    rw [hload, List.length_append]
    omega
  · rw [List.take_of_length_le (Nat.not_lt.1 hn), load_csvText h]

/-- Cut in the last row, the file holds the intended points when nothing of the row is missing. -/
theorem cut_last_row_iff (hne : points ≠ []) {done : List Bytes} {l : Bytes} (hlines : csvLines points = done ++ [l])
    (k : Nat) : parseLines done ++ (parseLine (l.take k)).toList = points ↔ l.length ≤ k := by
  have hpoints := congrArg parseLines hlines
  have hlast := getLast?_csvLines hne
  have hstor := h _ (List.getLast_mem hne)
  generalize points.getLast hne = q at hlast hstor
  obtain rfl : l = csvRow q := by
    rw [hlines] at hlast
    simpa using hlast
  have hq : points = parseLines done ++ [q] := by
    rw [parseLines_csvLines h, parseLines_append, parseLines_singleton, parseLine_csvRow hstor] at hpoints
    exact hpoints
  rw [hq, List.append_cancel_left_eq, parseLine_take_csvRow_iff hstor]

/-- Cut before the last row, it lacks a point. -/
theorem cut_rows_ne (hne : points ≠ []) {done rest : List Bytes} {l r : Bytes}
    (hlines : csvLines points = done ++ l :: r :: rest) (k : Nat) :
    parseLines done ++ (parseLine (l.take k)).toList ≠ points := by
  have hpoints := congrArg (fun ls => (parseLines ls).length) hlines
  simp only [parseLines_csvLines h, parseLines_append, ← List.singleton_append (l := r :: rest), List.length_append,
    parseLines_singleton] at hpoints
  have hlast := getLast?_csvLines hne
  have hstor := h _ (List.getLast_mem hne)
  generalize points.getLast hne = q at hlast hstor
  have hmissing : 0 < (parseLines (r :: rest)).length := by
    rw [hlines, List.getLast?_append_of_ne_nil _ (List.cons_ne_nil _ _), List.getLast?_cons_cons] at hlast
    exact List.length_pos_of_mem (List.mem_filterMap.2 ⟨_, List.mem_of_getLast? hlast, parseLine_csvRow hstor⟩)
  have hcut := length_parseLine_take_le h (l := l) (by rw [hlines]; simp) k
  intro heq
  have hlen := congrArg List.length heq
  rw [List.length_append] at hlen
  omega

/-- **When a cut rewrite is loaded as intended.** -/
theorem load_take_csvText_iff (hne : points ≠ []) :
    loadConfiguredPointsFromCsvForUi (some ((csvText points).take n)) = points ↔
      (csvText points).length ≤ n + 1 := by
  by_cases hn : n < (csvText points).length
  · obtain ⟨done, l, rest, k, hlines, hk, hlen, hload⟩ := load_take_csvText h hn
    rw [hload]
    cases rest with
    | nil =>
      rw [cut_last_row_iff h hne hlines]
      rw [Text.joinEnd_nil, List.length_nil] at hlen
      omega
    | cons r rest =>
      rw [Text.joinEnd_cons, List.length_append, List.length_cons] at hlen
      refine iff_of_false (cut_rows_ne h hne hlines k) ?_
      omega
  · rw [List.take_of_length_le (Nat.not_lt.1 hn), load_csvText h]
    simp only [true_iff]
    omega

end

/-! ## Every operation -/

/-- The list the operation is meant to leave when it returns `true`. -/
def Operation.intended (file : PointsFile) : Operation → List ReadPointConfig
  | .appendPoint csv_line => loadConfiguredPointsFromCsvForUi file ++ (parseLine csv_line).toList
  | .removePoint remove_index => (loadConfiguredPointsFromCsvForUi file).eraseIdx remove_index
  | .clearPoints => []

/-- The returned flag tells which list the file holds: the intended one or the one from before. -/
def Honest (file_path : Bytes) (fate : WriteFate) (file : PointsFile) (op : Operation) : Prop :=
  if (op.run file_path fate file).1 then
    loadConfiguredPointsFromCsvForUi (op.run file_path fate file).2 = op.intended file
  else loadConfiguredPointsFromCsvForUi (op.run file_path fate file).2 = loadConfiguredPointsFromCsvForUi file

/-- The file system takes the whole rewrite, but for its last line break. -/
def TakesWhole (fate : WriteFate) (text : Bytes) : Prop := text.length ≤ (fate.accepted text).length + 1

/-- The condition, operation by operation. -/
def HonestWhen (fate : WriteFate) (file : PointsFile) : Operation → Prop
  | .appendPoint csv_line => fate = .openRefused ∨ ∀ p, Accepts file csv_line p →
      parseLines (Text.getlines lf (lastLine file ++ fate.accepted (csv_line ++ [lf]))) =
        (parseLine (lastLine file)).toList ++ [p]
  | .removePoint remove_index => fate = .openRefused ∨
      (loadConfiguredPointsFromCsvForUi file).length ≤ remove_index ∨
      (loadConfiguredPointsFromCsvForUi file).eraseIdx remove_index = [] ∨
      TakesWhole fate (csvText ((loadConfiguredPointsFromCsvForUi file).eraseIdx remove_index))
  | .clearPoints => True

theorem takesWhole_iff {fate : WriteFate} {text : Bytes} :
    TakesWhole fate text ↔ ∀ n, fate = .refusedAfter n → text.length ≤ n + 1 := by
  unfold TakesWhole
  cases fate with
  | succeeds => simp [WriteFate.accepted]
  | openRefused => simp [WriteFate.accepted]
  | refusedAfter m =>
    simp only [WriteFate.accepted, List.length_take, WriteFate.refusedAfter.injEq, forall_eq']
    omega

/-- A rewrite whose open succeeded. -/
theorem load_rewrite_iff {fate : WriteFate} (hopen : fate ≠ .openRefused) {points : List ReadPointConfig}
    (h : ∀ p ∈ points, Storable p) (file : PointsFile) :
    loadConfiguredPointsFromCsvForUi (rewrite fate file (csvText points)).2 = points ↔
      points = [] ∨ TakesWhole fate (csvText points) := by
  rw [rewrite, if_neg hopen, takesWhole_iff]
  by_cases hne : points = []
  · have hle : ∀ n, (loadConfiguredPointsFromCsvForUi (some ((csvText points).take n))).length ≤ points.length :=
      fun n => length_load_take_csvText_le h
    subst hne
    have hnil : ∀ n, loadConfiguredPointsFromCsvForUi (some ((csvText []).take n)) = [] :=
      fun n => List.eq_nil_of_length_eq_zero (Nat.le_zero.1 (hle n))
    cases fate with
    | succeeds => simpa [WriteFate.accepted] using load_csvText h
    | openRefused => exact absurd rfl hopen
    | refusedAfter n => simpa [WriteFate.accepted] using hnil n
  · cases fate with
    | succeeds => simpa [WriteFate.accepted] using load_csvText h
    | openRefused => exact absurd rfl hopen
    | refusedAfter n =>
      simp only [hne, false_or, WriteFate.refusedAfter.injEq, forall_eq']
      exact load_take_csvText_iff h hne

theorem rewrite_fst {fate : WriteFate} (hopen : fate ≠ .openRefused) (file : PointsFile) (text : Bytes) :
    (rewrite fate file text).1 = true := by rw [rewrite, if_neg hopen]

/-- An open that is refused changes nothing and is answered with `false`. -/
theorem honest_openRefused (file_path : Bytes) (file : PointsFile) (op : Operation) :
    Honest file_path .openRefused file op ↔ HonestWhen .openRefused file op := by
  cases op with
  | appendPoint csv_line =>
    rcases append_cases file csv_line with ⟨p, hp⟩ | ⟨hno, -⟩
    · simp [Honest, HonestWhen, append_accepted hp, append]
    · simp [Honest, HonestWhen, append_rejected hno]
  | removePoint i =>
    by_cases hi : i < (loadConfiguredPointsFromCsvForUi file).length
    · simp [Honest, HonestWhen, remove_valid hi, rewrite]
    · simp [Honest, HonestWhen, remove_invalid (Nat.not_lt.1 hi)]
  | clearPoints => simp [Honest, HonestWhen, Operation.run, saveProfileReadPointsToCsv, rewrite]

/-- An accepted record is added when what reaches the file is read as it. -/
theorem honest_append (file_path : Bytes) {fate : WriteFate} (hopen : fate ≠ .openRefused) (file : PointsFile)
    (csv_line : Bytes) :
    Honest file_path fate file (.appendPoint csv_line) ↔ HonestWhen fate file (.appendPoint csv_line) := by
  rcases append_cases file csv_line with ⟨p, hp⟩ | ⟨hno, -⟩
  · obtain ⟨before, hb, happ⟩ := load_append_lastLine file
    have hrun : (Operation.appendPoint csv_line).run file_path fate file =
        (true, some (file.getD [] ++ fate.accepted (csv_line ++ [lf]))) := by
      rw [append_accepted hp, append, if_neg hopen]
    have hp' : ∀ q, Accepts file csv_line q → q = p := fun q hq => Option.some.inj (hq.1.symm.trans hp.1)
    simp only [Honest, HonestWhen, hrun, if_true, hopen, false_or, Operation.intended, hp.1, Option.toList_some]
    rw [happ, hb, parseLines_lastLine, List.append_assoc, List.append_cancel_left_eq]
    constructor
    · intro h q hq
      rw [hp' q hq, h]
    · intro h
      exact h p hp
  · simp only [Honest, HonestWhen, append_rejected hno, Bool.false_eq_true, if_false, true_iff]
    exact .inr fun p hp => absurd hp (hno p)

/-- **When the returned flag is honest.** -/
theorem honest_iff (file_path : Bytes) (fate : WriteFate) (file : PointsFile) (op : Operation) :
    Honest file_path fate file op ↔ HonestWhen fate file op := by
  by_cases hopen : fate = .openRefused
  · rw [hopen]
    exact honest_openRefused file_path file op
  cases op with
  | appendPoint csv_line => exact honest_append file_path hopen file csv_line
  | removePoint i =>
    by_cases hi : i < (loadConfiguredPointsFromCsvForUi file).length
    · have hstor : ∀ p ∈ (loadConfiguredPointsFromCsvForUi file).eraseIdx i, Storable p :=
        fun _ hp => storable_of_mem_eraseIdx hp
      simp only [Honest, HonestWhen, remove_valid hi, rewrite_fst hopen, if_true, hopen, Nat.not_le.2 hi, false_or,
        Operation.intended]
      exact load_rewrite_iff hopen hstor file
    · simp [Honest, HonestWhen, remove_invalid (Nat.not_lt.1 hi), Nat.not_lt.1 hi]
  | clearPoints =>
    simp only [Honest, HonestWhen, Operation.run, saveProfileReadPointsToCsv, rewrite_fst hopen, if_true, iff_true,
      Operation.intended]
    have hnone : ∀ p ∈ ([] : List ReadPointConfig), Storable p := by simp
    exact (load_rewrite_iff hopen hnone file).2 (.inl rfl)

def pointsThree : PointsFile := some (str
  "A;10.0.0.1;502;1;holding;0;int16;1\nB;10.0.0.2;502;1;holding;0;int16;2\nC;10.0.0.3;502;1;holding;0;int16;3\n")

/-- **A removal on a full disk** returns `true` and leaves none of the other points. -/
theorem remove_on_full_disk :
    (loadConfiguredPointsFromCsvForUi pointsThree).length = 3 ∧
    removePointFromConfigFileByIndex (str "points_config.csv") (.refusedAfter 0) 0 pointsThree = (.ok (), some []) ∧
    ¬Honest (str "points_config.csv") (.refusedAfter 0) pointsThree (.removePoint 0) := by
  have hrun : removePointFromConfigFileByIndex (str "points_config.csv") (.refusedAfter 0) 0 pointsThree =
      (.ok (), some []) := by decide +kernel
  refine ⟨by decide +kernel, hrun, ?_⟩
  intro h
  simp only [Honest, Operation.run, hrun] at h
  exact absurd h (by decide +kernel)

end Gateway
