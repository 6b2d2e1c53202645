import ModbusGateway.Config

/-!
# CSV lines: what is parsed, what is printed, and back

* `parseLine_eq_some_iff` — the inversion of `TryBuildReadPointFromCsvLine`: everything an accepted
  line says about its point.
* `Storable` — what holds of every point a line without a line break yields (`storable_of_parseLine`),
  and is enough for its printed row to be read back (`parseLine_csvRow`).
* `parseLine_take_csvRow` — a printed row cut short is never read as its point.
* `load_csvText` — the printed file is read back whole.
-/

namespace Gateway

/-! ## Inversion -/

/-- The fields of an accepted line and the point they make. -/
structure Parsed (line : Bytes) (p : ReadPointConfig) where
  port : Bytes
  slave_id : Bytes
  register_kind : Bytes
  address : Bytes
  data_type : Bytes
  dnp3_index : Bytes
  rest : List Bytes
  index : Int32
  not_skipped : isSkipped (trimCopy line) = false
  fields : splitSemicolonLine (trimCopy line) =
    p.description :: p.ip :: port :: slave_id :: register_kind :: address :: data_type :: dnp3_index :: rest
  type_eq : parseReadValueType register_kind data_type = some p.type
  port_eq : stoi port = some p.port
  slave_id_eq : stoi slave_id = some p.slave_id
  address_eq : stoi address = some p.address
  index_eq : stoi dnp3_index = some index
  count_eq : p.count = registerCountForType p.type
  analog_index_eq : p.dnp3_analog_index = UInt16.ofInt index.toInt
  status_index_eq : p.dnp3_status_index = 0

/-- **Inversion of `TryBuildReadPointFromCsvLine`.** -/
theorem parseLine_eq_some_iff {line : Bytes} {p : ReadPointConfig} :
    parseLine line = some p ↔ Nonempty (Parsed line p) := by
  constructor
  · intro h
    unfold parseLine tryBuildReadPointFromCsvLine at h
    simp only at h
    split at h
    · simp [Except.toOption] at h
    rename_i hs
    split at h
    · rename_i name ip port slave_id kind address data idx rest hf
      split at h
      · simp [Except.toOption] at h
      rename_i type ht
      split at h
      · rename_i port' slave' address' idx' hp hsl ha hi
        simp only [Except.toOption, Option.some.injEq] at h
        subst h
        exact ⟨⟨port, slave_id, kind, address, data, idx, rest, idx', by simpa using hs, hf, ht, hp, hsl, ha, hi,
          rfl, rfl, rfl⟩⟩
      · simp [Except.toOption] at h
    · simp [Except.toOption] at h
  · rintro ⟨h⟩
    unfold parseLine tryBuildReadPointFromCsvLine
    simp only [h.not_skipped, h.fields, h.type_eq, h.port_eq, h.slave_id_eq, h.address_eq, h.index_eq]
    rw [← h.count_eq, ← h.analog_index_eq, ← h.status_index_eq]
    rfl

theorem tryBuild_eq_ok_iff {line : Bytes} {p : ReadPointConfig} :
    tryBuildReadPointFromCsvLine line = .ok p ↔ parseLine line = some p := by
  unfold parseLine
  cases tryBuildReadPointFromCsvLine line <;> simp [Except.toOption]

theorem tryBuild_eq_error_iff {line : Bytes} :
    (∃ error, tryBuildReadPointFromCsvLine line = .error error) ↔ parseLine line = none := by
  unfold parseLine
  cases tryBuildReadPointFromCsvLine line <;> simp [Except.toOption]

/-- Why a line is refused: no record, too few fields, no type, or a number `std::stoi` throws on. -/
def Refused (line : Bytes) : Prop :=
  isSkipped (trimCopy line) = true ∨
  (splitSemicolonLine (trimCopy line)).length < 8 ∨
  parseReadValueType ((splitSemicolonLine (trimCopy line)).getD 4 [])
    ((splitSemicolonLine (trimCopy line)).getD 6 []) = none ∨
  ∃ j ∈ [2, 3, 5, 7], stoi ((splitSemicolonLine (trimCopy line)).getD j []) = none

/-- A line with eight fields and numbers where they belong is read. -/
theorem exists_parsed {line : Bytes} (h : ¬Refused line) : ∃ p, parseLine line = some p := by
  unfold Refused at h
  simp only [not_or, not_lt, not_exists, not_and, List.mem_cons, List.not_mem_nil, or_false] at h
  obtain ⟨hs, hlen, ht, hn⟩ := h
  match hf : splitSemicolonLine (trimCopy line) with
  | name :: ip :: port :: slave_id :: kind :: address :: data :: index :: rest =>
    rw [hf] at ht hn
    have hnum : ∀ j, j = 2 ∨ j = 3 ∨ j = 5 ∨ j = 7 → ∃ n,
        stoi ((name :: ip :: port :: slave_id :: kind :: address :: data :: index :: rest).getD j []) = some n :=
      fun j hj => Option.ne_none_iff_exists'.1 (hn j hj)
    obtain ⟨type, ht⟩ := Option.ne_none_iff_exists'.1 ht
    obtain ⟨port', hport⟩ := hnum 2 (by simp)
    obtain ⟨slave', hslave⟩ := hnum 3 (by simp)
    obtain ⟨address', haddress⟩ := hnum 5 (by simp)
    obtain ⟨index', hindex⟩ := hnum 7 (by simp)
    let p : ReadPointConfig :=
      { description := name, ip, port := port', slave_id := slave', type, address := address'
        count := registerCountForType type, dnp3_analog_index := UInt16.ofInt index'.toInt, dnp3_status_index := 0 }
    have hp : Parsed line p := ⟨port, slave_id, kind, address, data, index, rest, index', by simpa using hs, hf, ht,
      hport, hslave, haddress, hindex, rfl, rfl, rfl⟩
    exact ⟨p, parseLine_eq_some_iff.2 ⟨hp⟩⟩
  | [] | [_] | [_, _] | [_, _, _] | [_, _, _, _] | [_, _, _, _, _] | [_, _, _, _, _, _] | [_, _, _, _, _, _, _] =>
    simp [hf] at hlen

/-- A line that is read is not refused. -/
theorem Parsed.not_refused {line : Bytes} {p : ReadPointConfig} (h : Parsed line p) : ¬Refused line := by
  intro hr
  rw [Refused, h.fields] at hr
  rcases hr with hs | hlen | ht | ⟨j, hj, hn⟩
  · rw [h.not_skipped] at hs
    cases hs
  · simp only [List.length_cons] at hlen
    omega
  · exact absurd (h.type_eq.symm.trans ht) (Option.some_ne_none _)
  · simp only [List.mem_cons, List.not_mem_nil, or_false] at hj
    rcases hj with rfl | rfl | rfl | rfl
    · exact absurd (h.port_eq.symm.trans hn) (Option.some_ne_none _)
    · exact absurd (h.slave_id_eq.symm.trans hn) (Option.some_ne_none _)
    · exact absurd (h.address_eq.symm.trans hn) (Option.some_ne_none _)
    · exact absurd (h.index_eq.symm.trans hn) (Option.some_ne_none _)

theorem parseLine_eq_none_iff {line : Bytes} : parseLine line = none ↔ Refused line := by
  constructor
  · intro h
    by_contra hr
    obtain ⟨p, hp⟩ := exists_parsed hr
    rw [h] at hp
    cases hp
  · intro hr
    cases hp : parseLine line with
    | none => rfl
    | some p =>
      obtain ⟨h⟩ := parseLine_eq_some_iff.1 hp
      exact absurd hr h.not_refused

/-- Too few separators for eight fields. -/
theorem parseLine_eq_none_of_count {line : Bytes} (h : line.count 59 < 7) : parseLine line = none := by
  cases hp : parseLine line with
  | none => rfl
  | some p =>
    obtain ⟨hf⟩ := parseLine_eq_some_iff.1 hp
    have hlen := congrArg List.length hf.fields
    have hcount : (trimCopy line).count 59 ≤ line.count 59 := List.Sublist.count_le _
      ((List.rdropWhile_prefix ..).sublist.trans (List.dropWhile_suffix _).sublist)
    have hle := Text.length_getlines_le (d := 59) (trimCopy line)
    simp only [splitSemicolonLine, List.length_map, List.length_cons] at hlen
    omega

theorem parseLine_eq_none_of_skipped {line : Bytes} (h : isSkipped (trimCopy line) = true) :
    parseLine line = none := by
  simp [parseLine, tryBuildReadPointFromCsvLine, h, Except.toOption]

/-! ## What a parsed point looks like -/

/-- A field as `SplitSemicolonLine` leaves it on one line. -/
structure IsField (t : Bytes) : Prop where
  trimmed : Text.Trimmed isTrimmed t
  no_separator : 59 ∉ t
  no_break : lf ∉ t

/-- What every point read from one line is. -/
structure Storable (p : ReadPointConfig) : Prop where
  description : IsField p.description
  description_no_comment : p.description.head? ≠ some 35
  ip : IsField p.ip
  count_eq : p.count = registerCountForType p.type
  status_index_eq : p.dnp3_status_index = 0

theorem isField_of_mem_split {line t : Bytes} (hl : lf ∉ line) (h : t ∈ splitSemicolonLine line) : IsField t := by
  obtain ⟨piece, hp, rfl⟩ := List.mem_map.1 h
  refine ⟨Text.trimmed_trim piece, ?_, ?_⟩
  · intro hm
    exact Text.not_mem_of_mem_getlines hp (Text.mem_of_mem_trim hm)
  · intro hm
    exact hl (Text.mem_of_mem_getlines (Text.mem_of_mem_trim hm) hp)

/-- The first field of a line that is no comment does not start one. -/
theorem head_field_no_comment {line name : Bytes} {rest : List Bytes} (hs : isSkipped (trimCopy line) = false)
    (h : splitSemicolonLine (trimCopy line) = name :: rest) : name.head? ≠ some 35 := by
  unfold splitSemicolonLine at h
  cases hg : Text.getlines 59 (trimCopy line) with
  | nil => simp [hg] at h
  | cons piece pieces =>
    rw [hg, List.map_cons] at h
    obtain ⟨rfl, -⟩ := List.cons.inj h
    rcases Text.head?_getlines hg with rfl | hhead
    · simp [trimCopy]
    · have hnb : ∀ a ∈ piece.head?, isTrimmed a = false := by
        rw [hhead]; exact (Text.trimmed_trim line).1
      have hkeep : (trimCopy piece).head? = piece.head? ∨ trimCopy piece = [] := by
        cases piece with
        | nil => exact .inl rfl
        | cons a t =>
          have ha : isTrimmed a = false := hnb a (by simp)
          have hpre : trimCopy (a :: t) <+: a :: t := by
            rw [trimCopy, Text.trim, List.dropWhile_cons_of_neg (by simp [ha])]
            exact List.rdropWhile_prefix ..
          cases htr : trimCopy (a :: t) with
          | nil => exact .inr rfl
          | cons b s =>
            rw [htr] at hpre
            obtain ⟨r, hr⟩ := hpre
            exact .inl (by rw [(List.cons.inj hr).1]; rfl)
      rcases hkeep with hk | hk
      · rw [hk, hhead]
        intro hc
        simp [isSkipped, hc] at hs
      · simp [hk]

theorem storable_of_parseLine {line : Bytes} {p : ReadPointConfig} (hl : lf ∉ line) (h : parseLine line = some p) :
    Storable p := by
  obtain ⟨hp⟩ := parseLine_eq_some_iff.1 h
  have hclean : lf ∉ trimCopy line := fun hm => hl (Text.mem_of_mem_trim hm)
  have hmem : ∀ t ∈ [p.description, p.ip], IsField t := by
    intro t ht
    refine isField_of_mem_split hclean ?_
    rw [hp.fields]
    simp only [List.mem_cons, List.not_mem_nil, or_false] at ht ⊢
    rcases ht with ht | ht <;> simp [ht]
  exact ⟨hmem _ (by simp), head_field_no_comment hp.not_skipped hp.fields, hmem _ (by simp), hp.count_eq,
    hp.status_index_eq⟩

/-- Every loaded point is storable. -/
theorem storable_of_mem_load {file : PointsFile} {p : ReadPointConfig}
    (h : p ∈ loadConfiguredPointsFromCsvForUi file) : Storable p := by
  obtain ⟨line, hline, hp⟩ := List.mem_filterMap.1 h
  exact storable_of_parseLine (Text.not_mem_of_mem_getlines hline) hp

/-! ## Printed rows -/

theorem stoi_toText (n : Int32) : stoi (toText n) = some n := by
  unfold stoi toText
  rw [Numeral.strtol_decimalInt, Option.bind_some, if_pos, Int32.ofInt_toInt]
  exact ⟨n.minValue_le_toInt, n.toInt_le⟩

/-- The seven fields before the DNP3 index. -/
def rowFields (p : ReadPointConfig) : List Bytes :=
  [p.description, p.ip, toText p.port, toText p.slave_id, readValueTypeRegisterKind p.type, toText p.address,
    readValueTypeDataType p.type]

theorem csvRow_eq (p : ReadPointConfig) :
    csvRow p = Text.joinEnd 59 (rowFields p) ++ Numeral.decimal p.dnp3_analog_index.toNat := by
  have hsep : str ";" = [59] := by decide
  simp [csvRow, rowFields, hsep]

theorem parseReadValueType_names (type : ReadValueType) :
    parseReadValueType (readValueTypeRegisterKind type) (readValueTypeDataType type) = some type := by
  cases type <;> decide

theorem numeral_plain {c : UInt8} (h : c = 45 ∨ Numeral.isDigit c = true) :
    isTrimmed c = false ∧ c ≠ 59 ∧ c ≠ lf ∧ c ≠ 35 := by
  rcases h with rfl | h
  · decide
  · have hne : ∀ d : UInt8, Numeral.isDigit d = false → c ≠ d := by
      rintro d hd rfl
      rw [hd] at h
      exact absurd h (by decide)
    refine ⟨?_, hne 59 (by decide), hne lf (by decide), hne 35 (by decide)⟩
    simp [isTrimmed, hne 32 (by decide), hne 9 (by decide), hne 13 (by decide), hne 10 (by decide)]

theorem isField_of_plain {t : Bytes} (h : ∀ c ∈ t, isTrimmed c = false ∧ c ≠ 59) : IsField t := by
  refine ⟨Text.trimmed_of_forall fun c hc => (h c hc).1, fun hm => (h 59 hm).2 rfl, fun hm => ?_⟩
  exact absurd (h lf hm).1 (by decide)

theorem isField_toText (n : Int32) : IsField (toText n) :=
  isField_of_plain fun _ hc => let h := numeral_plain (Numeral.mem_decimalInt hc); ⟨h.1, h.2.1⟩

theorem isField_rowFields {p : ReadPointConfig} (h : Storable p) : ∀ t ∈ rowFields p, IsField t := by
  have hkind : IsField (readValueTypeRegisterKind p.type) :=
    isField_of_plain (by cases p.type <;> decide +kernel)
  have hdata : IsField (readValueTypeDataType p.type) :=
    isField_of_plain (by cases p.type <;> decide +kernel)
  intro t ht
  simp only [rowFields, List.mem_cons, List.not_mem_nil, or_false] at ht
  rcases ht with rfl | rfl | rfl | rfl | rfl | rfl | rfl
  · exact h.description
  · exact h.ip
  · exact isField_toText _
  · exact isField_toText _
  · exact hkind
  · exact isField_toText _
  · exact hdata

section
variable {p : ReadPointConfig} (h : Storable p) {t : Bytes} (ht : ∀ c ∈ t, Numeral.isDigit c = true)
include h ht

/-- A row, its index column cut anywhere, has no blank at either end. -/
theorem trimCopy_row : trimCopy (Text.joinEnd 59 (rowFields p) ++ t) = Text.joinEnd 59 (rowFields p) ++ t := by
  apply Text.trim_of_trimmed
  constructor
  · intro c hc
    rw [rowFields, Text.joinEnd_cons] at hc
    cases hd : p.description with
    | nil => rw [hd] at hc; simp at hc; rw [← hc]; decide
    | cons b u =>
      rw [hd] at hc
      simp at hc
      exact hc ▸ h.description.trimmed.1 b (by simp [hd])
  · intro c hc
    by_cases hne : t = []
    · rcases Text.terminated_joinEnd (d := 59) (rowFields p) with hn | ⟨u, hu⟩
      · simp [rowFields] at hn
      · rw [hne, hu, List.append_nil, List.getLast?_concat, Option.mem_some_iff] at hc
        rw [← hc]; decide
    · rw [List.getLast?_append_of_ne_nil _ hne] at hc
      exact (numeral_plain (.inr (ht c (List.mem_of_getLast? hc)))).1

omit ht in
theorem isSkipped_row : isSkipped (Text.joinEnd 59 (rowFields p) ++ t) = false := by
  rw [rowFields, Text.joinEnd_cons]
  have hc := h.description_no_comment
  cases hd : p.description with
  | nil => simp [isSkipped]
  | cons b u => rw [hd] at hc; simpa [isSkipped] using hc

omit ht in
theorem map_trimCopy_rowFields : (rowFields p).map trimCopy = rowFields p :=
  (List.map_congr_left fun f hm => Text.trim_of_trimmed (isField_rowFields h f hm).trimmed).trans (List.map_id' _)

theorem split_row (hne : t ≠ []) :
    splitSemicolonLine (Text.joinEnd 59 (rowFields p) ++ t) = rowFields p ++ [t] := by
  have hf := isField_rowFields h
  have hlast : IsField t := isField_of_plain fun c hc => let hp := numeral_plain (.inr (ht c hc)); ⟨hp.1, hp.2.1⟩
  rw [splitSemicolonLine, Text.getlines_joinEnd_append (fun f hm => (hf f hm).no_separator) hlast.no_separator hne,
    List.map_append, map_trimCopy_rowFields h]
  simp [trimCopy, Text.trim_of_trimmed hlast.trimmed]

/-- A row with digits in its last column is read with the number they denote as its index. -/
theorem parseLine_row (hne : t ≠ []) : parseLine (Text.joinEnd 59 (rowFields p) ++ t) =
    (stoi t).map fun i => { p with dnp3_analog_index := UInt16.ofInt i.toInt } := by
  cases hi : stoi t with
  | none =>
    cases hq : parseLine (Text.joinEnd 59 (rowFields p) ++ t) with
    | none => rfl
    | some q =>
      obtain ⟨hp⟩ := parseLine_eq_some_iff.1 hq
      have hf := hp.fields
      rw [trimCopy_row h ht, split_row h ht hne] at hf
      simp only [rowFields, List.cons_append, List.nil_append, List.cons.injEq] at hf
      rw [hf.2.2.2.2.2.2.2.1, hp.index_eq] at hi
      cases hi
  | some i =>
    rw [Option.map_some, parseLine_eq_some_iff]
    exact ⟨⟨toText p.port, toText p.slave_id, _, toText p.address, _, t, [], i,
      by rw [trimCopy_row h ht]; exact isSkipped_row h,
      by rw [trimCopy_row h ht]; exact split_row h ht hne,
      parseReadValueType_names p.type, stoi_toText _, stoi_toText _, stoi_toText _, hi, h.count_eq, rfl,
      h.status_index_eq⟩⟩

end

/-- Digits of a number that fits the index. -/
theorem stoi_digits {t : Bytes} (ht : ∀ c ∈ t, Numeral.isDigit c = true) (hne : t ≠ [])
    (hv : Numeral.natValue t < 65536) : ∃ i, stoi t = some i ∧ i.toInt = Numeral.natValue t := by
  refine ⟨Int32.ofInt (Numeral.natValue t), ?_, Int32.toInt_ofInt_of_le (by omega) (by omega)⟩
  rw [stoi, Numeral.strtol_digits ht hne, Option.bind_some, if_pos (by omega)]

theorem toNat_ofInt {n : Nat} (hn : n < 65536) : (UInt16.ofInt (n : Int)).toNat = n := by
  simp [UInt16.ofInt]
  omega

theorem isDigit_index (p : ReadPointConfig) :
    ∀ c ∈ Numeral.decimal p.dnp3_analog_index.toNat, Numeral.isDigit c = true :=
  fun _ hc => Numeral.isDigit_of_mem_decimal hc

/-- **A printed row is read back.** -/
theorem parseLine_csvRow {p : ReadPointConfig} (h : Storable p) : parseLine (csvRow p) = some p := by
  have hn : p.dnp3_analog_index.toNat < 65536 := p.dnp3_analog_index.toNat_lt
  have hne := Numeral.decimal_ne_nil p.dnp3_analog_index.toNat
  obtain ⟨i, hi, hv⟩ := stoi_digits (isDigit_index p) hne (by rw [Numeral.natValue_decimal]; exact hn)
  have hidx : UInt16.ofInt i.toInt = p.dnp3_analog_index := by
    apply UInt16.toNat_inj.1
    rw [hv, Numeral.natValue_decimal, toNat_ofInt hn]
  rw [csvRow_eq, parseLine_row h (isDigit_index p) hne, hi, Option.map_some, hidx]

theorem count_rowFields {p : ReadPointConfig} (h : Storable p) : (Text.joinEnd 59 (rowFields p)).count 59 = 7 := by
  have hf := isField_rowFields h
  rw [Text.count_joinEnd fun f hm => (hf f hm).no_separator]
  rfl

section
variable {p : ReadPointConfig} (h : Storable p)
include h

/-- A row cut inside its fields lacks a separator. -/
theorem parseLine_take_fields {k : Nat} (hk : k < (Text.joinEnd 59 (rowFields p)).length) :
    parseLine ((Text.joinEnd 59 (rowFields p)).take k) = none := by
  refine parseLine_eq_none_of_count ?_
  rcases Text.terminated_joinEnd (d := 59) (rowFields p) with hnil | ⟨u, hu⟩
  · simp [rowFields] at hnil
  · have hc := count_rowFields h
    rw [hu] at hc hk ⊢
    simp only [List.count_append, List.count_singleton_self, List.length_append, List.length_singleton] at hc hk
    rw [List.take_append_of_le_length (by omega)]
    have hcut := (List.take_sublist k u).count_le 59
    omega

/-- A row cut before its index has no eighth field. -/
theorem parseLine_fields_only : parseLine (Text.joinEnd 59 (rowFields p)) ≠ some p := by
  have ht : ∀ c ∈ ([] : Bytes), Numeral.isDigit c = true := by simp
  intro hp
  obtain ⟨hp⟩ := parseLine_eq_some_iff.1 hp
  have hrow := trimCopy_row h ht
  rw [List.append_nil] at hrow
  have hf := congrArg List.length hp.fields
  rw [hrow, splitSemicolonLine, Text.getlines_joinEnd fun f hm => (isField_rowFields h f hm).no_separator] at hf
  simp [rowFields] at hf

/-- A row cut inside its index is read with a smaller one. -/
theorem parseLine_take_index {j : Nat} (h0 : 0 < j) (hj : j < (Numeral.decimal p.dnp3_analog_index.toNat).length) :
    parseLine (Text.joinEnd 59 (rowFields p) ++ (Numeral.decimal p.dnp3_analog_index.toNat).take j) ≠ some p := by
  have hn : p.dnp3_analog_index.toNat < 65536 := p.dnp3_analog_index.toNat_lt
  have hcut := Numeral.natValue_take_decimal _ j h0 hj
  generalize hg : (Numeral.decimal p.dnp3_analog_index.toNat).take j = t at hcut
  have ht : ∀ c ∈ t, Numeral.isDigit c = true :=
    fun c hc => isDigit_index p c (List.mem_of_mem_take (hg ▸ hc))
  have hne : t ≠ [] := by
    intro hnil
    have hl := congrArg List.length hg
    rw [hnil, List.length_take, List.length_nil] at hl
    omega
  obtain ⟨i, hi, hv⟩ := stoi_digits ht hne (by omega)
  rw [parseLine_row h ht hne, hi, Option.map_some]
  intro heq
  have hidx := congrArg (fun q => q.dnp3_analog_index.toNat) (Option.some.inj heq)
  simp only [hv, toNat_ofInt (show Numeral.natValue t < 65536 by omega)] at hidx
  omega

/-- **A printed row cut short is not read as its point**: a separator is missing, or the index is, or
the index has lost digits. -/
theorem parseLine_take_csvRow {k : Nat} (hk : k < (csvRow p).length) : parseLine ((csvRow p).take k) ≠ some p := by
  rw [csvRow_eq, List.length_append] at hk
  rw [csvRow_eq]
  rcases Nat.lt_trichotomy k (Text.joinEnd 59 (rowFields p)).length with hlt | heq | hgt
  · rw [List.take_append_of_le_length hlt.le, parseLine_take_fields h hlt]
    exact (Option.some_ne_none p).symm
  · rw [heq, List.take_left]
    exact parseLine_fields_only h
  · obtain ⟨j, rfl⟩ : ∃ j, k = (Text.joinEnd 59 (rowFields p)).length + j := ⟨_, (Nat.add_sub_cancel' hgt.le).symm⟩
    rw [List.take_length_add_append]
    exact parseLine_take_index h (by omega) (by omega)

end

/-! ## The printed file -/

/-- The three comment lines. -/
def headerLines : List Bytes :=
  [str "# nome;ip;port;slave_id;registrador;endereco;tipo_dado;dnp3_indice",
   str "# registrador: coil_status,input_status,holding,input_register | tipo_dado: bool,int16,uint16,int32,uint32,float32",
   str "# O DNP3 é sugerido automaticamente. O único campo DNP3 editável é o índice."]

def csvLines (points : List ReadPointConfig) : List Bytes := headerLines ++ points.map csvRow

theorem csvHeader_eq : csvHeader = Text.joinEnd lf headerLines := by decide +kernel

theorem csvText_eq (points : List ReadPointConfig) : csvText points = Text.joinEnd lf (csvLines points) := by
  simp [csvText, csvHeader_eq, csvLines, Text.joinEnd, List.flatMap_map]

theorem csvRow_no_break {p : ReadPointConfig} (h : Storable p) : lf ∉ csvRow p := by
  rw [csvRow_eq, List.mem_append, not_or]
  constructor
  · intro hm
    obtain ⟨f, hf, hm⟩ := List.mem_flatMap.1 hm
    rcases List.mem_append.1 hm with hm | hm
    · exact (isField_rowFields h f hf).no_break hm
    · exact absurd hm (by decide)
  · intro hm
    exact (numeral_plain (.inr (isDigit_index p _ hm))).2.2.1 rfl

theorem csvLines_no_break {points : List ReadPointConfig} (h : ∀ p ∈ points, Storable p) :
    ∀ l ∈ csvLines points, lf ∉ l := by
  have hh : ∀ l ∈ headerLines, lf ∉ l := by decide +kernel
  intro l hl
  rcases List.mem_append.1 hl with hl | hl
  · exact hh l hl
  · obtain ⟨p, hp, rfl⟩ := List.mem_map.1 hl
    exact csvRow_no_break (h p hp)

theorem parseLines_append (ls ls' : List Bytes) : parseLines (ls ++ ls') = parseLines ls ++ parseLines ls' :=
  List.filterMap_append ..

theorem parseLine_comment {l : Bytes} (h : l.head? = some 35) : parseLine l = none := by
  cases l with
  | nil => simp at h
  | cons c t =>
    obtain rfl : c = 35 := by simpa using h
    apply parseLine_eq_none_of_skipped
    have hpre : trimCopy (35 :: t) <+: 35 :: t := by
      rw [trimCopy, Text.trim, List.dropWhile_cons_of_neg (by decide)]
      exact List.rdropWhile_prefix ..
    cases htr : trimCopy (35 :: t) with
    | nil => rfl
    | cons b s =>
      rw [htr] at hpre
      obtain ⟨r, hr⟩ := hpre
      rw [(List.cons.inj hr).1]; rfl

theorem parseLines_headerLines : parseLines headerLines = [] := by
  rw [parseLines, List.filterMap_eq_nil_iff]
  have hh : ∀ l ∈ headerLines, l.head? = some 35 := by decide +kernel
  exact fun l hl => parseLine_comment (hh l hl)

theorem parseLines_rows {points : List ReadPointConfig} (h : ∀ p ∈ points, Storable p) :
    parseLines (points.map csvRow) = points := by
  induction points with
  | nil => rfl
  | cons p ps ih =>
    rw [List.map_cons, parseLines, List.filterMap_cons_some (parseLine_csvRow (h p (by simp)))]
    exact congrArg _ (ih fun q hq => h q (by simp [hq]))

/-- **The printed file is read back whole.** -/
theorem load_csvText {points : List ReadPointConfig} (h : ∀ p ∈ points, Storable p) :
    loadConfiguredPointsFromCsvForUi (some (csvText points)) = points := by
  rw [loadConfiguredPointsFromCsvForUi, fileLines_some, csvText_eq, Text.getlines_joinEnd (csvLines_no_break h),
    csvLines, parseLines_append, parseLines_headerLines, List.nil_append, parseLines_rows h]

theorem terminated_csvText (points : List ReadPointConfig) : FileTerminated (some (csvText points)) := by
  rw [FileTerminated, Option.getD_some, csvText_eq]
  exact Text.terminated_joinEnd _

end Gateway
