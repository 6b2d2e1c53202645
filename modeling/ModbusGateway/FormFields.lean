import ModbusGateway.Csv
import ModbusGateway.Interface

/-!
# The form of a new point and its CSV line

`BuildCsvLineFromForm` joins eight decoded fields with `;` and escapes nothing; `TryBuild…` cuts the line at
every `;`, trims, and looks at the first eight columns.

* `FieldsKept` — an accepted form makes a point of its own fields.
* `fields_kept_iff` — that is so exactly when the line is refused anyway, or no `;` stands in the name, the ip
  and the register kind, and either none in the number fields and the data type or the columns moved by them
  read as the fields they displace.
-/

namespace Gateway

/-! ## Columns of a line -/

/-- Column `j` as `SplitSemicolonLine` leaves it, empty behind the last. -/
def column (line : Bytes) (j : Nat) : Bytes := (splitSemicolonLine line).getD j []

theorem getD_append_nil (columns : List Bytes) (j : Nat) : (columns ++ [[]]).getD j [] = columns.getD j [] := by
  rw [List.getD_eq_getElem?_getD, List.getD_eq_getElem?_getD]
  rcases Nat.lt_trichotomy j columns.length with h | rfl | h
  · rw [List.getElem?_append_left h]
  · simp
  · rw [List.getElem?_eq_none (by rw [List.length_append, List.length_singleton]; omega), List.getElem?_eq_none h.le]

theorem separator_not_blank {q : Bytes} (hq : ∀ c ∈ q, isTrimmed c = true) : 59 ∉ q := by
  intro hm
  exact absurd (hq 59 hm) (by decide)

/-- A text without a separator is one column, or none. -/
theorem split_plain {u : Bytes} (h : 59 ∉ u) : splitSemicolonLine u = if u = [] then [] else [trimCopy u] := by
  split
  · rename_i hnil
    rw [hnil]
    rfl
  · rename_i hne
    rw [splitSemicolonLine, Text.getlines_last h hne, List.map_singleton]

/-- Blanks behind a line change no column. -/
theorem column_append_blank (line : Bytes) {q : Bytes} (hq : ∀ c ∈ q, isTrimmed c = true) (j : Nat) :
    column (line ++ q) j = column line j := by
  obtain ⟨s, hs, hline⟩ := Text.exists_terminated (d := (59 : UInt8)) line
  have hu := Text.not_mem_unfinished (d := (59 : UInt8)) line
  generalize Text.unfinished 59 line = u at hline hu
  have huq : 59 ∉ u ++ q := by
    rw [List.mem_append, not_or]
    exact ⟨hu, separator_not_blank hq⟩
  have htrim : trimCopy (u ++ q) = trimCopy u := Text.trim_append_blank hq u
  have hsplit : ∀ v, splitSemicolonLine (s ++ v) = splitSemicolonLine s ++ splitSemicolonLine v := by
    intro v
    rw [splitSemicolonLine, Text.getlines_append hs, List.map_append]
    rfl
  rw [column, column, hline, List.append_assoc, hsplit, hsplit, split_plain huq, split_plain hu, htrim]
  by_cases hunil : u = []
  · subst hunil
    by_cases hqnil : q = []
    · simp [hqnil]
    · simp only [List.nil_append, hqnil, if_false, if_true, List.append_nil]
      exact getD_append_nil _ _
  · simp [hunil]

/-- Blanks in front of one neither. -/
theorem split_blank_append {p : Bytes} (hp : ∀ c ∈ p, isTrimmed c = true) {line : Bytes} (hne : line ≠ []) :
    splitSemicolonLine (p ++ line) = splitSemicolonLine line := by
  induction p with
  | nil => rfl
  | cons c p ih =>
    have hc : isTrimmed c = true := hp c List.mem_cons_self
    have hsep : c ≠ 59 := by
      rintro rfl
      exact absurd hc (by decide)
    rw [← ih fun d hd => hp d (List.mem_cons_of_mem _ hd)]
    rw [List.cons_append, splitSemicolonLine, splitSemicolonLine, Text.getlines_cons, if_neg hsep]
    cases hlines : Text.getlines 59 (p ++ line) with
    | nil => exact absurd hlines (Text.getlines_ne_nil (by simp [hne]))
    | cons l ls =>
      have htrim : trimCopy ([c] ++ l) = trimCopy l := Text.trim_blank_append (by simpa using hc) l
      rw [List.map_cons, List.map_cons, ← htrim]
      rfl

/-- **Trimming a line first changes no column.** -/
theorem column_trimCopy (line : Bytes) (j : Nat) : column (trimCopy line) j = column line j := by
  obtain ⟨p, q, hp, hq, hline⟩ := @Text.exists_trim _ isTrimmed line
  change line = p ++ trimCopy line ++ q at hline
  conv_rhs => rw [hline, column_append_blank _ hq]
  by_cases hnil : trimCopy line = []
  · have hblank := column_append_blank [] hp j
    rw [hnil, List.append_nil]
    exact hblank.symm
  · rw [column, column, split_blank_append hp hnil]

/-- The first column ends at the first separator. -/
theorem column_zero (line : Bytes) : column line 0 = trimCopy (line.takeWhile (· != 59)) := by
  have hfirst : 59 ∉ line.takeWhile (· != 59) := by
    intro hm
    simpa using List.mem_takeWhile_imp hm
  have hsplit := List.takeWhile_append_dropWhile (p := (· != (59 : UInt8))) (l := line)
  have hrest := List.head?_dropWhile_not (· != (59 : UInt8)) line
  generalize line.takeWhile (· != 59) = f at hfirst hsplit
  cases hr : line.dropWhile (· != 59) with
  | nil =>
    rw [hr, List.append_nil] at hsplit
    rw [← hsplit, column, split_plain hfirst]
    split
    · rename_i hnil
      rw [hnil]
      rfl
    · rfl
  | cons c rest =>
    rw [hr] at hsplit hrest
    obtain rfl : c = 59 := by simpa using hrest
    rw [← hsplit, column, splitSemicolonLine, Text.getlines_line hfirst]
    rfl

theorem column_succ {f : Bytes} (h : 59 ∉ f) (t : Bytes) (j : Nat) : column (f ++ 59 :: t) (j + 1) = column t j := by
  rw [column, splitSemicolonLine, Text.getlines_line h, List.map_cons, List.getD_cons_succ]
  rfl

theorem takeWhile_of_not_mem {f : Bytes} (h : 59 ∉ f) : f.takeWhile (· != 59) = f := by
  rw [List.takeWhile_eq_self_iff]
  exact Text.bne_of_not_mem h

/-- A field before a separator: its column is what stands in it before its own first separator. -/
theorem column_field (f t : Bytes) : column (f ++ 59 :: t) 0 = trimCopy (f.takeWhile (· != 59)) := by
  have htake : (f ++ 59 :: t).takeWhile (· != 59) = f.takeWhile (· != 59) := by
    rw [List.takeWhile_append]
    split
    · rename_i h
      simp [(List.takeWhile_prefix _).eq_of_length h]
    · rfl
  rw [column_zero, htake]

/-! ## Texts and columns -/

theorem mem_trimCopy {t : Bytes} (h : 59 ∈ t) : 59 ∈ trimCopy t := by
  obtain ⟨p, q, hp, hq, ht⟩ := @Text.exists_trim _ isTrimmed t
  rw [ht, List.mem_append, List.mem_append] at h
  rcases h with (h | h) | h
  · exact absurd h (separator_not_blank hp)
  · exact h
  · exact absurd h (separator_not_blank hq)

/-- A field is its trimmed column only without a separator in it. -/
theorem trimCopy_takeWhile_eq_iff (f : Bytes) : trimCopy (f.takeWhile (· != 59)) = trimCopy f ↔ 59 ∉ f := by
  constructor
  · intro h hm
    have hin : 59 ∈ trimCopy (f.takeWhile (· != 59)) := by
      rw [h]
      exact mem_trimCopy hm
    simpa using List.mem_takeWhile_imp (Text.mem_of_mem_trim hin)
  · intro h
    rw [takeWhile_of_not_mem h]

theorem isSpace_of_isTrimmed {c : UInt8} (h : isTrimmed c = true) : Numeral.isSpace c = true := by
  simp only [isTrimmed, Bool.or_eq_true, beq_iff_eq] at h
  rcases h with ((rfl | rfl) | rfl) | rfl <;> rfl

theorem strtol_trimCopy (t : Bytes) : Numeral.strtol (trimCopy t) = Numeral.strtol t := by
  obtain ⟨p, q, hp, hq, ht⟩ := @Text.exists_trim _ isTrimmed t
  conv_rhs => rw [ht, Numeral.strtol_append_blank _ fun c hc => isSpace_of_isTrimmed (hq c hc),
    Numeral.strtol_blank_append fun c hc => isSpace_of_isTrimmed (hp c hc)]
  rfl

/-- `std::stoi` stops at a separator by itself. -/
theorem stoi_column (f : Bytes) : stoi (trimCopy (f.takeWhile (· != 59))) = stoi f := by
  have hsplit := List.takeWhile_append_dropWhile (p := (· != (59 : UInt8))) (l := f)
  have hrest := List.head?_dropWhile_not (· != (59 : UInt8)) f
  rw [stoi, stoi, strtol_trimCopy]
  cases hr : f.dropWhile (· != 59) with
  | nil =>
    rw [hr, List.append_nil] at hsplit
    rw [hsplit]
  | cons c rest =>
    rw [hr] at hsplit hrest
    obtain rfl : c = 59 := by simpa using hrest
    have hstop : Numeral.NoDigit (59 :: rest) := by simp [Numeral.NoDigit, Numeral.isDigit]
    have hnumeral := Numeral.strtol_append_of_noDigit (f.takeWhile (· != 59)) hstop rfl
    rw [hsplit] at hnumeral
    rw [hnumeral]

/-! ## Forms -/

/-- The decoded fields of an `/addpoint` path. -/
structure AddForm where
  name : Bytes
  ip : Bytes
  port : Bytes
  slave_id : Bytes
  reg : Bytes
  address : Bytes
  data_type : Bytes
  dnp_index : Bytes

def addForm (path : Bytes) : AddForm where
  name := getQueryParam path (str "name")
  ip := getQueryParam path (str "ip")
  port := getQueryParam path (str "port")
  slave_id := getQueryParam path (str "slave_id")
  reg := getQueryParam path (str "reg")
  address := getQueryParam path (str "address")
  data_type := getQueryParam path (str "data_type")
  dnp_index := getQueryParam path (str "dnp_index")

namespace AddForm

/-- The data type that is written: the discrete kinds always get `bool`. -/
def writtenDataType (form : AddForm) : Bytes :=
  if normalizeToken form.reg = str "coil_status" ∨ normalizeToken form.reg = str "coil" ∨
      normalizeToken form.reg = str "input_status" ∨ normalizeToken form.reg = str "discrete_input" then str "bool"
  else form.data_type

/-- The line of a complete form. -/
def line (form : AddForm) : Bytes :=
  form.name ++ 59 :: (form.ip ++ 59 :: (form.port ++ 59 :: (form.slave_id ++ 59 :: (form.reg ++ 59 ::
    (form.address ++ 59 :: (form.writtenDataType ++ 59 :: form.dnp_index))))))

end AddForm

/-- An incomplete form has no line. -/
theorem buildCsvLineFromForm_cases (path : Bytes) :
    buildCsvLineFromForm path = [] ∨ buildCsvLineFromForm path = (addForm path).line := by
  have hsep : str ";" = [59] := by decide
  unfold buildCsvLineFromForm
  simp only
  split
  · exact .inl rfl
  · exact .inr (by simp only [hsep, List.append_assoc, List.singleton_append]; rfl)

/-- The register kind a name stands for, by `ParseReadValueType`: one of the discrete kinds with `bool`, one of
the register kinds with `int16`. -/
def namedRegisterKind (reg : Bytes) : Option Bytes :=
  ((parseReadValueType reg (str "bool")).or (parseReadValueType reg (str "int16"))).map readValueTypeRegisterKind

/-- The index of a point, narrowed as `TryBuild…` does. -/
def narrowedIndex (text : Bytes) : Option UInt16 := (stoi text).map fun index => UInt16.ofInt index.toInt

/-- A point of the form's own fields. -/
structure MadeOf (form : AddForm) (p : ReadPointConfig) : Prop where
  description : p.description = trimCopy form.name
  ip : p.ip = trimCopy form.ip
  port : stoi form.port = some p.port
  slave_id : stoi form.slave_id = some p.slave_id
  kind : namedRegisterKind form.reg = some (readValueTypeRegisterKind p.type)
  address : stoi form.address = some p.address
  index : narrowedIndex form.dnp_index = some p.dnp3_analog_index

/-- **Form fields do not bleed into each other.** -/
def FieldsKept (path : Bytes) : Prop :=
  ∀ p, tryBuildReadPointFromCsvLine (buildCsvLineFromForm path) = .ok p → MadeOf (addForm path) p

/-- What stands in the columns of four fields reads as the fields. -/
structure ReadsAlike (form : AddForm) : Prop where
  slave_id : stoi (column form.line 3) = stoi form.slave_id
  kind : namedRegisterKind (column form.line 4) = namedRegisterKind form.reg
  address : stoi (column form.line 5) = stoi form.address
  index : narrowedIndex (column form.line 7) = narrowedIndex form.dnp_index

/-- No separator in the first fields, and none that matters in the others. -/
structure FieldsSeparate (form : AddForm) : Prop where
  name : 59 ∉ form.name
  ip : 59 ∉ form.ip
  reg : 59 ∉ form.reg
  rest : (59 ∉ form.port ∧ 59 ∉ form.slave_id ∧ 59 ∉ form.address ∧ 59 ∉ form.writtenDataType) ∨ ReadsAlike form

/-! ## Register kinds -/

/-- The sixteen names of register kinds. -/
def registerKindNames : List Bytes :=
  [str "coil", str "coil_status", str "coils", str "0x", str "input_status", str "discrete_input", str "discrete",
    str "1x", str "holding", str "hr", str "4x", str "holding_register", str "input", str "ir", str "3x",
    str "input_register"]

/-- The type chosen by a chain of data types is one of the chain's. -/
theorem mem_of_chain {α : Type} {c₁ c₂ c₃ c₄ c₅ : Prop} [Decidable c₁] [Decidable c₂] [Decidable c₃] [Decidable c₄]
    [Decidable c₅] {a a₁ a₂ a₃ a₄ a₅ : α}
    (h : (if c₁ then some a₁ else if c₂ then some a₂ else if c₃ then some a₃ else if c₄ then some a₄
      else if c₅ then some a₅ else none) = some a) : a ∈ [a₁, a₂, a₃, a₄, a₅] := by
  split_ifs at h <;> cases h <;> simp

theorem namedRegisterKind_of_parse {reg data : Bytes} {type : ReadValueType}
    (h : parseReadValueType reg data = some type) :
    namedRegisterKind reg = some (readValueTypeRegisterKind type) ∧ normalizeToken reg ∈ registerKindNames := by
  have hbool : normalizeToken (str "bool") = str "bool" := by decide
  have hint : normalizeToken (str "int16") = str "int16" := by decide
  unfold namedRegisterKind
  unfold parseReadValueType at h ⊢
  simp only [hbool, hint] at h ⊢
  generalize normalizeToken reg = r at h ⊢
  generalize normalizeToken data = d at h
  rcases ite_eq_iff.1 h with ⟨hcoil, h⟩ | ⟨hcoil, h⟩
  · rw [if_pos hcoil, if_pos hcoil]
    obtain rfl := Option.some.inj (Option.ite_none_right_eq_some.1 h).2
    refine ⟨by decide, ?_⟩
    rcases hcoil with rfl | rfl | rfl | rfl <;> decide
  rw [if_neg hcoil, if_neg hcoil]
  rcases ite_eq_iff.1 h with ⟨hinput, h⟩ | ⟨hinput, h⟩
  · rw [if_pos hinput, if_pos hinput]
    obtain rfl := Option.some.inj (Option.ite_none_right_eq_some.1 h).2
    refine ⟨by decide, ?_⟩
    rcases hinput with rfl | rfl | rfl | rfl <;> decide
  rw [if_neg hinput, if_neg hinput]
  obtain ⟨hregister, h⟩ := Option.ite_none_left_eq_some.1 h
  rw [if_neg hregister, if_neg hregister]
  by_cases hholding : r = str "holding" ∨ r = str "hr" ∨ r = str "4x" ∨ r = str "holding_register"
  · simp only [hholding, if_true] at h ⊢
    have hkinds : ∀ t ∈ [.holdingInt16, .holdingUInt16, .holdingInt32, .holdingUInt32, .holdingFloat32],
        readValueTypeRegisterKind t = str "holding" := by decide
    refine ⟨by rw [hkinds type (mem_of_chain h)]; decide, ?_⟩
    rcases hholding with rfl | rfl | rfl | rfl <;> decide
  · have hinput : r = str "input" ∨ r = str "ir" ∨ r = str "3x" ∨ r = str "input_register" := by
      by_contra hno
      exact hregister ⟨hholding, hno⟩
    simp only [hholding, if_false] at h ⊢
    have hkinds : ∀ t ∈ [.inputInt16, .inputUInt16, .inputInt32, .inputUInt32, .inputFloat32],
        readValueTypeRegisterKind t = str "input_register" := by decide
    refine ⟨by rw [hkinds type (mem_of_chain h)]; decide, ?_⟩
    rcases hinput with rfl | rfl | rfl | rfl <;> decide

/-- No name of a register kind holds a separator. -/
theorem no_separator_of_named {reg kind : Bytes} (h : namedRegisterKind reg = some kind) : 59 ∉ reg := by
  obtain ⟨type, htype, -⟩ := Option.map_eq_some_iff.1 h
  have hparse : ∃ data, parseReadValueType reg data = some type := by
    rcases Option.or_eq_some_iff.1 htype with hp | ⟨-, hp⟩
    · exact ⟨_, hp⟩
    · exact ⟨_, hp⟩
  obtain ⟨data, hdata⟩ := hparse
  intro hm
  have hsep : 59 ∈ normalizeToken reg := List.mem_map.2 ⟨59, mem_trimCopy hm, by decide⟩
  have hnames : ∀ t ∈ registerKindNames, 59 ∉ t := by decide
  exact hnames _ (namedRegisterKind_of_parse hdata).2 hsep

/-! ## The columns of an accepted form -/

/-- What an accepted line says about its columns. -/
theorem Parsed.columns {line : Bytes} {p : ReadPointConfig} (h : Parsed line p) :
    p.description = column line 0 ∧ p.ip = column line 1 ∧ stoi (column line 2) = some p.port ∧
    stoi (column line 3) = some p.slave_id ∧
    namedRegisterKind (column line 4) = some (readValueTypeRegisterKind p.type) ∧
    stoi (column line 5) = some p.address ∧ narrowedIndex (column line 7) = some p.dnp3_analog_index := by
  simp only [← column_trimCopy line]
  simp only [column, h.fields, narrowedIndex]
  exact ⟨rfl, rfl, h.port_eq, h.slave_id_eq, (namedRegisterKind_of_parse h.type_eq).1, h.address_eq,
    by simp [h.index_eq, h.analog_index_eq]⟩

namespace AddForm

variable {form : AddForm}

theorem column_name (form : AddForm) : column form.line 0 = trimCopy (form.name.takeWhile (· != 59)) :=
  column_field _ _

theorem column_ip (h : 59 ∉ form.name) : column form.line 1 = trimCopy (form.ip.takeWhile (· != 59)) := by
  rw [line, column_succ h, column_field]

theorem column_port (hname : 59 ∉ form.name) (hip : 59 ∉ form.ip) :
    column form.line 2 = trimCopy (form.port.takeWhile (· != 59)) := by
  rw [line, column_succ hname, column_succ hip, column_field]

/-- Without separators in the fields in between every column reads as its field. -/
theorem readsAlike (hname : 59 ∉ form.name) (hip : 59 ∉ form.ip) (hport : 59 ∉ form.port)
    (hslave : 59 ∉ form.slave_id) (hreg : 59 ∉ form.reg) (haddress : 59 ∉ form.address)
    (hdata : 59 ∉ form.writtenDataType) : ReadsAlike form where
  slave_id := by
    rw [line, column_succ hname, column_succ hip, column_succ hport, column_field, stoi_column]
  kind := by
    have hcolumn : column form.line 4 = trimCopy form.reg := by
      rw [line, column_succ hname, column_succ hip, column_succ hport, column_succ hslave, column_field,
        takeWhile_of_not_mem hreg]
    have htoken : normalizeToken (trimCopy form.reg) = normalizeToken form.reg := by
      rw [normalizeToken, normalizeToken, trimCopy, trimCopy, Text.trim_trim]
    unfold namedRegisterKind parseReadValueType
    rw [hcolumn, htoken]
  address := by
    rw [line, column_succ hname, column_succ hip, column_succ hport, column_succ hslave, column_succ hreg,
      column_field, stoi_column]
  index := by
    rw [narrowedIndex, narrowedIndex, line, column_succ hname, column_succ hip, column_succ hport, column_succ hslave,
      column_succ hreg, column_succ haddress, column_succ hdata, column_zero, stoi_column]

end AddForm

/-- An accepted form, seen through its columns. -/
theorem madeOf_iff {form : AddForm} {p : ReadPointConfig} (hp : Parsed form.line p) :
    MadeOf form p ↔ FieldsSeparate form := by
  obtain ⟨hdescription, hip, hport, hslave, hkind, haddress, hindex⟩ := hp.columns
  rw [form.column_name] at hdescription
  constructor
  · intro h
    have hname : 59 ∉ form.name := by
      rw [← trimCopy_takeWhile_eq_iff, ← hdescription]
      exact h.description
    rw [AddForm.column_ip hname] at hip
    have hno : 59 ∉ form.ip := by
      rw [← trimCopy_takeWhile_eq_iff, ← hip]
      exact h.ip
    refine ⟨hname, hno, no_separator_of_named h.kind, .inr ?_⟩
    exact ⟨hslave.trans h.slave_id.symm, hkind.trans h.kind.symm, haddress.trans h.address.symm,
      hindex.trans h.index.symm⟩
  · intro h
    have halike : ReadsAlike form := by
      rcases h.rest with ⟨hport, hslave, haddress, hdata⟩ | halike
      · exact AddForm.readsAlike h.name h.ip hport hslave h.reg haddress hdata
      · exact halike
    rw [AddForm.column_ip h.name] at hip
    rw [AddForm.column_port h.name h.ip, stoi_column] at hport
    refine ⟨?_, ?_, hport, ?_, ?_, ?_, ?_⟩
    · rw [hdescription, trimCopy_takeWhile_eq_iff]
      exact h.name
    · rw [hip, trimCopy_takeWhile_eq_iff]
      exact h.ip
    · rw [← halike.slave_id, hslave]
    · rw [← halike.kind, hkind]
    · rw [← halike.address, haddress]
    · rw [← halike.index, hindex]

/-- **When form fields do not bleed into each other.** -/
theorem fields_kept_iff (path : Bytes) :
    FieldsKept path ↔ Refused (buildCsvLineFromForm path) ∨ FieldsSeparate (addForm path) := by
  rw [← parseLine_eq_none_iff, FieldsKept]
  cases hparse : parseLine (buildCsvLineFromForm path) with
  | none =>
    refine iff_of_true (fun p hp => ?_) (.inl rfl)
    rw [tryBuild_eq_ok_iff, hparse] at hp
    cases hp
  | some p =>
    obtain ⟨hp⟩ := parseLine_eq_some_iff.1 hparse
    have hline : buildCsvLineFromForm path = (addForm path).line := by
      rcases buildCsvLineFromForm_cases path with hnil | hline
      · have hskipped := hp.not_skipped
        rw [hnil] at hskipped
        cases hskipped
      · exact hline
    rw [hline] at hp
    rw [← madeOf_iff hp]
    constructor
    · intro h
      exact .inr (h p (tryBuild_eq_ok_iff.2 hparse))
    · rintro (hnone | h) q hq
      · cases hnone
      · rw [tryBuild_eq_ok_iff, hparse] at hq
        obtain rfl := Option.some.inj hq
        exact h

/-- Seven separators in the name, percent-encoded. -/
def pathBleeding : Bytes :=
  str "/addpoint?name=A%3B10.0.0.9%3B502%3B1%3Bholding%3B0%3Bint16%3B7&ip=10.0.0.1&port=502" ++
  str "&slave_id=1&reg=holding&address=3&data_type=int16&dnp_index=5"

def pointBled : ReadPointConfig :=
  { description := str "A", ip := str "10.0.0.9", port := 502, slave_id := 1, type := .holdingInt16, address := 0
    count := 1, dnp3_analog_index := 7, dnp3_status_index := 0 }

/-- **A name that names another device.** The form says 10.0.0.1, address 3 and index 5; the stored point is the one
its name spells. -/
theorem name_bleeds : tryBuildReadPointFromCsvLine (buildCsvLineFromForm pathBleeding) = .ok pointBled ∧
    (addForm pathBleeding).ip = str "10.0.0.1" ∧ (addForm pathBleeding).address = str "3" ∧
    (addForm pathBleeding).dnp_index = str "5" ∧ ¬FieldsKept pathBleeding := by
  have hpoint : tryBuildReadPointFromCsvLine (buildCsvLineFromForm pathBleeding) = .ok pointBled :=
    tryBuild_eq_ok_iff.2 (by decide +kernel)
  refine ⟨hpoint, by decide +kernel, by decide +kernel, by decide +kernel, ?_⟩
  intro hkept
  have hip := (hkept pointBled hpoint).ip
  exact absurd hip (by decide +kernel)

end Gateway
