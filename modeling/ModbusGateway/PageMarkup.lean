import ModbusGateway.Page

/-!
# The markup of the panel

The page shows text of others: names and addresses of points as a request or a file brought them, notices,
log lines. `markup` is what of a page a browser takes for tags and attributes. Every inserted text goes through
`HtmlEscape` or is a number, and neither holds markup, so the markup of a page comes from its literals alone
(`markup_page`): which of them are written is told by the number of points and which of them run, by the
number of log lines and by whether there is a notice. The types of the points and the levels of the lines
choose texts without markup.

`htmlEscape_prefixFree`: what is shown still tells what was inserted.
-/

namespace Gateway

open BinaryFloat (Value)

/-! ## Escaped texts -/

/-- `<`, `>` and the two quotes. -/
def isMarkup (c : UInt8) : Bool := c == 60 || c == 62 || c == 34 || c == 39

def markup (t : Bytes) : Bytes := t.filter isMarkup

@[simp] theorem markup_append (s t : Bytes) : markup (s ++ t) = markup s ++ markup t := List.filter_append s t

theorem markup_eq_nil {t : Bytes} (h : ∀ c ∈ t, isMarkup c = false) : markup t = [] := by
  refine List.filter_eq_nil_iff.2 ?_
  intro c hc
  simp [h c hc]

/-- The bytes that are written as entities. -/
def entities : Bytes := [38, 60, 62, 34, 39]

/-- An escaped byte is an entity, or is itself and nothing special. -/
theorem htmlEscapeByte_cases (c : UInt8) :
    c ∈ entities ∨ htmlEscapeByte c = [c] ∧ c ≠ 38 ∧ isMarkup c = false := by
  unfold htmlEscapeByte
  split
  · exact .inl (by simp [entities])
  · exact .inl (by simp [entities])
  · exact .inl (by simp [entities])
  · exact .inl (by simp [entities])
  · exact .inl (by simp [entities])
  · rename_i hamp hlt hgt hquot hapos
    refine .inr ⟨rfl, hamp, ?_⟩
    rw [isMarkup, beq_eq_false_iff_ne.2 hlt, beq_eq_false_iff_ne.2 hgt, beq_eq_false_iff_ne.2 hquot,
      beq_eq_false_iff_ne.2 hapos]
    rfl

/-- An entity starts with the ampersand, and is not just that. -/
theorem htmlEscapeByte_entity {c : UInt8} (h : c ∈ entities) : ∃ b t, htmlEscapeByte c = 38 :: b :: t := by
  simp only [entities, List.mem_cons, List.not_mem_nil, or_false] at h
  rcases h with rfl | rfl | rfl | rfl | rfl <;> exact ⟨_, _, rfl⟩

theorem isMarkup_of_mem_entity {c b : UInt8} (h : c ∈ entities) (hb : b ∈ htmlEscapeByte c) :
    isMarkup b = false := by
  have hall : entities.all fun c => (htmlEscapeByte c).all fun b => !isMarkup b := by decide
  simpa using List.all_eq_true.1 (List.all_eq_true.1 hall c h) b hb

/-- **An escaped text holds no markup.** -/
@[simp] theorem markup_htmlEscape (s : Bytes) : markup (htmlEscape s) = [] := by
  refine markup_eq_nil ?_
  intro b hb
  obtain ⟨c, -, hc⟩ := List.mem_flatMap.1 hb
  rcases htmlEscapeByte_cases c with h | ⟨h, -, hplain⟩
  · exact isMarkup_of_mem_entity h hc
  · rw [h, List.mem_singleton] at hc
    rw [hc, hplain]

theorem htmlEscape_prefixFree : Text.PrefixFree htmlEscapeByte where
  nonempty c := by
    rcases htmlEscapeByte_cases c with h | ⟨h, -⟩
    · obtain ⟨b, t, hbt⟩ := htmlEscapeByte_entity h
      rw [hbt]
      exact List.cons_ne_nil _ _
    · rw [h]
      exact List.cons_ne_nil _ _
  eq_of_start a b hab := by
    rcases htmlEscapeByte_cases a with ha | ⟨ha, hamp, -⟩ <;>
      rcases htmlEscapeByte_cases b with hb | ⟨hb, -, -⟩
    · -- the five entities
      have hall : entities.all fun a => entities.all fun b =>
          !(htmlEscapeByte a).isPrefixOf (htmlEscapeByte b) || a == b := by decide
      have heq := List.all_eq_true.1 (List.all_eq_true.1 hall a ha) b hb
      simpa [List.isPrefixOf_iff_prefix.2 hab] using heq
    · obtain ⟨x, t, hxt⟩ := htmlEscapeByte_entity ha
      rw [hxt, hb] at hab
      have hlen := hab.length_le
      simp at hlen
    · obtain ⟨x, t, hxt⟩ := htmlEscapeByte_entity hb
      rw [hxt, ha] at hab
      exact absurd (List.cons_prefix_cons.1 hab).1 hamp
    · rw [ha, hb] at hab
      exact (List.cons_prefix_cons.1 hab).1

/-! ## Numbers -/

theorem isMarkup_of_isNumeric {c : UInt8} (h : Numeral.isNumeric c = true) : isMarkup c = false := by
  by_contra hm
  simp only [isMarkup, Bool.not_eq_false, Bool.or_eq_true, beq_iff_eq] at hm
  rcases hm with ((rfl | rfl) | rfl) | rfl <;> exact absurd h (by decide)

@[simp] theorem markup_decimal (n : Nat) : markup (Numeral.decimal n) = [] :=
  markup_eq_nil fun _ hc => isMarkup_of_isNumeric (Numeral.isNumeric_of_mem_decimal hc)

@[simp] theorem markup_toText (n : Int32) : markup (toText n) = [] := by
  refine markup_eq_nil ?_
  intro c hc
  rcases Numeral.mem_decimalInt hc with rfl | hd
  · rfl
  · exact isMarkup_of_isNumeric (Numeral.isNumeric_of_isDigit hd)

@[simp] theorem markup_printValue (v : Value) : markup (printValue v) = [] := by
  cases v with
  | finite q => exact markup_eq_nil fun _ hc => isMarkup_of_isNumeric (Numeral.isNumeric_of_mem_printGeneral hc)
  | inf negative => cases negative <;> decide
  | nan => decide

@[simp] theorem markup_removeLink (i : Nat) : markup (removeLink i) = [] := by
  have hpath : markup (str "/deletepoint?idx=") = [] := by decide
  rw [removeLink, markup_append, hpath, markup_decimal]
  rfl

@[simp] theorem markup_logClass (level : Bytes) : markup (logClass level) = [] := by
  unfold logClass
  split
  · decide
  · split <;> decide

/-! ## The parts of the page -/

theorem markup_noticeBox {notice notice' : Bytes} (h : notice.isEmpty = notice'.isEmpty) :
    markup (noticeBox notice) = markup (noticeBox notice') := by
  unfold noticeBox
  rw [h]
  split
  · rfl
  · simp only [markup_append, markup_htmlEscape]

theorem markup_pointCells (p p' : ReadPointConfig) : markup (pointCells p) = markup (pointCells p') := by
  unfold pointCells
  simp only [markup_append, markup_htmlEscape, markup_toText, markup_decimal]

theorem markup_stateCells {state state' : Option ReadPointState} (h : state.isSome = state'.isSome) :
    markup (stateCells state) = markup (stateCells state') := by
  have hconnection : ∀ connected : Bool, markup (if connected then str "SIM" else str "NÃO") = [] := by
    decide +kernel
  cases state with
  | none =>
    cases state' with
    | none => rfl
    | some s' => cases h
  | some s =>
    cases state' with
    | none => cases h
    | some s' => simp only [stateCells, markup_append, markup_printValue, markup_toText, hconnection]

theorem markup_removeCell (i i' : Nat) :
    markup (removeCell (removeLink i)) = markup (removeCell (removeLink i')) := by
  simp only [removeCell, markup_append, markup_removeLink]

theorem markup_logBox (l l' : UiLogEntry) : markup (logBox l) = markup (logBox l') := by
  simp only [logBox, markup_append, markup_htmlEscape, markup_logClass]

section
variable {inputs inputs' : PageInputs}

/-- **A row** has the markup of any other that runs or does not run like it. -/
theorem markup_pointRow {p p' : ReadPointConfig} (h : inputs.activeNow p = inputs'.activeNow p') (i i' : Nat) :
    markup (pointRow inputs i p) = markup (pointRow inputs' i' p') := by
  rw [pointRow, pointRow, markup_append, markup_append, markup_append, markup_append, markup_pointCells p p',
    markup_stateCells h, markup_removeCell i i']

/-- Rows one behind the other, whatever their numbers. -/
theorem markup_rows {points points' : List ReadPointConfig}
    (h : points.map inputs.activeNow = points'.map inputs'.activeNow) (number number' : Nat → Nat) :
    markup (points.mapIdx fun i => pointRow inputs (number i)).flatten =
      markup (points'.mapIdx fun i => pointRow inputs' (number' i)).flatten := by
  induction points generalizing points' number number' with
  | nil =>
    rw [List.map_nil, eq_comm, List.map_eq_nil_iff] at h
    rw [h, List.mapIdx_nil, List.mapIdx_nil]
  | cons p points ih =>
    cases points' with
    | nil => cases h
    | cons p' points' =>
      rw [List.map_cons, List.map_cons, List.cons.injEq] at h
      rw [List.mapIdx_cons, List.mapIdx_cons, List.flatten_cons, List.flatten_cons, markup_append, markup_append,
        markup_pointRow h.1, ih h.2 (fun i => number (i + 1)) fun i => number' (i + 1)]

theorem markup_pointsTable
    (h : inputs.configured_points_for_ui.map inputs.activeNow =
      inputs'.configured_points_for_ui.map inputs'.activeNow) :
    markup (pointsTable inputs) = markup (pointsTable inputs') := by
  have hempty : inputs.configured_points_for_ui.isEmpty = inputs'.configured_points_for_ui.isEmpty := by
    rw [← List.isEmpty_map (f := inputs.activeNow), h, List.isEmpty_map]
  unfold pointsTable
  rw [hempty]
  split
  · rfl
  · rw [markup_append, markup_append, markup_append, markup_append, markup_rows h (fun i => i) fun i => i]

theorem markup_logs {logs logs' : List UiLogEntry} (h : logs.length = logs'.length) :
    markup (logs.flatMap logBox) = markup (logs'.flatMap logBox) := by
  induction logs generalizing logs' with
  | nil =>
    rw [List.eq_nil_of_length_eq_zero h.symm]
  | cons l logs ih =>
    cases logs' with
    | nil => cases h
    | cons l' logs' =>
      rw [List.flatMap_cons, List.flatMap_cons, markup_append, markup_append, markup_logBox l l',
        ih (Nat.succ.inj h)]

/-- **The markup of the page.** -/
theorem markup_page
    (hactive : inputs.configured_points_for_ui.map inputs.activeNow =
      inputs'.configured_points_for_ui.map inputs'.activeNow)
    (hnotice : inputs.notice.isEmpty = inputs'.notice.isEmpty)
    (hlogs : inputs.recent_logs.length = inputs'.recent_logs.length) :
    markup (buildHtmlPageServerRendered inputs) = markup (buildHtmlPageServerRendered inputs') := by
  simp only [buildHtmlPageServerRendered, markup_append, markup_noticeBox hnotice, markup_pointsTable hactive,
    markup_logs hlogs]

end

/-! ## Two renderings -/

/-- The inputs differ in texts and numbers only. -/
structure SameShape (inputs inputs' : PageInputs) : Prop where
  points : inputs.configured_points_for_ui.map (fun p => (p.type, inputs.activeNow p)) =
    inputs'.configured_points_for_ui.map fun p => (p.type, inputs'.activeNow p)
  notice : inputs.notice.isEmpty = inputs'.notice.isEmpty
  logs : inputs.recent_logs.map UiLogEntry.level = inputs'.recent_logs.map UiLogEntry.level

/-- **The markup is independent of the texts**, and escaping loses nothing of them. -/
theorem panel_markup :
    (∀ inputs inputs', SameShape inputs inputs' →
      markup (buildHtmlPageServerRendered inputs) = markup (buildHtmlPageServerRendered inputs')) ∧
    Function.Injective htmlEscape := by
  refine ⟨?_, htmlEscape_prefixFree.flatMap_injective⟩
  intro inputs inputs' h
  have hactive : inputs.configured_points_for_ui.map inputs.activeNow =
      inputs'.configured_points_for_ui.map inputs'.activeNow := by
    simpa [Function.comp_def] using congrArg (List.map Prod.snd) h.points
  have hlogs : inputs.recent_logs.length = inputs'.recent_logs.length := by
    simpa using congrArg List.length h.logs
  exact markup_page hactive h.notice hlogs

/-- A point that runs, named `description`, with a notice and a log line of the same text. -/
def inputsNamed (description : Bytes) : PageInputs :=
  let p : ReadPointConfig :=
    { ip := str "10.0.0.1", port := 502, slave_id := 1, type := .holdingInt16, address := 0, count := 1
      dnp3_analog_index := 1, dnp3_status_index := 0, description := description }
  { configured_points_for_ui := [p], read_points := [p], point_states := [{}]
    recent_logs := [⟨str "12:00", str "ERROR", str "MODBUS-READ", description⟩], notice := description }

theorem panel_markup_script :
    markup (buildHtmlPageServerRendered (inputsNamed (str "<script>alert('x')</script>"))) =
      markup (buildHtmlPageServerRendered (inputsNamed (str "A"))) :=
  panel_markup.1 (inputsNamed (str "<script>alert('x')</script>")) (inputsNamed (str "A"))
    ⟨by decide +kernel, by decide +kernel, by decide +kernel⟩

end Gateway
