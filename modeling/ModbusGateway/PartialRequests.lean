import ModbusGateway.HttpRuns

/-!
# Requests that arrive in part (`Interface.cpp:551-625`)

`HandleHttpClient` calls `recv` once and acts on what it got. A target cut short is still a path, with a shorter
value in its last parameter.

* `NotInPart` — a portion has the effect of the whole request or none.
* `not_in_part_iff` — for any prior file: it does unless the portion asks for an operation of its own that the
  file does not refuse. `row_one_for_row_ten` is such a portion.
-/

namespace Gateway

/-! ## What a portion asks for -/

theorem nextToken_cut {s t : Bytes} (h : s <+: t) :
    (nextToken s).1 <+: (nextToken t).1 ∧ (nextToken s).2 <+: (nextToken t).2 :=
  ⟨Text.takeWhile_cut (Text.dropWhile_cut h), Text.dropWhile_cut (Text.dropWhile_cut h)⟩

/-- **The path of a portion is a part of the path.** -/
theorem requestPath_cut {portion request : Bytes} (h : portion <+: request) :
    requestPath portion <+: requestPath request := by
  have hstring : cString portion <+: cString request := Text.takeWhile_cut h
  exact (nextToken_cut (nextToken_cut hstring).2).1

theorem isPrefixOf_cut {route path path' : Bytes} (h : path <+: path') (hr : route.isPrefixOf path = true) :
    route.isPrefixOf path' = true :=
  List.isPrefixOf_iff_prefix.2 ((List.isPrefixOf_iff_prefix.1 hr).trans h)

/-- The route an operation comes by. -/
def Operation.route : Operation → Bytes
  | .removePoint _ => str "/deletepoint"
  | .clearPoints => str "/clearpoints"
  | .appendPoint _ => str "/addpoint"

theorem route_of_operation {received : Bytes} {op : Operation} (h : operationOf received = some op) :
    received ≠ [] ∧ op.route.isPrefixOf (requestPath received) = true := by
  unfold operationOf at h
  simp only at h
  split at h
  · cases h
  rename_i hempty
  refine ⟨by simpa using hempty, ?_⟩
  split at h
  · rename_i hroute
    obtain ⟨i, -, rfl⟩ := Option.map_eq_some_iff.1 h
    exact hroute
  split at h
  · rename_i hroute
    cases h
    exact hroute
  split at h
  · rename_i hroute
    cases h
    exact hroute.1
  · cases h

/-- No route starts with another. -/
theorem route_unique {r r' path : Bytes} (hr : r ∈ [str "/deletepoint", str "/clearpoints", str "/addpoint"])
    (hr' : r' ∈ [str "/deletepoint", str "/clearpoints", str "/addpoint"]) (h : r.isPrefixOf path = true)
    (h' : r'.isPrefixOf path = true) : r = r' := by
  have hcomparable := List.prefix_or_prefix_of_prefix (List.isPrefixOf_iff_prefix.1 h) (List.isPrefixOf_iff_prefix.1 h')
  have hroutes : ∀ r ∈ [str "/deletepoint", str "/clearpoints", str "/addpoint"],
      ∀ r' ∈ [str "/deletepoint", str "/clearpoints", str "/addpoint"], r <+: r' ∨ r' <+: r → r = r' := by
    decide +kernel
  exact hroutes r hr r' hr' hcomparable

theorem route_mem (op : Operation) : op.route ∈ [str "/deletepoint", str "/clearpoints", str "/addpoint"] := by
  cases op <;> simp [Operation.route]

/-- **The whole request is of the route the portion shows.** -/
theorem route_cut {portion request : Bytes} {op op' : Operation} (h : portion <+: request)
    (hop : operationOf portion = some op) (hop' : operationOf request = some op') : op.route = op'.route := by
  obtain ⟨-, hroute⟩ := route_of_operation hop
  obtain ⟨-, hroute'⟩ := route_of_operation hop'
  exact route_unique (route_mem op) (route_mem op') (isPrefixOf_cut (requestPath_cut h) hroute) hroute'

/-- A portion that clears is of a request that clears. -/
theorem clear_cut {portion request : Bytes} (h : portion <+: request) (hop : operationOf portion = some .clearPoints) :
    operationOf request = some .clearPoints := by
  obtain ⟨hne, hroute⟩ := route_of_operation hop
  have hclear := isPrefixOf_cut (requestPath_cut h) hroute
  have hempty : request.isEmpty = false := by
    cases request with
    | nil => exact absurd (List.prefix_nil.1 h) hne
    | cons c t => rfl
  have hdelete : (str "/deletepoint").isPrefixOf (requestPath request) = false := by
    by_contra hdelete
    have heq := route_unique (route_mem .clearPoints) (by simp) hclear (Bool.eq_true_of_not_eq_false hdelete)
    exact absurd heq (by decide)
  unfold operationOf
  simp only [Operation.route] at hclear
  simp [hempty, hdelete, hclear]

/-! ## Effects -/

/-- The points file after the bytes of one `recv` were handled. -/
def fileAfter (file_path : Bytes) (fate : WriteFate) (received : Bytes) (file : PointsFile) : PointsFile :=
  (handleHttpClient file_path fate received file).2

/-- The portion has the effect of the whole request, or none. -/
def NotInPart (file_path : Bytes) (file : PointsFile) (portion request : Bytes) : Prop :=
  ∀ fate, fileAfter file_path fate portion file = fileAfter file_path fate request file ∨
    fileAfter file_path fate portion file = file

/-- The file as it is refuses the operation: no such row, or no line that may be added. -/
def RefusedAt (file : PointsFile) : Operation → Prop
  | .appendPoint csv_line => ∀ p, ¬Accepts file csv_line p
  | .removePoint remove_index => (loadConfiguredPointsFromCsvForUi file).length ≤ remove_index
  | .clearPoints => False

/-- Two rows whose removal leaves the same list. -/
def SameRemoval (file : PointsFile) (op : Operation) (op' : Option Operation) : Prop :=
  ∃ i j, op = .removePoint i ∧ op' = some (.removePoint j) ∧
    (loadConfiguredPointsFromCsvForUi file).eraseIdx i = (loadConfiguredPointsFromCsvForUi file).eraseIdx j

/-- What the portion asks for, if anything, is what the request asks for, or is refused, or removes as much. -/
def AsksForTheSame (file : PointsFile) (portion request : Bytes) : Prop :=
  ∀ op, operationOf portion = some op →
    operationOf request = some op ∨ RefusedAt file op ∨ SameRemoval file op (operationOf request)

theorem run_refused {file : PointsFile} {op : Operation} (h : RefusedAt file op) (file_path : Bytes)
    (fate : WriteFate) : (op.run file_path fate file).2 = file := by
  cases op with
  | appendPoint csv_line => rw [append_rejected h]
  | removePoint i => rw [remove_invalid h]
  | clearPoints => exact h.elim

/-- An accepted operation other than a clearing changes the file. -/
theorem run_accepted {file : PointsFile} {op : Operation} (h : ¬RefusedAt file op) (file_path : Bytes)
    (hclear : op ≠ .clearPoints) : (op.run file_path .succeeds file).2 ≠ file := by
  cases op with
  | appendPoint csv_line =>
    obtain ⟨p, hp⟩ : ∃ p, Accepts file csv_line p := by simpa [RefusedAt] using h
    rw [append_accepted hp, append_succeeds]
    intro heq
    have hlen := congrArg (fun f : PointsFile => (f.getD []).length) heq
    simp at hlen
  | removePoint i =>
    have hi : i < (loadConfiguredPointsFromCsvForUi file).length := Nat.not_le.1 h
    rw [remove_valid hi, rewrite_succeeds]
    intro heq
    have hload := congrArg (fun f => (loadConfiguredPointsFromCsvForUi f).length) heq
    simp only [load_csvText fun p hp => storable_of_mem_eraseIdx hp, List.length_eraseIdx_of_lt hi] at hload
    omega
  | clearPoints => exact absurd rfl hclear

theorem fileAfter_eq (file_path : Bytes) (fate : WriteFate) (received : Bytes) (file : PointsFile) :
    fileAfter file_path fate received file =
      match operationOf received with
      | none => file
      | some op => (op.run file_path fate file).2 := handleHttpClient_file file_path fate received file

theorem fileAfter_none {received : Bytes} (h : operationOf received = none) (file_path : Bytes) (fate : WriteFate)
    (file : PointsFile) : fileAfter file_path fate received file = file := by
  rw [fileAfter_eq, h]

theorem fileAfter_some {received : Bytes} {op : Operation} (h : operationOf received = some op) (file_path : Bytes)
    (fate : WriteFate) (file : PointsFile) :
    fileAfter file_path fate received file = (op.run file_path fate file).2 := by
  rw [fileAfter_eq, h]

/-- Removals that leave the same list leave the same file. -/
theorem run_remove_congr {file : PointsFile} {i j : Nat} (hi : i < (loadConfiguredPointsFromCsvForUi file).length)
    (h : (loadConfiguredPointsFromCsvForUi file).eraseIdx i = (loadConfiguredPointsFromCsvForUi file).eraseIdx j)
    (file_path : Bytes) (fate : WriteFate) :
    ((Operation.removePoint i).run file_path fate file).2 = ((Operation.removePoint j).run file_path fate file).2 := by
  have hj : j < (loadConfiguredPointsFromCsvForUi file).length := by
    by_contra hj
    have hlen := congrArg List.length h
    rw [List.length_eraseIdx_of_lt hi, List.eraseIdx_of_length_le (Nat.not_lt.1 hj)] at hlen
    omega
  rw [remove_valid hi, remove_valid hj, h]

/-- Operations of one route are of one kind. -/
theorem route_eq_cases {op op' : Operation} (h : op.route = op'.route) :
    (∃ line line', op = .appendPoint line ∧ op' = .appendPoint line') ∨
    (∃ i j, op = .removePoint i ∧ op' = .removePoint j) ∨ op = .clearPoints ∧ op' = .clearPoints := by
  cases op <;> cases op' <;> simp only [Operation.route] at h <;>
    first | exact absurd h (by decide) | exact .inl ⟨_, _, rfl, rfl⟩ | exact .inr (.inl ⟨_, _, rfl, rfl⟩) |
      exact .inr (.inr ⟨rfl, rfl⟩)

/-- Two accepted operations of one route with the same effect. -/
theorem same_of_run_eq {file : PointsFile} {op op' : Operation} (hroute : op.route = op'.route)
    (h : ¬RefusedAt file op) (h' : ¬RefusedAt file op') (file_path : Bytes)
    (heq : (op.run file_path .succeeds file).2 = (op'.run file_path .succeeds file).2) :
    op' = op ∨ SameRemoval file op (some op') := by
  rcases route_eq_cases hroute with ⟨line, line', rfl, rfl⟩ | ⟨i, j, rfl, rfl⟩ | ⟨rfl, rfl⟩
  · obtain ⟨p, hp⟩ : ∃ p, Accepts file line p := by simpa [RefusedAt] using h
    obtain ⟨p', hp'⟩ : ∃ p, Accepts file line' p := by simpa [RefusedAt] using h'
    rw [append_accepted hp, append_accepted hp', append_succeeds, append_succeeds] at heq
    have hline : line = line' := by simpa using heq
    exact .inl (by rw [hline])
  · have hi : i < (loadConfiguredPointsFromCsvForUi file).length := Nat.not_le.1 h
    have hj : j < (loadConfiguredPointsFromCsvForUi file).length := Nat.not_le.1 h'
    rw [remove_valid hi, remove_valid hj, rewrite_succeeds, rewrite_succeeds] at heq
    have hload := congrArg loadConfiguredPointsFromCsvForUi heq
    simp only [load_csvText fun p hp => storable_of_mem_eraseIdx hp] at hload
    exact .inr ⟨i, j, rfl, rfl, hload⟩
  · exact .inl rfl

/-- A portion that is not acted on in part asks for what the whole request asks for. -/
theorem NotInPart.asks {file_path : Bytes} {file : PointsFile} {portion request : Bytes} (h : portion <+: request)
    (hpart : NotInPart file_path file portion request) : AsksForTheSame file portion request := by
  intro op hop
  by_cases hclear : op = .clearPoints
  · subst hclear
    exact .inl (clear_cut h hop)
  by_cases hrefused : RefusedAt file op
  · exact .inr (.inl hrefused)
  -- with every write succeeding the portion has an effect, so it has that of the whole request
  have hchanged := run_accepted hrefused file_path hclear
  have heffect := hpart .succeeds
  rw [fileAfter_some hop] at heffect
  have hsame := heffect.resolve_right hchanged
  cases hop' : operationOf request with
  | none =>
    rw [fileAfter_none hop'] at hsame
    exact absurd hsame hchanged
  | some op' =>
    rw [fileAfter_some hop'] at hsame
    have haccepted : ¬RefusedAt file op' := by
      intro hrefused'
      rw [run_refused hrefused'] at hsame
      exact hchanged hsame
    rcases same_of_run_eq (route_cut h hop hop') hrefused haccepted file_path hsame with rfl | hremoval
    · exact .inl rfl
    · exact .inr (.inr hremoval)

/-- One that asks for the same has the effect of the whole request, or none. -/
theorem AsksForTheSame.notInPart {file : PointsFile} {portion request : Bytes}
    (hasks : AsksForTheSame file portion request) (file_path : Bytes) : NotInPart file_path file portion request := by
  intro fate
  cases hop : operationOf portion with
  | none => exact .inr (fileAfter_none hop file_path fate file)
  | some op =>
    rw [fileAfter_some hop]
    by_cases hrefused : RefusedAt file op
    · exact .inr (run_refused hrefused file_path fate)
    rcases hasks op hop with hsame | hrefused' | ⟨i, j, rfl, hop', hremoval⟩
    · exact .inl (fileAfter_some hsame file_path fate file).symm
    · exact absurd hrefused' hrefused
    · rw [fileAfter_some hop']
      exact .inl (run_remove_congr (Nat.not_le.1 hrefused) hremoval file_path fate)

/-- **When a request is not acted on in part.** -/
theorem not_in_part_iff (file_path : Bytes) (file : PointsFile) {portion request : Bytes} (h : portion <+: request) :
    NotInPart file_path file portion request ↔ AsksForTheSame file portion request :=
  ⟨fun hpart => hpart.asks h, fun hasks => hasks.notInPart file_path⟩

/-! ## A portion with an effect of its own -/

def requestRowTen : Bytes := str "GET /deletepoint?idx=10 HTTP/1.1\r\nHost: gateway\r\n\r\n"

/-- Cut behind the target nothing is lost. -/
theorem not_in_part_target :
    NotInPart (str "points_config.csv") pointsTwo (str "GET /deletepoint?idx=10 ") requestRowTen := by
  have hportion : str "GET /deletepoint?idx=10 " <+: requestRowTen := by decide +kernel
  refine (not_in_part_iff (str "points_config.csv") pointsTwo hportion).2 ?_
  intro op hop
  have hsame : operationOf (str "GET /deletepoint?idx=10 ") = operationOf requestRowTen := by decide +kernel
  exact .inl (hsame ▸ hop)

/-- **Row 1 for row 10.** There is no row 10, and the whole request changes nothing; cut after `idx=1` it removes
row 1. -/
theorem row_one_for_row_ten :
    str "GET /deletepoint?idx=1" <+: requestRowTen ∧
    fileAfter (str "points_config.csv") .succeeds requestRowTen pointsTwo = pointsTwo ∧
    (loadConfiguredPointsFromCsvForUi pointsTwo).length = 2 ∧
    (loadConfiguredPointsFromCsvForUi
      (fileAfter (str "points_config.csv") .succeeds (str "GET /deletepoint?idx=1") pointsTwo)).length = 1 ∧
    ¬NotInPart (str "points_config.csv") pointsTwo (str "GET /deletepoint?idx=1") requestRowTen := by
  have hwhole : fileAfter (str "points_config.csv") .succeeds requestRowTen pointsTwo = pointsTwo := by
    decide +kernel
  have hbefore : (loadConfiguredPointsFromCsvForUi pointsTwo).length = 2 := by decide +kernel
  have hafter : (loadConfiguredPointsFromCsvForUi
      (fileAfter (str "points_config.csv") .succeeds (str "GET /deletepoint?idx=1") pointsTwo)).length = 1 := by
    decide +kernel
  refine ⟨by decide +kernel, hwhole, hbefore, hafter, ?_⟩
  intro hpart
  have hsame : fileAfter (str "points_config.csv") .succeeds (str "GET /deletepoint?idx=1") pointsTwo = pointsTwo := by
    have heffect := hpart .succeeds
    rw [hwhole] at heffect
    exact heffect.elim id id
  rw [hsame, hbefore] at hafter
  omega

end Gateway
