import ModbusGateway.PointsStore
import ModbusGateway.QueryCodec

/-!
# Whole runs of HTTP requests

Requests are handled one at a time, so the runs of any number of browsers are the lists of requests,
in the order `HandleHttpClient` gets to them.

* `addresses_distinct` — from the file the program creates, the loaded points keep pairwise distinct
  DNP3 kinds and indexes as long as every accepted record is read back as no more than the point that
  was checked. `break_in_form` is a request whose record is read back as two points.
* `remover_link` — a "Remover" link removes the row it names from the list as it is when the request
  is handled, which is the row the page showed as long as nothing before it was removed since.
  `remover_link_moved` is the same click taking two different points.
-/

namespace Gateway

/-- The points file `BuildConfigFileProfile` creates when there is none. -/
def created (file_path : Bytes) : PointsFile := (buildConfigFileProfile file_path .succeeds none).file

theorem created_eq (file_path : Bytes) : created file_path = some (csvText []) := rfl

/-- One request, the writes succeeding. -/
def serve (file_path : Bytes) (file : PointsFile) (received : Bytes) : PointsFile :=
  (handleHttpClient file_path .succeeds received file).2

def serveAll (file_path : Bytes) (file : PointsFile) (requests : List Bytes) : PointsFile :=
  requests.foldl (serve file_path) file

theorem serve_eq (file_path : Bytes) (file : PointsFile) (received : Bytes) :
    serve file_path file received =
      match operationOf received with
      | none => file
      | some op => (op.run file_path .succeeds file).2 := handleHttpClient_file file_path .succeeds received file

/-- The edit of the loaded points a request amounts to. -/
def requestEdit (file : PointsFile) (received : Bytes) : Table.Edit ReadPointConfig :=
  match operationOf received with
  | none => .keep
  | some op => op.edit file

/-- **A request edits the table of loaded points.** -/
theorem load_serve (file_path : Bytes) {file : PointsFile} (hf : FileTerminated file) (received : Bytes) :
    FileTerminated (serve file_path file received) ∧
    loadConfiguredPointsFromCsvForUi (serve file_path file received) =
      (requestEdit file received).apply (loadConfiguredPointsFromCsvForUi file) := by
  rw [serve_eq, requestEdit]
  split
  · exact ⟨hf, rfl⟩
  · exact load_run file_path hf _

/-! ## Distinct DNP3 addresses -/

/-- Read back line by line, the record yields at most the kind and index it was checked for. -/
def StoredAsChecked (csv_line : Bytes) : Prop :=
  ((readBack csv_line).map dnpKey).Sublist ((parseLine csv_line).map dnpKey).toList

/-- A record without a line break, other than around it, is stored as it was checked. -/
theorem storedAsChecked_of_no_inner_break {csv_line : Bytes} (h : lf ∉ trimCopy csv_line) :
    StoredAsChecked csv_line := by
  rw [StoredAsChecked, readBack_of_no_inner_break h, Option.toList_map]

/-- If the request adds a record the checks accept, the record is stored as it was checked. -/
def AddsAsChecked (file : PointsFile) (received : Bytes) : Prop :=
  ∀ csv_line p, operationOf received = some (.appendPoint csv_line) → Accepts file csv_line p →
    StoredAsChecked csv_line

/-- The points of the file have distinct DNP3 kinds and indexes, and its last line is terminated. -/
structure DistinctAddresses (file : PointsFile) : Prop where
  terminated : FileTerminated file
  distinct : ((loadConfiguredPointsFromCsvForUi file).map dnpKey).Nodup

theorem distinctAddresses_created (file_path : Bytes) : DistinctAddresses (created file_path) := by
  rw [created_eq]
  refine ⟨terminated_csvText [], ?_⟩
  rw [load_csvText (by simp)]
  exact List.nodup_nil

theorem requestEdit_fresh {file : PointsFile} {received : Bytes} (h : AddsAsChecked file received) :
    (requestEdit file received).Fresh dnpKey (loadConfiguredPointsFromCsvForUi file) := by
  unfold requestEdit
  split
  · trivial
  · rename_i op hop
    cases op with
    | removePoint i => trivial
    | clearPoints => trivial
    | appendPoint csv_line =>
      rw [Operation.edit]
      split
      · rename_i p hp
        have hacc := checkedPoint_eq_some_iff.1 hp
        have hsub := h csv_line p hop hacc
        rw [StoredAsChecked, hacc.1, Option.map_some, Option.toList_some] at hsub
        refine ⟨hsub.nodup (List.nodup_singleton _), ?_⟩
        intro b hb
        have hkey := hsub.mem (List.mem_map_of_mem hb)
        rw [List.mem_singleton.1 hkey]
        exact hacc.2
      · trivial

/-- One request keeps the invariant. -/
theorem distinctAddresses_serve (file_path : Bytes) (file : PointsFile) (received : Bytes)
    (hI : DistinctAddresses file)
    (h : AddsAsChecked file received) : DistinctAddresses (serve file_path file received) := by
  obtain ⟨hterm, hload⟩ := load_serve file_path hI.terminated received
  refine ⟨hterm, ?_⟩
  rw [hload]
  exact Table.nodup_apply hI.distinct (requestEdit_fresh h)

/-- **Distinct addresses in every state of a run** whose records are all stored as they were checked. -/
theorem addresses_distinct (file_path : Bytes) (requests : List Bytes)
    (h : Run.Meets (serve file_path) AddsAsChecked (created file_path) requests) (n : Nat) :
    ((loadConfiguredPointsFromCsvForUi
      (serveAll file_path (created file_path) (requests.take n))).map dnpKey).Nodup :=
  ((h.take n).invariant (distinctAddresses_serve file_path) (distinctAddresses_created file_path)).distinct

/-- The record the request adds has a line break inside. -/
def addsBreak (received : Bytes) : Bool :=
  match operationOf received with
  | some (.appendPoint csv_line) => (trimCopy csv_line).contains lf
  | _ => false

theorem addsAsChecked_of_no_break {received : Bytes} (h : addsBreak received = false) (file : PointsFile) :
    AddsAsChecked file received := by
  intro csv_line p hop _
  have hbreak : (trimCopy csv_line).contains lf = false := by rwa [addsBreak, hop] at h
  exact storedAsChecked_of_no_inner_break fun hmem => Bool.eq_false_iff.1 hbreak (List.contains_iff_mem.2 hmem)

def requestAdd (name index : Bytes) : Bytes :=
  str "GET /addpoint?name=" ++ name ++ str "&ip=10.0.0.1&port=502&slave_id=1&reg=holding&address=0&data_type=int16" ++
    str "&dnp_index=" ++ index ++ str " HTTP/1.1\r\n"

def requestRemoveFirst : Bytes := str "GET /deletepoint?idx=0 HTTP/1.1\r\n"

/-- `C` has the index of `A` and is refused; `D` has it too and comes when `A` is removed. -/
def requestsAddRemove : List Bytes :=
  [requestAdd (str "A") (str "5"), requestAdd (str "B") (str "6"), requestAdd (str "C") (str "5"), requestRemoveFirst,
    requestAdd (str "D") (str "5")]

theorem addresses_distinct_add_remove :
    let file := serveAll (str "points_config.csv") (created (str "points_config.csv")) (requestsAddRemove.take 5)
    (loadConfiguredPointsFromCsvForUi file).map (·.description) = [str "B", str "D"] ∧
      ((loadConfiguredPointsFromCsvForUi file).map dnpKey).Nodup := by
  have hbreaks : ∀ q ∈ requestsAddRemove, addsBreak q = false := by decide +kernel
  have hmeets : Run.Meets (serve (str "points_config.csv")) AddsAsChecked (created (str "points_config.csv"))
      requestsAddRemove := .of_forall fun file q hq => addsAsChecked_of_no_break (hbreaks q hq) file
  exact ⟨by decide +kernel, addresses_distinct (str "points_config.csv") requestsAddRemove hmeets 5⟩

/-- `%0A` in the last field: the check sees one point with index 5, the file gets two lines. -/
def requestAddBreak : Bytes :=
  str "GET /addpoint?name=A&ip=10.0.0.1&port=502&slave_id=1&reg=holding&address=0&data_type=int16" ++
  str "&dnp_index=5%0AB;10.0.0.2;502;1;holding;0;int16;5 HTTP/1.1\r\n"

/-- **A line break inside a form field breaks uniqueness.** -/
theorem break_in_form :
    ¬((loadConfiguredPointsFromCsvForUi (serveAll (str "points_config.csv") (created (str "points_config.csv"))
      [requestAddBreak])).map dnpKey).Nodup := by
  decide +kernel

/-! ## The row a "Remover" link names -/

theorem isUrlPlain_of_isDigit {c : UInt8} (h : Numeral.isDigit c = true) : isUrlPlain c = true := by
  unfold isUrlPlain
  unfold Numeral.isDigit at h
  simp [h]

/-- The link is the query of one pair, as digits stand for themselves. -/
theorem removeLink_eq (r : Nat) :
    removeLink r = str "/deletepoint" ++ 63 :: queryString [(str "idx", Numeral.decimal r)] := by
  have hdigits : urlEncodeSimple (Numeral.decimal r) = Numeral.decimal r :=
    urlEncodeSimple_of_plain fun c hc => isUrlPlain_of_isDigit (Numeral.isDigit_of_mem_decimal hc)
  rw [queryString_singleton, queryToken, hdigits]
  rfl

theorem getQueryParam_removeLink (r : Nat) : getQueryParam (removeLink r) (str "idx") = Numeral.decimal r := by
  rw [removeLink_eq]
  exact getQueryParam_singleton (by decide) (by decide) _

/-- Following the link of row `r` asks for row `r` to be removed. -/
theorem operationOf_removeLink {received : Bytes} {r : Nat} (h : requestPath received = removeLink r) (hr : r ≤ ulongMax) :
    operationOf received = some (.removePoint r) := by
  have hne : received.isEmpty = false := by
    cases received with
    | nil => cases h
    | cons c t => rfl
  have hpre : (str "/deletepoint").isPrefixOf (removeLink r) = true := rfl
  have hend : Numeral.NoDigit [] := by simp [Numeral.NoDigit]
  have hdigits := Numeral.strtoul_decimal_append ulongMax r hend
  unfold operationOf
  simp only [h, hne, hpre, getQueryParam_removeLink, if_true, if_false, Bool.false_eq_true]
  rw [← List.append_nil (Numeral.decimal r), hdigits, if_pos hr]
  rfl

/-- The request neither clears the file nor removes a row up to `r`. -/
def Leaves (r : Nat) (received : Bytes) : Prop :=
  match operationOf received with
  | some (.removePoint i) => r < i
  | some .clearPoints => False
  | _ => True

theorem requestEdit_keepsRow {r : Nat} {received : Bytes} (h : Leaves r received) (file : PointsFile) :
    (requestEdit file received).KeepsRow r := by
  unfold Leaves at h
  unfold requestEdit
  split
  · trivial
  · rename_i op hop
    rw [hop] at h
    cases op with
    | removePoint i => exact h
    | clearPoints => exact h
    | appendPoint csv_line =>
      rw [Operation.edit]
      split <;> trivial

/-- A row stays where it is while the requests leave it. -/
theorem row_stays (file_path : Bytes) {r : Nat} {p : ReadPointConfig} {requests : List Bytes}
    (h : ∀ q ∈ requests, Leaves r q) {file : PointsFile} (hf : FileTerminated file)
    (hrow : (loadConfiguredPointsFromCsvForUi file)[r]? = some p) :
    (loadConfiguredPointsFromCsvForUi (requests.foldl (serve file_path) file))[r]? = some p := by
  induction requests generalizing file with
  | nil => exact hrow
  | cons q qs ih =>
    obtain ⟨hterm, hload⟩ := load_serve file_path hf q
    refine ih (fun q' hq' => h q' (by simp [hq'])) hterm ?_
    rw [hload]
    exact Table.getElem?_apply (requestEdit_keepsRow (h q (by simp)) file) hrow

/-- A page request leaves the file and shows its points with their links. -/
theorem page_rows {file_path received notice : Bytes} {file : PointsFile} {rows : List PageRow}
    (h : (handleHttpClient file_path .succeeds received file).1 = .page notice rows) :
    serve file_path file received = file ∧ rows = configuredRows file := by
  unfold handleHttpClient at h
  unfold serve handleHttpClient
  simp only at h ⊢
  split at h
  · cases h
  split at h
  · cases h
  split at h
  · cases h
  split at h
  · cases h
  split at h
  · rename_i h1 h2 h3 h4 h5
    simp only [h1, h2, h3, h4, h5, if_false, if_true, Bool.false_eq_true]
    cases h
    exact ⟨trivial, rfl⟩
  · cases h

theorem configuredRows_getElem? {file : PointsFile} {r : Nat} {row : PageRow} (h : (configuredRows file)[r]? = some row) :
    row.link = removeLink r ∧ (loadConfiguredPointsFromCsvForUi file)[r]? = some row.point := by
  rw [configuredRows, List.getElem?_mapIdx, Option.map_eq_some_iff] at h
  obtain ⟨p, hp, rfl⟩ := h
  exact ⟨rfl, hp⟩

/-- Following the link of row `r` takes row `r` of the list as it then is, or nothing. -/
theorem serve_removeLink (file_path : Bytes) (file : PointsFile) {received : Bytes} {r : Nat}
    (h : requestPath received = removeLink r) (hr : r ≤ ulongMax) :
    loadConfiguredPointsFromCsvForUi (serve file_path file received) =
      (loadConfiguredPointsFromCsvForUi file).eraseIdx r ∧
    ((loadConfiguredPointsFromCsvForUi file).length ≤ r → serve file_path file received = file) := by
  rw [serve_eq, operationOf_removeLink h hr]
  simp only
  by_cases hlen : r < (loadConfiguredPointsFromCsvForUi file).length
  · rw [remove_valid hlen, rewrite_succeeds]
    refine ⟨load_csvText fun p hp => storable_of_mem_eraseIdx hp, fun hle => ?_⟩
    omega
  · rw [remove_invalid (Nat.not_lt.1 hlen)]
    exact ⟨(List.eraseIdx_of_length_le (Nat.not_lt.1 hlen)).symm, fun _ => rfl⟩

/-- The list lost exactly this point, or nothing. -/
def RemovesOnly (p : ReadPointConfig) (before after : List ReadPointConfig) : Prop :=
  after = before ∨ ∃ i, before[i]? = some p ∧ after = before.eraseIdx i

/-- **What a "Remover" link removes.** A page was rendered from `file`; other requests were handled;
then the link of its row `r` is followed, and once more. -/
theorem remover_link (file_path : Bytes) (file : PointsFile) (page click notice : Bytes) (rows : List PageRow)
    (between : List Bytes) (r : Nat) (row : PageRow)
    (hpage : (handleHttpClient file_path .succeeds page file).1 = .page notice rows)
    (hrow : rows[r]? = some row) (hr : r ≤ ulongMax) (hclick : requestPath click = row.link) :
    loadConfiguredPointsFromCsvForUi (serveAll file_path file (page :: between ++ [click])) =
      (loadConfiguredPointsFromCsvForUi (serveAll file_path file (page :: between))).eraseIdx r ∧
    ((loadConfiguredPointsFromCsvForUi (serveAll file_path file (page :: between))).length ≤ r →
      serveAll file_path file (page :: between ++ [click]) = serveAll file_path file (page :: between)) ∧
    loadConfiguredPointsFromCsvForUi (serveAll file_path file (page :: between ++ [click, click])) =
      ((loadConfiguredPointsFromCsvForUi (serveAll file_path file (page :: between))).eraseIdx r).eraseIdx r ∧
    (FileTerminated file → (∀ q ∈ between, Leaves r q) →
      (loadConfiguredPointsFromCsvForUi (serveAll file_path file (page :: between)))[r]? = some row.point) := by
  obtain ⟨hserve, rfl⟩ := page_rows hpage
  obtain ⟨hlink, hpoint⟩ := configuredRows_getElem? hrow
  rw [hlink] at hclick
  simp only [serveAll, List.foldl_append, List.foldl_cons, List.foldl_nil, hserve]
  obtain ⟨hfirst, hnothing⟩ := serve_removeLink file_path (between.foldl (serve file_path) file) hclick hr
  refine ⟨hfirst, hnothing, ?_, ?_⟩
  · rw [(serve_removeLink file_path _ hclick hr).1, hfirst]
  · intro hf hleaves
    exact row_stays file_path hleaves hf hpoint

def pointsTwo : PointsFile := some (str "A;10.0.0.1;502;1;holding;0;int16;1\nB;10.0.0.2;502;1;holding;0;int16;2\n")

def pointA : ReadPointConfig :=
  { description := str "A", ip := str "10.0.0.1", port := 502, slave_id := 1, type := .holdingInt16, address := 0
    count := 1, dnp3_analog_index := 1, dnp3_status_index := 0 }

def pointB : ReadPointConfig :=
  { pointA with description := str "B", ip := str "10.0.0.2", dnp3_analog_index := 2 }

def requestPage : Bytes := str "GET / HTTP/1.1\r\n"

theorem page_two : (handleHttpClient (str "points_config.csv") .succeeds requestPage pointsTwo).1 =
    .page [] [⟨removeLink 0, pointA⟩, ⟨removeLink 1, pointB⟩] := by decide +kernel

/-- Between the page and the click a point is added and the other one is removed. -/
def requestsBetween : List Bytes := [requestAdd (str "C") (str "7"), str "GET /deletepoint?idx=1 HTTP/1.1\r\n"]

theorem remover_link_first :
    let file := serveAll (str "points_config.csv") pointsTwo (requestPage :: requestsBetween)
    let after := serveAll (str "points_config.csv") pointsTwo (requestPage :: requestsBetween ++ [requestRemoveFirst])
    (loadConfiguredPointsFromCsvForUi file).map (·.description) = [str "A", str "C"] ∧
      (loadConfiguredPointsFromCsvForUi file)[0]? = some pointA ∧
      loadConfiguredPointsFromCsvForUi after = (loadConfiguredPointsFromCsvForUi file).eraseIdx 0 := by
  obtain ⟨hfirst, -, -, hstays⟩ := remover_link (str "points_config.csv") pointsTwo requestPage requestRemoveFirst []
    [⟨removeLink 0, pointA⟩, ⟨removeLink 1, pointB⟩] requestsBetween 0 ⟨removeLink 0, pointA⟩ page_two rfl (by decide)
    (by decide +kernel)
  have hadd : operationOf (requestAdd (str "C") (str "7")) =
      some (.appendPoint (str "C;10.0.0.1;502;1;holding;0;int16;7")) := by decide +kernel
  have hremove : operationOf (str "GET /deletepoint?idx=1 HTTP/1.1\r\n") = some (.removePoint 1) := by decide +kernel
  have hleaves : ∀ q ∈ requestsBetween, Leaves 0 q := by
    rw [requestsBetween, List.forall_mem_cons, List.forall_mem_singleton, Leaves, Leaves, hadd, hremove]
    exact ⟨trivial, Nat.one_pos⟩
  exact ⟨by decide +kernel, hstays (by decide +kernel) hleaves, hfirst⟩

/-- **The same link takes two points.** The page shows `A` in row 0; the link is followed twice, and the
second time it takes `B`. -/
theorem remover_link_moved :
    (handleHttpClient (str "points_config.csv") .succeeds requestPage pointsTwo).1 =
      .page [] [⟨removeLink 0, pointA⟩, ⟨removeLink 1, pointB⟩] ∧
    requestPath requestRemoveFirst = removeLink 0 ∧
    ¬RemovesOnly pointA
      (loadConfiguredPointsFromCsvForUi
        (serveAll (str "points_config.csv") pointsTwo [requestPage, requestRemoveFirst]))
      (loadConfiguredPointsFromCsvForUi
        (serveAll (str "points_config.csv") pointsTwo [requestPage, requestRemoveFirst, requestRemoveFirst])) := by
  have hbefore : loadConfiguredPointsFromCsvForUi
      (serveAll (str "points_config.csv") pointsTwo [requestPage, requestRemoveFirst]) = [pointB] := by
    decide +kernel
  have hafter : loadConfiguredPointsFromCsvForUi
      (serveAll (str "points_config.csv") pointsTwo [requestPage, requestRemoveFirst, requestRemoveFirst]) = [] := by
    decide +kernel
  refine ⟨page_two, by decide +kernel, ?_⟩
  rw [hbefore, hafter]
  rintro (h | ⟨i, hi, -⟩)
  · cases h
  · have hm := List.mem_of_getElem? hi
    exact absurd (List.mem_singleton.1 hm) (by decide)

end Gateway
