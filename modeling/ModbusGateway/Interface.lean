import ModbusGateway.Config

/-!
# `Interface.cpp`: forms, the points file operations, one HTTP request

`AppendPoint…` and `RemovePoint…` return the text they leave in `error` where the source returns
`false`, and the points file. A page stands for its notice and the table of configured points: each row's
point and the target of its "Remover" link.
-/

namespace Gateway

/-! ## Query strings (`Interface.cpp:77-93, 501-549`) -/

/-- **`UrlDecode`** -/
def urlDecode : Bytes → Bytes
  | 37 :: a :: b :: s => UInt8.ofInt (Numeral.strtolHex [a, b]) :: urlDecode s
  | 43 :: s => 32 :: urlDecode s
  | c :: s => c :: urlDecode s
  | [] => []

/-- The bytes `UrlEncodeSimple` leaves as they are. -/
def isUrlPlain (c : UInt8) : Bool :=
  (65 ≤ c && c ≤ 90) || (97 ≤ c && c ≤ 122) || (48 ≤ c && c ≤ 57) || c == 45 || c == 95 || c == 46 || c == 126

def urlEncodeByte (c : UInt8) : Bytes :=
  if isUrlPlain c then [c] else if c = 32 then [43] else 37 :: Numeral.hexByte c

/-- **`UrlEncodeSimple`** -/
def urlEncodeSimple (s : Bytes) : Bytes := s.flatMap urlEncodeByte

/-- The `Location` of `SendHttpRedirectToHome`. -/
def redirectLocation (notice : Bytes) : Bytes := str "/?notice=" ++ urlEncodeSimple notice

/-- `token.substr(0, eq)` and `token.substr(eq + 1)`; without `=` the whole token and nothing. -/
def splitAssign (token : Bytes) : Bytes × Bytes :=
  (token.takeWhile (· != 61), (token.dropWhile (· != 61)).drop 1)

/-- **`GetQueryParam`** -/
def getQueryParam (path key : Bytes) : Bytes :=
  match path.dropWhile (· != 63) with
  | [] => []
  | _ :: query =>
    match (Text.getlines 38 query).find? fun token => (splitAssign token).1 == key with
    | some token => urlDecode (splitAssign token).2
    | none => []

theorem urlDecode_plus (s : Bytes) : urlDecode (43 :: s) = 32 :: urlDecode s := by rw [urlDecode]

theorem urlDecode_escape (a b : UInt8) (s : Bytes) :
    urlDecode (37 :: a :: b :: s) = UInt8.ofInt (Numeral.strtolHex [a, b]) :: urlDecode s := by rw [urlDecode]

theorem urlDecode_cons {c : UInt8} (hpercent : c ≠ 37) (hplus : c ≠ 43) (s : Bytes) :
    urlDecode (c :: s) = c :: urlDecode s := by
  rw [urlDecode]
  · intro a b t hc _
    exact hpercent hc
  · exact hplus

/-- **`BuildCsvLineFromForm`** (`Interface.cpp:230`) -/
def buildCsvLineFromForm (path : Bytes) : Bytes :=
  let name := getQueryParam path (str "name")
  let ip := getQueryParam path (str "ip")
  let port := getQueryParam path (str "port")
  let slave_id := getQueryParam path (str "slave_id")
  let reg := getQueryParam path (str "reg")
  let address := getQueryParam path (str "address")
  let data_type := getQueryParam path (str "data_type")
  let dnp_index := getQueryParam path (str "dnp_index")
  if name.isEmpty ∨ ip.isEmpty ∨ port.isEmpty ∨ slave_id.isEmpty ∨
      reg.isEmpty ∨ address.isEmpty ∨ data_type.isEmpty ∨ dnp_index.isEmpty then []
  else
    let reg_norm := normalizeToken reg
    let data_type :=
      if reg_norm = str "coil_status" ∨ reg_norm = str "coil" ∨
          reg_norm = str "input_status" ∨ reg_norm = str "discrete_input" then str "bool"
      else data_type
    name ++ str ";" ++ ip ++ str ";" ++ port ++ str ";" ++ slave_id ++ str ";" ++ reg ++ str ";" ++ address ++
      str ";" ++ data_type ++ str ";" ++ dnp_index

/-! ## Adding and removing a point (`Interface.cpp:257-322`) -/

/-- **`IsSameConfiguredPoint`** -/
def isSameConfiguredPoint (a b : ReadPointConfig) : Bool :=
  a.description == b.description &&
  a.ip == b.ip &&
  a.port == b.port &&
  a.slave_id == b.slave_id &&
  a.type == b.type &&
  a.address == b.address &&
  a.dnp3_analog_index == b.dnp3_analog_index

def errorDuplicate : Bytes := str "Este ponto já existe no arquivo. Ele não foi duplicado."

def errorIndexInUse : Bytes :=
  str "Já existe um ponto usando o mesmo tipo e índice DNP3. Altere o índice antes de salvar."

def errorOpen (file_path : Bytes) : Bytes :=
  str "Não foi possível abrir o arquivo " ++ file_path ++ str " para escrita."

def errorPointIndex : Bytes := str "Índice de ponto inválido."

def errorRewrite (file_path : Bytes) : Bytes := str "Não foi possível regravar o arquivo " ++ file_path ++ str "."

/-- One turn of the loop over the points of the file: why `tmp` is refused because of `existing`. -/
def conflict (tmp existing : ReadPointConfig) : Option Bytes :=
  if isSameConfiguredPoint existing tmp then some errorDuplicate
  else if publishesAsDnp3Binary existing.type = publishesAsDnp3Binary tmp.type ∧
      existing.dnp3_analog_index = tmp.dnp3_analog_index then some errorIndexInUse
  else none

/-- **`AppendPointToConfigFileFromLine`** (`Interface.cpp:268`). What is checked is the parsed point,
what is written is the line as it came. -/
def appendPointToConfigFileFromLine (file_path : Bytes) (fate : WriteFate) (csv_line : Bytes) (file : PointsFile) :
    Except Bytes Unit × PointsFile :=
  match tryBuildReadPointFromCsvLine csv_line with
  | .error error => (.error error, file)
  | .ok tmp =>
    match (loadConfiguredPointsFromCsvForUi file).findSome? (conflict tmp) with
    | some error => (.error error, file)
    | none =>
      let (is_open, file) := append fate file (csv_line ++ [lf])
      if is_open then (.ok (), file) else (.error (errorOpen file_path), file)

/-- **`RemovePointFromConfigFileByIndex`** (`Interface.cpp:298`) -/
def removePointFromConfigFileByIndex (file_path : Bytes) (fate : WriteFate) (remove_index : Nat) (file : PointsFile) :
    Except Bytes Unit × PointsFile :=
  let configured_points := loadConfiguredPointsFromCsvForUi file
  if configured_points.length ≤ remove_index then (.error errorPointIndex, file)
  else
    let updated_profile : ProfileConfig :=
      { name := profileName file_path, read_points := configured_points.eraseIdx remove_index }
    let (saved, file) := saveProfileReadPointsToCsv fate file updated_profile
    if saved then (.ok (), file) else (.error (errorRewrite file_path), file)

/-! ## One request (`Interface.cpp:412-454, 551-625`) -/

structure PageRow where
  link : Bytes
  point : ReadPointConfig
deriving DecidableEq

/-- The `href` of the "Remover" link of row `i`. -/
def removeLink (i : Nat) : Bytes := str "/deletepoint?idx=" ++ Numeral.decimal i

/-- The table of configured points of `BuildHtmlPageServerRendered`. -/
def configuredRows (file : PointsFile) : List PageRow :=
  (loadConfiguredPointsFromCsvForUi file).mapIdx fun i point => ⟨removeLink i, point⟩

inductive Response where
  /-- `recv` failed or delivered nothing: closed without an answer. -/
  | closed
  /-- `SendHttpRedirectToHome` -/
  | redirect (notice : Bytes)
  | page (notice : Bytes) (rows : List PageRow)
  | notFound
deriving DecidableEq

/-- One `iss >> token`: the token and what follows it. -/
def nextToken (s : Bytes) : Bytes × Bytes :=
  let s := s.dropWhile Numeral.isSpace
  (s.takeWhile (!Numeral.isSpace ·), s.dropWhile (!Numeral.isSpace ·))

/-- `path` after `iss >> method >> path >> version`; `buffer` is read as a C string. -/
def requestPath (received : Bytes) : Bytes := (nextToken (nextToken (cString received)).2).1

def ulongMax : Nat := 18446744073709551615

def noticeRemoved : Bytes :=
  str "Ponto removido do arquivo de configuração. Reinicie o programa para o DNP3 recriar o banco sem esse ponto."

def noticeSaved (file_path : Bytes) : Bytes :=
  str "Ponto salvo em " ++ file_path ++
    str ". Ele já aparece na lista como ponto do arquivo. " ++
    str "Reinicie o programa para o DNP3 criar o índice e iniciar a leitura."

/-- The `/deletepoint` route. `std::stoul` throws on no digits and on overflow. -/
def handleDeletePoint (file_path : Bytes) (fate : WriteFate) (path : Bytes) (file : PointsFile) : Bytes × PointsFile :=
  match Numeral.strtoul ulongMax (getQueryParam path (str "idx")) with
  | none => (str "Falha ao remover ponto: índice inválido.", file)
  | some idx =>
    match removePointFromConfigFileByIndex file_path fate idx file with
    | (.ok (), file) => (noticeRemoved, file)
    | (.error error, file) => (str "Falha ao remover ponto: " ++ error, file)

/-- The `/clearpoints` route. -/
def handleClearPoints (file_path : Bytes) (fate : WriteFate) (file : PointsFile) : Bytes × PointsFile :=
  match saveProfileReadPointsToCsv fate file { name := profileName file_path } with
  | (true, file) => (str "Arquivo de pontos limpo. Reinicie o programa para a tabela iniciar vazia.", file)
  | (false, file) => (str "Falha ao limpar o arquivo de pontos.", file)

/-- The `/addpoint` route. -/
def handleAddPoint (file_path : Bytes) (fate : WriteFate) (path : Bytes) (file : PointsFile) : Bytes × PointsFile :=
  let csv_line := buildCsvLineFromForm path
  if csv_line.isEmpty then (str "Formulário incompleto. Preencha todos os campos do ponto.", file)
  else
    match appendPointToConfigFileFromLine file_path fate csv_line file with
    | (.ok (), file) => (noticeSaved file_path, file)
    | (.error error, file) => (str "Falha ao salvar ponto: " ++ error, file)

/-- **`HandleHttpClient`** (`Interface.cpp:551`): the answer to the bytes one `recv` delivered, and the
points file. -/
def handleHttpClient (file_path : Bytes) (fate : WriteFate) (received : Bytes) (file : PointsFile) :
    Response × PointsFile :=
  let path := requestPath received
  if received.isEmpty then (.closed, file)
  else if (str "/deletepoint").isPrefixOf path then
    let (notice, file) := handleDeletePoint file_path fate path file
    (.redirect notice, file)
  else if (str "/clearpoints").isPrefixOf path then
    let (notice, file) := handleClearPoints file_path fate file
    (.redirect notice, file)
  else if (str "/addpoint").isPrefixOf path then
    let (notice, file) := handleAddPoint file_path fate path file
    (.redirect notice, file)
  else if path = str "/" ∨ (str "/index").isPrefixOf path ∨ (str "/?").isPrefixOf path then
    (.page (getQueryParam path (str "notice")) (configuredRows file), file)
  else (.notFound, file)

end Gateway
