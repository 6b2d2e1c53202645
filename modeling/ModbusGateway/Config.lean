import ModbusGateway.Lib.Text
import ModbusGateway.Tipos

/-!
# `Config.cpp`: types, CSV lines, the points file, the profile

The definitions follow the source function by function, in its order. `TryBuild…` returns the parsed
point or the text it leaves in `error` (empty where it leaves `error` alone). `BuildConfigFileProfile`
also returns the file it leaves behind and what it logs.

`PointsFile` is `none` while the file does not exist, else its bytes. A `std::ofstream` is opened with `ios::trunc` or
`ios::app`, fed once and closed without a look at its state, so a write is one of `rewrite` and `append`, and
`WriteFate` says what the file system does with it: the open is refused, or the open succeeds and every byte from the
`n`-th on is lost.
-/

namespace Gateway

/-! ## The points file -/

abbrev PointsFile := Option Bytes

/-- The line break, `'\n'`. -/
abbrev lf : UInt8 := 10

/-- What happens to one opened and written stream. -/
inductive WriteFate where
  | succeeds
  | openRefused
  | refusedAfter (n : Nat)
deriving DecidableEq, Repr

/-- The part of the output that reaches the file once the open succeeded. -/
def WriteFate.accepted : WriteFate → Bytes → Bytes
  | .refusedAfter n, out => out.take n
  | _, out => out

@[simp] theorem accepted_succeeds (out : Bytes) : WriteFate.accepted .succeeds out = out := rfl

/-- `std::ofstream out(file_path, std::ios::trunc)`, then `out << text`. `false`: `!out.is_open()`. -/
def rewrite (fate : WriteFate) (file : PointsFile) (text : Bytes) : Bool × PointsFile :=
  if fate = .openRefused then (false, file) else (true, some (fate.accepted text))

/-- `std::ofstream out(file_path, std::ios::app)`, then `out << text`. -/
def append (fate : WriteFate) (file : PointsFile) (text : Bytes) : Bool × PointsFile :=
  if fate = .openRefused then (false, file) else (true, some (file.getD [] ++ fate.accepted text))

@[simp] theorem rewrite_succeeds (file : PointsFile) (text : Bytes) :
    rewrite .succeeds file text = (true, some text) := rfl

@[simp] theorem append_succeeds (file : PointsFile) (text : Bytes) :
    append .succeeds file text = (true, some (file.getD [] ++ text)) := rfl

/-- The lines `while (std::getline(in, line))` reads; a file that cannot be opened has none. -/
def fileLines (file : PointsFile) : List Bytes := Text.getlines lf (file.getD [])

@[simp] theorem fileLines_some (text : Bytes) : fileLines (some text) = Text.getlines lf text := rfl

/-- No last line without its line break. -/
def FileTerminated (file : PointsFile) : Prop := Text.Terminated lf (file.getD [])

instance (file : PointsFile) : Decidable (FileTerminated file) := inferInstanceAs (Decidable (Text.Terminated _ _))

/-! ## Value types (`Config.cpp:32-147`) -/

def isHoldingRegisterType (type : ReadValueType) : Bool :=
  type == .holdingInt16 ||
  type == .holdingUInt16 ||
  type == .holdingInt32 ||
  type == .holdingUInt32 ||
  type == .holdingFloat32

def isCoilStatusType (type : ReadValueType) : Bool := type == .coilStatusBool

def isInputStatusType (type : ReadValueType) : Bool := type == .inputStatusBool

def isDiscreteBitType (type : ReadValueType) : Bool := isCoilStatusType type || isInputStatusType type

def registerCountForType : ReadValueType → Int32
  | .holdingInt32
  | .inputInt32
  | .holdingUInt32
  | .inputUInt32
  | .holdingFloat32
  | .inputFloat32 => 2
  | _ => 1

def isFloatType (type : ReadValueType) : Bool := type == .holdingFloat32 || type == .inputFloat32

def publishesAsDnp3Binary (type : ReadValueType) : Bool := isDiscreteBitType type

/-- The object group the panel prints for a type, -/
def dnp3ObjectGroup (type : ReadValueType) : Nat := if publishesAsDnp3Binary type then 1 else 30

/-- and the static variation. -/
def dnp3StaticVariationNumber (type : ReadValueType) : Nat :=
  if publishesAsDnp3Binary type then 2
  else if isFloatType type then 5
  else match type with
    | .holdingInt32 | .inputInt32 | .holdingUInt32 | .inputUInt32 => 1
    | _ => 2

/-- The DNP3 kind and index of a point, what `AppendPointToConfigFileFromLine` keeps distinct. -/
def dnpKey (p : ReadPointConfig) : Bool × UInt16 := (publishesAsDnp3Binary p.type, p.dnp3_analog_index)

/-! ## Tokens and type names (`Config.cpp:149-220`) -/

/-- The blanks of `TrimCopy`: `" \t\r\n"`. -/
def isTrimmed (c : UInt8) : Bool := c == 32 || c == 9 || c == 13 || c == 10

/-- **`TrimCopy`** (`Interface.cpp:47`) -/
def trimCopy (input : Bytes) : Bytes := Text.trim isTrimmed input

/-- `std::tolower` in the "C" locale. -/
def toLower (c : UInt8) : UInt8 := if 65 ≤ c ∧ c ≤ 90 then c + 32 else c

def normalizeToken (value : Bytes) : Bytes := (trimCopy value).map toLower

/-- **`ParseReadValueType`** (`Config.cpp:158`): the register kind decides first, then the data type
among the names that kind accepts. -/
def parseReadValueType (register_kind data_type : Bytes) : Option ReadValueType :=
  let reg := normalizeToken register_kind
  let data := normalizeToken data_type
  let coil_status := reg = str "coil" ∨ reg = str "coil_status" ∨ reg = str "coils" ∨ reg = str "0x"
  let input_status :=
    reg = str "input_status" ∨ reg = str "discrete_input" ∨ reg = str "discrete" ∨ reg = str "1x"
  let holding := reg = str "holding" ∨ reg = str "hr" ∨ reg = str "4x" ∨ reg = str "holding_register"
  let input := reg = str "input" ∨ reg = str "ir" ∨ reg = str "3x" ∨ reg = str "input_register"
  if coil_status then
    if data = str "bool" ∨ data = str "boolean" ∨ data = str "bit" ∨ data = str "0_1" then some .coilStatusBool
    else none
  else if input_status then
    if data = str "bool" ∨ data = str "boolean" ∨ data = str "bit" ∨ data = str "0_1" then some .inputStatusBool
    else none
  else if ¬holding ∧ ¬input then none
  else if data = str "int16" ∨ data = str "short" then some (if holding then .holdingInt16 else .inputInt16)
  else if data = str "uint16" ∨ data = str "word" then some (if holding then .holdingUInt16 else .inputUInt16)
  else if data = str "int32" ∨ data = str "long" then some (if holding then .holdingInt32 else .inputInt32)
  else if data = str "uint32" ∨ data = str "dword" then some (if holding then .holdingUInt32 else .inputUInt32)
  else if data = str "float" ∨ data = str "float32" ∨ data = str "real" then
    some (if holding then .holdingFloat32 else .inputFloat32)
  else none

def readValueTypeRegisterKind (type : ReadValueType) : Bytes :=
  if isCoilStatusType type then str "coil_status"
  else if isInputStatusType type then str "input_status"
  else if isHoldingRegisterType type then str "holding"
  else str "input_register"

def readValueTypeDataType : ReadValueType → Bytes
  | .coilStatusBool | .inputStatusBool => str "bool"
  | .holdingInt16 | .inputInt16 => str "int16"
  | .holdingUInt16 | .inputUInt16 => str "uint16"
  | .holdingInt32 | .inputInt32 => str "int32"
  | .holdingUInt32 | .inputUInt32 => str "uint32"
  | .holdingFloat32 | .inputFloat32 => str "float32"

/-! ## CSV lines (`Config.cpp:277-347`) -/

/-- **`SplitSemicolonLine`** -/
def splitSemicolonLine (line : Bytes) : List Bytes := (Text.getlines 59 line).map trimCopy

/-- `std::stoi`: `none` is the exception, whose `what()` is `"stoi"`. -/
def stoi (s : Bytes) : Option Int32 :=
  (Numeral.strtol s).bind fun n => if -2147483648 ≤ n ∧ n ≤ 2147483647 then some (Int32.ofInt n) else none

/-- Blank, or a `#` comment. -/
def isSkipped (clean : Bytes) : Bool := clean.isEmpty || clean.head? == some 35

def errorFieldCount : Bytes :=
  str "Linha ignorada: use nome;ip;port;slave_id;registrador;endereco;tipo_dado;dnp3_indice"

def errorType (register_kind data_type : Bytes) : Bytes :=
  str "Tipo inválido na linha: registrador=" ++ register_kind ++ str " tipo_dado=" ++ data_type ++
    str ". Para Coil Status ou Input Status use tipo_dado=bool."

def errorConversion : Bytes := str "Erro convertendo linha: " ++ str "stoi"

/-- **`TryBuildReadPointFromCsvLine`** (`Config.cpp:315`) -/
def tryBuildReadPointFromCsvLine (line : Bytes) : Except Bytes ReadPointConfig :=
  let clean := trimCopy line
  if isSkipped clean then .error []
  else match splitSemicolonLine clean with
    | name :: ip :: port :: slave_id :: register_kind :: address :: data_type :: dnp3_index :: _ =>
      match parseReadValueType register_kind data_type with
      | none => .error (errorType register_kind data_type)
      | some type =>
        match stoi port, stoi slave_id, stoi address, stoi dnp3_index with
        | some port, some slave_id, some address, some dnp3_index => .ok
          { description := name, ip, port, slave_id, type, address
            count := registerCountForType type
            -- `static_cast<uint16_t>`: modulo 65536, not checked
            dnp3_analog_index := UInt16.ofInt dnp3_index.toInt
            dnp3_status_index := 0 }
        | _, _, _, _ => .error errorConversion
    | _ => .error errorFieldCount

/-! ## Writing the file (`Config.cpp:349-370`) -/

def csvHeader : Bytes :=
  str "# nome;ip;port;slave_id;registrador;endereco;tipo_dado;dnp3_indice\n" ++
  str "# registrador: coil_status,input_status,holding,input_register | tipo_dado: bool,int16,uint16,int32,uint32,float32\n" ++
  str "# O DNP3 é sugerido automaticamente. O único campo DNP3 editável é o índice.\n"

/-- One line of the loop, without its line break. -/
def csvRow (p : ReadPointConfig) : Bytes :=
  p.description ++ str ";" ++
  p.ip ++ str ";" ++
  toText p.port ++ str ";" ++
  toText p.slave_id ++ str ";" ++
  readValueTypeRegisterKind p.type ++ str ";" ++
  toText p.address ++ str ";" ++
  readValueTypeDataType p.type ++ str ";" ++
  Numeral.decimal p.dnp3_analog_index.toNat

def csvText (points : List ReadPointConfig) : Bytes := csvHeader ++ points.flatMap fun p => csvRow p ++ [lf]

/-- **`SaveProfileReadPointsToCsv`** -/
def saveProfileReadPointsToCsv (fate : WriteFate) (file : PointsFile) (profile : ProfileConfig) : Bool × PointsFile :=
  rewrite fate file (csvText profile.read_points)

/-! ## Reading the file (`Config.cpp:471-488`) -/

/-- The point a line holds, if `TryBuild…` accepts it. -/
def parseLine (line : Bytes) : Option ReadPointConfig := (tryBuildReadPointFromCsvLine line).toOption

/-- The points among some lines, in order. -/
def parseLines (lines : List Bytes) : List ReadPointConfig := lines.filterMap parseLine

/-- **`LoadConfiguredPointsFromCsvForUi`** -/
def loadConfiguredPointsFromCsvForUi (file : PointsFile) : List ReadPointConfig := parseLines (fileLines file)

/-! ## Command tables (`Config.cpp:372-402`) -/

def analogCommandFor (p : ReadPointConfig) : CommandPointConfig :=
  { dnp3_index := p.dnp3_analog_index, ip := p.ip, port := p.port, slave_id := p.slave_id
    target := .holdingRegister, modbus_address := p.address, value_type := p.type
    description := str "Comando automatico AO -> Holding Register para: " ++ p.description }

def binaryCommandFor (p : ReadPointConfig) : CommandPointConfig :=
  { dnp3_index := p.dnp3_analog_index, ip := p.ip, port := p.port, slave_id := p.slave_id
    target := .coil, modbus_address := p.address, value_type := p.type
    description := str "Comando automatico CROB -> Coil para: " ++ p.description }

/-- One turn of the loop: what a read point adds to the tables. -/
def addCommandFor (profile : ProfileConfig) (p : ReadPointConfig) : ProfileConfig :=
  if isHoldingRegisterType p.type then
    { profile with analog_commands := profile.analog_commands ++ [analogCommandFor p] }
  else if isCoilStatusType p.type then
    { profile with binary_commands := profile.binary_commands ++ [binaryCommandFor p] }
  else profile

/-- **`BuildAutomaticCommandMappingsFromReadPoints`** -/
def buildAutomaticCommandMappingsFromReadPoints (profile : ProfileConfig) : ProfileConfig :=
  profile.read_points.foldl addCommandFor { profile with analog_commands := [], binary_commands := [] }

/-! ## Start-up (`Config.cpp:289-313, 405-458`) -/

/-- **`IsLegacyAutoExampleLine`** -/
def isLegacyAutoExampleLine (clean : Bytes) : Bool :=
  (str "Exemplo inteiro HR0;").isPrefixOf clean || (str "Exemplo float32 HR10_HR11;").isPrefixOf clean

/-- The loop of `FileHasOnlyLegacyAutoExamples` from the value of `found_legacy_example` on. -/
def onlyLegacyAutoExamples : Bool → List Bytes → Bool
  | found, [] => found
  | found, line :: lines =>
    let clean := trimCopy line
    if isSkipped clean then onlyLegacyAutoExamples found lines
    else if isLegacyAutoExampleLine clean then onlyLegacyAutoExamples true lines
    else false

/-- **`FileHasOnlyLegacyAutoExamples`** -/
def fileHasOnlyLegacyAutoExamples (file : PointsFile) : Bool := onlyLegacyAutoExamples false (fileLines file)

/-- What start-up leaves: the profile, the points file and the log lines, oldest first. -/
structure StartUp where
  profile : ProfileConfig
  file : PointsFile
  logs : List LogEntry

def profileName (file_path : Bytes) : Bytes := str "Configuração Modbus -> DNP3: " ++ file_path

def logMissingFile (file_path : Bytes) : LogEntry :=
  ⟨.warn, str "CONFIG", str "Arquivo de configuração não encontrado: " ++ file_path ++
    str ". Criando automaticamente um CSV vazio para cadastro pela interface."⟩

def logLegacyExamples : LogEntry :=
  ⟨.warn, str "CONFIG", str "Foram encontrados somente exemplos automáticos antigos no points_config.csv. " ++
    str "Limpando o arquivo para iniciar sem pontos pré-configurados."⟩

def logBadLine (line_number : Nat) (error : Bytes) : LogEntry :=
  ⟨.warn, str "CONFIG", str "Linha " ++ Numeral.decimal line_number ++ str ": " ++ error⟩

def logNoPoints : LogEntry :=
  ⟨.info, str "CONFIG", str "Nenhum ponto configurado ainda. " ++
    str "A interface iniciará vazia para cadastro dos pontos Modbus -> DNP3."⟩

def logCommands (profile : ProfileConfig) : LogEntry :=
  ⟨.info, str "CONFIG", str "Comandos DNP3 automaticos criados a partir dos pontos de leitura: " ++
    Numeral.decimal profile.analog_commands.length ++ str " analogicos e " ++
    Numeral.decimal profile.binary_commands.length ++ str " binarios. " ++
    str "Holding Register aceita Analog Output; Coil Status aceita CROB. " ++
    str "Input Register e Input Status sao somente leitura."⟩

/-- The `getline` loop of `BuildConfigFileProfile`; `line_number` counts the lines read before. -/
def readProfileLines (line_number : Nat) : List Bytes → List ReadPointConfig × List LogEntry
  | [] => ([], [])
  | line :: lines =>
    let rest := readProfileLines (line_number + 1) lines
    match tryBuildReadPointFromCsvLine line with
    | .ok point => (point :: rest.1, rest.2)
    | .error error =>
      if isSkipped (trimCopy line) then rest else (rest.1, logBadLine (line_number + 1) error :: rest.2)

/-- **`BuildConfigFileProfile`** (`Config.cpp:405`). The flag `SaveProfile…` returns is not looked at. -/
def buildConfigFileProfile (file_path : Bytes) (fate : WriteFate) (file : PointsFile) : StartUp :=
  let profile : ProfileConfig := { name := profileName file_path }
  if file.isNone then
    { profile, file := (saveProfileReadPointsToCsv fate file profile).2, logs := [logMissingFile file_path] }
  else if fileHasOnlyLegacyAutoExamples file then
    { profile, file := (saveProfileReadPointsToCsv fate file profile).2, logs := [logLegacyExamples] }
  else
    let (read_points, warnings) := readProfileLines 0 (fileLines file)
    let profile := buildAutomaticCommandMappingsFromReadPoints { profile with read_points }
    { profile, file
      logs := warnings ++ (if read_points.isEmpty then [logNoPoints] else []) ++ [logCommands profile] }

/-! ## The command tables built from the read points (`Config.cpp:372-402`) -/

theorem addCommandFor_eq (profile : ProfileConfig) (p : ReadPointConfig) :
    addCommandFor profile p = { profile with
      analog_commands := profile.analog_commands ++
        (if isHoldingRegisterType p.type then [analogCommandFor p] else [])
      binary_commands := profile.binary_commands ++
        (if isCoilStatusType p.type then [binaryCommandFor p] else []) } := by
  unfold addCommandFor
  split
  · rename_i h
    have hc : isCoilStatusType p.type = false := by
      cases hp : p.type <;> simp_all [isHoldingRegisterType, isCoilStatusType]
    simp [hc]
  · split <;> simp

/-- The loop from any tables. -/
theorem foldl_addCommandFor (points : List ReadPointConfig) (profile : ProfileConfig) :
    points.foldl addCommandFor profile = { profile with
      analog_commands := profile.analog_commands ++
        (points.filter (isHoldingRegisterType ·.type)).map analogCommandFor
      binary_commands := profile.binary_commands ++
        (points.filter (isCoilStatusType ·.type)).map binaryCommandFor } := by
  induction points generalizing profile with
  | nil => simp
  | cons p ps ih =>
    rw [List.foldl_cons, ih, addCommandFor_eq]
    simp only [List.filter_cons]
    split <;> split <;> simp

/-- **The tables**: one entry for each holding register, and one for each coil, in the order of the points. -/
theorem build_eq (profile : ProfileConfig) : buildAutomaticCommandMappingsFromReadPoints profile = { profile with
    analog_commands := (profile.read_points.filter (isHoldingRegisterType ·.type)).map analogCommandFor
    binary_commands := (profile.read_points.filter (isCoilStatusType ·.type)).map binaryCommandFor } := by
  rw [buildAutomaticCommandMappingsFromReadPoints, foldl_addCommandFor]
  simp

theorem build_read_points (profile : ProfileConfig) :
    (buildAutomaticCommandMappingsFromReadPoints profile).read_points = profile.read_points := by
  rw [build_eq]

end Gateway
