import ModbusGateway.Interface
import ModbusGateway.Lib.GeneralFormat

/-!
# The panel (`Interface.cpp:212-227, 324-470`)

`BuildHtmlPageServerRendered` writes one page from the points of the file, what the pollers hold, the recent
log lines and a notice. The literals are those of the source in its order; long ones are cut, and a brace is
written `\x7b` or `\x7d`.

| here | there |
| --- | --- |
| `htmlEscape`  | `HtmlEscape` (`:212`) |
| `printValue`  | `<<` of a `double`; the signs of a zero and of a NaN are not kept |
| `pointCells`, `stateCells`, `removeCell` | one turn of the loop over the points (`:418-453`) |
| `logBox`      | one turn of the loop over `g_recent_logs` (`:461-466`) |
-/

namespace Gateway

open BinaryFloat (Value)

/-! ## Texts -/

def htmlEscapeByte : UInt8 → Bytes
  | 38 => str "&amp;"
  | 60 => str "&lt;"
  | 62 => str "&gt;"
  | 34 => str "&quot;"
  | 39 => str "&#39;"
  | c => [c]

/-- **`HtmlEscape`** -/
def htmlEscape (s : Bytes) : Bytes := s.flatMap htmlEscapeByte

def texts (pieces : List String) : Bytes := pieces.flatMap str

def printValue : Value → Bytes
  | .finite q => Numeral.printGeneral 6 q
  | .inf negative => (if negative then str "-" else []) ++ str "inf"
  | .nan => str "nan"

/-- `UiLogEntry` (`Tipos.h:75`) -/
structure UiLogEntry where
  time : Bytes
  level : Bytes
  scope : Bytes
  text : Bytes
deriving DecidableEq

def DNP3_TCP_PORT : Nat := 20000

/-- **`Dnp3PointTypeLabel`** (`Config.cpp:88`) -/
def dnp3PointTypeLabel (type : ReadValueType) : Bytes :=
  if publishesAsDnp3Binary type then str "Binary Input" else str "Analog Input"

/-- **`Dnp3ClassLabel`** (`Config.cpp:113`) -/
def dnp3ClassLabel (_type : ReadValueType) : Bytes := str "Class 1"

/-! ## What runs -/

/-- **`SameReadPointForUi`** (`Config.cpp:490`): the comparisons of `IsSameConfiguredPoint`. -/
def sameReadPointForUi (a b : ReadPointConfig) : Bool := isSameConfiguredPoint a b

/-- **`FindRuntimePointIndexForUi`** (`Config.cpp:501`) -/
def findRuntimePointIndexForUi (read_points : List ReadPointConfig) (point : ReadPointConfig) : Int32 :=
  match read_points.findIdx? (sameReadPointForUi point) with
  | some i => Int32.ofNat i
  | none => -1

/-- What the page is written from. -/
structure PageInputs where
  /-- `LoadConfiguredPointsFromCsvForUi(g_active_config_file)` -/
  configured_points_for_ui : List ReadPointConfig
  /-- `g_profile.read_points` -/
  read_points : List ReadPointConfig
  point_states : List ReadPointState
  /-- `g_recent_logs` -/
  recent_logs : List UiLogEntry
  notice : Bytes

/-- The state of a configured point that runs. -/
def PageInputs.runtimeState (inputs : PageInputs) (p : ReadPointConfig) : Option ReadPointState :=
  let runtime_index := findRuntimePointIndexForUi inputs.read_points p
  if 0 ≤ runtime_index then inputs.point_states[runtime_index.toNatClampNeg]? else none

/-- `active_now` -/
def PageInputs.activeNow (inputs : PageInputs) (p : ReadPointConfig) : Bool := (inputs.runtimeState p).isSome

/-! ## The parts without inputs -/

/-- `<head>` up to its style sheet (`:330-355`). -/
def pageHead : Bytes := texts [
  "<!doctype html><html lang=\"pt-br\"><head>",
  "<meta charset=\"utf-8\">",
  "<meta name=\"viewport\" content=\"width=device-width, initial-scale=1\">",
  "<title>Configurador de Pontos de Comunicação</title>",
  "<style>",
  "body\x7bfont-family:Arial,sans-serif;background:#f6f7fb;margin:0;color:#1f2937\x7d",
  "header\x7bpadding:16px 20px;background:#111827;color:white\x7d",
  "main\x7bpadding:20px;max-width:1280px;margin:auto\x7d",
  ".row\x7bdisplay:grid;grid-template-columns:1.2fr 1fr;gap:16px\x7d",
  ".card\x7bbackground:white;border-radius:16px;padding:16px;box-shadow:0 1px 3px rgba(0,0,0,.08);",
  "margin-bottom:16px\x7d",
  ".title\x7bfont-size:18px;font-weight:700;margin-bottom:12px\x7d",
  ".small\x7bfont-size:13px;color:#6b7280\x7d",
  ".ok\x7bdisplay:inline-block;padding:6px 10px;border-radius:999px;background:#dcfce7;font-size:12px;",
  "margin-right:8px\x7d",
  ".bad\x7bdisplay:inline-block;padding:6px 10px;border-radius:999px;background:#fee2e2;font-size:12px;",
  "margin-right:8px\x7d",
  ".warn\x7bdisplay:inline-block;padding:6px 10px;border-radius:999px;background:#fef3c7;font-size:12px;",
  "margin-right:8px\x7d",
  ".grid\x7bdisplay:grid;gap:12px\x7d.grid3\x7bgrid-template-columns:repeat(3,1fr)\x7d",
  ".grid2\x7bgrid-template-columns:repeat(2,1fr)\x7d",
  "table\x7bwidth:100%;border-collapse:collapse;font-size:14px\x7dth,td\x7bpadding:8px;",
  "border-bottom:1px solid #e5e7eb;text-align:left;vertical-align:top\x7d",
  "input,select,button\x7bpadding:10px 12px;border-radius:10px;border:1px solid #d1d5db;font-size:14px\x7d",
  "button\x7bcursor:pointer;background:#111827;color:#fff;border:none\x7d",
  "button.secondary\x7bbackground:#4b5563\x7d",
  ".logs\x7bmax-height:420px;overflow:auto\x7d.log\x7bborder:1px solid #e5e7eb;border-radius:12px;padding:10px;",
  "margin-bottom:8px;background:#fff\x7d",
  ".statusbox\x7bpadding:12px;border-radius:12px;background:#f9fafb\x7d",
  ".mono\x7bfont-family:ui-monospace,SFMono-Regular,Menlo,monospace\x7d",
  ".formgrid\x7bdisplay:grid;grid-template-columns:1.2fr .8fr .8fr .8fr auto;gap:8px;align-items:end\x7d",
  ".notice\x7bpadding:12px;border-radius:12px;background:#e0f2fe;border:1px solid #bae6fd;",
  "margin-bottom:16px\x7d",
  ".refresh-pill\x7bdisplay:inline-block;padding:6px 10px;border-radius:999px;background:#dbeafe;",
  "font-size:12px;margin-left:8px\x7d",
  "@media (max-width:980px)\x7b.row,.grid3,.grid2,.formgrid\x7bgrid-template-columns:1fr\x7d\x7d",
  "</style>"]

/-- The script and the end of `<head>` (`:356-367`). -/
def pageScript : Bytes := texts [
  "<script>",
  "const FORM_KEY='dnp3_modbus_form_state_v3';const SCROLL_KEY='dnp3_modbus_scroll_y_v3';",
  "const AUTO_KEY='dnp3_modbus_auto_refresh_v3';let __refreshTimer=null;",
  "function __setRefreshStatus(txt)\x7bconst el=document.getElementById('refreshStatus');if(!el)return;",
  "el.textContent=txt;\x7d",
  "function __syncRefreshButtons()\x7bconst enabled=localStorage.getItem(AUTO_KEY)==='1';",
  "const start=document.getElementById('startRefreshBtn');const stop=document.getElementById('stopRefreshBtn');",
  "if(start)start.disabled=enabled;if(stop)stop.disabled=!enabled;",
  "__setRefreshStatus(enabled?'Atualização automática ligada (2s)':'Atualização automática parada');\x7d",
  "function __startRefresh()\x7btry\x7blocalStorage.setItem(AUTO_KEY,'1');\x7dcatch(e)\x7b\x7d",
  "if(__refreshTimer)clearInterval(__refreshTimer);__syncRefreshButtons();",
  "__refreshTimer=setInterval(function()\x7bif(localStorage.getItem(AUTO_KEY)==='1')\x7b__saveFormState();",
  "window.location.href='/';\x7d\x7d,2000);\x7d",
  "function __stopRefresh()\x7btry\x7blocalStorage.setItem(AUTO_KEY,'0');\x7dcatch(e)\x7b\x7d",
  "if(__refreshTimer)clearInterval(__refreshTimer);__refreshTimer=null;__syncRefreshButtons();\x7d",
  "function __syncModbusDataType()\x7bconst reg=document.getElementById('modbusRegType');",
  "const dt=document.getElementById('modbusDataType');if(!reg||!dt)return;",
  "const bit=(reg.value==='coil_status'||reg.value==='input_status');",
  "Array.from(dt.options).forEach(function(o)\x7bif(bit)\x7bo.hidden=(o.value!=='bool');\x7d",
  "else\x7bo.hidden=(o.value==='bool');\x7d\x7d);if(bit)\x7bdt.value='bool';dt.disabled=true;\x7d",
  "else\x7bdt.disabled=false;if(dt.value==='bool')dt.value='int16';\x7d__updateDnp3Suggestion();\x7d",
  "function __updateDnp3Suggestion()\x7bconst reg=document.getElementById('modbusRegType');",
  "const dt=document.getElementById('modbusDataType');if(!reg||!dt)return;",
  "const bit=(reg.value==='coil_status'||reg.value==='input_status');const data=dt.value;",
  "let tipo=bit?'Binary Input':'Analog Input';let obj=bit?'1':'30';let variation='2';let classe='Class 1';",
  "let desc=bit?'Entrada binária DNP3 para ponto discreto/booleano':'Entrada analógica DNP3 inteira de 16 ",
  "bits';if(!bit&&data==='float32')\x7bvariation='5';desc='Entrada analógica DNP3 em ponto flutuante de 32 ",
  "bits';\x7delse if(!bit&&(data==='int32'||data==='uint32'))\x7bvariation='1';",
  "desc='Entrada analógica DNP3 inteira de 32 bits';\x7dconst set=(id,val)=>",
  "\x7bconst el=document.getElementById(id);if(el)el.textContent=val;\x7d;set('dnpSugType',tipo);",
  "set('dnpSugObj',obj);set('dnpSugVar',variation);set('dnpSugClass',classe);set('dnpSugDesc',desc);\x7d",
  "function __saveFormState()\x7bconst form=document.getElementById('pointForm');if(!form)return;",
  "const data=\x7b\x7d;Array.from(form.elements).forEach(function(el)\x7bif(!el.name)return;",
  "data[el.name]=el.value;\x7d);try\x7blocalStorage.setItem(FORM_KEY,JSON.stringify(data));",
  "localStorage.setItem(SCROLL_KEY,String(window.scrollY||0));\x7dcatch(e)\x7b\x7d\x7d",
  "function __restoreFormState()\x7blet raw=null;try\x7braw=localStorage.getItem(FORM_KEY);\x7dcatch(e)\x7b\x7d",
  "if(!raw)return;let data=\x7b\x7d;try\x7bdata=JSON.parse(raw)||\x7b\x7d;\x7dcatch(e)\x7breturn;\x7d",
  "const form=document.getElementById('pointForm');if(!form)return;",
  "Array.from(form.elements).forEach(function(el)\x7bif(!el.name)return;",
  "if(Object.prototype.hasOwnProperty.call(data,el.name))\x7bel.value=data[el.name];\x7d\x7d);",
  "__syncModbusDataType();let y=0;try\x7by=parseInt(localStorage.getItem(SCROLL_KEY)||'0',10)||0;\x7d",
  "catch(e)\x7b\x7dif(y>0)\x7bsetTimeout(function()\x7bwindow.scrollTo(0,y);\x7d,50);\x7d\x7d",
  "window.addEventListener('DOMContentLoaded',function()\x7bconst reg=document.getElementById('modbusRegType');",
  "if(reg)\x7breg.addEventListener('change',function()\x7b__syncModbusDataType();__saveFormState();\x7d);\x7d",
  "const dt=document.getElementById('modbusDataType');if(dt)\x7bdt.addEventListener('change',",
  "function()\x7b__updateDnp3Suggestion();__saveFormState();\x7d);\x7d",
  "document.querySelectorAll('#pointForm input,#pointForm select').forEach(function(el)\x7bel.addEventListener(",
  "'input',__saveFormState);el.addEventListener('change',__saveFormState);\x7d);",
  "document.querySelectorAll('form').forEach(function(f)\x7bf.addEventListener('submit',function()\x7bconst ",
  "dt=document.getElementById('modbusDataType');if(dt)dt.disabled=false;",
  "try\x7blocalStorage.removeItem(FORM_KEY);\x7dcatch(e)\x7b\x7d\x7d);\x7d);",
  "const start=document.getElementById('startRefreshBtn');const stop=document.getElementById('stopRefreshBtn');",
  "if(start)start.addEventListener('click',__startRefresh);if(stop)stop.addEventListener('click',",
  "__stopRefresh);__restoreFormState();__syncModbusDataType();__updateDnp3Suggestion();",
  "if(localStorage.getItem(AUTO_KEY)==='1')\x7b__startRefresh();\x7d",
  "else\x7btry\x7blocalStorage.setItem(AUTO_KEY,'0');\x7dcatch(e)\x7b\x7d__syncRefreshButtons();\x7d\x7d);",
  "</script></head><body>"]

/-- The header and the start of `<main>` (`:369-374`). -/
def pageHeader : Bytes := texts [
  "<header><div style=\"font-size:24px;font-weight:700\">Configurador de Pontos de Comunicação</div>",
  "<div class=\"small\" style=\"margin-top:8px;display:flex;gap:8px;align-items:center;flex-wrap:wrap\">",
  "<span id=\"refreshStatus\" class=\"refresh-pill\">Atualização automática parada</span>",
  "<button type=\"button\" id=\"startRefreshBtn\" class=\"secondary\" style=\"padding:6px 10px;",
  "font-size:12px\">Iniciar atualização</button>",
  "<button type=\"button\" id=\"stopRefreshBtn\" class=\"secondary\" style=\"padding:6px 10px;",
  "font-size:12px\">Parar atualização</button>",
  "</div></header><main>"]

/-- The form of a new point and the start of the table's card (`:380-411`). -/
def pageForm : Bytes := texts [
  "<div class=\"row\"><section>",
  "<div class=\"card\"><div class=\"title\">Cadastrar ponto de comunicação</div>",
  "<form id=\"pointForm\" method=\"GET\" action=\"/addpoint\" style=\"margin-top:12px\">",
  "<div class=\"grid grid3\">",
  "<div><div class=\"small\">Nome do ponto</div><input name=\"name\" value=\"Temperatura\"></div>",
  "<div><div class=\"small\">Protocolo de origem</div><select name=\"source_protocol\">",
  "<option value=\"modbus_tcp\">Modbus TCP</option></select></div>",
  "<div><div class=\"small\">Endereço IP do equipamento</div><input name=\"ip\" value=\"192.168.100.200\">",
  "</div>",
  "<div><div class=\"small\">Porta TCP do equipamento</div><input name=\"port\" value=\"502\"></div>",
  "<div><div class=\"small\">Endereço do escravo Modbus (Unit ID)</div><input name=\"slave_id\" value=\"1\">",
  "</div>",
  "<div><div class=\"small\">Tipo de ponto Modbus</div><select id=\"modbusRegType\" name=\"reg\">",
  "<option value=\"coil_status\">Coil Status</option><option value=\"input_status\">Input Status</option>",
  "<option value=\"holding\" selected>Holding Register</option><option value=\"input_register\">",
  "Input Register</option></select></div>",
  "<div><div class=\"small\">Endereço inicial do ponto Modbus</div><input name=\"address\" value=\"0\"></div>",
  "<div><div class=\"small\">Formato do dado lido</div><select id=\"modbusDataType\" name=\"data_type\">",
  "<option value=\"bool\">bool</option><option value=\"int16\" selected>int16</option><option value=\"uint16\">",
  "uint16</option><option value=\"int32\">int32</option><option value=\"uint32\">uint32</option>",
  "<option value=\"float32\">float32</option></select></div>",
  "<div><div class=\"small\">Índice DNP3 sugerido/editável</div><input name=\"dnp_index\" value=\"0\"></div>",
  "</div>",
  "<div class=\"statusbox\" style=\"margin-top:12px\">",
  "<div class=\"title\" style=\"font-size:16px;margin-bottom:8px\">",
  "Publicação DNP3 sugerida automaticamente</div>",
  "<div class=\"grid grid3\">",
  "<div><div class=\"small\">Tipo DNP3</div><strong id=\"dnpSugType\">Analog Input</strong></div>",
  "<div><div class=\"small\">Objeto / Grupo</div><strong id=\"dnpSugObj\">30</strong></div>",
  "<div><div class=\"small\">Variação estática</div><strong id=\"dnpSugVar\">2</strong></div>",
  "<div><div class=\"small\">Classe</div><strong id=\"dnpSugClass\">Class 1</strong></div>",
  "<div style=\"grid-column:span 2\"><div class=\"small\">Descrição</div><strong id=\"dnpSugDesc\">",
  "Entrada analógica DNP3 inteira de 16 bits</strong></div>",
  "</div>",
  "<div class=\"small\" style=\"margin-top:8px\">O tipo, objeto, variação e classe são calculados pelo ",
  "sistema. O único campo DNP3 que você altera é o índice.</div>",
  "</div>",
  "<div style=\"margin-top:12px\"><button type=\"submit\">Salvar ponto</button></div>",
  "</form>",
  "<div style=\"margin-top:10px\"><a href=\"/clearpoints\" onclick=\"return confirm('Tem certeza que deseja ",
  "limpar a lista de pontos? Depois reinicie o programa.')\"><button type=\"button\" class=\"secondary\">",
  "Limpar lista de pontos</button></a></div>",
  "</div>",
  "<div class=\"card\"><div class=\"title\">Pontos configurados</div>"]

/-- No point is configured (`:414`). -/
def emptyTable : Bytes := texts [
  "<div class=\"statusbox\"><strong>Nenhum ponto configurado ainda.</strong><br>",
  "Cadastre um ponto acima para iniciar a configuração.</div>"]

/-- The head of the table (`:416-417`). -/
def tableHead : Bytes := texts [
  "<div class=\"small\" style=\"margin-bottom:8px\">Esta tabela mostra os pontos cadastrados para leitura ",
  "Modbus TCP e publicação DNP3.</div>",
  "<table><thead><tr><th>Ponto</th><th>Equipamento de origem</th><th>Tipo Modbus</th><th>Dado</th><th>",
  "Endereço</th><th>Qtd</th><th>Publicação DNP3 sugerida</th><th>Orientação para supervisório</th><th>",
  "Valor</th><th>Conectado</th><th>Falhas</th><th>Status</th><th>Ação</th></tr></thead><tbody>"]

/-! ## The parts with inputs -/

def noticeBox (notice : Bytes) : Bytes :=
  if notice.isEmpty then []
  else str "<div class=\"notice\"><strong>Resultado:</strong> " ++ htmlEscape notice ++ str "</div>"

def pointCells (p : ReadPointConfig) : Bytes :=
  str "<tr><td>" ++ htmlEscape p.description ++ str "</td>" ++
  str "<td class=\"mono\">" ++ htmlEscape p.ip ++ str ":" ++ toText p.port ++ str " | id " ++ toText p.slave_id ++
  str "</td>" ++
  str "<td>" ++ htmlEscape (readValueTypeRegisterKind p.type) ++ str "</td>" ++
  str "<td>" ++ htmlEscape (readValueTypeDataType p.type) ++ str "</td>" ++
  str "<td>" ++ toText p.address ++ str "</td>" ++
  str "<td>" ++ toText p.count ++ str "</td>" ++
  str "<td>" ++ htmlEscape (dnp3PointTypeLabel p.type) ++
  str " " ++ Numeral.decimal p.dnp3_analog_index.toNat ++
  str "<br><span class=\"small\">Objeto " ++ Numeral.decimal (dnp3ObjectGroup p.type) ++
  str " / Var " ++ Numeral.decimal (dnp3StaticVariationNumber p.type) ++
  str " / " ++ htmlEscape (dnp3ClassLabel p.type) ++ str "</span></td>" ++
  str "<td class=\"small\">Elipse E3: P1/N1=0, P2/N2=1, P3/N3=" ++
  Numeral.decimal (dnp3ObjectGroup p.type * 100 + dnp3StaticVariationNumber p.type) ++
  str ", P4/N4=" ++ Numeral.decimal p.dnp3_analog_index.toNat ++
  str "<br>Tipo: " ++ htmlEscape (dnp3PointTypeLabel p.type) ++
  str " | porta TCP " ++ Numeral.decimal DNP3_TCP_PORT ++ str "</td>"

def stateCells : Option ReadPointState → Bytes
  | some s =>
    str "<td>" ++ printValue s.analog_value ++ str "</td>" ++
    str "<td>" ++ (if s.connection_status then str "SIM" else str "NÃO") ++ str "</td>" ++
    str "<td>" ++ toText s.failure_count ++ str "</td>" ++
    str "<td><span class=\"ok\">ATIVO</span></td>"
  | none => str "<td>-</td><td>-</td><td>-</td><td><span class=\"warn\">PENDENTE REINICIAR</span></td>"

def removeCell (link : Bytes) : Bytes :=
  str "<td><a href=\"" ++ link ++ texts [
  "\" onclick=\"return confirm('Remover este ponto do arquivo de configuração? ",
  "Depois reinicie o programa para o DNP3 recriar o banco.');\">",
  "<button type=\"button\" class=\"secondary\">Remover</button></a></td></tr>"]

def pointRow (inputs : PageInputs) (i : Nat) (p : ReadPointConfig) : Bytes :=
  pointCells p ++ stateCells (inputs.runtimeState p) ++ removeCell (removeLink i)

def pointsTable (inputs : PageInputs) : Bytes :=
  if inputs.configured_points_for_ui.isEmpty then emptyTable
  else tableHead ++ (inputs.configured_points_for_ui.mapIdx (pointRow inputs)).flatten ++ str "</tbody></table>"

def logClass (level : Bytes) : Bytes :=
  if level = str "ERROR" then str "bad" else if level = str "WARN" then str "warn" else str "ok"

def logBox (l : UiLogEntry) : Bytes :=
  str "<div class=\"log\"><div><strong>" ++ htmlEscape l.scope ++ str "</strong> <span class=\"" ++
  logClass l.level ++ str "\">" ++ htmlEscape l.level ++ str "</span></div>" ++
  str "<div>" ++ htmlEscape l.text ++ str "</div>" ++
  str "<div class=\"small\">" ++ htmlEscape l.time ++ str "</div></div>"

/-- **`BuildHtmlPageServerRendered`** -/
def buildHtmlPageServerRendered (inputs : PageInputs) : Bytes :=
  pageHead ++ pageScript ++ pageHeader ++ noticeBox inputs.notice ++ pageForm ++ pointsTable inputs ++
  str "</div>" ++ str "</section><section>" ++
  str "<div class=\"card\"><div class=\"title\">Logs</div><div class=\"logs\">" ++
  inputs.recent_logs.flatMap logBox ++
  str "</div></div>" ++ str "</section></div></main></body></html>"

end Gateway
