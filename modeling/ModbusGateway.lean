import ModbusGateway.Lib.Text
import ModbusGateway.Lib.Numeral
import ModbusGateway.Lib.Rounding
import ModbusGateway.Lib.Binary
import ModbusGateway.Lib.Run
import ModbusGateway.Lib.Table
import ModbusGateway.Tipos
import ModbusGateway.Config
import ModbusGateway.Csv
import ModbusGateway.Interface
import ModbusGateway.PointsStore
import ModbusGateway.AddRemove
import ModbusGateway.HttpRuns
import ModbusGateway.WriteFailures
import ModbusGateway.Restart
import ModbusGateway.Outstation
import ModbusGateway.Registers
import ModbusGateway.Dnp3
import ModbusGateway.StaticReads
import ModbusGateway.Events
import ModbusGateway.PollHistory
import ModbusGateway.Poll
import ModbusGateway.PollRuns
import ModbusGateway.Lib.Program
import ModbusGateway.Modbus
import ModbusGateway.Commands
import ModbusGateway.ConfiguredDatabase
import ModbusGateway.NumericFields
import ModbusGateway.SelectOperate
import ModbusGateway.FormFields
import ModbusGateway.PartialRequests
import ModbusGateway.Lib.Threads
import ModbusGateway.GatewayThreads
import ModbusGateway.LockOrder
import ModbusGateway.ContextLedger
import ModbusGateway.StatusCause
import ModbusGateway.QueryCodec
import ModbusGateway.Lib.GeneralFormat
import ModbusGateway.Page
import ModbusGateway.PageMarkup
import ModbusGateway.Lib.Crc
import ModbusGateway.Lib.Framing
import ModbusGateway.LinkFrames
import ModbusGateway.LinkParser
import ModbusGateway.LinkStream
import ModbusGateway.EndToEnd
import ModbusGateway.EventBuffer
import ModbusGateway.EventQueue
import ModbusGateway.EventReport
import ModbusGateway.EventRuns
import ModbusGateway.Apdu
import ModbusGateway.KeptBuffer
import ModbusGateway.Lib.Log
import ModbusGateway.OutstationContext
import ModbusGateway.OutstationMoves
import ModbusGateway.OutstationRequests
import ModbusGateway.OutstationTransmissions
import ModbusGateway.OutstationDelivery
