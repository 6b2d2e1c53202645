import ModbusGateway.EventBuffer
import ModbusGateway.LinkParser

/-!
# Fragments of the application layer (opendnp3)

A request is a control byte, a function code and object headers; a response has two bytes of internal indications
before its objects.

| here | there |
| --- | --- |
| `AppControlField` | app/AppControlField.cpp |
| `IINField`, `IINBit` | app/IINField.cpp, app/IINField.h |
| `FunctionCode.fromType` | `FunctionCodeSpec::from_type` (gen/FunctionCode.cpp) |
| `isNoAckFuncCode` | app/Functions.cpp |
| `APDUHeader.equals`, `parseRequest` | app/APDUHeader.h:44, app/parsing/APDUHeaderParser.cpp:33 |
| `Response` | what stands in a `TxBuffer` (app/TxBuffer.h), without its bytes |
-/

namespace Opendnp3

/-! ## Control field -/

/-- `SEQ` is below 16: it is read off four bits, or is an `AppSeqNum`. -/
structure AppControlField where
  fir : Bool := true
  fin : Bool := true
  con : Bool := false
  uns : Bool := false
  seq : UInt8 := 0
deriving DecidableEq, Repr

/-- `SequenceNum<uint8_t, 16>::Next` -/
def nextAppSeq (seq : UInt8) : UInt8 := (seq + 1) % 16

namespace AppControlField

def ofByte (byte : UInt8) : AppControlField where
  fir := byte &&& 0x80 != 0
  fin := byte &&& 0x40 != 0
  con := byte &&& 0x20 != 0
  uns := byte &&& 0x10 != 0
  seq := byte &&& 0x0F

def toByte (control : AppControlField) : UInt8 :=
  (if control.fir then 0x80 else 0) ||| (if control.fin then 0x40 else 0) ||| (if control.con then 0x20 else 0) |||
    (if control.uns then 0x10 else 0) ||| control.seq % 16

def isFirAndFin (control : AppControlField) : Bool := control.fir && control.fin

end AppControlField

/-! ## Internal indications -/

inductive IINBit where
  | broadcast
  | class1Events
  | class2Events
  | class3Events
  | needTime
  | localControl
  | deviceTrouble
  | deviceRestart
  | funcNotSupported
  | objectUnknown
  | paramError
  | eventBufferOverflow
  | alreadyExecuting
  | configCorrupt
  | reserved1
  | reserved2
deriving DecidableEq, Repr

structure IINField where
  lsb : UInt8 := 0
  msb : UInt8 := 0
deriving DecidableEq, Repr

namespace IINBit

/-- `LSBMask`, `MSBMask` -/
def mask : IINBit → IINField
  | broadcast => ⟨0x01, 0⟩
  | class1Events => ⟨0x02, 0⟩
  | class2Events => ⟨0x04, 0⟩
  | class3Events => ⟨0x08, 0⟩
  | needTime => ⟨0x10, 0⟩
  | localControl => ⟨0x20, 0⟩
  | deviceTrouble => ⟨0x40, 0⟩
  | deviceRestart => ⟨0x80, 0⟩
  | funcNotSupported => ⟨0, 0x01⟩
  | objectUnknown => ⟨0, 0x02⟩
  | paramError => ⟨0, 0x04⟩
  | eventBufferOverflow => ⟨0, 0x08⟩
  | alreadyExecuting => ⟨0, 0x10⟩
  | configCorrupt => ⟨0, 0x20⟩
  | reserved1 => ⟨0, 0x40⟩
  | reserved2 => ⟨0, 0x80⟩

end IINBit

namespace IINField

/-- `operator|` -/
def or (iin iin' : IINField) : IINField := ⟨iin.lsb ||| iin'.lsb, iin.msb ||| iin'.msb⟩

def setBit (iin : IINField) (bit : IINBit) : IINField := iin.or bit.mask

def clearBit (iin : IINField) (bit : IINBit) : IINField := ⟨iin.lsb &&& ~~~bit.mask.lsb, iin.msb &&& ~~~bit.mask.msb⟩

def setBitToValue (iin : IINField) (bit : IINBit) (value : Bool) : IINField :=
  if value then iin.setBit bit else iin.clearBit bit

def empty : IINField := {}

/-- `IINField(IINBit)` -/
def ofBit (bit : IINBit) : IINField := empty.setBit bit

end IINField

/-! ## Function codes -/

inductive FunctionCode where
  | confirm
  | read
  | write
  | select
  | operate
  | directOperate
  | directOperateNR
  | immedFreeze
  | immedFreezeNR
  | freezeClear
  | freezeClearNR
  | freezeAtTime
  | freezeAtTimeNR
  | coldRestart
  | warmRestart
  | initializeData
  | initializeApplication
  | startApplication
  | stopApplication
  | saveConfiguration
  | enableUnsolicited
  | disableUnsolicited
  | assignClass
  | delayMeasure
  | recordCurrentTime
  | openFile
  | closeFile
  | deleteFile
  | getFileInfo
  | authenticateFile
  | abortFile
  | authRequest
  | authRequestNoAck
  | response
  | unsolicitedResponse
  | authResponse
  | unknown
deriving DecidableEq, Repr

namespace FunctionCode

def toType : FunctionCode → UInt8
  | confirm => 0x00
  | read => 0x01
  | write => 0x02
  | select => 0x03
  | operate => 0x04
  | directOperate => 0x05
  | directOperateNR => 0x06
  | immedFreeze => 0x07
  | immedFreezeNR => 0x08
  | freezeClear => 0x09
  | freezeClearNR => 0x0A
  | freezeAtTime => 0x0B
  | freezeAtTimeNR => 0x0C
  | coldRestart => 0x0D
  | warmRestart => 0x0E
  | initializeData => 0x0F
  | initializeApplication => 0x10
  | startApplication => 0x11
  | stopApplication => 0x12
  | saveConfiguration => 0x13
  | enableUnsolicited => 0x14
  | disableUnsolicited => 0x15
  | assignClass => 0x16
  | delayMeasure => 0x17
  | recordCurrentTime => 0x18
  | openFile => 0x19
  | closeFile => 0x1A
  | deleteFile => 0x1B
  | getFileInfo => 0x1C
  | authenticateFile => 0x1D
  | abortFile => 0x1E
  | authRequest => 0x20
  | authRequestNoAck => 0x21
  | response => 0x81
  | unsolicitedResponse => 0x82
  | authResponse => 0x83
  | unknown => 0xFF

def all : List FunctionCode :=
  [confirm, read, write, select, operate, directOperate, directOperateNR, immedFreeze, immedFreezeNR, freezeClear,
    freezeClearNR, freezeAtTime, freezeAtTimeNR, coldRestart, warmRestart, initializeData, initializeApplication,
    startApplication, stopApplication, saveConfiguration, enableUnsolicited, disableUnsolicited, assignClass,
    delayMeasure, recordCurrentTime, openFile, closeFile, deleteFile, getFileInfo, authenticateFile, abortFile,
    authRequest, authRequestNoAck, response, unsolicitedResponse, authResponse]

/-- Any other byte is `UNKNOWN`. -/
def fromType (byte : UInt8) : FunctionCode := (all.find? (·.toType == byte)).getD unknown

end FunctionCode

/-- `Functions::IsNoAckFuncCode` -/
def isNoAckFuncCode : FunctionCode → Bool
  | .directOperateNR | .immedFreezeNR | .freezeAtTimeNR | .freezeClearNR => true
  | _ => false

/-! ## Headers -/

structure APDUHeader where
  control : AppControlField := {}
  function : FunctionCode := .unknown
deriving DecidableEq, Repr

/-- `APDUHeader::Equals` -/
def APDUHeader.equals (header header' : APDUHeader) : Bool :=
  header'.function == header.function && header'.control.toByte == header.control.toByte

/-- **`APDUHeaderParser::ParseRequest`**: the header and the objects behind it. -/
def parseRequest : List UInt8 → Option (APDUHeader × List UInt8)
  | control :: function :: objects => some (⟨.ofByte control, .fromType function⟩, objects)
  | _ => none

structure ParsedRequest where
  addresses : Addresses
  header : APDUHeader
  objects : List UInt8
deriving DecidableEq

/-- A response; `body` is what was written behind its four bytes of header. -/
structure Response (σ : Type) where
  control : AppControlField
  function : FunctionCode
  iin : IINField
  body : σ

/-! ## Classes (`ClassField.cpp`) -/

namespace ClassField

def intersects (c other : ClassField) : Bool :=
  c.class0 && other.class0 || c.class1 && other.class1 || c.class2 && other.class2 || c.class3 && other.class3

/-- `Set(const ClassField&)` -/
def set (c field : ClassField) : ClassField :=
  ⟨c.class0 || field.class0, c.class1 || field.class1, c.class2 || field.class2, c.class3 || field.class3⟩

def clear (c field : ClassField) : ClassField :=
  ⟨c.class0 && !field.class0, c.class1 && !field.class1, c.class2 && !field.class2, c.class3 && !field.class3⟩

end ClassField

end Opendnp3
