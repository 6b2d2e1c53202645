import ModbusGateway.Lib.Crc

/-!
# Link frames (opendnp3)

The bytes of an FT3 frame: ten of header, then blocks of sixteen bytes of user data, each with its CRC.

| here | there |
| --- | --- |
| `calcCrc`, `addCrc`, `isCorrectCRC` | `CRC` (link/CRC.cpp) |
| `LinkHeader.write`, `LinkHeader.read` | `LinkHeader::Write`, `Read` (link/LinkHeader.cpp:61, 70) |
| `writeUserData`, `readUserData`, `validateBodyCRC` | link/LinkFrame.cpp:32, 50, 209 |
| `formatHeader`, `formatUserData` | `LinkFrame::FormatHeader`, `FormatUnconfirmedUserData` (link/LinkFrame.cpp:163, 180) |

A buffer is the list of what is written to it; the buffers of the callers are as large as the largest frame.

* `calcCrc_eq` — the table computes the register of `x^16 + x^13 + x^12 + x^11 + x^10 + x^8 + x^6 + x^5 + x^2 + 1`.
* `readUserData_writeUserData` — what the blocks carry, and `validateBodyCRC_iff`: they are the only text that
  passes as it.
-/

namespace Opendnp3

/-! ## Sixteen bits, little endian -/

def writeUInt16 (value : UInt16) : List UInt8 := [value.toUInt8, (value >>> 8).toUInt8]

def readUInt16 : List UInt8 → UInt16
  | low :: high :: _ => low.toUInt16 ||| (high.toUInt16 <<< 8)
  | _ => 0

/-! ## The check sum (`CRC.cpp`) -/

def crcTable : Array UInt16 := #[
  0x0000, 0x365E, 0x6CBC, 0x5AE2, 0xD978, 0xEF26, 0xB5C4, 0x839A, 0xFF89, 0xC9D7, 0x9335, 0xA56B,
  0x26F1, 0x10AF, 0x4A4D, 0x7C13, 0xB26B, 0x8435, 0xDED7, 0xE889, 0x6B13, 0x5D4D, 0x07AF, 0x31F1,
  0x4DE2, 0x7BBC, 0x215E, 0x1700, 0x949A, 0xA2C4, 0xF826, 0xCE78, 0x29AF, 0x1FF1, 0x4513, 0x734D,
  0xF0D7, 0xC689, 0x9C6B, 0xAA35, 0xD626, 0xE078, 0xBA9A, 0x8CC4, 0x0F5E, 0x3900, 0x63E2, 0x55BC,
  0x9BC4, 0xAD9A, 0xF778, 0xC126, 0x42BC, 0x74E2, 0x2E00, 0x185E, 0x644D, 0x5213, 0x08F1, 0x3EAF,
  0xBD35, 0x8B6B, 0xD189, 0xE7D7, 0x535E, 0x6500, 0x3FE2, 0x09BC, 0x8A26, 0xBC78, 0xE69A, 0xD0C4,
  0xACD7, 0x9A89, 0xC06B, 0xF635, 0x75AF, 0x43F1, 0x1913, 0x2F4D, 0xE135, 0xD76B, 0x8D89, 0xBBD7,
  0x384D, 0x0E13, 0x54F1, 0x62AF, 0x1EBC, 0x28E2, 0x7200, 0x445E, 0xC7C4, 0xF19A, 0xAB78, 0x9D26,
  0x7AF1, 0x4CAF, 0x164D, 0x2013, 0xA389, 0x95D7, 0xCF35, 0xF96B, 0x8578, 0xB326, 0xE9C4, 0xDF9A,
  0x5C00, 0x6A5E, 0x30BC, 0x06E2, 0xC89A, 0xFEC4, 0xA426, 0x9278, 0x11E2, 0x27BC, 0x7D5E, 0x4B00,
  0x3713, 0x014D, 0x5BAF, 0x6DF1, 0xEE6B, 0xD835, 0x82D7, 0xB489, 0xA6BC, 0x90E2, 0xCA00, 0xFC5E,
  0x7FC4, 0x499A, 0x1378, 0x2526, 0x5935, 0x6F6B, 0x3589, 0x03D7, 0x804D, 0xB613, 0xECF1, 0xDAAF,
  0x14D7, 0x2289, 0x786B, 0x4E35, 0xCDAF, 0xFBF1, 0xA113, 0x974D, 0xEB5E, 0xDD00, 0x87E2, 0xB1BC,
  0x3226, 0x0478, 0x5E9A, 0x68C4, 0x8F13, 0xB94D, 0xE3AF, 0xD5F1, 0x566B, 0x6035, 0x3AD7, 0x0C89,
  0x709A, 0x46C4, 0x1C26, 0x2A78, 0xA9E2, 0x9FBC, 0xC55E, 0xF300, 0x3D78, 0x0B26, 0x51C4, 0x679A,
  0xE400, 0xD25E, 0x88BC, 0xBEE2, 0xC2F1, 0xF4AF, 0xAE4D, 0x9813, 0x1B89, 0x2DD7, 0x7735, 0x416B,
  0xF5E2, 0xC3BC, 0x995E, 0xAF00, 0x2C9A, 0x1AC4, 0x4026, 0x7678, 0x0A6B, 0x3C35, 0x66D7, 0x5089,
  0xD313, 0xE54D, 0xBFAF, 0x89F1, 0x4789, 0x71D7, 0x2B35, 0x1D6B, 0x9EF1, 0xA8AF, 0xF24D, 0xC413,
  0xB800, 0x8E5E, 0xD4BC, 0xE2E2, 0x6178, 0x5726, 0x0DC4, 0x3B9A, 0xDC4D, 0xEA13, 0xB0F1, 0x86AF,
  0x0535, 0x336B, 0x6989, 0x5FD7, 0x23C4, 0x159A, 0x4F78, 0x7926, 0xFABC, 0xCCE2, 0x9600, 0xA05E,
  0x6E26, 0x5878, 0x029A, 0x34C4, 0xB75E, 0x8100, 0xDBE2, 0xEDBC, 0x91AF, 0xA7F1, 0xFD13, 0xCB4D,
  0x48D7, 0x7E89, 0x246B, 0x1235]

/-- One turn of the loop. -/
def crcStep (crc : UInt16) (byte : UInt8) : UInt16 :=
  let index := (crc ^^^ byte.toUInt16).toUInt8
  crcTable.getD index.toNat 0 ^^^ (crc >>> 8)

def calcCrc (input : List UInt8) : UInt16 := ~~~input.foldl crcStep 0

def addCrc (input : List UInt8) : List UInt8 := input ++ writeUInt16 (calcCrc input)

/-- The first `length` bytes against the two behind them. -/
def isCorrectCRC (input : List UInt8) (length : Nat) : Bool :=
  calcCrc (input.take length) == readUInt16 (input.drop length)

/-- `x^16 + x^13 + x^12 + x^11 + x^10 + x^8 + x^6 + x^5 + x^2 + 1`, the low power in the high bit. -/
def crcPolynomial : BitVec 16 := 0xA6BC

/-! ## Headers (`LinkFunction.cpp`, `LinkHeader.cpp`) -/

inductive LinkFunction where
  | priResetLinkStates
  | priTestLinkStates
  | priConfirmedUserData
  | priUnconfirmedUserData
  | priRequestLinkStatus
  | secAck
  | secNack
  | secLinkStatus
  | secNotSupported
  | invalid
deriving DecidableEq, Repr

def LinkFunction.toType : LinkFunction → UInt8
  | .priResetLinkStates => 0x40
  | .priTestLinkStates => 0x42
  | .priConfirmedUserData => 0x43
  | .priUnconfirmedUserData => 0x44
  | .priRequestLinkStatus => 0x49
  | .secAck => 0x0
  | .secNack => 0x1
  | .secLinkStatus => 0xB
  | .secNotSupported => 0xF
  | .invalid => 0xFF

def LinkFunction.fromType (arg : UInt8) : LinkFunction :=
  if arg = 0x40 then .priResetLinkStates
  else if arg = 0x42 then .priTestLinkStates
  else if arg = 0x43 then .priConfirmedUserData
  else if arg = 0x44 then .priUnconfirmedUserData
  else if arg = 0x49 then .priRequestLinkStatus
  else if arg = 0x0 then .secAck
  else if arg = 0x1 then .secNack
  else if arg = 0xB then .secLinkStatus
  else if arg = 0xF then .secNotSupported
  else .invalid

/-- `LinkHeader::ControlByte` -/
def controlByte (isMaster fcb fcvDfc : Bool) (func : LinkFunction) : UInt8 :=
  func.toType ||| (if isMaster then 0x80 else 0) ||| (if fcb then 0x20 else 0) ||| (if fcvDfc then 0x10 else 0)

structure LinkHeader where
  length : UInt8
  src : UInt16
  dest : UInt16
  ctrl : UInt8
deriving DecidableEq

namespace LinkHeader

def isFromMaster (header : LinkHeader) : Bool := header.ctrl &&& 0x80 != 0
def isPriToSec (header : LinkHeader) : Bool := header.ctrl &&& 0x40 != 0
def isFcbSet (header : LinkHeader) : Bool := header.ctrl &&& 0x20 != 0
def isFcvDfcSet (header : LinkHeader) : Bool := header.ctrl &&& 0x10 != 0
def getFuncEnum (header : LinkHeader) : LinkFunction := .fromType (header.ctrl &&& 0x4F)
def validLength (header : LinkHeader) : Bool := 4 < header.length

/-- The bytes of user data behind the header. -/
def dataLength (header : LinkHeader) : Nat := header.length.toNat - 5

/-- The eight bytes under the check sum. -/
def text (header : LinkHeader) : List UInt8 :=
  [0x05, 0x64, header.length, header.ctrl] ++ writeUInt16 header.dest ++ writeUInt16 header.src

def write (header : LinkHeader) : List UInt8 := addCrc header.text

/-- Of a buffer of at least ten bytes. -/
def read (buffer : List UInt8) : LinkHeader where
  length := buffer.getD 2 0
  src := readUInt16 (buffer.drop 6)
  dest := readUInt16 (buffer.drop 4)
  ctrl := buffer.getD 3 0

end LinkHeader

/-! ## Frames (`LinkFrame.cpp`) -/

/-- The bytes of the next block. -/
def blockLength (length : Nat) : Nat := if length ≤ 16 then length else 16

theorem blockLength_pos {length : Nat} (h : 0 < length) : 0 < blockLength length := by
  unfold blockLength
  split <;> omega

theorem blockLength_le (length : Nat) : blockLength length ≤ length := by
  unfold blockLength
  split <;> omega

def calcUserDataSize (dataLength : Nat) : Nat :=
  if 0 < dataLength then
    let size := dataLength / 16 * 18
    if 0 < dataLength % 16 then size + dataLength % 16 + 2 else size
  else 0

def calcFrameSize (dataLength : Nat) : Nat := 10 + calcUserDataSize dataLength

def writeUserData (data : List UInt8) : List UInt8 :=
  if _h : 0 < data.length then
    addCrc (data.take (blockLength data.length)) ++ writeUserData (data.drop (blockLength data.length))
  else []
termination_by data.length
decreasing_by
  have := blockLength_pos _h
  rw [List.length_drop]
  omega

def readUserData (body : List UInt8) (length : Nat) : List UInt8 :=
  if _h : 0 < length then
    body.take (blockLength length) ++
      readUserData (body.drop (blockLength length + 2)) (length - blockLength length)
  else []
termination_by length
decreasing_by
  have := blockLength_pos _h
  omega

def validateBodyCRC (body : List UInt8) (length : Nat) : Bool :=
  if _h : 0 < length then
    if isCorrectCRC body (blockLength length) then
      validateBodyCRC (body.drop (blockLength length + 2)) (length - blockLength length)
    else false
  else true
termination_by length
decreasing_by
  have := blockLength_pos _h
  omega

def formatHeader (dataLength : UInt8) (isMaster fcb fcvDfc : Bool) (func : LinkFunction) (dest src : UInt16) :
    List UInt8 :=
  LinkHeader.write ⟨dataLength + 5, src, dest, controlByte isMaster fcb fcvDfc func⟩

/-- A header and its user data: empty where the data does not fit. -/
def formatUserData (isMaster fcb fcvDfc : Bool) (func : LinkFunction) (dest src : UInt16) (user_data : List UInt8) :
    List UInt8 :=
  if 250 < user_data.length then []
  else formatHeader user_data.length.toUInt8 isMaster fcb fcvDfc func dest src ++ writeUserData user_data

def formatUnconfirmedUserData (isMaster : Bool) (dest src : UInt16) (user_data : List UInt8) : List UInt8 :=
  formatUserData isMaster false false .priUnconfirmedUserData dest src user_data

def formatConfirmedUserData (isMaster fcb : Bool) (dest src : UInt16) (user_data : List UInt8) : List UInt8 :=
  formatUserData isMaster fcb true .priConfirmedUserData dest src user_data

def formatAck (isMaster isRcvBuffFull : Bool) (dest src : UInt16) : List UInt8 :=
  formatHeader 0 isMaster false isRcvBuffFull .secAck dest src

def formatLinkStatus (isMaster isRcvBuffFull : Bool) (dest src : UInt16) : List UInt8 :=
  formatHeader 0 isMaster false isRcvBuffFull .secLinkStatus dest src

def formatRequestLinkStatus (isMaster : Bool) (dest src : UInt16) : List UInt8 :=
  formatHeader 0 isMaster false false .priRequestLinkStatus dest src

/-! ## Sixteen bits and their bytes -/

theorem getLsbD_readUInt16 (low high : UInt8) (rest : List UInt8) (i : Nat) :
    (readUInt16 (low :: high :: rest)).toBitVec.getLsbD i =
      if i < 8 then low.toBitVec.getLsbD i else high.toBitVec.getLsbD (i - 8) := by
  have hlow : low.toBitVec.getLsbD i = (decide (i < 8) && low.toBitVec.getLsbD i) := by
    by_cases h : i < 8
    · simp [h]
    · simp [h, BitVec.getLsbD_of_ge low.toBitVec i (by omega)]
  have hhigh : ¬i < 16 → high.toBitVec.getLsbD (i - 8) = false := fun h => BitVec.getLsbD_of_ge _ _ (by omega)
  simp only [readUInt16, UInt16.toBitVec_or, UInt16.toBitVec_shiftLeft, UInt8.toBitVec_toUInt16, BitVec.getLsbD_or,
    BitVec.getLsbD_setWidth]
  by_cases h8 : i < 8
  · simp [h8, show i < 16 by omega]
  · by_cases h16 : i < 16
    · simp [h8, h16, BitVec.getLsbD_of_ge low.toBitVec i (by omega)]
    · simp [h8, h16, hhigh h16]

theorem readUInt16_toBitVec (low high : UInt8) (rest : List UInt8) :
    (readUInt16 (low :: high :: rest)).toBitVec = Crc.ofBits (Crc.bytesBits [low, high]) := by
  apply BitVec.eq_of_getLsbD_eq
  intro i hi
  rw [getLsbD_readUInt16, Crc.getLsbD_ofBits, List.getD_eq_getElem?_getD, Crc.bytesBits_cons, Crc.bytesBits_cons,
    Crc.bytesBits_nil, List.append_nil, decide_eq_true hi, Bool.true_and]
  by_cases h8 : i < 8
  · rw [if_pos h8, List.getElem?_append_left (by simpa using h8)]
    simp only [Crc.byteBits, List.getElem?_ofFn, h8, dif_pos, Option.getD_some]
  · rw [if_neg h8, List.getElem?_append_right (by simpa using h8), Crc.length_byteBits]
    simp only [Crc.byteBits, List.getElem?_ofFn, show i - 8 < 8 by omega, dif_pos, Option.getD_some]

theorem readUInt16_writeUInt16 (value : UInt16) (rest : List UInt8) : readUInt16 (writeUInt16 value ++ rest) = value := by
  apply UInt16.toBitVec_inj.1
  apply BitVec.eq_of_getLsbD_eq
  intro i hi
  refine (getLsbD_readUInt16 _ _ rest i).trans ?_
  by_cases h8 : i < 8
  · simp [h8]
  · simp [h8, show i - 8 < 8 by omega, show 8 + (i - 8) = i by omega]

theorem writeUInt16_readUInt16 (low high : UInt8) (rest : List UInt8) :
    writeUInt16 (readUInt16 (low :: high :: rest)) = [low, high] := by
  have hlow : (readUInt16 (low :: high :: rest)).toUInt8 = low := by
    apply UInt8.toBitVec_inj.1
    apply BitVec.eq_of_getLsbD_eq
    intro i hi
    rw [UInt16.toBitVec_toUInt8, BitVec.getLsbD_setWidth, getLsbD_readUInt16]
    simp [hi]
  have hhigh : (readUInt16 (low :: high :: rest) >>> 8).toUInt8 = high := by
    apply UInt8.toBitVec_inj.1
    apply BitVec.eq_of_getLsbD_eq
    intro i hi
    have hshift : (readUInt16 (low :: high :: rest) >>> 8).toBitVec =
        (readUInt16 (low :: high :: rest)).toBitVec >>> 8 := by simp
    rw [UInt16.toBitVec_toUInt8, BitVec.getLsbD_setWidth, hshift, BitVec.getLsbD_ushiftRight, getLsbD_readUInt16]
    simp [hi]
  rw [writeUInt16, hlow, hhigh]

@[simp] theorem length_writeUInt16 (value : UInt16) : (writeUInt16 value).length = 2 := rfl

/-! ## The check sum -/

-- `decide` computes the 256 entries
theorem crcTable_eq (i : BitVec 8) :
    (crcTable.getD i.toNat 0).toBitVec = (Crc.shift crcPolynomial)^[8] (i.setWidth 16) := by
  have hall : (List.range 256).all (fun i => (crcTable.getD i 0).toBitVec ==
      (Crc.shift crcPolynomial)^[8] (BitVec.ofNat 16 i)) = true := by decide +kernel
  have hi := List.all_eq_true.1 hall i.toNat (List.mem_range.2 i.isLt)
  rw [beq_iff_eq, BitVec.ofNat_toNat] at hi
  exact hi

/-- **A turn of the loop takes in the bits of its byte.** -/
theorem crcStep_toBitVec (crc : UInt16) (byte : UInt8) :
    (crcStep crc byte).toBitVec = Crc.feed crcPolynomial crc.toBitVec (Crc.byteBits byte) := by
  rw [Crc.byteStep_eq (by decide) crc.toBitVec byte _ rfl, ← crcTable_eq]
  simp [crcStep]

theorem foldl_crcStep (crc : UInt16) (input : List UInt8) :
    (input.foldl crcStep crc).toBitVec = Crc.feed crcPolynomial crc.toBitVec (Crc.bytesBits input) := by
  induction input generalizing crc with
  | nil => rfl
  | cons byte input ih => rw [List.foldl_cons, ih, crcStep_toBitVec, Crc.bytesBits_cons, Crc.feed_append]

/-- **The table computes the register** of the polynomial, complemented. -/
theorem calcCrc_eq (input : List UInt8) :
    (calcCrc input).toBitVec = ~~~Crc.feed crcPolynomial 0#16 (Crc.bytesBits input) := by
  rw [calcCrc, UInt16.toBitVec_not, foldl_crcStep]
  rfl

@[simp] theorem length_addCrc (input : List UInt8) : (addCrc input).length = input.length + 2 := by simp [addCrc]

theorem isCorrectCRC_addCrc (input rest : List UInt8) : isCorrectCRC (addCrc input ++ rest) input.length = true := by
  rw [isCorrectCRC, addCrc, List.append_assoc, List.take_left, List.drop_left, readUInt16_writeUInt16, beq_self_eq_true]

/-- The two bytes behind a text are its check sum, or it is refused. -/
theorem isCorrectCRC_iff {input : List UInt8} {length : Nat} (h : length + 2 ≤ input.length) :
    isCorrectCRC input length = true ↔ input.take (length + 2) = addCrc (input.take length) := by
  rw [isCorrectCRC, beq_iff_eq, addCrc, List.take_add, List.append_cancel_left_eq]
  obtain ⟨low, high, rest, hdrop⟩ : ∃ low high rest, input.drop length = low :: high :: rest := by
    match hd : input.drop length with
    | [] | [_] =>
      have hlen := congrArg List.length hd
      simp at hlen
      omega
    | low :: high :: rest => exact ⟨low, high, rest, rfl⟩
  rw [hdrop]
  constructor
  · intro hcrc
    rw [hcrc, writeUInt16_readUInt16]
    rfl
  · intro hcrc
    have hread := readUInt16_writeUInt16 (calcCrc (input.take length)) rest
    rw [← hcrc] at hread
    exact hread.symm

/-- What a text leaves with its check sum is the same for all texts. -/
theorem feed_addCrc (text : List UInt8) : Crc.feed crcPolynomial 0#16 (Crc.bytesBits (addCrc text)) =
    (Crc.shift crcPolynomial)^[16] (BitVec.allOnes 16) := by
  have hsum : Crc.ofBits (Crc.bytesBits (writeUInt16 (calcCrc text))) = (calcCrc text).toBitVec := by
    have hread := readUInt16_toBitVec (calcCrc text).toUInt8 (calcCrc text >>> 8).toUInt8 []
    exact hread.symm.trans (congrArg UInt16.toBitVec (readUInt16_writeUInt16 (calcCrc text) []))
  rw [addCrc, Crc.bytesBits_append, Crc.feed_append, Crc.feed_eq_iterate _ (Crc.bytesBits (writeUInt16 _)) (by simp),
    hsum, calcCrc_eq, BitVec.not_def, ← BitVec.xor_assoc, BitVec.xor_comm _ (BitVec.allOnes 16), BitVec.xor_assoc,
    BitVec.xor_self, BitVec.xor_zero]
  simp

/-- **A burst does not pass**: two texts with their check sums that differ within sixteen bits are the same. -/
theorem addCrc_burst {text text' : List UInt8} (hlen : text.length = text'.length)
    (hburst : Crc.IsBurst 16 ((Crc.bytesBits (addCrc text)).zipWith xor (Crc.bytesBits (addCrc text')))) :
    text = text' := by
  have hbits : (Crc.bytesBits (addCrc text)).length = (Crc.bytesBits (addCrc text')).length := by simp [hlen]
  have hzero : Crc.feed crcPolynomial 0#16
      ((Crc.bytesBits (addCrc text)).zipWith xor (Crc.bytesBits (addCrc text'))) = 0#16 := by
    have hxor := Crc.feed_xor (p := crcPolynomial) 0#16 0#16 _ _ hbits
    rwa [feed_addCrc, feed_addCrc, BitVec.xor_self, BitVec.xor_self] at hxor
  have hsame := Crc.feed_burst (p := crcPolynomial) (by decide) hburst hzero
  have heq := Crc.bytesBits_injective (Crc.eq_of_zipWith_xor hbits hsame)
  exact (List.append_inj heq hlen).1

/-! ## User data -/

theorem calcUserDataSize_step {length : Nat} (h : 0 < length) :
    calcUserDataSize length = blockLength length + 2 + calcUserDataSize (length - blockLength length) := by
  unfold calcUserDataSize blockLength
  simp only
  split_ifs <;> omega

theorem writeUserData_step {data : List UInt8} (h : 0 < data.length) : writeUserData data =
    addCrc (data.take (blockLength data.length)) ++ writeUserData (data.drop (blockLength data.length)) := by
  rw [writeUserData, dif_pos h]

theorem readUserData_step {length : Nat} (h : 0 < length) (body : List UInt8) : readUserData body length =
    body.take (blockLength length) ++ readUserData (body.drop (blockLength length + 2)) (length - blockLength length) := by
  rw [readUserData, dif_pos h]

theorem validateBodyCRC_step {length : Nat} (h : 0 < length) (body : List UInt8) : validateBodyCRC body length =
    (isCorrectCRC body (blockLength length) &&
      validateBodyCRC (body.drop (blockLength length + 2)) (length - blockLength length)) := by
  rw [validateBodyCRC, dif_pos h]
  split <;> simp_all

@[simp] theorem writeUserData_nil : writeUserData [] = [] := by rw [writeUserData]; rfl

@[simp] theorem readUserData_zero (body : List UInt8) : readUserData body 0 = [] := by rw [readUserData]; rfl

@[simp] theorem validateBodyCRC_zero (body : List UInt8) : validateBodyCRC body 0 = true := by rw [validateBodyCRC]; rfl

theorem length_take_block (data : List UInt8) :
    (data.take (blockLength data.length)).length = blockLength data.length := by
  rw [List.length_take, Nat.min_eq_left (blockLength_le _)]

@[simp] theorem length_writeUserData (data : List UInt8) : (writeUserData data).length = calcUserDataSize data.length := by
  induction data using writeUserData.induct with
  | case1 data h ih =>
    rw [writeUserData_step h, calcUserDataSize_step h, List.length_append, length_addCrc, length_take_block, ih,
      List.length_drop]
  | case2 data h =>
    obtain rfl := List.length_eq_zero_iff.1 (Nat.eq_zero_of_not_pos h)
    simp [calcUserDataSize]

theorem length_readUserData {body : List UInt8} {length : Nat} (h : calcUserDataSize length ≤ body.length) :
    (readUserData body length).length = length := by
  induction body, length using readUserData.induct with
  | case1 body length hpos ih =>
    rw [calcUserDataSize_step hpos] at h
    have := blockLength_le length
    rw [readUserData_step hpos, List.length_append, ih (by rw [List.length_drop]; omega), List.length_take]
    omega
  | case2 body length hpos =>
    obtain rfl := Nat.eq_zero_of_not_pos hpos
    simp

theorem isCorrectCRC_append {input : List UInt8} {length : Nat} (h : length + 2 ≤ input.length) (rest : List UInt8) :
    isCorrectCRC (input ++ rest) length = isCorrectCRC input length := by
  rw [Bool.eq_iff_iff, isCorrectCRC_iff h, isCorrectCRC_iff (by rw [List.length_append]; omega),
    List.take_append_of_le_length h, List.take_append_of_le_length (by omega)]

theorem readUserData_append {body : List UInt8} {length : Nat} (h : calcUserDataSize length ≤ body.length)
    (rest : List UInt8) : readUserData (body ++ rest) length = readUserData body length := by
  induction body, length using readUserData.induct with
  | case1 body length hpos ih =>
    rw [calcUserDataSize_step hpos] at h
    rw [readUserData_step hpos, readUserData_step hpos, List.take_append_of_le_length (by omega),
      List.drop_append_of_le_length (by omega), ih (by rw [List.length_drop]; omega)]
  | case2 body length hpos =>
    obtain rfl := Nat.eq_zero_of_not_pos hpos
    simp

/-- A burst over two pieces is one over each. -/
theorem isBurst_bytes_append {bs bs' cs cs' : List UInt8} (hlen : bs.length = bs'.length)
    (h : Crc.IsBurst 16 ((Crc.bytesBits (bs ++ cs)).zipWith xor (Crc.bytesBits (bs' ++ cs')))) :
    Crc.IsBurst 16 ((Crc.bytesBits bs).zipWith xor (Crc.bytesBits bs')) ∧
      Crc.IsBurst 16 ((Crc.bytesBits cs).zipWith xor (Crc.bytesBits cs')) := by
  rw [Crc.bytesBits_append, Crc.bytesBits_append, List.zipWith_append (by simp [hlen])] at h
  exact h.of_append

/-- **A burst in the user data does not pass.** -/
theorem writeUserData_burst {data data' : List UInt8} (hlen : data.length = data'.length)
    (h : Crc.IsBurst 16 ((Crc.bytesBits (writeUserData data)).zipWith xor (Crc.bytesBits (writeUserData data')))) :
    data = data' := by
  induction data using writeUserData.induct generalizing data' with
  | case1 data hpos ih =>
    have hdrop : (data.drop (blockLength data.length)).length = (data'.drop (blockLength data.length)).length := by
      rw [List.length_drop, List.length_drop, hlen]
    have htake : (data.take (blockLength data.length)).length = (data'.take (blockLength data.length)).length := by
      rw [List.length_take, List.length_take, hlen]
    have hpos' : 0 < data'.length := hlen ▸ hpos
    have hstep' := writeUserData_step hpos'
    rw [← hlen] at hstep'
    rw [writeUserData_step hpos, hstep'] at h
    obtain ⟨hblock, hrest⟩ := isBurst_bytes_append (by rw [length_addCrc, length_addCrc, htake]) h
    rw [← List.take_append_drop (blockLength data.length) data, addCrc_burst htake hblock, ih hdrop hrest,
      List.take_append_drop]
  | case2 data hpos =>
    obtain rfl := List.length_eq_zero_iff.1 (Nat.eq_zero_of_not_pos hpos)
    exact (List.length_eq_zero_iff.1 hlen.symm).symm

/-- **What is written is read back**, and passes. -/
theorem readUserData_writeUserData (data rest : List UInt8) :
    readUserData (writeUserData data ++ rest) data.length = data ∧
      validateBodyCRC (writeUserData data ++ rest) data.length = true := by
  induction data using writeUserData.induct generalizing rest with
  | case1 data h ih =>
    have hblock := length_take_block data
    have hdrop : (data.drop (blockLength data.length)).length = data.length - blockLength data.length := List.length_drop
    have hrest : (writeUserData data ++ rest).drop (blockLength data.length + 2) =
        writeUserData (data.drop (blockLength data.length)) ++ rest := by
      rw [writeUserData_step h, List.append_assoc, List.drop_left' (by rw [length_addCrc, hblock])]
    obtain ⟨hread, hvalid⟩ := ih rest
    rw [hdrop] at hread hvalid
    rw [readUserData_step h, validateBodyCRC_step h, hrest, hread, hvalid, writeUserData_step h, Bool.and_true]
    constructor
    · rw [addCrc, List.append_assoc, List.append_assoc, List.take_left' hblock, List.take_append_drop]
    · have hcrc := isCorrectCRC_addCrc (data.take (blockLength data.length))
        (writeUserData (data.drop (blockLength data.length)) ++ rest)
      rwa [hblock, ← List.append_assoc] at hcrc
  | case2 data h =>
    obtain rfl := List.length_eq_zero_iff.1 (Nat.eq_zero_of_not_pos h)
    simp

/-- **Only what is written passes.** -/
theorem validateBodyCRC_iff {body : List UInt8} {length : Nat} (h : calcUserDataSize length ≤ body.length) :
    validateBodyCRC body length = true ↔
      body.take (calcUserDataSize length) = writeUserData (readUserData body length) := by
  induction body, length using readUserData.induct with
  | case1 body length hpos ih =>
    have hstep := calcUserDataSize_step hpos
    have hle := blockLength_le length
    have hread : (readUserData body length).length = length := length_readUserData h
    have hhead : (readUserData body length).take (blockLength length) = body.take (blockLength length) := by
      rw [readUserData_step hpos, List.take_left' (by rw [List.length_take]; omega)]
    have hwrite : 0 < (readUserData body length).length := hread.symm ▸ hpos
    have htail : (readUserData body length).drop (blockLength length) =
        readUserData (body.drop (blockLength length + 2)) (length - blockLength length) := by
      rw [readUserData_step hpos, List.drop_left' (by rw [List.length_take]; omega)]
    have htake : body.take (blockLength length + 2 + calcUserDataSize (length - blockLength length)) =
        body.take (blockLength length + 2) ++
          (body.drop (blockLength length + 2)).take (calcUserDataSize (length - blockLength length)) := List.take_add
    rw [validateBodyCRC_step hpos, Bool.and_eq_true, isCorrectCRC_iff (by omega),
      ih (by rw [List.length_drop]; omega), writeUserData_step hwrite, hread, hhead, htail, hstep, htake]
    constructor
    · rintro ⟨hblock, hrest⟩
      rw [hblock, hrest]
    · intro hall
      exact List.append_inj hall (by rw [length_addCrc, List.length_take, List.length_take]; omega)
  | case2 body length hpos =>
    obtain rfl := Nat.eq_zero_of_not_pos hpos
    simp [calcUserDataSize]

theorem validateBodyCRC_append {body : List UInt8} {length : Nat} (h : calcUserDataSize length ≤ body.length)
    (rest : List UInt8) : validateBodyCRC (body ++ rest) length = validateBodyCRC body length := by
  rw [Bool.eq_iff_iff, validateBodyCRC_iff h, validateBodyCRC_iff (by rw [List.length_append]; omega),
    List.take_append_of_le_length h, readUserData_append h]

/-! ## Headers -/

theorem LinkHeader.length_text (header : LinkHeader) : header.text.length = 8 := rfl

theorem LinkHeader.length_write (header : LinkHeader) : header.write.length = 10 := rfl

theorem LinkHeader.read_write (header : LinkHeader) (rest : List UInt8) :
    LinkHeader.read (header.write ++ rest) = header := by
  obtain ⟨length, src, dest, ctrl⟩ := header
  have hdest := readUInt16_writeUInt16 dest
  have hsrc := readUInt16_writeUInt16 src
  simp only [writeUInt16, List.cons_append, List.nil_append] at hdest hsrc
  simp [LinkHeader.read, LinkHeader.write, LinkHeader.text, addCrc, writeUInt16, hdest, hsrc]

theorem LinkHeader.read_append {buffer : List UInt8} (h : 8 ≤ buffer.length) (rest : List UInt8) :
    LinkHeader.read (buffer ++ rest) = LinkHeader.read buffer := by
  match buffer, h with
  | _ :: _ :: _ :: _ :: _ :: _ :: _ :: _ :: _, _ => rfl

/-- The ten bytes of a header, from their fields. -/
theorem LinkHeader.write_read {buffer : List UInt8} (hlen : 10 ≤ buffer.length) (h0 : buffer.getD 0 0 = 0x05)
    (h1 : buffer.getD 1 0 = 0x64) (hcrc : isCorrectCRC buffer 8 = true) :
    buffer.take 10 = (LinkHeader.read buffer).write := by
  rw [isCorrectCRC_iff (by omega)] at hcrc
  rw [hcrc, LinkHeader.write]
  congr 1
  match buffer, hlen with
  | a :: b :: length :: ctrl :: d0 :: d1 :: s0 :: s1 :: rest, _ =>
    obtain rfl : a = 0x05 := h0
    obtain rfl : b = 0x64 := h1
    simp [LinkHeader.text, LinkHeader.read, writeUInt16_readUInt16]

/-- A control byte of a known function is made of its bits. -/
theorem controlByte_read (header : LinkHeader) (h : header.getFuncEnum ≠ .invalid) :
    controlByte header.isFromMaster header.isFcbSet header.isFcvDfcSet header.getFuncEnum = header.ctrl := by
  have hall : (List.range 256).all (fun n => let ctrl := UInt8.ofNat n
      LinkFunction.fromType (ctrl &&& 0x4F) == .invalid ||
        controlByte (ctrl &&& 0x80 != 0) (ctrl &&& 0x20 != 0) (ctrl &&& 0x10 != 0) (.fromType (ctrl &&& 0x4F)) == ctrl) =
      true := by decide +kernel
  have hctrl := List.all_eq_true.1 hall header.ctrl.toNat (List.mem_range.2 header.ctrl.toNat_lt)
  simp only [UInt8.ofNat_toNat, Bool.or_eq_true, beq_iff_eq] at hctrl
  exact hctrl.resolve_left h

/-- Its bits read back. -/
theorem read_controlByte (isMaster fcb fcvDfc : Bool) (func : LinkFunction) (h : func ≠ .invalid) :
    let ctrl := controlByte isMaster fcb fcvDfc func
    (ctrl &&& 0x80 != 0) = isMaster ∧ (ctrl &&& 0x20 != 0) = fcb ∧ (ctrl &&& 0x10 != 0) = fcvDfc ∧
      LinkFunction.fromType (ctrl &&& 0x4F) = func := by
  cases func with
  | invalid => exact absurd rfl h
  | _ => cases isMaster <;> cases fcb <;> cases fcvDfc <;> decide

end Opendnp3
