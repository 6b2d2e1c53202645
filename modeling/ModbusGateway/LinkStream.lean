import ModbusGateway.Lib.Framing
import ModbusGateway.LinkParser

/-!
# The frames of a byte stream (opendnp3)

Whatever the chunks in which the bytes arrive, `LinkLayerParser` delivers the frames of the stream,
`linkFramer`'s.

* `linkLook_sound`, `linkLook_encode` — exactly what `formatHeader` and `writeUserData` write is taken.
* `onReads_spec` — the frames delivered are those of the stream so far, and there is room to read on.
* `onReads_encoded` — frames between noise that has no start byte are all delivered.
-/

namespace Opendnp3

open Framing

/-! ## Well-formed frames -/

/-- The frame count bits a function allows. -/
def LinkHeaderFields.flagsOk (fields : LinkHeaderFields) : Bool :=
  match fields.func with
  | .priConfirmedUserData | .priTestLinkStates => fields.fcvdfc
  | .priRequestLinkStatus | .priResetLinkStates | .priUnconfirmedUserData => !fields.fcvdfc
  | .secAck | .secNack | .secLinkStatus | .secNotSupported => !fields.fcb
  | .invalid => false

/-- What a frame has to satisfy: there is user data exactly where the function has some. -/
structure LinkFrame.WellFormed (f : LinkFrame) : Prop where
  flags : f.fields.flagsOk = true
  payload : userDataFunction f.fields.func = true ↔ f.userData ≠ []
  length : f.userData.length ≤ 250

instance (f : LinkFrame) : Decidable f.WellFormed :=
  decidable_of_iff (f.fields.flagsOk = true ∧ (userDataFunction f.fields.func = true ↔ f.userData ≠ []) ∧
    f.userData.length ≤ 250) ⟨fun h => ⟨h.1, h.2.1, h.2.2⟩, fun h => ⟨h.flags, h.payload, h.length⟩⟩

/-- Its bytes. -/
def LinkFrame.encode (f : LinkFrame) : List UInt8 :=
  formatUserData f.fields.isFromMaster f.fields.fcb f.fields.fcvdfc f.fields.func f.fields.addresses.destination
    f.fields.addresses.source f.userData

/-- A header a frame can start with. -/
def LinkHeader.wellFormed (header : LinkHeader) : Bool :=
  header.validLength && header.fields.flagsOk &&
    (userDataFunction header.getFuncEnum == decide (0 < header.dataLength))

/-- **What the parser looks for** at the front of the bytes it has. -/
def linkLook (s : List UInt8) : Verdict LinkFrame :=
  let header := LinkHeader.read s
  if s.length < 2 then .more
  else if ¬(s.getD 0 0 = 0x05 ∧ s.getD 1 0 = 0x64) then .skip
  else if s.length < 10 then .more
  else if ¬(isCorrectCRC s 8 = true ∧ header.wellFormed = true) then .skip
  else if s.length < calcFrameSize header.dataLength then .more
  else if ¬validateBodyCRC (s.drop 10) header.dataLength = true then .skip
  else .frame (calcFrameSize header.dataLength) ⟨header.fields, readUserData (s.drop 10) header.dataLength⟩

/-! ## Verdicts do not change -/

theorem getD_append_of_lt {s : List UInt8} {i : Nat} (h : i < s.length) (t : List UInt8) :
    (s ++ t).getD i 0 = s.getD i 0 := by
  rw [List.getD_eq_getElem?_getD, List.getD_eq_getElem?_getD, List.getElem?_append_left h]

/-- Once reached, a verdict stays whatever comes behind. -/
theorem linkLook_append {s : List UInt8} (hmore : linkLook s ≠ .more) (t : List UInt8) :
    linkLook (s ++ t) = linkLook s := by
  unfold linkLook at hmore ⊢
  simp only at hmore ⊢
  by_cases h2 : s.length < 2
  · exact absurd (if_pos h2) hmore
  rw [if_neg h2, if_neg (by rw [List.length_append]; omega), getD_append_of_lt (by omega), getD_append_of_lt (by omega)]
  rw [if_neg h2] at hmore
  by_cases hsync : ¬(s.getD 0 0 = 0x05 ∧ s.getD 1 0 = 0x64)
  · rw [if_pos hsync, if_pos hsync]
  rw [if_neg hsync] at hmore
  rw [if_neg hsync, if_neg hsync]
  by_cases h10 : s.length < 10
  · exact absurd (if_pos h10) hmore
  rw [if_neg h10] at hmore
  rw [if_neg h10, if_neg (by rw [List.length_append]; omega), LinkHeader.read_append (by omega),
    isCorrectCRC_append (by omega)]
  by_cases hheader : ¬(isCorrectCRC s 8 = true ∧ (LinkHeader.read s).wellFormed = true)
  · rw [if_pos hheader, if_pos hheader]
  rw [if_neg hheader] at hmore
  rw [if_neg hheader, if_neg hheader]
  by_cases hsize : s.length < calcFrameSize (LinkHeader.read s).dataLength
  · exact absurd (if_pos hsize) hmore
  have hbody : calcUserDataSize (LinkHeader.read s).dataLength ≤ (s.drop 10).length := by
    rw [List.length_drop]
    unfold calcFrameSize at hsize
    omega
  rw [if_neg hsize, if_neg (by rw [List.length_append]; omega), List.drop_append_of_le_length (by omega),
    validateBodyCRC_append hbody, readUserData_append hbody]

/-- **The frames of a byte stream.** -/
def linkFramer : Framer UInt8 LinkFrame where
  look := linkLook
  look_nil := rfl
  look_skip := fun s t h => (linkLook_append (by rw [h]; exact fun e => by cases e) t).trans h
  look_frame := fun s t n f h => (linkLook_append (by rw [h]; exact fun e => by cases e) t).trans h
  frame_length := by
    intro s n f h
    unfold linkLook calcFrameSize at h
    simp only at h
    split_ifs at h
    obtain ⟨rfl, -⟩ := Verdict.frame.inj h
    omega

/-! ## What is taken is what is written -/

/-- The header that is written for a frame. -/
def LinkFrame.header (f : LinkFrame) : LinkHeader :=
  ⟨f.userData.length.toUInt8 + 5, f.fields.addresses.source, f.fields.addresses.destination,
    controlByte f.fields.isFromMaster f.fields.fcb f.fields.fcvdfc f.fields.func⟩

theorem LinkHeaderFields.known {fields : LinkHeaderFields} (h : fields.flagsOk = true) : fields.func ≠ .invalid := by
  intro hinvalid
  rw [LinkHeaderFields.flagsOk, hinvalid] at h
  cases h

theorem LinkFrame.encode_eq {f : LinkFrame} (h : f.userData.length ≤ 250) :
    f.encode = f.header.write ++ writeUserData f.userData := by
  rw [LinkFrame.encode, formatUserData, if_neg (by omega)]
  rfl

theorem LinkFrame.length_encode {f : LinkFrame} (h : f.userData.length ≤ 250) :
    f.encode.length = calcFrameSize f.userData.length := by
  rw [LinkFrame.encode_eq h, List.length_append, LinkHeader.length_write, length_writeUserData, calcFrameSize]

theorem LinkFrame.fields_header {f : LinkFrame} (h : f.fields.func ≠ .invalid) : f.header.fields = f.fields := by
  obtain ⟨hmaster, hfcb, hfcv, hfunc⟩ := read_controlByte f.fields.isFromMaster f.fields.fcb f.fields.fcvdfc f.fields.func h
  unfold LinkHeader.fields LinkHeader.isFromMaster LinkHeader.isFcbSet LinkHeader.isFcvDfcSet LinkHeader.getFuncEnum
  simp only [LinkFrame.header, hmaster, hfcb, hfcv, hfunc]

theorem LinkFrame.length_header {f : LinkFrame} (h : f.userData.length ≤ 250) :
    f.header.length.toNat = f.userData.length + 5 := by
  simp only [LinkFrame.header, UInt8.toNat_add, Nat.toUInt8_eq, UInt8.toNat_ofNat']
  simp
  omega

/-- A header and the user data of its length, as a frame. -/
theorem LinkFrame.header_eq {header : LinkHeader} {userData : List UInt8} (hfunc : header.getFuncEnum ≠ .invalid)
    (hvalid : header.validLength = true) (hlen : userData.length = header.dataLength) :
    LinkFrame.header ⟨header.fields, userData⟩ = header := by
  have hvalid : 4 < header.length.toNat := by simpa [LinkHeader.validLength, UInt8.lt_iff_toNat_lt] using hvalid
  have hlength : userData.length.toUInt8 + 5 = header.length := by
    apply UInt8.toNat_inj.1
    rw [hlen, LinkHeader.dataLength, UInt8.toNat_add, Nat.toUInt8_eq, UInt8.toNat_ofNat']
    have := header.length.toNat_lt
    simp
    omega
  have hctrl := controlByte_read header hfunc
  simp only [LinkFrame.header, LinkHeader.fields, hlength, hctrl]

/-- The bytes of a frame that is taken. -/
theorem linkLook_sound {s : List UInt8} {n : Nat} {f : LinkFrame} (h : linkLook s = .frame n f) :
    f.WellFormed ∧ n = f.encode.length ∧ s.take n = f.encode := by
  unfold linkLook at h
  simp only at h
  split_ifs at h with _ hsync h10 hheader hsize hbody
  obtain ⟨rfl, rfl⟩ := Verdict.frame.inj h
  obtain ⟨hcrc, hwf⟩ := hheader
  simp only [LinkHeader.wellFormed, Bool.and_eq_true, beq_iff_eq] at hwf
  obtain ⟨⟨hvalid, hflags⟩, hpayload⟩ := hwf
  have hroom : calcUserDataSize (LinkHeader.read s).dataLength ≤ (s.drop 10).length := by
    rw [List.length_drop]
    unfold calcFrameSize at hsize
    omega
  have hlen := length_readUserData hroom
  have hmax : (LinkHeader.read s).dataLength ≤ 250 := by
    have := (LinkHeader.read s).length.toNat_lt
    unfold LinkHeader.dataLength
    omega
  have hencode := LinkFrame.encode_eq (f := ⟨(LinkHeader.read s).fields, readUserData (s.drop 10) _⟩) (hlen.trans_le hmax)
  rw [LinkFrame.header_eq (LinkHeaderFields.known hflags) hvalid hlen] at hencode
  refine ⟨⟨hflags, ?_, hlen.trans_le hmax⟩, ?_, ?_⟩
  · have hne : readUserData (s.drop 10) (LinkHeader.read s).dataLength ≠ [] ↔ 0 < (LinkHeader.read s).dataLength := by
      rw [← List.length_pos_iff, hlen]
    rw [hne]
    simpa [LinkHeader.fields] using congrArg (· = true) hpayload
  · rw [LinkFrame.length_encode (hlen.trans_le hmax), hlen]
  · rw [hencode, calcFrameSize, List.take_add, LinkHeader.write_read (by omega) hsync.1 hsync.2 hcrc,
      (validateBodyCRC_iff hroom).1 hbody]

/-- A frame that is written is taken, whatever follows. -/
theorem linkLook_encode {f : LinkFrame} (hf : f.WellFormed) (t : List UInt8) :
    linkLook (f.encode ++ t) = .frame f.encode.length f := by
  have hlen := hf.length
  have hdata : f.header.dataLength = f.userData.length := by
    rw [LinkHeader.dataLength, LinkFrame.length_header hlen]
    omega
  have hfields := LinkFrame.fields_header (LinkHeaderFields.known hf.flags)
  have hfunc : f.header.getFuncEnum = f.fields.func := congrArg (·.func) hfields
  have hwf : f.header.wellFormed = true := by
    have hpayload : userDataFunction f.fields.func = decide (0 < f.userData.length) := by
      rw [Bool.eq_iff_iff, hf.payload, ← List.length_pos_iff, decide_eq_true_iff]
    have hvalid : f.header.validLength = true := by
      have := LinkFrame.length_header hlen
      rw [LinkHeader.validLength, decide_eq_true_iff, UInt8.lt_iff_toNat_lt]
      show 4 < _
      omega
    rw [LinkHeader.wellFormed, hvalid, hfields, hf.flags, hfunc, hpayload, hdata, beq_self_eq_true]
    rfl
  have hlook : linkLook f.encode = .frame f.encode.length f := by
    have hsize := LinkFrame.length_encode hlen
    have hencode := LinkFrame.encode_eq hlen
    have hread : LinkHeader.read f.encode = f.header := hencode ▸ f.header.read_write _
    have hcrc : isCorrectCRC f.encode 8 = true := by
      rw [hencode, LinkHeader.write]
      exact isCorrectCRC_addCrc f.header.text _
    have hbody : f.encode.drop 10 = writeUserData f.userData := by
      rw [hencode, List.drop_left' f.header.length_write]
    obtain ⟨hdataRead, hvalid⟩ := readUserData_writeUserData f.userData []
    rw [List.append_nil] at hdataRead hvalid
    have hstart : f.encode.getD 0 0 = 0x05 ∧ f.encode.getD 1 0 = 0x64 := hencode ▸ ⟨rfl, rfl⟩
    have h10 : 10 ≤ f.encode.length := by
      rw [hsize]
      exact Nat.le_add_right 10 _
    simp only [linkLook, hread, hcrc, hwf, hdata, hbody, hdataRead, hvalid, hfields, hstart, hsize, not_true_eq_false,
      and_self, if_false]
    rw [if_neg (by omega), if_neg (by omega), if_neg (Nat.lt_irrefl _)]
  rw [linkLook_append (by rw [hlook]; exact fun e => by cases e), hlook]

/-! ## The parser's checks -/

namespace LinkLayerParser

variable {p : LinkLayerParser}

/-- The bytes start with the start bytes. -/
def Synced (s : List UInt8) : Prop := 2 ≤ s.length ∧ s.getD 0 0 = 0x05 ∧ s.getD 1 0 = 0x64

/-- A known function is a primary one exactly when the bit says so. -/
theorem isPriToSec_eq (header : LinkHeader) (h : header.getFuncEnum ≠ .invalid) :
    header.isPriToSec = match header.getFuncEnum with
      | .secAck | .secNack | .secLinkStatus | .secNotSupported => false
      | _ => true := by
  have hall : (List.range 256).all (fun n => let func := LinkFunction.fromType (UInt8.ofNat n &&& 0x4F)
      func == .invalid || (UInt8.ofNat n &&& 0x40 != 0) == match func with
        | .secAck | .secNack | .secLinkStatus | .secNotSupported => false
        | _ => true) = true := by decide +kernel
  have hctrl := List.all_eq_true.1 hall header.ctrl.toNat (List.mem_range.2 header.ctrl.toNat_lt)
  simp only [UInt8.ofNat_toNat, Bool.or_eq_true, beq_iff_eq] at hctrl
  exact hctrl.resolve_left h

theorem validateFunctionCode_fst (header : LinkHeader) (statistics : ParserStatistics) :
    (validateFunctionCode header statistics).1 = header.fields.flagsOk := by
  have hpri := isPriToSec_eq header
  unfold validateFunctionCode LinkHeaderFields.flagsOk
  simp only [LinkHeader.fields]
  cases hfunc : header.getFuncEnum with
  | invalid => split <;> rfl
  | _ =>
    rw [hfunc] at hpri
    rw [hpri (by simp)]
    simp only [if_true, Bool.false_eq_true, if_false]
    split <;> simp_all

theorem validateHeaderParameters_header : p.validateHeaderParameters.2.header = p.header := by
  unfold validateHeaderParameters badLength
  simp only
  split_ifs <;> rfl

/-- A header passes when a frame can start with it, and then the size of the frame is known. -/
theorem validateHeaderParameters_spec : p.validateHeaderParameters.1 = p.header.wellFormed ∧
    (p.header.wellFormed = true → p.validateHeaderParameters.2.frameSize = calcFrameSize p.header.dataLength) := by
  have hflags := validateFunctionCode_fst p.header p.statistics
  unfold validateHeaderParameters badLength LinkHeader.wellFormed
  simp only [hflags]
  cases p.header.validLength with
  | false => simp
  | true =>
    cases p.header.fields.flagsOk with
    | false => simp
    | true =>
      cases userDataFunction p.header.getFuncEnum <;> rcases Nat.eq_zero_or_pos p.header.dataLength with h | h <;>
        simp [h]

theorem readHeader_spec : p.readHeader.2.unread = p.unread ∧
    (p.readHeader.1 = true ↔ isCorrectCRC p.unread 8 = true ∧ (LinkHeader.read p.unread).wellFormed = true) ∧
    (p.readHeader.1 = true → p.readHeader.2.header = LinkHeader.read p.unread ∧
      p.readHeader.2.frameSize = calcFrameSize (LinkHeader.read p.unread).dataLength) := by
  refine ⟨p.readHeader_unread, ?_, ?_⟩
  · unfold readHeader
    simp only
    split
    · rename_i hcrc
      rw [validateHeaderParameters_spec.1]
      simp [hcrc]
    · rename_i hcrc
      simp [hcrc]
  · unfold readHeader
    simp only
    split
    · intro h
      rw [validateHeaderParameters_spec.1] at h
      exact ⟨validateHeaderParameters_header, validateHeaderParameters_spec.2 h⟩
    · intro h
      cases h

/-! ## The parser follows the framer -/

/-- The bytes start with a header that passes. -/
structure HeaderRead (s : List UInt8) : Prop where
  length : 10 ≤ s.length
  synced : s.getD 0 0 = 0x05 ∧ s.getD 1 0 = 0x64
  checked : isCorrectCRC s 8 = true ∧ (LinkHeader.read s).wellFormed = true

/-- **The invariant**: what the state says about the bytes that are unread. -/
def Ready (p : LinkLayerParser) : Prop :=
  match p.state with
  | .findSync => True
  | .readHeader => Synced p.unread
  | .readBody => HeaderRead p.unread ∧ p.header = LinkHeader.read p.unread ∧
      p.frameSize = calcFrameSize p.header.dataLength
  | .complete => linkLook p.unread = .frame p.frameSize p.frame

/-- The states in which the parser waits for more. -/
def Waiting (p : LinkLayerParser) : Prop :=
  (p.state = .findSync ∨ p.state = .readHeader) ∧ p.unread.length < 10 ∨
    p.state = .readBody ∧ p.unread.length < p.frameSize

theorem Synced.append {s : List UInt8} (h : Synced s) (t : List UInt8) : Synced (s ++ t) := by
  obtain ⟨hlen, h0, h1⟩ := h
  refine ⟨by rw [List.length_append]; omega, ?_, ?_⟩
  · rw [getD_append_of_lt (by omega), h0]
  · rw [getD_append_of_lt (by omega), h1]

theorem HeaderRead.append {s : List UInt8} (h : HeaderRead s) (t : List UInt8) : HeaderRead (s ++ t) := by
  obtain ⟨hlen, hsync, hcrc⟩ := h
  refine ⟨by rw [List.length_append]; omega, (Synced.append ⟨by omega, hsync⟩ t).2, ?_⟩
  rw [isCorrectCRC_append (by omega), LinkHeader.read_append (by omega)]
  exact hcrc

theorem linkLook_unsynced {s : List UInt8} (hlen : 2 ≤ s.length) (h : ¬(s.getD 0 0 = 0x05 ∧ s.getD 1 0 = 0x64)) :
    linkLook s = .skip := by
  simp only [linkLook]
  rw [if_neg (by omega), if_pos h]

theorem linkLook_badHeader {s : List UInt8} (hlen : 10 ≤ s.length) (hsync : s.getD 0 0 = 0x05 ∧ s.getD 1 0 = 0x64)
    (h : ¬(isCorrectCRC s 8 = true ∧ (LinkHeader.read s).wellFormed = true)) : linkLook s = .skip := by
  simp only [linkLook]
  rw [if_neg (by omega), if_neg (not_not.2 hsync), if_neg (by omega), if_pos h]

theorem HeaderRead.linkLook_eq {s : List UInt8} (h : HeaderRead s) : linkLook s =
    if s.length < calcFrameSize (LinkHeader.read s).dataLength then .more
    else if ¬validateBodyCRC (s.drop 10) (LinkHeader.read s).dataLength = true then .skip
    else .frame (calcFrameSize (LinkHeader.read s).dataLength)
      ⟨(LinkHeader.read s).fields, readUserData (s.drop 10) (LinkHeader.read s).dataLength⟩ := by
  have := h.length
  simp only [linkLook]
  rw [if_neg (by omega), if_neg (not_not.2 h.synced), if_neg (by omega), if_neg (not_not.2 h.checked)]

/-- Looking for the start bytes gives up what the framer gives up. -/
theorem sync_spec (s t : List UInt8) : linkFramer.parse ((sync s).2 ++ t) = linkFramer.parse (s ++ t) ∧
    ((sync s).1 = true → Synced (sync s).2) ∧ (¬(sync s).1 = true → (sync s).2.length < 2) := by
  induction s using sync.induct with
  | case1 a b rest h =>
    rw [sync, if_pos h]
    exact ⟨rfl, fun _ => ⟨by simp, h⟩, fun hno => absurd rfl hno⟩
  | case2 a b rest h ih =>
    rw [sync, if_neg h]
    obtain ⟨hparse, hrest⟩ := ih
    refine ⟨hparse.trans ?_, hrest⟩
    have hskip : linkFramer.look (a :: b :: rest ++ t) = .skip :=
      linkLook_unsynced (s := a :: b :: rest ++ t) (by simp) h
    exact (Framer.parse_skip hskip).symm
  | case3 s h =>
    have hs : sync s = (false, s) := by
      rw [sync]
      exact h
    rw [hs]
    refine ⟨rfl, ?_, ?_⟩
    · intro hsync
      cases hsync
    · intro _
      rcases s with _ | ⟨a, _ | ⟨b, rest⟩⟩
      · exact Nat.succ_pos 1
      · exact Nat.lt_succ_self 1
      · exact absurd rfl (h a b rest)

theorem parse_drop_one {s : List UInt8} (h : linkFramer.look s = .skip) (t : List UInt8) :
    linkFramer.parse (s.drop 1 ++ t) = linkFramer.parse (s ++ t) := by
  obtain ⟨b, s, rfl⟩ := List.exists_cons_of_length_pos (linkFramer.length_pos_of_skip h)
  rw [Framer.parse_skip (linkFramer.look_skip (b :: s) t h)]
  rfl

/-- **One step keeps the invariant** and leaves the frames of the stream as they are. -/
theorem Ready.step (h : Ready p) : Ready p.parseOneStep ∧
    (∀ t, linkFramer.parse (p.parseOneStep.unread ++ t) = linkFramer.parse (p.unread ++ t)) ∧
    p.parseOneStep.unread.length ≤ p.unread.length ∧
    (p.parseOneStep.state = p.state → p.parseOneStep.state = .complete ∨ Waiting p.parseOneStep) := by
  have hstep := p.parseOneStep_step
  generalize p.parseOneStep = q at hstep
  cases hstep with
  | wait hw =>
    refine ⟨h, fun _ => rfl, Nat.le_refl _, fun _ => ?_⟩
    rcases hw with ⟨hs, hlen⟩ | ⟨hs, hlen⟩ | ⟨hs, hlen⟩ | hs
    · exact .inr (.inl ⟨.inl hs, hlen⟩)
    · exact .inr (.inl ⟨.inr hs, hlen⟩)
    · exact .inr (.inr ⟨hs, hlen⟩)
    · exact .inl hs
  | synced hstate hlen hsync =>
    refine ⟨(sync_spec p.unread []).2.1 hsync, fun t => (sync_spec p.unread t).1, length_sync _, ?_⟩
    intro hsame
    rw [hstate] at hsame
    cases hsame
  | unsynced hstate hlen hsync =>
    have hshort := (sync_spec p.unread []).2.2 hsync
    exact ⟨trivial, fun t => (sync_spec p.unread t).1, length_sync _, fun _ =>
      .inr (.inl ⟨.inl rfl, Nat.lt_of_lt_of_le hshort (by decide)⟩)⟩
  | header hstate hlen hheader =>
    obtain ⟨hunread, hiff, hread⟩ := p.readHeader_spec
    obtain ⟨hheaderRead, hsize⟩ := hread hheader
    have hsynced : Synced p.unread := by simpa [Ready, hstate] using h
    refine ⟨?_, fun t => by rw [hunread], by rw [hunread], fun hsame => by rw [hstate] at hsame; cases hsame⟩
    simp only [Ready, hunread, hheaderRead, hsize, and_self, and_true]
    exact ⟨hlen, hsynced.2, hiff.1 hheader⟩
  | badHeader hstate hlen hheader =>
    obtain ⟨hunread, hiff, -⟩ := p.readHeader_spec
    have hsynced : Synced p.unread := by simpa [Ready, hstate] using h
    have hskip : linkFramer.look p.unread = .skip := linkLook_badHeader hlen hsynced.2 fun hok => hheader (hiff.2 hok)
    simp only [failFrame, advanceRead, hunread]
    refine ⟨trivial, fun t => parse_drop_one hskip t, by rw [List.length_drop]; omega, fun hsame => ?_⟩
    rw [hstate] at hsame
    cases hsame
  | body hstate hlen hbody =>
    simp only [Ready, hstate] at h
    obtain ⟨hheader, hread, hsize⟩ := h
    refine ⟨?_, fun _ => rfl, Nat.le_refl _, fun _ => .inl rfl⟩
    rw [hread] at hsize hbody
    rw [hsize] at hlen
    simp only [Ready, frame, hsize, hread]
    rw [hheader.linkLook_eq, if_neg (by omega), if_neg (not_not.2 hbody)]
  | badBody hstate hlen hbody =>
    simp only [Ready, hstate] at h
    obtain ⟨hheader, hread, hsize⟩ := h
    rw [hread] at hsize hbody
    rw [hsize] at hlen
    have hskip : linkFramer.look p.unread = .skip := by
      refine hheader.linkLook_eq.trans ?_
      rw [if_neg (by omega), if_pos hbody]
    simp only [failFrame, advanceRead]
    refine ⟨trivial, fun t => parse_drop_one hskip t, by rw [List.length_drop]; omega, fun hsame => ?_⟩
    rw [hstate] at hsame
    cases hsame

theorem Ready.parseUntilComplete (h : Ready p) : Ready p.parseUntilComplete ∧
    (∀ t, linkFramer.parse (p.parseUntilComplete.unread ++ t) = linkFramer.parse (p.unread ++ t)) ∧
    p.parseUntilComplete.unread.length ≤ p.unread.length ∧
    (p.parseUntilComplete.state = .complete ∨ Waiting p.parseUntilComplete) := by
  induction p using LinkLayerParser.parseUntilComplete.induct with
  | case1 p hstate ih =>
    obtain ⟨hready, hparse, hlen, -⟩ := h.step
    obtain ⟨hready', hparse', hlen', hstop⟩ := ih hready
    rw [LinkLayerParser.parseUntilComplete, dif_pos hstate]
    exact ⟨hready', fun t => (hparse' t).trans (hparse t), hlen'.trans hlen, hstop⟩
  | case2 p hstate =>
    obtain ⟨hready, hparse, hlen, hstop⟩ := h.step
    rw [LinkLayerParser.parseUntilComplete, dif_neg hstate]
    exact ⟨hready, hparse, hlen, hstop (not_not.1 hstate)⟩

/-- A complete frame is the first of the bytes that are unread. -/
theorem Ready.afterFrame (h : Ready p) (hstate : p.state = .complete) :
    p.afterFrame.unread.length < p.unread.length ∧ ∀ t, linkFramer.parse (p.unread ++ t) =
      (p.frame :: (linkFramer.parse (p.afterFrame.unread ++ t)).1, (linkFramer.parse (p.afterFrame.unread ++ t)).2) := by
  simp only [Ready, hstate] at h
  have hlook : linkFramer.look p.unread = .frame p.frameSize p.frame := h
  obtain ⟨hpos, hle⟩ := linkFramer.frame_length _ _ _ hlook
  constructor
  · simp only [LinkLayerParser.afterFrame, advanceRead, List.length_drop]
    omega
  · intro t
    rw [Framer.parse_frame (linkFramer.look_frame _ t _ _ hlook), List.drop_append_of_le_length hle]
    rfl

theorem Ready.parseFrames (n : Nat) (h : Ready p) (hn : p.unread.length ≤ n) :
    Ready (parseFrames n p).1 ∧ Waiting (parseFrames n p).1 ∧
    ∀ t, linkFramer.parse (p.unread ++ t) = ((parseFrames n p).2 ++
      (linkFramer.parse ((parseFrames n p).1.unread ++ t)).1, (linkFramer.parse ((parseFrames n p).1.unread ++ t)).2) := by
  induction n generalizing p with
  | zero =>
    obtain ⟨hready, hparse, hlen, hstop⟩ := h.parseUntilComplete
    refine ⟨hready, hstop.resolve_left fun hstate => ?_, fun t => (hparse t).symm⟩
    obtain ⟨hlt, -⟩ := hready.afterFrame hstate
    omega
  | succ n ih =>
    obtain ⟨hready, hparse, hlen, hstop⟩ := h.parseUntilComplete
    rw [LinkLayerParser.parseFrames]
    by_cases hstate : p.parseUntilComplete.state = .complete
    · obtain ⟨hlt, hframe⟩ := hready.afterFrame hstate
      obtain ⟨hready', hwaiting, hparse'⟩ := ih (p := p.parseUntilComplete.afterFrame) trivial (by omega)
      simp only [if_pos hstate]
      refine ⟨hready', hwaiting, fun t => ?_⟩
      rw [← hparse t, hframe t, hparse' t]
      rfl
    · simp only [if_neg hstate]
      exact ⟨hready, hstop.resolve_left hstate, fun t => (hparse t).symm⟩

/-- No frame has fewer than ten bytes. -/
theorem parse_short {s : List UInt8} (h : s.length < 10) : (linkFramer.parse s).1 = [] := by
  induction s using Framer.parse.induct linkFramer with
  | case1 s hlook => rw [Framer.parse_more hlook]
  | case2 s hlook ih =>
    rw [Framer.parse_skip hlook]
    exact ih (by rw [List.length_tail]; omega)
  | case3 s n f hlook ih =>
    obtain ⟨-, hle⟩ := linkFramer.frame_length s n f hlook
    obtain ⟨hf, rfl, -⟩ := linkLook_sound hlook
    rw [LinkFrame.length_encode hf.length, calcFrameSize] at hle
    omega

theorem calcUserDataSize_le {length : Nat} (h : length ≤ 250) : calcUserDataSize length ≤ 282 := by
  unfold calcUserDataSize
  simp only
  split_ifs <;> omega

/-- A parser that waits has no frame and room for more. -/
theorem Waiting.spec (h : Ready p) (hw : Waiting p) :
    (linkFramer.parse p.unread).1 = [] ∧ p.unread.length < 292 := by
  rcases hw with ⟨-, hlen⟩ | ⟨hstate, hlen⟩
  · exact ⟨parse_short hlen, by omega⟩
  · simp only [Ready, hstate] at h
    obtain ⟨hheader, hread, hsize⟩ := h
    have hlook : linkFramer.look p.unread = .more := by
      refine hheader.linkLook_eq.trans (if_pos ?_)
      rw [← hread, ← hsize]
      exact hlen
    have hmax : p.header.dataLength ≤ 250 := by
      have := p.header.length.toNat_lt
      unfold LinkHeader.dataLength
      omega
    have := calcUserDataSize_le hmax
    unfold calcFrameSize at hsize
    exact ⟨by rw [Framer.parse_more hlook], by omega⟩

/-! ## Runs -/

/-- The chunks of a stream, as the socket delivers them. -/
def onReads (p : LinkLayerParser) : List (List UInt8) → LinkLayerParser × List LinkFrame
  | [] => (p, [])
  | chunk :: chunks =>
    let (q, frames) := p.onRead chunk
    let (r, more) := onReads q chunks
    (r, frames ++ more)

/-- A parser between two reads. -/
structure Idle (p : LinkLayerParser) : Prop where
  ready : Ready p
  waiting : Waiting p
  shifted : p.readPos = 0

/-- **One read.** -/
theorem Idle.onRead (h : Idle p) (chunk : List UInt8) : Idle (p.onRead chunk).1 ∧
    ∀ t, linkFramer.parse (p.unread ++ chunk ++ t) = ((p.onRead chunk).2 ++
      (linkFramer.parse ((p.onRead chunk).1.unread ++ t)).1, (linkFramer.parse ((p.onRead chunk).1.unread ++ t)).2) := by
  have hready : Ready { p with unread := p.unread ++ chunk } := by
    have hready := h.ready
    simp only [Ready] at hready ⊢
    rcases h.waiting with ⟨hstate | hstate, -⟩ | ⟨hstate, -⟩
    · simp only [hstate]
    · simp only [hstate] at hready ⊢
      exact hready.append chunk
    · simp only [hstate] at hready ⊢
      obtain ⟨hheader, hread, hsize⟩ := hready
      have := hheader.length
      exact ⟨hheader.append chunk, by rw [LinkHeader.read_append (by omega), hread], hsize⟩
  obtain ⟨hready', hwaiting, hparse⟩ := hready.parseFrames _ (Nat.le_refl _)
  exact ⟨⟨hready', hwaiting, rfl⟩, hparse⟩

theorem Idle.onReads (h : Idle p) (chunks : List (List UInt8)) : Idle (onReads p chunks).1 ∧
    ∀ t, linkFramer.parse (p.unread ++ chunks.flatten ++ t) = ((onReads p chunks).2 ++
      (linkFramer.parse ((onReads p chunks).1.unread ++ t)).1,
      (linkFramer.parse ((onReads p chunks).1.unread ++ t)).2) := by
  induction chunks generalizing p with
  | nil => exact ⟨h, fun t => by rw [List.flatten_nil, List.append_nil]; rfl⟩
  | cons chunk chunks ih =>
    obtain ⟨hidle, hparse⟩ := h.onRead chunk
    obtain ⟨hidle', hparse'⟩ := ih hidle
    refine ⟨hidle', fun t => ?_⟩
    have hrest := hparse' t
    rw [List.append_assoc] at hrest
    rw [List.flatten_cons, ← List.append_assoc, List.append_assoc _ chunks.flatten, hparse, hrest]
    simp only [onReads, List.append_assoc]

theorem idle_start : Idle {} := ⟨trivial, .inl ⟨.inl rfl, by decide⟩, rfl⟩

end LinkLayerParser

open LinkLayerParser

/-- Whatever the chunks, the parser delivers the frames of the stream so far, and has room to read on. -/
theorem onReads_spec (chunks : List (List UInt8)) :
    (onReads {} chunks).2 = (linkFramer.parse chunks.flatten).1 ∧ 0 < (onReads {} chunks).1.numWriteBytes := by
  obtain ⟨⟨hready, hwaiting, hshifted⟩, hparse⟩ := idle_start.onReads chunks
  obtain ⟨hnone, hroom⟩ := hwaiting.spec hready
  have hall := hparse []
  rw [List.append_nil, List.append_nil, hnone, List.append_nil, List.nil_append] at hall
  refine ⟨by rw [hall], ?_⟩
  rw [numWriteBytes, hshifted]
  omega

/-- **Only the bytes count, not how they come in**: the same stream in other chunks gives the same frames, and there is
room to read on. -/
theorem onReads_chunks {chunks chunks' : List (List UInt8)} (h : chunks.flatten = chunks'.flatten) :
    (onReads {} chunks).2 = (onReads {} chunks').2 ∧ 0 < (onReads {} chunks).1.numWriteBytes := by
  obtain ⟨hframes, hroom⟩ := onReads_spec chunks
  exact ⟨by rw [hframes, (onReads_spec chunks').1, h], hroom⟩

/-- A link status request behind a start byte that is none, byte by byte and at once. -/
theorem onReads_chunks_bytes :
    (onReads {} (([0x05, 0x05, 0x64, 0x05, 0xC9, 0x0A, 0x00, 0x01, 0x00] : List UInt8).map ([·]) ++ [[0x3F, 0x31]])).2 =
        (onReads {} [[0x05, 0x05, 0x64, 0x05, 0xC9, 0x0A, 0x00, 0x01, 0x00, 0x3F, 0x31]]).2 ∧
      0 < (onReads {} (([0x05, 0x05, 0x64, 0x05, 0xC9, 0x0A, 0x00, 0x01, 0x00] : List UInt8).map ([·]) ++
        [[0x3F, 0x31]])).1.numWriteBytes :=
  onReads_chunks (by decide)

/-- **What is delivered was sent**: the frames are pieces of the stream, in order and apart, and each is the
encoding of a well-formed frame. -/
theorem onReads_pieces (chunks : List (List UInt8)) : ∃ (pieces : List (List UInt8 × LinkFrame)) (tail : List UInt8),
    pieces.map (·.2) = (onReads {} chunks).2 ∧ (∀ p ∈ pieces, p.2.WellFormed) ∧
    chunks.flatten = pieces.flatMap (fun p => p.1 ++ p.2.encode) ++ tail := by
  rw [(onReads_spec chunks).1]
  refine Framer.parse_pieces ?_ _
  intro s n f hlook
  obtain ⟨hf, -, htake⟩ := linkLook_sound hlook
  exact ⟨hf, htake⟩

/-- Frames between bytes other than the start byte `0x05` are all found, and leave nothing unread. -/
theorem parse_linkFrames {pieces : List (List UInt8 × LinkFrame)} (hframe : ∀ p ∈ pieces, p.2.WellFormed)
    (hnoise : ∀ p ∈ pieces, 0x05 ∉ p.1) :
    linkFramer.parse (pieces.flatMap fun p => p.1 ++ p.2.encode) = (pieces.map (·.2), []) := by
  have hskip : ∀ p ∈ pieces, ∀ b ∈ p.1, ∀ t, t ≠ [] → linkFramer.look (b :: t) = .skip := by
    intro p hp b hb t ht
    have hlen := List.length_pos_iff.2 ht
    refine linkLook_unsynced (s := b :: t) (by rw [List.length_cons]; omega) ?_
    rintro ⟨rfl, -⟩
    exact hnoise p hp hb
  have hlook : ∀ p ∈ pieces, ∀ t, linkFramer.look (p.2.encode ++ t) = .frame p.2.encode.length p.2 :=
    fun p hp => linkLook_encode (hframe p hp)
  have hnil : linkFramer.parse [] = ([], []) := Framer.parse_more linkFramer.look_nil
  rw [← List.append_nil (pieces.flatMap _), Framer.parse_encoded hlook hskip, hnil, List.append_nil]

/-- A header with its check sum. -/
theorem LinkHeader.write_injective {header header' : LinkHeader} (h : header.text = header'.text) : header = header' := by
  have hwrite : header.write = header'.write := by rw [LinkHeader.write, LinkHeader.write, h]
  have hread := header.read_write []
  rw [hwrite, LinkHeader.read_write] at hread
  exact hread.symm

section
variable {f : LinkFrame} {damaged : List UInt8}

/-- A header that passes is the one that was sent. -/
theorem header_of_burst (hf : f.WellFormed) (hlen : damaged.length = f.encode.length)
    (hburst : Crc.IsBurst 16 ((Crc.bytesBits f.encode).zipWith xor (Crc.bytesBits damaged)))
    (hsync : damaged.getD 0 0 = 0x05 ∧ damaged.getD 1 0 = 0x64) (hcrc : isCorrectCRC damaged 8 = true) :
    LinkHeader.read damaged = f.header := by
  have h10 : 10 ≤ damaged.length := by
    rw [hlen, LinkFrame.length_encode hf.length]
    exact Nat.le_add_right 10 _
  have hwrite := LinkHeader.write_read h10 hsync.1 hsync.2 hcrc
  rw [LinkFrame.encode_eq hf.length, ← List.take_append_drop 10 damaged, hwrite] at hburst
  obtain ⟨hheader, -⟩ := isBurst_bytes_append (by rw [LinkHeader.length_write, LinkHeader.length_write]) hburst
  have htext : f.header.text = (LinkHeader.read damaged).text :=
    addCrc_burst (by rw [LinkHeader.length_text, LinkHeader.length_text]) hheader
  exact (LinkHeader.write_injective htext).symm

/-- **A damaged frame is given up**: bytes that differ from those of a frame, within sixteen bits in a row. -/
theorem linkLook_burst (hf : f.WellFormed) (hlen : damaged.length = f.encode.length) (hne : damaged ≠ f.encode)
    (hburst : Crc.IsBurst 16 ((Crc.bytesBits f.encode).zipWith xor (Crc.bytesBits damaged))) (t : List UInt8) :
    linkLook (damaged ++ t) = .skip := by
  have hsize := LinkFrame.length_encode hf.length
  have h10 : 10 ≤ damaged.length := by
    rw [hlen, hsize]
    exact Nat.le_add_right 10 _
  have hlook : linkLook damaged = .skip := by
    by_cases hsync : damaged.getD 0 0 = 0x05 ∧ damaged.getD 1 0 = 0x64
    · by_cases hok : isCorrectCRC damaged 8 = true ∧ (LinkHeader.read damaged).wellFormed = true
      · have hread := header_of_burst hf hlen hburst hsync hok.1
        have hdata : (LinkHeader.read damaged).dataLength = f.userData.length := by
          rw [hread, LinkHeader.dataLength, LinkFrame.length_header hf.length]
          omega
        rw [LinkLayerParser.HeaderRead.linkLook_eq ⟨h10, hsync, hok⟩, hdata, if_neg (by omega), if_pos]
        intro hbody
        have hroom : calcUserDataSize f.userData.length ≤ (damaged.drop 10).length := by
          rw [List.length_drop, hlen, hsize, calcFrameSize]
          omega
        have hwrite := LinkHeader.write_read h10 hsync.1 hsync.2 hok.1
        have hall : (damaged.drop 10).take (calcUserDataSize f.userData.length) = damaged.drop 10 := by
          rw [List.take_of_length_le (by rw [List.length_drop, hlen, hsize, calcFrameSize]; omega)]
        rw [validateBodyCRC_iff hroom, hall] at hbody
        have hpieces : damaged = f.header.write ++ writeUserData (readUserData (damaged.drop 10) f.userData.length) := by
          rw [← hbody, ← hread, ← hwrite, List.take_append_drop]
        rw [LinkFrame.encode_eq hf.length, hpieces] at hburst
        obtain ⟨-, hrest⟩ := isBurst_bytes_append rfl hburst
        have hsame := writeUserData_burst (length_readUserData hroom).symm hrest
        exact hne (by rw [hpieces, ← hsame, LinkFrame.encode_eq hf.length])
      · exact LinkLayerParser.linkLook_badHeader h10 hsync hok
    · exact LinkLayerParser.linkLook_unsynced (by omega) hsync
  rw [linkLook_append (by rw [hlook]; exact fun e => by cases e), hlook]

/-- **A damaged frame is not delivered**, wherever it stands in a stream: where the bytes before it leave nothing
unread, its first byte is given up, and what is delivered is what was before and what is found from its second byte
on. -/
theorem onReads_burst (hf : f.WellFormed) (hlen : damaged.length = f.encode.length) (hne : damaged ≠ f.encode)
    (hburst : Crc.IsBurst 16 ((Crc.bytesBits f.encode).zipWith xor (Crc.bytesBits damaged))) {s t : List UInt8}
    (hs : (linkFramer.parse s).2 = []) {chunks : List (List UInt8)} (h : chunks.flatten = s ++ (damaged ++ t)) :
    (onReads {} chunks).2 = (linkFramer.parse s).1 ++ (linkFramer.parse (damaged.tail ++ t)).1 := by
  have hskip : linkFramer.look (damaged ++ t) = .skip := linkLook_burst hf hlen hne hburst t
  have hpos : damaged ≠ [] := by
    rintro rfl
    rw [LinkFrame.length_encode hf.length, calcFrameSize, List.length_nil] at hlen
    omega
  rw [(onReads_spec chunks).1, h, Framer.parse_append, hs, List.nil_append, Framer.parse_skip hskip,
    List.tail_append_of_ne_nil hpos]

end

/-- A link status request and its answer. -/
def linkStatusRequest : LinkFrame := ⟨⟨.priRequestLinkStatus, true, false, false, ⟨1, 10⟩⟩, []⟩

def linkAck : LinkFrame := ⟨⟨.secAck, false, false, false, ⟨10, 1⟩⟩, []⟩

/-- Behind noise and a frame, an acknowledgement that arrives as a refusal: one bit of its control byte is set. -/
theorem onReads_burst_ack :
    (onReads {} [0xFF :: linkStatusRequest.encode, linkAck.encode.set 3 0x01, linkStatusRequest.encode]).2 =
      [linkStatusRequest, linkStatusRequest] := by
  have hbits : List.zipWith xor (Crc.bytesBits linkAck.encode) (Crc.bytesBits (linkAck.encode.set 3 0x01)) =
      List.replicate 24 false ++ true :: List.replicate 55 false := by decide +kernel
  have hburst : Crc.IsBurst 16
      (List.zipWith xor (Crc.bytesBits linkAck.encode) (Crc.bytesBits (linkAck.encode.set 3 0x01))) := by
    refine ⟨24, fun i hi => ?_⟩
    rw [hbits] at hi
    rcases Nat.lt_trichotomy i 24 with h | rfl | h
    · rw [List.getElem?_append_left (by simpa using h), List.getElem?_replicate, if_pos h] at hi
      cases hi
    · exact ⟨Nat.le_refl _, by omega⟩
    · obtain ⟨j, rfl⟩ : ∃ j, i = 24 + (j + 1) := ⟨i - 25, by omega⟩
      rw [List.getElem?_append_right (by simp), List.length_replicate, Nat.add_sub_cancel_left,
        List.getElem?_cons_succ, List.getElem?_replicate] at hi
      split at hi <;> cases hi
  have hbefore : linkFramer.parse (0xFF :: linkStatusRequest.encode) = ([linkStatusRequest], []) := by
    have hparse := @parse_linkFrames [([0xFF], linkStatusRequest)] (by decide +kernel) (by decide +kernel)
    rwa [List.flatMap_singleton] at hparse
  -- what is left of the damaged frame holds no frame
  have hafter : (linkFramer.parse ((linkAck.encode.set 3 0x01).tail ++ linkStatusRequest.encode)).1 =
      [linkStatusRequest] := by
    have hreads := (onReads_spec [(linkAck.encode.set 3 0x01).tail ++ linkStatusRequest.encode]).1
    rw [List.flatten_singleton] at hreads
    rw [← hreads]
    decide +kernel
  rw [onReads_burst (f := linkAck) (s := 0xFF :: linkStatusRequest.encode) (t := linkStatusRequest.encode)
    (by decide +kernel) (by decide +kernel) (by decide +kernel) hburst (congrArg Prod.snd hbefore) (by simp), hbefore,
    hafter]
  rfl

end Opendnp3
