import ModbusGateway.WriteRange

/-!
# Select before operate (`Dnp3.cpp:232-418`)

A master selects a command to learn whether it would be executed. `Select` looks up the index and nothing
else; `Operate` also has to make the registers of the value, which the type of the point may refuse.

* `SelectPredicts` — a selected command fails at the device or not at all, any other sends nothing.
* `select_predicts_iff` — it holds exactly when the point the index is mapped to, if any, can be written with
  the value. A CROB has no value that could be refused.
-/

namespace Gateway

open BinaryFloat (Value)

namespace ModbusCommandHandler

/-- What `Select` tells about an `Operate` of the same command. -/
structure SelectPredicts (llround : Llround) (handler : ModbusCommandHandler) (command : Command) (index : UInt16) :
    Prop where
  /-- Selected, it is not refused for its point or its value; -/
  selected : ∀ (env : Env) past, ((handler.select command index).run env past).2 = .success →
    ∀ (env' : Env) past', ((handler.operate llround command index).run env' past').2 ≠ .notSupported ∧
      ((handler.operate llround command index).run env' past').2 ≠ .outOfRange
  /-- not selected, it is not supported and sends nothing. -/
  unselected : ∀ (env : Env) past, ((handler.select command index).run env past).2 ≠ .success →
    ∀ (env' : Env) past', ((handler.operate llround command index).run env' past').2 = .notSupported ∧
      Silent ((handler.operate llround command index).run env' past').1

end ModbusCommandHandler

/-- The command carries no infinity and no NaN. -/
def Command.IsFinite (command : Command) : Prop := ∀ value, command.analogValue = some value → value.IsFinite

/-- Registers of the type can be written with the value. -/
def Writable (type : ReadValueType) (q : ℚ) : Prop :=
  type = .holdingFloat32 ∨ ∃ lo hi, integerRange type = some (lo, hi) ∧
    lo ≤ Rounding.roundHalfAway q ∧ Rounding.roundHalfAway q ≤ hi

/-! ## Payloads -/

/-- The two statuses a command is refused with before anything is sent. -/
def CommandStatus.Refuses (status : CommandStatus) : Prop := status = .notSupported ∨ status = .outOfRange

theorem mapModbusErrno_not_refuses (errno : Int32) : ¬(mapModbusErrnoToDNP3Status errno).Refuses := by
  unfold mapModbusErrnoToDNP3Status
  split_ifs <;> simp [CommandStatus.Refuses]

section
variable {llround : Llround} {cfg : CommandPointConfig} {q : ℚ}

theorem payload_cases (llround : Llround) (cfg : CommandPointConfig) (q : ℚ) :
    (Writable cfg.value_type q ∧ ∃ regs, buildHoldingRegisterWritePayload llround cfg (.finite q) = .ok regs) ∨
    (¬Writable cfg.value_type q ∧ ∃ status text, status.Refuses ∧
      buildHoldingRegisterWritePayload llround cfg (.finite q) = .error (status, text)) := by
  by_cases hholding : isHoldingRegisterType cfg.value_type = true
  · rcases integerRange_or_float hholding with ⟨⟨lo, hi⟩, hr⟩ | hfloat
    · have hne : cfg.value_type ≠ .holdingFloat32 := fun hfloat => by rw [hfloat] at hr; cases hr
      obtain ⟨hrefused, hwritten⟩ := payload_integer llround hr q
      by_cases hin : lo ≤ Rounding.roundHalfAway q ∧ Rounding.roundHalfAway q ≤ hi
      · obtain ⟨regs, hok, -⟩ := hwritten hin.1 hin.2
        exact .inl ⟨.inr ⟨lo, hi, hr, hin⟩, regs, hok⟩
      · obtain ⟨text, herror⟩ := hrefused (by omega)
        refine .inr ⟨?_, .outOfRange, text, .inr rfl, herror⟩
        rintro (hfloat | ⟨lo', hi', hr', hin'⟩)
        · exact hne hfloat
        · obtain ⟨rfl, rfl⟩ : lo = lo' ∧ hi = hi' := by simpa [hr] using hr'
          exact hin hin'
    · obtain ⟨regs, hok, -⟩ := payload_float llround hfloat q
      exact .inl ⟨.inl hfloat, regs, hok⟩
  · refine .inr ⟨?_, .notSupported, _, .inl rfl, by rw [buildHoldingRegisterWritePayload, if_pos hholding]⟩
    rintro (hfloat | ⟨lo, hi, hr, -⟩)
    · exact hholding (by rw [hfloat]; rfl)
    · exact hholding (holding_of_integerRange hr)

/-! ## Statuses -/

/-- A session never ends in a refusal. -/
theorem writeSession_status (cfg : CommandPointConfig) (count : Int32) (request : Ctx → Modbus (Int32 × Int32)) :
    (writeSession cfg count request).Ensures fun _ status => ¬status.Refuses := by
  have hany : ∀ ctx, (request ctx).Ensures fun _ _ => True :=
    fun ctx => Program.ensures_of_forall (request ctx) fun _ _ => trivial
  refine writeSession_ensures (Program.ensures_of_forall (Q := fun _ _ => True) _ fun _ _ => trivial) hany ?_ ?_
  · intro locked unlocked opening errno _
    exact mapModbusErrno_not_refuses errno
  · intro locked opening ctx asked answer level scope logged closed freed unlocked _ _
    split
    · simp [CommandStatus.Refuses]
    · exact mapModbusErrno_not_refuses freed.2

theorem writeHoldingRegister_status {regs : List UInt16}
    (h : buildHoldingRegisterWritePayload llround cfg (.finite q) = .ok regs) :
    (writeHoldingRegister llround cfg (.finite q)).Ensures fun _ status => ¬status.Refuses := by
  unfold writeHoldingRegister
  rw [h]
  intro r
  exact writeSession_status _ _ _

namespace ModbusCommandHandler

variable {handler : ModbusCommandHandler} {command : Command} {index : UInt16}

theorem select_status (handler : ModbusCommandHandler) (command : Command) (index : UInt16) (env : Env)
    (past : List SessionEvent) : ((handler.select command index).run env past).2 =
      if (handler.find command index).isSome then .success else .notSupported := rfl

/-- Nothing is found under the index. -/
theorem operate_unmapped (h : handler.find command index = none) :
    (handler.operate llround command index).Ensures fun trace status => status = .notSupported ∧ Silent trace := by
  cases command with
  | crob opType => exact operateCrob_none h opType
  | _ value => exact operateAnalog_none h _

theorem operate_crob_status {opType : OperationType} (h : handler.find (.crob opType) index = some cfg) :
    (handler.operate llround (.crob opType) index).Ensures fun _ status => ¬status.Refuses := by
  have hfind : findCommandConfig handler.binary_cmds index .coil = some cfg := h
  simp only [operate, operateCrob, hfind, perform, Program.ensures_bind, Program.ensures_perform]
  intro received written logged
  refine (writeSession_status cfg 1 _).mono ?_
  intro trace status hstatus result
  exact hstatus

theorem find_analog {value : Value} (h : command.analogValue = some value) :
    handler.find command index = findCommandConfig handler.analog_cmds index .holdingRegister := by
  cases command with
  | crob opType => cases h
  | _ v => rfl

/-- An analog command to a mapped point. -/
theorem operate_analog_status (hvalue : command.analogValue = some (.finite q))
    (h : handler.find command index = some cfg) :
    (Writable cfg.value_type q →
      (handler.operate llround command index).Ensures fun _ status => ¬status.Refuses) ∧
    (¬Writable cfg.value_type q →
      (handler.operate llround command index).Ensures fun _ status => status.Refuses) := by
  rw [find_analog hvalue] at h
  rw [operate_analog hvalue]
  rcases payload_cases llround cfg q with ⟨hw, regs, hok⟩ | ⟨hw, status, text, hstatus, herror⟩
  · refine ⟨fun _ => operateAnalog_some h (fun _ _ hQ _ => hQ) (writeHoldingRegister_status hok), fun hno => ?_⟩
    exact absurd hw hno
  · refine ⟨fun hyes => absurd hyes hw, fun _ => operateAnalog_some h (fun _ _ hQ _ => hQ) ?_⟩
    refine (writeHoldingRegister_error herror).mono ?_
    rintro trace result ⟨rfl, -⟩
    exact hstatus

/-- **Select predicts Operate** exactly where the mapped point can be written with the value. -/
theorem select_predicts_iff (hfinite : command.IsFinite) : SelectPredicts llround handler command index ↔
    ∀ cfg q, handler.find command index = some cfg → command.analogValue = some (.finite q) →
      Writable cfg.value_type q := by
  constructor
  · intro hpredicts cfg q hfind hvalue
    by_contra hw
    have hselected : ((handler.select command index).run deviceAccepts []).2 = .success := by
      rw [select_status, hfind]
      rfl
    have hrefuses : ((handler.operate llround command index).run deviceAccepts []).2.Refuses :=
      ((operate_analog_status hvalue hfind).2 hw).run deviceAccepts []
    obtain ⟨hsupported, hrange⟩ := hpredicts.selected deviceAccepts [] hselected deviceAccepts []
    exact hrefuses.elim hsupported hrange
  · intro hwritable
    cases hfind : handler.find command index with
    | none =>
      refine ⟨fun env past hselected => ?_, fun _ _ _ env' past' => (operate_unmapped hfind).run env' past'⟩
      rw [select_status, hfind] at hselected
      cases hselected
    | some cfg =>
      have haccepts : (handler.operate llround command index).Ensures fun _ status => ¬status.Refuses := by
        cases hvalue : command.analogValue with
        | none =>
          obtain ⟨opType, rfl⟩ : ∃ opType, command = .crob opType := by
            cases command <;> first | exact ⟨_, rfl⟩ | cases hvalue
          exact operate_crob_status hfind
        | some value =>
          have hvalueFinite := hfinite value hvalue
          cases value with
          | finite q => exact (operate_analog_status hvalue hfind).1 (hwritable cfg q hfind hvalue)
          | inf negative => exact hvalueFinite.elim
          | nan => exact hvalueFinite.elim
      refine ⟨fun _ _ _ env' past' => not_or.1 (haccepts.run env' past'), fun env past hselected => ?_⟩
      rw [select_status, hfind] at hselected
      exact absurd rfl hselected

/-- An integer point and a float point at the index 3 of two tables. -/
def handlerInt : ModbusCommandHandler := ⟨[setPointInt], []⟩

def handlerFloat : ModbusCommandHandler := ⟨[setPointFloat], []⟩

theorem select_predicts_float :
    SelectPredicts llroundSaturating handlerFloat (.analogInt32 100000) 3 := by
  have hfinite : (Command.analogInt32 100000).IsFinite := by
    rintro value hvalue
    cases hvalue
    trivial
  refine (select_predicts_iff hfinite).2 ?_
  intro cfg q hfind hvalue
  have hcfg : handlerFloat.find (.analogInt32 100000) 3 = some setPointFloat := by decide +kernel
  obtain rfl : setPointFloat = cfg := Option.some.inj (hcfg.symm.trans hfind)
  exact .inl rfl

/-- **Selected, then out of range.** 100000 to a point of type `int16` is selected with success; operated, it is
out of range, whatever the device does. -/
theorem selected_out_of_range :
    ((handlerInt.select (.analogInt32 100000) 3).run deviceAccepts []).2 = .success ∧
    ((handlerInt.operate llroundSaturating (.analogInt32 100000) 3).run deviceAccepts []).2 = .outOfRange ∧
    ¬SelectPredicts llroundSaturating handlerInt (.analogInt32 100000) 3 := by
  have hselect : ((handlerInt.select (.analogInt32 100000) 3).run deviceAccepts []).2 = .success := by decide +kernel
  have hoperate : ((handlerInt.operate llroundSaturating (.analogInt32 100000) 3).run deviceAccepts []).2 =
      .outOfRange := by decide +kernel
  refine ⟨hselect, hoperate, ?_⟩
  intro hpredicts
  exact (hpredicts.selected deviceAccepts [] hselect deviceAccepts []).2 hoperate

end ModbusCommandHandler

end

end Gateway
