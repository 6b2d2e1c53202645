import ModbusGateway.OutstationContext
import ModbusGateway.Lib.Log
import Mathlib.Logic.Relation

/-!
# What the outstation's session can do (opendnp3)

Whatever comes in, the session makes some of a few moves, one after the other. A move is what happens from one point
at which nothing is half done to the next; each says what it needs and what it changes.

* `Enacts` — what a function handler changes: the application, the time, the indications, the mask of the
  classes; it may bring events and call the command handler.
* `Acts` — what `handleNonReadResponse` does with a request.
* `Move`, `step_moves` — a step is a sequence of moves.
-/

namespace Opendnp3

variable {V σ App C S : Type} {config : EventBufferConfig}

/-- The state a response leads to. -/
def Response.next (r : Response σ) : OutstationState := if r.control.con then .solicitedConfirmWait else .idle

namespace KeptBuffer

theorem updateAll_append (b : KeptBuffer V config) (updates updates' : List (EventType × Event V Nat)) :
    b.updateAll (updates ++ updates') = (b.updateAll updates).updateAll updates' := List.foldl_append

end KeptBuffer

namespace OutstationOutput

/-- Calls of the command handler. -/
def isCommand : OutstationOutput σ C → Prop
  | .select _ _ _ | .operate _ _ _ _ => True
  | _ => False

/-- Commands operated for a request that is not answered. -/
def isUnanswered : OutstationOutput σ C → Prop
  | .operate _ _ opType _ => opType = .directOperateNoAck
  | _ => False

end OutstationOutput

namespace OContext

variable {P : OutstationParts V σ App C S} {s t u : OContext V σ App C config}

/-! ## Function handlers -/

def Enacts (s t : OContext V σ App C config) : Prop :=
  ∃ app staticIIN time unsolClassMask shouldCheckForUnsolicited updates outs,
    t = { s with
      app, staticIIN, time, unsolClassMask, shouldCheckForUnsolicited
      events := s.events.updateAll updates
      log := s.log ++ outs } ∧
    ∀ o ∈ outs, o.isUnanswered

theorem Enacts.refl (s : OContext V σ App C config) : Enacts s s :=
  ⟨s.app, s.staticIIN, s.time, s.unsolClassMask, s.shouldCheckForUnsolicited, [], [], by simp [KeptBuffer.updateAll],
    by simp⟩

theorem Enacts.trans (h : Enacts s t) (h' : Enacts t u) : Enacts s u := by
  obtain ⟨_, _, _, _, _, updates, outs, rfl, houts⟩ := h
  obtain ⟨app, staticIIN, time, mask, should, updates', outs', rfl, houts'⟩ := h'
  refine ⟨app, staticIIN, time, mask, should, updates ++ updates', outs ++ outs', ?_, ?_⟩
  · simp [KeptBuffer.updateAll_append]
  · intro o ho
    exact (List.mem_append.1 ho).elim (houts o) (houts' o)

/-- A handler that changes fields and calls nothing. -/
theorem Enacts.fields (s : OContext V σ App C config) (app : App) (staticIIN : IINField) (time : Option TimeSync)
    (unsolClassMask : ClassField) (shouldCheckForUnsolicited : Bool) :
    Enacts s { s with app, staticIIN, time, unsolClassMask, shouldCheckForUnsolicited } :=
  ⟨app, staticIIN, time, unsolClassMask, shouldCheckForUnsolicited, [], [], by simp [KeptBuffer.updateAll], by simp⟩

@[simp] theorem processHeaders_nil {α H : Type} (process : α → H → α × IINField) (a : α) :
    processHeaders process a [] = (a, .empty) := rfl

theorem processHeaders_cons {α H : Type} (process : α → H → α × IINField) (a : α) (h : H) (headers : List H) :
    (processHeaders process a (h :: headers)).1 = (processHeaders process (process a h).1 headers).1 := by
  have herrors : ∀ (headers : List H) (a : α) (iin iin' : IINField),
      (headers.foldl (fun r header => ((process r.1 header).1, r.2.or (process r.1 header).2)) (a, iin)).1 =
        (headers.foldl (fun r header => ((process r.1 header).1, r.2.or (process r.1 header).2)) (a, iin')).1 := by
    intro headers
    induction headers with
    | nil => exact fun _ _ _ => rfl
    | cons h headers ih => exact fun a _ _ => ih _ _ _
  exact herrors headers _ _ _

theorem writeTime_enacts (w : WriteProgress V σ App C config) (time : Nat) :
    Enacts w.context (writeTime P w time).1.context := Enacts.fields w.context _ _ _ _ _

theorem processWriteHeader_enacts (w : WriteProgress V σ App C config) (header : WriteHeader S) :
    Enacts w.context (processWriteHeader P w header).1.context := by
  fun_cases processWriteHeader P w header
  case case2 => exact Enacts.fields w.context _ _ _ _ _
  case case6 => exact writeTime_enacts w _
  case case11 => exact (Enacts.fields w.context _ _ none _ _).trans (writeTime_enacts _ _)
  case case14 => exact Enacts.fields w.context _ _ _ _ _
  all_goals exact .refl _

theorem handleWrite_enacts (s : OContext V σ App C config) (objects : List UInt8) :
    Enacts s (s.handleWrite P objects).1 := by
  have hheaders : ∀ (headers : List (WriteHeader S)) (w : WriteProgress V σ App C config),
      Enacts w.context (processHeaders (processWriteHeader P) w headers).1.context := by
    intro headers
    induction headers with
    | nil => exact fun w => .refl _
    | cons header headers ih =>
      intro w
      rw [processHeaders_cons]
      exact (processWriteHeader_enacts w header).trans (ih _)
  unfold handleWrite
  split
  · exact hheaders _ { context := s }
  · exact .refl _

theorem handleRecordCurrentTime_enacts (s : OContext V σ App C config) : Enacts s s.handleRecordCurrentTime.1 :=
  Enacts.fields s _ _ _ _ _

theorem handleRestart_enacts (s : OContext V σ App C config) (objects : List UInt8) (warm : Bool) (body : σ) :
    Enacts s (s.handleRestart P objects warm body).1 := by
  unfold handleRestart
  split
  · exact .refl _
  · split
    · exact .refl _
    · exact Enacts.fields s _ _ _ _ _

theorem handleAssignClass_enacts (s : OContext V σ App C config) (objects : List UInt8) :
    Enacts s (s.handleAssignClass P objects).1 := by
  unfold handleAssignClass
  split
  · exact Enacts.fields s _ _ _ _ _
  · exact .refl _

theorem handleDisableUnsolicited_enacts (s : OContext V σ App C config) (objects : List UInt8) :
    Enacts s (s.handleDisableUnsolicited P objects).1 := by
  unfold handleDisableUnsolicited
  split
  · exact Enacts.fields s _ _ _ _ _
  · exact .refl _

theorem handleEnableUnsolicited_enacts (s : OContext V σ App C config) (objects : List UInt8) :
    Enacts s (s.handleEnableUnsolicited P objects).1 := by
  unfold handleEnableUnsolicited
  split
  · exact Enacts.fields s _ _ _ _ _
  · exact .refl _

theorem handleFreeze_enacts (s : OContext V σ App C config) (clear : Bool) (objects : List UInt8) :
    Enacts s (s.handleFreeze P clear objects).1 :=
  ⟨(P.freeze clear objects s.app).1, s.staticIIN, s.time, s.unsolClassMask, s.shouldCheckForUnsolicited,
    (P.freeze clear objects s.app).2.1, [], by simp [handleFreeze], by simp⟩

/-! ### Commands -/

/-- The calls of the command handler that a command with this status stands for. -/
def CommandAction.calls : CommandAction → C → UInt16 → CommandStatus → List (OutstationOutput σ C)
  | .select, command, index, status => [.select command index status]
  | .operate opType, command, index, status => [.operate command index opType status]
  | .constant _, _, _, _ => []

/-- The first commands, as many as `max`, have been gone through: `w` before, `w'` after. Only where all succeeded
the calls are known to be all; only commands that are operated bring events. -/
def CommandsDone (a : CommandAction) (w w' : CommandProgress V σ App C config) (commands : List (C × UInt16)) : Prop :=
  let served := commands.take (w.context.params.maxControlsPerRequest - w.numRequests)
  ∃ app updates outs, w'.context = { w.context with
      app, events := w.context.events.updateAll updates, log := w.context.log ++ outs } ∧
    (updates ≠ [] → ∃ opType, a = .operate opType) ∧
    w'.numRequests = w.numRequests + served.length ∧
    w'.numSuccess + w.numRequests ≤ w.numSuccess + w'.numRequests ∧
    (∀ o ∈ outs, ∃ command index status, (command, index) ∈ served ∧ o ∈ a.calls command index status) ∧
    (w'.numSuccess + w.numRequests = w.numSuccess + w'.numRequests →
      outs = served.flatMap fun c => a.calls c.1 c.2 .success)

theorem CommandsDone.nil (a : CommandAction) (w : CommandProgress V σ App C config) : CommandsDone a w w [] :=
  ⟨w.context.app, [], [], by simp [KeptBuffer.updateAll], by simp, by simp, le_rfl, by simp, by simp⟩

theorem CommandsDone.trans {a : CommandAction} {w w' w'' : CommandProgress V σ App C config}
    {commands commands' : List (C × UInt16)} (h : CommandsDone a w w' commands) (h' : CommandsDone a w' w'' commands') :
    CommandsDone a w w'' (commands ++ commands') := by
  obtain ⟨app, updates, outs, hcontext, hupdates, hrequests, hle, houts, hall⟩ := h
  obtain ⟨app', updates', outs', hcontext', hupdates', hrequests', hle', houts', hall'⟩ := h'
  have hmax : w'.context.params.maxControlsPerRequest = w.context.params.maxControlsPerRequest := by rw [hcontext]
  have hserved : (commands ++ commands').take (w.context.params.maxControlsPerRequest - w.numRequests) =
      commands.take (w.context.params.maxControlsPerRequest - w.numRequests) ++
        commands'.take (w'.context.params.maxControlsPerRequest - w'.numRequests) := by
    rw [List.take_append, hmax, hrequests, List.length_take]
    congr 2
    omega
  refine ⟨app', updates ++ updates', outs ++ outs', ?_, ?_, ?_, by omega, ?_, ?_⟩
  · rw [hcontext', hcontext]
    simp [KeptBuffer.updateAll_append]
  · intro hne
    by_cases hnil : updates = []
    · exact hupdates' (by simpa [hnil] using hne)
    · exact hupdates hnil
  · rw [hserved, List.length_append]
    omega
  · intro o ho
    rw [hserved]
    rcases List.mem_append.1 ho with ho | ho
    · obtain ⟨command, index, status, hmem, hcall⟩ := houts o ho
      exact ⟨command, index, status, List.mem_append_left _ hmem, hcall⟩
    · obtain ⟨command, index, status, hmem, hcall⟩ := houts' o ho
      exact ⟨command, index, status, List.mem_append_right _ hmem, hcall⟩
  · intro heq
    rw [hserved, List.flatMap_append, hall (by omega), hall' (by omega)]

/-- What comes of one command. -/
def ActionDone (a : CommandAction) (s : OContext V σ App C config) (command : C) (index : UInt16)
    (r : OContext V σ App C config × CommandStatus) : Prop :=
  ∃ app updates outs, r.1 = { s with app, events := s.events.updateAll updates, log := s.log ++ outs } ∧
    (updates ≠ [] → ∃ opType, a = .operate opType) ∧ (∀ o ∈ outs, o ∈ a.calls command index r.2) ∧
    (r.2 = .success → outs = a.calls command index .success)

theorem ActionDone.nothing {a : CommandAction} {command : C} {index : UInt16} {status : CommandStatus}
    (h : status = .success → a.calls (σ := σ) command index .success = []) :
    ActionDone a s command index (s, status) :=
  ⟨s.app, [], [], by simp [KeptBuffer.updateAll], by simp, by simp, fun hstatus => (h hstatus).symm⟩

theorem ActionDone.call {a : CommandAction} {command : C} {index : UInt16} {status : CommandStatus} (app : App)
    (updates : List (EventType × Event V Nat)) (hupdates : updates ≠ [] → ∃ opType, a = .operate opType)
    {o : OutstationOutput σ C} (h : a.calls command index status = [o]) :
    ActionDone a s command index ({ s with app, events := s.events.updateAll updates }.emit o, status) :=
  ⟨app, updates, [o], rfl, hupdates, by simp [h], fun (hstatus : status = .success) => by rw [← h, hstatus]⟩

theorem action_done (a : CommandAction) (s : OContext V σ App C config) (command : C) (index : UInt16) :
    ActionDone a s command index (action P a s command index) := by
  unfold action
  split
  · exact .nothing fun _ => rfl
  · split
    · exact .nothing (by simp)
    · exact .call _ [] (by simp) rfl
  next opType =>
    split
    · exact .nothing (by simp)
    · exact .call _ _ (fun _ => ⟨opType, rfl⟩) rfl

theorem processCommand_done (a : CommandAction) (w : CommandProgress V σ App C config) (command : C) (index : UInt16) :
    CommandsDone a w (processCommand P a w command index).1 [(command, index)] := by
  obtain ⟨app, updates, outs, hcontext, hupdates, houts, hall⟩ := action_done (P := P) a w.context command index
  unfold processCommand
  split
  next hlt =>
    obtain ⟨n, hn⟩ : ∃ n, w.context.params.maxControlsPerRequest - w.numRequests = n + 1 :=
      ⟨w.context.params.maxControlsPerRequest - w.numRequests - 1, by omega⟩
    refine ⟨app, updates, outs, hcontext, hupdates, by simp [hn], ?_, ?_, ?_⟩
    · dsimp only
      split <;> omega
    · intro o ho
      exact ⟨command, index, _, by simp [hn], houts o ho⟩
    · dsimp only
      split
      next hsuccess => intro; simp [hn, hall hsuccess]
      next => intro heq; omega
  next hge =>
    have hzero : w.context.params.maxControlsPerRequest - w.numRequests = 0 := by omega
    exact ⟨w.context.app, [], [], by simp [KeptBuffer.updateAll], by simp, by simp [hzero], le_rfl, by simp,
      by simp [hzero]⟩

theorem processCommandList_done (a : CommandAction) (commands : List (C × UInt16))
    (w : CommandProgress V σ App C config) : CommandsDone a w (processCommandList P a w commands).1 commands := by
  induction commands generalizing w with
  | nil => exact .nil a w
  | cons c commands ih => exact (processCommand_done a w c.1 c.2).trans (ih _)

theorem processCommandHeaders_done (a : CommandAction) (headers : List (CommandHeader C))
    (w : CommandProgress V σ App C config) :
    CommandsDone a w (processHeaders (processCommandHeader P a) w headers).1 (headers.flatMap (·.commands)) := by
  induction headers generalizing w with
  | nil => exact .nil a w
  | cons header headers ih =>
    rw [processHeaders_cons, List.flatMap_cons]
    have hheader : CommandsDone a w (processCommandHeader P a w header).1 header.commands :=
      processCommandList_done a header.commands w
    exact hheader.trans (ih _)

end OContext

/-- The commands of a request, as many as are looked at. -/
def OutstationParts.commandsOf (P : OutstationParts V σ App C S) (max : Nat) (objects : List UInt8) :
    List (C × UInt16) :=
  match P.parseCommands objects with
  | .ok headers => (headers.flatMap (·.commands)).take max
  | .error _ => []

namespace OContext

variable {P : OutstationParts V σ App C S} {s t u : OContext V σ App C config}

/-- **What the commands of a request do**: they are passed to the command handler, as far as they are looked at. -/
theorem processCommands_done (a : CommandAction) (s : OContext V σ App C config) {objects : List UInt8}
    {headers : List (CommandHeader C)} (h : P.parseCommands objects = .ok headers) (writer : Option σ) :
    ∃ app updates outs, (processCommands P a s headers writer).1 = { s with
        app, events := s.events.updateAll updates, log := s.log ++ outs } ∧
      (updates ≠ [] → ∃ opType, a = .operate opType) ∧
      (∀ o ∈ outs, ∃ command index status,
        (command, index) ∈ P.commandsOf s.params.maxControlsPerRequest objects ∧ o ∈ a.calls command index status) ∧
      ((processCommands P a s headers writer).2.2.2 = true →
        outs = (P.commandsOf s.params.maxControlsPerRequest objects).flatMap fun c => a.calls c.1 c.2 .success) := by
  have hof : P.commandsOf s.params.maxControlsPerRequest objects =
      (headers.flatMap (·.commands)).take s.params.maxControlsPerRequest := by rw [OutstationParts.commandsOf, h]
  obtain ⟨app, updates, outs, hcontext, hupdates, -, -, houts, hall⟩ :=
    processCommandHeaders_done (P := P) a headers { context := s, writer }
  refine ⟨app, updates, outs, hcontext, hupdates, ?_, fun hsuccess => ?_⟩
  · rw [hof]
    exact houts
  · rw [hof]
    refine hall ?_
    simp only [processCommands, beq_iff_eq] at hsuccess
    rw [← hsuccess]
    exact Nat.add_comm _ _

/-- Commands that are operated without a selection. -/
theorem handleDirectOperate_done (s : OContext V σ App C config) (objects : List UInt8) (opType : OperateType)
    (writer : Option σ) : ∃ app updates should outs, (s.handleDirectOperate P objects opType writer).1 = { s with
        app, events := s.events.updateAll updates, shouldCheckForUnsolicited := should, log := s.log ++ outs } ∧
      ∀ o ∈ outs, ∃ command index status,
        (command, index) ∈ P.commandsOf s.params.maxControlsPerRequest objects ∧
          o = .operate command index opType status := by
  unfold handleDirectOperate
  split
  · exact ⟨s.app, [], s.shouldCheckForUnsolicited, [], by simp [KeptBuffer.updateAll], by simp⟩
  · split
    next headers hparse =>
      obtain ⟨app, updates, outs, hcontext, -, houts, -⟩ := processCommands_done (.operate opType) s hparse writer
      refine ⟨app, updates, true, outs, by simp only [hcontext], fun o ho => ?_⟩
      obtain ⟨command, index, status, hmem, hcall⟩ := houts o ho
      exact ⟨command, index, status, hmem, List.mem_singleton.1 hcall⟩
    · exact ⟨s.app, [], true, [], by simp [KeptBuffer.updateAll], by simp⟩

theorem handleDirectOperate_enacts (s : OContext V σ App C config) (objects : List UInt8) (writer : Option σ) :
    Enacts s (s.handleDirectOperate P objects .directOperateNoAck writer).1 := by
  obtain ⟨app, updates, should, outs, heq, houts⟩ :=
    handleDirectOperate_done (P := P) s objects .directOperateNoAck writer
  refine ⟨app, s.staticIIN, s.time, s.unsolClassMask, should, updates, outs, heq, fun o ho => ?_⟩
  obtain ⟨_, _, _, -, rfl⟩ := houts o ho
  rfl

theorem processBroadcastRequest_enacts (s : OContext V σ App C config) (r : ParsedRequest) :
    Enacts s (s.processBroadcastRequest P r) := by
  fun_cases processBroadcastRequest P s r
  case case1 => exact handleWrite_enacts s _
  case case2 => exact handleDirectOperate_enacts s _ _
  case case3 => exact handleFreeze_enacts s _ _
  case case4 => exact handleFreeze_enacts s _ _
  case case5 => exact handleAssignClass_enacts s _
  case case7 => exact handleRecordCurrentTime_enacts s
  case case9 => exact handleDisableUnsolicited_enacts s _
  case case11 => exact handleEnableUnsolicited_enacts s _
  all_goals exact .refl _

theorem processRequestNoAck_enacts (s : OContext V σ App C config) (r : ParsedRequest) :
    Enacts s (s.processRequestNoAck P r) := by
  fun_cases processRequestNoAck P s r
  case case1 => exact handleDirectOperate_enacts s _ _
  case case2 => exact handleFreeze_enacts s _ _
  case case3 => exact handleFreeze_enacts s _ _
  case case4 => exact .refl _

/-! ## What is done with a request -/

/-- **What `handleNonReadResponse` does with a request**: a SELECT calls the handler's select and may leave a
selection; an OPERATE operates what is selected or forgets the selection; a DIRECT_OPERATE operates; everything else
enacts. -/
inductive Acts (P : OutstationParts V σ App C S) (header : APDUHeader) (objects : List UInt8)
    (s : OContext V σ App C config) : OContext V σ App C config → Prop
  | enact {t : OContext V σ App C config} (h : Enacts s t) : Acts P header objects s t
  | select (app : App) (outs : List (OutstationOutput σ C)) (hfunction : header.function = .select)
      (houts : ∀ o ∈ outs, ∃ command index status,
        (command, index) ∈ P.commandsOf s.params.maxControlsPerRequest objects ∧ o = .select command index status) :
      Acts P header objects s { s with app, log := s.log ++ outs }
  | selected (app : App) (outs : List (OutstationOutput σ C)) (hfunction : header.function = .select)
      (houts : outs = (P.commandsOf s.params.maxControlsPerRequest objects).map fun c => .select c.1 c.2 .success) :
      Acts P header objects s
        { s with app, log := s.log ++ outs, control := some (.ofSelect s.solNum s.now objects) }
  | operate (app : App) (updates : List (EventType × Event V Nat)) (outs : List (OutstationOutput σ C))
      (hfunction : header.function = .operate)
      (hvalid : validateSelection s.control s.solNum s.now s.params.selectTimeout objects = .success)
      (houts : ∀ o ∈ outs, ∃ command index status,
        (command, index) ∈ P.commandsOf s.params.maxControlsPerRequest objects ∧
          o = .operate command index .selectBeforeOperate status) :
      Acts P header objects s { s with
        app, events := s.events.updateAll updates, log := s.log ++ outs, shouldCheckForUnsolicited := true }
  | refuse (app : App) (hfunction : header.function = .operate) : Acts P header objects s { s with app, control := none }
  | direct (app : App) (updates : List (EventType × Event V Nat)) (should : Bool) (outs : List (OutstationOutput σ C))
      (hfunction : header.function = .directOperate)
      (houts : ∀ o ∈ outs, ∃ command index status,
        (command, index) ∈ P.commandsOf s.params.maxControlsPerRequest objects ∧
          o = .operate command index .directOperate status) :
      Acts P header objects s { s with
        app, events := s.events.updateAll updates, shouldCheckForUnsolicited := should, log := s.log ++ outs }

/-- A call of the command handler for a command of the request, of the kind its function stands for. -/
def Serves (P : OutstationParts V σ App C S) (max : Nat) (header : APDUHeader) (objects : List UInt8) :
    OutstationOutput σ C → Prop
  | .select command index _ => header.function = .select ∧ (command, index) ∈ P.commandsOf max objects
  | .operate command index .selectBeforeOperate _ =>
    header.function = .operate ∧ (command, index) ∈ P.commandsOf max objects
  | .operate command index .directOperate _ =>
    header.function = .directOperate ∧ (command, index) ∈ P.commandsOf max objects
  | .operate _ _ .directOperateNoAck _ => True
  | _ => False

theorem Serves.isCommand {max : Nat} {header : APDUHeader} {objects : List UInt8} {o : OutstationOutput σ C}
    (h : Serves P max header objects o) : o.isCommand := by
  cases o <;> trivial

/-- What none of them touches. -/
theorem Acts.frame {header : APDUHeader} {objects : List UInt8} (h : Acts P header objects s u) :
    ∃ app staticIIN time unsolClassMask shouldCheckForUnsolicited control updates outs,
      u = { s with
        app, staticIIN, time, unsolClassMask, shouldCheckForUnsolicited, control
        events := s.events.updateAll updates
        log := s.log ++ outs } ∧
      ∀ o ∈ outs, Serves P s.params.maxControlsPerRequest header objects o := by
  cases h with
  | enact h =>
    obtain ⟨app, staticIIN, time, mask, should, updates, outs, rfl, houts⟩ := h
    refine ⟨app, staticIIN, time, mask, should, s.control, updates, outs, rfl, fun o ho => ?_⟩
    have hunanswered := houts o ho
    cases o with
    | operate command index opType status =>
      obtain rfl : opType = .directOperateNoAck := hunanswered
      trivial
    | _ => exact hunanswered.elim
  | select app outs hfunction houts =>
    refine ⟨app, s.staticIIN, s.time, s.unsolClassMask, s.shouldCheckForUnsolicited, s.control, [], outs, rfl, ?_⟩
    intro o ho
    obtain ⟨_, _, _, hmem, rfl⟩ := houts o ho
    exact ⟨hfunction, hmem⟩
  | selected app outs hfunction houts =>
    refine ⟨app, s.staticIIN, s.time, s.unsolClassMask, s.shouldCheckForUnsolicited, _, [], outs, rfl, ?_⟩
    intro o ho
    rw [houts] at ho
    obtain ⟨_, hmem, rfl⟩ := List.mem_map.1 ho
    exact ⟨hfunction, hmem⟩
  | operate app updates outs hfunction hvalid houts =>
    refine ⟨app, s.staticIIN, s.time, s.unsolClassMask, true, s.control, updates, outs, rfl, ?_⟩
    intro o ho
    obtain ⟨_, _, _, hmem, rfl⟩ := houts o ho
    exact ⟨hfunction, hmem⟩
  | refuse app hfunction =>
    exact ⟨app, s.staticIIN, s.time, s.unsolClassMask, s.shouldCheckForUnsolicited, none, [], [],
      by simp [KeptBuffer.updateAll], by simp⟩
  | direct app updates should outs hfunction houts =>
    refine ⟨app, s.staticIIN, s.time, s.unsolClassMask, should, s.control, updates, outs, rfl, ?_⟩
    intro o ho
    obtain ⟨_, _, _, hmem, rfl⟩ := houts o ho
    exact ⟨hfunction, hmem⟩

/-- Only commands that are operated bring events. -/
theorem updates_eq_nil {a : CommandAction} {updates : List (EventType × Event V Nat)}
    (hupdates : updates ≠ [] → ∃ opType, a = .operate opType) (ha : ∀ opType, a ≠ .operate opType) : updates = [] := by
  by_contra hne
  obtain ⟨opType, hop⟩ := hupdates hne
  exact ha opType hop

theorem handleSelect_acts (s : OContext V σ App C config) {header : APDUHeader} (hf : header.function = .select)
    (objects : List UInt8) (body : σ) : Acts P header objects s (s.handleSelect P objects body).1 := by
  unfold handleSelect
  split
  · exact .enact (.refl _)
  · split
    next headers hparse =>
      obtain ⟨app, updates, outs, hcontext, hupdates, houts, hall⟩ := processCommands_done .select s hparse (some body)
      obtain rfl := updates_eq_nil hupdates (by simp)
      dsimp only
      rw [hcontext]
      split
      next hsuccess =>
        exact .selected app outs hf (by simpa [CommandAction.calls, ← List.map_eq_flatMap] using hall hsuccess)
      next =>
        refine .select app outs hf fun o ho => ?_
        obtain ⟨command, index, status, hmem, hcall⟩ := houts o ho
        exact ⟨command, index, status, hmem, List.mem_singleton.1 hcall⟩
    · exact .enact (.refl _)

theorem handleCommandWithConstant_eq (s : OContext V σ App C config) (objects : List UInt8) (body : σ)
    (status : CommandStatus) : ∃ app, (s.handleCommandWithConstant P objects body status).1 = { s with app } := by
  unfold handleCommandWithConstant
  split
  next headers hparse =>
    obtain ⟨app, updates, outs, hcontext, hupdates, houts, -⟩ :=
      processCommands_done (.constant status) s hparse (some body)
    obtain rfl := updates_eq_nil hupdates (by simp)
    obtain rfl : outs = [] := List.eq_nil_iff_forall_not_mem.2 fun o ho => by
      obtain ⟨_, _, _, -, hcall⟩ := houts o ho
      exact List.not_mem_nil hcall
    exact ⟨app, by rw [hcontext, List.append_nil]; rfl⟩
  · exact ⟨s.app, rfl⟩

theorem handleOperate_acts (s : OContext V σ App C config) {header : APDUHeader} (hf : header.function = .operate)
    (objects : List UInt8) (body : σ) : Acts P header objects s (s.handleOperate P objects body).1 := by
  unfold handleOperate
  split
  · exact .enact (.refl _)
  · split
    next hvalid =>
      split
      next headers hparse =>
        obtain ⟨app, updates, outs, hcontext, -, houts, -⟩ :=
          processCommands_done (.operate .selectBeforeOperate) s hparse (some body)
        dsimp only
        rw [hcontext]
        refine .operate app updates outs hf hvalid fun o ho => ?_
        obtain ⟨command, index, status, hmem, hcall⟩ := houts o ho
        exact ⟨command, index, status, hmem, List.mem_singleton.1 hcall⟩
      · exact .enact (Enacts.fields s _ _ _ _ _)
    next =>
      obtain ⟨app, happ⟩ := handleCommandWithConstant_eq (P := P) { s with control := none } objects body _
      rw [happ]
      exact .refuse app hf

theorem handleDirectOperate_acts (s : OContext V σ App C config) {header : APDUHeader}
    (hf : header.function = .directOperate) (objects : List UInt8) (writer : Option σ) :
    Acts P header objects s (s.handleDirectOperate P objects .directOperate writer).1 := by
  obtain ⟨app, updates, should, outs, heq, houts⟩ := handleDirectOperate_done (P := P) s objects .directOperate writer
  rw [heq]
  exact .direct app updates should outs hf houts

theorem handleNonReadResponse_acts (s : OContext V σ App C config) (header : APDUHeader) (objects : List UInt8)
    (body : σ) : Acts P header objects s (s.handleNonReadResponse P header objects body).1 := by
  unfold handleNonReadResponse
  split
  next => exact .enact (handleWrite_enacts s objects)
  next hf => exact handleSelect_acts s hf objects body
  next hf => exact handleOperate_acts s hf objects body
  next hf => exact handleDirectOperate_acts s hf objects (some body)
  next => exact .enact (handleRestart_enacts s objects false body)
  next => exact .enact (handleRestart_enacts s objects true body)
  next => exact .enact (handleAssignClass_enacts s objects)
  next => exact .enact (.refl s)
  next =>
    split
    · exact .enact (handleRecordCurrentTime_enacts s)
    · exact .enact (.refl s)
  next =>
    split
    · exact .enact (handleDisableUnsolicited_enacts s objects)
    · exact .enact (.refl s)
  next =>
    split
    · exact .enact (handleEnableUnsolicited_enacts s objects)
    · exact .enact (.refl s)
  next => exact .enact (handleFreeze_enacts s false objects)
  next => exact .enact (handleFreeze_enacts s true objects)
  next => exact .enact (.refl s)

/-! ## Events that go into a response -/

/-- No event is marked as written, or no longer is. -/
def Marking (before after : KeptBuffer V config) : Prop :=
  ∀ l, Keeps config before.1 l →
    ∃ l', Keeps config after.1 l' ∧ Ledger.writtenOf l'.queue = Ledger.writtenOf l.queue

/-- Events were written into `body`, and they are the ones marked as written if none was before. -/
def Writing (P : OutstationParts V σ App C S) (before after : KeptBuffer V config) (body : σ) : Prop :=
  ∀ l, Keeps config before.1 l → Ledger.writtenOf l.queue = [] →
    ∃ l' out selected, Keeps config after.1 l' ∧
      (Ledger.origins (Ledger.writtenOf l'.queue)).Perm (Ledger.origins out) ∧
      Reported P.eventWriter P.start selected out body

theorem Marking.refl (b : KeptBuffer V config) : Marking b b := fun l hl => ⟨l, hl, rfl⟩

theorem Marking.trans {b b' b'' : KeptBuffer V config} (h : Marking b b') (h' : Marking b' b'') : Marking b b'' := by
  intro l hl
  obtain ⟨l', hl', hwritten⟩ := h l hl
  obtain ⟨l'', hl'', hwritten'⟩ := h' l' hl'
  exact ⟨l'', hl'', hwritten'.trans hwritten⟩

theorem Marking.writing {b b' b'' : KeptBuffer V config} {body : σ} (h : Marking b b') (h' : Writing P b' b'' body) :
    Writing P b b'' body := by
  intro l hl hnil
  obtain ⟨l', hl', hwritten⟩ := h l hl
  exact h' l' hl' (hwritten.trans hnil)

theorem writtenOf_select (l : Ledger V) (maximum : Nat) (selector : EventSelector) :
    Ledger.writtenOf (l.select maximum selector).queue = Ledger.writtenOf l.queue := by
  cases selector with
  | all t => exact Ledger.writtenOf_mark (by simp [EventQueue.isOfType]) fun _ => rfl
  | variation t v => exact Ledger.writtenOf_mark (by simp [EventQueue.isOfType]) fun _ => rfl
  | clazz ec => exact Ledger.writtenOf_mark (by simp +contextual [EventQueue.isOfClass]) fun _ => rfl

theorem selectMaxCount_marking (b : KeptBuffer V config) (gv : GroupVariation) (maximum : Nat) :
    Marking b (b.selectMaxCount gv maximum).1 := by
  intro l hl
  obtain ⟨l', hl', rfl | ⟨selector, rfl⟩⟩ := KeptBuffer.selectMaxCount_spec hl gv maximum
  · exact ⟨_, hl', rfl⟩
  · exact ⟨_, hl', writtenOf_select l maximum selector⟩

theorem selectAllByClass_marking (b : KeptBuffer V config) (clazz : ClassField) :
    Marking b (b.selectAllByClass clazz) := fun l hl =>
  ⟨_, KeptBuffer.selectAllByClass_spec hl clazz,
    Ledger.writtenOf_mark (by simp +contextual [EventQueue.isOfClass]) fun _ => rfl⟩

theorem isOverflown_marking (b : KeptBuffer V config) : Marking b b.isOverflown.1 := fun _ hl =>
  ⟨_, KeptBuffer.isOverflown_spec hl, rfl⟩

theorem load_writing (b : KeptBuffer V config) :
    Writing P b (b.load P.eventWriter P.start).1 (b.load P.eventWriter P.start).2.1 := by
  intro l hl hnil
  obtain ⟨out, hreported, -, hl'⟩ := KeptBuffer.load_spec hl P.eventWriter P.start
  refine ⟨_, out, _, hl', ?_, hreported⟩
  have hperm := Ledger.writtenOf_report out.length l.queue
  rw [← List.prefix_iff_eq_take.1 hreported.isPrefix, hnil] at hperm
  exact hperm

/-! ## Responses that go out -/

/-- A broadcast has asked for a confirmation. -/
def asksConfirm (s : OContext V σ App C config) : Bool := s.lastBroadcastMessageReceived == some .shallConfirm

/-- A broadcast that has not is forgotten with the first response. -/
def broadcastAfter (s : OContext V σ App C config) : Option LinkBroadcastAddress :=
  if s.asksConfirm then some .shallConfirm else none

/-- The control field with the confirmation that a broadcast has asked for. -/
def withConfirm (s : OContext V σ App C config) (control : AppControlField) : AppControlField :=
  { control with con := control.con || s.asksConfirm }

theorem checkForBroadcastConfirmation_eq (s : OContext V σ App C config) (r : Response σ) :
    ∃ iin, s.checkForBroadcastConfirmation r =
      ({ s with lastBroadcastMessageReceived := s.broadcastAfter }, { r with iin, control := s.withConfirm r.control }) := by
  unfold checkForBroadcastConfirmation
  split
  next hlast =>
    have hasks : s.asksConfirm = false := by rw [asksConfirm, hlast]; rfl
    have hafter : s.broadcastAfter = s.lastBroadcastMessageReceived := by rw [broadcastAfter, hasks, hlast]; rfl
    exact ⟨r.iin, by rw [hafter, withConfirm, hasks, Bool.or_false]⟩
  next hlast =>
    have hasks : s.asksConfirm = true := by rw [asksConfirm, hlast]; rfl
    have hafter : s.broadcastAfter = s.lastBroadcastMessageReceived := by rw [broadcastAfter, hasks, hlast]; rfl
    exact ⟨r.iin.or (.ofBit .broadcast), by rw [hafter, withConfirm, hasks, Bool.or_true]⟩
  next d hd hlast =>
    have hasks : s.asksConfirm = false := by
      rw [asksConfirm, hlast, beq_eq_false_iff_ne]
      exact fun h => hd (Option.some.inj h)
    have hafter : s.broadcastAfter = none := by rw [broadcastAfter, hasks]; rfl
    exact ⟨r.iin.or (.ofBit .broadcast), by rw [hafter, withConfirm, hasks, Bool.or_false]⟩

/-- A response goes out, and the session is in `state`. -/
def deliver (s : OContext V σ App C config) (destination : UInt16) (response : Response σ) (state : OutstationState) :
    OContext V σ App C config :=
  { s with
    events := s.events.isOverflown.1
    lastBroadcastMessageReceived := s.broadcastAfter
    solTx := some response
    solConfirmNum := response.control.seq
    isTransmitting := true
    confirmTimer := s.confirmTimer || response.control.con
    state
    log := s.log ++ [.transmit destination (some response)] }

theorem beginResponseTx_eq (s : OContext V σ App C config) (destination : UInt16) (control : AppControlField)
    (function : FunctionCode) (iin : IINField → IINField) (body : σ) :
    ∃ response : Response σ, response.control = s.withConfirm control ∧ response.body = body ∧
      (s.getResponseIIN P).1.beginResponseTx destination ⟨control, function, iin (s.getResponseIIN P).2, body⟩ =
        (s.deliver destination response s.state, Response.next response) := by
  obtain ⟨iin', heq⟩ := (s.getResponseIIN P).1.checkForBroadcastConfirmation_eq
    ⟨control, function, iin (s.getResponseIIN P).2, body⟩
  refine ⟨⟨s.withConfirm control, function, iin', body⟩, rfl, rfl, ?_⟩
  have hcontrol : (s.getResponseIIN P).1.withConfirm control = s.withConfirm control := rfl
  rw [beginResponseTx, heq]
  dsimp only
  rw [hcontrol]
  cases hcon : (s.withConfirm control).con <;>
    simp [deliver, Response.next, hcon, beginTx, emit, restartConfirmTimer, getResponseIIN, getDynamicIIN, broadcastAfter,
      asksConfirm]

/-- An unsolicited response goes out, and the session waits for its confirmation in `state`. -/
def announce (s : OContext V σ App C config) (response : Response σ) (state : OutstationState) :
    OContext V σ App C config :=
  { s with
    events := s.events.isOverflown.1
    lastBroadcastMessageReceived := s.broadcastAfter
    unsolTx := some response
    unsolConfirmNum := s.unsolNum
    unsolNum := nextAppSeq s.unsolNum
    isTransmitting := true
    confirmTimer := true
    state
    log := s.log ++ [.transmit s.addresses.destination (some response)] }

theorem sendUnsolicited_eq (s : OContext V σ App C config) (body : σ) (wait : OutstationState) :
    ∃ response : Response σ, response.control = ⟨true, true, true, true, s.unsolNum⟩ ∧ response.body = body ∧
      s.sendUnsolicited P body wait = s.announce response wait := by
  obtain ⟨iin, heq⟩ := checkForBroadcastConfirmation_eq
    { (s.getResponseIIN P).1.restartConfirmTimer with state := wait }
    (nullUnsolicited s.unsolNum (s.getResponseIIN P).2 body)
  refine ⟨⟨⟨true, true, true, true, s.unsolNum⟩, .unsolicitedResponse, iin, body⟩, rfl, rfl, ?_⟩
  have hsend : s.sendUnsolicited P body wait =
      { (s.getResponseIIN P).1.restartConfirmTimer with state := wait }.beginUnsolTx
        (nullUnsolicited s.unsolNum (s.getResponseIIN P).2 body) := rfl
  rw [hsend, beginUnsolTx, heq]
  simp [announce, beginTx, emit, restartConfirmTimer, getResponseIIN, getDynamicIIN, broadcastAfter, asksConfirm,
    withConfirm, nullUnsolicited]

/-! ## Answers -/

/-- A request has been taken for a new one and is remembered. -/
def recorded (s : OContext V σ App C config) (r : ParsedRequest) : OContext V σ App C config :=
  { s with
    solNum := r.header.control.seq
    history := some (.ofRequest r.header r.objects)
    log := s.log ++ [.newRequest r s.now] }

/-- The request is the one remembered, with the sequence number of the last new one. -/
def IsRepeat (s : OContext V σ App C config) (r : ParsedRequest) : Prop :=
  ∃ last, s.history = some last ∧ s.solNum = r.header.control.seq ∧ last.fullyEquals r.header r.objects = true

/-- A body made of written events and, where all of them were written, of static objects behind them. -/
def Behind (P : OutstationParts V σ App C S) (written body : σ) : Prop :=
  body = written ∨ ∃ app, body = (P.loadStatic written app).2.1

theorem loadResponse_eq (s : OContext V σ App C config) :
    ∃ app events written body control, s.loadResponse P P.start =
        ({ s with app, events, fragmentCount := s.fragmentCount + 1 }, body, control) ∧
      Writing P s.events events written ∧ Behind P written body ∧
      control.fir = (s.fragmentCount == 0) ∧ control.uns = false := by
  have hwriting := load_writing (P := P) s.events
  unfold loadResponse
  dsimp only
  split
  · exact ⟨_, _, _, _, _, rfl, hwriting, Or.inr ⟨s.app, rfl⟩, rfl, rfl⟩
  · exact ⟨s.app, _, _, _, _, rfl, hwriting, Or.inl rfl, rfl, rfl⟩

theorem processReadHeader_eq (s : OContext V σ App C config) (header : ReadHeader S) :
    ∃ app events, (processReadHeader P s header).1 = { s with app, events } ∧ Marking s.events events := by
  cases header with
  | toStatic header => exact ⟨(P.selectStatic header s.app).1, s.events, rfl, .refl _⟩
  | allEvents gv => exact ⟨s.app, (s.events.selectAll gv).1, rfl, selectMaxCount_marking _ _ _⟩
  | countOfEvents gv count => exact ⟨s.app, (s.events.selectCount gv count).1, rfl, selectMaxCount_marking _ _ _⟩
  | other => exact ⟨s.app, s.events, rfl, .refl _⟩

theorem processReadHeaders_eq (headers : List (ReadHeader S)) (s : OContext V σ App C config) :
    ∃ app events, (processHeaders (processReadHeader P) s headers).1 = { s with app, events } ∧
      Marking s.events events := by
  induction headers generalizing s with
  | nil => exact ⟨s.app, s.events, rfl, .refl _⟩
  | cons header headers ih =>
    obtain ⟨app, events, heq, hmarking⟩ := processReadHeader_eq (P := P) s header
    obtain ⟨app', events', heq', hmarking'⟩ := ih { s with app, events }
    exact ⟨app', events', by rw [processHeaders_cons, heq, heq'], hmarking.trans hmarking'⟩

/-- What a READ loads, in the first fragment of its response. -/
structure FirstFragment (P : OutstationParts V σ App C S) (before after : KeptBuffer V config) (body : σ)
    (control : AppControlField) : Prop where
  fir : control.fir = true
  uns : control.uns = false
  writing : control.con = true → ∃ written, Writing P before.unselect after written ∧ Behind P written body

theorem handleRead_eq (s : OContext V σ App C config) (objects : List UInt8) :
    ∃ app events fragmentCount body iin control, s.handleRead P objects P.start =
        ({ s with app, events, fragmentCount }, body, iin, control) ∧
      FirstFragment P s.events events body control := by
  unfold handleRead
  dsimp only
  split
  next headers hparse =>
    obtain ⟨app, events, heq, hmarking⟩ := processReadHeaders_eq (P := P) headers
      { s with fragmentCount := 0, events := s.events.unselect, app := P.unselectStatic s.app }
    obtain ⟨app', events', written, body, control, hload, hwriting, hbehind, hfir, huns⟩ :=
      loadResponse_eq (P := P) { s with fragmentCount := 0, app, events }
    rw [heq, hload]
    exact ⟨app', events', 0 + 1, body, _, control, rfl, hfir, huns,
      fun _ => ⟨written, hmarking.writing hwriting, hbehind⟩⟩
  next => exact ⟨P.unselectStatic s.app, s.events.unselect, 0, P.start, _, {}, rfl, rfl, rfl, by simp⟩

/-! ## Moves -/

/-- **What the session does in one move.** `B`: the broadcast addresses in use. -/
inductive Move (P : OutstationParts V σ App C S) (B : LinkBroadcastAddress → Prop) :
    OContext V σ App C config → OContext V σ App C config → Prop
  | clock (s : OContext V σ App C config) (now : Nat) : Move P B s { s with now }
  | online (s : OContext V σ App C config) :
      Move P B s { s with isOnline := true, shouldCheckForUnsolicited := true }
  | offline (s : OContext V σ App C config) (h : s.isOnline = true) : Move P B s s.onLowerLayerDown
  | sent (s : OContext V σ App C config) : Move P B s { s with isTransmitting := false, log := s.log ++ [.ready] }
  | broadcast (s : OContext V σ App C config) (last : Option LinkBroadcastAddress) (h : ∀ d, last = some d → B d) :
      Move P B s { s with lastBroadcastMessageReceived := last }
  | leaveWait (s : OContext V σ App C config) : Move P B s { s with state := .idle }
  | defer (s : OContext V σ App C config) (deferred : Option ParsedRequest) : Move P B s { s with deferred }
  | enact {s t : OContext V σ App C config} (h : Enacts s t) : Move P B s t
  | answer {s u : OContext V σ App C config} {r : ParsedRequest} {timer : Bool} {deferred : Option ParsedRequest}
      {response : Response σ} {state : OutstationState} (hfunction : r.header.function ≠ .read) (hnew : ¬s.IsRepeat r)
      (htransmitting : s.isTransmitting = false)
      (hacts : Acts P r.header r.objects { s.recorded r with confirmTimer := timer, deferred } u)
      (hcontrol : response.control = u.withConfirm { seq := r.header.control.seq })
      (hstate : state = response.next ∨ timer = s.confirmTimer ∧ state = s.state ∧ s.state ≠ .solicitedConfirmWait) :
      Move P B s (u.deliver r.addresses.source response state)
  | read {s : OContext V σ App C config} {r : ParsedRequest} {timer : Bool} {app : App} {events : KeptBuffer V config}
      {fragmentCount : UInt16} {control : AppControlField} {response : Response σ} (hfunction : r.header.function = .read)
      (htransmitting : s.isTransmitting = false)
      (hcontrol : response.control = s.withConfirm { control with seq := r.header.control.seq })
      (hfirst : FirstFragment P s.events events response.body control) :
      Move P B s ({ s.recorded r with confirmTimer := timer, app, events, fragmentCount }.deliver r.addresses.source
        response response.next)
  | deferRead (s : OContext V σ App C config) (r : ParsedRequest) (deferred : Option ParsedRequest)
      (hfunction : r.header.function = .read) :
      Move P B s { s with solNum := r.header.control.seq, deferred, log := s.log ++ [.newRequest r s.now] }
  | retransmit {s : OContext V σ App C config} {r : ParsedRequest} {timer : Bool} (hrepeat : s.IsRepeat r)
      (htransmitting : s.isTransmitting = false)
      (htimer : timer = s.confirmTimer ∨ timer = true ∨
        s.state = .solicitedConfirmWait ∧ r.header.function ≠ .read) :
      Move P B s { s with
        isTransmitting := true
        confirmTimer := timer
        log := s.log ++ [.repeated r, .transmit r.addresses.source s.solTx] }
  | repeatDeferred (s : OContext V σ App C config) (r : ParsedRequest) (deferred : Option ParsedRequest) :
      Move P B s { s with deferred, log := s.log ++ [.repeated r] }
  | confirm {s : OContext V σ App C config} (app : App) (hstate : s.state = .solicitedConfirmWait) :
      Move P B s { s with
        history := none, confirmTimer := false, lastBroadcastMessageReceived := none
        events := s.events.clearWritten
        app
        state := .idle
        log := s.log ++ [.confirmed false s.solConfirmNum] }
  | continued {s : OContext V σ App C config} {r : ParsedRequest} {app : App} {events : KeptBuffer V config} {written : σ}
      {fragmentCount : UInt16} {response : Response σ} (hstate : s.state = .solicitedConfirmWait)
      (htransmitting : s.isTransmitting = false)
      (hseq : response.control.seq = nextAppSeq s.solConfirmNum) (huns : response.control.uns = false)
      (hwriting : Writing P s.events.clearWritten events written)
      (hbehind : Behind P written response.body) :
      Move P B s ({ s with
        history := none, confirmTimer := false, lastBroadcastMessageReceived := none
        events, app, fragmentCount
        log := s.log ++ [OutstationOutput.confirmed false s.solConfirmNum] }.deliver r.addresses.source response
        response.next)
  | confirmUnsolicited {s : OContext V σ App C config} (app : App)
      (hstate : s.state = .unsolicitedConfirmWait ∨ s.state = .nullUnsolicitedConfirmWait) :
      Move P B s { s with
        history := none, confirmTimer := false, lastBroadcastMessageReceived := none
        events := if s.completedNull then s.events.clearWritten else s.events
        completedNull := true
        app
        shouldCheckForUnsolicited := true
        state := .idle
        log := s.log ++ [.confirmed true s.unsolConfirmNum] }
  | timeout (s : OContext V σ App C config) : Move P B s { s with confirmTimer := false, state := .idle }
  | retry (s : OContext V σ App C config) (unsolRetries : NumRetries) (hnull : s.completedNull = true)
      (hstate : s.state = .unsolicitedConfirmWait ∨ s.state = .nullUnsolicitedConfirmWait) :
      Move P B s { s with
        unsolRetries
        isTransmitting := true
        confirmTimer := true
        log := s.log ++ [.transmit s.addresses.destination s.unsolTx] }
  | giveUp (s : OContext V σ App C config) (unsolRetries : NumRetries) :
      Move P B s { s with unsolRetries, confirmTimer := false, events := s.events.unselect, state := .idle }
  | announceNull {s : OContext V σ App C config} {response : Response σ} {state : OutstationState}
      (htransmitting : s.isTransmitting = false) (hidle : s.state = .idle) (hallow : s.params.allowUnsolicited = true)
      (hnull : s.completedNull = false) (hcontrol : response.control = ⟨true, true, true, true, s.unsolNum⟩)
      (hbody : response.body = P.start) (hstate : state ≠ .solicitedConfirmWait) :
      Move P B s (s.announce response state)
  | report {s : OContext V σ App C config} {events : KeptBuffer V config} {response : Response σ}
      (unsolRetries : NumRetries) (shouldCheckForUnsolicited : Bool) (htransmitting : s.isTransmitting = false)
      (hidle : s.state = .idle) (hallow : s.params.allowUnsolicited = true) (hnull : s.completedNull = true)
      (hcontrol : response.control = ⟨true, true, true, true, s.unsolNum⟩)
      (hwriting : Writing P s.events.unselect events response.body) :
      Move P B s ({ s with unsolRetries, events, shouldCheckForUnsolicited }.announce response .unsolicitedConfirmWait)

abbrev Moves (P : OutstationParts V σ App C S) (B : LinkBroadcastAddress → Prop) :
    OContext V σ App C config → OContext V σ App C config → Prop := Relation.ReflTransGen (Move P B)

variable {B : LinkBroadcastAddress → Prop} {r : ParsedRequest}

theorem respondToNonReadRequest_eq (s : OContext V σ App C config) (r : ParsedRequest) :
    ∃ u response, Acts P r.header r.objects { s with history := some (.ofRequest r.header r.objects) } u ∧
      response.control = u.withConfirm { seq := r.header.control.seq } ∧
      s.respondToNonReadRequest P r = (u.deliver r.addresses.source response u.state, response.next) := by
  have hacts := handleNonReadResponse_acts (P := P) { s with history := some (.ofRequest r.header r.objects) } r.header
    r.objects P.start
  obtain ⟨response, hcontrol, -, heq⟩ := beginResponseTx_eq (P := P) _ r.addresses.source
    { seq := r.header.control.seq } .response (IINField.or _) _
  exact ⟨_, response, hacts, hcontrol, heq⟩

theorem respondToReadRequest_eq (s : OContext V σ App C config) (r : ParsedRequest) :
    ∃ app events fragmentCount control response, FirstFragment P s.events events response.body control ∧
      response.control = s.withConfirm { control with seq := r.header.control.seq } ∧
      s.respondToReadRequest P r =
        ({ s with history := some (.ofRequest r.header r.objects), app, events, fragmentCount }.deliver r.addresses.source
          response s.state, response.next) := by
  obtain ⟨app, events, fragmentCount, body, iin, control, hread, hfirst⟩ :=
    handleRead_eq (P := P) { s with history := some (.ofRequest r.header r.objects) } r.objects
  obtain ⟨response, hcontrol, hbody, heq⟩ := beginResponseTx_eq (P := P)
    { s with history := some (.ofRequest r.header r.objects), app, events, fragmentCount } r.addresses.source
    { control with seq := r.header.control.seq } .response (IINField.or iin) body
  refine ⟨app, events, fragmentCount, control, response, hbody ▸ hfirst, hcontrol, ?_⟩
  unfold respondToReadRequest
  dsimp only
  rw [hread]
  exact heq

/-- A request taken for a new one. -/
theorem processNewRequest_move (htransmitting : s.isTransmitting = false) (hnew : ¬s.IsRepeat r) :
    Move P B s (enter (s.processNewRequest P r)) := by
  have hnonRead : ∀ (timer : Bool) (deferred : Option ParsedRequest) (keep : Bool), r.header.function ≠ .read →
      (keep = true → timer = s.confirmTimer ∧ s.state ≠ .solicitedConfirmWait) →
      Move P B s (enter (match
        respondToNonReadRequest P { s with
          solNum := r.header.control.seq, log := s.log ++ [.newRequest r s.now], confirmTimer := timer, deferred } r with
        | (t, next) => (t, if keep then s.state else next))) := by
    intro timer deferred keep hfunction hkeep
    obtain ⟨u, response, hacts, hcontrol, heq⟩ := respondToNonReadRequest_eq (P := P) { s with
      solNum := r.header.control.seq, log := s.log ++ [.newRequest r s.now], confirmTimer := timer, deferred } r
    rw [heq]
    refine .answer hfunction hnew htransmitting hacts hcontrol ?_
    cases keep with
    | false => exact Or.inl rfl
    | true => exact Or.inr ⟨(hkeep rfl).1, rfl, (hkeep rfl).2⟩
  have hread : ∀ (timer : Bool), r.header.function = .read →
      Move P B s (enter (respondToReadRequest P { s with
        solNum := r.header.control.seq, log := s.log ++ [.newRequest r s.now], confirmTimer := timer } r)) := by
    intro timer hfunction
    obtain ⟨app, events, fragmentCount, control, response, hfirst, hcontrol, heq⟩ :=
      respondToReadRequest_eq (P := P) { s with
        solNum := r.header.control.seq, log := s.log ++ [.newRequest r s.now], confirmTimer := timer } r
    rw [heq]
    exact .read hfunction htransmitting hcontrol hfirst
  unfold processNewRequest
  dsimp only
  split
  next hfunction =>
    unfold onNewReadRequest
    split
    next => exact hread s.confirmTimer hfunction
    next => exact hread false hfunction
    next => exact hread false hfunction
    next => exact .deferRead s r _ hfunction
  next hfunction =>
    unfold onNewNonReadRequest
    split
    next => exact hnonRead s.confirmTimer s.deferred false hfunction (by simp)
    next => exact hnonRead false s.deferred false hfunction (by simp)
    next hstate =>
      exact hnonRead s.confirmTimer none true hfunction fun _ => ⟨rfl, fun h => by simp [emit, h] at hstate⟩
    next hstate =>
      exact hnonRead s.confirmTimer none true hfunction fun _ => ⟨rfl, fun h => by simp [emit, h] at hstate⟩

/-- A request taken for the last one again. -/
theorem onRepeatRequest_move (htransmitting : s.isTransmitting = false) (hrepeat : s.IsRepeat r) :
    Move P B s (enter (if r.header.function = .read then (s.emit (.repeated r)).onRepeatReadRequest r
      else (s.emit (.repeated r)).onRepeatNonReadRequest r)) := by
  have hdefer : Move P B s (enter ((s.emit (.repeated r)).defer r, s.state)) := .repeatDeferred s r _
  have hsend : ∀ timer, (timer = s.confirmTimer ∨ timer = true ∨
        s.state = .solicitedConfirmWait ∧ r.header.function ≠ .read) →
      Move P B s (enter ({ s.emit (.repeated r) with confirmTimer := timer }.beginRetransmitLastResponse
        r.addresses.source, s.state)) := by
    intro timer htimer
    have hmove := Move.retransmit (P := P) (B := B) hrepeat htransmitting htimer
    simpa [enter, emit, beginRetransmitLastResponse, beginTx] using hmove
  split
  next hfunction =>
    unfold onRepeatReadRequest
    split
    next => exact hsend _ (Or.inl rfl)
    next => exact hsend true (Or.inr (Or.inl rfl))
    next => exact hdefer
    next => exact hdefer
  next hfunction =>
    unfold onRepeatNonReadRequest
    split
    next hstate => exact hsend false (Or.inr (Or.inr ⟨hstate, hfunction⟩))
    next => exact hsend _ (Or.inl rfl)

theorem onReceiveSolRequest_move (htransmitting : s.isTransmitting = false) :
    Move P B s (enter (s.onReceiveSolRequest P r)) := by
  unfold onReceiveSolRequest
  split
  next hhistory =>
    refine processNewRequest_move htransmitting ?_
    rintro ⟨last, hlast, -⟩
    rw [hhistory] at hlast
    cases hlast
  next last hhistory =>
    split
    next hsame =>
      rw [Bool.and_eq_true, beq_iff_eq] at hsame
      have hmove := onRepeatRequest_move (P := P) (B := B) htransmitting ⟨last, hhistory, hsame⟩
      split at hmove <;> rename_i hfunction
      · rw [if_pos hfunction]
        exact hmove
      · rw [if_neg hfunction]
        exact hmove
    next hdiffers =>
      refine processNewRequest_move htransmitting ?_
      rintro ⟨last', hlast, hseq, hequals⟩
      obtain rfl := Option.some.inj (hhistory.symm.trans hlast)
      rw [Bool.and_eq_true, beq_iff_eq] at hdiffers
      exact hdiffers ⟨hseq, hequals⟩

theorem processRequest_moves (htransmitting : s.isTransmitting = false) : Moves P B s (s.processRequest P r) := by
  unfold processRequest
  split
  · exact .refl
  · exact .single (onReceiveSolRequest_move htransmitting)

theorem continueMultiFragResponse_eq (s : OContext V σ App C config) (addresses : Addresses) (seq : UInt8) :
    ∃ app events written, ∃ control : AppControlField, ∃ response : Response σ,
      Writing P s.events events written ∧ Behind P written response.body ∧ control.uns = false ∧
      response.control = s.withConfirm { control with seq } ∧
      s.continueMultiFragResponse P addresses seq =
        ({ s with app, events, fragmentCount := s.fragmentCount + 1 }.deliver addresses.source response s.state,
          response.next) := by
  obtain ⟨app, events, written, body, control, hload, hwriting, hbehind, -, huns⟩ :=
    loadResponse_eq (P := P) s
  obtain ⟨response, hcontrol, hbody, heq⟩ := beginResponseTx_eq (P := P)
    { s with app, events, fragmentCount := s.fragmentCount + 1 } addresses.source { control with seq } .response
    (fun iin => iin) body
  refine ⟨app, events, written, control, response, hwriting, hbody ▸ hbehind, huns, hcontrol, ?_⟩
  unfold continueMultiFragResponse
  dsimp only
  rw [hload]
  exact heq

theorem confirmUnsolicited_move (hstate : s.state = .unsolicitedConfirmWait ∨ s.state = .nullUnsolicitedConfirmWait)
    (huns : r.header.control.uns = true) (hseq : s.unsolConfirmNum = r.header.control.seq)
    {t : OContext V σ App C config} (ht : t = (s.acceptConfirm r).informApplication P true) :
    Move P B s { (if t.completedNull then { t with events := t.events.clearWritten } else { t with completedNull := true })
      with shouldCheckForUnsolicited := true, state := .idle } := by
  have hmove := Move.confirmUnsolicited (P := P) (B := B) t.app hstate
  subst ht
  cases hnull : s.completedNull with
  | true => simpa [acceptConfirm, informApplication, emit, hnull, huns, hseq] using hmove
  | false => simpa [acceptConfirm, informApplication, emit, hnull, huns, hseq] using hmove

/-- A confirmation that is not the one waited for changes nothing. -/
theorem processConfirm_moves (htransmitting : s.isTransmitting = false) : Moves P B s (s.processConfirm P r) := by
  unfold processConfirm onConfirm
  dsimp only
  split
  next hstate =>
    rw [show enter (s, OutstationState.idle) = s by rw [← hstate]; rfl]
  next hstate =>
    split
    · exact .refl
    next hexpected =>
      rw [Bool.or_eq_true, not_or, Bool.not_eq_true, bne_iff_ne, ne_eq, not_not] at hexpected
      obtain ⟨huns, hseq⟩ := hexpected
      have haccept : s.acceptConfirm r = { s with
          history := none, confirmTimer := false, lastBroadcastMessageReceived := none
          log := s.log ++ [.confirmed false s.solConfirmNum] } := by rw [acceptConfirm, emit, huns, hseq]
      rw [haccept]
      split
      · obtain ⟨app, events, written, control, response, hwriting, hbehind, hunsol, hcontrol, heq⟩ :=
          continueMultiFragResponse_eq (P := P) (informApplication P { s with
            history := none, confirmTimer := false, lastBroadcastMessageReceived := none
            log := s.log ++ [.confirmed false s.solConfirmNum], events := s.events.clearWritten } false) r.addresses
            (nextAppSeq r.header.control.seq)
        rw [heq]
        have hplain : response.control = { control with seq := nextAppSeq s.solConfirmNum } := by
          rw [hcontrol, hseq]
          simp [withConfirm, asksConfirm, informApplication]
        exact .single (.continued hstate htransmitting (by rw [hplain]) (by rw [hplain, hunsol])
          hwriting hbehind)
      · exact .single (.confirm _ hstate)
  next hstate =>
    split
    · exact .refl
    next hexpected =>
      rw [Bool.or_eq_true, not_or, Bool.not_eq_true', Bool.not_eq_false, bne_iff_ne, ne_eq, not_not] at hexpected
      exact .single (confirmUnsolicited_move (Or.inl hstate) hexpected.1 hexpected.2 rfl)
  next hstate =>
    split
    · exact .refl
    next hexpected =>
      rw [Bool.or_eq_true, not_or, Bool.not_eq_true', Bool.not_eq_false, bne_iff_ne, ne_eq, not_not] at hexpected
      exact .single (confirmUnsolicited_move (Or.inr hstate) hexpected.1 hexpected.2 rfl)

/-! ## Steps -/

theorem isTransmitting_of_canTransmit (h : s.canTransmit = true) : s.isTransmitting = false := by
  rw [canTransmit, Bool.and_eq_true, Bool.not_eq_true'] at h
  exact h.2

theorem processDeferredRequest_moves (htransmitting : s.isTransmitting = false) :
    Moves P B s (s.processDeferredRequest P r).1 := by
  unfold processDeferredRequest
  split
  · exact processConfirm_moves htransmitting
  · split
    · split
      · exact processRequest_moves htransmitting
      · exact .refl
    · exact processRequest_moves htransmitting

theorem checkForDeferredRequest_moves (s : OContext V σ App C config) : Moves P B s (s.checkForDeferredRequest P) := by
  unfold checkForDeferredRequest
  split
  · exact .refl
  next r _ =>
    split
    next hcan =>
      have hmoves := processDeferredRequest_moves (P := P) (B := B) (r := r) (isTransmitting_of_canTransmit hcan)
      show Moves P B s (if (s.processDeferredRequest P r).2 = true then
        { (s.processDeferredRequest P r).1 with deferred := none } else (s.processDeferredRequest P r).1)
      split
      · exact hmoves.tail (.defer _ none)
      · exact hmoves
    · exact .refl

theorem checkForUnsolicitedNull_moves (s : OContext V σ App C config) :
    Moves P B s (s.checkForUnsolicitedNull P) := by
  unfold checkForUnsolicitedNull
  split
  next hcheck =>
    simp only [Bool.and_eq_true, beq_iff_eq, Bool.not_eq_true'] at hcheck
    obtain ⟨⟨⟨hcan, hidle⟩, hallow⟩, hnull⟩ := hcheck
    obtain ⟨response, hcontrol, hbody, heq⟩ := sendUnsolicited_eq (P := P) s P.start
      (if s.params.noDefferedReadDuringUnsolicitedNullResponse then .nullUnsolicitedConfirmWait
        else .unsolicitedConfirmWait)
    rw [heq]
    refine .single (.announceNull (isTransmitting_of_canTransmit hcan) hidle hallow hnull hcontrol hbody ?_)
    split <;> simp
  · exact .refl

theorem checkForUnsolicited_moves (s : OContext V σ App C config) : Moves P B s (s.checkForUnsolicited P) := by
  unfold checkForUnsolicited
  split
  next hcheck =>
    simp only [Bool.and_eq_true, beq_iff_eq] at hcheck
    obtain ⟨⟨⟨-, hcan⟩, hidle⟩, hallow⟩ := hcheck
    dsimp only
    split
    next hevents =>
      rw [Bool.and_eq_true] at hevents
      have hmarking := selectAllByClass_marking s.events.unselect s.unsolClassMask
      obtain ⟨response, hcontrol, hbody, heq⟩ := sendUnsolicited_eq (P := P)
        { s with
          shouldCheckForUnsolicited := false
          unsolRetries := s.unsolRetries.reset
          events := ((s.events.unselect.selectAllByClass s.unsolClassMask).load P.eventWriter P.start).1 }
        ((s.events.unselect.selectAllByClass s.unsolClassMask).load P.eventWriter P.start).2.1 .unsolicitedConfirmWait
      rw [heq]
      refine .single (.report _ _ (isTransmitting_of_canTransmit hcan) hidle hallow hevents.1 hcontrol ?_)
      rw [hbody]
      exact hmarking.writing (load_writing _)
    · exact .single (.enact (Enacts.fields s s.app s.staticIIN s.time s.unsolClassMask false))
  · exact .refl

theorem checkForTaskStart_moves (s : OContext V σ App C config) : Moves P B s (s.checkForTaskStart P) :=
  ((checkForDeferredRequest_moves s).trans (checkForUnsolicitedNull_moves _)).trans (checkForUnsolicited_moves _)

theorem processObjects_moves (s : OContext V σ App C config) (r : ParsedRequest) :
    Moves P B s (s.processObjects P r) := by
  unfold processObjects
  split
  · exact (Relation.ReflTransGen.single (.enact (processBroadcastRequest_enacts s r))).tail (.leaveWait _)
  · split
    · exact .single (.enact (processRequestNoAck_enacts s r))
    · split
      · exact .single (.defer s _)
      next htransmitting =>
        rw [Bool.not_eq_true] at htransmitting
        split
        · exact processConfirm_moves htransmitting
        · exact processRequest_moves htransmitting

/-- Broadcasts come to addresses in `B` only. -/
def Broadcasts (B : LinkBroadcastAddress → Prop) (message : Message) : Prop :=
  ∀ d, LinkBroadcastAddress.ofAddress message.addresses.destination = some d → B d

theorem processMessage_moves (s : OContext V σ App C config) {message : Message} (h : Broadcasts B message) :
    Moves P B s (s.processMessage P message) := by
  have hbroadcast : Moves P B s (if message.addresses.isBroadcast then
      s.updateLastBroadcastMessageReceived message.addresses.destination else s) := by
    split
    · exact .single (.broadcast s _ h)
    · exact .refl
  unfold processMessage
  split
  · exact .refl
  · split
    · exact .refl
    · dsimp only
      split
      · exact hbroadcast
      · split
        · exact hbroadcast
        · exact hbroadcast.trans (processObjects_moves _ _)

theorem onConfirmTimeout_move (s : OContext V σ App C config) :
    Move P B s (enter { s with confirmTimer := false }.onConfirmTimeout) := by
  unfold onConfirmTimeout
  dsimp only
  split
  next => exact .timeout s
  next => exact .timeout s
  all_goals
    next hstate =>
      split
      next hnull =>
        split
        · exact .retry s _ hnull (by simp [hstate])
        · exact .giveUp s _
      · exact .timeout s

theorem onTimer_moves (s : OContext V σ App C config) : Moves P B s (s.onTimer P) := by
  unfold onTimer
  split
  · exact Relation.ReflTransGen.trans (.single (onConfirmTimeout_move s)) (checkForTaskStart_moves _)
  · exact .refl

end OContext

/-- The broadcasts of an input. -/
def OutstationInput.Broadcasts (B : LinkBroadcastAddress → Prop) : OutstationInput V App → Prop
  | .receive message => OContext.Broadcasts B message
  | _ => True

theorem OutstationInput.broadcasts_any (input : OutstationInput V App) : input.Broadcasts fun _ => True := by
  cases input <;> first | trivial | exact fun _ _ => trivial

namespace OContext

variable {P : OutstationParts V σ App C S} {B : LinkBroadcastAddress → Prop}

/-- **A step is a sequence of moves.** -/
theorem step_moves (s : OContext V σ App C config) (now : Nat) {input : OutstationInput V App}
    (h : input.Broadcasts B) : Moves P B s (s.step P now input) := by
  refine Relation.ReflTransGen.trans (.single (.clock s now)) ?_
  cases input with
  | lowerLayerUp =>
    rw [step, onLowerLayerUp]
    split
    · exact .refl
    · exact Relation.ReflTransGen.trans (.single (.online _)) (checkForTaskStart_moves _)
  | lowerLayerDown =>
    rw [step]
    by_cases honline : s.isOnline = true
    · exact .single (.offline _ honline)
    · rw [onLowerLayerDown, if_neg honline]
  | txReady =>
    rw [step, onTxReady]
    split
    · exact Relation.ReflTransGen.trans (.single (.sent _)) (checkForTaskStart_moves _)
    · exact .refl
  | receive message =>
    rw [step, onReceive]
    split
    · exact (processMessage_moves _ h).trans (checkForTaskStart_moves _)
    · exact .refl
  | confirmTimer => exact onTimer_moves _
  | apply database updates =>
    have henact : Enacts { s with now } { s with
        now, app := database s.app, events := s.events.updateAll updates, shouldCheckForUnsolicited := true } :=
      ⟨database s.app, s.staticIIN, s.time, s.unsolClassMask, true, updates, [], by simp, by simp⟩
    exact Relation.ReflTransGen.trans (.single (.enact henact)) (checkForTaskStart_moves _)
  | setRestartIIN => exact .single (.enact (Enacts.fields _ s.app _ s.time s.unsolClassMask s.shouldCheckForUnsolicited))

/-- **What every move keeps is kept by a run.** -/
theorem run_invariant {I : OContext V σ App C config → Prop} (hmove : ∀ {s t}, Move P B s t → I s → I t)
    {s : OContext V σ App C config} (hs : I s) {inputs : List (Nat × OutstationInput V App)}
    (h : ∀ i ∈ inputs, i.2.Broadcasts B) : I (s.run P inputs) := by
  have hmoves : ∀ {s t : OContext V σ App C config}, Moves P B s t → I s → I t := by
    intro s t hst hs
    induction hst with
    | refl => exact hs
    | tail _ hlast ih => exact hmove hlast ih
  unfold run
  induction inputs generalizing s with
  | nil => exact hs
  | cons i inputs ih =>
    rw [List.forall_mem_cons] at h
    exact ih (hmoves (step_moves s i.1 h.1) hs) h.2

end OContext

end Opendnp3
