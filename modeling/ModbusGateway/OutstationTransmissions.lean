import ModbusGateway.OutstationMoves

/-!
# What the outstation's session sends, and when (opendnp3)

* `transmissions_apart` — a transmission begins when no other is in flight, or is an unsolicited response once more.
* `unsolicited_announced` — no event goes out unasked before the master has confirmed the empty response that
  announces the outstation, since the session came online.
* `fragments_confirmed` — a fragment that is not the first of its response follows the confirmation of the one before
  it.
* `waits_timed` — unless a broadcast asks for its confirmation, the session waits only while its timer runs.
-/

namespace Opendnp3

variable {V σ App C S : Type} {config : EventBufferConfig}

namespace OutstationOutput

def isTransmission : OutstationOutput σ C → Prop
  | .transmit _ _ => True
  | _ => False

def isSolicited : OutstationOutput σ C → Prop
  | .transmit _ (some response) => response.control.uns = false
  | _ => False

/-- No transmission is in flight any more. -/
def frees : OutstationOutput σ C → Prop
  | .ready | .offline => True
  | _ => False

/-- Neither sent, nor a mark of what was sent. -/
def isQuiet : OutstationOutput σ C → Prop
  | .newRequest _ _ | .repeated _ | .select _ _ _ | .operate _ _ _ _ => True
  | _ => False

theorem response_eq {destination destination' : UInt16} {response response' : Response σ}
    (h : (transmit destination (some response) : OutstationOutput σ C) = .transmit destination' (some response')) :
    response = response' := by
  cases h
  rfl

theorem isSolicited_isTransmission {o : OutstationOutput σ C} (h : o.isSolicited) : o.isTransmission := by
  cases o <;> trivial

theorem isQuiet_not_isTransmission {o : OutstationOutput σ C} (h : o.isQuiet) : ¬o.isTransmission := by
  cases o <;> first | exact h.elim | exact not_false

theorem isCommand_isQuiet {o : OutstationOutput σ C} (h : o.isCommand) : o.isQuiet := by
  cases o <;> trivial

theorem isUnanswered_isQuiet {o : OutstationOutput σ C} (h : o.isUnanswered) : o.isQuiet := by
  cases o <;> trivial

end OutstationOutput

namespace OContext

variable {P : OutstationParts V σ App C S} {B : LinkBroadcastAddress → Prop} {params : OutstationParams}
  {s t u : OContext V σ App C config} {r : ParsedRequest} {log : List (OutstationOutput σ C)}

/-! ## Transmissions -/

/-- A transmission has begun and is not over. -/
def InFlight (log : List (OutstationOutput σ C)) : Prop :=
  Log.Since (fun _ a => a.isTransmission) OutstationOutput.frees log

/-- The master has confirmed an unsolicited response of this connection. -/
def Announced (log : List (OutstationOutput σ C)) : Prop :=
  Log.Since (fun _ a => ∃ seq, a = .confirmed true seq) (· = .offline) log

/-- The last solicited response. -/
def LastSolicited (response : Response σ) (log : List (OutstationOutput σ C)) : Prop :=
  Log.Since (fun _ a => ∃ destination, a = .transmit destination (some response)) OutstationOutput.isSolicited log

/-- What is behind a transmission, and behind a confirmation that is accepted. -/
structure Sent (P : OutstationParts V σ App C S) (params : OutstationParams) (pre : List (OutstationOutput σ C))
    (o : OutstationOutput σ C) : Prop where
  apart : ∀ destination message, o = .transmit destination message → InFlight pre →
    ∃ response destination', message = some response ∧ response.control.uns = true ∧
      .transmit destination' message ∈ pre
  announced : ∀ destination response, o = .transmit destination (some response) → response.control.uns = true →
    params.allowUnsolicited = true ∧ (response.body = P.start ∨ Announced pre)
  continued : ∀ destination response, o = .transmit destination (some response) → response.control.uns = false →
    response.control.fir = false →
    ∃ before seq, pre = before ++ [.confirmed false seq] ∧ response.control.seq = nextAppSeq seq
  confirmed : ∀ seq, o = .confirmed false seq →
    ∃ response, LastSolicited response pre ∧ response.control.con = true ∧ response.control.seq = seq

/-- The session knows what it has sent. -/
structure Sending (P : OutstationParts V σ App C S) (params : OutstationParams) (s : OContext V σ App C config) :
    Prop where
  same : s.params = params
  free : s.isTransmitting = false → ¬InFlight s.log
  announced : s.completedNull = true → Announced s.log
  solicited : ∀ response, s.solTx = some response → response.control.uns = false ∧ LastSolicited response s.log
  unsolicited : ∀ response, s.unsolTx = some response → response.control.uns = true ∧
    params.allowUnsolicited = true ∧ ∃ destination, .transmit destination (some response) ∈ s.log
  waits : s.state = .solicitedConfirmWait →
    ∃ response, s.solTx = some response ∧ response.control.con = true ∧ response.control.seq = s.solConfirmNum
  waitsUnsolicited : s.state = .unsolicitedConfirmWait ∨ s.state = .nullUnsolicitedConfirmWait →
    ∃ response, s.unsolTx = some response
  first : ∀ last, s.history = some last → ∃ response, s.solTx = some response ∧ response.control.fir = true
  sent : Log.Justified (Sent P params) s.log

/-- What the session knows of what it has sent is the same, or less. -/
structure SameSent (s t : OContext V σ App C config) : Prop where
  params : t.params = s.params
  solTx : t.solTx = s.solTx
  solConfirmNum : t.solConfirmNum = s.solConfirmNum
  unsolTx : t.unsolTx = s.unsolTx
  history : t.history = s.history ∨ t.history = none
  state : t.state = s.state ∨ t.state = .idle

theorem Sending.waits_same (h : Sending P params s) (hsame : SameSent s t) (hwait : t.state = .solicitedConfirmWait) :
    ∃ response, t.solTx = some response ∧ response.control.con = true ∧ response.control.seq = t.solConfirmNum := by
  rw [hsame.solTx, hsame.solConfirmNum]
  rcases hsame.state with hstate | hstate
  · exact h.waits (hstate.symm.trans hwait)
  · cases hstate.symm.trans hwait

theorem Sending.waitsUnsolicited_same (h : Sending P params s) (hsame : SameSent s t)
    (hwait : t.state = .unsolicitedConfirmWait ∨ t.state = .nullUnsolicitedConfirmWait) :
    ∃ response, t.unsolTx = some response := by
  rw [hsame.unsolTx]
  rcases hsame.state with hstate | hstate
  · exact h.waitsUnsolicited (hstate ▸ hwait)
  · rw [hstate] at hwait
    rcases hwait with hwait | hwait <;> cases hwait

theorem Sending.first_same (h : Sending P params s) (hsame : SameSent s t) (last : LastRequest)
    (hlast : t.history = some last) : ∃ response, t.solTx = some response ∧ response.control.fir = true := by
  rw [hsame.solTx]
  rcases hsame.history with hhistory | hhistory
  · exact h.first last (hhistory.symm.trans hlast)
  · cases hhistory.symm.trans hlast

/-- Nothing is sent. -/
theorem Sending.emits (h : Sending P params s) (hsame : SameSent s t) {outs : List (OutstationOutput σ C)}
    (hlog : t.log = s.log ++ outs) (houts : ∀ o ∈ outs, ¬o.isTransmission)
    (hfree : t.isTransmitting = false → ¬InFlight t.log) (hannounced : t.completedNull = true → Announced t.log)
    (hsent : Log.Justified (fun pre => Sent P params (s.log ++ pre)) outs) : Sending P params t where
  same := hsame.params.trans h.same
  free := hfree
  announced := hannounced
  solicited response hresponse := by
    obtain ⟨huns, hlast⟩ := h.solicited response (hsame.solTx ▸ hresponse)
    rw [hlog]
    exact ⟨huns, hlast.append fun o ho hsolicited => houts o ho (OutstationOutput.isSolicited_isTransmission hsolicited)⟩
  unsolicited response hresponse := by
    obtain ⟨huns, hallow, destination, hmem⟩ := h.unsolicited response (hsame.unsolTx ▸ hresponse)
    rw [hlog]
    exact ⟨huns, hallow, destination, List.mem_append_left _ hmem⟩
  waits := h.waits_same hsame
  waitsUnsolicited := h.waitsUnsolicited_same hsame
  first := h.first_same hsame
  sent := by
    rw [hlog]
    exact Log.justified_append.2 ⟨h.sent, hsent⟩

theorem sent_quiet {o : OutstationOutput σ C} (h : ¬o.isTransmission) (hconfirmed : ∀ seq, o ≠ .confirmed false seq)
    (pre : List (OutstationOutput σ C)) : Sent P params pre o where
  apart := by
    rintro _ _ rfl
    exact absurd trivial h
  announced := by
    rintro _ _ rfl
    exact absurd trivial h
  continued := by
    rintro _ _ rfl
    exact absurd trivial h
  confirmed seq ho := absurd ho (hconfirmed seq)

/-- Nothing is sent, and nothing that was is over. -/
theorem Sending.keep (h : Sending P params s) (hsame : SameSent s t) (htransmitting : t.isTransmitting = s.isTransmitting)
    (hnull : t.completedNull = s.completedNull) (outs : List (OutstationOutput σ C)) (hlog : t.log = s.log ++ outs)
    (houts : ∀ o ∈ outs, o.isQuiet) : Sending P params t := by
  have hquiet : ∀ o ∈ outs, ¬o.isTransmission ∧ ∀ seq, o ≠ .confirmed false seq := fun o ho =>
    ⟨OutstationOutput.isQuiet_not_isTransmission (houts o ho), fun seq heq => by
      have := houts o ho
      rw [heq] at this
      exact this⟩
  refine h.emits hsame hlog (fun o ho => (hquiet o ho).1) ?_ ?_ ?_
  · intro hnot
    rw [hlog, InFlight, Log.since_append fun _ o ho => ⟨?_, (hquiet o ho).1⟩]
    · exact h.free (htransmitting.symm.trans hnot)
    · have := houts o ho
      cases o <;> first | exact this.elim | exact not_false
  · intro hcompleted
    rw [hlog]
    refine (h.announced (hnull.symm.trans hcompleted)).append ?_
    rintro o ho rfl
    exact houts _ ho
  · intro pre o post hpre
    have ho := hquiet o (by simp [hpre])
    exact sent_quiet ho.1 ho.2 _

/-- A confirmation is accepted. -/
theorem Sending.confirmed (h : Sending P params s) (hsame : SameSent s t)
    (htransmitting : t.isTransmitting = s.isTransmitting) (unsolicited : Bool) (seq : UInt8)
    (hlog : t.log = s.log ++ [.confirmed unsolicited seq])
    (hnull : t.completedNull = true → s.completedNull = true ∨ unsolicited = true)
    (hwait : unsolicited = false → s.state = .solicitedConfirmWait ∧ seq = s.solConfirmNum) : Sending P params t := by
  refine h.emits hsame hlog (by simp [OutstationOutput.isTransmission]) ?_ ?_ ?_
  · intro hnot
    rw [hlog, InFlight, Log.since_append (by simp [OutstationOutput.frees, OutstationOutput.isTransmission])]
    exact h.free (htransmitting.symm.trans hnot)
  · intro hcompleted
    rw [hlog]
    rcases hnull hcompleted with hcompleted | rfl
    · exact (h.announced hcompleted).append (by simp)
    · exact Log.Since.here ⟨seq, rfl⟩
  · rw [Log.justified_singleton, List.append_nil]
    refine ⟨by rintro _ _ ⟨⟩, by rintro _ _ ⟨⟩, by rintro _ _ ⟨⟩, ?_⟩
    rintro seq' heq
    obtain ⟨rfl, rfl⟩ := OutstationOutput.confirmed.inj heq
    obtain ⟨hstate, rfl⟩ := hwait rfl
    obtain ⟨response, hsolTx, hcon, hseq⟩ := h.waits hstate
    exact ⟨response, (h.solicited response hsolTx).2, hcon, hseq⟩

/-- Nothing is in flight any more. -/
theorem Sending.over (h : Sending P params s) (hsame : SameSent s t) (o : OutstationOutput σ C) (ho : o.frees)
    (hlog : t.log = s.log ++ [o]) (hannounced : t.completedNull = true → s.completedNull = true ∧ o ≠ .offline) :
    Sending P params t := by
  have hnot : ¬o.isTransmission ∧ ∀ seq, o ≠ .confirmed false seq := by
    cases o <;> first | exact ho.elim | exact ⟨not_false, by simp⟩
  refine h.emits hsame hlog (by simp [hnot.1]) (fun _ => ?_) (fun hcompleted => ?_) ?_
  · rw [hlog, InFlight, Log.since_concat]
    simp [hnot.1, ho]
  · obtain ⟨hcompleted, honline⟩ := hannounced hcompleted
    rw [hlog]
    exact (h.announced hcompleted).append (by simpa using honline)
  · exact Log.justified_singleton.2 (sent_quiet hnot.1 hnot.2 _)

/-- A response that goes out when nothing is in flight, with the first fragment or after a confirmation. -/
theorem Sending.deliver (h : Sending P params { s with history := none }) (htransmitting : s.isTransmitting = false)
    {response : Response σ} (huns : response.control.uns = false)
    (hfir : response.control.fir = true ∨ s.history = none ∧
      ∃ before seq, s.log = before ++ [.confirmed false seq] ∧ response.control.seq = nextAppSeq seq)
    (destination : UInt16) {state : OutstationState}
    (hstate : state = response.next ∨ state = s.state ∧ s.state ≠ .solicitedConfirmWait) :
    Sending P params (s.deliver destination response state) where
  same := h.same
  free hnot := by cases hnot
  announced hcompleted := (h.announced hcompleted).append (by simp)
  solicited response' hresponse' := by
    obtain rfl := Option.some.inj hresponse'
    exact ⟨huns, Log.Since.here ⟨destination, rfl⟩⟩
  unsolicited response' hresponse' := by
    obtain ⟨huns', hallow, destination', hmem⟩ := h.unsolicited response' hresponse'
    exact ⟨huns', hallow, destination', List.mem_append_left _ hmem⟩
  waits hwait := by
    rcases hstate with rfl | ⟨rfl, hnot⟩
    · refine ⟨response, rfl, ?_, rfl⟩
      by_contra hcon
      simp [OContext.deliver, Response.next, hcon] at hwait
    · exact absurd hwait hnot
  waitsUnsolicited hwait := by
    rcases hstate with rfl | ⟨rfl, -⟩
    · cases hcon : response.control.con <;> simp [OContext.deliver, Response.next, hcon] at hwait
    · exact h.waitsUnsolicited hwait
  first last hlast := by
    rcases hfir with hfir | ⟨hhistory, -⟩
    · exact ⟨response, rfl, hfir⟩
    · cases hhistory.symm.trans hlast
  sent := by
    refine Log.justified_concat.2 ⟨h.sent, ?_, ?_, ?_, by rintro _ ⟨⟩⟩
    · intro _ _ _ hflight
      exact absurd hflight (h.free htransmitting)
    · intro _ response' heq huns'
      obtain rfl := OutstationOutput.response_eq heq
      cases huns.symm.trans huns'
    · intro _ response' heq _ hnot
      obtain rfl := OutstationOutput.response_eq heq
      rcases hfir with hfir | ⟨-, hbehind⟩
      · cases hfir.symm.trans hnot
      · exact hbehind

/-- An unsolicited response that goes out when nothing is in flight. -/
theorem Sending.announce (h : Sending P params s) (htransmitting : s.isTransmitting = false) {response : Response σ}
    (huns : response.control.uns = true) (hallow : s.params.allowUnsolicited = true)
    (hbody : response.body = P.start ∨ s.completedNull = true) {state : OutstationState}
    (hstate : state ≠ .solicitedConfirmWait) : Sending P params (s.announce response state) where
  same := h.same
  free hnot := by cases hnot
  announced hcompleted := (h.announced hcompleted).append (by simp)
  solicited response' hresponse' := by
    obtain ⟨huns', hlast⟩ := h.solicited response' hresponse'
    exact ⟨huns', hlast.append (by simp [OutstationOutput.isSolicited, huns])⟩
  unsolicited response' hresponse' := by
    obtain rfl := Option.some.inj hresponse'
    exact ⟨huns, h.same ▸ hallow, s.addresses.destination, by simp [OContext.announce]⟩
  waits hwait := absurd hwait hstate
  waitsUnsolicited _ := ⟨response, rfl⟩
  first := h.first
  sent := by
    refine Log.justified_concat.2 ⟨h.sent, ?_, ?_, ?_, by rintro _ ⟨⟩⟩
    · intro _ _ _ hflight
      exact absurd hflight (h.free htransmitting)
    · intro _ response' heq _
      obtain rfl := OutstationOutput.response_eq heq
      exact ⟨h.same ▸ hallow, hbody.imp_right h.announced⟩
    · intro _ response' heq huns'
      obtain rfl := OutstationOutput.response_eq heq
      cases huns.symm.trans huns'

/-- A response goes out once more. -/
theorem Sending.again (h : Sending P params s) (hsame : SameSent s t) (htransmitting : t.isTransmitting = true)
    (hnull : t.completedNull = s.completedNull) (destination : UInt16) {response : Response σ}
    (hlog : t.log = s.log ++ [.transmit destination (some response)])
    (hlast : response.control.uns = true ∨ s.solTx = some response)
    (hsent : Sent P params s.log (.transmit destination (some response))) : Sending P params t where
  same := hsame.params.trans h.same
  free hnot := by cases htransmitting.symm.trans hnot
  announced hcompleted := by
    rw [hlog]
    exact (h.announced (hnull.symm.trans hcompleted)).append (by simp)
  solicited response' hresponse' := by
    obtain ⟨huns', hlast'⟩ := h.solicited response' (hsame.solTx.symm.trans hresponse')
    rw [hlog]
    rcases hlast with huns | hsolTx
    · exact ⟨huns', hlast'.append (by simp [OutstationOutput.isSolicited, huns])⟩
    · obtain rfl := Option.some.inj (hsolTx.symm.trans (hsame.solTx.symm.trans hresponse'))
      exact ⟨huns', Log.Since.here ⟨destination, rfl⟩⟩
  unsolicited response' hresponse' := by
    obtain ⟨huns', hallow, destination', hmem⟩ := h.unsolicited response' (hsame.unsolTx.symm.trans hresponse')
    rw [hlog]
    exact ⟨huns', hallow, destination', List.mem_append_left _ hmem⟩
  waits := h.waits_same hsame
  waitsUnsolicited := h.waitsUnsolicited_same hsame
  first := h.first_same hsame
  sent := by
    rw [hlog]
    exact Log.justified_concat.2 ⟨h.sent, hsent⟩

theorem sending_move (hmove : Move P B s t) (h : Sending P params s) : Sending P params t := by
  cases hmove with
  | clock | online | broadcast | defer =>
    exact h.keep ⟨rfl, rfl, rfl, rfl, .inl rfl, .inl rfl⟩ rfl rfl [] (List.append_nil _).symm (by simp)
  | leaveWait | timeout | giveUp =>
    exact h.keep ⟨rfl, rfl, rfl, rfl, .inl rfl, .inr rfl⟩ rfl rfl [] (List.append_nil _).symm (by simp)
  | sent => exact h.over ⟨rfl, rfl, rfl, rfl, .inl rfl, .inl rfl⟩ .ready trivial rfl fun hnull => ⟨hnull, by simp⟩
  | offline honline =>
    rw [onLowerLayerDown, if_pos honline]
    exact h.over ⟨rfl, rfl, rfl, rfl, .inr rfl, .inr rfl⟩ .offline trivial rfl fun hnull => by cases hnull
  | enact henact =>
    obtain ⟨_, _, _, _, _, _, outs, rfl, houts⟩ := henact
    exact h.keep ⟨rfl, rfl, rfl, rfl, .inl rfl, .inl rfl⟩ rfl rfl outs rfl
      fun o ho => OutstationOutput.isUnanswered_isQuiet (houts o ho)
  | @answer u r timer deferred response state hfunction hnew htransmitting hacts hcontrol hstate =>
    obtain ⟨_, _, _, _, _, _, _, outs, hu, houts⟩ := hacts.frame
    have hacted : Sending P params { u with history := none } := by
      refine h.keep ⟨by rw [hu]; rfl, by rw [hu]; rfl, by rw [hu]; rfl, by rw [hu]; rfl, .inr rfl, .inl (by rw [hu]; rfl)⟩
        (by rw [hu]; rfl) (by rw [hu]; rfl) (.newRequest r s.now :: outs) (by rw [hu]; simp [recorded]) ?_
      rintro o (_ | ⟨_, ho⟩)
      · trivial
      · exact OutstationOutput.isCommand_isQuiet (houts o ho).isCommand
    refine hacted.deliver (by rw [hu]; exact htransmitting) (by rw [hcontrol]; rfl) (.inl (by rw [hcontrol]; rfl)) _ ?_
    refine hstate.imp_right fun hwait => ?_
    have hustate : u.state = s.state := by rw [hu]; rfl
    rw [hustate]
    exact hwait.2
  | @read r timer app events fragmentCount control response hfunction htransmitting hcontrol hfirst =>
    have hrecorded : Sending P params
        { s.recorded r with confirmTimer := timer, app, events, fragmentCount, history := none } :=
      h.keep ⟨rfl, rfl, rfl, rfl, .inr rfl, .inl rfl⟩ rfl rfl [.newRequest r s.now] rfl
        (by simp [OutstationOutput.isQuiet])
    have huns : response.control.uns = false := by
      rw [hcontrol]
      exact hfirst.uns
    have hfir : response.control.fir = true := by
      rw [hcontrol]
      exact hfirst.fir
    refine Sending.deliver ?_ ?_ huns (.inl hfir) _ (.inl rfl)
    · exact hrecorded
    · exact htransmitting
  | deferRead r =>
    exact h.keep ⟨rfl, rfl, rfl, rfl, .inl rfl, .inl rfl⟩ rfl rfl [.newRequest r s.now] rfl
      (by simp [OutstationOutput.isQuiet])
  | @retransmit r timer hrepeat htransmitting htimer =>
    obtain ⟨last, hhistory, -, -⟩ := hrepeat
    obtain ⟨response, hsolTx, hfir⟩ := h.first last hhistory
    have hmarked : Sending P params { s with log := s.log ++ [.repeated r] } :=
      h.keep ⟨rfl, rfl, rfl, rfl, .inl rfl, .inl rfl⟩ rfl rfl [.repeated r] rfl (by simp [OutstationOutput.isQuiet])
    refine hmarked.again ⟨rfl, rfl, rfl, rfl, .inl rfl, .inl rfl⟩ rfl rfl r.addresses.source
      (by simp [hsolTx]) (.inr hsolTx) ⟨?_, ?_, ?_, by rintro _ ⟨⟩⟩
    · intro _ _ _ hflight
      exact absurd hflight (hmarked.free htransmitting)
    · intro _ response' heq huns'
      obtain rfl := OutstationOutput.response_eq heq
      cases (h.solicited response hsolTx).1.symm.trans huns'
    · intro _ response' heq _ hnot
      obtain rfl := OutstationOutput.response_eq heq
      cases hfir.symm.trans hnot
  | repeatDeferred r =>
    exact h.keep ⟨rfl, rfl, rfl, rfl, .inl rfl, .inl rfl⟩ rfl rfl [.repeated r] rfl (by simp [OutstationOutput.isQuiet])
  | confirm app hstate =>
    exact h.confirmed ⟨rfl, rfl, rfl, rfl, .inr rfl, .inr rfl⟩ rfl false s.solConfirmNum rfl .inl fun _ => ⟨hstate, rfl⟩
  | @continued r app events written fragmentCount response hstate htransmitting hseq huns =>
    have hconfirmed : Sending P params { s with
        history := none, confirmTimer := false, lastBroadcastMessageReceived := none
        events, app, fragmentCount
        log := s.log ++ [OutstationOutput.confirmed false s.solConfirmNum] } :=
      h.confirmed ⟨rfl, rfl, rfl, rfl, .inr rfl, .inl rfl⟩ rfl false s.solConfirmNum rfl .inl fun _ => ⟨hstate, rfl⟩
    refine Sending.deliver ?_ ?_ huns (.inr ⟨rfl, s.log, s.solConfirmNum, rfl, hseq⟩) _ (.inl rfl)
    · exact hconfirmed
    · exact htransmitting
  | confirmUnsolicited =>
    exact h.confirmed ⟨rfl, rfl, rfl, rfl, .inr rfl, .inr rfl⟩ rfl true s.unsolConfirmNum rfl (fun _ => .inr rfl)
      fun hnot => by cases hnot
  | retry unsolRetries hnull hstate =>
    obtain ⟨response, hunsolTx⟩ := h.waitsUnsolicited hstate
    obtain ⟨huns, hallow, destination, hmem⟩ := h.unsolicited response hunsolTx
    refine h.again ⟨rfl, rfl, rfl, rfl, .inl rfl, .inl rfl⟩ rfl rfl s.addresses.destination
      (by simp [hunsolTx]) (.inl huns) ⟨?_, ?_, ?_, by rintro _ ⟨⟩⟩
    · intro _ _ heq _
      obtain ⟨-, rfl⟩ := OutstationOutput.transmit.inj heq
      exact ⟨response, destination, rfl, huns, hmem⟩
    · intro _ response' _ _
      exact ⟨hallow, .inr (h.announced hnull)⟩
    · intro _ response' heq huns'
      obtain rfl := OutstationOutput.response_eq heq
      cases huns.symm.trans huns'
  | announceNull htransmitting hidle hallow hnull hcontrol hbody hstate =>
    exact h.announce htransmitting (by rw [hcontrol]) hallow (.inl hbody) hstate
  | report unsolRetries should htransmitting hidle hallow hnull hcontrol hwriting =>
    refine Sending.announce ?_ ?_ (by rw [hcontrol]) ?_ (.inr ?_) ?_
    · exact h.keep ⟨rfl, rfl, rfl, rfl, .inl rfl, .inl rfl⟩ rfl rfl [] (List.append_nil _).symm (by simp)
    · exact htransmitting
    · exact hallow
    · exact hnull
    · rintro ⟨⟩

theorem sending_ofConfig [Inhabited V] (P : OutstationParts V σ App C S) (addresses : Addresses)
    (params : OutstationParams) (app : App) :
    Sending P params (ofConfig config addresses params app : OContext V σ App C config) where
  same := rfl
  free _ := Log.not_since_nil
  announced := by rintro ⟨⟩
  solicited := by rintro _ ⟨⟩
  unsolicited := by rintro _ ⟨⟩
  waits := by rintro ⟨⟩
  waitsUnsolicited := by rintro (h | h) <;> cases h
  first := by rintro _ ⟨⟩
  sent := Log.justified_nil

/-- Whatever is in the log of a run has behind it what it needs. -/
theorem run_sent [Inhabited V] (P : OutstationParts V σ App C S) (addresses : Addresses) (params : OutstationParams)
    (app : App) (inputs : List (Nat × OutstationInput V App)) :
    Log.Justified (Sent P params)
      ((ofConfig config addresses params app : OContext V σ App C config).run P inputs).log :=
  (run_invariant (P := P) (B := fun _ => True) (I := Sending P params) sending_move
    (sending_ofConfig P addresses params app) fun i _ => i.2.broadcasts_any).sent

/-- **One transmission at a time**: in every run, when a transmission begins while another is in flight, it is an
unsolicited response that was sent before. -/
theorem transmissions_apart [Inhabited V] (P : OutstationParts V σ App C S) (addresses : Addresses)
    (params : OutstationParams) (app : App) (inputs : List (Nat × OutstationInput V App)) :
    Log.Justified (fun pre o => ∀ destination message, o = .transmit destination message → InFlight pre →
        ∃ response destination', message = some response ∧ response.control.uns = true ∧
          .transmit destination' message ∈ pre)
      ((ofConfig config addresses params app : OContext V σ App C config).run P inputs).log :=
  (run_sent P addresses params app inputs).mono fun _ _ h => h.apart

/-- **No events unasked before the announcement**: in every run, an unsolicited response goes out only where they are
allowed, and it is empty unless the master has confirmed one since the session came online. -/
theorem unsolicited_announced [Inhabited V] (P : OutstationParts V σ App C S) (addresses : Addresses)
    (params : OutstationParams) (app : App) (inputs : List (Nat × OutstationInput V App)) :
    Log.Justified (fun pre o => ∀ destination response, o = .transmit destination (some response) →
        response.control.uns = true → params.allowUnsolicited = true ∧ (response.body = P.start ∨ Announced pre))
      ((ofConfig config addresses params app : OContext V σ App C config).run P inputs).log :=
  (run_sent P addresses params app inputs).mono fun _ _ h => h.announced

/-- **The next fragment waits for the confirmation of the one before**: in every run, a solicited fragment that is not
the first of its response directly follows a confirmation and has the next sequence number; and a confirmation is
accepted only if it is that of the last solicited response, which has asked for it. -/
theorem fragments_confirmed [Inhabited V] (P : OutstationParts V σ App C S) (addresses : Addresses)
    (params : OutstationParams) (app : App) (inputs : List (Nat × OutstationInput V App)) :
    Log.Justified (fun pre o =>
        (∀ destination response, o = .transmit destination (some response) → response.control.uns = false →
          response.control.fir = false →
          ∃ before seq, pre = before ++ [.confirmed false seq] ∧ response.control.seq = nextAppSeq seq) ∧
        ∀ seq, o = .confirmed false seq →
          ∃ response, LastSolicited response pre ∧ response.control.con = true ∧ response.control.seq = seq)
      ((ofConfig config addresses params app : OContext V σ App C config).run P inputs).log :=
  (run_sent P addresses params app inputs).mono fun _ _ h => ⟨h.continued, h.confirmed⟩

/-! ## Waits -/

/-- A session that waits has its timer running; one that waits for a solicited confirmation remembers a READ, if any
request. -/
structure Timed (s : OContext V σ App C config) : Prop where
  asks : s.asksConfirm = false
  solicited : s.state = .solicitedConfirmWait →
    s.confirmTimer = true ∧ ∀ last, s.history = some last → last.lastHeader.function = .read
  unsolicited : s.state = .unsolicitedConfirmWait ∨ s.state = .nullUnsolicitedConfirmWait → s.confirmTimer = true

theorem fullyEquals_function {last : LastRequest} {header : APDUHeader} {objects : List UInt8}
    (h : last.fullyEquals header objects = true) : header.function = last.lastHeader.function := by
  simp only [LastRequest.fullyEquals, APDUHeader.equals, Bool.and_eq_true, beq_iff_eq] at h
  exact h.1.1.1

/-- A session that does not wait. -/
theorem Timed.idle (hasks : s.asksConfirm = false) (hstate : s.state = .idle) : Timed s where
  asks := hasks
  solicited h := by rw [hstate] at h; cases h
  unsolicited h := by rw [hstate] at h; rcases h with h | h <;> cases h

/-- A session whose timer runs, and which does not wait for a solicited confirmation. -/
theorem Timed.running (hasks : s.asksConfirm = false) (htimer : s.confirmTimer = true)
    (hstate : s.state ≠ .solicitedConfirmWait) : Timed s where
  asks := hasks
  solicited h := absurd h hstate
  unsolicited _ := htimer

theorem broadcastAfter_eq_none (h : s.asksConfirm = false) : s.broadcastAfter = none := by
  rw [broadcastAfter, h]
  rfl

theorem asksConfirm_deliver (s : OContext V σ App C config) (destination : UInt16) (response : Response σ)
    (state : OutstationState) (h : s.asksConfirm = false) : (s.deliver destination response state).asksConfirm = false :=
  congrArg (· == some LinkBroadcastAddress.shallConfirm) (broadcastAfter_eq_none h)

/-- A response whose confirmation is the session's own wish. -/
theorem Timed.delivered {destination : UInt16} {response : Response σ} (hasks : s.asksConfirm = false)
    (hread : ∀ last, s.history = some last → last.lastHeader.function = .read) :
    Timed (s.deliver destination response response.next) := by
  have hafter := asksConfirm_deliver s destination response response.next hasks
  cases hcon : response.control.con with
  | false => exact .idle hafter (by simp [deliver, Response.next, hcon])
  | true =>
    refine ⟨hafter, fun _ => ⟨by simp [deliver, hcon], hread⟩, fun h => ?_⟩
    simp [deliver, Response.next, hcon] at h

theorem timed_move (hmove : Move P (· ≠ .shallConfirm) s t) (h : Timed s) : Timed t := by
  cases hmove with
  | clock | online | sent | defer | deferRead | repeatDeferred => exact { h with }
  | offline honline =>
    rw [onLowerLayerDown, if_pos honline]
    exact .idle h.asks rfl
  | broadcast last hlast =>
    refine { h with asks := ?_ }
    rw [asksConfirm, beq_eq_false_iff_ne]
    exact fun hshall => hlast _ hshall rfl
  | leaveWait => exact .idle h.asks rfl
  | enact henact =>
    obtain ⟨_, _, _, _, _, _, _, rfl, -⟩ := henact
    exact { h with }
  | @answer u r timer deferred response state hfunction hnew htransmitting hacts hcontrol hstate =>
    obtain ⟨_, _, _, _, _, _, _, _, rfl, -⟩ := hacts.frame
    have hcon : response.control.con = false := by rw [hcontrol]; exact h.asks
    rcases hstate with rfl | ⟨rfl, rfl, hstate⟩
    · exact .idle (asksConfirm_deliver _ _ _ _ h.asks) (by simp [deliver, Response.next, hcon])
    · refine ⟨asksConfirm_deliver _ _ _ _ h.asks, fun hwait => absurd hwait hstate, fun hwait => ?_⟩
      simp [deliver, h.unsolicited hwait]
  | @read r timer app events fragmentCount control response hfunction htransmitting hcontrol hfirst =>
    refine Timed.delivered h.asks fun last hlast => ?_
    obtain rfl := Option.some.inj hlast
    exact hfunction
  | @retransmit r timer hrepeat htransmitting htimer =>
    obtain ⟨last, hhistory, -, hequals⟩ := hrepeat
    rcases htimer with rfl | rfl | ⟨hstate, hfunction⟩
    · exact { h with }
    · exact ⟨h.asks, fun hwait => ⟨rfl, (h.solicited hwait).2⟩, fun _ => rfl⟩
    · exact absurd ((fullyEquals_function hequals).trans ((h.solicited hstate).2 last hhistory)) hfunction
  | confirm app hstate => exact .idle rfl rfl
  | continued => exact Timed.delivered rfl fun _ hlast => by cases hlast
  | confirmUnsolicited => exact .idle rfl rfl
  | timeout => exact .idle h.asks rfl
  | retry unsolRetries hnull hstate =>
    refine .running h.asks rfl fun hwait => ?_
    rcases hstate with hstate | hstate <;> cases hstate.symm.trans hwait
  | giveUp => exact .idle h.asks rfl
  | announceNull htransmitting hidle hallow hnull hcontrol hbody hstate =>
    refine .running ?_ rfl hstate
    exact congrArg (· == some LinkBroadcastAddress.shallConfirm) (broadcastAfter_eq_none h.asks)
  | report unsolRetries should htransmitting hidle hallow hnull hcontrol hwriting =>
    refine .running ?_ rfl (by simp [announce])
    exact congrArg (· == some LinkBroadcastAddress.shallConfirm) (broadcastAfter_eq_none h.asks)

/-- An outstation without points, which refuses all requests with objects and writes up to ten events, each with its
index, into a response. -/
def bareParts (V : Type) : OutstationParts V (List (V × UInt16)) Unit Unit Unit where
  start := []
  remaining body := 10 - body.length
  eventWriter := ⟨fun s _ _ _ => s, fun s v index => if s.length < 10 then (true, s ++ [(v, index)]) else (false, s)⟩
  writeDelay _ _ := id
  writeCommands _ _ := id
  parseRead _ := .error .unknownObject
  parseWrite _ := .error .unknownObject
  parseCommands _ := .error .unknownObject
  parseClasses _ := .error .unknownObject
  selectStatic _ app := (app, .empty)
  unselectStatic := id
  hasStaticSelection _ := false
  loadStatic body app := (app, body, true)
  freeze _ _ app := (app, [], none)
  assignClass _ app := (app, .empty)
  isQUFlagSet _ := false
  select _ _ app := (app, .notSupported)
  operate _ _ _ app := (app, [], .notSupported)
  applicationIIN _ := .empty
  supportsAssignClass _ := false
  supportsWriteAbsoluteTime _ := false
  supportsWriteTimeAndInterval _ := false
  writeAbsoluteTime _ app := (app, false)
  writeTimeAndInterval _ app := (app, false)
  restartSupport _ _ := .unsupported
  restart _ app := (app, 0)
  onConfirmProcessed _ _ _ _ := id

/-- **Every wait is timed**: in every run in which no broadcast asks for its confirmation, the timer runs whenever the
session waits for one. -/
theorem waits_timed [Inhabited V] (P : OutstationParts V σ App C S) (addresses : Addresses) (params : OutstationParams)
    (app : App) (inputs : List (Nat × OutstationInput V App)) (h : ∀ i ∈ inputs, i.2.Broadcasts (· ≠ .shallConfirm))
    (hwait : ((ofConfig config addresses params app : OContext V σ App C config).run P inputs).state ≠ .idle) :
    ((ofConfig config addresses params app : OContext V σ App C config).run P inputs).confirmTimer = true := by
  have htimed := run_invariant (P := P) timed_move (s := ofConfig config addresses params app) (.idle rfl rfl) h
  cases hstate : ((ofConfig config addresses params app : OContext V σ App C config).run P inputs).state with
  | idle => exact absurd hstate hwait
  | solicitedConfirmWait => exact (htimed.solicited hstate).1
  | unsolicitedConfirmWait => exact htimed.unsolicited (Or.inl hstate)
  | nullUnsolicitedConfirmWait => exact htimed.unsolicited (Or.inr hstate)

/-- An outstation that has come online and announces itself. -/
theorem waits_timed_announcing :
    ((ofConfig ⟨1, 0, 0, 0, 0, 0, 0, 0⟩ ⟨1, 2⟩ { allowUnsolicited := true } () :
      OContext Unit _ Unit Unit _).run (bareParts Unit) [(0, .lowerLayerUp)]).confirmTimer = true :=
  waits_timed (bareParts Unit) ⟨1, 2⟩ { allowUnsolicited := true } () [(0, .lowerLayerUp)]
    (by simp [OutstationInput.Broadcasts]) (by decide)

-- after a broadcast that asks for its confirmation, the repeat of a request ends the timer and not the wait
example :
    let request : Message := ⟨⟨2, 1⟩, [0xC1, 0x17]⟩
    let s : OContext Unit _ Unit Unit _ := (ofConfig ⟨1, 0, 0, 0, 0, 0, 0, 0⟩ ⟨1, 2⟩ {} ()).run (bareParts Unit)
      [(0, .lowerLayerUp), (0, .receive ⟨⟨2, 0xFFFE⟩, [0xC0, 0x02]⟩), (0, .receive request), (0, .txReady),
        (0, .receive request)]
    s.state = .solicitedConfirmWait ∧ s.confirmTimer = false := by decide

end OContext

end Opendnp3
