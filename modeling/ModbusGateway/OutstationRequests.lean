import ModbusGateway.OutstationMoves

/-!
# What becomes of a request (opendnp3)

Of the requests, those of a function without an answer and broadcasts are served whenever they come, and not
remembered. Of the others:

* `requests_first_copy` — of the copies of a request that is no READ, only the first is taken for a new one, until a
  confirmation or the end of the connection makes the session forget it; and the command handler is called for it only
  then.
* `repeat_answered` — a solicited response answers a new request or continues such an answer, or it is the answer of
  the first copy once more, for a copy that comes again.
* `operate_selected` — a command is operated as selected only by an OPERATE that comes in time after a SELECT of the
  same length and checksum, whose commands, as many as are looked at, were all accepted.
-/

namespace Opendnp3

variable {V σ App C S : Type} {config : EventBufferConfig}

namespace OutstationOutput

/-- A new request, or what makes the session forget the last one. -/
def isMark : OutstationOutput σ C → Prop
  | .newRequest _ _ | .confirmed _ _ | .offline => True
  | _ => False

/-- A call of the command handler for a request that is answered. -/
def isAnswered : OutstationOutput σ C → Prop
  | .select _ _ _ => True
  | .operate _ _ opType _ => opType ≠ .directOperateNoAck
  | _ => False

/-- What makes the session forget the request that `response` has answered, or send another solicited response. A READ
may be put off, and then the request before it is still the one remembered. -/
def supersedes (response : Response σ) : OutstationOutput σ C → Prop
  | .newRequest r _ => r.header.function ≠ .read
  | .confirmed _ _ | .offline => True
  | .transmit _ (some other) => other.control.uns = false ∧ other ≠ response
  | _ => False

/-- Commands operated as selected. -/
def isSelected : OutstationOutput σ C → Prop
  | .operate _ _ opType _ => opType = .selectBeforeOperate
  | _ => False

theorem isCommand_not_isMark {o : OutstationOutput σ C} (h : o.isCommand) : ¬o.isMark := by
  cases o <;> first | exact h.elim | exact not_false

theorem isCommand_not_supersedes {o : OutstationOutput σ C} (h : o.isCommand) (response : Response σ) :
    ¬o.supersedes response := by
  cases o <;> first | exact h.elim | exact not_false

theorem isUnanswered_isCommand {o : OutstationOutput σ C} (h : o.isUnanswered) : o.isCommand := by
  cases o <;> trivial

theorem isUnanswered_not_isAnswered {o : OutstationOutput σ C} (h : o.isUnanswered) : ¬o.isAnswered := by
  cases o <;> first | exact h.elim | exact fun hnot => hnot h

theorem isUnanswered_not_isSelected {o : OutstationOutput σ C} (h : o.isUnanswered) : ¬o.isSelected := by
  cases o with
  | operate command index opType status =>
    obtain rfl : opType = .directOperateNoAck := h
    exact fun hselected => by cases hselected
  | _ => exact h.elim

end OutstationOutput

theorem LastRequest.fullyEquals_ofRequest (header : APDUHeader) (objects : List UInt8) :
    (LastRequest.ofRequest header objects).fullyEquals header objects = true := by
  simp [LastRequest.fullyEquals, LastRequest.ofRequest, APDUHeader.equals]

namespace OContext

variable {P : OutstationParts V σ App C S} {B : LinkBroadcastAddress → Prop} {s t u : OContext V σ App C config}
  {params : OutstationParams} {r : ParsedRequest} {outs : List (OutstationOutput σ C)}

/-- The request `r` was taken for a new one, and since then the command handler was called. -/
def Serving (r : ParsedRequest) (now : Nat) (pre before : List (OutstationOutput σ C)) : Prop :=
  ∃ outs, pre = before ++ .newRequest r now :: outs ∧ ∀ o ∈ outs, o.isCommand

/-! ## First copies -/

/-- What is done with the first copy of a request only. -/
structure FirstCopy (P : OutstationParts V σ App C S) (params : OutstationParams) (pre : List (OutstationOutput σ C))
    (o : OutstationOutput σ C) : Prop where
  /-- A request that is no READ is taken for a new one only if the last mark is not that of its own copy, -/
  first : ∀ r now, o = .newRequest r now → r.header.function ≠ .read →
    ¬Log.Since (fun _ a => ∃ r' now', a = .newRequest r' now' ∧ r'.header = r.header ∧ r'.objects = r.objects)
      OutstationOutput.isMark pre
  /-- and only behind that the handler is called with its commands. -/
  served : o.isAnswered → ∃ before r now, Serving r now pre before ∧
    Serves P params.maxControlsPerRequest r.header r.objects o

/-- The session remembers the request of the last mark. -/
structure FirstCopies (P : OutstationParts V σ App C S) (params : OutstationParams) (s : OContext V σ App C config) :
    Prop where
  same : s.params = params
  remembered : ∀ r, r.header.function ≠ .read →
    Log.Since (fun _ a => ∃ now, a = .newRequest r now) OutstationOutput.isMark s.log →
      s.history = some (.ofRequest r.header r.objects) ∧ s.solNum = r.header.control.seq
  justified : Log.Justified (FirstCopy P params) s.log

theorem firstCopy_of_not {o : OutstationOutput σ C} (hnew : ∀ r now, o ≠ .newRequest r now) (hcall : ¬o.isAnswered)
    (pre : List (OutstationOutput σ C)) : FirstCopy P params pre o where
  first r now ho := absurd ho (hnew r now)
  served h := absurd h hcall

theorem firstCopy_command {pre before : List (OutstationOutput σ C)} {now : Nat} {o : OutstationOutput σ C}
    (h : Serving r now pre before) (ho : Serves P params.maxControlsPerRequest r.header r.objects o) :
    FirstCopy P params pre o where
  first r' now' hr' := by
    subst hr'
    exact ho.elim
  served _ := ⟨before, r, now, h, ho⟩

/-- Neither is a request taken for a new one nor is one forgotten. -/
theorem FirstCopies.append (h : FirstCopies P params s) (hparams : t.params = s.params) (hhistory : t.history = s.history)
    (hnum : t.solNum = s.solNum) {outs : List (OutstationOutput σ C)} (hlog : t.log = s.log ++ outs)
    (hmarks : ∀ o ∈ outs, ¬o.isMark) (houts : Log.Justified (fun pre => FirstCopy P params (s.log ++ pre)) outs) :
    FirstCopies P params t where
  same := hparams.trans h.same
  remembered r hread hsince := by
    rw [hhistory, hnum]
    refine h.remembered r hread ?_
    rw [hlog, Log.since_append] at hsince
    · exact hsince
    · intro _ o ho
      refine ⟨hmarks o ho, ?_⟩
      rintro ⟨now, rfl⟩
      exact hmarks _ ho trivial
  justified := by
    rw [hlog]
    exact Log.justified_append.2 ⟨h.justified, houts⟩

theorem FirstCopies.keep (h : FirstCopies P params s) (hparams : t.params = s.params) (hhistory : t.history = s.history)
    (hnum : t.solNum = s.solNum) (outs : List (OutstationOutput σ C)) (hlog : t.log = s.log ++ outs)
    (houts : ∀ o ∈ outs, ¬o.isMark ∧ ¬o.isAnswered) : FirstCopies P params t := by
  refine h.append hparams hhistory hnum hlog (fun o ho => (houts o ho).1) ?_
  intro pre o post hpre
  obtain ⟨hmark, hcall⟩ := houts o (by simp [hpre])
  refine firstCopy_of_not ?_ hcall _
  rintro r now rfl
  exact hmark trivial

/-- What makes the session forget. -/
theorem FirstCopies.forget (h : FirstCopies P params s) (hparams : t.params = s.params) (o : OutstationOutput σ C)
    (hmark : o.isMark) (hnew : ∀ r now, o ≠ .newRequest r now) (hlog : t.log = s.log ++ [o]) :
    FirstCopies P params t where
  same := hparams.trans h.same
  remembered r hread hsince := by
    rw [hlog, Log.since_concat] at hsince
    rcases hsince with ⟨now, hnow⟩ | ⟨hnot, -⟩
    · exact absurd hnow (hnew r now)
    · exact absurd hmark hnot
  justified := by
    rw [hlog, Log.justified_concat]
    refine ⟨h.justified, firstCopy_of_not hnew ?_ _⟩
    cases o <;> first | exact hmark.elim | exact not_false

theorem FirstCopies.recorded (h : FirstCopies P params s) (hnew : r.header.function ≠ .read → ¬s.IsRepeat r) :
    FirstCopies P params (s.recorded r) where
  same := h.same
  remembered r' hread hsince := by
    rcases Log.since_concat.1 hsince with ⟨now, hnow⟩ | ⟨hnot, -⟩
    · cases hnow
      exact ⟨rfl, rfl⟩
    · exact absurd trivial hnot
  justified := by
    refine Log.justified_concat.2 ⟨h.justified, ?_, fun hnot => hnot.elim⟩
    rintro r' now hr' hread ⟨pre, a, post, hlog, ⟨r₀, now₀, rfl, hheader, hobjects⟩, hpost⟩
    cases hr'
    obtain ⟨hhistory, hnum⟩ := h.remembered r₀ (hheader ▸ hread) ⟨pre, _, post, hlog, ⟨now₀, rfl⟩, hpost⟩
    rw [hheader, hobjects] at hhistory
    rw [hheader] at hnum
    exact hnew hread ⟨_, hhistory, hnum, LastRequest.fullyEquals_ofRequest _ _⟩

theorem firstCopies_move (hmove : Move P B s t) (h : FirstCopies P params s) : FirstCopies P params t := by
  cases hmove with
  | clock | online | broadcast | leaveWait | defer | timeout | giveUp =>
    exact h.keep rfl rfl rfl [] (List.append_nil _).symm (by simp)
  | sent => exact h.keep rfl rfl rfl _ rfl (by simp [OutstationOutput.isMark, OutstationOutput.isAnswered])
  | offline honline =>
    rw [onLowerLayerDown, if_pos honline]
    exact h.forget rfl .offline trivial (by simp) rfl
  | enact henact =>
    obtain ⟨_, _, _, _, _, _, outs, rfl, houts⟩ := henact
    exact h.keep rfl rfl rfl outs rfl fun o ho =>
      ⟨OutstationOutput.isCommand_not_isMark (OutstationOutput.isUnanswered_isCommand (houts o ho)),
        OutstationOutput.isUnanswered_not_isAnswered (houts o ho)⟩
  | @answer u r timer deferred response state hfunction hnew htransmitting hacts hcontrol hstate =>
    obtain ⟨_, _, _, _, _, _, _, outs, hu, houts⟩ := hacts.frame
    have hacted : FirstCopies P params u := by
      refine (h.recorded fun _ => hnew).append (by rw [hu]) (by rw [hu]) (by rw [hu]) (by rw [hu])
        (fun o ho => OutstationOutput.isCommand_not_isMark (houts o ho).isCommand) ?_
      intro pre o post hpre
      have hserving : Serving r s.now ((s.recorded r).log ++ pre) s.log :=
        ⟨pre, by simp [OContext.recorded], fun o' ho' => (houts o' (by simp [hpre, ho'])).isCommand⟩
      refine firstCopy_command hserving ?_
      rw [← h.same]
      exact houts o (by simp [hpre])
    exact hacted.keep rfl rfl rfl [.transmit _ _] rfl
      (by simp [OutstationOutput.isMark, OutstationOutput.isAnswered])
  | @read r timer app events fragmentCount control response hfunction htransmitting hcontrol hfirst =>
    exact (h.recorded fun hread => absurd hfunction hread).keep rfl rfl rfl [.transmit _ _] rfl
      (by simp [OutstationOutput.isMark, OutstationOutput.isAnswered])
  | deferRead r deferred hfunction =>
    refine ⟨h.same, fun r' hread hsince => ?_, ?_⟩
    · rcases Log.since_concat.1 hsince with ⟨now, hnow⟩ | ⟨hnot, -⟩
      · cases hnow
        exact absurd hfunction hread
      · exact absurd trivial hnot
    · refine Log.justified_concat.2 ⟨h.justified, ?_, fun hnot => hnot.elim⟩
      rintro r' now hr' hread
      cases hr'
      exact absurd hfunction hread
  | confirm => exact h.forget rfl (.confirmed _ _) trivial (by simp) rfl
  | continued =>
    have hforgot : FirstCopies P params { s with
        history := none, log := s.log ++ [.confirmed false s.solConfirmNum] } :=
      h.forget rfl (.confirmed _ _) trivial (by simp) rfl
    exact hforgot.keep rfl rfl rfl [.transmit _ _] rfl
      (by simp [OutstationOutput.isMark, OutstationOutput.isAnswered])
  | confirmUnsolicited => exact h.forget rfl (.confirmed _ _) trivial (by simp) rfl
  | retransmit | repeatDeferred | retry | announceNull | report =>
    exact h.keep rfl rfl rfl _ rfl (by simp [OutstationOutput.isMark, OutstationOutput.isAnswered])

/-- **Only the first copy of a request is acted on**: in every run, a request other than a READ is taken for a new
one only if since its last copy another new request came, a confirmation was accepted or the session went offline; and
the command handler is called, but for requests that are not answered, with the commands of such a request and directly
behind it. -/
theorem requests_first_copy [Inhabited V] (P : OutstationParts V σ App C S) (addresses : Addresses)
    (params : OutstationParams) (app : App) (inputs : List (Nat × OutstationInput V App)) :
    Log.Justified (FirstCopy P params)
      ((ofConfig config addresses params app : OContext V σ App C config).run P inputs).log :=
  (run_invariant (P := P) (B := fun _ => True) firstCopies_move (s := ofConfig config addresses params app)
    ⟨rfl, fun _ _ h => absurd h Log.not_since_nil, Log.justified_nil⟩ fun i _ => i.2.broadcasts_any).justified

/-! ## Repeats -/

/-- The answer to the request remembered as `last`. -/
def Answers (last : LastRequest) (response : Response σ) (pre : List (OutstationOutput σ C))
    (o : OutstationOutput σ C) : Prop :=
  ∃ before r now, Serving r now pre before ∧ last = .ofRequest r.header r.objects ∧
    o = .transmit r.addresses.source (some response)

/-- Why a solicited response goes out. -/
inductive Solicited (pre : List (OutstationOutput σ C)) (destination : UInt16) (response : Response σ) : Prop
  /-- It answers a request just taken for a new one. -/
  | first (before : List (OutstationOutput σ C)) (r : ParsedRequest) (now : Nat) (h : Serving r now pre before)
      (hdestination : destination = r.addresses.source)
  /-- The response before it has been confirmed. -/
  | next (before : List (OutstationOutput σ C)) (seq : UInt8) (h : pre = before ++ [.confirmed false seq])
  /-- A request came again, and this is the answer of the first copy. -/
  | again (before : List (OutstationOutput σ C)) (r : ParsedRequest) (last : LastRequest)
      (h : pre = before ++ [.repeated r]) (hdestination : destination = r.addresses.source)
      (hequals : last.fullyEquals r.header r.objects = true)
      (hsince : Log.Since (Answers last response) (OutstationOutput.supersedes response) before)

def SolicitedAnswer (pre : List (OutstationOutput σ C)) (o : OutstationOutput σ C) : Prop :=
  ∀ destination response, o = .transmit destination (some response) → response.control.uns = false →
    Solicited pre destination response

/-- The answer to the request remembered is the last response kept. -/
structure KeepsAnswer (s : OContext V σ App C config) : Prop where
  answered : ∀ last, s.history = some last → ∃ response, s.solTx = some response ∧
    Log.Since (Answers last response) (OutstationOutput.supersedes response) s.log
  unsolicited : ∀ response, s.unsolTx = some response → response.control.uns = true
  solicited : Log.Justified SolicitedAnswer s.log

/-- Calls of the command handler, marks, and unsolicited responses. -/
theorem solicitedAnswer_of_not {o : OutstationOutput σ C}
    (h : ∀ destination response, o = .transmit destination (some response) → response.control.uns = true)
    (pre : List (OutstationOutput σ C)) : SolicitedAnswer pre o := by
  intro destination response ho huns
  rw [h destination response ho] at huns
  cases huns

theorem solicitedAnswer_command {o : OutstationOutput σ C} (h : o.isCommand) (pre : List (OutstationOutput σ C)) :
    SolicitedAnswer pre o := by
  refine solicitedAnswer_of_not ?_ pre
  rintro _ _ rfl
  exact h.elim

theorem KeepsAnswer.keep (h : KeepsAnswer s) (hhistory : t.history = s.history) (hsolTx : t.solTx = s.solTx)
    (hunsolTx : t.unsolTx = s.unsolTx) (outs : List (OutstationOutput σ C)) (hlog : t.log = s.log ++ outs)
    (hkept : ∀ response, s.solTx = some response → ∀ o ∈ outs, ¬o.supersedes response)
    (houts : ∀ pre, ∀ o ∈ outs, SolicitedAnswer pre o) : KeepsAnswer t where
  answered last hlast := by
    rw [hhistory] at hlast
    obtain ⟨response, hresponse, hsince⟩ := h.answered last hlast
    refine ⟨response, hsolTx.trans hresponse, ?_⟩
    rw [hlog]
    exact hsince.append (hkept response hresponse)
  unsolicited response hresponse := h.unsolicited response (hunsolTx ▸ hresponse)
  solicited := by
    rw [hlog]
    exact h.solicited.append houts

/-- An entry that is no transmission and makes the session forget nothing. -/
theorem KeepsAnswer.mark (h : KeepsAnswer s) (hhistory : t.history = s.history) (hsolTx : t.solTx = s.solTx)
    (hunsolTx : t.unsolTx = s.unsolTx) (o : OutstationOutput σ C) (hlog : t.log = s.log ++ [o])
    (hkept : ∀ response, ¬o.supersedes response)
    (ho : ∀ destination response, o ≠ .transmit destination (some response)) : KeepsAnswer t := by
  refine h.keep hhistory hsolTx hunsolTx [o] hlog (fun response _ => by simpa using hkept response) fun pre o' ho' => ?_
  obtain rfl := List.mem_singleton.1 ho'
  exact solicitedAnswer_of_not (fun destination response heq => absurd heq (ho destination response)) pre

/-- What makes the session forget. -/
theorem KeepsAnswer.forget (h : KeepsAnswer s) (hhistory : t.history = none) (hunsolTx : t.unsolTx = s.unsolTx)
    (o : OutstationOutput σ C) (hlog : t.log = s.log ++ [o])
    (ho : ∀ destination response, o ≠ .transmit destination (some response)) : KeepsAnswer t where
  answered last hlast := by
    rw [hhistory] at hlast
    cases hlast
  unsolicited response hresponse := h.unsolicited response (hunsolTx ▸ hresponse)
  solicited := by
    rw [hlog, Log.justified_concat]
    exact ⟨h.solicited, solicitedAnswer_of_not (fun d response heq => absurd heq (ho d response)) _⟩

/-- A new request is answered. -/
theorem KeepsAnswer.deliver (h : KeepsAnswer s) (hhistory : u.history = some (.ofRequest r.header r.objects))
    (hunsolTx : u.unsolTx = s.unsolTx) (outs : List (OutstationOutput σ C))
    (hlog : u.log = s.log ++ .newRequest r s.now :: outs) (houts : ∀ o ∈ outs, o.isCommand) (response : Response σ)
    (state : OutstationState) : KeepsAnswer (u.deliver r.addresses.source response state) where
  answered last hlast := by
    obtain rfl := Option.some.inj (hhistory.symm.trans hlast)
    exact ⟨response, rfl, Log.Since.here ⟨s.log, r, s.now, ⟨outs, hlog, houts⟩, rfl, rfl⟩⟩
  unsolicited response hresponse := h.unsolicited response (hunsolTx ▸ hresponse)
  solicited := by
    have hacted : Log.Justified SolicitedAnswer u.log := by
      rw [hlog]
      refine h.solicited.append fun pre o ho => ?_
      rcases List.mem_cons.1 ho with rfl | ho
      · exact solicitedAnswer_of_not (by simp) pre
      · exact solicitedAnswer_command (houts o ho) pre
    refine Log.justified_concat.2 ⟨hacted, ?_⟩
    rintro _ _ heq _
    cases heq
    exact .first s.log r s.now ⟨outs, hlog, houts⟩ rfl

/-- An unsolicited response goes out. -/
theorem KeepsAnswer.announce (h : KeepsAnswer s) (response : Response σ) (huns : response.control.uns = true)
    (state : OutstationState) : KeepsAnswer (s.announce response state) where
  answered last hlast := by
    obtain ⟨response', hsolTx, hsince⟩ := h.answered last hlast
    exact ⟨response', hsolTx, hsince.append (by simp [OutstationOutput.supersedes, huns])⟩
  unsolicited response' hresponse' := by
    obtain rfl := Option.some.inj hresponse'
    exact huns
  solicited := by
    refine Log.justified_concat.2 ⟨h.solicited, solicitedAnswer_of_not (fun d response' heq => ?_) _⟩
    rw [OutstationOutput.transmit.injEq] at heq
    obtain rfl := Option.some.inj heq.2
    exact huns

/-- The last response goes out again, for whoever has repeated the request. -/
theorem KeepsAnswer.retransmit (h : KeepsAnswer s) (hrepeat : s.IsRepeat r) (timer : Bool) :
    KeepsAnswer { s with
      isTransmitting := true
      confirmTimer := timer
      log := s.log ++ [.repeated r, .transmit r.addresses.source s.solTx] } := by
  obtain ⟨last, hhistory, -, hequals⟩ := hrepeat
  obtain ⟨response, hsolTx, hsince⟩ := h.answered last hhistory
  refine ⟨fun last' hlast' => ?_, h.unsolicited, ?_⟩
  · obtain ⟨response', hresponse', hsince'⟩ := h.answered last' hlast'
    refine ⟨response', hresponse', hsince'.append fun o ho => ?_⟩
    rw [hresponse'] at ho
    rcases List.mem_pair.1 ho with rfl | rfl <;> simp [OutstationOutput.supersedes]
  · refine Log.justified_append.2 ⟨h.solicited, ?_⟩
    rw [show [OutstationOutput.repeated r, .transmit r.addresses.source s.solTx] =
      [.repeated r] ++ [.transmit r.addresses.source s.solTx] from rfl, Log.justified_concat, Log.justified_singleton]
    refine ⟨solicitedAnswer_of_not (by simp) _, ?_⟩
    rintro destination response' heq -
    rw [OutstationOutput.transmit.injEq, hsolTx] at heq
    obtain ⟨rfl, hresponse'⟩ := heq
    obtain rfl := Option.some.inj hresponse'
    exact .again s.log r last rfl rfl hequals hsince

theorem keepsAnswer_move (hmove : Move P B s t) (h : KeepsAnswer s) : KeepsAnswer t := by
  cases hmove with
  | clock | online | broadcast | leaveWait | defer | timeout | giveUp =>
    exact h.keep rfl rfl rfl [] (List.append_nil _).symm (by simp) (by simp)
  | sent => exact h.mark rfl rfl rfl .ready rfl (fun _ => not_false) (by simp)
  | offline honline =>
    rw [onLowerLayerDown, if_pos honline]
    exact h.forget rfl rfl .offline rfl (by simp)
  | enact henact =>
    obtain ⟨_, _, _, _, _, _, outs, rfl, houts⟩ := henact
    have hcommands : ∀ o ∈ outs, o.isCommand := fun o ho => OutstationOutput.isUnanswered_isCommand (houts o ho)
    exact h.keep rfl rfl rfl outs rfl
      (fun response _ o ho => OutstationOutput.isCommand_not_supersedes (hcommands o ho) response)
      fun pre o ho => solicitedAnswer_command (hcommands o ho) pre
  | @answer u r timer deferred response state hfunction hnew htransmitting hacts hcontrol hstate =>
    obtain ⟨_, _, _, _, _, _, _, outs, hu, houts⟩ := hacts.frame
    exact h.deliver (by rw [hu]; rfl) (by rw [hu]; rfl) outs (by rw [hu]; simp [recorded])
      (fun o ho => (houts o ho).isCommand) _ _
  | @read r timer app events fragmentCount control response hfunction htransmitting hcontrol hfirst =>
    exact h.deliver (r := r) (by rfl) (by rfl) [] (by rfl) (by simp) _ _
  | deferRead r deferred hfunction =>
    exact h.mark rfl rfl rfl (.newRequest r s.now) rfl (fun _ hnot => hnot hfunction) (by simp)
  | @retransmit r timer hrepeat htransmitting htimer => exact h.retransmit hrepeat timer
  | repeatDeferred r => exact h.mark rfl rfl rfl (.repeated r) rfl (fun _ => not_false) (by simp)
  | confirm => exact h.forget rfl rfl (.confirmed _ _) rfl (by simp)
  | @continued r app events written fragmentCount response =>
    have hforgot : KeepsAnswer { s with history := none, log := s.log ++ [.confirmed false s.solConfirmNum] } :=
      h.forget rfl rfl (.confirmed _ _) rfl (by simp)
    exact {
      answered := fun _ hlast => by cases hlast
      unsolicited := h.unsolicited
      solicited := Log.justified_concat.2 ⟨hforgot.solicited, fun _ _ _ _ => .next s.log s.solConfirmNum rfl⟩ }
  | confirmUnsolicited => exact h.forget rfl rfl (.confirmed _ _) rfl (by simp)
  | retry =>
    refine h.keep rfl rfl rfl [.transmit s.addresses.destination s.unsolTx] rfl (fun response _ o ho => ?_) ?_
    · rw [List.mem_singleton.1 ho]
      cases hunsolTx : s.unsolTx with
      | none => exact not_false
      | some other => simp [OutstationOutput.supersedes, h.unsolicited other hunsolTx]
    · intro pre o ho
      refine solicitedAnswer_of_not (fun d response heq => ?_) pre
      rw [List.mem_singleton.1 ho, OutstationOutput.transmit.injEq] at heq
      exact h.unsolicited response heq.2
  | announceNull htransmitting hidle hallow hnull hcontrol hbody hstate => exact h.announce _ (by rw [hcontrol]) _
  | report unsolRetries should htransmitting hidle hallow hnull hcontrol hwriting =>
    refine KeepsAnswer.announce ?_ _ (by rw [hcontrol]) _
    exact h.keep rfl rfl rfl [] (List.append_nil _).symm (by simp) (by simp)

/-- **A repeat is answered with the answer of the first copy**: in every run, a solicited response answers a request
just taken for a new one, or follows the confirmation of the fragment before it, or goes upon a repeat to whoever has
sent it. Then it is the one that answered a request with the same header, and objects of the same length and checksum;
and since that answer no other solicited response has gone out, no request but READs was taken for a new one, no
confirmation was accepted, and the session did not go offline. -/
theorem repeat_answered [Inhabited V] (P : OutstationParts V σ App C S) (addresses : Addresses)
    (params : OutstationParams) (app : App) (inputs : List (Nat × OutstationInput V App)) :
    Log.Justified SolicitedAnswer
      ((ofConfig config addresses params app : OContext V σ App C config).run P inputs).log :=
  (run_invariant (P := P) (B := fun _ => True) keepsAnswer_move (s := ofConfig config addresses params app)
    ⟨fun _ h => (by cases h), fun _ h => (by cases h), Log.justified_nil⟩ fun i _ => i.2.broadcasts_any).solicited

/-! ## Selected commands -/

/-- A SELECT was accepted with all its commands that are looked at, and left `selection`. -/
def Selects (P : OutstationParts V σ App C S) (params : OutstationParams) (selection : Selection)
    (log : List (OutstationOutput σ C)) : Prop :=
  ∃ before r now after, log = before ++ .newRequest r now ::
      ((P.commandsOf params.maxControlsPerRequest r.objects).map fun c => .select c.1 c.2 .success) ++ after ∧
    r.header.function = .select ∧ selection = .ofSelect r.header.control.seq now r.objects

/-- A command is operated as selected only for an OPERATE that holds it, and that comes after a SELECT with the
sequence number before its own, less than the timeout before it, of objects of the same length and checksum. -/
def Operated (P : OutstationParts V σ App C S) (params : OutstationParams) (pre : List (OutstationOutput σ C))
    (o : OutstationOutput σ C) : Prop :=
  ∀ command index status, o = .operate command index .selectBeforeOperate status →
    ∃ before r now, Serving r now pre before ∧ r.header.function = .operate ∧
      (command, index) ∈ P.commandsOf params.maxControlsPerRequest r.objects ∧
      ∃ selection, Selects P params selection before ∧ selection.expectedSeq = r.header.control.seq ∧
        selection.selectTime ≤ now ∧ now - selection.selectTime < params.selectTimeout ∧
        selection.length = r.objects.length ∧ selection.digest = calcCrc r.objects

theorem validateSelection_success {control : Option Selection} {seq : UInt8} {now timeout : Nat} {objects : List UInt8}
    (h : validateSelection control seq now timeout objects = .success) :
    ∃ selection, control = some selection ∧ selection.expectedSeq = seq ∧ selection.selectTime ≤ now ∧
      now - selection.selectTime < timeout ∧ selection.length = objects.length ∧ selection.digest = calcCrc objects := by
  unfold validateSelection at h
  split at h
  · cases h
  next selection =>
    split at h
    · cases h
    next hseq =>
      split at h
      · cases h
      next hnow =>
        split at h
        · cases h
        next htimeout =>
          split at h
          next hequal =>
            simp only [Bool.and_eq_true, beq_iff_eq] at hequal
            exact ⟨selection, rfl, by simpa using hseq, Nat.le_of_not_lt hnow, Nat.lt_of_not_le htimeout, hequal⟩
          · cases h

/-- The selection comes of a SELECT. -/
structure Selected (P : OutstationParts V σ App C S) (params : OutstationParams) (s : OContext V σ App C config) :
    Prop where
  same : s.params = params
  selects : ∀ selection, s.control = some selection → Selects P params selection s.log
  operated : Log.Justified (Operated P params) s.log

theorem Selects.append {selection : Selection} {log : List (OutstationOutput σ C)} (h : Selects P params selection log)
    (outs : List (OutstationOutput σ C)) : Selects P params selection (log ++ outs) := by
  obtain ⟨before, r, now, after, rfl, hfunction, hselection⟩ := h
  exact ⟨before, r, now, after ++ outs, by simp, hfunction, hselection⟩

theorem operated_of_not {o : OutstationOutput σ C} (h : ¬o.isSelected) (pre : List (OutstationOutput σ C)) :
    Operated P params pre o := by
  rintro command index status rfl
  exact absurd rfl h

theorem Selected.keep (h : Selected P params s) (hparams : t.params = s.params)
    (hcontrol : t.control = s.control ∨ t.control = none) (outs : List (OutstationOutput σ C))
    (hlog : t.log = s.log ++ outs) (houts : ∀ o ∈ outs, ¬o.isSelected) : Selected P params t where
  same := hparams.trans h.same
  selects selection hselection := by
    rw [hlog]
    rcases hcontrol with hcontrol | hcontrol
    · exact (h.selects selection (hcontrol ▸ hselection)).append outs
    · rw [hcontrol] at hselection
      cases hselection
  operated := by
    rw [hlog]
    exact h.operated.append fun pre o ho => operated_of_not (houts o ho) pre

/-- What a request does to the selection, and what it may operate. -/
theorem Selected.acts (h : Selected P params s) {timer : Bool} {deferred : Option ParsedRequest}
    (hacts : Acts P r.header r.objects { s.recorded r with confirmTimer := timer, deferred } u) : Selected P params u := by
  have hrecorded : Selected P params { s.recorded r with confirmTimer := timer, deferred } :=
    h.keep rfl (Or.inl rfl) [.newRequest r s.now] rfl (by simp [OutstationOutput.isSelected])
  cases hacts with
  | enact henact =>
    obtain ⟨_, _, _, _, _, _, outs, rfl, houts⟩ := henact
    exact hrecorded.keep rfl (Or.inl rfl) outs rfl fun o ho =>
      OutstationOutput.isUnanswered_not_isSelected (houts o ho)
  | select app outs hfunction houts =>
    refine hrecorded.keep rfl (Or.inl rfl) outs rfl fun o ho => ?_
    obtain ⟨_, _, _, -, rfl⟩ := houts o ho
    exact not_false
  | selected app outs hfunction houts =>
    have hlog : Selected P params { s.recorded r with
        confirmTimer := timer, deferred, app, control := none, log := (s.recorded r).log ++ outs } := by
      refine hrecorded.keep rfl (Or.inr rfl) outs rfl fun o ho => ?_
      rw [houts] at ho
      obtain ⟨_, -, rfl⟩ := List.mem_map.1 ho
      exact not_false
    refine ⟨hlog.same, fun selection hselection => ?_, hlog.operated⟩
    obtain rfl := Option.some.inj hselection
    refine ⟨s.log, r, s.now, [], ?_, hfunction, rfl⟩
    rw [← h.same]
    simp [recorded, houts]
  | operate app updates outs hfunction hvalid houts =>
    obtain ⟨selection, hselection, hvalid⟩ := validateSelection_success hvalid
    refine ⟨h.same, fun selection' hselection' => (hrecorded.selects selection' hselection').append outs, ?_⟩
    refine Log.justified_append.2 ⟨hrecorded.operated, ?_⟩
    rintro pre _ post hpre command index status rfl
    have hcommands : ∀ o ∈ outs, o.isCommand := fun o ho => by
      obtain ⟨_, _, _, -, rfl⟩ := houts o ho
      trivial
    obtain ⟨_, _, _, hmem, heq⟩ := houts _ (hpre ▸ List.mem_append_right pre List.mem_cons_self)
    cases heq
    refine ⟨s.log, r, s.now, ⟨pre, by simp [recorded], fun o ho => hcommands o (by simp [hpre, ho])⟩, hfunction, ?_,
      selection, h.selects selection hselection, ?_⟩
    · rw [← h.same]
      exact hmem
    · rw [← h.same]
      exact hvalid
  | refuse app hfunction => exact hrecorded.keep rfl (Or.inr rfl) [] (List.append_nil _).symm (by simp)
  | direct app updates should outs hfunction houts =>
    refine hrecorded.keep rfl (Or.inl rfl) outs rfl fun o ho => ?_
    obtain ⟨_, _, _, -, rfl⟩ := houts o ho
    exact fun hselected => by cases hselected

theorem selected_move (hmove : Move P B s t) (h : Selected P params s) : Selected P params t := by
  cases hmove with
  | clock | online | broadcast | leaveWait | defer | timeout | giveUp =>
    exact h.keep rfl (Or.inl rfl) [] (List.append_nil _).symm (by simp)
  | offline honline =>
    rw [onLowerLayerDown, if_pos honline]
    exact h.keep rfl (Or.inl rfl) [.offline] rfl (by simp [OutstationOutput.isSelected])
  | enact henact =>
    obtain ⟨_, _, _, _, _, _, outs, rfl, houts⟩ := henact
    exact h.keep rfl (Or.inl rfl) outs rfl fun o ho => OutstationOutput.isUnanswered_not_isSelected (houts o ho)
  | answer hfunction hnew htransmitting hacts hcontrol hstate =>
    exact (h.acts hacts).keep rfl (Or.inl rfl) [.transmit _ _] rfl (by simp [OutstationOutput.isSelected])
  | @read r timer app events fragmentCount control response hfunction htransmitting hcontrol hfirst =>
    exact h.keep rfl (Or.inl rfl) [.newRequest r s.now, .transmit r.addresses.source (some response)]
      (by simp [deliver, recorded])
      (by simp [OutstationOutput.isSelected])
  | @continued r app events written fragmentCount response =>
    exact h.keep rfl (Or.inl rfl)
      [.confirmed false s.solConfirmNum, .transmit r.addresses.source (some response)] (by simp [deliver])
      (by simp [OutstationOutput.isSelected])
  | sent | deferRead | retransmit | repeatDeferred | confirm | confirmUnsolicited | retry | announceNull | report =>
    exact h.keep rfl (Or.inl rfl) _ rfl (by simp [OutstationOutput.isSelected])

/-- **Select before operate**: in every run, a command is operated as selected only where a SELECT of as many bytes
with the same checksum came in time, all of its commands that are looked at were accepted, and the OPERATE that holds
the command has the sequence number after it. -/
theorem operate_selected [Inhabited V] (P : OutstationParts V σ App C S) (addresses : Addresses)
    (params : OutstationParams) (app : App) (inputs : List (Nat × OutstationInput V App)) :
    Log.Justified (Operated P params)
      ((ofConfig config addresses params app : OContext V σ App C config).run P inputs).log :=
  (run_invariant (P := P) (B := fun _ => True) (I := Selected P params) selected_move
    (s := ofConfig config addresses params app) ⟨rfl, fun _ h => (by cases h), Log.justified_nil⟩
    fun i _ => i.2.broadcasts_any).operated

end OContext

end Opendnp3
