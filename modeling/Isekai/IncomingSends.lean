import Isekai.RnrSystem
import Isekai.SglPackets

/-! The receiver of a Send of several packets. It cuts the Recv at the head of its queue as the
sender cut the Send, and takes a packet that is what it cut off; any other packet is answered with
an RNR NACK and leaves the Recv as it was. -/

namespace Isekai.IncomingSends
open RdmaFalcon SglPackets RnrSystem SequenceNumber
open CreditProofs (totalLength)

variable {packet : Packet}

/-! ## Incoming Sends -/

/-- A receive operation with its completion callback, which is known by a number. -/
structure Recv where
  sgl : List UInt32
  completionCallback : Nat
  deriving DecidableEq, Repr

/-- The receive side of a queue pair. -/
structure ReceiveQp where
  isConnected : Bool
  context : FalconQpContext
  receiveQueue : List Recv := []
  deriving DecidableEq

/-- Why the receiver stops: a Send of an unordered connection, or an RSN that is out of order. -/
inductive Failure where
  | unorderedSend
  | rsn (abort : Abort)
  deriving DecidableEq, Repr

/-- What the packet is against the Recv at the head of the queue, and the queue after it. -/
structure Matched where
  recvMismatch : Bool
  isEnd : Bool
  receiveQueue : List Recv
  deriving DecidableEq, Repr

/-- The first half of `ProcessIncomingSend`. -/
def matchRecv (rdmaMtu : UInt32) (qp : ReceiveQp) (packet : Packet) : Except Failure Matched :=
  match qp.receiveQueue with
  | [] => .ok { recvMismatch := true, isEnd := false, receiveQueue := [] }
  | recv :: later =>
    match isRsnAcceptable qp.context packet.rsn with
    | .error abort => .error (.rsn abort)
    | .ok false => .ok { recvMismatch := true, isEnd := false, receiveQueue := recv :: later }
    | .ok true =>
      if packet.inlinePayloadLength ≠ 0 then
        if recv.sgl.sum ≠ packet.inlinePayloadLength then
          .ok { recvMismatch := true, isEnd := false, receiveQueue := recv :: later }
        else .ok { recvMismatch := false, isEnd := true, receiveQueue := recv :: later }
      else
        let oldSgl := recv.sgl
        let (expectedSgl, rest) := cutPacketFromSgl recv.sgl rdmaMtu
        let front := { recv with sgl := rest }
        if packet.sgl ≠ expectedSgl then
          .ok { recvMismatch := true, isEnd := false
                receiveQueue := { front with sgl := oldSgl } :: later }
        else .ok { recvMismatch := false, isEnd := rest.isEmpty, receiveQueue := front :: later }

/-- The answer to a packet, and the completion callback that goes to the host with it. -/
structure Answer where
  syndrome : Syndrome
  completionCallback : Option Nat := none
  deriving DecidableEq

/-- `ProcessIncomingSend`. The ack and the callback follow once the host has the packet. -/
def processIncomingSend (rdmaMtu : UInt32) (qp : ReceiveQp) (packet : Packet) :
    Except Failure (Answer × ReceiveQp) :=
  if qp.isConnected = true ∧ qp.context.rcMode ≠ .orderedRc then .error .unorderedSend
  else do
    let found ← matchRecv rdmaMtu qp packet
    if found.recvMismatch then
      .ok ({ syndrome := .rnrNak },
        { qp with context := enterRnrState qp.context, receiveQueue := found.receiveQueue })
    else
      let context := leaveRnrState (updateNextRsnToReceive qp.context)
      if found.isEnd then
        .ok ({ syndrome := .ack
               completionCallback := found.receiveQueue.head?.map Recv.completionCallback },
          { qp with context, receiveQueue := found.receiveQueue.tail })
      else .ok ({ syndrome := .ack }, { qp with context, receiveQueue := found.receiveQueue })

/-- `PostOp` of a Recv. -/
def postRecv (qp : ReceiveQp) (recv : Recv) : ReceiveQp :=
  { qp with receiveQueue := qp.receiveQueue ++ [recv] }

/-- The packets of an operation, one for each turn that it gets from the work scheduler. -/
def sendPackets (config : SizeConfig) (op : RdmaOp) : Nat → UInt32 → Except Fault (List Packet)
  | 0, _ => .ok []
  | count + 1, rsn => do
    let (packet, rest) ← createRequestPacket config op rsn
    let later ← sendPackets config { op with sgl := rest } count (rsn + 1)
    .ok (packet :: later)

/-! ## Runs of the receiver -/

/-- The packet of a Send with this number. -/
structure IsPacket (mtu start : UInt32) (sgl : List UInt32) (number : Nat) (packet : Packet) :
    Prop where
  rsn : packet.rsn = advance start number
  fragments : packet.sgl = piece mtu sgl number
  notInline : packet.inlinePayloadLength = 0

/-- The queue pair, with the packets of the Send that it has taken and the callbacks that it has
handed on, which it does not record itself. -/
structure State where
  qp : ReceiveQp
  taken : Nat := 0
  completed : List Nat := []

/-- A packet has been answered. -/
def State.answered (state : State) (answer : Answer) (qp : ReceiveQp) : State where
  qp := qp
  taken := if answer.syndrome = .ack then state.taken + 1 else state.taken
  completed := state.completed ++ answer.completionCallback.toList

/-- The receiver expects the first packet of a Send on an ordered connection or as a datagram, and
the Recv is at the head of its queue or comes there next. -/
structure Begins (start : UInt32) (recv : Recv) (state : State) : Prop where
  kind : state.qp.isConnected = true ∧ state.qp.context.rcMode = .orderedRc ∧
      state.qp.context.nextRxRsn = start ∨
    state.qp.isConnected = false ∧ state.qp.context.rcMode = .unorderedRc
  queue : state.qp.receiveQueue = [] ∨ ∃ later, state.qp.receiveQueue = recv :: later
  taken : state.taken = 0
  completed : state.completed = []

/-- What happens until the Send is complete. Packets of it come in any order and any number of
times, except that nothing but their order tells datagrams apart; so do other packets, under
other RSNs, which may be refused. -/
inductive Step (mtu start : UInt32) (recv : Recv) : State → State → Prop where
  | send {state : State} {packet : Packet} {answer : Answer} {qp : ReceiveQp}
      (unfinished : state.taken < packetCount mtu recv.sgl)
      (known : ∀ number < packetCount mtu recv.sgl, packet.rsn = advance start number →
        IsPacket mtu start recv.sgl number packet)
      (inTurn : state.qp.isConnected = false → packet.rsn = advance start state.taken)
      (done : processIncomingSend mtu state.qp packet = .ok (answer, qp)) :
      Step mtu start recv state (state.answered answer qp)
  | other {state : State} {rsn : UInt32} {refuse : Bool} {syndrome : Syndrome}
      {context : FalconQpContext} (unfinished : state.taken < packetCount mtu recv.sgl)
      (foreign : ∀ number < packetCount mtu recv.sgl, rsn ≠ advance start number)
      (done : processIncoming state.qp.context rsn refuse = .ok (syndrome, context)) :
      Step mtu start recv state { state with qp := { state.qp with context } }
  | post {state : State} {posted : Recv} (unfinished : state.taken < packetCount mtu recv.sgl)
      (first : state.qp.receiveQueue = [] → posted = recv) :
      Step mtu start recv state { state with qp := postRecv state.qp posted }

/-- The receiver takes the packet that is next if there is a Recv, and no other one; a packet that
it refuses leaves the queue as it was; and the Recv is complete with the last packet, not before. -/
structure OnTheWay (mtu start : UInt32) (recv : Recv) (state : State) : Prop where
  inOrder : ∀ packet, state.taken < packetCount mtu recv.sgl → state.qp.receiveQueue ≠ [] →
    IsPacket mtu start recv.sgl state.taken packet →
    ∃ qp, processIncomingSend mtu state.qp packet =
      .ok ({ syndrome := .ack
             completionCallback := if state.taken + 1 = packetCount mtu recv.sgl then
               some recv.completionCallback else none }, qp)
  noOther : ∀ packet answer qp, state.taken < packetCount mtu recv.sgl →
    (state.qp.isConnected = false → packet.rsn = advance start state.taken) →
    processIncomingSend mtu state.qp packet = .ok (answer, qp) → answer.syndrome = .ack →
    packet.rsn = advance start state.taken
  restored : ∀ packet answer qp, processIncomingSend mtu state.qp packet = .ok (answer, qp) →
    answer.syndrome = .rnrNak → qp.receiveQueue = state.qp.receiveQueue
  completed : state.completed =
    if 0 < state.taken ∧ state.taken = packetCount mtu recv.sgl then [recv.completionCallback]
    else []

/-! ## One packet -/

variable {mtu start : UInt32} {recv : Recv} {sgl : List UInt32} {state : State}

/-- A packet is refused and the queue stays, or it is taken: with the whole Recv at once if it is
inline, otherwise with what is cut from it. -/
theorem incoming_send_cases {qp after : ReceiveQp} {answer : Answer}
    (done : processIncomingSend mtu qp packet = .ok (answer, after)) :
    answer = { syndrome := .rnrNak } ∧ after = { qp with context := enterRnrState qp.context } ∨
    isRsnAcceptable qp.context packet.rsn = .ok true ∧
      after.isConnected = qp.isConnected ∧
      after.context = leaveRnrState (updateNextRsnToReceive qp.context) ∧
      answer.syndrome = .ack ∧
      ∃ front later, qp.receiveQueue = front :: later ∧
        (packet.inlinePayloadLength = 0 →
          packet.sgl = (cutPacketFromSgl front.sgl mtu).1 ∧
          ((cutPacketFromSgl front.sgl mtu).2 = [] ∧
              answer.completionCallback = some front.completionCallback ∧
              after.receiveQueue = later ∨
            (cutPacketFromSgl front.sgl mtu).2 ≠ [] ∧ answer.completionCallback = none ∧
              after.receiveQueue =
                { front with sgl := (cutPacketFromSgl front.sgl mtu).2 } :: later)) := by
  obtain ⟨connected, context, queue⟩ := qp
  unfold processIncomingSend at done
  split_ifs at done with unordered
  obtain ⟨found, matched, done⟩ := bind_eq_ok.1 done
  -- A mismatch leaves the queue, whatever it is due to.
  have refused (mismatch : found.recvMismatch = true) (same : found.receiveQueue = queue) :
      answer = { syndrome := .rnrNak } ∧ after = ⟨connected, enterRnrState context, queue⟩ := by
    rw [if_pos mismatch] at done
    cases done
    exact ⟨rfl, by rw [same]⟩
  cases queue with
  | nil =>
    cases matched
    exact .inl (refused rfl rfl)
  | cons front later =>
    simp only [matchRecv] at matched
    split at matched
    · cases matched
    · cases matched
      exact .inl (refused rfl rfl)
    · rename_i acceptable
      split_ifs at matched with inline_ unequal other
      · cases matched
        exact .inl (refused rfl rfl)
      · cases matched
        cases done
        exact .inr ⟨acceptable, rfl, rfl, rfl, front, later, rfl,
          fun none_ => absurd none_ inline_⟩
      · cases matched
        exact .inl (refused rfl rfl)
      · cases matched
        refine .inr ⟨acceptable, ?_⟩
        by_cases left : (cutPacketFromSgl front.sgl mtu).2 = []
        · simp only [left, List.isEmpty_nil, Bool.false_eq_true, if_false, if_true] at done
          cases done
          exact ⟨rfl, rfl, rfl, front, later, rfl,
            fun _ => ⟨not_not.1 other, .inl ⟨left, rfl, rfl⟩⟩⟩
        · have more : (cutPacketFromSgl front.sgl mtu).2.isEmpty = false := by simpa using left
          simp only [more, Bool.false_eq_true, if_false] at done
          cases done
          exact ⟨rfl, rfl, rfl, front, later, rfl,
            fun _ => ⟨not_not.1 other, .inr ⟨left, rfl, rfl⟩⟩⟩

theorem incoming_send_taken {qp : ReceiveQp} {front : Recv} {later : List Recv}
    (implemented : ¬(qp.isConnected = true ∧ qp.context.rcMode ≠ .orderedRc))
    (posted : qp.receiveQueue = front :: later)
    (acceptable : isRsnAcceptable qp.context packet.rsn = .ok true)
    (notInline : packet.inlinePayloadLength = 0)
    (fragments : packet.sgl = (cutPacketFromSgl front.sgl mtu).1) :
    ∃ after, processIncomingSend mtu qp packet =
      .ok ({ syndrome := .ack
             completionCallback := if (cutPacketFromSgl front.sgl mtu).2 = [] then
               some front.completionCallback else none }, after) := by
  have found : matchRecv mtu qp packet =
      .ok { recvMismatch := false, isEnd := (cutPacketFromSgl front.sgl mtu).2.isEmpty
            receiveQueue := { front with sgl := (cutPacketFromSgl front.sgl mtu).2 } :: later } := by
    simp only [matchRecv, posted, acceptable, notInline, fragments, ne_eq, not_true_eq_false,
      if_false]
  rw [processIncomingSend, if_neg implemented, found]
  by_cases left : (cutPacketFromSgl front.sgl mtu).2 = []
  · simp [bind, Except.bind, left]
  · simp [bind, Except.bind, left]

/-! ## Every run -/

/-- How far the receiver is: it expects the RSN after those that it took, and the Recv has what the
packets taken have left of it. -/
structure Follows (mtu start : UInt32) (recv : Recv) (state : State) : Prop where
  kind : state.qp.isConnected = true ∧ state.qp.context.rcMode = .orderedRc ∧
      state.qp.context.nextRxRsn = advance start state.taken ∨
    state.qp.isConnected = false ∧ state.qp.context.rcMode = .unorderedRc
  within : state.taken ≤ packetCount mtu recv.sgl
  queue : state.taken < packetCount mtu recv.sgl →
    state.qp.receiveQueue = [] ∧ state.taken = 0 ∨
    ∃ later, state.qp.receiveQueue =
      { recv with sgl := remainder mtu state.taken recv.sgl } :: later
  completed : state.completed =
    if 0 < state.taken ∧ state.taken = packetCount mtu recv.sgl then [recv.completionCallback]
    else []

namespace Follows

theorem implemented (follows : Follows mtu start recv state) :
    ¬(state.qp.isConnected = true ∧ state.qp.context.rcMode ≠ .orderedRc) := by
  rintro ⟨connected, other⟩
  obtain ⟨-, ordered, -⟩ | ⟨datagram, -⟩ := follows.kind
  · exact other ordered
  · rw [datagram] at connected
    cases connected

/-- On an ordered connection only the RSN that is next is acceptable. -/
theorem acceptable_iff (follows : Follows mtu start recv state) (rsn : UInt32)
    (inTurn : state.qp.isConnected = false → rsn = advance start state.taken) :
    isRsnAcceptable state.qp.context rsn = .ok true ↔ rsn = advance start state.taken := by
  unfold isRsnAcceptable
  obtain ⟨-, ordered, next⟩ | ⟨datagram, unordered⟩ := follows.kind
  · rw [← next]
    by_cases same : rsn = state.qp.context.nextRxRsn
    · simp [same]
    · cases rnr : state.qp.context.inRnr <;> simp [same, ordered]
  · simp [unordered, inTurn datagram]

/-- A refusal moves nothing but the RNR state. -/
theorem refused (follows : Follows mtu start recv state) :
    Follows mtu start recv
      { state with qp := { state.qp with context := enterRnrState state.qp.context } } := by
  refine ⟨?_, follows.within, follows.queue, follows.completed⟩
  unfold enterRnrState
  obtain ⟨connected, ordered, next⟩ | ⟨datagram, unordered⟩ := follows.kind
  · rw [if_pos ordered]
    exact .inl ⟨connected, ordered, next⟩
  · rw [if_neg (by rw [unordered]; decide)]
    exact .inr ⟨datagram, unordered⟩

theorem begins (first : Begins start recv state) : Follows mtu start recv state := by
  refine ⟨?_, by simp [first.taken], fun _ => ?_, by simp [first.taken, first.completed]⟩
  · rw [first.taken, advance_zero]
    exact first.kind
  · rw [first.taken]
    exact first.queue.imp (fun empty => ⟨empty, rfl⟩) id

/-- The Recv is complete when nothing is left of it after the packet that is next. -/
theorem left_iff (cut : CutIntoPackets mtu recv.sgl) (number : Nat) :
    (cutPacketFromSgl (remainder mtu number recv.sgl) mtu).2 = [] ↔
      packetCount mtu recv.sgl ≤ number + 1 := by
  rw [← remainder_succ]
  exact cut.ends _

/-- The packet that is next has been taken. -/
theorem taken (cut : CutIntoPackets mtu recv.sgl) (follows : Follows mtu start recv state)
    (unfinished : state.taken < packetCount mtu recv.sgl) {front : Recv} {later : List Recv}
    (posted : state.qp.receiveQueue = front :: later) {answer : Answer} {qp : ReceiveQp}
    (connected : qp.isConnected = state.qp.isConnected)
    (context : qp.context = leaveRnrState (updateNextRsnToReceive state.qp.context))
    (acked : answer.syndrome = .ack)
    (matched : (cutPacketFromSgl front.sgl mtu).2 = [] ∧
        answer.completionCallback = some front.completionCallback ∧ qp.receiveQueue = later ∨
      (cutPacketFromSgl front.sgl mtu).2 ≠ [] ∧ answer.completionCallback = none ∧
        qp.receiveQueue = { front with sgl := (cutPacketFromSgl front.sgl mtu).2 } :: later) :
    Follows mtu start recv (state.answered answer qp) := by
  have before : state.completed = [] := by
    rw [follows.completed, if_neg (by omega)]
  obtain ⟨empty, -⟩ | ⟨_, same⟩ := follows.queue unfinished
  · rw [empty] at posted
    cases posted
  rw [posted, List.cons.injEq] at same
  obtain ⟨rfl, rfl⟩ := same
  have left := left_iff cut state.taken
  refine ⟨?_, ?_, ?_, ?_⟩
  · simp only [State.answered, connected, context, acked, if_true]
    obtain ⟨isConnected, ordered, next⟩ | ⟨datagram, unordered⟩ := follows.kind
    · simp [isConnected, leaveRnrState, updateNextRsnToReceive, ordered, next, advance_succ]
    · simp [datagram, leaveRnrState, updateNextRsnToReceive, unordered]
  · simp only [State.answered, acked, if_true]
    omega
  · simp only [State.answered, acked, if_true]
    intro more
    obtain ⟨ended, -⟩ | ⟨-, -, queue⟩ := matched
    · exact absurd (left.1 ended) (by omega)
    · exact .inr ⟨_, by rw [queue, remainder_succ]⟩
  · simp only [State.answered, acked, if_true, before, List.nil_append]
    obtain ⟨ended, callback, -⟩ | ⟨more, callback, -⟩ := matched
    · have last := left.1 ended
      rw [callback, if_pos (by omega), Option.toList_some]
    · have early := mt left.2 more
      rw [callback, if_neg (by omega), Option.toList_none]

theorem send (cut : CutIntoPackets mtu recv.sgl) (follows : Follows mtu start recv state)
    {packet : Packet} {answer : Answer} {qp : ReceiveQp}
    (unfinished : state.taken < packetCount mtu recv.sgl)
    (known : ∀ number < packetCount mtu recv.sgl, packet.rsn = advance start number →
      IsPacket mtu start recv.sgl number packet)
    (inTurn : state.qp.isConnected = false → packet.rsn = advance start state.taken)
    (done : processIncomingSend mtu state.qp packet = .ok (answer, qp)) :
    Follows mtu start recv (state.answered answer qp) := by
  obtain ⟨rfl, rfl⟩ | ⟨acceptable, connected, context, acked, front, later, posted, matched⟩ :=
    incoming_send_cases done
  · simpa [State.answered] using follows.refused
  · have next := known _ unfinished ((follows.acceptable_iff _ inTurn).1 acceptable)
    exact follows.taken cut unfinished posted connected context acked
      (matched next.notInline).2

/-- Another operation's packet has been answered: it was refused, or it was a datagram. -/
theorem other (follows : Follows mtu start recv state) {rsn : UInt32} {refuse : Bool}
    {syndrome : Syndrome} {context : FalconQpContext} (foreign : rsn ≠ advance start state.taken)
    (done : processIncoming state.qp.context rsn refuse = .ok (syndrome, context)) :
    Follows mtu start recv { state with qp := { state.qp with context } } := by
  unfold processIncoming at done
  split at done
  · cases done
  · rename_i acceptable judged
    split_ifs at done with nack
    · cases done
      exact follows.refused
    · cases done
      refine ⟨?_, follows.within, follows.queue, follows.completed⟩
      obtain ⟨connected, ordered, next⟩ | ⟨datagram, unordered⟩ := follows.kind
      · have only := follows.acceptable_iff rsn (by simp [connected])
        simp only [Bool.or_eq_true, Bool.not_eq_true', not_or, Bool.not_eq_false] at nack
        exact absurd (only.1 (by rw [judged, nack.1])) foreign
      · exact .inr ⟨datagram, by
          simp [leaveRnrState, updateNextRsnToReceive, unordered]⟩

theorem post (follows : Follows mtu start recv state) {posted : Recv}
    (first : state.qp.receiveQueue = [] → posted = recv) :
    Follows mtu start recv { state with qp := postRecv state.qp posted } := by
  refine ⟨follows.kind, follows.within, fun unfinished => ?_, follows.completed⟩
  obtain ⟨empty, none_⟩ | ⟨later, queue⟩ := follows.queue unfinished
  · refine .inr ⟨[], ?_⟩
    simp [postRecv, empty, first empty, none_, remainder]
  · exact .inr ⟨later ++ [posted], by simp [postRecv, queue]⟩

theorem reached (cut : CutIntoPackets mtu recv.sgl)
    (reached : Runs.Reachable (Begins start recv) (Step mtu start recv) state) :
    Follows mtu start recv state := by
  refine Runs.invariant_of_reachable ?_ ?_ reached
  · exact fun _ first => begins first
  · intro state next follows step
    cases step with
    | send unfinished known inTurn done => exact follows.send cut unfinished known inTurn done
    | other unfinished foreign done => exact follows.other (foreign _ unfinished) done
    | post unfinished first => exact follows.post first

theorem on_the_way (cut : CutIntoPackets mtu recv.sgl) (follows : Follows mtu start recv state) :
    OnTheWay mtu start recv state where
  inOrder packet unfinished some_ next := by
    obtain ⟨empty, -⟩ | ⟨later, posted⟩ := follows.queue unfinished
    · exact absurd empty some_
    have acceptable := (follows.acceptable_iff _ fun _ => next.rsn).2 next.rsn
    have left := left_iff cut state.taken
    have ended : packetCount mtu recv.sgl ≤ state.taken + 1 ↔
        state.taken + 1 = packetCount mtu recv.sgl := by
      omega
    obtain ⟨qp, done⟩ := incoming_send_taken follows.implemented posted acceptable next.notInline
      next.fragments
    refine ⟨qp, ?_⟩
    simp only [left, ended] at done
    exact done
  noOther packet answer qp unfinished inTurn done acked := by
    obtain ⟨rfl, -⟩ | ⟨acceptable, -⟩ := incoming_send_cases done
    · cases acked
    · exact (follows.acceptable_iff _ inTurn).1 acceptable
  restored packet answer qp done refused := by
    obtain ⟨-, rfl⟩ | ⟨-, -, -, acked, -⟩ := incoming_send_cases done
    · rfl
    · rw [acked] at refused
      cases refused
  completed := follows.completed

end Follows

/-! ## The sender -/

/-- What a request takes from the SGL of its operation. -/
theorem created_cut {config : SizeConfig} {op : RdmaOp} {rsn : UInt32} {rest : List UInt32}
    (notInline : op.inlinePayloadLength = 0)
    (created : createRequestPacket config op rsn = .ok (packet, rest)) :
    packet.rsn = rsn ∧ packet.inlinePayloadLength = 0 ∧
      packet.sgl = (cutPacketFromSgl op.sgl config.rdmaMtu).1 ∧
      rest = (cutPacketFromSgl op.sgl config.rdmaMtu).2 ∧ packet.isLastPacket = rest.isEmpty := by
  obtain ⟨⟨opcode, data, length⟩, headers, built⟩ := bind_eq_ok.1 created
  dsimp only at built
  rw [if_neg (not_not.2 notInline)] at built
  obtain ⟨sglLength, counted, done⟩ := bind_eq_ok.1 built
  cases done
  exact ⟨rfl, rfl, rfl, rfl, rfl⟩

/-- The packets that an operation is sent in are those that its SGL is cut into. -/
theorem sent_packets {config : SizeConfig} {op : RdmaOp} (notInline : op.inlinePayloadLength = 0)
    {count : Nat} {packets : List Packet} (sent : sendPackets config op count start = .ok packets)
    {number : Nat} (there : packets[number]? = some packet) :
    IsPacket config.rdmaMtu start op.sgl number packet ∧
      (packet.isLastPacket = true ↔ remainder config.rdmaMtu (number + 1) op.sgl = []) := by
  induction count generalizing op start packets number with
  | zero =>
    cases sent
    cases there
  | succ count ih =>
    obtain ⟨⟨first, rest⟩, created, more⟩ := bind_eq_ok.1 sent
    obtain ⟨later, laterSent, done⟩ := bind_eq_ok.1 more
    cases done
    obtain ⟨rsn, inline_, fragments, left, last⟩ := created_cut notInline created
    cases number with
    | zero =>
      cases there
      refine ⟨⟨by rw [rsn, advance_zero], fragments, inline_⟩, ?_⟩
      rw [last, List.isEmpty_iff, left]
      rfl
    | succ number =>
      have stays : ({ op with sgl := rest } : RdmaOp).inlinePayloadLength = 0 := notInline
      obtain ⟨⟨next, cut, none_⟩, ended⟩ := ih stays laterSent there
      refine ⟨⟨?_, ?_, none_⟩, ?_⟩
      · rw [next, ← advance_one, advance_advance, Nat.add_comm]
      · rw [cut, left]
        rfl
      · rw [ended, left]
        rfl

/-- The packets that a sender makes of a Send. -/
def SentInPackets (mtu : UInt32) (sgl : List UInt32) : Prop :=
  ∀ (config : SizeConfig) (op : RdmaOp) (start : UInt32) (count : Nat) (packets : List Packet),
    config.rdmaMtu = mtu → op.sgl = sgl → op.inlinePayloadLength = 0 →
    sendPackets config op count start = .ok packets →
    ∀ number packet, packets[number]? = some packet →
      IsPacket mtu start sgl number packet ∧
        (packet.isLastPacket = true ↔ packetCount mtu sgl ≤ number + 1)

/-- An SGL is cut into full packets and a last one that put together are the SGL. A Recv with the
SGL of a Send takes its packets one after the other, whatever is refused between them, and is
complete exactly with the last one. -/
theorem recv_completes_with_last_packet (mtuPositive : 0 < mtu)
    (positive : ∀ fragment ∈ sgl, 0 < fragment) (bounded : totalLength sgl < 2 ^ 32) :
    CutIntoPackets mtu sgl ∧ SentInPackets mtu sgl ∧
      ∀ start callback state, Runs.Reachable (Begins start ⟨sgl, callback⟩)
        (Step mtu start ⟨sgl, callback⟩) state → OnTheWay mtu start ⟨sgl, callback⟩ state := by
  have cut := cut_into_packets mtuPositive positive bounded
  refine ⟨cut, ?_, ?_⟩
  · rintro config op start count packets rfl rfl notInline sent number packet there
    rw [← cut.ends]
    exact sent_packets notInline sent there
  · intro start callback state reached
    exact (Follows.reached cut reached).on_the_way cut

/-- The first packet of a Send of eight bytes in two packets. -/
def firstOfTwo : Packet where
  opcode := .sendOnly
  rsn := 7
  sgl := [3, 1]
  dataLength := 20
  requestLength := 24

/-- A queue pair of an ordered connection with one Recv. -/
def qpWith (nextRxRsn : UInt32) (recv : Recv) : ReceiveQp where
  isConnected := true
  context := { rcMode := .orderedRc, nextRxRsn }
  receiveQueue := [recv]

/-- The second one is next, with the bytes that the first one left of the Recv. -/
theorem recv_completes_with_last_packet_of_two :
    OnTheWay 4 7 ⟨[3, 3, 2], 0⟩ { qp := qpWith 8 ⟨[2, 2], 0⟩, taken := 1 } := by
  have positive : ∀ fragment ∈ ([3, 3, 2] : List UInt32), 0 < fragment := by
    simp only [List.mem_cons, List.not_mem_nil, or_false, forall_eq_or_imp, forall_eq]
    decide
  have some_ : (0 : UInt32) < 4 := by decide
  have two : packetCount 4 [3, 3, 2] = 2 := by decide
  have done : processIncomingSend 4 (qpWith 7 ⟨[3, 3, 2], 0⟩) firstOfTwo =
      .ok ({ syndrome := .ack }, qpWith 8 ⟨[2, 2], 0⟩) := by decide
  have step : Step 4 7 ⟨[3, 3, 2], 0⟩ { qp := qpWith 7 ⟨[3, 3, 2], 0⟩ }
      { qp := qpWith 8 ⟨[2, 2], 0⟩, taken := 1 } := by
    refine @Step.send 4 7 _ { qp := qpWith 7 ⟨[3, 3, 2], 0⟩ } _ _ _ ?_ ?_ ?_ done
    · rw [two]
      decide
    · intro number less same
      rw [two] at less
      obtain rfl | rfl : number = 0 ∨ number = 1 := by omega
      · exact ⟨rfl, by decide, rfl⟩
      · exact absurd same (by decide)
    · intro datagram
      cases datagram
  have start : Begins 7 ⟨[3, 3, 2], 0⟩ { qp := qpWith 7 ⟨[3, 3, 2], 0⟩ } :=
    ⟨.inl ⟨rfl, rfl, rfl⟩, .inr ⟨[], rfl⟩, rfl, rfl⟩
  exact (recv_completes_with_last_packet some_ positive (by decide)).2.2 7 0 _
    (Runs.reachable_step (Runs.reachable_initial start) step)

end Isekai.IncomingSends
