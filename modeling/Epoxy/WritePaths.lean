/-
The two ways in which a client writes: the payload sink, which waits for
credit, and the byte writer, which does not look at it.  Both write the same
payloads while the same announcements arrive, and what they hand to the
transport is compared together with the credit.
-/
import Epoxy.MuxInner

namespace Epoxy

open ByteCursor PollChannel

/-- An announcement arrives, or the writing task is polled; one poll goes on
with at most one payload. -/
inductive WriteEvent where
  | cont (pkt : ContinuePacket)
  | poll (cx : Waker) (sink : SinkAnswers)

/-- The credit after an announcement, or a packet handed to the transport with
the credit before and after. -/
inductive WriteObservation where
  | credit (amt : UInt32)
  | data (packet : Bytes) (before after : UInt32)
deriving Repr, DecidableEq

def handedOver (before after : StreamInfo) (sent : List Bytes) :
    List WriteObservation :=
  sent.map fun packet => .data packet before.flowControl after.flowControl

/-- Every packet was handed over with credit left, and paid for. -/
def PaysForData (trace : List WriteObservation) : Prop :=
  ∀ packet before after, .data packet before after ∈ trace →
    0 < before ∧ after = before - 1

/-- A poll in which the sink takes whatever it is given. -/
def SinkAnswers.Takes (sink : SinkAnswers) (locked : Bool) : Prop :=
  sink.pollLock locked = .ready () ∧ sink.ready = .ready (.ok ()) ∧
    sink.send = .ok ()

/-- A task that writes the payloads one after another with `pollWrite`. -/
structure AsyncWriter where
  stream : Stream
  write : MuxStreamAsyncWrite
  payloads : List Bytes

namespace AsyncWriter

def new (stream : Stream) (payloads : List Bytes) : AsyncWriter :=
  ⟨stream, .new stream.write, payloads⟩

/-- A write that failed is tried again. -/
def poll (writer : AsyncWriter) (sink : SinkAnswers) :
    AsyncWriter × List WriteObservation :=
  match writer.payloads with
  | [] => (writer, [])
  | payload :: rest =>
      let info := writer.stream.info
      let result := writer.write.pollWrite info payload sink
      ({ stream := { writer.stream with info := result.info }
         write := result.write
         payloads :=
          match result.answer with
          | .ready (.ok _) => rest
          | _ => payload :: rest },
        handedOver info result.info result.sent)

def step (writer : AsyncWriter) :
    WriteEvent → AsyncWriter × List WriteObservation
  | .cont pkt =>
      let stream := ClientActor.handleContinuePacket writer.stream pkt
      ({ writer with stream }, [.credit stream.info.flowControl])
  | .poll _ sink => writer.poll sink

def trace (writer : AsyncWriter) : List WriteEvent → List WriteObservation
  | [] => []
  | event :: rest => (writer.step event).2 ++ (writer.step event).1.trace rest

/-- The poll goes through: there is a payload and the sink takes it. -/
def HandsOver (writer : AsyncWriter) : WriteEvent → Prop
  | .cont _ => False
  | .poll _ sink =>
      writer.payloads ≠ [] ∧ sink.Takes writer.write.locked

/-- No poll of the run goes through. -/
def NeverHandsOver (writer : AsyncWriter) : List WriteEvent → Prop
  | [] => True
  | event :: rest =>
      ¬writer.HandsOver event ∧ (writer.step event).1.NeverHandsOver rest

end AsyncWriter

/-- A task that writes the payloads one after another with `pollReady`,
`startSend` and `pollFlush`. -/
structure SinkWriter where
  stream : Stream
  flushing : Bool
  payloads : List Bytes

namespace SinkWriter

def new (stream : Stream) (payloads : List Bytes) : SinkWriter :=
  ⟨stream, false, payloads⟩

def afterWrite (writer : SinkWriter) (result : WritePoll) : SinkWriter :=
  { writer with
    stream :=
      { writer.stream with write := result.write, info := result.info } }

/-- A payload that was flushed is done; a failed one is tried again. -/
def flush (writer : SinkWriter) (sink : SinkAnswers) :
    SinkWriter × List WriteObservation :=
  let info := writer.stream.info
  let result := writer.stream.write.pollFlush info sink
  ({ writer.afterWrite result with
      flushing :=
        match result.answer with
        | .pending => true
        | .ready _ => false
      payloads :=
        match result.answer with
        | .ready (.ok ()) => writer.payloads.tail
        | _ => writer.payloads },
    handedOver info result.info result.sent)

def start (writer : SinkWriter) (payload : Bytes) : SinkWriter :=
  { writer with
    stream := { writer.stream with
      write := writer.stream.write.startSend payload }
    flushing := true }

def poll (writer : SinkWriter) (cx : Waker) (sink : SinkAnswers) :
    SinkWriter × List WriteObservation :=
  if writer.flushing then writer.flush sink
  else
    match writer.payloads with
    | [] => (writer, [])
    | payload :: _ =>
        let info := writer.stream.info
        let result := writer.stream.write.pollReady info false cx sink
        let seen := handedOver info result.info result.sent
        match result.answer with
        | .ready (.ok ()) =>
            let (writer, flushed) :=
              ((writer.afterWrite result).start payload).flush sink
            (writer, seen ++ flushed)
        | _ => (writer.afterWrite result, seen)

def step (writer : SinkWriter) :
    WriteEvent → SinkWriter × List WriteObservation
  | .cont pkt =>
      let stream := ClientActor.handleContinuePacket writer.stream pkt
      ({ writer with stream }, [.credit stream.info.flowControl])
  | .poll cx sink => writer.poll cx sink

def trace (writer : SinkWriter) : List WriteEvent → List WriteObservation
  | [] => []
  | event :: rest => (writer.step event).2 ++ (writer.step event).1.trace rest

end SinkWriter

namespace MuxStreamAsyncWrite

variable {write : MuxStreamAsyncWrite} {info : StreamInfo} {buf : Bytes}
  {sink : SinkAnswers}

/-- The packet is handed over and the credit stays as it was. -/
theorem pollWrite_of_takes (htakes : sink.Takes write.locked) :
    write.pollWrite info buf sink =
      ⟨⟨false⟩, info, .ready (.ok buf.length),
        [(Packet.newData info.id buf).encode]⟩ := by
  obtain ⟨hlock, hready, hsend⟩ := htakes
  simp [pollWrite, hlock, hready, hsend]

/-- Nothing is handed over, and a lock that was obtained is kept. -/
theorem pollWrite_of_not_takes (info : StreamInfo) (buf : Bytes)
    (htakes : ¬sink.Takes write.locked) :
    (write.pollWrite info buf sink).sent = [] ∧
      (write.pollWrite info buf sink).info = info ∧
      (∀ n, (write.pollWrite info buf sink).answer ≠ .ready (.ok n)) ∧
      (sink.pollLock write.locked = .ready () →
        (write.pollWrite info buf sink).write.locked = true) := by
  unfold pollWrite
  split
  · next hlock => simp [hlock]
  · next hlock =>
      split
      · simp
      · simp
      · next hready =>
          split
          · simp
          · next hsend => exact absurd ⟨hlock, hready, hsend⟩ htakes

end MuxStreamAsyncWrite

theorem SinkAnswers.pollLock_mono {sink : SinkAnswers} {locked held : Bool}
    (hlock : sink.pollLock locked = .ready ())
    (hheld : locked = true → held = true) : sink.pollLock held = .ready () := by
  cases held with
  | true => rfl
  | false =>
      cases locked with
      | true => exact absurd (hheld rfl) nofun
      | false => exact hlock

/-- Whoever has the lock need not wait for it. -/
theorem SinkAnswers.locked_of_pending {sink : SinkAnswers} {locked : Bool}
    (hlock : sink.pollLock locked = .pending) : locked = false := by
  cases locked with
  | false => rfl
  | true => cases hlock

namespace MuxStreamWrite

variable {write : MuxStreamWrite} {info : StreamInfo} {sink : SinkAnswers}

theorem lockedWrite_of_refused (info : StreamInfo) (hchunk : write.chunk.isSome)
    (hrefused : ¬(sink.ready = .ready (.ok ()) ∧ sink.send = .ok ())) :
    (write.lockedWrite info sink).sent = [] ∧
      (write.lockedWrite info sink).info = info ∧
      (write.lockedWrite info sink).answer ≠ .ready (.ok ()) ∧
      ((write.lockedWrite info sink).answer = .pending →
        (write.lockedWrite info sink).write.chunk = write.chunk) := by
  obtain ⟨item, hitem⟩ := Option.isSome_iff_exists.mp hchunk
  cases hready : sink.ready with
  | pending => simp [lockedWrite, hready]
  | ready answer =>
      cases answer with
      | error error => simp [lockedWrite, hready]
      | ok =>
          cases hsend : sink.send with
          | error error => simp [lockedWrite, hready, maybeWrite, hitem, hsend]
          | ok => exact absurd ⟨hready, hsend⟩ hrefused

/-- Nothing is handed over unless the sink takes it, and the lock is only
kept by who obtained it. -/
theorem pollFlush_of_not_takes (info : StreamInfo)
    (hchunk : write.chunk.isSome) (htakes : ¬sink.Takes write.locked) :
    (write.pollFlush info sink).sent = [] ∧
      (write.pollFlush info sink).info = info ∧
      (write.pollFlush info sink).answer ≠ .ready (.ok ()) ∧
      ((write.pollFlush info sink).answer = .pending →
        (write.pollFlush info sink).write.chunk = write.chunk) ∧
      ((write.pollFlush info sink).write.locked = true →
        sink.pollLock write.locked = .ready ()) := by
  cases hlock : sink.pollLock write.locked with
  | pending =>
      have hpoll : write.pollFlush info sink = ⟨write, info, .pending, []⟩ := by
        simp [pollFlush, hlock]
      rw [hpoll]
      simp [SinkAnswers.locked_of_pending hlock]
  | ready =>
      obtain ⟨hsent, hinfo, hanswer, hkept⟩ :=
        lockedWrite_of_refused info hchunk fun htaken =>
          htakes ⟨hlock, htaken⟩
      have hpoll : write.pollFlush info sink = write.lockedWrite info sink := by
        simp only [pollFlush, hlock, hchunk, if_true]
      rw [hpoll]
      exact ⟨hsent, hinfo, hanswer, hkept, fun _ => rfl⟩

/-- The same for `pollReady`, which changes nothing when it succeeds. -/
theorem pollReady_of_not_takes (cx : Waker) (info : StreamInfo)
    (htakes : ¬sink.Takes write.locked) :
    (write.pollReady info false cx sink).sent = [] ∧
      (write.pollReady info false cx sink).info.flowStatus =
        info.flowStatus ∧
      ((write.pollReady info false cx sink).answer = .ready (.ok ()) →
        (write.pollReady info false cx sink).write = write) ∧
      ((write.pollReady info false cx sink).write.locked = true →
        sink.pollLock write.locked = .ready ()) := by
  have hheld : write.locked = true → sink.pollLock write.locked = .ready () :=
    fun hlocked => if_pos hlocked
  unfold pollReady
  simp only [Bool.false_eq_true, if_false]
  split
  · exact ⟨rfl, rfl, nofun, hheld⟩
  · split
    · next hchunk =>
        cases hlock : sink.pollLock write.locked with
        | pending =>
            exact ⟨rfl, rfl, nofun, fun hlocked => hlock ▸ hheld hlocked⟩
        | ready =>
            obtain ⟨hsent, hinfo, hanswer, _⟩ :=
              lockedWrite_of_refused info hchunk fun htaken =>
                htakes ⟨hlock, htaken⟩
            dsimp only
            split
            · next hok => exact absurd hok hanswer
            · exact ⟨hsent, by rw [hinfo], fun hok => absurd hok hanswer,
                fun _ => rfl⟩
    · exact ⟨rfl, rfl, fun _ => rfl, hheld⟩

end MuxStreamWrite

theorem paysForData_append {first second : List WriteObservation} :
    PaysForData (first ++ second) ↔
      PaysForData first ∧ PaysForData second := by
  simp only [PaysForData, List.mem_append]
  constructor
  · intro hall
    exact ⟨fun packet before after hmem => hall packet before after (.inl hmem),
      fun packet before after hmem => hall packet before after (.inr hmem)⟩
  · rintro ⟨hfirst, hsecond⟩ packet before after (hmem | hmem)
    · exact hfirst packet before after hmem
    · exact hsecond packet before after hmem

namespace AsyncWriter

variable {writer : AsyncWriter} {event : WriteEvent}

/-- What a poll hands over has not been paid for. -/
theorem not_paysForData_of_handsOver (hover : writer.HandsOver event) :
    ¬PaysForData (writer.step event).2 := by
  cases event with
  | cont pkt => exact hover.elim
  | poll cx sink =>
      obtain ⟨hpayloads, htakes⟩ := hover
      obtain ⟨payload, rest, hsplit⟩ := List.exists_cons_of_ne_nil hpayloads
      intro hpays
      have hmem : WriteObservation.data
          (Packet.newData writer.stream.info.id payload).encode
          writer.stream.info.flowControl writer.stream.info.flowControl ∈
          (writer.step (.poll cx sink)).2 := by
        simp [step, poll, hsplit, handedOver,
          MuxStreamAsyncWrite.pollWrite_of_takes htakes]
      obtain ⟨_, hsame⟩ := hpays _ _ _ hmem
      have hzero : writer.stream.info.flowControl.toNat =
          (writer.stream.info.flowControl - 1).toNat := congrArg _ hsame
      rw [UInt32.toNat_sub] at hzero
      have hlt := writer.stream.info.flowControl.toNat_lt
      change _ = (2 ^ 32 - 1 + _) % 2 ^ 32 at hzero
      omega

theorem poll_of_not_handsOver {cx : Waker} {sink : SinkAnswers}
    (hover : ¬writer.HandsOver (.poll cx sink)) :
    (writer.poll sink).2 = [] ∧
      (writer.poll sink).1.payloads = writer.payloads ∧
      (writer.poll sink).1.stream = writer.stream ∧
      (writer.payloads ≠ [] → sink.pollLock writer.write.locked = .ready () →
        (writer.poll sink).1.write.locked = true) := by
  unfold poll
  split
  · next hnone => simp [hnone]
  · next payload rest hsplit =>
      have htakes : ¬sink.Takes writer.write.locked := fun htakes =>
        hover ⟨by simp [hsplit], htakes⟩
      obtain ⟨hsent, hinfo, hanswer, hheld⟩ :=
        MuxStreamAsyncWrite.pollWrite_of_not_takes writer.stream.info payload
          htakes
      refine ⟨by simp [handedOver, hsent], ?_, by simp [hinfo],
        fun _ => hheld⟩
      dsimp only
      split
      · next n hok => exact absurd hok (hanswer n)
      · exact hsplit.symm

theorem paysForData_of_neverHandsOver {events : List WriteEvent}
    (hnever : writer.NeverHandsOver events) :
    PaysForData (writer.trace events) := by
  induction events generalizing writer with
  | nil => nofun
  | cons event rest ih =>
      refine paysForData_append.mpr ⟨?_, ih hnever.2⟩
      cases event with
      | cont pkt => simp [PaysForData, step]
      | poll cx sink =>
          have hnothing := (poll_of_not_handsOver hnever.1).1
          simp [PaysForData, step, hnothing]

theorem paysForData_iff (writer : AsyncWriter) (events : List WriteEvent) :
    PaysForData (writer.trace events) ↔ writer.NeverHandsOver events := by
  refine ⟨fun hpays => ?_, paysForData_of_neverHandsOver⟩
  induction events generalizing writer with
  | nil => trivial
  | cons event rest ih =>
      obtain ⟨hfirst, hrest⟩ := paysForData_append.mp hpays
      exact ⟨fun hover => not_paysForData_of_handsOver hover hfirst,
        ih _ hrest⟩

end AsyncWriter

namespace SinkWriter

/-- A flush that the sink does not take. -/
theorem flush_of_not_takes (writer : SinkWriter) {sink : SinkAnswers}
    (hchunk : writer.stream.write.chunk.isSome)
    (htakes : ¬sink.Takes writer.stream.write.locked) :
    (writer.flush sink).2 = [] ∧
      (writer.flush sink).1.payloads = writer.payloads ∧
      (writer.flush sink).1.stream.info = writer.stream.info ∧
      ((writer.flush sink).1.flushing = true →
        (writer.flush sink).1.stream.write.chunk.isSome) ∧
      ((writer.flush sink).1.stream.write.locked = true →
        sink.pollLock writer.stream.write.locked = .ready ()) := by
  obtain ⟨hsent, hinfo, hanswer, hkept, hlocked⟩ :=
    MuxStreamWrite.pollFlush_of_not_takes writer.stream.info hchunk htakes
  refine ⟨by simp [flush, handedOver, hsent], ?_, hinfo, fun hflushing => ?_,
    hlocked⟩
  · dsimp only [flush]
    split
    · next hok => exact absurd hok hanswer
    · rfl
  · dsimp only [flush] at hflushing
    split at hflushing
    · next hpending =>
        have hsame := hkept hpending
        simpa [flush, afterWrite, hsame] using hchunk
    · cases hflushing

end SinkWriter

/-- Two writers that have handed nothing over: the sink writer holds the lock
only where the byte writer does. -/
structure Silent (writer : AsyncWriter) (other : SinkWriter) : Prop where
  payloads : other.payloads = writer.payloads
  locked : other.stream.write.locked = true → writer.write.locked = true
  flushing : other.flushing = true →
    other.stream.write.chunk.isSome ∧ writer.payloads ≠ []
  flow : writer.stream.info.flowStatus = .enabledTrackAmount
  otherFlow : other.stream.info.flowStatus = .enabledTrackAmount

namespace Silent

variable {writer : AsyncWriter} {other : SinkWriter}

/-- Announcements reach both writers alike. -/
theorem cont (h : Silent writer other) (pkt : ContinuePacket) :
    Silent (writer.step (.cont pkt)).1 (other.step (.cont pkt)).1 ∧
      (other.step (.cont pkt)).2 = (writer.step (.cont pkt)).2 := by
  have hwriter := h.flow
  have hother := h.otherFlow
  simp only [AsyncWriter.step, SinkWriter.step,
    ClientActor.handleContinuePacket, hwriter, hother, if_true,
    StreamInfo.flowControl_flowWake, StreamInfo.flowControl_flowSet]
  exact ⟨{ h with flow := hwriter, otherFlow := hother }, trivial⟩

theorem poll (h : Silent writer other) {cx : Waker} {sink : SinkAnswers}
    (hover : ¬writer.HandsOver (.poll cx sink)) :
    Silent (writer.poll sink).1 (other.poll cx sink).1 ∧
      (other.poll cx sink).2 = [] := by
  obtain ⟨_, hpayloads, hstream, hheld⟩ :=
    AsyncWriter.poll_of_not_handsOver hover
  by_cases hnone : writer.payloads = []
  · have hidle : other.flushing = false := by
      rw [Bool.eq_false_iff]
      exact fun hflushing => (h.flushing hflushing).2 hnone
    have hother : other.poll cx sink = (other, []) := by
      simp [SinkWriter.poll, hidle, h.payloads, hnone]
    have hwriter : writer.poll sink = (writer, []) := by
      simp [AsyncWriter.poll, hnone]
    rw [hother, hwriter]
    exact ⟨h, rfl⟩
  · have htakes : ¬sink.Takes other.stream.write.locked := fun htakes =>
      hover ⟨hnone, SinkAnswers.pollLock_mono htakes.1 h.locked, htakes.2⟩
    have hlock : sink.pollLock other.stream.write.locked = .ready () →
        (writer.poll sink).1.write.locked = true := fun hlock =>
      hheld hnone (SinkAnswers.pollLock_mono hlock h.locked)
    have hflow : (writer.poll sink).1.stream.info.flowStatus =
        .enabledTrackAmount := by
      rw [hstream]
      exact h.flow
    cases hflushing : other.flushing with
    | true =>
        obtain ⟨hsent, hleft, hinfo, hchunk, hlocked⟩ :=
          SinkWriter.flush_of_not_takes other (h.flushing hflushing).1 htakes
        have hother : other.poll cx sink = other.flush sink := by
          simp [SinkWriter.poll, hflushing]
        rw [hother]
        refine ⟨⟨?_, fun hheld => hlock (hlocked hheld), fun hagain => ?_,
          hflow, ?_⟩, hsent⟩
        · rw [hleft, hpayloads, h.payloads]
        · rw [hpayloads]
          exact ⟨hchunk hagain, hnone⟩
        · rw [hinfo]
          exact h.otherFlow
    | false =>
        obtain ⟨payload, rest, hsplit⟩ :=
          List.exists_cons_of_ne_nil (h.payloads ▸ hnone)
        obtain ⟨hsent, hstatus, hsame, hlocked⟩ :=
          MuxStreamWrite.pollReady_of_not_takes cx other.stream.info htakes
        simp only [SinkWriter.poll, hflushing, hsplit, Bool.false_eq_true,
          if_false]
        split
        · next hok =>
            let result := other.stream.write.pollReady other.stream.info false
              cx sink
            have hstarted : ((other.afterWrite result).start
                payload).stream.write.locked = other.stream.write.locked := by
              have hsame := congrArg MuxStreamWrite.locked (hsame hok)
              exact hsame
            obtain ⟨hflushed, hleft, hinfo, hchunk, hheld⟩ :=
              SinkWriter.flush_of_not_takes
                ((other.afterWrite result).start payload) rfl
                (hstarted ▸ htakes)
            rw [hstarted] at hheld
            refine ⟨⟨?_, fun hagain => hlock (hheld hagain), fun hagain => ?_,
              hflow, ?_⟩, ?_⟩
            · rw [hpayloads, ← h.payloads]
              exact hleft
            · rw [hpayloads]
              exact ⟨hchunk hagain, hnone⟩
            · rw [hinfo]
              exact hstatus.trans h.otherFlow
            · simpa [handedOver, hsent] using hflushed
        · refine ⟨⟨?_, fun hheld => hlock (hlocked hheld), ?_, hflow, ?_⟩, ?_⟩
          · rw [hpayloads, ← h.payloads]
            rfl
          · simp [SinkWriter.afterWrite, hflushing]
          · exact hstatus.trans h.otherFlow
          · simp [handedOver, hsent]

/-- While the byte writer hands nothing over, nor does the sink writer. -/
theorem trace_eq (h : Silent writer other) {events : List WriteEvent}
    (hnever : writer.NeverHandsOver events) :
    other.trace events = writer.trace events := by
  induction events generalizing writer other with
  | nil => rfl
  | cons event rest ih =>
      cases event with
      | cont pkt =>
          obtain ⟨hnext, hsame⟩ := h.cont pkt
          simp only [SinkWriter.trace, AsyncWriter.trace, hsame,
            ih hnext hnever.2]
      | poll cx sink =>
          obtain ⟨hnext, hnothing⟩ := h.poll hnever.1
          have hother := (AsyncWriter.poll_of_not_handsOver hnever.1).1
          have hrest := ih hnext hnever.2
          simp only [SinkWriter.trace, AsyncWriter.trace, SinkWriter.step,
            AsyncWriter.step, hnothing, hother, hrest]

end Silent

namespace AsyncWriter

/-- On a stream whose outgoing data is counted, with any credit, the byte
writer obeys flow control, and writes what the sink writer writes, exactly as
long as it writes nothing. -/
theorem obeysFlowControl_iff (id credit : UInt32) (payloads : List Bytes)
    (events : List WriteEvent) :
    let stream := Stream.new id .enabledTrackAmount credit
    let trace := (AsyncWriter.new stream payloads).trace events
    (PaysForData trace ∧
        trace = (SinkWriter.new stream payloads).trace events) ↔
      (AsyncWriter.new stream payloads).NeverHandsOver events := by
  intro stream trace
  have hsilent : Silent (.new stream payloads) (.new stream payloads) :=
    ⟨rfl, fun hlocked => hlocked, nofun, rfl, rfl⟩
  constructor
  · rintro ⟨hpays, _⟩
    exact (paysForData_iff _ _).mp hpays
  · intro hnever
    exact ⟨(paysForData_iff _ _).mpr hnever, (hsilent.trace_eq hnever).symm⟩

/-- With credit for one payload two are written, and the credit stays. -/
theorem overdrawn :
    let stream := Stream.new 1 .enabledTrackAmount 1
    let events := [.poll 0 .prompt, .poll 0 .prompt]
    let trace := (AsyncWriter.new stream [[7], [8]]).trace events
    trace =
        [.data (Packet.newData 1 [7]).encode 1 1,
          .data (Packet.newData 1 [8]).encode 1 1] ∧
      (SinkWriter.new stream [[7], [8]]).trace events =
        [.data (Packet.newData 1 [7]).encode 1 0] ∧
      ¬PaysForData trace := by
  refine ⟨rfl, rfl, fun hpays => ?_⟩
  obtain ⟨_, hpaid⟩ := hpays _ 1 1 List.mem_cons_self
  cases hpaid

end AsyncWriter

end Epoxy
