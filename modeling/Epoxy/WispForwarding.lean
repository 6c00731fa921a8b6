/-
What the server does with an open stream of a Wisp client: two copies that
race, or a loop over datagrams, and the reason that the stream is closed with.
-/
import Epoxy.CopyRace
import Epoxy.WsProxy

namespace Epoxy.Server

open ActionMachine ByteCursor RelayLoop CopyRace

/-- `copy_buf` of tokio, which writes what fills the buffer of its reader. -/
def copyBuf : CopyKind := ⟨false, false, true⟩

/-- `copy` of tokio, which reads on into a buffer of its own. -/
def copy : CopyKind := ⟨true, false, true⟩

/-- The loop of `copy_fast` that flushes whatever it has written. -/
def tcpToMux : CopyKind := ⟨false, true, false⟩

/-- The sends of `copy_wisp` are over when they have flushed. -/
def copyWisp : CopyKind := ⟨false, false, false⟩

/-- What a copy of bytes is answered with. -/
inductive ByteAnswer where
  | read (bytes : Except String Bytes)
  | write (n : Except String Nat)
  | flush (result : Except String Unit)

/-- No bytes are the end of the source, and a write of none is an error. -/
def ByteAnswer.event : ByteAnswer → CopyEvent UInt8 String
  | .read (.ok bytes) => if bytes.isEmpty then .ended else .read bytes
  | .read (.error error) => .readFailed error
  | .write (.ok 0) => .writeFailed 0 "write zero"
  | .write (.ok (n + 1)) => .wrote (n + 1)
  | .write (.error error) => .writeFailed 0 error
  | .flush (.ok ()) => .flushed
  | .flush (.error error) => .flushFailed error

/-- What was read, unless that was the end. -/
def ByteAnswer.bytes : ByteAnswer → Option Bytes
  | .read (.ok bytes) => if bytes.isEmpty then none else some bytes
  | _ => none

/-- What `copy_wisp` is answered with. -/
inductive PayloadAnswer where
  | next (payload : Option (Except WispError Bytes))
  | sent
  | sendFailed (taken : Bool) (error : WispError)

def PayloadAnswer.event : PayloadAnswer → CopyEvent Bytes WispError
  | .next none => .ended
  | .next (some (.ok payload)) => .read [payload]
  | .next (some (.error error)) => .readFailed error
  | .sent => .wrote 1
  | .sendFailed taken error => .writeFailed taken.toNat error

def PayloadAnswer.payload : PayloadAnswer → Option Bytes
  | .next (some (.ok payload)) => some payload
  | _ => none

/-- What `copy_fast` is answered with, on the way to the upstream and on the
way to the client. -/
inductive CopyFastAnswer where
  | muxrx (answer : ByteAnswer)
  | tcprx (answer : ByteAnswer)

/-- What `handle_twisp` is answered with; the command may have ended. -/
inductive TwispAnswer where
  | streamrx (answer : ByteAnswer)
  | ptyrx (answer : ByteAnswer)
  | wait (result : Except String Unit)

/-- What `handle_stream` of a wispnet is answered with. -/
inductive WispnetCopyAnswer where
  | muxread (answer : PayloadAnswer)
  | wispread (answer : PayloadAnswer)

/-- What the loop over datagrams is answered with. -/
inductive DatagramAnswer where
  | recv (datagram : Except String Bytes)
  | writeAll (answer : WriteAnswer)
  | next (payload : Option (Except String Bytes))
  | send (result : Except String Unit)

def CopyFastAnswer.event : CopyFastAnswer → RaceEvent UInt8 String
  | .muxrx answer => .first answer.event
  | .tcprx answer => .second answer.event

def TwispAnswer.event : TwispAnswer → RaceEvent UInt8 String
  | .streamrx answer => .first answer.event
  | .ptyrx answer => .second answer.event
  | .wait result => .exit result

def WispnetCopyAnswer.event : WispnetCopyAnswer → RaceEvent Bytes WispError
  | .muxread answer => .first answer.event
  | .wispread answer => .second answer.event

def DatagramAnswer.event : DatagramAnswer → Event Bytes String
  | .recv (.ok datagram) => .right [datagram.take 65507]
  | .recv (.error error) => .rightFailed error
  | .writeAll answer => answer.event
  | .next none => .leftEnd
  | .next (some (.ok payload)) => .left [payload]
  | .next (some (.error error)) => .leftFailed error
  | .send (.ok ()) => .handed 1
  | .send (.error error) => .handFailed error

/-- What was read from the client. -/
def CopyFastAnswer.client : CopyFastAnswer → Option Bytes
  | .muxrx answer => answer.bytes
  | .tcprx _ => none

/-- What was read from the upstream. -/
def CopyFastAnswer.upstream : CopyFastAnswer → Option Bytes
  | .muxrx _ => none
  | .tcprx answer => answer.bytes

def TwispAnswer.client : TwispAnswer → Option Bytes
  | .streamrx answer => answer.bytes
  | _ => none

def TwispAnswer.upstream : TwispAnswer → Option Bytes
  | .ptyrx answer => answer.bytes
  | _ => none

def WispnetCopyAnswer.client : WispnetCopyAnswer → Option Bytes
  | .muxread answer => answer.payload
  | .wispread _ => none

def WispnetCopyAnswer.upstream : WispnetCopyAnswer → Option Bytes
  | .muxread _ => none
  | .wispread answer => answer.payload

def DatagramAnswer.client : DatagramAnswer → Option Bytes
  | .next (some (.ok payload)) => some payload
  | _ => none

def DatagramAnswer.upstream : DatagramAnswer → Option Bytes
  | .recv (.ok datagram) => some (datagram.take 65507)
  | _ => none

/-- `write_all` of no bytes does nothing. -/
def datagramKind : Kind Bytes :=
  ⟨false, fun datagrams => datagrams.flatten.isEmpty⟩

/-- How a stream is forwarded; the first of two copies is the one that reads
from the client. -/
inductive Forward where
  | copyFast (race : Race UInt8 String)
  | datagrams (relay : Relay Bytes String)
  | twisp (race : Race UInt8 String)
  | wispnet (race : Race Bytes WispError)

inductive ForwardAnswer where
  | copyFast (answer : CopyFastAnswer)
  | datagrams (answer : DatagramAnswer)
  | twisp (answer : TwispAnswer)
  | wispnet (answer : WispnetCopyAnswer)

namespace Forward

def step : Forward → ForwardAnswer → Option Forward
  | .copyFast race, .copyFast answer =>
      (race.step copyBuf tcpToMux answer.event).map .copyFast
  | .datagrams relay, .datagrams answer =>
      (relay.step datagramKind answer.event).map .datagrams
  | .twisp race, .twisp answer =>
      (race.step copy copy answer.event).map .twisp
  | .wispnet race, .wispnet answer =>
      (race.step copyWisp copyWisp answer.event).map .wispnet
  | _, _ => none

def machine : Machine Forward ForwardAnswer := ⟨step⟩

/-- Whether the forwarding ended well, if it has ended. -/
def outcome : Forward → Option Bool
  | .copyFast race => race.outcome.map Except.isOk
  | .datagrams relay =>
      match relay.wait with
      | .ended result => some result.isOk
      | _ => none
  | .twisp race => race.outcome.map Except.isOk
  | .wispnet race => race.outcome.map Except.isOk

/-- A forwarding before its first answer. -/
inductive IsStart : Forward → Prop where
  | copyFast : IsStart (.copyFast .init)
  | datagrams : IsStart (.datagrams .init)
  | twisp : IsStart (.twisp .init)
  | wispnet : IsStart (.wispnet .init)

end Forward

section Loops

/-- All that was read was passed on, but at most the rest of one read. -/
def Passed (reads : List Bytes) (given : Bytes) : Prop :=
  ∃ lost, given ++ lost = reads.flatten ∧
    (lost = [] ∨ ∃ bytes ∈ reads, lost <:+ bytes)

/-- All payloads were passed on, but at most the last one. -/
def Delivered (payloads given : List Bytes) : Prop :=
  ∃ lost, given ++ lost = payloads ∧ lost.length ≤ 1

theorem read?_event (answer : ByteAnswer) :
    answer.event.read? = answer.bytes := by
  cases answer with
  | read bytes =>
      cases bytes with
      | error error => rfl
      | ok bytes => cases bytes <;> rfl
  | write n =>
      cases n with
      | error error => rfl
      | ok n => cases n <;> rfl
  | flush result => cases result <;> rfl

theorem read?_payloadEvent (answer : PayloadAnswer) :
    answer.event.read? = answer.payload.map fun payload => [payload] := by
  cases answer with
  | next payload =>
      cases payload with
      | none => rfl
      | some payload => cases payload <;> rfl
  | sent => rfl
  | sendFailed taken error => rfl

theorem readFirst?_copyFast (answer : CopyFastAnswer) :
    answer.event.readFirst? = answer.client := by
  cases answer with
  | muxrx answer => exact read?_event answer
  | tcprx answer => rfl

theorem readSecond?_copyFast (answer : CopyFastAnswer) :
    answer.event.readSecond? = answer.upstream := by
  cases answer with
  | muxrx answer => rfl
  | tcprx answer => exact read?_event answer

theorem readFirst?_twisp (answer : TwispAnswer) :
    answer.event.readFirst? = answer.client := by
  cases answer with
  | streamrx answer => exact read?_event answer
  | ptyrx answer => rfl
  | wait result => rfl

theorem readSecond?_twisp (answer : TwispAnswer) :
    answer.event.readSecond? = answer.upstream := by
  cases answer with
  | streamrx answer => rfl
  | ptyrx answer => exact read?_event answer
  | wait result => rfl

theorem readFirst?_wispnet (answer : WispnetCopyAnswer) :
    answer.event.readFirst? = answer.client.map fun payload => [payload] := by
  cases answer with
  | muxread answer => exact read?_payloadEvent answer
  | wispread answer => rfl

theorem readSecond?_wispnet (answer : WispnetCopyAnswer) :
    answer.event.readSecond? =
      answer.upstream.map fun payload => [payload] := by
  cases answer with
  | muxread answer => rfl
  | wispread answer => exact read?_payloadEvent answer

/-- Both copies of `copy_fast` pass on all but the rest of one read; where it
ends well, one of them has passed on all that its source had. -/
theorem copyFast_passed {answers : List CopyFastAnswer}
    {race : Race UInt8 String}
    (hrun : (Race.machine copyBuf tcpToMux).run .init
      (answers.map CopyFastAnswer.event) = some race) :
    Passed (answers.filterMap CopyFastAnswer.client) race.first.pump.given ∧
      Passed (answers.filterMap CopyFastAnswer.upstream)
        race.second.pump.given ∧
      (race.outcome = some (.ok ()) →
        race.first.pump.given =
            (answers.filterMap CopyFastAnswer.client).flatten ∨
          race.second.pump.given =
            (answers.filterMap CopyFastAnswer.upstream).flatten) := by
  have hraced := Race.raced_run_map readFirst?_copyFast readSecond?_copyFast
    hrun
  refine ⟨hraced.first.lost rfl, hraced.second.lost rfl, fun hok => ?_⟩
  rcases hraced.ended hok with hfirst | hsecond | ⟨answer, -, hexit⟩
  · exact .inl (hraced.first.given_of_ok hfirst)
  · exact .inr (hraced.second.given_of_ok hsecond)
  · cases answer <;> cases hexit

/-- The copies of `handle_twisp` read ahead; the end of the command ends them
wherever they are. -/
theorem twisp_passed {answers : List TwispAnswer} {race : Race UInt8 String}
    (hrun : (Race.machine copy copy).run .init
      (answers.map TwispAnswer.event) = some race) :
    race.first.pump.given <+:
        (answers.filterMap TwispAnswer.client).flatten ∧
      race.second.pump.given <+:
        (answers.filterMap TwispAnswer.upstream).flatten ∧
      (race.outcome = some (.ok ()) →
        race.first.pump.given =
            (answers.filterMap TwispAnswer.client).flatten ∨
          race.second.pump.given =
            (answers.filterMap TwispAnswer.upstream).flatten ∨
          .wait (.ok ()) ∈ answers) := by
  have hraced := Race.raced_run_map readFirst?_twisp readSecond?_twisp hrun
  refine ⟨hraced.first.given_prefix, hraced.second.given_prefix,
    fun hok => ?_⟩
  rcases hraced.ended hok with hfirst | hsecond | ⟨answer, hmem, hexit⟩
  · exact .inl (hraced.first.given_of_ok hfirst)
  · exact .inr (.inl (hraced.second.given_of_ok hsecond))
  · cases answer with
    | wait result =>
        cases hexit
        exact .inr (.inr hmem)
    | streamrx | ptyrx => cases hexit

theorem flatten_filterMap_map {A : Type} (answers : List A)
    (payload : A → Option Bytes) :
    (answers.filterMap fun answer =>
        (payload answer).map fun payload => [payload]).flatten =
      answers.filterMap payload := by
  induction answers with
  | nil => rfl
  | cons answer rest ih =>
      cases hpayload : payload answer with
      | none => simpa [hpayload] using ih
      | some payload => simpa [hpayload] using ih

/-- A suffix of one payload. -/
theorem length_le_one_of_suffix {A : Type} {answers : List A}
    {payload : A → Option Bytes} {lost : List Bytes}
    (h : lost = [] ∨ ∃ items ∈ answers.filterMap fun answer =>
      (payload answer).map fun payload => [payload], lost <:+ items) :
    lost.length ≤ 1 := by
  rcases h with rfl | ⟨items, hitems, hsuffix⟩
  · exact Nat.zero_le _
  · obtain ⟨answer, -, hpayload⟩ := List.mem_filterMap.mp hitems
    obtain ⟨payload, -, rfl⟩ := Option.map_eq_some_iff.mp hpayload
    exact hsuffix.length_le

/-- Between two multiplexors no payload is cut, and at most one is lost in
either direction. -/
theorem wispnet_delivered {answers : List WispnetCopyAnswer}
    {race : Race Bytes WispError}
    (hrun : (Race.machine copyWisp copyWisp).run .init
      (answers.map WispnetCopyAnswer.event) = some race) :
    Delivered (answers.filterMap WispnetCopyAnswer.client)
        race.first.pump.given ∧
      Delivered (answers.filterMap WispnetCopyAnswer.upstream)
        race.second.pump.given ∧
      (race.outcome = some (.ok ()) →
        race.first.pump.given =
            answers.filterMap WispnetCopyAnswer.client ∨
          race.second.pump.given =
            answers.filterMap WispnetCopyAnswer.upstream) := by
  have hraced := Race.raced_run_map readFirst?_wispnet readSecond?_wispnet hrun
  refine ⟨?_, ?_, fun hok => ?_⟩
  · obtain ⟨lost, hlost, hrest⟩ := hraced.first.lost rfl
    rw [flatten_filterMap_map] at hlost
    exact ⟨lost, hlost, length_le_one_of_suffix hrest⟩
  · obtain ⟨lost, hlost, hrest⟩ := hraced.second.lost rfl
    rw [flatten_filterMap_map] at hlost
    exact ⟨lost, hlost, length_le_one_of_suffix hrest⟩
  · rcases hraced.ended hok with hfirst | hsecond | ⟨answer, -, hexit⟩
    · exact .inl ((hraced.first.given_of_ok hfirst).trans
        (flatten_filterMap_map _ _))
    · exact .inr ((hraced.second.given_of_ok hsecond).trans
        (flatten_filterMap_map _ _))
    · cases answer <;> cases hexit

theorem fromLeft_datagram (answer : DatagramAnswer) :
    answer.event.fromLeft = answer.client.toList := by
  cases answer with
  | recv datagram => cases datagram <;> rfl
  | writeAll answer => exact answer.from_event.1
  | next payload =>
      cases payload with
      | none => rfl
      | some payload => cases payload <;> rfl
  | send result => cases result <;> rfl

theorem fromRight_datagram (answer : DatagramAnswer) :
    answer.event.fromRight = answer.upstream.toList := by
  cases answer with
  | recv datagram => cases datagram <;> rfl
  | writeAll answer => exact answer.from_event.2
  | next payload =>
      cases payload with
      | none => rfl
      | some payload => cases payload <;> rfl
  | send result => cases result <;> rfl

/-- Whatever either end of the loop has is one datagram. -/
theorem datagram_of_right {answer : DatagramAnswer} {items : List Bytes}
    (h : answer.event = .right items) : ∃ datagram, items = [datagram] := by
  cases answer with
  | recv datagram =>
      cases datagram with
      | error error => cases h
      | ok datagram =>
          cases h
          exact ⟨_, rfl⟩
  | writeAll answer => exact absurd h (answer.event_ne_right _)
  | next payload =>
      cases payload with
      | none => cases h
      | some payload => cases payload <;> cases h
  | send result => cases result <;> cases h

theorem datagram_of_left {answer : DatagramAnswer} {items : List Bytes}
    (h : answer.event = .left items) : ∃ datagram, items = [datagram] := by
  cases answer with
  | recv datagram => cases datagram <;> cases h
  | writeAll answer => cases answer <;> cases h
  | next payload =>
      cases payload with
      | none => cases h
      | some payload =>
          cases payload with
          | error error => cases h
          | ok payload =>
              cases h
              exact ⟨_, rfl⟩
  | send result => cases result <;> cases h

/-- The messages are the rounds that are not empty. -/
theorem map_flatten_filter {rounds : List (List Bytes)}
    (h : ∀ round ∈ rounds, ∃ datagram, round = [datagram]) :
    (rounds.filter fun round => !datagramKind.skips round).map List.flatten =
      rounds.flatten.filter fun datagram => !datagram.isEmpty := by
  induction rounds with
  | nil => rfl
  | cons round rest ih =>
      obtain ⟨datagram, rfl⟩ := h round List.mem_cons_self
      have hrest := ih fun round hround =>
        h round (List.mem_cons_of_mem _ hround)
      cases datagram with
      | nil => simpa [datagramKind] using hrest
      | cons byte bytes => simpa [datagramKind] using hrest

theorem length_le_one_of_rest {pending : List Bytes}
    {make : List Bytes → Event Bytes String} {answers : List DatagramAnswer}
    (hmake : ∀ (answer : DatagramAnswer) items, answer.event = make items →
      ∃ datagram, items = [datagram])
    (h : pending = [] ∨ ∃ items,
      make items ∈ answers.map DatagramAnswer.event ∧ pending <:+ items) :
    pending.length ≤ 1 := by
  rcases h with rfl | ⟨items, hitems, hsuffix⟩
  · exact Nat.zero_le _
  · obtain ⟨answer, -, hanswer⟩ := List.mem_map.mp hitems
    obtain ⟨datagram, rfl⟩ := hmake answer items hanswer
    exact hsuffix.length_le

/-- Datagrams are not cut or merged, at most one is lost in either direction,
and empty ones do not reach the client. -/
theorem datagrams_delivered {answers : List DatagramAnswer}
    {relay : Relay Bytes String}
    (hrun : (Relay.machine datagramKind).run .init
      (answers.map DatagramAnswer.event) = some relay) :
    Delivered (answers.filterMap DatagramAnswer.client) relay.toRight.given ∧
      Delivered ((answers.filterMap DatagramAnswer.upstream).filter
          fun datagram => !datagram.isEmpty)
        (relay.messages.map List.flatten) ∧
      (relay.wait = .ended (.ok ()) →
        relay.toRight.given = answers.filterMap DatagramAnswer.client ∧
        relay.messages.map List.flatten =
          (answers.filterMap DatagramAnswer.upstream).filter
            fun datagram => !datagram.isEmpty) := by
  have hsingle : ∀ event ∈ answers.map DatagramAnswer.event, ∀ items,
      event = .right items → ∃ datagram, items = [datagram] := by
    rintro event hevent items rfl
    obtain ⟨answer, -, hanswer⟩ := List.mem_map.mp hevent
    exact datagram_of_right hanswer
  have hrelays := Relay.relays_run hsingle hrun
  obtain ⟨rounds, hrounds⟩ := hrelays.rounds
  have hmessages : relay.messages.map List.flatten =
      relay.toLeft.given.filter fun datagram => !datagram.isEmpty := by
    rw [hrounds.messages, hrounds.given, map_flatten_filter hrounds.each]
  obtain ⟨hright, hleft⟩ := Relay.taken_run hrun
  simp only [List.flatMap_map, fromLeft_datagram, fromRight_datagram,
    ← List.filterMap_eq_flatMap_toList] at hright hleft
  rw [show (Relay.init : Relay Bytes String).toRight.taken = [] from rfl,
    List.nil_append] at hright
  rw [show (Relay.init : Relay Bytes String).toLeft.taken = [] from rfl,
    List.nil_append] at hleft
  have hrest := Relay.rest_run hrun
  rw [← hright, ← hleft, hmessages]
  refine ⟨⟨relay.toRight.pending, relay.toRight.conserves, ?_⟩,
    ⟨relay.toLeft.pending.filter fun datagram => !datagram.isEmpty, ?_, ?_⟩,
    fun hended => ?_⟩
  · exact length_le_one_of_rest (fun _ _ => datagram_of_left) hrest.toRight
  · rw [← List.filter_append, relay.toLeft.conserves]
  · exact Nat.le_trans (List.length_filter_le _ _)
      (length_le_one_of_rest (fun _ _ => datagram_of_right) hrest.toLeft)
  · obtain ⟨hgiven, htaken⟩ := hrelays.whole hended
    rw [hgiven, htaken]
    exact ⟨rfl, rfl⟩

end Loops

end Epoxy.Server
