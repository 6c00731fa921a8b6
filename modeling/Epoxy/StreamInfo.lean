/-
The record that a stream's two handles share with the multiplexor actor: the
kind of flow control, the credit counter, the close reason, and the task that
waits for credit.
-/
import Epoxy.LockedSink
import Epoxy.Packet

namespace Epoxy

inductive FlowControl where
  | disabled
  /-- Outgoing data is counted and waits for credit. -/
  | enabledTrackAmount
  /-- Incoming data is buffered and answered with credit. -/
  | enabledSendMessages
deriving Repr, DecidableEq

/-- `u32::saturating_add` -/
def saturatingAdd (a b : UInt32) : UInt32 :=
  if a.toNat + b.toNat < 2 ^ 32 then a + b else 0xFFFFFFFF

/-- `u32::saturating_sub` -/
def saturatingSub (a b : UInt32) : UInt32 := if b ≤ a then a - b else 0

theorem toNat_saturatingAdd (a b : UInt32) :
    (saturatingAdd a b).toNat = min (a.toNat + b.toNat) (2 ^ 32 - 1) := by
  unfold saturatingAdd
  split
  · next hlt =>
      rw [UInt32.toNat_add]
      omega
  · next hge =>
      change 2 ^ 32 - 1 = _
      omega

theorem toNat_saturatingSub (a b : UInt32) :
    (saturatingSub a b).toNat = a.toNat - b.toNat := by
  unfold saturatingSub
  split
  · next hle => rw [UInt32.toNat_sub_of_le a b hle]
  · next hgt =>
      rw [UInt32.le_iff_toNat_le] at hgt
      change 0 = _
      omega

structure StreamInfo where
  id : UInt32
  flowStatus : FlowControl
  targetFlowControl : UInt32
  flowControl : UInt32
  closeReason : UInt8
  flowWaker : Waiter
deriving Repr, DecidableEq

namespace StreamInfo

/-- Credit is announced once 90% of the buffer has been read. -/
def new (id : UInt32) (flowStatus : FlowControl) (bufferSize : UInt32) :
    StreamInfo where
  id := id
  flowStatus := flowStatus
  targetFlowControl := UInt32.ofNat (bufferSize.toNat * 90 / 100)
  flowControl := bufferSize
  closeReason := CloseReason.unknown.toU8
  flowWaker := .woken

def flowSet (info : StreamInfo) (amt : UInt32) : StreamInfo :=
  { info with flowControl := amt }

def flowAdd (info : StreamInfo) (amt : UInt32) : StreamInfo :=
  { info with flowControl := saturatingAdd info.flowControl amt }

def flowSub (info : StreamInfo) (amt : UInt32) : StreamInfo :=
  { info with flowControl := saturatingSub info.flowControl amt }

def flowDec (info : StreamInfo) : StreamInfo := info.flowSub 1

def flowEmpty (info : StreamInfo) : Bool := info.flowControl = 0

def flowRegister (info : StreamInfo) (cx : Waker) : StreamInfo :=
  { info with flowWaker := info.flowWaker.register cx }

def flowWake (info : StreamInfo) : StreamInfo × Option Waker :=
  ({ info with flowWaker := info.flowWaker.wake.1 }, info.flowWaker.wake.2)

def getReason (info : StreamInfo) : CloseReason := .ofU8 info.closeReason

def setReason (info : StreamInfo) (reason : CloseReason) : StreamInfo :=
  { info with closeReason := reason.toU8 }

theorem toNat_targetFlowControl_new (id : UInt32) (flowStatus : FlowControl)
    (bufferSize : UInt32) :
    (new id flowStatus bufferSize).targetFlowControl.toNat =
      bufferSize.toNat * 90 / 100 := by
  have hlt := bufferSize.toNat_lt
  change (UInt32.ofNat _).toNat = _
  rw [UInt32.toNat_ofNat']
  omega

@[simp] theorem flowStatus_new (id : UInt32) (flowStatus : FlowControl)
    (bufferSize : UInt32) :
    (new id flowStatus bufferSize).flowStatus = flowStatus := rfl

@[simp] theorem flowControl_new (id : UInt32) (flowStatus : FlowControl)
    (bufferSize : UInt32) :
    (new id flowStatus bufferSize).flowControl = bufferSize := rfl

@[simp] theorem flowControl_flowSet (info : StreamInfo) (amt : UInt32) :
    (info.flowSet amt).flowControl = amt := rfl

@[simp] theorem toNat_flowControl_flowAdd (info : StreamInfo) (amt : UInt32) :
    (info.flowAdd amt).flowControl.toNat =
      min (info.flowControl.toNat + amt.toNat) (2 ^ 32 - 1) :=
  toNat_saturatingAdd info.flowControl amt

@[simp] theorem toNat_flowControl_flowDec (info : StreamInfo) :
    info.flowDec.flowControl.toNat = info.flowControl.toNat - 1 :=
  toNat_saturatingSub info.flowControl 1

theorem flowEmpty_iff {info : StreamInfo} :
    info.flowEmpty = true ↔ info.flowControl.toNat = 0 := by
  simp [flowEmpty, ← UInt32.toNat_inj]

@[simp] theorem flowControl_flowRegister (info : StreamInfo) (cx : Waker) :
    (info.flowRegister cx).flowControl = info.flowControl := rfl

@[simp] theorem flowControl_flowWake (info : StreamInfo) :
    info.flowWake.1.flowControl = info.flowControl := rfl

@[simp] theorem flowControl_setReason (info : StreamInfo)
    (reason : CloseReason) :
    (info.setReason reason).flowControl = info.flowControl := rfl

@[simp] theorem getReason_setReason (info : StreamInfo)
    (reason : CloseReason) :
    (info.setReason reason).getReason = .ofU8 reason.toU8 := rfl

end StreamInfo

end Epoxy
