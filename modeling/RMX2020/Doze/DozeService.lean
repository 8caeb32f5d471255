import RMX2020.Doze.PickupSensor
import RMX2020.Doze.Utils

/-!
# The doze service

An instance of `DozeService`, from `onCreate` to `onDestroy`. It follows the display by the screen
broadcasts sent to its receiver, which the system delivers later, in order.
-/

namespace RMX2020.Doze

/-- The screen broadcasts the receiver is registered for. -/
inductive ScreenIntent where
  | ACTION_SCREEN_ON
  | ACTION_SCREEN_OFF
  deriving DecidableEq

structure DozeService where
  pickupSensor : PickupSensor
  /-- Broadcasts sent to `screenStateReceiver`, not yet delivered. -/
  broadcasts : List ScreenIntent := []
  deriving DecidableEq

namespace DozeService

/-- The sensor is set up and the receiver registered; the display is not looked at. -/
def onCreate (device : Device) : DozeService := { pickupSensor := .create device }

/-- The receiver is unregistered, so what is still on its way to it is dropped. -/
def onDestroy (d : DozeService) : DozeService :=
  { d with broadcasts := [], pickupSensor := d.pickupSensor.disable }

def onDisplayOn (d : DozeService) (context : UserId) (w : Settings) : DozeService :=
  if Utils.isPickUpEnabled context w then { d with pickupSensor := d.pickupSensor.disable } else d

def onDisplayOff (d : DozeService) (context : UserId) (w : Settings) : DozeService :=
  if Utils.isPickUpEnabled context w then { d with pickupSensor := d.pickupSensor.enable } else d

/-- The system sends a broadcast to the receiver. -/
def send (d : DozeService) (intent : ScreenIntent) : DozeService :=
  { d with broadcasts := d.broadcasts ++ [intent] }

/-- What a broadcast tells of the display. -/
def tells : ScreenIntent → Bool
  | .ACTION_SCREEN_ON => true
  | .ACTION_SCREEN_OFF => false

def onReceive (d : DozeService) (context : UserId) (w : Settings) (intent : ScreenIntent) :
    DozeService :=
  match intent with
  | .ACTION_SCREEN_ON => d.onDisplayOn context w
  | .ACTION_SCREEN_OFF => d.onDisplayOff context w

/-- The oldest broadcast is delivered, if there is one. -/
def receiveNext (d : DozeService) (context : UserId) (w : Settings) : DozeService :=
  match d.broadcasts with
  | [] => d
  | intent :: rest => { d with broadcasts := rest }.onReceive context w intent

/-- The executor of the instance's sensor runs a task. -/
def runTask (elapsedRealtime : Int) (d : DozeService) : DozeService :=
  { d with pickupSensor := d.pickupSensor.runTask elapsedRealtime }

/-- The listener is registered once the executor has run dry. -/
def listening (d : DozeService) : Bool := d.pickupSensor.willBeRegistered

section Lemmas

variable (d : DozeService) (context : UserId) (w : Settings) (intent : ScreenIntent)

@[simp] theorem listening_runTask (elapsedRealtime : Int) :
    (d.runTask elapsedRealtime).listening = d.listening :=
  PickupSensor.willBeRegistered_runTask _ _

/-- A destroyed instance stops listening whatever is stored. -/
theorem listening_onDestroy :
    d.onDestroy.listening = (!d.pickupSensor.sensor.isSome && d.listening) :=
  PickupSensor.willBeRegistered_disable _

/-- A broadcast is only acted upon while a pick-up type is chosen. -/
theorem listening_onReceive : (d.onReceive context w intent).listening =
    if Utils.isPickUpEnabled context w then
      if tells intent then !d.pickupSensor.sensor.isSome && d.listening
      else d.pickupSensor.sensor.isSome || d.listening
    else d.listening := by
  cases intent with
  | ACTION_SCREEN_ON =>
    simp only [onReceive, onDisplayOn, tells, if_true]
    split
    · exact PickupSensor.willBeRegistered_disable _
    · rfl
  | ACTION_SCREEN_OFF =>
    simp only [onReceive, onDisplayOff, tells, Bool.false_eq_true, if_false]
    split
    · exact PickupSensor.willBeRegistered_enable _
    · rfl

@[simp] theorem broadcasts_onReceive :
    (d.onReceive context w intent).broadcasts = d.broadcasts := by
  unfold onReceive onDisplayOn onDisplayOff
  cases intent <;> simp only <;> split <;> rfl

@[simp] theorem sensor_onReceive :
    (d.onReceive context w intent).pickupSensor.sensor = d.pickupSensor.sensor := by
  unfold onReceive onDisplayOn onDisplayOff
  cases intent <;> simp only <;> split <;> simp

end Lemmas

end DozeService

end RMX2020.Doze
