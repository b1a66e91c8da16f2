import OsiStack.Runs
import OsiStack.Sweep
import OsiStack.WrappedList

/- ethernet-study: devices that send in slots, with binary exponential backoff
   (binary_exp.c), behind a switch (switch.c) and behind a hub (hub.c).

   The number n of devices is a uint32_t of the source; any n stands here. A slot is given
   by what getrandom stores for each device that draws in it, none where getrandom fails. -/
set_option autoImplicit false

namespace OsiStack

def randGenerator (min max : UInt32) : Option UInt32 → UInt32
  | none => 0
  | some buf => min + buf % (max - min + 1)

-- `stored` is what col_det writes to devices_w_collision, in order, taking the room for
-- it as unbounded; with each entry it raises k and number_collision, both from 0.
structure Collisions (n : Nat) where
  stored : List (Fin n)
  result : Bool

def deviceCol {n : Nat} (devicesWCollision : List (Fin n)) (deviceId : Fin n) : Bool :=
  devicesWCollision.any fun device => decide (device = deviceId)

theorem device_col_iff {n : Nat} (stored : List (Fin n)) (i : Fin n) : deviceCol stored i = true ↔ i ∈ stored := by
  simp [deviceCol]

namespace BinaryExp

structure DeviceConfig where
  maxRange : UInt32
  nextAttempt : UInt32
  completed : UInt32
  currMax : UInt32
deriving DecidableEq, Repr

@[ext] structure State (n : Nat) where
  t : UInt32
  numberCompleted : Nat
  devices : Fin n → DeviceConfig

section
variable {n : Nat}

def transmits (device : DeviceConfig) (t : UInt32) : Bool := decide (device.nextAttempt = t) && decide (device.completed = 0)

def colDet (devices : Fin n → DeviceConfig) (t : UInt32) : Collisions n :=
  let transmitting := (List.finRange n).countP fun i => transmits (devices i) t
  if 2 ≤ transmitting then ⟨(List.finRange n).filter fun i => transmits (devices i) t, true⟩ else ⟨[], false⟩

-- A shift by 32 or more is undefined in C; here it is by the last five bits of the count.
def backOff (t : UInt32) (draw : Option UInt32) (device : DeviceConfig) : DeviceConfig :=
  let randN := randGenerator 0 device.maxRange draw
  let currMax := device.currMax + 1
  { device with nextAttempt := t + randN + 1, currMax := currMax, maxRange := (1 <<< currMax) - 1 }

def visit (t : UInt32) (found : Collisions n) (draws : Fin n → Option UInt32) (i : Fin n) (device : DeviceConfig)
    (numberCompleted : Nat) : DeviceConfig × Nat :=
  if device.completed ≠ 0 then (device, numberCompleted)
  else if device.nextAttempt = t then
    if found.result then
      if deviceCol found.stored i then (backOff t (draws i) device, numberCompleted) else (device, numberCompleted)
    else ({ device with completed := 1 }, numberCompleted + 1)
  else (device, numberCompleted)

def slot (s : State n) (draws : Fin n → Option UInt32) : State n :=
  let found := colDet s.devices s.t
  let swept := Sweep.sweep (visit s.t found draws) s.devices s.numberCompleted
  { t := s.t + 1, numberCompleted := swept.2, devices := swept.1 }

def simulationLoop (s : State n) : List (Fin n → Option UInt32) → Option UInt32
  | [] => if s.numberCompleted < n then none else some s.t
  | draws :: rest => if s.numberCompleted < n then simulationLoop (slot s draws) rest else some s.t

def initial (n : Nat) : State n :=
  ⟨0, 0, fun _ => { maxRange := 1, nextAttempt := 0, completed := 0, currMax := 1 }⟩

def simulation (n : Nat) (slots : List (Fin n → Option UInt32)) : Option UInt32 := simulationLoop (initial n) slots

end

end BinaryExp

structure DeviceConfig where
  srcPort : UInt32
  dstPort : UInt32
  transmitting : UInt32
deriving DecidableEq, Repr

@[ext] structure Tally where
  attempted : Nat
  successful : Nat
  failed : Nat
deriving DecidableEq, Repr

-- An int that would overflow is undefined in C, and has no value here.
def increment (counter : Nat) : Option Nat := if counter < 2147483647 then some (counter + 1) else none

namespace Tally

def attempt (tally : Tally) : Option Tally := (increment tally.attempted).map fun count => { tally with attempted := count }

def succeed (tally : Tally) : Option Tally := (increment tally.successful).map fun count => { tally with successful := count }

def fail (tally : Tally) : Option Tally := (increment tally.failed).map fun count => { tally with failed := count }

end Tally

-- 100 at once for a single device, else the share of the successful in the attempted, with
-- 0 for none attempted. The quotient of floats itself is left out.
inductive Percentage where
  | hundred
  | share (tally : Tally)
deriving DecidableEq, Repr

structure StudyState (n : Nat) where
  devices : Fin n → DeviceConfig
  tally : Tally

section
variable {n : Nat}

def assignPorts (heap : Fin n → DeviceConfig) : Fin n → DeviceConfig := fun i => { heap i with srcPort := UInt32.ofNat i }

-- The device_col of switch.c and hub.c, on the devices_w_collision and number_collision_
-- that col_det leaves: its k and the number are of 32 bits, the i of the search is an int.
def HubVsSwitch.deviceCol (found : Collisions n) (deviceId : Fin n) : Option Bool :=
  WrappedList.search (WrappedList.fill found.stored) deviceId

-- One pass of the counting loop, at device i; `missed` is what is counted for a device
-- that is not found behind a collision.
def countDevice (missed : Tally → Option Tally) (devices : Fin n → DeviceConfig) (found : Collisions n) (tally : Tally)
    (i : Fin n) : Option Tally :=
  if (devices i).transmitting ≠ 0 then
    tally.attempt.bind fun tally =>
      if found.result then (HubVsSwitch.deviceCol found i).bind fun collided => if collided then tally.fail else missed tally
      else tally.succeed
  else some tally

def chooseTransmitting (devices : Fin n → DeviceConfig) (draws : Fin n → Option UInt32) : Fin n → DeviceConfig :=
  fun i => { devices i with transmitting := randGenerator 0 1 (draws i) }

namespace Switch

structure Draws (n : Nat) where
  transmitting : Fin n → Option UInt32
  dstPort : Fin n → List (Option UInt32)

-- The do-while of device i; no value where its draws end on its own port.
def randDstPrt (i : Fin n) : List (Option UInt32) → Option UInt32
  | [] => none
  | draw :: rest =>
      let port := randGenerator 0 (UInt32.ofNat n - 1) draw
      if port = UInt32.ofNat i then randDstPrt i rest else some port

def chooseDstPort (draws : Fin n → List (Option UInt32)) (devices : Fin n → DeviceConfig) (i : Fin n) :
    Option (Fin n → DeviceConfig) :=
  if (devices i).transmitting ≠ 0 then
    (randDstPrt i (draws i)).map fun port => Function.update devices i { devices i with dstPort := port }
  else some devices

def choose (devices : Fin n → DeviceConfig) (draws : Draws n) : Option (Fin n → DeviceConfig) :=
  (List.finRange n).foldlM (chooseDstPort draws.dstPort) (chooseTransmitting devices draws.transmitting)

def transmittingDevices (devices : Fin n → DeviceConfig) : List (Fin n) :=
  (List.finRange n).filter fun i => decide ((devices i).transmitting ≠ 0)

def colDet (devices : Fin n → DeviceConfig) : Collisions n :=
  let ids := transmittingDevices devices
  if 2 ≤ ids.length then
    let stored := Sweep.itemClashes ids fun device other => decide ((devices device).dstPort = (devices other).dstPort)
    ⟨stored, decide (stored ≠ [])⟩
  else ⟨[], false⟩

def count (devices : Fin n → DeviceConfig) (found : Collisions n) : Tally → Fin n → Option Tally :=
  countDevice Tally.succeed devices found

def slot (s : StudyState n) (draws : Draws n) : Option (StudyState n) :=
  (choose s.devices draws).bind fun devices =>
    ((List.finRange n).foldlM (count devices (colDet devices)) s.tally).map fun tally => ⟨devices, tally⟩

def switchSimulation (heap : Fin n → DeviceConfig) (slots : List (Draws n)) : Option Percentage :=
  if n = 1 then some .hundred
  else if 2147483648 ≤ n then none
  else (slots.foldlM slot ⟨assignPorts heap, ⟨0, 0, 0⟩⟩).map fun s => .share s.tally

end Switch

namespace Hub

def colDet (devices : Fin n → DeviceConfig) : Collisions n :=
  let transmitting := (List.finRange n).countP fun i => decide ((devices i).transmitting ≠ 0)
  if 2 ≤ transmitting then
    let stored := Sweep.clashes (fun i j => decide ((devices i).transmitting ≠ 0) && decide ((devices j).transmitting ≠ 0)) id
    ⟨stored, decide (stored ≠ [])⟩
  else ⟨[], false⟩

-- Behind a collision a device that is not found is in none of the two counts.
def count (devices : Fin n → DeviceConfig) (found : Collisions n) : Tally → Fin n → Option Tally :=
  countDevice some devices found

def slot (s : StudyState n) (draws : Fin n → Option UInt32) : Option (StudyState n) :=
  let devices := chooseTransmitting s.devices draws
  ((List.finRange n).foldlM (count devices (colDet devices)) s.tally).map fun tally => ⟨devices, tally⟩

def hubSimulation (heap : Fin n → DeviceConfig) (slots : List (Fin n → Option UInt32)) : Option Percentage :=
  if n = 1 then some .hundred
  else if 2147483648 ≤ n then none
  else (slots.foldlM slot ⟨assignPorts heap, ⟨0, 0, 0⟩⟩).map fun s => .share s.tally

end Hub

end

end OsiStack
