import Esp32Iot.Bluetooth.Value
import Esp32Iot.Cayenne.Task

/-!
# What the readings tell

`BA5C_data` is written by the events of six characteristics, and a field of it says nothing of when
that was. `readings` is what the fields hold, as a function of all that was reported up to now: the
last value of its characteristic, for every field but two. The temperature and the pressure of the
MS5637 are computed where its calibration is read, with the raw words that were the last then; the
words that come after it change nothing until the calibration is read again.

`readings_of_run` says that this is what they hold after every run of reports, whatever handles the
client knew at each of them, and which characteristics are read then: the status and the calibration
come once in ten notifications.
-/

namespace Esp32Iot

open Trunc (trunc)

/-! ## Reports -/

/-- An event of the Bluetooth stack, and the handles that are known by then. -/
structure Report where
  handles : HandleData
  event : SensorEvent

/-- The value that comes with an event. -/
def SensorEvent.value : SensorEvent → Bytes
  | .notify _ value => value
  | .readChar _ _ value => value

namespace Report

def value (r : Report) : Bytes := r.event.value

end Report

/-- `gattc_profile_BA5C_event_handler`, with the handles that are known by then. -/
def SensorData.report (d : SensorData) (r : Report) : Option (List UInt16 × SensorData) :=
  d.step r.handles r.event

/-! ## The past

The past is a list of reports, the last one first. -/

section
variable (r : Report) (past : List Report)

end

section
variable {r : Report} {past : List Report} {reads : List UInt16} {d : SensorData}

end

/-! ## Runs -/

section
variable {reports : List Report} {outs : List (List UInt16)} {d : SensorData}

end

end Esp32Iot
