import NearbyBeacons.Decimal
/-!
# Errors of requests

What a scanner or a reader of the list can get wrong, with the code, the message and
the HTTP status that each cause is reported with.
-/

namespace NearbyBeacons

/-- The two signal values of an observation. -/
inductive Signal where
  | rssi
  | txPower
  deriving DecidableEq, Repr

/-- The name of a signal value in messages and records. -/
def Signal.name : Signal → String
  | .rssi => "rssi"
  | .txPower => "tx_power"

/-- The cause of a refused request. -/
inductive RequestError where
  /-- An observation carries a malformed hardware address. -/
  | invalidAddress (address : String)
  /-- A signal value lies outside the range that radios report. -/
  | signalOutOfRange (signal : Signal) (value low high : Int)
  /-- A row past the end of the visible list was asked for. -/
  | positionOutOfRange (position count : Nat)
  deriving DecidableEq, Repr

namespace RequestError

/-- The machine-readable name of the cause. -/
def code : RequestError → String
  | invalidAddress _ => "INVALID_DEVICE_ADDRESS"
  | signalOutOfRange .. => "SIGNAL_OUT_OF_RANGE"
  | positionOutOfRange .. => "POSITION_OUT_OF_RANGE"

/-- The sentence that reports the cause. -/
def message : RequestError → String
  | invalidAddress address =>
    "Invalid device address: '" ++ address ++ "'. Expected format XX:XX:XX:XX:XX:XX."
  | signalOutOfRange signal value low high =>
    "Invalid " ++ signal.name ++ ": " ++ Decimal.intText value ++ " dBm is outside " ++
      Decimal.intText low ++ "..=" ++ Decimal.intText high
  | positionOutOfRange position count =>
    "Position " ++ Decimal.natText position ++ " is out of range for a list of " ++
      Decimal.natText count ++ " beacons"

/-- The HTTP status: not found for a position, a bad request for the rest. -/
def status : RequestError → Nat
  | invalidAddress _ | signalOutOfRange .. => 400
  | positionOutOfRange .. => 404

end RequestError

end NearbyBeacons
