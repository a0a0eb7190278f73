import CopysetWatch.Alert.Kind
import CopysetWatch.Inquiry

/-!
# Probe

The probe is how capacity and services are seen. It is given as it answers the questions asked at
one moment; every answer may take its time, fail or panic, and an endpoint whose status cannot be
had is offline.
-/

namespace CopysetWatch.Alert

/-- The capacity of a cluster in bytes. -/
structure Capacity where
  total : UInt64
  used : UInt64
  deriving DecidableEq, Repr, Inhabited

/-- The used capacity in whole percent, as a 64-bit number, unless there is no capacity. -/
def Capacity.usedPercent (c : Capacity) : Option UInt64 :=
  if c.total = 0 then none else some (.ofNat (c.used.toNat * 100 / c.total.toNat))

/-- The answers to the questions asked at one moment. -/
structure Probe where
  capacity : Reply Capacity
  /-- The endpoints of a service. -/
  endpoints : Service → Reply (List String)
  /-- Whether an endpoint of a service leads it. -/
  leads : Service → String → Reply Bool

end CopysetWatch.Alert
