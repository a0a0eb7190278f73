import CopysetWatch.Alert.Probe
import CopysetWatch.Simulation.Timeline

/-!
# View of the services

The capacity of a cluster and the endpoints of its services, described piece by piece. An endpoint
that is not described is offline like one that was made so; endpoints can be late, and finding the
endpoints of a service can fail.
-/

namespace CopysetWatch.Alert

/-- What a probe answers from. -/
structure ServiceView where
  capacity : Option Capacity := none
  /-- The endpoints of each service. -/
  endpoints : Service → List String := fun _ => []
  /-- Whether each endpoint leads its service, unless it is offline. -/
  status : Service → String → Option Bool := fun _ _ => none
  /-- How late each endpoint answers, in milliseconds, whatever its service. -/
  delay : String → Nat := fun _ => 0
  /-- Whether finding the endpoints of each service fails. -/
  endpointsFail : Service → Bool := fun _ => false

namespace ServiceView

instance : Inhabited ServiceView := ⟨{}⟩

/-- Sets the status of an endpoint. -/
def setStatus (v : ServiceView) (service : Service) (endpoint : String) (leads : Option Bool) :
    ServiceView :=
  { v with status := fun s e => if s = service ∧ e = endpoint then leads else v.status s e }

/-- Adds an endpoint, which follows. -/
def addEndpoint (v : ServiceView) (service : Service) (endpoint : String) : ServiceView :=
  { v.setStatus service endpoint (some false) with
    endpoints := fun s =>
      if s = service then v.endpoints service ++ [endpoint] else v.endpoints s }

/-- Sets the capacity. -/
def setCapacity (v : ServiceView) (capacity : Capacity) : ServiceView :=
  { v with capacity := some capacity }

/-- Makes an endpoint late. -/
def setDelay (v : ServiceView) (endpoint : String) (delay : Nat) : ServiceView :=
  { v with delay := fun e => if e = endpoint then delay else v.delay e }

/-- Makes finding the endpoints of a service fail. -/
def setEndpointsFail (v : ServiceView) (service : Service) : ServiceView :=
  { v with endpointsFail := fun s => if s = service then true else v.endpointsFail s }

/-- The capacity, if it is described. -/
def findCapacity (v : ServiceView) : Except Fault Capacity :=
  match v.capacity with
  | some capacity => .ok capacity
  | none => .error (.gateway "cluster capacity unavailable")

/-- The endpoints of a service. -/
def findEndpoints (v : ServiceView) (service : Service) : Except Fault (List String) :=
  if v.endpointsFail service then
    .error (.gateway (service.name ++ " endpoints unavailable"))
  else .ok (v.endpoints service)

/-- Whether an endpoint leads its service. -/
def leads (v : ServiceView) (service : Service) (endpoint : String) : Except Fault Bool :=
  match v.status service endpoint with
  | some leads => .ok leads
  | none =>
    .error (.gateway (service.name ++ " endpoint " ++ endpoint ++ " unreachable"))

/-- The probe of services whose view changes over time, as it answers at a moment by a clock. A late
status is the one at the moment of the answer. -/
def probe (clock : Clock) (views : Nat → ServiceView) (moment : Nat) : Probe where
  capacity := .now (views moment).findCapacity
  endpoints service := .now ((views moment).findEndpoints service)
  leads service endpoint :=
    let delay := clock.wait ((views moment).delay endpoint)
    ⟨delay, .ofExcept ((views (moment + delay)).leads service endpoint)⟩

end ServiceView

end CopysetWatch.Alert
