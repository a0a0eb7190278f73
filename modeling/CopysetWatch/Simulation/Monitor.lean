import CopysetWatch.Config
import CopysetWatch.Simulation.Basic

/-!
# Monitors

A monitor is a supervisor that runs by a configuration: it checks with the settings that the
configuration has and counts its checks under the cluster that the configuration names. An
invalid configuration starts none.
-/

namespace CopysetWatch

/-- The parts of a monitor that its evaluations work by; an endpoint may take as long to answer
as the gateway. -/
def Config.environment (c : Config) : Alert.Environment where
  cluster := c.cluster
  check := c.check
  probeTimeout := c.check.gatewayTimeout

namespace Simulation

/-- Starts the monitor of a configuration in place of any supervisor that is running. -/
def startMonitor (s : Simulation) (c : Config) : Except Fault String × Simulation :=
  match c.validate with
  | .error f => (.error f, s)
  | .ok () => s.startSupervisor c.cluster c.environment c.alerting

end Simulation

end CopysetWatch
