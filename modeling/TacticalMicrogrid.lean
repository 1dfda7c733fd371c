import TacticalMicrogrid.Common.Selector.Deadlines
import TacticalMicrogrid.Common.Selector.Published
import TacticalMicrogrid.Common.Selector.CommsLoss
import TacticalMicrogrid.Common.Selector.Readvertised
import TacticalMicrogrid.Common.Selector.Silence
import TacticalMicrogrid.Common.TimerHandler.Simulation
import TacticalMicrogrid.Common.TimerHandler.Rearming
import TacticalMicrogrid.Controller.ActiveControllers
import TacticalMicrogrid.CLI.DeviceCache
import TacticalMicrogrid.CLI.Grammar
import TacticalMicrogrid.CLI.Presence
import TacticalMicrogrid.CLI.Questions
import TacticalMicrogrid.PowerDevices.Directions
import TacticalMicrogrid.PowerDevices.Obedience
import TacticalMicrogrid.PowerDevices.PowerFlow
import TacticalMicrogrid.PowerDevices.Reconnection
import TacticalMicrogrid.PowerDevices.Relaying
import TacticalMicrogrid.PowerDevices.Supply
import TacticalMicrogrid.Selection.CommandedMicrogrid
import TacticalMicrogrid.Selection.ExactClocks
import TacticalMicrogrid.Selection.Masters
import TacticalMicrogrid.StartStop.IntentBatches
import TacticalMicrogrid.StartStop.LastCommand
import TacticalMicrogrid.StartStop.OperatorIntents
import TacticalMicrogrid.StartStop.PendingRequests
import TacticalMicrogrid.StartStop.RecordedLevels
