import Everest.Auth.GrantedReservations
import Everest.Auth.OfferedConnectors
import Everest.Auth.ReservationsKept
import Everest.Eebus.FailsafeOnLoss
import Everest.Eebus.PublishedLimit
import Everest.Energy.Minimum
import Everest.Energy.PriceMerge
import Everest.Energy.Slots
import Everest.Evse.Charger.EnabledSources
import Everest.Evse.ConnectorLock
import Everest.Evse.ErrorsCleared
import Everest.Evse.OverVoltageFaults
import Everest.Evse.PlugIn
import Everest.Evse.PowerOffTimer
import Everest.Evse.TimerDeadlock
import Everest.Evse.WakeUpToggles
import Everest.Framework.ConfigRequests
import Everest.Iso15118.D2.CableCheckPassed
import Everest.Iso15118.D20.PowerProfile
import Everest.Iso15118.PhysicalValues
import Everest.Ocpp.BootNotification
import Everest.Ocpp.CallAnsweredFirst
import Everest.Ocpp.IntegerLimits
import Everest.Ocpp.LocalList
import Everest.Ocpp.QueueRestart
import Everest.Ocpp.QueuedMeterValues
import Everest.Ocpp.Resets
import Everest.Ocpp.StartHandlerFirst
import Everest.Ocpp.StopAcknowledged
import Everest.Ocpp.ThresholdMonitors
import Everest.SmartCharging.CompositeLimits
import Everest.SmartCharging.Deadlines
import Everest.SmartCharging.DynamicUpdates
import Everest.SmartCharging.MergedPeriods
import Everest.SmartCharging.ProfilesRestored
import Everest.SmartCharging.SetpointLimits
import Everest.Util.ThreadPool
