import MataDevice.Gpt.Cycle
import MataDevice.Agps.Parameters
import MataDevice.Agps.Subscriptions
import MataDevice.Tracking.Multiplex
import MataDevice.Timer.Expiry
import MataDevice.Timer.Wakeup
import MataDevice.Timer.Lifecycle
import MataDevice.Ipc.Senders
import MataDevice.Ipc.Listener
import MataDevice.Log.LogBuffer
import MataDevice.MsgQueue.Delivery
import MataDevice.Batching.Responses
import MataDevice.Batching.Tables
import MataDevice.Batching.TripDistance
import MataDevice.Gnss.PendingMsgs
import MataDevice.Gnss.GetConfig
import MataDevice.Client.Control
import MataDevice.Client.Responses
import MataDevice.Power.Boost
import MataDevice.Power.Aborts
import MataDevice.Power.Modes
import MataDevice.HalDaemon.Pending
import MataDevice.HalDaemon.Suspend
import MataDevice.ClientApi.BatchingStart
import MataDevice.ClientApi.Subscriptions
import MataDevice.ClientApi.PositionSession
import MataDevice.Bluetooth.LowPower
import MataDevice.SyncReq.Indications
import MataDevice.SyncReq.Requests
import MataDevice.Geofence.Commands
import MataDevice.Geofence.Maps
import MataDevice.Geofence.Restart
import MataDevice.Observer.Notify
import MataDevice.SystemStatus.History
import MataDevice.SystemStatus.NetworkReset
import MataDevice.ClientApi.StartResponses
import MataDevice.HalDaemon.Geofences
import MataDevice.HalDaemon.TerrestrialFix
import MataDevice.HalDaemon.Purge
import MataDevice.Tracking.Lifecycle
import MataDevice.Ni.Answers
import MataDevice.Ntrip.Gga
import MataDevice.Ntrip.Stream
import MataDevice.Gnss.Odcpi
import MataDevice.Measurements.Epochs
import MataDevice.Measurements.CarrierPhase
import MataDevice.LocApi.EventMask
import MataDevice.LocApi.Adapters
import MataDevice.LocApi.GeofenceEvents
import MataDevice.PbMsgConv.Bounds
import MataDevice.PbMsgConv.RoundTrip
import MataDevice.Integration.Replay
import MataDevice.LocationApi.Completion
import MataDevice.ClientApi.Geofences
import MataDevice.SystemStatus.DebugDecode
import MataDevice.Power.Windows
import MataDevice.Batching.FailedStops
import MataDevice.SvConfig.Codec
import MataDevice.SvConfig.Constellations
import MataDevice.Client.RemoveAll
import MataDevice.Nmea.GroupCodes
import MataDevice.Nmea.Receiver
import MataDevice.Gpt.InBounds
import MataDevice.Gpt.Commit
import MataDevice.Gpt.Framed
import MataDevice.Timer.Deadlines
import MataDevice.Timer.Tree
import MataDevice.Config.OwnBlock
import MataDevice.Gnss.UsedInFix
import MataDevice.Gnss.AidingData
import MataDevice.MiscUtils.SplitString
import MataDevice.Log.Refinement
import MataDevice.MsgQueue.Refinement
import MataDevice.Light.Lights
