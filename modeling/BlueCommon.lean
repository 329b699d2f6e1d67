import BlueCommon.Lib.Lts
import BlueCommon.Lib.Threads
import BlueCommon.Ril.WakeAck
import BlueCommon.Ril.TokenDiscipline
import BlueCommon.Ril.Dispatch
import BlueCommon.Ril.RadioImpl
import BlueCommon.Ril.EntryPoints
import BlueCommon.Ril.EntrySystem
import BlueCommon.Ril.ErrorExits
import BlueCommon.Ril.ManualSelection
import BlueCommon.Ril.ServiceLocks
import BlueCommon.Ril.LockBalance
import BlueCommon.Ril.ClientRegistration
import BlueCommon.Ril.WatchTable
import BlueCommon.Ril.EventLayer
import BlueCommon.Ril.EventDeletion
import BlueCommon.Lib.Records
import BlueCommon.Ril.DataCalls
import BlueCommon.Sap.Memory
import BlueCommon.Sap.Requests
import BlueCommon.Sap.ApduRequest
import BlueCommon.Sap.PendingQueue
import BlueCommon.Sap.Hands
import BlueCommon.Sap.Ownership
import BlueCommon.Lib.Overwrite
import BlueCommon.Lights.Rendering
import BlueCommon.Lights.LedFiles
import BlueCommon.Lights.LogoLight
import BlueCommon.Lib.Exits
import BlueCommon.Releasetools.Shell
import BlueCommon.Releasetools.UserdataScripts
import BlueCommon.Releasetools.RunEffects
import BlueCommon.Lib.LineTools
import BlueCommon.Releasetools.ResizeUserdata
import BlueCommon.Releasetools.Consent
import BlueCommon.DeviceSettings.DozeService
import BlueCommon.DeviceSettings.DozeEffects
import BlueCommon.DeviceSettings.DozeRuns
import BlueCommon.Gnss.Wakelock
import BlueCommon.Lib.KeyValues
import BlueCommon.Camera.Parameters
import BlueCommon.Camera.Wrapper
import BlueCommon.Lib.Image
import BlueCommon.Boot.Mkelf
import BlueCommon.Boot.EntryPoint
import BlueCommon.Gnss.AgpsStatus
import BlueCommon.Gnss.SvStatus
import BlueCommon.Shims.Messages
import BlueCommon.Shims.MessageRuns
import BlueCommon.Shims.Callbacks
import BlueCommon.Lib.SharedBlocks
import BlueCommon.Shims.VectorStorage
import BlueCommon.Shims.BlockHeap
import BlueCommon.Lib.OrderedLists
import BlueCommon.Shims.VectorRuns
import BlueCommon.Shims.SortedVector
import BlueCommon.Shims.SortedVectorRuns
import BlueCommon.Lib.Waveform
import BlueCommon.Lights.Patterns
import BlueCommon.Ril.NitzDelivery
import BlueCommon.Ril.NitzRuns
import BlueCommon.Lib.Numerals
import BlueCommon.Ril.EventLoop
import BlueCommon.Ril.TimerQueue
import BlueCommon.Ril.CdmaSms
import BlueCommon.Ril.LoopWakeup
import BlueCommon.Ril.RequestStrings
import BlueCommon.Ril.SignalStrength
import BlueCommon.Ril.SmsPdu
import BlueCommon.Ril.Mnc
import BlueCommon.Ril.CellIdentity
import BlueCommon.Ril.CardStatus
import BlueCommon.Macaddrsetup.ReadMac
import BlueCommon.Ril.Operators
import BlueCommon.Macaddrsetup.TaHandle
import BlueCommon.Camera.Device
import BlueCommon.Camera.Lists
import BlueCommon.Lib.Cells
import BlueCommon.Lib.CharBuffers
import BlueCommon.Camera.Buffers
import BlueCommon.Camera.Cycles
import BlueCommon.Shims.GraphicBuffer
import BlueCommon.Shims.FlattenedBuffers
import BlueCommon.Lib.Owners
import BlueCommon.Shims.BufferOwners
import BlueCommon.Lib.HeapPrograms
import BlueCommon.Ril.RequestMemory
import BlueCommon.Lib.Outlines
import BlueCommon.Shims.SensorManager
import BlueCommon.Shims.SensorServiceDeath
import BlueCommon.Releasetools.Layout
import BlueCommon.Ril.CellInfo
import BlueCommon.Ril.ModemUuids
import BlueCommon.Camera.RoundTrip
