import AnglerHal.RequestAtomicity
import AnglerHal.FlushAnswers
import AnglerHal.DelayedResults
import AnglerHal.PartialResults
import AnglerHal.LossTolerance
import AnglerHal.SuperbufConservation
import AnglerHal.OfflineMappings
import AnglerHal.OfflineMetaPool
import AnglerHal.PostProcWakeup
import AnglerHal.ContainerOwnership
import AnglerHal.BurstCounting
import AnglerHal.StartRollback
import AnglerHal.Semaphore
import AnglerHal.GrallocTable
import AnglerHal.PendingIterator
import AnglerHal.MetadataDisposal
import AnglerHal.JpegCallbacks
import AnglerHal.JpegConservation
import AnglerHal.PendingCount
import AnglerHal.KernelAccounting
import AnglerHal.StreamResources
import AnglerHal.OmxHandles
import AnglerHal.FlashOwnership
import AnglerHal.ApiOwners
import AnglerHal.PlaneSound
import AnglerHal.DisplayHint
import AnglerHal.RmnetNames
import AnglerHal.RmnetTransact
import AnglerHal.CropRoundTrip
import AnglerHal.EncodeHandlers
import AnglerHal.HintList
import AnglerHal.RpmStats
import AnglerHal.QueueRing
import AnglerHal.CameraReferences
import AnglerHal.CbDelivery
import AnglerHal.PassChannels
import AnglerHal.DataProcWakeup
import AnglerHal.MapAcks
import AnglerHal.PoolOwnership
import AnglerHal.DefferedWakeups
import AnglerHal.BlackLevel
import AnglerHal.BufDef
import AnglerHal.PerfLock
import AnglerHal.LinkedStreams
import AnglerHal.StreamThread
import AnglerHal.OfflineReproc
import AnglerHal.JobIds
import AnglerHal.FrameIds
import AnglerHal.BatchStaging
import AnglerHal.BatchTimes
import AnglerHal.StreamTable
import AnglerHal.YuvRequest
import AnglerHal.SizesList
import AnglerHal.CameraAreas
import AnglerHal.BatchCount
import AnglerHal.ExifEntries
import AnglerHal.HdrMode
import AnglerHal.AeBracketing
import AnglerHal.CameraDiscovery
import AnglerHal.ObjectHandles
import AnglerHal.MemoryObjects
