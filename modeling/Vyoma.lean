import Vyoma.ActiveVms
import Vyoma.AgentClient
import Vyoma.AgentConnection
import Vyoma.AgentProtocol
import Vyoma.AgentResponses
import Vyoma.AttestationGate
import Vyoma.AttestationIsolation
import Vyoma.AttestationRace
import Vyoma.AttestedImages
import Vyoma.AuthChallenges
import Vyoma.AutoSnapshot
import Vyoma.AutoSnapshotTasks
import Vyoma.BaseImages
import Vyoma.BranchedDisks
import Vyoma.BufReaders
import Vyoma.BuildCaches
import Vyoma.BuildDevices
import Vyoma.BuildRunner
import Vyoma.CachedNames
import Vyoma.ClientRoutes
import Vyoma.CniAttachments
import Vyoma.CniNetworks
import Vyoma.CommittedImages
import Vyoma.ComposeOrder
import Vyoma.ComposePorts
import Vyoma.ComposeV3
import Vyoma.CorruptRecords
import Vyoma.CriLifecycle
import Vyoma.CriLocks
import Vyoma.CriPods
import Vyoma.CriRecords
import Vyoma.CriServer
import Vyoma.DashboardAccess
import Vyoma.DepthFirst
import Vyoma.DiskSizes
import Vyoma.DnsServer
import Vyoma.EventDelivery
import Vyoma.EventFrames
import Vyoma.Excepts
import Vyoma.FileTrees
import Vyoma.FilteredLists
import Vyoma.FolderMonitor
import Vyoma.Frames
import Vyoma.GoStrings
import Vyoma.GuestControl
import Vyoma.HashMaps
import Vyoma.HostFiles
import Vyoma.HostLookup
import Vyoma.ImageConversion
import Vyoma.ImageRefs
import Vyoma.ImageStore
import Vyoma.ImageVerification
import Vyoma.InitScript
import Vyoma.JsonTexts
import Vyoma.KernelCatalog
import Vyoma.KernelDevices
import Vyoma.LockPrograms
import Vyoma.LogStreams
import Vyoma.ManifestSigning
import Vyoma.ManifestTrust
import Vyoma.MemorySizes
import Vyoma.MigrationBars
import Vyoma.NodeLookup
import Vyoma.Numerals
import Vyoma.OrderedMaps
import Vyoma.Overlays
import Vyoma.PcrQuotes
import Vyoma.PcrTexts
import Vyoma.PointerChains
import Vyoma.ProcessTables
import Vyoma.ProgramContracts
import Vyoma.RegistryPulls
import Vyoma.ResourceLimits
import Vyoma.Runs
import Vyoma.RustText
import Vyoma.ScaleCommand
import Vyoma.SharedFolders
import Vyoma.ShellText
import Vyoma.SnapshotAncestry
import Vyoma.SnapshotChain
import Vyoma.SnapshotDeletion
import Vyoma.SnapshotTags
import Vyoma.SnapshotTree
import Vyoma.SocketAddrs
import Vyoma.StackDown
import Vyoma.StackUp
import Vyoma.StartScript
import Vyoma.StateFiles
import Vyoma.StateRecovery
import Vyoma.StatusAgreement
import Vyoma.StorageVolumes
import Vyoma.StoreEntries
import Vyoma.StoreFrames
import Vyoma.StreamingRuns
import Vyoma.StreamingServer
import Vyoma.SwarmEvents
import Vyoma.SwarmInvariant
import Vyoma.SwarmJoin
import Vyoma.SwarmLeases
import Vyoma.SwarmPlacements
import Vyoma.SwarmRaft
import Vyoma.SwarmReplay
import Vyoma.SwarmReplicas
import Vyoma.TeleportMigration
import Vyoma.TeleportOwnership
import Vyoma.TeleportSessions
import Vyoma.TeleportTargets
import Vyoma.TextSearch
import Vyoma.TextSplits
import Vyoma.TimeMachine
import Vyoma.TimeTravel
import Vyoma.UnreadableHistories
import Vyoma.Utf8Chunks
import Vyoma.VmAddresses
import Vyoma.VmCreation
import Vyoma.VmDisks
import Vyoma.VmLifecycle
import Vyoma.VmRequests
import Vyoma.VmStorage
import Vyoma.VmifManifest
import Vyoma.VolumeChains
import Vyoma.VsockProxy
import Vyoma.Vyomafile
import Vyoma.VyomafilePrinting
import Vyoma.Wal
import Vyoma.WalReads
import Vyoma.WalTracking
import Vyoma.WireGuardMesh
