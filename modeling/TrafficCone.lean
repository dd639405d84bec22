import TrafficCone.Outcomes
import TrafficCone.TransducerRuns
import TrafficCone.FirstMaximumSelection
import TrafficCone.HexadecimalText
import TrafficCone.TextScanning
import TrafficCone.StoreModels
import TrafficCone.LinkedCrates
import TrafficCone.StoreListing
import TrafficCone.RouteResolution
import TrafficCone.RestrictionSoundness
import TrafficCone.ProcReaders
import TrafficCone.ProcessMonitoring
import TrafficCone.IntegrityRecords
import TrafficCone.PidRouting
import TrafficCone.RegisteredHashes
import TrafficCone.LengthFraming
import TrafficCone.IpcServing
import TrafficCone.TextLeads
import TrafficCone.ErrorTexts
import TrafficCone.ClaimedPidInfluence
import TrafficCone.SshAgentServing
import TrafficCone.DaemonRuns
import TrafficCone.SignatureRecipients
import TrafficCone.LockedSilence
import TrafficCone.LibconeAdmission
import TrafficCone.IndependentLoading
import TrafficCone.DatabaseTables
import TrafficCone.BackupArchives
import TrafficCone.TableLoading
import TrafficCone.CollectedPayloads
import TrafficCone.BackupRestoring
import TrafficCone.BackupRoundTrip
import TrafficCone.KeyedMerging
import TrafficCone.RestoreIntoExisting
import TrafficCone.P11Client
import TrafficCone.CachedConnection
import TrafficCone.SharedConnection
import TrafficCone.JsonValues
import TrafficCone.IpcMessages
import TrafficCone.P11Messages
import TrafficCone.CliClient
import TrafficCone.KernelProcesses
import TrafficCone.MonitorRuns
import TrafficCone.PidReuse
import TrafficCone.EntryFreshness
import TrafficCone.FirstDestination
import TrafficCone.SocketTables
import TrafficCone.ForeignSockets
import TrafficCone.DestinationPriority
import TrafficCone.BoundDestinations
import TrafficCone.KeyedReplacing
import TrafficCone.IntegrityChecks
import TrafficCone.RecordedUpgrades
import TrafficCone.RequiredComponents
import TrafficCone.KnownBinaries
import TrafficCone.CertificateImport
import TrafficCone.StoreCommands
import TrafficCone.KeyCustody
import TrafficCone.CommittedStatements
import TrafficCone.CustodyRuns
import TrafficCone.SplitReads
import TrafficCone.ForeignKeyFailures
import TrafficCone.InterleavedBackups
import TrafficCone.FirstUnlock
import TrafficCone.SshKeySelection
import TrafficCone.SshAlgorithms
import TrafficCone.P11Module
import TrafficCone.HandleSignatures
import TrafficCone.HandleStability
import TrafficCone.PendingSignatures
import TrafficCone.ConcurrentSearches
import TrafficCone.KernelAddresses
import TrafficCone.RoutePrecedence
import TrafficCone.ObjectSearches
import TrafficCone.SshIdentities
import TrafficCone.SshAgentAnswers
import TrafficCone.SshAgentStreams
import TrafficCone.FirstComers
import TrafficCone.RestoredTables
import TrafficCone.RestoreRepetition
import TrafficCone.RestoreCounters
import TrafficCone.RestoredBlobs
import TrafficCone.StatementFailures
import TrafficCone.FailingStatements
import TrafficCone.RestoreAtomicity
import TrafficCone.ImportAtomicity
import TrafficCone.PrintedSockets
import TrafficCone.AddressSpellings
import TrafficCone.NetworkPatterns
import TrafficCone.DocumentedPrecedence
import TrafficCone.CertificateRemoval
import TrafficCone.RestoredNonces
import TrafficCone.DerEncoding
import TrafficCone.PrivateKeyEncodings
import TrafficCone.StoredImports
import TrafficCone.ImportedKeyKinds
import TrafficCone.FileImports
import TrafficCone.PemKeyFormats
import TrafficCone.PemImportPaths
import TrafficCone.AgentSeeds
import TrafficCone.SshStrings
import TrafficCone.SshSignatureBlobs
import TrafficCone.SocketAddresses
import TrafficCone.DaemonEnvironment
import TrafficCone.RouteRemoval
import TrafficCone.AppRemoval
import TrafficCone.DiagnosticAgreement
import TrafficCone.StartTimes
import TrafficCone.MalformedProcFiles
import TrafficCone.CrashConditions
import TrafficCone.SchemaMigration
import TrafficCone.Threads
import TrafficCone.RelyGuarantee
import TrafficCone.CommandThreads
import TrafficCone.CertificateStanding
import TrafficCone.ConcurrentCustody
import TrafficCone.CommandInterleavings
import TrafficCone.Revocation
import TrafficCone.ConcurrentResolving
import TrafficCone.EntryAttribution
import TrafficCone.PfxTransfers
import TrafficCone.SuccessRecords
import TrafficCone.AuditTrail
import TrafficCone.RecentRecords
import TrafficCone.DaemonStartup
import TrafficCone.StoreReopening
import TrafficCone.RunOrigins
import TrafficCone.SignatureProvenance
import TrafficCone.LibraryConversations
import TrafficCone.ParallelRuns
import TrafficCone.DaemonReplicas
import TrafficCone.StartedReplicas
import TrafficCone.PoisonedStore
import TrafficCone.Deliveries
import TrafficCone.ServedStore
import TrafficCone.AnswerOrder
import TrafficCone.CommandListings
import TrafficCone.DaemonCommands
import TrafficCone.AppRegistrations
import TrafficCone.KeySecrecy
