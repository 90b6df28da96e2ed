import ShemaPlatform.OwnerIsolation
import ShemaPlatform.RepeatOccurrences
import ShemaPlatform.RequestBinding
import ShemaPlatform.StaleDraft
import ShemaPlatform.Lease
import ShemaPlatform.WorkTables
import ShemaPlatform.JobRunner
import ShemaPlatform.JobRules
import ShemaPlatform.JobLeases
import ShemaPlatform.JobRuns
import ShemaPlatform.BoundedAttempts
import ShemaPlatform.StaleRuns
import ShemaPlatform.OutboxRules
import ShemaPlatform.OutboxDispatch
import ShemaPlatform.OutboxStore
import ShemaPlatform.ChangeLog
import ShemaPlatform.ObservationReplay
import ShemaPlatform.ItemAgreement
import ShemaPlatform.AIExecutionOnce
import ShemaPlatform.AIRunReaders
import ShemaPlatform.CounterpartyConflicts
import ShemaPlatform.MigrationHistory
import ShemaPlatform.OrderLifecycle
import ShemaPlatform.OrderRoundTrip
import ShemaPlatform.CadenceDrift
import ShemaPlatform.SentFinality
import ShemaPlatform.EventStarvation
import ShemaPlatform.SearchAccounting
import ShemaPlatform.WriteOnce
import ShemaPlatform.AdmissionLimits
import ShemaPlatform.IntakeBacklog
import ShemaPlatform.IdentifierAgreement
import ShemaPlatform.OutcomesRecorded
import ShemaPlatform.BoundedObservations
import ShemaPlatform.Materialization
import ShemaPlatform.SearchAgain
import ShemaPlatform.ResearchSpending
import ShemaPlatform.CloudRecovery
import ShemaPlatform.ActivatedConfigurations
import ShemaPlatform.PreflightOutages
import ShemaPlatform.ProviderEvidence
import ShemaPlatform.RowChanges
import ShemaPlatform.RequestProjection
import ShemaPlatform.IntakeChanges
import ShemaPlatform.IntakeProvenance
import ShemaPlatform.ProjectionAgreement
import ShemaPlatform.SavedItemActors
import ShemaPlatform.IntelligenceProvenance
import ShemaPlatform.CadenceProgress
import ShemaPlatform.IdentityDirectory
import ShemaPlatform.TaxIdRuns
import ShemaPlatform.RequestBodyLimit
import ShemaPlatform.BodyLimitRuns
import ShemaPlatform.FailureTexts
import ShemaPlatform.SigningKeys
import ShemaPlatform.KeyRotation
import ShemaPlatform.DaDataLookup
import ShemaPlatform.DaDataFailures
import ShemaPlatform.UrlText
import ShemaPlatform.OpenCorporates
import ShemaPlatform.RegistryPages
import ShemaPlatform.RegistryClaims
import ShemaPlatform.PatternMarks
import ShemaPlatform.SchemeRedaction
import ShemaPlatform.CredentialRedaction
import ShemaPlatform.SchemeLeaks
import ShemaPlatform.PreflightCache
import ShemaPlatform.AcceptedOnce
import ShemaPlatform.IntakeRetries
import ShemaPlatform.IntakeRuntime
import ShemaPlatform.CommercialSendWorkflow
import ShemaPlatform.CommercialSendEffects
import ShemaPlatform.Histories
import ShemaPlatform.SendLeases
import ShemaPlatform.SendOutcomes
import ShemaPlatform.JsonUnicode
import ShemaPlatform.MaxAdapter
import ShemaPlatform.SendDelivery
import ShemaPlatform.KillSwitch
import ShemaPlatform.EarlyReads
import ShemaPlatform.CheckRuns
import ShemaPlatform.SearchPlanning
import ShemaPlatform.OperatorSearch
import ShemaPlatform.SearchAnswers
import ShemaPlatform.PromptSecurity
import ShemaPlatform.RecentlyUsed
import ShemaPlatform.WithdrawnKeys
import ShemaPlatform.SpacedWords
import ShemaPlatform.Fallible
import ShemaPlatform.OIDCAuthentication
import ShemaPlatform.AdmittedRequests
import ShemaPlatform.FirstReads
import ShemaPlatform.BatchRuns
import ShemaPlatform.BatchCompletion
import ShemaPlatform.SerialRuns
import ShemaPlatform.SnapshotReferences
