import NativeVariants.Main
import NativeVariants.Proofs.Machine.Idleness
import NativeVariants.Proofs.Build.ProcessPlan
import NativeVariants.Proofs.Build.Preparation
import NativeVariants.Proofs.Build.VariantProcesses
import NativeVariants.Proofs.Build.ProcessTrace
import NativeVariants.Proofs.Metadata.Keys
import NativeVariants.Proofs.Metadata.Publication
import NativeVariants.Proofs.Metadata.ChannelHistory
import NativeVariants.Proofs.Metadata.RecordText
import NativeVariants.Proofs.Registry
import NativeVariants.Proofs.Build.Staging
import NativeVariants.Proofs.Build.Record
import NativeVariants.Proofs.Header.Passes
import NativeVariants.Proofs.Header.LayoutOrder
import NativeVariants.Proofs.Header.RecordNaming
import NativeVariants.Proofs.Header.Identifiers
import NativeVariants.Proofs.Json.TextRoundTrip
import NativeVariants.Proofs.Machine.ReadBack
import NativeVariants.Proofs.Metadata.HandOff
import NativeVariants.Proofs.PackageConfig.Targets
import NativeVariants.Proofs.PackageConfig.Renaming
import NativeVariants.Proofs.Header.Completeness
import NativeVariants.Proofs.Problems
import NativeVariants.Proofs.Build.Problems
import NativeVariants.Proofs.Build.EarlyFailures
import NativeVariants.Proofs.Build.Settling
import NativeVariants.Proofs.Build.Consumers
import NativeVariants.Proofs.Build.BindingsOnly
import NativeVariants.Proofs.Build.ConfigPatching
import NativeVariants.Proofs.Build.RepeatedStaging
import NativeVariants.Proofs.Build.Repetition
import NativeVariants.Proofs.Build.LibraryNames
import NativeVariants.Proofs.Build.Conflicts
import NativeVariants.Proofs.Metadata.KeyWords
import NativeVariants.Proofs.Metadata.KeyForm
import NativeVariants.Proofs.Metadata.Separation
import NativeVariants.Proofs.Build.FailedRuns
import NativeVariants.Proofs.Metadata.PublishingOrder
import NativeVariants.Proofs.BuildConfig.RequestOrder
import NativeVariants.Proofs.Build.Obstacles
import NativeVariants.Proofs.Build.ReportedRuns
import NativeVariants.Proofs.BuildConfig.Switches
import NativeVariants.Proofs.Build.Warnings
import NativeVariants.Proofs.Header.Selection
import NativeVariants.Proofs.Project.Verification
import NativeVariants.Proofs.PackageConfig.Stability
import NativeVariants.Proofs.Text.Runs
import NativeVariants.Proofs.Features.Grouping
import NativeVariants.Proofs.BuildConfig.Inputs
import NativeVariants.Proofs.BuildConfig.Leniency
import NativeVariants.Proofs.BuildConfig.Buildable
import NativeVariants.Proofs.Header.RecordMerging
import NativeVariants.Proofs.Header.IntegerLiterals
import NativeVariants.Proofs.Header.DecimalLiterals
import NativeVariants.Proofs.Header.MacroFaults
import NativeVariants.Proofs.Header.TextLiterals
import NativeVariants.Proofs.Header.TextMacros
import NativeVariants.Proofs.Pattern.Embedding
import NativeVariants.Proofs.Pattern.Nesting
import NativeVariants.Proofs.Pattern.Alternatives
import NativeVariants.Proofs.Header.AllowlistUnion
import NativeVariants.Proofs.Header.TypeAliases
import NativeVariants.Proofs.CommandLine.FlagPartition
import NativeVariants.Proofs.Build.OptionSources
import NativeVariants.Proofs.Build.StagedFiles
