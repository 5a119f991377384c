import ClassFormat.AccessFlags
import ClassFormat.Batch
import ClassFormat.Bytes
import ClassFormat.ClassFile.Basic
import ClassFormat.ClassFile.Member
import ClassFormat.ClassFile.Resolve
import ClassFormat.ClassFile.Version
import ClassFormat.Constant.Entry
import ClassFormat.Constant.Kind
import ClassFormat.Constant.Pool
import ClassFormat.Decoder
import ClassFormat.Document.Basic
import ClassFormat.Document.Edit
import ClassFormat.Emission
import ClassFormat.Error
import ClassFormat.Event
import ClassFormat.FileSource
import ClassFormat.FileTree
import ClassFormat.Handle
import ClassFormat.Main
import ClassFormat.Misuse
import ClassFormat.Stream
import ClassFormat.Summary
import ClassFormat.Text.Combining
import ClassFormat.Text.Hex
import ClassFormat.Text.Modified
import ClassFormat.Text.Printable
import ClassFormat.Text.Quoted
import ClassFormat.Text.Segment
import ClassFormat.Text.Utf8
import ClassFormat.Workspace.Command
import ClassFormat.Workspace.PoolCommand
import ClassFormat.Workspace.Run
import ClassFormat.Proofs.EntryCodec
import ClassFormat.Proofs.PoolLayout
import ClassFormat.Proofs.PoolIndex
import ClassFormat.Proofs.PoolCodec
import ClassFormat.Proofs.ClassFileCodec
import ClassFormat.Proofs.Resolution
import ClassFormat.Proofs.Alterations
import ClassFormat.Proofs.EditChecks
import ClassFormat.Proofs.EditOutcomes
import ClassFormat.Proofs.EditStep
import ClassFormat.Proofs.Reachable
import ClassFormat.Proofs.Consistency
import ClassFormat.Proofs.Extension
import ClassFormat.Proofs.HandleStability
import ClassFormat.Proofs.Provenance
import ClassFormat.Proofs.EntryGrammar
import ClassFormat.Proofs.SummaryAgreement
import ClassFormat.Proofs.FileSearch
import ClassFormat.Proofs.BatchReport
import ClassFormat.Proofs.Journal
import ClassFormat.Proofs.PoolGrammar
import ClassFormat.Proofs.ModifiedText
import ClassFormat.Proofs.TextFlaws
import ClassFormat.Proofs.PartialWrites
import ClassFormat.Proofs.TextScanning
import ClassFormat.Proofs.LengthOverflow
import ClassFormat.Proofs.PoolEdits
import ClassFormat.Proofs.FindOrAppend
import ClassFormat.Proofs.SharedStrings
import ClassFormat.Proofs.EncodedPlaces
import ClassFormat.Proofs.Commutation
import ClassFormat.Proofs.Completion
import ClassFormat.Proofs.EntryPayload
import ClassFormat.Proofs.FirstMatch
import ClassFormat.Proofs.FlagBits
import ClassFormat.Proofs.StreamDelivery
import ClassFormat.Proofs.ReportedEdits
