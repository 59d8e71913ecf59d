import PropertySettings.Main
import PropertySettings.Proofs.Completeness
import PropertySettings.Proofs.PathText
import PropertySettings.Settings.Session
import PropertySettings.Proofs.Rebuilding
import PropertySettings.Proofs.ConsoleJournal
import PropertySettings.Proofs.Course
import PropertySettings.Proofs.Failures
import PropertySettings.Proofs.PropertyFiles
import PropertySettings.Proofs.Collecting
import PropertySettings.Proofs.PathLists
import PropertySettings.Proofs.Document
import PropertySettings.Proofs.Complaints
import PropertySettings.Proofs.Sources
import PropertySettings.Proofs.Handlers
import PropertySettings.Proofs.LogFiles
import PropertySettings.Proofs.Forgetting
import PropertySettings.Proofs.Resets
import PropertySettings.Proofs.Sessions
import PropertySettings.Proofs.PlainDefinitions
import PropertySettings.Proofs.Missing
import PropertySettings.Proofs.UsageLines
import PropertySettings.Proofs.DefinitionOrder
import PropertySettings.Proofs.IncludedFiles
import PropertySettings.Proofs.Alternatives
import PropertySettings.Proofs.Decoding
import PropertySettings.Proofs.ListFiles
import PropertySettings.Proofs.Cuts
import PropertySettings.Proofs.UsageTexts
import PropertySettings.Proofs.Flags
import PropertySettings.Proofs.MalformedValues
import PropertySettings.Proofs.LabelledValues
