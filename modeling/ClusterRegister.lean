import ClusterRegister.Calendar.Date
import ClusterRegister.Calendar.Instant
import ClusterRegister.Calendar.Reading
import ClusterRegister.Console.Execute
import ClusterRegister.Console.Session
import ClusterRegister.Console.Shell
import ClusterRegister.Console.Sink
import ClusterRegister.Console.View
import ClusterRegister.Files.Image
import ClusterRegister.Files.OsError
import ClusterRegister.Files.Path
import ClusterRegister.Files.StoreFile
import ClusterRegister.Files.Tree
import ClusterRegister.Json.Fault
import ClusterRegister.Json.Printer
import ClusterRegister.Json.Scan
import ClusterRegister.Json.Skip
import ClusterRegister.Line.Flags
import ClusterRegister.Line.Parsed
import ClusterRegister.Line.Request
import ClusterRegister.Line.Token
import ClusterRegister.LogFilter
import ClusterRegister.Main
import ClusterRegister.Number.Binary64
import ClusterRegister.Number.Shortest
import ClusterRegister.Pattern.Brackets
import ClusterRegister.Pattern.Expression
import ClusterRegister.Pattern.Primitive
import ClusterRegister.Pattern.Reading
import ClusterRegister.Pattern.Support
import ClusterRegister.Program.Arguments
import ClusterRegister.Program.Run
import ClusterRegister.Record.Codec
import ClusterRegister.Record.Layout
import ClusterRegister.Record.Reading
import ClusterRegister.Register.Error
import ClusterRegister.Register.Operations
import ClusterRegister.Register.Tables
import ClusterRegister.Register.Transaction
import ClusterRegister.Role
import ClusterRegister.Settings
import ClusterRegister.Table
import ClusterRegister.Text.Alphanumeric
import ClusterRegister.Text.Blank
import ClusterRegister.Text.Decimal
import ClusterRegister.Text.Quoted
import ClusterRegister.Text.Utf8
import ClusterRegister.Topology
import ClusterRegister.Proofs.Utf8RoundTrip
import ClusterRegister.Proofs.JsonText
import ClusterRegister.Proofs.TableLaws
import ClusterRegister.Proofs.CivilDates
import ClusterRegister.Proofs.Outcomes
import ClusterRegister.Proofs.Timestamps
import ClusterRegister.Proofs.RecordText
import ClusterRegister.Proofs.ReadRows
import ClusterRegister.Proofs.StoredForms
import ClusterRegister.Proofs.Additions
import ClusterRegister.Proofs.Objections
import ClusterRegister.Proofs.Roster
import ClusterRegister.Proofs.Representation
import ClusterRegister.Proofs.Reopening
import ClusterRegister.Proofs.Refinement
import ClusterRegister.Proofs.Events
import ClusterRegister.Proofs.Replies
import ClusterRegister.Proofs.Requests
import ClusterRegister.Proofs.Histories
import ClusterRegister.Proofs.Runs
import ClusterRegister.Proofs.Consistency
import ClusterRegister.Proofs.Retention
import ClusterRegister.Proofs.Confirmations
import ClusterRegister.Proofs.InputLines
import ClusterRegister.Proofs.Dialogues
import ClusterRegister.Proofs.Interruptions
import ClusterRegister.Proofs.Locality
import ClusterRegister.Proofs.Commutation
import ClusterRegister.Proofs.Isolation
import ClusterRegister.Proofs.Tokens
import ClusterRegister.Proofs.Naming
import ClusterRegister.Proofs.Origins
import ClusterRegister.Proofs.Addressing
import ClusterRegister.Proofs.Cuts
import ClusterRegister.Proofs.FlagValues
import ClusterRegister.Proofs.Grammar
import ClusterRegister.Proofs.FlagChecks
import ClusterRegister.Proofs.JsonGrammar
import ClusterRegister.Proofs.JsonMeaning
import ClusterRegister.Proofs.Utf8Pieces
import ClusterRegister.Proofs.JsonSoundness
import ClusterRegister.Proofs.ReadSoundness
import ClusterRegister.Proofs.RecordSchema
import ClusterRegister.Proofs.RecordTexts
import ClusterRegister.Proofs.EffectiveSettings
import ClusterRegister.Proofs.Admission
import ClusterRegister.Proofs.OutputCuts
import ClusterRegister.Proofs.Prechecks
import ClusterRegister.Proofs.LossyText
import ClusterRegister.Proofs.UnbrokenText
import ClusterRegister.Proofs.Rows
import ClusterRegister.Proofs.Screens
import ClusterRegister.Proofs.ScreenRows
import ClusterRegister.Proofs.Sittings
import ClusterRegister.Proofs.Launches
import ClusterRegister.Proofs.Readings
import ClusterRegister.Proofs.Numbering
import ClusterRegister.Proofs.Regrouping
import ClusterRegister.Proofs.CommandWords
import ClusterRegister.Proofs.MendedInput
import ClusterRegister.Proofs.WrittenRecords
import ClusterRegister.Proofs.CreationTimes
