import DawnServer.Main
import DawnServer.Proofs.Document.EditorBuffer
import DawnServer.Proofs.Script.Addresses
import DawnServer.Proofs.Session.FillOnce
import DawnServer.Proofs.Session.OpenDocuments
import DawnServer.Proofs.Script.Order
import DawnServer.Proofs.Script.Coverage
import DawnServer.Proofs.Script.Deltas
import DawnServer.Proofs.Session.TokenAnswers
import DawnServer.Proofs.Script.Bindings
import DawnServer.Proofs.Script.LineEndings
import DawnServer.Proofs.Session.Publications
import DawnServer.Proofs.Session.Interference
import DawnServer.Proofs.Json.Layout
import DawnServer.Proofs.Framework.Tables
import DawnServer.Proofs.Session.Payload
import DawnServer.Proofs.Text.Trimming
import DawnServer.Proofs.Framework.Canonical
import DawnServer.Proofs.Session.HandlersAlone
import DawnServer.Proofs.Session.Interleaving
import DawnServer.Proofs.Script.OfferedNames
import DawnServer.Proofs.Script.Occurrences
import DawnServer.Proofs.Framework.Composition
import DawnServer.Proofs.Document.Places
import DawnServer.Proofs.Script.Parting
import DawnServer.Proofs.Script.Nameless
import DawnServer.Proofs.Script.SpanLengths
import DawnServer.Proofs.Framework.FinalFeed
import DawnServer.Proofs.Session.OpenedFiles
import DawnServer.Proofs.Framework.LineEnds
import DawnServer.Proofs.SessionLog
import DawnServer.Proofs.Diagnostics
import DawnServer.Proofs.CommandLine.Accepted
