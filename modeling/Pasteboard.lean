import Pasteboard.Application
import Pasteboard.Board
import Pasteboard.Scripted
import Pasteboard.Shell.Launch
import Pasteboard.Proofs.Course
import Pasteboard.Proofs.Boundary
import Pasteboard.Proofs.Lifecycle
import Pasteboard.Proofs.DiskLaws
import Pasteboard.Proofs.Saving
import Pasteboard.Proofs.Numerals
import Pasteboard.Proofs.Utf8
import Pasteboard.Proofs.Codecs
import Pasteboard.Proofs.Document
import Pasteboard.Proofs.Session
import Pasteboard.Proofs.Runs
import Pasteboard.Proofs.HostClipboard
import Pasteboard.Proofs.ByteCell
import Pasteboard.Proofs.InForce
import Pasteboard.Proofs.Visits
import Pasteboard.Proofs.Register
import Pasteboard.Proofs.Turns
import Pasteboard.Proofs.WholeDocuments
import Pasteboard.Proofs.CommandTurns
import Pasteboard.Proofs.SharedBoard
import Pasteboard.Proofs.SharedContainer
import Pasteboard.Proofs.Grammar
import Pasteboard.Proofs.Scalars
import Pasteboard.Proofs.Reading
import Pasteboard.Proofs.FileAndMapping
import Pasteboard.Proofs.Lossless
import Pasteboard.Proofs.FieldByField
import Pasteboard.Proofs.UsableSettings
import Pasteboard.Proofs.FirstUsable
import Pasteboard.Proofs.StableChoice
import Pasteboard.Proofs.HandleRuns
import Pasteboard.Proofs.Mending
import Pasteboard.Proofs.FailedRuns
import Pasteboard.Proofs.ReplyDocument
import Pasteboard.Proofs.SavedRecords
import Pasteboard.Proofs.ValueOrError
import Pasteboard.Proofs.Notices
import Pasteboard.Proofs.TruthfulLog
