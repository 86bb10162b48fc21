import CameraConsole.Main
import CameraConsole.Session.Basic
import CameraConsole.Proofs.Journal
import CameraConsole.Proofs.Course
import CameraConsole.Proofs.Call
import CameraConsole.Proofs.Attempts
import CameraConsole.Proofs.Exchange
import CameraConsole.Proofs.Encodings
import CameraConsole.Proofs.Actions
import CameraConsole.Proofs.Endings
import CameraConsole.Proofs.AuthEvents
import CameraConsole.Proofs.ForbiddenCall
import CameraConsole.Proofs.TokenHistory
import CameraConsole.Proofs.TokenSlot
import CameraConsole.Proofs.Resolution
import CameraConsole.Proofs.Results
import CameraConsole.Proofs.RetryLimit
import CameraConsole.Proofs.Disclosure
import CameraConsole.Proofs.Masked
import CameraConsole.Proofs.Passwords
import CameraConsole.Proofs.Opening
import CameraConsole.Proofs.Members
import CameraConsole.Proofs.UnsendableToken
import CameraConsole.Proofs.ConfigReaders
import CameraConsole.Proofs.Timing
import CameraConsole.Proofs.Delivery
import CameraConsole.Proofs.ReportedErrors
import CameraConsole.Proofs.AuditLog
import CameraConsole.Proofs.FormEncoding
import CameraConsole.Proofs.ResourceUrls
import CameraConsole.Proofs.Login
import CameraConsole.Proofs.CommandLine
import CameraConsole.Proofs.ConsoleRuns
import CameraConsole.Proofs.Priming
import CameraConsole.Proofs.LogFilter
import CameraConsole.Proofs.AuthWarnings
import CameraConsole.Proofs.KeyOrder
import CameraConsole.Proofs.Recoding
import CameraConsole.Proofs.HostNames
import CameraConsole.Proofs.PathPrefix
import CameraConsole.Proofs.ReadBack
import CameraConsole.Proofs.Changes
import CameraConsole.Proofs.BuildSteps
