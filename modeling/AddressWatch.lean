import AddressWatch.Main
import AddressWatch.Watcher.Session
import AddressWatch.Proofs.Watcher.Poll
import AddressWatch.Watcher.Schedule
import AddressWatch.Proofs.Watcher.Polls
import AddressWatch.Proofs.Watcher.ChangeDetection
import AddressWatch.Watcher.Course
import AddressWatch.Proofs.Watcher.Course
import AddressWatch.Proofs.Watcher.Schedule
import AddressWatch.Proofs.Watcher.Listener
import AddressWatch.Proofs.Watcher.Cancellation
import AddressWatch.Proofs.Watcher.Publishing
import AddressWatch.Proofs.Text.Pieces
import AddressWatch.Proofs.Text.Trim
import AddressWatch.Proofs.Watcher.Delivery
import AddressWatch.Proofs.Resolver.Agreement
import AddressWatch.Proofs.Resolver.Query
import AddressWatch.Proofs.Watcher.Counting
import AddressWatch.Proofs.Address.Opening
import AddressWatch.Proofs.Watcher.LinkLocal
import AddressWatch.Watcher.Conduct
import AddressWatch.Watcher.Correspondence
import AddressWatch.RecordClient.Destination
import AddressWatch.Proofs.Watcher.Autonomy
import AddressWatch.Proofs.Watcher.Likeness
import AddressWatch.Proofs.Watcher.Secrecy
import AddressWatch.Proofs.Text.Digits
import AddressWatch.Proofs.Text.Graphic
import AddressWatch.Proofs.Text.Utf8
import AddressWatch.Proofs.Http.Request
import AddressWatch.Proofs.Url.Reader
import AddressWatch.Proofs.Url.Authority
import AddressWatch.Proofs.Url.Directory
import AddressWatch.Proofs.Url.Extension
import AddressWatch.Proofs.RecordClient.Framing
import AddressWatch.Proofs.RecordClient.Endpoint
import AddressWatch.Address.Grammar
import AddressWatch.Proofs.Address.Grammar
import AddressWatch.Proofs.Resolver.Truncation
import AddressWatch.Proofs.CommandLine.Settings
import AddressWatch.Proofs.Launch
import AddressWatch.CommandLine.Spelling
import AddressWatch.Proofs.CommandLine.Number
import AddressWatch.Proofs.CommandLine.Spelling
import AddressWatch.Proofs.CommandLine.RoundTrip
import AddressWatch.Proofs.Resolver.Occurrence
import AddressWatch.Proofs.Resolver.Usable
import AddressWatch.Proofs.Resolver.Trimming
import AddressWatch.Proofs.Machine.FileSystem
import AddressWatch.Proofs.Resolver.Probe
import AddressWatch.Proofs.Resolver.Failure
import AddressWatch.Proofs.Resolver.Start
import AddressWatch.Proofs.Json.RoundTrip
import AddressWatch.Proofs.RecordClient.Body
import AddressWatch.Http.Grammar
import AddressWatch.Proofs.Http.Head
import AddressWatch.Proofs.Http.Chunks
import AddressWatch.Proofs.Watcher.Confirmation
import AddressWatch.Proofs.RecordClient.Outcome
import AddressWatch.Proofs.RecordClient.Authorization
import AddressWatch.CommandLine.Quantity
import AddressWatch.Proofs.CommandLine.Insertion
import AddressWatch.Proofs.CommandLine.Quantity
