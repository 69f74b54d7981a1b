import RemoteFiles.Main
import RemoteFiles.Disk.Tree
import RemoteFiles.Service.Memory
import RemoteFiles.Proofs.Client.Course
import RemoteFiles.Proofs.Client.Run
import RemoteFiles.Proofs.Client.Provenance
import RemoteFiles.Proofs.Client.Schedule
import RemoteFiles.Proofs.Client.Tokens
import RemoteFiles.Proofs.Service.Files
import RemoteFiles.Proofs.Client.Move
import RemoteFiles.Proofs.Client.Conservation
import RemoteFiles.Proofs.Service.History
import RemoteFiles.Proofs.Client.CutPaste
import RemoteFiles.Proofs.Auth.Digest
import RemoteFiles.Proofs.Auth.Echo
import RemoteFiles.Proofs.Auth.Counts
import RemoteFiles.Proofs.Auth.Reuse
import RemoteFiles.Proofs.Path.Targets
import RemoteFiles.Proofs.Url.Percent
import RemoteFiles.Proofs.Url.Settled
import RemoteFiles.Proofs.Url.Descent
import RemoteFiles.Proofs.Http.Endpoint
import RemoteFiles.Proofs.Path.Joins
import RemoteFiles.Proofs.Client.Places
import RemoteFiles.Proofs.Client.PasteName
import RemoteFiles.Proofs.Client.SameEntry
import RemoteFiles.Proofs.Http.RequestTarget
import RemoteFiles.Proofs.Listing.Encoding
import RemoteFiles.Proofs.Config.Saved
import RemoteFiles.Proofs.Client.Announcements
import RemoteFiles.Proofs.Client.Failures
import RemoteFiles.Proofs.Auth.Items
import RemoteFiles.Proofs.Client.Confirmation
import RemoteFiles.Proofs.Client.Secrecy
import RemoteFiles.Proofs.Client.Relocation
import RemoteFiles.Proofs.Path.Steps
import RemoteFiles.Proofs.Service.Removal
import RemoteFiles.Proofs.Service.Rooted
import RemoteFiles.Proofs.Client.Readback
import RemoteFiles.Proofs.Path.Agreement
import RemoteFiles.Proofs.Shell.Comments
import RemoteFiles.Proofs.Auth.Sendable
import RemoteFiles.Proofs.Auth.Spellings
import RemoteFiles.Proofs.Disk.Names
import RemoteFiles.Proofs.Client.Uploads
import RemoteFiles.Proofs.Client.Parallel
import RemoteFiles.Proofs.Shell.Parallel
import RemoteFiles.Proofs.Shell.Lines
import RemoteFiles.Proofs.Shell.Deeds
import RemoteFiles.Proofs.Listing.Codec
import RemoteFiles.Proofs.Disk.Changes
import RemoteFiles.Proofs.Program.World
import RemoteFiles.Proofs.Program.Init
import RemoteFiles.Proofs.Program.Accepted
import RemoteFiles.Proofs.Program.Effective
import RemoteFiles.Proofs.Program.CommandLine
import RemoteFiles.Proofs.Program.Once
import RemoteFiles.Proofs.Config.Chosen
