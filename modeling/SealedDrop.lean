import SealedDrop.Interchange
import SealedDrop.Main
import SealedDrop.Remote.Memory
import SealedDrop.Session.Machine
import SealedDrop.Proofs.Credentials
import SealedDrop.Proofs.Envelope
import SealedDrop.Proofs.FileTree
import SealedDrop.Proofs.FileWriter
import SealedDrop.Proofs.Reading
import SealedDrop.Proofs.Base64
import SealedDrop.Proofs.Pull
import SealedDrop.Proofs.Oaep
import SealedDrop.Proofs.Text
import SealedDrop.Proofs.Json
import SealedDrop.Proofs.Reference
import SealedDrop.Proofs.Path
import SealedDrop.Proofs.Remote
import SealedDrop.Proofs.Delivery
import SealedDrop.Proofs.RoundTrip
import SealedDrop.Proofs.Der
import SealedDrop.Proofs.KeyFile
import SealedDrop.Proofs.Authorization
import SealedDrop.Proofs.JsonString
import SealedDrop.Proofs.Drop
import SealedDrop.Proofs.Concurrency.World
import SealedDrop.Proofs.Visits
import SealedDrop.Proofs.Concurrency.Confinement
import SealedDrop.Proofs.Concurrency.Assurance
import SealedDrop.Proofs.Concurrency.Operations
import SealedDrop.Proofs.Concurrency.Harmony
import SealedDrop.Proofs.Concurrency.Undisturbed
import SealedDrop.Proofs.BearerToken
import SealedDrop.Proofs.Serving
import SealedDrop.Proofs.Rotation
import SealedDrop.Proofs.Upload
import SealedDrop.Proofs.Registration
import SealedDrop.Proofs.Download
import SealedDrop.Proofs.Storage
import SealedDrop.Proofs.Identifier
import SealedDrop.Proofs.Readiness
import SealedDrop.Proofs.Replacement
import SealedDrop.Proofs.DotSegment
import SealedDrop.Proofs.PrivateFile
import SealedDrop.Proofs.KeyGeneration
import SealedDrop.Proofs.PublicFile
import SealedDrop.Proofs.Tampering
import SealedDrop.Proofs.Home
import SealedDrop.Proofs.Checksum
import SealedDrop.Proofs.Rollback
import SealedDrop.Proofs.Loading
import SealedDrop.Proofs.Concealment
import SealedDrop.Proofs.Destination
import SealedDrop.Proofs.Creation
import SealedDrop.Proofs.Refusal
import SealedDrop.Proofs.Draining
import SealedDrop.Proofs.Blindness
import SealedDrop.Proofs.SettingsFile
import SealedDrop.Proofs.Layering
import SealedDrop.Proofs.Interruption
