import Keyring.CommandLine.Report
import Keyring.Main
import Keyring.Proofs.LittleEndian
import Keyring.Store.Export
import Keyring.Store.Generate
import Keyring.Store.Import
import Keyring.Store.Lookup
import Keyring.Proofs.Op
import Keyring.Proofs.Uint.Reader
import Keyring.Proofs.Uint.Writer
import Keyring.Proofs.Rsa.Blob
import Keyring.Proofs.Container
import Keyring.Proofs.Store.Keys
import Keyring.Proofs.KeyMask
import Keyring.Proofs.Store.Import
import Keyring.Proofs.Rsa.Provider
import Keyring.Proofs.Store.Reachable
import Keyring.Proofs.Store.Export
import Keyring.Proofs.Store.RoundTrip
import Keyring.Proofs.Store.Offence
import Keyring.Proofs.Store.Generate
import Keyring.Proofs.Uint.Trimmed
import Keyring.Proofs.Store.Canonical
import Keyring.Proofs.Files
import Keyring.Proofs.CommandLine.Extract
import Keyring.Proofs.Rsa.Delimited
import Keyring.Proofs.Rsa.RoundTrip
import Keyring.Proofs.Uint.Stream
import Keyring.Proofs.Store.Excerpt
import Keyring.Proofs.CommandLine.Compose
import Keyring.Proofs.Uint.Room
import Keyring.Proofs.TwoPass
import Keyring.Proofs.Length
import Keyring.Proofs.Store.Append
import Keyring.Proofs.Store.Union
import Keyring.Proofs.Alike
import Keyring.Proofs.Store.Alike
import Keyring.Proofs.Store.Independence
import Keyring.Proofs.CommandLine.Independence
import Keyring.Proofs.Sizes
import Keyring.Proofs.Store.Sizes
import Keyring.Proofs.Slots
import Keyring.Proofs.Store.Pairs
import Keyring.Proofs.Rsa.Components
import Keyring.Proofs.Rsa.Decryption
import Keyring.Proofs.Warnings
import Keyring.Proofs.CommandLine.Inspect
import Keyring.Proofs.Uint.Overrun
import Keyring.Proofs.Uint.Fields
import Keyring.Proofs.Rsa.Size
import Keyring.Proofs.CommandLine.Listing
import Keyring.Proofs.Uint.Normalized
import Keyring.Proofs.Store.Auth
import Keyring.Proofs.Faultless
