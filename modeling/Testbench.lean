import Testbench.Address.Base58
import Testbench.Address.Basic
import Testbench.Address.Named
import Testbench.Bytes.Hex
import Testbench.Bytes.Name
import Testbench.Bytes.Utf8
import Testbench.Bytes.Word
import Testbench.Code.Assembler
import Testbench.Code.Instruction
import Testbench.Code.Opcode
import Testbench.Codec.Canonical
import Testbench.Codec.Decoder
import Testbench.Codec.Encoder
import Testbench.Codec.Error
import Testbench.Codec.Reader
import Testbench.Codec.VarUint
import Testbench.Command.Actions
import Testbench.Command.Console
import Testbench.Command.Flags
import Testbench.Command.Help
import Testbench.Command.Program
import Testbench.Command.Render
import Testbench.Compression.Xxhash
import Testbench.Compression.Zstd.Basic
import Testbench.Compression.Zstd.Frame
import Testbench.Compression.Zstd.Fse
import Testbench.Compression.Zstd.Huffman
import Testbench.Compression.Zstd.Sequences
import Testbench.Coverage.BitField
import Testbench.Coverage.File
import Testbench.Coverage.Map
import Testbench.Coverage.Storage
import Testbench.Coverage.Summary
import Testbench.Decimal.Binary
import Testbench.Decimal.Fixed
import Testbench.Decimal.Shortest
import Testbench.ErrorKind
import Testbench.Files.Basic
import Testbench.Files.Operations
import Testbench.Files.Path
import Testbench.Files.Tree
import Testbench.Hash.Ripemd160
import Testbench.Hash.Sha256
import Testbench.Machine.Basic
import Testbench.Machine.Fault
import Testbench.Machine.Interop
import Testbench.Machine.Item
import Testbench.Machine.Run
import Testbench.Machine.Stack
import Testbench.Machine.Status
import Testbench.Machine.Step
import Testbench.Main
import Testbench.Module.Basic
import Testbench.Module.Binary
import Testbench.Module.Link
import Testbench.Module.Package
import Testbench.Package.Loader
import Testbench.Package.Manifest
import Testbench.Proofs.Address.Resolve
import Testbench.Proofs.Bytes.Utf8
import Testbench.Proofs.Code.Literals
import Testbench.Proofs.Code.Offsets
import Testbench.Proofs.Command.Merge
import Testbench.Proofs.Codec.Reads
import Testbench.Proofs.Coverage.BitField
import Testbench.Proofs.Coverage.BitSet
import Testbench.Proofs.Coverage.Exact
import Testbench.Proofs.Coverage.Failures
import Testbench.Proofs.Coverage.File
import Testbench.Proofs.Coverage.Lookup
import Testbench.Proofs.Coverage.Join
import Testbench.Proofs.Coverage.Map
import Testbench.Proofs.Coverage.Merge
import Testbench.Proofs.Coverage.Refresh
import Testbench.Proofs.Coverage.RoundTrip
import Testbench.Proofs.Compression.Raw
import Testbench.Proofs.Coverage.Table
import Testbench.Proofs.Files.Save
import Testbench.Proofs.Machine.Arithmetic
import Testbench.Proofs.Machine.Budget
import Testbench.Proofs.Machine.Calls
import Testbench.Proofs.Machine.Gas
import Testbench.Proofs.Machine.Linked
import Testbench.Proofs.Machine.Recorded
import Testbench.Proofs.Machine.Triple
import Testbench.Proofs.Module.Binary
import Testbench.Proofs.Module.Linkable
import Testbench.Proofs.Module.Verified
import Testbench.Proofs.Testing.Outcome
import Testbench.Proofs.Testing.Discovery
import Testbench.Proofs.Testing.Parallel
import Testbench.Settings
import Testbench.Testing.Case
import Testbench.Testing.Outcome
import Testbench.Testing.Runner
import Testbench.Text.Diff
import Testbench.Text.Numeral
import Testbench.Text.Quoted
import Testbench.Text.Space
import Testbench.Yaml.Compose
import Testbench.Yaml.Decode
import Testbench.Yaml.Emit
import Testbench.Yaml.Events
import Testbench.Yaml.Input
import Testbench.Yaml.Node
import Testbench.Yaml.Resolve
import Testbench.Yaml.Scanner.Basic
import Testbench.Yaml.Scanner.Fetch
import Testbench.Yaml.Scanner.Property
import Testbench.Yaml.Scanner.Scalar
import Testbench.Yaml.Timestamp
import Testbench.Yaml.Token
import Testbench.Proofs.Testing.SavedCoverage
import Testbench.Proofs.Address.Hex
import Testbench.Proofs.Address.Base58
import Testbench.Proofs.Address.Named
import Testbench.Proofs.Command.Bindings
