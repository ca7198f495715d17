import Trainer6800.Word
import Trainer6800.Text.Hex
import Trainer6800.Log.Record
import Trainer6800.Memory.Flat
import Trainer6800.Instruction.Mnemonic
import Trainer6800.Instruction.OpcodeMap
import Trainer6800.Instruction.Listing
import Trainer6800.Cpu.Step
import Trainer6800.Text.Blank
import Trainer6800.Text.Quoted
import Trainer6800.Json.Error
import Trainer6800.Json.Lexeme
import Trainer6800.Json.Parser
import Trainer6800.Json.Printer
import Trainer6800.Json.Codec.Choice
import Trainer6800.Keypad.Encoding
import Trainer6800.Machine.Bus
import Trainer6800.Log.Names
import Trainer6800.Log.Limiter
import Trainer6800.Machine.Config
import Trainer6800.Machine.Image
import Trainer6800.Cpu.Encoding
import Trainer6800.Machine.Run
import Trainer6800.Machine.SaveState
import Trainer6800.Machine.Mounts
import Trainer6800.InPlace.Machine
import Trainer6800.CommandLine.Address
import Trainer6800.CommandLine.Directory
import Trainer6800.Main
import Trainer6800.Proofs.Cpu.Correspondence
import Trainer6800.Proofs.Cpu.FixedBits
import Trainer6800.Proofs.Cpu.Footprint
import Trainer6800.Proofs.Cpu.Interruption
import Trainer6800.Proofs.Display.Mirror
import Trainer6800.Proofs.Machine.Sound
import Trainer6800.Proofs.Machine.Follow
import Trainer6800.Proofs.Machine.Calls
import Trainer6800.Proofs.Machine.Alike
import Trainer6800.Proofs.Machine.Restore
import Trainer6800.Proofs.Machine.Account
import Trainer6800.Proofs.Machine.Stepping
import Trainer6800.Proofs.Machine.Off
import Trainer6800.Proofs.Machine.Loading
import Trainer6800.Proofs.Json.RoundTrip
import Trainer6800.Proofs.Machine.HeldKeys
import Trainer6800.Proofs.Cpu.Writes
import Trainer6800.Proofs.Machine.Written
import Trainer6800.Proofs.Machine.Monitor
import Trainer6800.Proofs.Machine.Cuts
import Trainer6800.Proofs.Machine.TurnedOn
import Trainer6800.Proofs.Machine.Flat
import Trainer6800.Proofs.Cpu.Listed
import Trainer6800.Proofs.Instruction.Lossless
import Trainer6800.Proofs.Cpu.MultiByte
import Trainer6800.Proofs.Cpu.DecimalAddition
import Trainer6800.Proofs.Cpu.CompareBranch
import Trainer6800.Proofs.Machine.PublicForms
import Trainer6800.Proofs.Log.Unhindered
import Trainer6800.Proofs.InPlace.Machine
import Trainer6800.Proofs.Machine.Logged
import Trainer6800.Proofs.Cpu.MultiByteShift
import Trainer6800.Proofs.Cpu.Forms
import Trainer6800.Proofs.Machine.AddressMap
import Trainer6800.Proofs.Cpu.Subroutine
import Trainer6800.Proofs.Cpu.Masking
import Trainer6800.Proofs.Machine.Halted
import Trainer6800.Proofs.Keypad.Holds
import Trainer6800.Proofs.Keypad.Scan
import Trainer6800.Proofs.Machine.Unmapped
import Trainer6800.Proofs.Machine.Program
import Trainer6800.Proofs.Display.Segments
import Trainer6800.Proofs.Memory.BulkLoad
import Trainer6800.Proofs.Log.Tally
import Trainer6800.Proofs.Machine.QueuedKeys
import Trainer6800.Proofs.CommandLine.Playing
import Trainer6800.Proofs.Json.Given
import Trainer6800.Proofs.CommandLine.Keeping
import Trainer6800.Proofs.CommandLine.ConfigFile
import Trainer6800.Proofs.CommandLine.Address
import Trainer6800.Proofs.Keypad.Spelling
import Trainer6800.Proofs.Cpu.PushPull
import Trainer6800.Proofs.Display.Rendering
