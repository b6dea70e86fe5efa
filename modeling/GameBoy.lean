import GameBoy.Main
import GameBoy.Memory.Flat
import GameBoy.Memory.Traced
import GameBoy.Proofs.Cpu.ByteFile
import GameBoy.Proofs.Memory.Observation
import GameBoy.Proofs.Memory.Watching
import GameBoy.Proofs.Reference.Values
import GameBoy.Proofs.Reference.Fields
import GameBoy.Proofs.Reference.Interpreter
import GameBoy.Proofs.Cpu.Turn
import GameBoy.Proofs.Cpu.StepKinds
import GameBoy.Proofs.Cpu.Trajectory
import GameBoy.Proofs.Cpu.EnableDelay
import GameBoy.Proofs.Cpu.Reports
import GameBoy.Proofs.Cpu.Alike
import GameBoy.Proofs.Bus.Mirror
import GameBoy.Proofs.Bus.Requests
import GameBoy.Proofs.Bus.PlainStorage
import GameBoy.Proofs.Log.Sifting
import GameBoy.Proofs.Log.History
import GameBoy.Proofs.Console.FrameLoop
import GameBoy.Proofs.Console.RunLoop
import GameBoy.Proofs.Console.RunReport
import GameBoy.Proofs.Console.Traps
import GameBoy.Proofs.Console.Lockstep
import GameBoy.Proofs.Console.Operations
import GameBoy.Proofs.Console.Overlay
import GameBoy.Proofs.Console.Logging
import GameBoy.Proofs.Settings.FlagPrecedence
import GameBoy.Proofs.Text.ByteOrder
import GameBoy.Proofs.Settings.AllOrNothing
import GameBoy.Proofs.Console.Alike
import GameBoy.Proofs.Cartridge.Loading
import GameBoy.Proofs.Cartridge.Checksums
import GameBoy.Proofs.Console.Images
import GameBoy.Proofs.Console.Reset
import GameBoy.Proofs.Cpu.Calls
import GameBoy.Proofs.Cpu.FlagNibble
import GameBoy.Proofs.Cpu.Rest
import GameBoy.Proofs.Cpu.ExtendedPage
import GameBoy.Proofs.Arithmetic.Columns
import GameBoy.Proofs.Arithmetic.Binary
import GameBoy.Proofs.Arithmetic.Decimal
import GameBoy.Proofs.Arithmetic.Shifting
import GameBoy.Proofs.Arithmetic.Words
import GameBoy.Proofs.Bus.StackRoom
import GameBoy.Proofs.Bus.Transparency
import GameBoy.Proofs.Cpu.Accounting
import GameBoy.Proofs.Cpu.SeparateBytes
import GameBoy.Proofs.Console.Idling
import GameBoy.Proofs.Text.Trimming
import GameBoy.Proofs.Settings.OverlayLaws
import GameBoy.Proofs.Memory.Placing
import GameBoy.Proofs.Text.AsciiCase
import GameBoy.Proofs.Settings.Names
