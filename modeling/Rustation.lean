import Rustation.Lib.Outcome
import Rustation.Lib.Run
import Rustation.Lib.Word
import Rustation.Lib.Machine
import Rustation.Shared.TimeKeeper
import Rustation.Shared.SharedState
import Rustation.Shared.FracCycles
import Rustation.Memory.Addressable
import Rustation.CdRom.Fifo
import Rustation.Lib.Queue
import Rustation.CdRom.Queue
import Rustation.CdRom.State
import Rustation.CdRom.Commands
import Rustation.CdRom.Controller
import Rustation.CdRom.Handlers
import Rustation.CdRom.Sequencer
import Rustation.CdRom.Moves
import Rustation.CdRom.Delivery
import Rustation.CdRom.WakeUp
import Rustation.Gte.Registers
import Rustation.Gte.Divider
import Rustation.Gte.Commands
import Rustation.Gte.Exact
import Rustation.Gte.Flags
import Rustation.Gte.Refinement
import Rustation.Gte.Projection
import Rustation.Gte.Agreement
import Rustation.Lib.Bytes
import Rustation.Memory.Interconnect
import Rustation.Cpu.Cop0
import Rustation.Cpu.State
import Rustation.Cpu.Instructions
import Rustation.Cpu.LoadDelay
import Rustation.Cpu.Exceptions
import Rustation.Cpu.Interrupt
import Rustation.Cpu.ICache
import Rustation.Gpu.Renderer
import Rustation.Gpu.Display
import Rustation.Gpu.Gp0
import Rustation.Gpu.Beam
import Rustation.Gpu.Frames
import Rustation.Gpu.VBlank
import Rustation.Timers.Ticking
import Rustation.Timers.Target
import Rustation.Gpu.Framing
import Rustation.Gpu.Gpu
import Rustation.Mdec.Mdec
import Rustation.Savestate.Callback
import Rustation.Savestate.Restore
import Rustation.Lib.Chain
import Rustation.Memory.Words
import Rustation.Memory.Dma
import Rustation.Memory.Transfer
import Rustation.Memory.OrderingTable
import Rustation.CdRom.Frame
import Rustation.CdRom.Responses
import Rustation.Lib.Related
import Rustation.CdRom.Granularity
import Rustation.CdRom.Countdowns
import Rustation.CdRom.Cut
import Rustation.Assembler.Syntax
import Rustation.Assembler.Assemble
import Rustation.Assembler.Encoding
import Rustation.Memory.DmaInterrupt
import Rustation.Memory.Mirrors
import Rustation.Memory.Regions
import Rustation.Cpu.Faults
import Rustation.Cpu.Unaligned
import Rustation.Gte.ReadBack
import Rustation.PadMemCard.Controller
import Rustation.PadMemCard.WakeUp
import Rustation.PadMemCard.Transactions
import Rustation.Assembler.Emission
import Rustation.Assembler.Decoding
import Rustation.Assembler.Labels
import Rustation.Assembler.Transfers
import Rustation.Assembler.Programs
import Rustation.Lib.Leads
import Rustation.ParallelIo.ExeLoader
import Rustation.ParallelIo.Execution
import Rustation.ParallelIo.Effects
import Rustation.ParallelIo.Placed
import Rustation.ParallelIo.Copying
import Rustation.ParallelIo.ClearCache
import Rustation.ParallelIo.Loading
import Rustation.Gte.Accuracy
import Rustation.Gte.FlagRegister
import Rustation.Timers.Prediction
import Rustation.Timers.Phase
import Rustation.Gpu.VideoRange
import Rustation.Mdec.Uploads
import Rustation.CdRom.Rx
import Rustation.Memory.SectorDma
import Rustation.CdRom.Iso9660
import Rustation.CdRom.Serial
import Rustation.Cpu.Alignment
import Rustation.ParallelIo.ExeFormat
import Rustation.Gpu.FillRect
import Rustation.Mdec.Status
import Rustation.Memory.LinkedList
import Rustation.Gpu.ImageLoad
import Rustation.Savestate.ImageUpload
import Rustation.Gte.TwoRuns
import Rustation.Gte.Triple
import Rustation.CdRom.Volume
import Rustation.Console.Frame
import Rustation.Console.Interrupts
import Rustation.Console.Schedule
import Rustation.Console.Devices
