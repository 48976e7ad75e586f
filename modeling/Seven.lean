import Seven.Backend.BasicBlocks
import Seven.Backend.Handles
import Seven.Backend.RawRegisters
import Seven.Backend.Registers
import Seven.Backend.Resume
import Seven.Backend.SavedState
import Seven.Backend.Start
import Seven.Backend.SyscallHook
import Seven.Cpu.Checked
import Seven.Cpu.Context
import Seven.Cpu.DataWords
import Seven.Cpu.FlagIntegers
import Seven.Cpu.Flags
import Seven.Cpu.Float80
import Seven.Cpu.Float80Value
import Seven.Cpu.Instruction
import Seven.Cpu.Plain
import Seven.Cpu.RegisterCells
import Seven.Cpu.State
import Seven.Cpu.X87
import Seven.Executor.Accounting
import Seven.Executor.Alike
import Seven.Executor.BitList
import Seven.Executor.Confinement
import Seven.Executor.DataHits
import Seven.Executor.DebugNotes
import Seven.Executor.DecodeCache
import Seven.Executor.DemandPaging
import Seven.Executor.Euclid
import Seven.Executor.FarReturn
import Seven.Executor.Fetch
import Seven.Executor.FetchWindow
import Seven.Executor.FlagForm
import Seven.Executor.Frames
import Seven.Executor.Guest
import Seven.Executor.GuestInstructions
import Seven.Executor.HexBytes
import Seven.Executor.HitNotes
import Seven.Executor.HookTables
import Seven.Executor.LongAddition
import Seven.Executor.Observers
import Seven.Executor.Paths
import Seven.Executor.Plain
import Seven.Executor.PushSlot
import Seven.Executor.Recursion
import Seven.Executor.Redirect
import Seven.Executor.Restart
import Seven.Executor.Restartable
import Seven.Executor.Run
import Seven.Executor.Shadow
import Seven.Executor.SingleStep
import Seven.Executor.Step
import Seven.Executor.Suppression
import Seven.Executor.TrapRip
import Seven.Executor.Watch
import Seven.Executor.X87Run
import Seven.Handlers.AccessBounds
import Seven.Handlers.AccessPrograms
import Seven.Handlers.AccessSizes
import Seven.Handlers.Alu
import Seven.Handlers.AluEncodings
import Seven.Handlers.AluRestart
import Seven.Handlers.BcdRoundTrip
import Seven.Handlers.Binary
import Seven.Handlers.BitFields
import Seven.Handlers.BitScan
import Seven.Handlers.BitString
import Seven.Handlers.BlockStrings
import Seven.Handlers.Bmi
import Seven.Handlers.CompareExchange
import Seven.Handlers.Conditions
import Seven.Handlers.CorrectRounding
import Seven.Handlers.Crc32
import Seven.Handlers.DataAccess
import Seven.Handlers.DataMoves
import Seven.Handlers.Decimal
import Seven.Handlers.Division
import Seven.Handlers.DoubleShift
import Seven.Handlers.EffectiveAddress
import Seven.Handlers.EnterLeave
import Seven.Handlers.ExchangeAdd
import Seven.Handlers.FamilyBounds
import Seven.Handlers.Faults
import Seven.Handlers.FlagCodes
import Seven.Handlers.FlagWriters
import Seven.Handlers.FloatLanes
import Seven.Handlers.HalfMoves
import Seven.Handlers.ImplicitAddress
import Seven.Handlers.IntegerToFloat
import Seven.Handlers.InterruptReturn
import Seven.Handlers.MinMax
import Seven.Handlers.MsrLists
import Seven.Handlers.MultiPrecision
import Seven.Handlers.Multiply
import Seven.Handlers.PackedLanes
import Seven.Handlers.RegisterFile
import Seven.Handlers.ShiftBits
import Seven.Handlers.ShiftSteps
import Seven.Handlers.ShufflePrograms
import Seven.Handlers.Shuffles
import Seven.Handlers.SquareRoots
import Seven.Handlers.SsePrecise
import Seven.Handlers.Stack
import Seven.Handlers.StackFrame
import Seven.Handlers.StackRestart
import Seven.Handlers.StateFrame
import Seven.Handlers.StringAccess
import Seven.Handlers.StringCompare
import Seven.Handlers.StringPaging
import Seven.Handlers.StringRepeat
import Seven.Handlers.StringResume
import Seven.Handlers.Strings
import Seven.Handlers.Transpose
import Seven.Handlers.UpperBits
import Seven.Handlers.Vector
import Seven.Handlers.VectorFloat
import Seven.Handlers.VectorInt
import Seven.Handlers.VectorMoves
import Seven.Handlers.VectorPack
import Seven.Handlers.WidePair
import Seven.Handlers.WriteMask
import Seven.Handlers.X87
import Seven.Handlers.X87Codes
import Seven.Handlers.X87Compare
import Seven.Handlers.X87Environment
import Seven.Handlers.X87Faults
import Seven.Handlers.X87Image
import Seven.Handlers.X87IntegerStore
import Seven.Handlers.X87Landing
import Seven.Handlers.X87Lifo
import Seven.Handlers.X87Operands
import Seven.Handlers.X87Spans
import Seven.Handlers.X87Stack
import Seven.Handlers.X87Switch
import Seven.Lib.BitGather
import Seven.Lib.BlockCopy
import Seven.Lib.BoundedRetry
import Seven.Lib.ByteQueue
import Seven.Lib.CarryChain
import Seven.Lib.Commutes
import Seven.Lib.Dispatch
import Seven.Lib.EpochCache
import Seven.Lib.Failure
import Seven.Lib.GuardedRun
import Seven.Lib.HexText
import Seven.Lib.IntegerRounding
import Seven.Lib.Lanes
import Seven.Lib.MapListing
import Seven.Lib.Moves
import Seven.Lib.PackedDecimal
import Seven.Lib.Rearrange
import Seven.Lib.Requests
import Seven.Lib.RingStack
import Seven.Lib.Rounding
import Seven.Lib.Segments
import Seven.Lib.SortedSearch
import Seven.Lib.SpanWalk
import Seven.Lib.Triples
import Seven.Lib.Worklist
import Seven.Lib.WrapInterval
import Seven.Memory.Agreement
import Seven.Memory.Atomic
import Seven.Memory.Basic
import Seven.Memory.ByteStore
import Seven.Memory.Effect
import Seven.Memory.FetchView
import Seven.Memory.HookDispatch
import Seven.Memory.HookMatch
import Seven.Memory.Landing
import Seven.Memory.Mapping
import Seven.Memory.Mmio
import Seven.Memory.Snapshot
import Seven.Memory.Span
import Seven.Memory.Supply
import Seven.Memory.Tlb
import Seven.Memory.TlbInv
