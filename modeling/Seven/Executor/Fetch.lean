import Seven.Handlers.Stack
import Seven.Handlers.Alu
import Seven.Handlers.Strings

/-!
# Fetch and decode

An attempt of a step begins by finding the decoded instruction at `RIP`.
There are two caches on the way. The decode cache holds decoded
instructions, direct-mapped by address and valid for one code epoch and one
mode; the code-page cache holds whole pages of bytes, valid for one code
epoch, and serves every window that lies in one page. Only when neither
applies is the fifteen-byte window read from memory. Installed fetch hooks
switch both caches off, so that the hooks see every fetch.

The decoder is third-party, a parameter of `Env`.
-/

namespace Seven

/-! ## Traps and the decoder's view -/

/-- `TrapKind`. -/
inductive TrapKind where
  | syscall
  | cpuid
  | rdtsc
  | rdtscp
  | invalidOpcode
  | interrupt
deriving DecidableEq, Repr

/-- In 64-bit mode a pushed immediate takes a 64-bit slot. -/
def normalizeReportedCode : Code → Code
  | .stack .pushdImm8 => .stack .pushqImm8
  | .stack .pushdImm32 => .stack .pushqImm32
  | code => code

/-- `trap_kind_for_code`. -/
def trapKindForCode : Code → Option TrapKind
  | .syscall => some .syscall
  | .cpuid => some .cpuid
  | .rdtsc => some .rdtsc
  | .rdtscp => some .rdtscp
  | .stack .int1 | .stack .int3 | .stack .intImm8 | .stack .into => some .interrupt
  | _ => none

/-- `_MAX_INSTRUCTION_LENGTH`. -/
def maxInstructionLength : Nat := 15

/-- Third-party decoding: bitness, bytes and address to an instruction. -/
abbrev Decode := Nat → List Byte → U64 → Option Instruction

/-! ## The caches -/

/-- `kDecodeCacheSize`. -/
def kDecodeCacheSize : Nat := 8192

/-- `kCodePageCacheSize`. -/
def kCodePageCacheSize : Nat := 64

instance : NeZero kDecodeCacheSize := ⟨by decide⟩

instance : NeZero kCodePageCacheSize := ⟨by decide⟩

/-- `CachedCodePageEntry`. -/
structure CachedCodePageEntry where
  pageBase : U64 := 0#64
  codeEpoch : U64 := 0#64
  valid : Bool := false
  bytes : List Byte := []

/-- The part of a decode-cache entry the step executes from. -/
structure DecodedInstruction where
  simdAllowed : Bool := true
  trapKind : Option TrapKind := none
  instructionLength : Nat := 0
  reportedCode : Code := .invalid
  instr : Instruction := { code := .invalid, length := 0 }

/-- `DecodedInstructionCacheEntry`. -/
structure DecodedInstructionCacheEntry extends DecodedInstruction where
  rip : U64 := 0#64
  codeEpoch : U64 := 0#64
  mode : ExecutionMode := .long64
  valid : Bool := false

/-- The two caches. -/
structure Caches where
  decodeCache : Fin kDecodeCacheSize → DecodedInstructionCacheEntry := fun _ => {}
  codePageCache : Fin kCodePageCacheSize → CachedCodePageEntry := fun _ => {}

/-- `decode_cache_index`. -/
def decodeCacheIndex (rip : U64) : Fin kDecodeCacheSize := Fin.ofNat kDecodeCacheSize (rip >>> 1).toNat

/-- `code_page_cache_index`. -/
def codePageCacheIndex (pageBase : U64) : Fin kCodePageCacheSize :=
  Fin.ofNat kCodePageCacheSize (pageBase >>> 12).toNat

/-- An entry replaced. -/
def Caches.setDecoded (c : Caches) (i : Fin kDecodeCacheSize)
    (entry : DecodedInstructionCacheEntry) : Caches :=
  { c with decodeCache := fun j => if j = i then entry else c.decodeCache j }

/-- A page replaced. -/
def Caches.setCodePage (c : Caches) (i : Fin kCodePageCacheSize) (entry : CachedCodePageEntry) :
    Caches :=
  { c with codePageCache := fun j => if j = i then entry else c.codePageCache j }

/-! ## The lookup -/

/-- The page of an address. -/
def pageBaseOf (rip : U64) : U64 := rip &&& ~~~BitVec.ofNat 64 (kPageSize - 1)

/-- The offset in it. -/
def pageOffsetOf (rip : U64) : Nat := (rip - pageBaseOf rip).toNat

/-- Does the entry serve this page at this epoch? -/
def CachedCodePageEntry.serves (e : CachedCodePageEntry) (pageBase codeEpoch : U64) : Bool :=
  e.valid && e.pageBase == pageBase && e.codeEpoch == codeEpoch

/-- The code page an entry is refilled with; a page that cannot be read
leaves the entry invalid. -/
def CachedCodePageEntry.refill (e : CachedCodePageEntry) (memory : Memory) (pageBase : U64) :
    CachedCodePageEntry :=
  match memory.readCodePage pageBase with
  | some bytes => { pageBase := pageBase, codeEpoch := memory.codeEpoch, valid := true, bytes := bytes }
  | none => { e with valid := false }

/-- The tail of the code page from `rip`, when the window lies in the page
and the page is executable. -/
def fetchFromCodePage (caches : Caches) (memory : Memory) (rip : U64) : Caches × Option (List Byte) :=
  let pageBase := pageBaseOf rip
  let pageOffset := pageOffsetOf rip
  if pageOffset + maxInstructionLength ≤ kPageSize then
    let i := codePageCacheIndex pageBase
    let cached := caches.codePageCache i
    let entry :=
      if cached.serves pageBase memory.codeEpoch then cached else cached.refill memory pageBase
    (caches.setCodePage i entry,
      if entry.serves pageBase memory.codeEpoch then some (entry.bytes.drop pageOffset) else none)
  else (caches, none)

/-- The bytes handed to the decoder. -/
def fetchBytes (canUseDecodeCache : Bool) (caches : Caches) (memory : Memory) (rip : U64) :
    Caches × Option (List Byte) :=
  let (caches, page) :=
    if canUseDecodeCache then fetchFromCodePage caches memory rip else (caches, none)
  match page with
  | some bytes => (caches, some bytes)
  | none => (caches, memory.read rip maxInstructionLength .instructionFetch)

/-- What a fetch ends with. -/
inductive Fetched where
  | decoded (d : DecodedInstruction)
  | pageFault
  | decodeError

/-- What the step keeps of a decoded instruction. -/
def decodedInstruction (simdProfileAllows : Instruction → Bool) (instr : Instruction) :
    DecodedInstruction :=
  { instr := instr
    simdAllowed := simdProfileAllows instr
    reportedCode := normalizeReportedCode instr.code
    trapKind := trapKindForCode instr.code
    instructionLength := max 1 instr.length }

/-- An entry is good for this address, mode and code epoch. -/
def DecodedInstructionCacheEntry.hits (e : DecodedInstructionCacheEntry) (state : CpuState)
    (codeEpoch : U64) : Bool :=
  e.valid && e.rip == state.rip && e.codeEpoch == codeEpoch && e.mode == state.mode

/-- The decoded instruction at `RIP`, and the caches after the lookup. -/
def fetch (decode : Decode) (simdProfileAllows : Instruction → Bool) (canUseDecodeCache : Bool)
    (caches : Caches) (state : CpuState) (memory : Memory) : Caches × Fetched :=
  let i := decodeCacheIndex state.rip
  let entry := caches.decodeCache i
  if canUseDecodeCache && entry.hits state memory.codeEpoch then
    (caches, .decoded entry.toDecodedInstruction)
  else
    match fetchBytes canUseDecodeCache caches memory state.rip with
    | (caches, none) => (caches, .pageFault)
    | (caches, some bytes) =>
      match decode (decoderBitness state.mode) bytes state.rip with
      | none => (caches, .decodeError)
      | some instr =>
        let d := decodedInstruction simdProfileAllows instr
        let entry : DecodedInstructionCacheEntry :=
          { d with
            rip := state.rip
            codeEpoch := memory.codeEpoch
            mode := state.mode
            valid := canUseDecodeCache }
        (caches.setDecoded i entry, .decoded d)

end Seven
