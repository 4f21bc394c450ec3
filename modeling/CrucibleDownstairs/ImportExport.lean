import CrucibleDownstairs.Protocol
import Mathlib.Algebra.Group.Nat.Basic

namespace CrucibleDownstairs

/-!
# Import and export

`downstairs_import` copies a file into a region, extending the region first when
the file needs more extents.  It reads the file in chunks of `CHUNK_SIZE` bytes,
each filled by as many short reads as the file returns, pads the last chunk with
zeros to a whole block, and writes each block where `extent_from_offset` puts
it.  `downstairs_export` writes blocks back out from a start block.  The region,
the block arithmetic of `crucible_common` and the upstairs' `extent_from_offset`
are not among the sources here, and are modelled from the spec: the region is a
map from (extent, block) to the block's bytes.

Importing `L ≥ 1` bytes and exporting the first `⌈L / block_size⌉` blocks gives
back the bytes followed by zeros to the next block boundary, for every geometry,
every region imported into and every pattern of short reads, as long as the file
needs fewer than `2 ^ 32` extents.  `Region::extend` takes a `u32`: past that
bound `extents_needed as u32` wraps, a region with fewer extents is extended too
little, and the import fails at the first block past its end.

The export's skip test adds a block's offset to its extent's offset counted in
bytes, `space_per_extent * eid`.  From a start block in the first extent, or with
one-byte blocks, it copies exactly the blocks from the start block on; from a start
block past the first extent it begins at the first block of the first extent whose
byte offset reaches the start block, which can lie before it.
-/

/-- `CHUNK_SIZE` of `downstairs_import`: 32 MiB. -/
def chunkSize : Nat := 32 * 1024 * 1024

/--
Modelled from the spec: the `Region` of `region.rs`, missing here.  Blocks are
`2 ^ blockShift` bytes, no larger than the largest block size, which the import
asserts divides `CHUNK_SIZE`; every extent has a block; `blocks eid offset` is
what block `offset` of extent `eid` holds.
-/
structure Region where
  blockShift : Nat
  extentSize : Nat
  extentCount : Nat
  blocks : Nat → Nat → List UInt8
  blockDividesChunk : 2 ^ blockShift ∣ chunkSize
  extentSizePos : 0 < extentSize

namespace Region

variable (region : Region)

/-- The block size in bytes. -/
def blockSize : Nat := 2 ^ region.blockShift

/-- `extent_size.byte_value()`: the bytes of one extent. -/
def spacePerExtent : Nat := region.extentSize * region.blockSize

/-- Modelled from the spec: `Block::is_valid_byte_size`, a whole number of blocks. -/
def isValidByteSize (bytes : Nat) : Bool := bytes % region.blockSize == 0

/-- Modelled from the spec: `Region::extend`, whose new extents up to `newsize` hold zeros. -/
def extend (newsize : Nat) : Region :=
  { region with
    extentCount := newsize
    blocks := fun eid offset =>
      if eid < region.extentCount then region.blocks eid offset
      else List.replicate region.blockSize 0 }

/-- Modelled from the spec: the check of a request's extent and block. -/
def checkInput (eid offset : Nat) : Except CrucibleError Unit :=
  if region.extentCount ≤ eid then .error .invalidExtent
  else if region.extentSize ≤ offset then .error .offsetInvalid
  else .ok ()

/-- Modelled from the spec: `Region::region_read` of one request, the bytes last stored. -/
def regionRead (request : ReadRequest) : Except CrucibleError (List UInt8) :=
  (region.checkInput request.eid request.offset).map fun _ =>
    region.blocks request.eid request.offset

/-- The region with one block replaced. -/
def store (write : Write) : Region :=
  { region with
    blocks := fun eid offset =>
      if eid = write.eid ∧ offset = write.offset then write.data else region.blocks eid offset }

/-- The bytes followed by zeros up to the next whole block. -/
def padded (bytes : List UInt8) : List UInt8 :=
  bytes ++ List.replicate ((region.blockSize - bytes.length % region.blockSize) % region.blockSize) 0

end Region

/-- Modelled from the spec: `Region::region_write`, each write replacing its block in turn. -/
def Region.regionWrite (region : Region) : List Write → Except CrucibleError Region
  | [] => .ok region
  | write :: rest =>
      match region.checkInput write.eid write.offset with
      | .error error => .error error
      | .ok () => (region.store write).regionWrite rest

/--
Modelled from the spec: `extent_from_offset`, missing here.  Linear block `b`
is block `b % extent_size` of extent `b / extent_size`; the list covers the
`nblocks` blocks from `offset`.
-/
def extentFromOffset (extentSize offset : Nat) : Nat → List (Nat × Nat)
  | 0 => []
  | nblocks + 1 =>
      (offset / extentSize, offset % extentSize) :: extentFromOffset extentSize (offset + 1) nblocks

/-- How `downstairs_import` or `downstairs_export` fails. -/
inductive TransferError where
  /-- The region refuses a read or a write. -/
  | region (error : CrucibleError)
  /-- `assert!(total <= CHUNK_SIZE)`. -/
  | totalPastChunk
  /-- `buffer[total] = 0` past the end of the chunk buffer. -/
  | padPastChunk
  /-- A slice `buffer[pos.bytes()..]` past the end of the chunk. -/
  | slicePastChunk
  /-- `assert_eq!(nblocks, pos)` or `assert_eq!(total, pos.bytes())`. -/
  | chunkNotWritten
  /-- `assert!(extent_count > 0)` in `downstairs_export`. -/
  | noExtents
  deriving Repr, DecidableEq

/--
The file being imported: the bytes not read yet, and at most how many bytes each
next `read` returns.  A read returns at least one byte before the end of the
file, so every bound is positive.
-/
structure File where
  data : List UInt8
  shortReads : List Nat
  shortReadsPositive : ∀ n ∈ shortReads, 0 < n

/-- `Read::read` into `space` bytes: the next bytes, up to the next short read. -/
def File.read (f : File) (space : Nat) : List UInt8 × File :=
  let n := match f.shortReads with
    | [] => space
    | limit :: _ => min limit space
  (f.data.take n, ⟨f.data.drop n, f.shortReads.tail,
    fun _ mem => f.shortReadsPositive _ (List.mem_of_mem_tail mem)⟩)

/-- A read takes the next bytes, at most the buffer's size and at least one byte into a nonempty buffer. -/
theorem File.read_eq (f : File) (space : Nat) :
    ∃ n, n ≤ space ∧ (0 < space → 0 < n) ∧ (f.read space).1 = f.data.take n ∧
      (f.read space).2.data = f.data.drop n := by
  rcases shortReads : f.shortReads with _ | ⟨limit, rest⟩
  · exact ⟨space, le_refl _, id, by simp [File.read, shortReads]⟩
  · have positive := f.shortReadsPositive limit (by simp [shortReads])
    exact ⟨min limit space, min_le_right _ _, fun _ => by omega, by simp [File.read, shortReads]⟩

/-- A read that returns bytes leaves fewer to read. -/
theorem File.read_progress (f : File) {space : Nat} (returned : (f.read space).1.length ≠ 0) :
    (f.read space).2.data.length < f.data.length := by
  obtain ⟨n, -, -, bytes, rest⟩ := f.read_eq space
  rw [bytes, List.length_take] at returned
  rw [rest, List.length_drop]
  omega

/--
The zero fill of `downstairs_import` at the end of the file:
`while !Block::is_valid_byte_size(total, &rm) { buffer[total] = 0; total += 1; }`
on a buffer of `CHUNK_SIZE` bytes.
-/
def padToBlock (region : Region) (buffer : List UInt8) : Except TransferError (List UInt8) :=
  if region.isValidByteSize buffer.length then .ok buffer
  else if buffer.length < chunkSize then padToBlock region (buffer ++ [0])
  else .error .padPastChunk
termination_by chunkSize - buffer.length
decreasing_by simp only [List.length_append, List.length_singleton]; omega

/--
The read loop of `downstairs_import`: with the first `buffer.length` bytes of the
chunk filled, read until the chunk is full or a read returns nothing, then
zero fill to a whole block.
-/
def fillBuffer (region : Region) (f : File) (buffer : List UInt8) :
    Except TransferError (List UInt8 × File) :=
  if chunkSize < buffer.length then .error .totalPastChunk
  else if buffer.length = chunkSize then .ok (buffer, f)
  else
    let read := f.read (chunkSize - buffer.length)
    if read.1.length = 0 then (padToBlock region buffer).map (·, read.2)
    else fillBuffer region read.2 (buffer ++ read.1)
termination_by f.data.length
decreasing_by exact f.read_progress ‹_›

/-! ## The read loop -/

/-- A zero added short of a block boundary leaves one zero less to fill. -/
theorem padCount_succ {blockSize total : Nat} (positive : 0 < blockSize)
    (unaligned : total % blockSize ≠ 0) :
    (blockSize - total % blockSize) % blockSize =
      (blockSize - (total + 1) % blockSize) % blockSize + 1 := by
  have below := Nat.mod_lt total positive
  have notOne : 1 < blockSize := by
    by_contra one
    exact unaligned (by rw [show blockSize = 1 by omega, Nat.mod_one])
  rw [Nat.add_mod_eq_ite, Nat.mod_eq_of_lt notOne,
    Nat.mod_eq_of_lt (by omega : blockSize - total % blockSize < blockSize)]
  split_ifs with wraps
  · rw [show total % blockSize + 1 - blockSize = 0 by omega, Nat.sub_zero, Nat.mod_self]
    omega
  · rw [Nat.mod_eq_of_lt (by omega : blockSize - (total % blockSize + 1) < blockSize)]
    omega

namespace Region

variable (region : Region)

theorem blockSize_pos : 0 < region.blockSize := Nat.two_pow_pos _

/-- A chunk is a whole number of blocks. -/
theorem chunkSize_mod : chunkSize % region.blockSize = 0 :=
  Nat.mod_eq_zero_of_dvd region.blockDividesChunk

theorem padded_of_aligned {bytes : List UInt8} (aligned : bytes.length % region.blockSize = 0) :
    region.padded bytes = bytes := by
  simp [padded, aligned]

theorem padded_append_zero {bytes : List UInt8} (unaligned : bytes.length % region.blockSize ≠ 0) :
    region.padded (bytes ++ [0]) = region.padded bytes := by
  simp only [padded, List.length_append, List.length_singleton,
    padCount_succ region.blockSize_pos unaligned, List.replicate_succ, List.append_assoc,
    List.singleton_append]

end Region

/-- The zero fill pads to a whole block, never past the chunk. -/
theorem padToBlock_eq (region : Region) (buffer : List UInt8) (fits : buffer.length ≤ chunkSize) :
    padToBlock region buffer = .ok (region.padded buffer) := by
  induction buffer using padToBlock.induct region with
  | case1 buffer valid =>
      have aligned : buffer.length % region.blockSize = 0 := by
        simpa [Region.isValidByteSize] using valid
      rw [padToBlock.eq_1, if_pos valid, region.padded_of_aligned aligned]
  | case2 buffer invalid room step =>
      have unaligned : buffer.length % region.blockSize ≠ 0 := by
        simpa [Region.isValidByteSize] using invalid
      rw [padToBlock.eq_1, if_neg invalid, if_pos room, step (by simp; omega),
        region.padded_append_zero unaligned]
  | case3 buffer invalid full =>
      have aligned : buffer.length % region.blockSize = 0 := by
        rw [show buffer.length = chunkSize by omega]
        exact region.chunkSize_mod
      simp [Region.isValidByteSize, aligned] at invalid

/-- Bytes read in two goes: the first `n`, then up to `space` in all. -/
theorem take_append_take_drop {α : Type} (l : List α) {n space : Nat} (le : n ≤ space) :
    l.take n ++ (l.drop n).take (space - (l.take n).length) = l.take space ∧
      (l.drop n).drop (space - (l.take n).length) = l.drop space := by
  rcases Nat.le_total n l.length with short | long
  · rw [List.length_take_of_le short, List.drop_drop, Nat.add_sub_cancel' le, ← List.take_add,
      Nat.add_sub_cancel' le]
    exact ⟨rfl, rfl⟩
  · simp [List.take_of_length_le long, List.drop_of_length_le long,
      List.take_of_length_le (long.trans le), List.drop_of_length_le (long.trans le)]

/--
The read loop from `buffer.length` filled bytes gives the next bytes up to the
end of the chunk or of the file, zero filled to a whole block.
-/
theorem fillBuffer_eq (region : Region) (f : File) (buffer : List UInt8)
    (fits : buffer.length ≤ chunkSize) :
    ∃ rest, fillBuffer region f buffer =
        .ok (region.padded (buffer ++ f.data.take (chunkSize - buffer.length)), rest) ∧
      rest.data = f.data.drop (chunkSize - buffer.length) := by
  induction f, buffer using fillBuffer.induct region with
  | case1 f buffer over => omega
  | case2 f buffer _ full =>
      refine ⟨f, ?_, by simp [full]⟩
      rw [fillBuffer.eq_1, if_neg (by omega), if_pos full, full, Nat.sub_self, List.take_zero,
        List.append_nil, region.padded_of_aligned (full ▸ region.chunkSize_mod)]
  | case3 f buffer _ notFull read ended =>
      obtain ⟨n, -, positive, bytes, rest⟩ := f.read_eq (chunkSize - buffer.length)
      dsimp only [read] at ended
      have empty : f.data = [] := by
        rw [bytes, List.length_take] at ended
        have := positive (by omega)
        exact List.length_eq_zero.mp (by omega)
      refine ⟨read.2, ?_, by simp [read, rest, empty]⟩
      rw [fillBuffer.eq_1, if_neg (by omega), if_neg notFull]
      dsimp only
      rw [if_pos ended, padToBlock_eq region buffer fits, empty, List.take_nil, List.append_nil]
      rfl
  | case4 f buffer _ notFull read returned step =>
      obtain ⟨n, within, -, bytes, rest⟩ := f.read_eq (chunkSize - buffer.length)
      dsimp only [read] at returned step
      rw [bytes] at returned step
      rw [rest] at step
      obtain ⟨taken, dropped⟩ := take_append_take_drop f.data within
      obtain ⟨rest', filled, restData⟩ := step (by simp at fits ⊢; omega)
      refine ⟨rest', ?_, ?_⟩
      · rw [fillBuffer.eq_1, if_neg (by omega), if_neg notFull]
        dsimp only
        rw [bytes, if_neg returned, filled, List.length_append, ← Nat.sub_sub, List.append_assoc,
          taken]
      · rw [restData, List.length_append, ← Nat.sub_sub, dropped]

/-- A chunk with bytes in it took them from the file. -/
theorem fillBuffer_progress (region : Region) (f : File) {buffer : List UInt8} {rest : File}
    (filled : fillBuffer region f [] = .ok (buffer, rest)) (nonempty : ¬ buffer.length = 0) :
    rest.data.length < f.data.length := by
  obtain ⟨rest', filled', restData⟩ := fillBuffer_eq region f [] (by simp)
  rw [filled, Except.ok.injEq, Prod.mk.injEq] at filled'
  obtain ⟨rfl, rfl⟩ := filled'
  have unread : f.data ≠ [] := by
    rintro empty
    simp [empty, Region.padded] at nonempty
  rw [restData, List.length_drop, List.length_nil, Nat.sub_zero]
  have := List.length_pos.mpr unread
  unfold chunkSize
  omega

/-! ## The import and the export -/

/--
The writes of one chunk from block `pos` of the buffer on: each block goes where
`extent_from_offset` puts it, as the slice
`buffer[pos.bytes()..(pos.bytes() + len.bytes())]`.
-/
def chunkWrites (blockSize : Nat) (buffer : List UInt8) :
    List (Nat × Nat) → Nat → Except TransferError (List Write)
  | [], _ => .ok []
  | (eid, offset) :: rest, pos =>
      if buffer.length < (pos + 1) * blockSize then .error .slicePastChunk
      else (chunkWrites blockSize buffer rest (pos + 1)).map
        (⟨eid, offset, (buffer.drop (pos * blockSize)).take blockSize⟩ :: ·)

/--
The chunk loop of `downstairs_import`, `offset` blocks in: fill a chunk, stop
when it is empty, else write its blocks and go on.  The writes slice the whole
`vec![0; CHUNK_SIZE]`, the filled bytes followed by its zeros.
-/
def importLoop (region : Region) (f : File) (offset : Nat) : Except TransferError Region :=
  match _filled : fillBuffer region f [] with
  | .error error => .error error
  | .ok (buffer, rest) =>
      if buffer.length = 0 then .ok region
      else
        let nblocks := buffer.length / region.blockSize
        let tuples := extentFromOffset region.extentSize offset nblocks
        let vec := buffer ++ List.replicate (chunkSize - buffer.length) 0
        match chunkWrites region.blockSize vec tuples 0 with
        | .error error => .error error
        | .ok writes =>
            match region.regionWrite writes with
            | .error error => .error (.region error)
            | .ok written =>
                if nblocks ≠ tuples.length ∨ buffer.length ≠ tuples.length * region.blockSize then
                  .error .chunkNotWritten
                else importLoop written rest (offset + nblocks)
termination_by f.data.length
decreasing_by exact fillBuffer_progress region f _filled ‹_›

/-- `extents_needed` of `downstairs_import`: the extents that hold `file_size` bytes, rounded up. -/
def Region.extentsNeeded (region : Region) (fileSize : Nat) : Nat :=
  fileSize / region.spacePerExtent + if fileSize % region.spacePerExtent ≠ 0 then 1 else 0

/--
`downstairs_import`: extend the region to the extents the file needs, then copy it in.
`Region::extend` takes a `u32`, so `extents_needed as u32` keeps the count modulo `2 ^ 32`.
-/
def downstairsImport (region : Region) (f : File) : Except TransferError Region :=
  let extentsNeeded := region.extentsNeeded f.data.length
  let region :=
    if region.extentCount < extentsNeeded then region.extend (extentsNeeded % 2 ^ 32) else region
  importLoop region f 0

/-- Every (extent, block) of the region in the order the export visits them. -/
def Region.extentBlocks (region : Region) : List (Nat × Nat) :=
  (List.range region.extentCount).flatMap fun eid =>
    (List.range region.extentSize).map fun blockOffset => (eid, blockOffset)

/--
The two loops of `downstairs_export` as one, which the labelled break leaves
whole: each block whose `extent_offset + block_offset` reaches `start_block` is
read and written out, until `count` blocks are copied.
-/
def exportBlocks (region : Region) (startBlock count : Nat) :
    List (Nat × Nat) → Nat → Except TransferError (List UInt8)
  | [], _ => .ok []
  | (eid, blockOffset) :: rest, blocksCopied =>
      if startBlock ≤ region.spacePerExtent * eid + blockOffset then
        match region.regionRead ⟨eid, blockOffset⟩ with
        | .error error => .error (.region error)
        | .ok data =>
            if count ≤ blocksCopied + 1 then .ok data
            else (exportBlocks region startBlock count rest (blocksCopied + 1)).map (data ++ ·)
      else exportBlocks region startBlock count rest blocksCopied

/--
`downstairs_export`: the bytes written to the export file.  Its asserts on the
block and extent sizes hold of every region.
-/
def downstairsExport (region : Region) (startBlock count : Nat) :
    Except TransferError (List UInt8) :=
  if region.extentCount = 0 then .error .noExtents
  else
    let count := if count = 0 then region.extentSize * region.extentCount else count
    exportBlocks region startBlock count region.extentBlocks 0

namespace Region

variable (region : Region)

/--
The skip test of `downstairs_export` at linear block `b`: `extent_offset + block_offset`
reaches `start_block`, where `extent_offset` is `space_per_extent * eid`, a count of bytes.
-/
def exportReaches (startBlock b : Nat) : Bool :=
  startBlock ≤ region.spacePerExtent * (b / region.extentSize) + b % region.extentSize

/-- The linear blocks `downstairs_export` copies: in order, the first `count` that pass the skip test. -/
def exportedBlocks (startBlock count : Nat) : List Nat :=
  ((List.range (region.extentCount * region.extentSize)).filter
    (region.exportReaches startBlock)).take count

end Region

/-! ## The blocks a chunk writes -/

/-- Block `i` of a byte string. -/
def blockAt (blockSize : Nat) (bytes : List UInt8) (i : Nat) : List UInt8 :=
  (bytes.drop (i * blockSize)).take blockSize

namespace Region

variable (region : Region)

/-- The block at linear position `b`, where `extent_from_offset` puts it. -/
def linear (b : Nat) : List UInt8 :=
  region.blocks (b / region.extentSize) (b % region.extentSize)

/-- Two regions of one geometry and extent count. -/
structure SameShape (region' : Region) : Prop where
  blockShift : region'.blockShift = region.blockShift
  extentSize : region'.extentSize = region.extentSize
  extentCount : region'.extentCount = region.extentCount

theorem SameShape.refl : region.SameShape region := ⟨rfl, rfl, rfl⟩

theorem SameShape.trans {first second third : Region} (before : first.SameShape second)
    (after : second.SameShape third) : first.SameShape third :=
  ⟨after.1.trans before.1, after.2.trans before.2, after.3.trans before.3⟩

theorem sameShape_store (write : Write) : region.SameShape (region.store write) := ⟨rfl, rfl, rfl⟩

theorem SameShape.blockSize {region' : Region} (shape : region.SameShape region') :
    region'.blockSize = region.blockSize := by
  rw [Region.blockSize, shape.blockShift, Region.blockSize]

theorem SameShape.padded {region' : Region} (shape : region.SameShape region') :
    region'.padded = region.padded := by
  funext bytes
  rw [Region.padded, shape.blockSize, Region.padded]

@[simp] theorem store_blockSize (write : Write) : (region.store write).blockSize = region.blockSize :=
  rfl

@[simp] theorem store_extentSize (write : Write) :
    (region.store write).extentSize = region.extentSize := rfl

@[simp] theorem store_extentCount (write : Write) :
    (region.store write).extentCount = region.extentCount := rfl

/-- Storing a block changes the one linear position it is written to. -/
theorem store_linear (b : Nat) (data : List UInt8) (b' : Nat) :
    (region.store ⟨b / region.extentSize, b % region.extentSize, data⟩).linear b' =
      if b' = b then data else region.linear b' := by
  by_cases same : b' = b
  · simp [linear, store, same]
  · have apart : ¬ (b' / region.extentSize = b / region.extentSize ∧
        b' % region.extentSize = b % region.extentSize) := fun ⟨quotient, remainder⟩ =>
      same (by rw [← Nat.div_add_mod b' region.extentSize, quotient, remainder, Nat.div_add_mod])
    simp [linear, store, same, apart]

/-- Every linear position below the region's size is a block of one of its extents. -/
theorem checkInput_linear {b : Nat} (inside : b < region.extentCount * region.extentSize) :
    region.checkInput (b / region.extentSize) (b % region.extentSize) = .ok () := by
  have inExtent := (Nat.div_lt_iff_lt_mul region.extentSizePos).mpr inside
  simp [checkInput, Nat.not_le.mpr inExtent, Nat.mod_lt b region.extentSizePos]

/-- A linear position past the region's blocks lies in an extent the region does not have. -/
theorem checkInput_past {b : Nat} (past : region.extentCount * region.extentSize ≤ b) :
    region.checkInput (b / region.extentSize) (b % region.extentSize) = .error .invalidExtent := by
  have pastExtents := (Nat.le_div_iff_mul_le region.extentSizePos).mpr past
  simp [checkInput, pastExtents]

end Region

/--
The writes of blocks `pos` to `pos + n` of a buffer to the `n` linear positions
from `offset` all go through, and store those blocks there.
-/
theorem regionWrite_chunk (buffer : List UInt8) (n : Nat) {region : Region} {offset pos : Nat}
    (room : offset + n ≤ region.extentCount * region.extentSize)
    (inBuffer : (pos + n) * region.blockSize ≤ buffer.length) :
    ∃ writes written,
      chunkWrites region.blockSize buffer (extentFromOffset region.extentSize offset n) pos =
        .ok writes ∧
      region.regionWrite writes = .ok written ∧ region.SameShape written ∧
      ∀ b, written.linear b =
        if offset ≤ b ∧ b < offset + n then blockAt region.blockSize buffer (pos + (b - offset))
        else region.linear b := by
  induction n generalizing region offset pos with
  | zero => exact ⟨[], region, rfl, rfl, .refl region, fun b => by rw [if_neg (by omega)]⟩
  | succ n step =>
      let block : Write :=
        ⟨offset / region.extentSize, offset % region.extentSize, blockAt region.blockSize buffer pos⟩
      obtain ⟨writes, written, chunk, wrote, shape, contents⟩ :=
        @step (region.store block) (offset + 1) (pos + 1)
          (by simp only [Region.store_extentCount, Region.store_extentSize]; omega)
          (by simp only [Region.store_blockSize]; rw [← Nat.add_assoc, Nat.add_right_comm] at inBuffer; exact inBuffer)
      simp only [Region.store_blockSize, Region.store_extentSize] at chunk
      have fits : (pos + 1) * region.blockSize ≤ buffer.length :=
        le_trans (Nat.mul_le_mul_right _ (by omega)) inBuffer
      refine ⟨block :: writes, written, ?_, ?_, (region.sameShape_store block).trans shape, ?_⟩
      · simp only [extentFromOffset, chunkWrites, if_neg (Nat.not_lt.mpr fits), chunk]
        rfl
      · simp only [Region.regionWrite, region.checkInput_linear (by omega : offset < _)]
        exact wrote
      · intro b
        rw [contents b, region.store_linear]
        split_ifs <;> first | (exfalso; omega) | (congr 1; omega) | rfl

/-- A buffer with room for every block the tuples name gives one write per tuple. -/
theorem chunkWrites_ok (blockSize : Nat) (buffer : List UInt8) (tuples : List (Nat × Nat))
    {pos : Nat} (inBuffer : (pos + tuples.length) * blockSize ≤ buffer.length) :
    ∃ writes, chunkWrites blockSize buffer tuples pos = .ok writes := by
  induction tuples generalizing pos with
  | nil => exact ⟨[], rfl⟩
  | cons tuple rest step =>
      rw [List.length_cons, ← Nat.add_assoc, Nat.add_right_comm] at inBuffer
      obtain ⟨later, chunk⟩ := step inBuffer
      have fits : (pos + 1) * blockSize ≤ buffer.length :=
        le_trans (Nat.mul_le_mul_right _ (by omega)) inBuffer
      exact ⟨_, by simp only [chunkWrites, if_neg (Nat.not_lt.mpr fits), chunk]; rfl⟩

/-- The writes of a chunk start with the write of its first tuple. -/
theorem chunkWrites_cons {blockSize : Nat} {buffer : List UInt8} {eid offset pos : Nat}
    {rest : List (Nat × Nat)} {writes : List Write}
    (chunk : chunkWrites blockSize buffer ((eid, offset) :: rest) pos = .ok writes) :
    ∃ later, chunkWrites blockSize buffer rest (pos + 1) = .ok later ∧
      writes = ⟨eid, offset, (buffer.drop (pos * blockSize)).take blockSize⟩ :: later := by
  unfold chunkWrites at chunk
  split_ifs at chunk
  rcases later : chunkWrites blockSize buffer rest (pos + 1) with _ | later
  all_goals rw [later] at chunk; cases chunk
  exact ⟨_, rfl, rfl⟩

/--
When the linear positions from `offset` run past the region's blocks, the region
refuses the chunk's writes at the first position past its end.
-/
theorem regionWrite_chunk_past {buffer : List UInt8} {n : Nat} {region : Region}
    {offset pos : Nat} {writes : List Write}
    (started : offset ≤ region.extentCount * region.extentSize)
    (past : region.extentCount * region.extentSize < offset + n)
    (chunk : chunkWrites region.blockSize buffer (extentFromOffset region.extentSize offset n) pos =
      .ok writes) :
    region.regionWrite writes = .error .invalidExtent := by
  induction n generalizing region offset pos writes with
  | zero => omega
  | succ n step =>
      obtain ⟨later, tail, rfl⟩ := chunkWrites_cons chunk
      rcases Nat.lt_or_ge offset (region.extentCount * region.extentSize) with inside | atEnd
      · simp only [Region.regionWrite, region.checkInput_linear inside]
        exact @step (region.store _) (offset + 1) (pos + 1) later
          (by simp only [Region.store_extentCount, Region.store_extentSize]; omega)
          (by simp only [Region.store_extentCount, Region.store_extentSize]; omega) tail
      · simp only [Region.regionWrite, region.checkInput_past atEnd]

/-! ## What one pass of the chunk loop writes -/

/-- Zeros to the next block boundary make `⌈total / blockSize⌉` whole blocks. -/
theorem add_padCount {blockSize total : Nat} (positive : 0 < blockSize) :
    total + (blockSize - total % blockSize) % blockSize =
      (total + blockSize - 1) / blockSize * blockSize := by
  have split := Nat.div_add_mod total blockSize
  have below := Nat.mod_lt total positive
  generalize total / blockSize = q at split
  generalize total % blockSize = r at split below ⊢
  have swap : q * blockSize = blockSize * q := Nat.mul_comm _ _
  have succ : (q + 1) * blockSize = q * blockSize + blockSize := Nat.succ_mul q blockSize
  have succSucc : (q + 1 + 1) * blockSize = q * blockSize + blockSize + blockSize := by
    rw [Nat.succ_mul, succ]
  rcases Nat.eq_zero_or_pos r with rfl | unaligned
  · rw [Nat.sub_zero, Nat.mod_self, Nat.div_eq_of_lt_le (k := q)] <;> omega
  · rw [Nat.mod_eq_of_lt (by omega : blockSize - r < blockSize),
      Nat.div_eq_of_lt_le (k := q + 1)] <;> omega

namespace Region

variable (region : Region)

/-- The padded bytes fill `⌈L / block_size⌉` whole blocks. -/
theorem padded_length (bytes : List UInt8) :
    (region.padded bytes).length =
      (bytes.length + region.blockSize - 1) / region.blockSize * region.blockSize := by
  simp only [padded, List.length_append, List.length_replicate]
  exact add_padCount region.blockSize_pos

theorem padded_aligned (bytes : List UInt8) :
    (region.padded bytes).length % region.blockSize = 0 := by
  rw [padded_length, Nat.mul_mod_left]

/-- Padding the bytes after `offset` whole blocks pads the rest of the padded bytes. -/
theorem padded_drop (bytes : List UInt8) {offset : Nat}
    (started : offset * region.blockSize ≤ bytes.length) :
    region.padded (bytes.drop (offset * region.blockSize)) =
      (region.padded bytes).drop (offset * region.blockSize) := by
  have sameRemainder : (bytes.length - offset * region.blockSize) % region.blockSize =
      bytes.length % region.blockSize := by
    rw [Nat.mul_comm]
    exact Nat.sub_mul_mod (by rwa [Nat.mul_comm])
  simp only [padded, List.length_drop, List.drop_append_of_le_length started, sameRemainder]

end Region

/-- A block inside a stretch of bytes is the block at the stretch's start plus its own. -/
theorem blockAt_take_drop (blockSize : Nat) (bytes : List UInt8) {offset length i : Nat}
    (inside : (i + 1) * blockSize ≤ length) :
    blockAt blockSize ((bytes.drop (offset * blockSize)).take length) i =
      blockAt blockSize bytes (offset + i) := by
  rw [Nat.add_mul, Nat.one_mul] at inside
  simp only [blockAt, List.drop_take, List.take_take, List.drop_drop, Nat.add_mul]
  rw [min_eq_left (by omega)]

@[simp] theorem extentFromOffset_length (extentSize offset n : Nat) :
    (extentFromOffset extentSize offset n).length = n := by
  induction n generalizing offset with
  | zero => rfl
  | succ n step => simp [extentFromOffset, step]

/--
A pass `offset` blocks into `data` reads a whole number of blocks, the next
stretch of the padded data, and leaves the file right after it.
-/
theorem fillBuffer_stretch (data : List UInt8) {region : Region} {f : File} {offset : Nat}
    {buffer : List UInt8} {rest : File}
    (position : f.data = data.drop (offset * region.blockSize))
    (filled : fillBuffer region f [] = .ok (buffer, rest)) (nonempty : buffer.length ≠ 0) :
    buffer.length % region.blockSize = 0 ∧
      buffer = ((region.padded data).drop (offset * region.blockSize)).take buffer.length ∧
      rest.data = data.drop (offset * region.blockSize + buffer.length) := by
  obtain ⟨rest', filled', restData⟩ := fillBuffer_eq region f [] (by simp)
  rw [filled, Except.ok.injEq, Prod.mk.injEq] at filled'
  obtain ⟨rfl, rfl⟩ := filled'
  refine ⟨region.padded_aligned _, ?_⟩
  simp only [List.nil_append, List.length_nil, Nat.sub_zero] at nonempty restData ⊢
  rw [position] at nonempty restData ⊢
  have started : offset * region.blockSize < data.length := by
    by_contra past
    simp [List.drop_of_length_le (Nat.le_of_not_lt past), Region.padded, Nat.mod_self] at nonempty
  rcases Nat.lt_or_ge (data.length - offset * region.blockSize) chunkSize with short | long
  · have whole : (data.drop (offset * region.blockSize)).take chunkSize =
        data.drop (offset * region.blockSize) :=
      List.take_of_length_le (by simp only [List.length_drop]; omega)
    have consumed : (data.drop (offset * region.blockSize)).drop chunkSize = [] :=
      List.drop_of_length_le (by simp only [List.length_drop]; omega)
    have past : data.drop (offset * region.blockSize +
        (region.padded (data.drop (offset * region.blockSize))).length) = [] :=
      List.drop_of_length_le (by simp only [Region.padded, List.length_append, List.length_drop]; omega)
    rw [whole, restData, consumed, past, region.padded_drop data started.le, List.take_length]
    exact ⟨rfl, rfl⟩
  · have full : ((data.drop (offset * region.blockSize)).take chunkSize).length = chunkSize := by
      simp only [List.length_take, List.length_drop]
      omega
    rw [region.padded_of_aligned (by rw [full]; exact region.chunkSize_mod), full, restData, List.drop_drop,
      ← region.padded_drop data started.le, Region.padded,
      List.take_append_of_le_length (by simp only [List.length_drop]; omega)]
    exact ⟨rfl, rfl⟩

/-- A block inside a byte string is untouched by what follows it. -/
theorem blockAt_append (blockSize : Nat) {bytes : List UInt8} (after : List UInt8) {i : Nat}
    (inside : (i + 1) * blockSize ≤ bytes.length) :
    blockAt blockSize (bytes ++ after) i = blockAt blockSize bytes i := by
  rw [Nat.add_mul, Nat.one_mul] at inside
  rw [blockAt, List.drop_append_of_le_length (by omega),
    List.take_append_of_le_length (by rw [List.length_drop]; omega), blockAt]

/-- A pass reads whole blocks, and no further than the padded data. -/
theorem fillBuffer_advanced (data : List UInt8) {region : Region} {f : File} {offset : Nat}
    {buffer : List UInt8} {rest : File}
    (position : f.data = data.drop (offset * region.blockSize))
    (filled : fillBuffer region f [] = .ok (buffer, rest)) (nonempty : buffer.length ≠ 0) :
    buffer.length = buffer.length / region.blockSize * region.blockSize ∧
      offset + buffer.length / region.blockSize ≤ (region.padded data).length / region.blockSize := by
  obtain ⟨aligned, stretch, -⟩ := fillBuffer_stretch data position filled nonempty
  have whole : buffer.length / region.blockSize * region.blockSize = buffer.length :=
    Nat.div_mul_cancel (Nat.dvd_of_mod_eq_zero aligned)
  have within : offset * region.blockSize + buffer.length ≤ (region.padded data).length := by
    have := congrArg List.length stretch
    rw [List.length_take, List.length_drop] at this
    omega
  exact ⟨whole.symm,
    (Nat.le_div_iff_mul_le region.blockSize_pos).mpr (by rw [Nat.add_mul, whole]; exact within)⟩

/--
One pass of the chunk loop `offset` blocks into `data`, with room for the blocks it
reads, writes the next blocks of the padded data to their linear positions, and
leaves the file after them.
-/
theorem importChunk (data : List UInt8) {region : Region} {f : File} {offset : Nat}
    {buffer : List UInt8} {rest : File}
    (position : f.data = data.drop (offset * region.blockSize))
    (room : offset + buffer.length / region.blockSize ≤ region.extentCount * region.extentSize)
    (filled : fillBuffer region f [] = .ok (buffer, rest)) (nonempty : buffer.length ≠ 0) :
    ∃ writes written,
      chunkWrites region.blockSize (buffer ++ List.replicate (chunkSize - buffer.length) 0)
          (extentFromOffset region.extentSize offset (buffer.length / region.blockSize)) 0 =
        .ok writes ∧
      region.regionWrite writes = .ok written ∧ region.SameShape written ∧
      rest.data = data.drop ((offset + buffer.length / region.blockSize) * region.blockSize) ∧
      ∀ b, written.linear b =
        if offset ≤ b ∧ b < offset + buffer.length / region.blockSize then
          blockAt region.blockSize (region.padded data) b
        else region.linear b := by
  obtain ⟨-, stretch, restData⟩ := fillBuffer_stretch data position filled nonempty
  obtain ⟨whole, -⟩ := fillBuffer_advanced data position filled nonempty
  obtain ⟨writes, written, chunk, wrote, shape, contents⟩ :=
    @regionWrite_chunk (buffer ++ List.replicate (chunkSize - buffer.length) 0)
      (buffer.length / region.blockSize) region offset 0 room
      (by rw [Nat.zero_add, ← whole, List.length_append]; omega)
  refine ⟨writes, written, chunk, wrote, shape, by rw [Nat.add_mul, ← whole]; exact restData,
    fun b => ?_⟩
  rw [contents b]
  split_ifs with inside
  · have inside : (0 + (b - offset) + 1) * region.blockSize ≤ buffer.length := by
      rw [whole]
      exact Nat.mul_le_mul_right _ (by omega)
    rw [blockAt_append _ _ inside, stretch, blockAt_take_drop _ _ inside]
    congr 1
    omega
  · rfl

/-- The chunk loop stops at an empty chunk. -/
theorem importLoop_done {region : Region} {f : File} {offset : Nat} {buffer : List UInt8}
    {rest : File} (filled : fillBuffer region f [] = .ok (buffer, rest)) (empty : buffer.length = 0) :
    importLoop region f offset = .ok region := by
  rw [importLoop.eq_1]
  split
  · next failed => rw [filled] at failed; cases failed
  · next buffer' rest' filled' =>
      rw [filled, Except.ok.injEq, Prod.mk.injEq] at filled'
      obtain ⟨rfl, rfl⟩ := filled'
      rw [if_pos empty]

/-- A chunk whose writes go through is followed by the next pass. -/
theorem importLoop_step {region : Region} {f : File} {offset : Nat} {buffer : List UInt8}
    {rest : File} {writes : List Write} {written : Region}
    (filled : fillBuffer region f [] = .ok (buffer, rest)) (nonempty : buffer.length ≠ 0)
    (chunk : chunkWrites region.blockSize (buffer ++ List.replicate (chunkSize - buffer.length) 0)
      (extentFromOffset region.extentSize offset (buffer.length / region.blockSize)) 0 = .ok writes)
    (wrote : region.regionWrite writes = .ok written)
    (whole : buffer.length = buffer.length / region.blockSize * region.blockSize) :
    importLoop region f offset = importLoop written rest (offset + buffer.length / region.blockSize) := by
  rw [importLoop.eq_1]
  split
  · next failed => rw [filled] at failed; cases failed
  · next buffer' rest' filled' =>
      rw [filled, Except.ok.injEq, Prod.mk.injEq] at filled'
      obtain ⟨rfl, rfl⟩ := filled'
      simp only [if_neg nonempty, chunk, wrote, extentFromOffset_length]
      rw [if_neg (by omega)]

/-- A chunk whose writes the region refuses ends the import with the region's error. -/
theorem importLoop_refused {region : Region} {f : File} {offset : Nat} {buffer : List UInt8}
    {rest : File} {writes : List Write} {error : CrucibleError}
    (filled : fillBuffer region f [] = .ok (buffer, rest)) (nonempty : buffer.length ≠ 0)
    (chunk : chunkWrites region.blockSize (buffer ++ List.replicate (chunkSize - buffer.length) 0)
      (extentFromOffset region.extentSize offset (buffer.length / region.blockSize)) 0 = .ok writes)
    (refused : region.regionWrite writes = .error error) :
    importLoop region f offset = .error (.region error) := by
  rw [importLoop.eq_1]
  split
  · next failed => rw [filled] at failed; cases failed
  · next buffer' rest' filled' =>
      rw [filled, Except.ok.injEq, Prod.mk.injEq] at filled'
      obtain ⟨rfl, rfl⟩ := filled'
      simp only [if_neg nonempty, chunk, refused]

/-- `⌈total / blockSize⌉` is at most any `k` with `total ≤ k * blockSize`. -/
theorem ceil_le_of_le_mul {blockSize total k : Nat} (positive : 0 < blockSize)
    (within : total ≤ k * blockSize) : (total + blockSize - 1) / blockSize ≤ k :=
  Nat.lt_succ_iff.mp ((Nat.div_lt_iff_lt_mul positive).mpr (by rw [Nat.succ_mul]; omega))

/-- The padded bytes fill `⌈L / block_size⌉` blocks. -/
theorem Region.padded_blocks (region : Region) (bytes : List UInt8) :
    (region.padded bytes).length / region.blockSize =
      (bytes.length + region.blockSize - 1) / region.blockSize := by
  rw [region.padded_length, Nat.mul_div_cancel _ region.blockSize_pos]

/-- Bytes that end by a block boundary pad to no more blocks than it. -/
theorem Region.padded_blocks_le (region : Region) {bytes : List UInt8} {offset : Nat}
    (within : bytes.length ≤ offset * region.blockSize) :
    (region.padded bytes).length / region.blockSize ≤ offset := by
  rw [region.padded_blocks]
  exact ceil_le_of_le_mul region.blockSize_pos within

/-- A pass that reads nothing finds no block of the padded data left from `offset` on. -/
theorem fillBuffer_ended (data : List UInt8) {region : Region} {f : File} {offset : Nat}
    {buffer : List UInt8} {rest : File}
    (position : f.data = data.drop (offset * region.blockSize))
    (filled : fillBuffer region f [] = .ok (buffer, rest)) (empty : buffer.length = 0) :
    (region.padded data).length / region.blockSize ≤ offset := by
  obtain ⟨rest', filled', -⟩ := fillBuffer_eq region f [] (by simp)
  rw [filled, Except.ok.injEq, Prod.mk.injEq] at filled'
  obtain ⟨rfl, -⟩ := filled'
  have unread : f.data = [] := by
    simp only [Region.padded, List.length_append, List.nil_append, List.length_nil, Nat.sub_zero,
      List.length_take] at empty
    exact List.length_eq_zero.mp (by unfold chunkSize at empty; omega)
  refine region.padded_blocks_le ?_
  have := congrArg List.length position
  rw [unread, List.length_drop, List.length_nil] at this
  omega

/--
The chunk loop `offset` blocks into `data` goes through and leaves every block
of the padded data from `offset` on at its linear position, and every other
block as it was.
-/
theorem importLoop_eq (data : List UInt8) (region : Region) (f : File) (offset : Nat)
    (position : f.data = data.drop (offset * region.blockSize))
    (room : (region.padded data).length / region.blockSize ≤ region.extentCount * region.extentSize) :
    ∃ imported, importLoop region f offset = .ok imported ∧ region.SameShape imported ∧
      ∀ b, imported.linear b =
        if offset ≤ b ∧ b < (region.padded data).length / region.blockSize then
          blockAt region.blockSize (region.padded data) b
        else region.linear b := by
  obtain ⟨length, measure⟩ : ∃ length, f.data.length = length := ⟨_, rfl⟩
  induction length using Nat.strong_induction_on generalizing region f offset with
  | _ length step =>
  obtain ⟨rest, filled, -⟩ := fillBuffer_eq region f [] (by simp)
  generalize region.padded ([] ++ f.data.take (chunkSize - [].length)) = buffer at filled
  by_cases empty : buffer.length = 0
  · have ended := fillBuffer_ended data position filled empty
    exact ⟨region, importLoop_done filled empty, .refl region, fun b => by rw [if_neg (by omega)]⟩
  · obtain ⟨whole, advanced⟩ := fillBuffer_advanced data position filled empty
    obtain ⟨writes, written, chunk, wrote, shape, restData, contents⟩ :=
      importChunk data position (advanced.trans room) filled empty
    obtain ⟨imported, loop, shape', contents'⟩ :=
      step rest.data.length (measure ▸ fillBuffer_progress region f filled empty) written rest
        (offset + buffer.length / region.blockSize) (by rw [shape.blockSize]; exact restData)
        (by rw [shape.padded, shape.blockSize, shape.extentCount, shape.extentSize]; exact room) rfl
    rw [shape.padded, shape.blockSize] at contents'
    refine ⟨imported, (importLoop_step filled empty chunk wrote whole).trans loop,
      shape.trans shape', fun b => ?_⟩
    rw [contents' b, contents b]
    generalize buffer.length / region.blockSize = nblocks at advanced ⊢
    split_ifs <;> first | rfl | (exfalso; omega)

/--
The chunk loop `offset` blocks into `data`, on a region with fewer blocks than the
padded data, writes the chunks that fit and fails with an invalid extent at the
first block past the region's end.
-/
theorem importLoop_short (data : List UInt8) (region : Region) (f : File) (offset : Nat)
    (position : f.data = data.drop (offset * region.blockSize))
    (started : offset ≤ region.extentCount * region.extentSize)
    (short : region.extentCount * region.extentSize < (region.padded data).length / region.blockSize) :
    importLoop region f offset = .error (.region .invalidExtent) := by
  obtain ⟨length, measure⟩ : ∃ length, f.data.length = length := ⟨_, rfl⟩
  induction length using Nat.strong_induction_on generalizing region f offset with
  | _ length step =>
  obtain ⟨rest, filled, -⟩ := fillBuffer_eq region f [] (by simp)
  generalize region.padded ([] ++ f.data.take (chunkSize - [].length)) = buffer at filled
  by_cases empty : buffer.length = 0
  · have ended := fillBuffer_ended data position filled empty
    omega
  obtain ⟨whole, -⟩ := fillBuffer_advanced data position filled empty
  by_cases fits : offset + buffer.length / region.blockSize ≤ region.extentCount * region.extentSize
  case pos =>
    obtain ⟨writes, written, chunk, wrote, shape, restData, -⟩ :=
      importChunk data position fits filled empty
    rw [importLoop_step filled empty chunk wrote whole]
    refine step rest.data.length (measure ▸ fillBuffer_progress region f filled empty) written rest _
      (by rw [shape.blockSize]; exact restData) ?_ ?_ rfl
    · rw [shape.extentCount, shape.extentSize]
      exact fits
    · rw [shape.padded, shape.blockSize, shape.extentCount, shape.extentSize]
      exact short
  case neg =>
    obtain ⟨writes, chunk⟩ := @chunkWrites_ok region.blockSize
      (buffer ++ List.replicate (chunkSize - buffer.length) 0)
      (extentFromOffset region.extentSize offset (buffer.length / region.blockSize)) 0
      (by rw [extentFromOffset_length, Nat.zero_add, ← whole, List.length_append]; omega)
    exact importLoop_refused filled empty chunk (regionWrite_chunk_past started (by omega) chunk)

namespace Region

variable (region : Region)

theorem spacePerExtent_pos : 0 < region.spacePerExtent :=
  Nat.mul_pos region.extentSizePos region.blockSize_pos

/-- `extents_needed` extents hold the whole file. -/
theorem extentsNeeded_cover (fileSize : Nat) :
    fileSize ≤ region.extentsNeeded fileSize * region.spacePerExtent := by
  have split := Nat.div_add_mod fileSize region.spacePerExtent
  have below := Nat.mod_lt fileSize region.spacePerExtent_pos
  have swap := Nat.mul_comm region.spacePerExtent (fileSize / region.spacePerExtent)
  unfold extentsNeeded
  split_ifs <;> rw [Nat.add_mul] <;> omega

/-- One extent fewer than `extents_needed` does not hold the file. -/
theorem extentsNeeded_tight (fileSize : Nat) (needed : 0 < region.extentsNeeded fileSize) :
    (region.extentsNeeded fileSize - 1) * region.spacePerExtent < fileSize := by
  have split := Nat.div_add_mod fileSize region.spacePerExtent
  have swap := Nat.mul_comm region.spacePerExtent (fileSize / region.spacePerExtent)
  unfold extentsNeeded at needed ⊢
  split_ifs at needed ⊢ with unaligned
  · rw [Nat.add_sub_cancel]
    omega
  · rw [Nat.add_zero] at needed ⊢
    have lower := Nat.le_mul_of_pos_left region.spacePerExtent needed
    have positive := region.spacePerExtent_pos
    rw [Nat.sub_mul, Nat.one_mul]
    omega

end Region

/-- Two regions of one block size pad alike. -/
theorem Region.padded_of_blockSize {region region' : Region}
    (blockSize : region'.blockSize = region.blockSize) : region'.padded = region.padded := by
  funext bytes
  rw [Region.padded, blockSize, Region.padded]

/--
The region `downstairs_import` copies into: the given one grown to the extents the
file needs, whose new extents hold zeros, with room for every block of the padded
file.
-/
theorem downstairsImport_extended (region : Region) (f : File)
    (fits : region.extentsNeeded f.data.length < 2 ^ 32) :
    ∃ extended : Region, downstairsImport region f = importLoop extended f 0 ∧
      extended.blockSize = region.blockSize ∧ extended.extentSize = region.extentSize ∧
      extended.extentCount = max region.extentCount (region.extentsNeeded f.data.length) ∧
      (f.data.length + region.blockSize - 1) / region.blockSize ≤
        extended.extentCount * extended.extentSize ∧
      ∀ b < extended.extentCount * extended.extentSize, extended.linear b =
        if b < region.extentCount * region.extentSize then region.linear b
        else List.replicate region.blockSize 0 := by
  have chosen : downstairsImport region f =
      importLoop (if region.extentCount < region.extentsNeeded f.data.length then
        region.extend (region.extentsNeeded f.data.length) else region) f 0 := by
    simp only [downstairsImport, Nat.mod_eq_of_lt fits]
  have cover := region.extentsNeeded_cover f.data.length
  rw [Region.spacePerExtent, ← Nat.mul_assoc] at cover
  have room := ceil_le_of_le_mul region.blockSize_pos cover
  generalize region.extentsNeeded f.data.length = needed at chosen room ⊢
  by_cases short : region.extentCount < needed
  · rw [if_pos short] at chosen
    refine ⟨region.extend needed, chosen, rfl, rfl, (max_eq_right short.le).symm, room,
      fun b _ => ?_⟩
    simp only [Region.linear, Region.extend, Nat.div_lt_iff_lt_mul region.extentSizePos]
  · rw [if_neg short] at chosen
    exact ⟨region, chosen, rfl, rfl, (max_eq_left (Nat.le_of_not_lt short)).symm,
      room.trans (Nat.mul_le_mul_right _ (Nat.le_of_not_lt short)), fun b inside => (if_pos inside).symm⟩

/--
For a file needing fewer than `2 ^ 32` extents, `downstairs_import` goes through,
keeps the geometry, leaves room for every block of the padded file, and stores
each of them at its linear position.
-/
theorem downstairsImport_eq (region : Region) (f : File)
    (fits : region.extentsNeeded f.data.length < 2 ^ 32) :
    ∃ imported, downstairsImport region f = .ok imported ∧
      imported.blockSize = region.blockSize ∧
      (f.data.length + region.blockSize - 1) / region.blockSize ≤
        imported.extentCount * imported.extentSize ∧
      ∀ b < (f.data.length + region.blockSize - 1) / region.blockSize,
        imported.linear b = blockAt region.blockSize (region.padded f.data) b := by
  obtain ⟨extended, chosen, blockSize, -, -, room, -⟩ := downstairsImport_extended region f fits
  have padded := Region.padded_of_blockSize blockSize
  obtain ⟨imported, loop, shape, contents⟩ := importLoop_eq f.data extended f 0 (by simp)
    (by rw [padded, blockSize, region.padded_blocks]; exact room)
  rw [padded, blockSize, region.padded_blocks] at contents
  refine ⟨imported, chosen.trans loop, by rw [shape.blockSize, blockSize], ?_, fun b inside => ?_⟩
  · rw [shape.extentCount, shape.extentSize]
    exact room
  · rw [contents b, if_pos ⟨Nat.zero_le b, inside⟩]

/--
Everything `downstairs_import` does to the region, for a file needing fewer than
`2 ^ 32` extents.  It goes through, keeps the block and extent sizes, and grows the
extent count to what the file needs, never shrinking it.  Block `b` then holds block `b` of the zero-padded file for
`b < ⌈L / block_size⌉`; every later block holds what the region held there, or
zeros in an extent the import added.
-/
theorem downstairsImport_blocks (region : Region) (f : File)
    (fits : region.extentsNeeded f.data.length < 2 ^ 32) :
    ∃ imported, downstairsImport region f = .ok imported ∧
      imported.blockSize = region.blockSize ∧ imported.extentSize = region.extentSize ∧
      imported.extentCount = max region.extentCount (region.extentsNeeded f.data.length) ∧
      ∀ b < imported.extentCount * imported.extentSize, imported.linear b =
        if b < (f.data.length + region.blockSize - 1) / region.blockSize then
          blockAt region.blockSize (region.padded f.data) b
        else if b < region.extentCount * region.extentSize then region.linear b
        else List.replicate region.blockSize 0 := by
  obtain ⟨extended, chosen, blockSize, extentSize, count, room, grown⟩ :=
    downstairsImport_extended region f fits
  have padded := Region.padded_of_blockSize blockSize
  obtain ⟨imported, loop, shape, contents⟩ := importLoop_eq f.data extended f 0 (by simp)
    (by rw [padded, blockSize, region.padded_blocks]; exact room)
  rw [padded, blockSize, region.padded_blocks] at contents
  refine ⟨imported, chosen.trans loop, by rw [shape.blockSize, blockSize],
    by rw [shape.extentSize, extentSize], by rw [shape.extentCount, count], fun b inside => ?_⟩
  rw [shape.extentCount, shape.extentSize] at inside
  rw [contents b, ← grown b inside]
  simp only [Nat.zero_le, true_and]

/-- A region of 512-byte blocks, two to an extent, with no extents yet. -/
def emptyRegion : Region := ⟨9, 2, 0, fun _ _ => [], by decide, by decide⟩

/-- Three bytes that the file hands out one at a time. -/
def trickleFile : File := ⟨[7, 7, 7], [1, 1, 1], by decide⟩

theorem downstairsImport_blocks_trickle :
    emptyRegion.extentsNeeded trickleFile.data.length < 2 ^ 32 ∧
      ∃ imported, downstairsImport emptyRegion trickleFile = .ok imported ∧
        imported.blockSize = emptyRegion.blockSize ∧
        imported.extentSize = emptyRegion.extentSize ∧
        imported.extentCount =
          max emptyRegion.extentCount (emptyRegion.extentsNeeded trickleFile.data.length) ∧
        ∀ b < imported.extentCount * imported.extentSize, imported.linear b =
          if b < (trickleFile.data.length + emptyRegion.blockSize - 1) / emptyRegion.blockSize then
            blockAt emptyRegion.blockSize (emptyRegion.padded trickleFile.data) b
          else if b < emptyRegion.extentCount * emptyRegion.extentSize then emptyRegion.linear b
          else List.replicate emptyRegion.blockSize 0 :=
  ⟨by decide, downstairsImport_blocks emptyRegion trickleFile (by decide)⟩

/-- The pairs the export visits are the linear positions in order. -/
theorem extentBlocks_eq (region : Region) :
    region.extentBlocks = (List.range (region.extentCount * region.extentSize)).map
      fun b => (b / region.extentSize, b % region.extentSize) := by
  unfold Region.extentBlocks
  induction region.extentCount with
  | zero => simp
  | succ extents step =>
      rw [List.range_succ, List.flatMap_append, step, Nat.succ_mul, List.range_add, List.map_append,
        List.map_map, List.flatMap_singleton]
      congr 1
      refine List.map_congr_left fun blockOffset member => ?_
      rw [List.mem_range] at member
      simp only [Function.comp, Nat.add_comm (extents * region.extentSize),
        Nat.add_mul_div_right _ _ region.extentSizePos, Nat.add_mul_mod_self_right,
        Nat.div_eq_of_lt member, Nat.mod_eq_of_lt member, Nat.zero_add]

/-- Every pair the export visits names a block of the region. -/
theorem Region.extentBlocks_inside (region : Region) {pair : Nat × Nat} (member : pair ∈ region.extentBlocks) :
    pair.1 < region.extentCount ∧ pair.2 < region.extentSize := by
  obtain ⟨eid, extentInside, blockOffset, blockInside, rfl⟩ : ∃ eid < region.extentCount,
      ∃ blockOffset < region.extentSize, (eid, blockOffset) = pair := by
    simpa [Region.extentBlocks] using member
  exact ⟨extentInside, blockInside⟩

/-- A read of a block of the region returns what the block holds. -/
theorem Region.regionRead_inside (region : Region) {eid blockOffset : Nat}
    (extentInside : eid < region.extentCount) (blockInside : blockOffset < region.extentSize) :
    region.regionRead ⟨eid, blockOffset⟩ = .ok (region.blocks eid blockOffset) := by
  simp only [Region.regionRead, Region.checkInput, if_neg (Nat.not_le.mpr extentInside),
    if_neg (Nat.not_le.mpr blockInside)]
  rfl

/--
With `copied` blocks written, the export loops copy the next `count - copied` pairs
whose skip test passes.
-/
theorem exportBlocks_filter (region : Region) (startBlock count : Nat) (pairs : List (Nat × Nat))
    {copied : Nat} (below : copied < count)
    (inside : ∀ pair ∈ pairs, pair.1 < region.extentCount ∧ pair.2 < region.extentSize) :
    exportBlocks region startBlock count pairs copied =
      .ok (((pairs.filter fun pair => startBlock ≤ region.spacePerExtent * pair.1 + pair.2).take
        (count - copied)).flatMap fun pair => region.blocks pair.1 pair.2) := by
  induction pairs generalizing copied with
  | nil =>
      rw [List.filter_nil, List.take_nil, List.flatMap_nil]
      rfl
  | cons pair rest step =>
      obtain ⟨eid, blockOffset⟩ := pair
      obtain ⟨extentInside, blockInside⟩ : eid < region.extentCount ∧
          blockOffset < region.extentSize := inside _ (List.mem_cons_self _ _)
      have insideRest := fun pair member => inside pair (List.mem_cons_of_mem _ member)
      by_cases reaches : startBlock ≤ region.spacePerExtent * eid + blockOffset
      · rw [List.filter_cons_of_pos (by simpa using reaches),
          show count - copied = count - (copied + 1) + 1 by omega, List.take_succ_cons,
          List.flatMap_cons]
        simp only [exportBlocks, if_pos reaches, region.regionRead_inside extentInside blockInside]
        split_ifs with last
        · rw [show count - (copied + 1) = 0 by omega, List.take_zero, List.flatMap_nil,
            List.append_nil]
        · rw [step (by omega) insideRest]
          rfl
      · rw [List.filter_cons_of_neg (by simpa using reaches)]
        simp only [exportBlocks, if_neg reaches]
        exact step below insideRest

/-- On a region with extents the export copies at least one block. -/
theorem Region.exportCount_pos (region : Region) (count : Nat) (extents : 0 < region.extentCount) :
    0 < if count = 0 then region.extentSize * region.extentCount else count := by
  split_ifs
  · exact Nat.mul_pos region.extentSizePos extents
  · omega

/--
`downstairs_export` writes the blocks of `exportedBlocks`, in order, for any start
block; a count of 0 stands for every block of the region.
-/
theorem downstairsExport_eq_exported (region : Region) (startBlock count : Nat)
    (extents : 0 < region.extentCount) :
    downstairsExport region startBlock count =
      .ok ((region.exportedBlocks startBlock
        (if count = 0 then region.extentSize * region.extentCount else count)).flatMap
          region.linear) := by
  simp only [downstairsExport, if_neg (Nat.pos_iff_ne_zero.mp extents)]
  rw [exportBlocks_filter region _ _ _ (region.exportCount_pos count extents)
      fun _ => region.extentBlocks_inside, Nat.sub_zero,
    extentBlocks_eq, List.filter_map, ← List.map_take, List.flatMap_map]
  rfl

/-- Exporting `count` blocks from block 0 writes the first `count` linear blocks. -/
theorem downstairsExport_eq (region : Region) {count : Nat} (positive : 0 < count)
    (room : count ≤ region.extentCount * region.extentSize) :
    downstairsExport region 0 count = .ok ((List.range count).flatMap region.linear) := by
  have extents : 0 < region.extentCount := Nat.pos_of_ne_zero fun none => by
    rw [none, Nat.zero_mul] at room
    omega
  rw [downstairsExport_eq_exported region 0 count extents, if_neg (by omega),
    Region.exportedBlocks, List.filter_eq_self.mpr fun b _ => by simp [Region.exportReaches],
    List.take_range, min_eq_left room]

/-- The blocks of a byte string, in order, give back its first whole blocks. -/
theorem flatMap_blockAt (blockSize : Nat) (bytes : List UInt8) (n : Nat) :
    (List.range n).flatMap (blockAt blockSize bytes) = bytes.take (n * blockSize) := by
  induction n with
  | zero => simp
  | succ n step =>
      rw [List.range_succ, List.flatMap_append, step, List.flatMap_singleton, Nat.succ_mul,
        List.take_add]
      rfl

/--
Importing a file of `L ≥ 1` bytes into any region and exporting
`⌈L / block_size⌉` blocks from block 0 writes out exactly the file's bytes
followed by zeros to the next block boundary, whatever the short reads, as long
as the file needs fewer than `2 ^ 32` extents.
-/
theorem import_export_round_trip (region : Region) (f : File) (nonempty : 0 < f.data.length)
    (fits : region.extentsNeeded f.data.length < 2 ^ 32) :
    ∃ imported, downstairsImport region f = .ok imported ∧
      downstairsExport imported 0 ((f.data.length + region.blockSize - 1) / region.blockSize) =
        .ok (region.padded f.data) := by
  obtain ⟨imported, imported_eq, blockSize, room, contents⟩ := downstairsImport_eq region f fits
  refine ⟨imported, imported_eq, ?_⟩
  rw [downstairsExport_eq imported (Nat.div_pos (by omega) region.blockSize_pos) room,
    List.flatMap_congr fun b member => contents b (List.mem_range.mp member), flatMap_blockAt,
    ← region.padded_length, List.take_length]

theorem import_export_round_trip_trickle :
    0 < trickleFile.data.length ∧ emptyRegion.extentsNeeded trickleFile.data.length < 2 ^ 32 ∧
      ∃ imported, downstairsImport emptyRegion trickleFile = .ok imported ∧
        downstairsExport imported 0
            ((trickleFile.data.length + emptyRegion.blockSize - 1) / emptyRegion.blockSize) =
          .ok (emptyRegion.padded trickleFile.data) :=
  ⟨by decide, by decide, import_export_round_trip emptyRegion trickleFile (by decide) (by decide)⟩

/--
A file that needs `2 ^ 32` extents or more, imported into a region with fewer, is
refused: `extents_needed as u32` extends the region to fewer extents than the file
needs, and the first write past them fails with an invalid extent.
-/
theorem downstairsImport_wrapped (region : Region) (f : File)
    (wraps : 2 ^ 32 ≤ region.extentsNeeded f.data.length)
    (fewer : region.extentCount < region.extentsNeeded f.data.length) :
    downstairsImport region f = .error (.region .invalidExtent) := by
  have chosen : downstairsImport region f =
      importLoop (region.extend (region.extentsNeeded f.data.length % 2 ^ 32)) f 0 := by
    simp only [downstairsImport, if_pos fewer]
  have wrapped : region.extentsNeeded f.data.length % 2 ^ 32 ≤
      region.extentsNeeded f.data.length - 1 := by
    have := Nat.mod_lt (region.extentsNeeded f.data.length) (Nat.two_pow_pos 32)
    omega
  have short : region.extentsNeeded f.data.length % 2 ^ 32 * region.extentSize <
      (region.padded f.data).length / region.blockSize :=
    Nat.lt_of_mul_lt_mul_right <| calc
      region.extentsNeeded f.data.length % 2 ^ 32 * region.extentSize * region.blockSize
          ≤ (region.extentsNeeded f.data.length - 1) * region.extentSize * region.blockSize :=
        Nat.mul_le_mul_right _ (Nat.mul_le_mul_right _ wrapped)
      _ = (region.extentsNeeded f.data.length - 1) * region.spacePerExtent := by
        rw [Region.spacePerExtent, Nat.mul_assoc]
      _ < f.data.length := region.extentsNeeded_tight f.data.length (by omega)
      _ ≤ (region.padded f.data).length := by
        simp only [Region.padded, List.length_append]
        omega
      _ = (region.padded f.data).length / region.blockSize * region.blockSize :=
        (Nat.div_mul_cancel (Nat.dvd_of_mod_eq_zero (region.padded_aligned _))).symm
  rw [chosen]
  exact importLoop_short f.data _ f 0 (by simp) (Nat.zero_le _) short

/-- A file of `2 ^ 32` extents of `emptyRegion` and one byte more, read in one go. -/
def wideFile : File := ⟨List.replicate (2 ^ 32 * 1024 + 1) 0, [], by decide⟩

/--
`wideFile` needs `2 ^ 32 + 1` extents of `emptyRegion`: the cast to `u32` extends the
region to one extent, and the import fails.
-/
theorem wideFile_import_fails :
    0 < wideFile.data.length ∧
      downstairsImport emptyRegion wideFile = .error (.region .invalidExtent) := by
  have length : wideFile.data.length = 2 ^ 32 * 1024 + 1 := List.length_replicate _ _
  refine ⟨by omega, downstairsImport_wrapped emptyRegion wideFile ?_ ?_⟩ <;> rw [length] <;> decide

/-! ## Exports from a later start block -/

/-- The blocks from `startBlock` below `total` are the `total - startBlock` blocks from `startBlock`. -/
theorem filter_range_le (startBlock total : Nat) :
    (List.range total).filter (fun b => decide (startBlock ≤ b)) =
      List.range' startBlock (total - startBlock) := by
  induction total with
  | zero => rw [List.range_zero, List.filter_nil, Nat.zero_sub, List.range'_zero]
  | succ total step =>
      rw [List.range_succ, List.filter_append, step]
      by_cases reached : startBlock ≤ total
      · simp only [List.filter, decide_eq_true reached]
        rw [show total + 1 - startBlock = total - startBlock + 1 by omega, List.range'_concat,
          Nat.one_mul, Nat.add_sub_cancel' reached]
      · simp only [List.filter, decide_eq_false reached, List.append_nil]
        rw [show total + 1 - startBlock = total - startBlock by omega]

namespace Region

variable (region : Region)

/-- The skip test's sum is at least the linear index, so no block from `start_block` on is skipped. -/
theorem exportReaches_of_le {startBlock b : Nat} (reached : startBlock ≤ b) :
    region.exportReaches startBlock b := by
  have widened : region.extentSize * (b / region.extentSize) ≤
      region.spacePerExtent * (b / region.extentSize) :=
    Nat.mul_le_mul_right _ (Nat.le_mul_of_pos_right _ region.blockSize_pos)
  have split := Nat.div_add_mod b region.extentSize
  simp only [exportReaches, decide_eq_true_eq]
  omega

/-- In the first extent the skip test compares the block itself with `start_block`. -/
theorem exportReaches_firstExtent {startBlock b : Nat} (first : b < region.extentSize) :
    region.exportReaches startBlock b = decide (startBlock ≤ b) := by
  rw [exportReaches, Nat.div_eq_of_lt first, Nat.mul_zero, Nat.zero_add, Nat.mod_eq_of_lt first]

/--
From a start block in the first extent, or with one-byte blocks, the skip test passes
at exactly the blocks from `start_block` on.
-/
theorem exportReaches_iff {startBlock : Nat}
    (early : startBlock ≤ region.extentSize ∨ region.blockSize = 1) (b : Nat) :
    region.exportReaches startBlock b = decide (startBlock ≤ b) := by
  rcases early with firstExtent | oneByte
  · by_cases later : region.extentSize ≤ b
    · rw [region.exportReaches_of_le (by omega), decide_eq_true (by omega)]
    · exact region.exportReaches_firstExtent (Nat.lt_of_not_le later)
  · rw [exportReaches, spacePerExtent, oneByte, Nat.mul_one, Nat.div_add_mod]

/--
From a start block in the first extent, or with one-byte blocks, the export copies the
blocks from `start_block` on, `count` of them or up to the end of the region.
-/
theorem exportedBlocks_window {startBlock : Nat}
    (early : startBlock ≤ region.extentSize ∨ region.blockSize = 1) (count : Nat) :
    region.exportedBlocks startBlock count =
      List.range' startBlock (min count (region.extentCount * region.extentSize - startBlock)) := by
  rw [exportedBlocks, List.filter_congr fun b _ => region.exportReaches_iff early b,
    filter_range_le, List.range'_eq_map_range, ← List.map_take, List.take_range,
    ← List.range'_eq_map_range]

end Region

/-- Two extents of two 512-byte blocks, block `b` filled with the byte `b`. -/
def numberedRegion : Region :=
  ⟨9, 2, 2, fun eid offset => List.replicate 512 (UInt8.ofNat (2 * eid + offset)), by decide,
    by decide⟩

/--
From a start block in the first extent, or with one-byte blocks, `downstairs_export`
writes each block from `start_block` on once and in order, `count` of them (every block
for a count of 0) or up to the end of the region.
-/
theorem downstairsExport_window (region : Region) {startBlock : Nat} (count : Nat)
    (extents : 0 < region.extentCount)
    (early : startBlock ≤ region.extentSize ∨ region.blockSize = 1) :
    downstairsExport region startBlock count =
      .ok ((List.range' startBlock
        (min (if count = 0 then region.extentSize * region.extentCount else count)
          (region.extentCount * region.extentSize - startBlock))).flatMap region.linear) := by
  rw [downstairsExport_eq_exported region startBlock count extents,
    region.exportedBlocks_window early]

theorem downstairsExport_window_numbered :
    0 < numberedRegion.extentCount ∧
      (1 ≤ numberedRegion.extentSize ∨ numberedRegion.blockSize = 1) ∧
      downstairsExport numberedRegion 1 2 =
        .ok ((List.range' 1 (min (if 2 = 0 then numberedRegion.extentSize *
          numberedRegion.extentCount else 2) (numberedRegion.extentCount *
            numberedRegion.extentSize - 1))).flatMap numberedRegion.linear) :=
  ⟨by decide, .inl (by decide), downstairsExport_window numberedRegion 2 (by decide) (.inl (by decide))⟩

/--
Exporting one block from start block 3 of `numberedRegion` writes block 2, not block 3,
and exporting every block from there writes blocks 2 and 3.
-/
theorem exportFromBlockThree_writesBlockTwo :
    downstairsExport numberedRegion 3 1 = .ok (numberedRegion.linear 2) ∧
      downstairsExport numberedRegion 3 1 ≠
        .ok ((List.range' 3 1).flatMap numberedRegion.linear) ∧
      downstairsExport numberedRegion 3 0 =
        .ok ((List.range' 2 2).flatMap numberedRegion.linear) := by
  have fromThree : downstairsExport numberedRegion 3 1 = .ok (numberedRegion.linear 2) := rfl
  refine ⟨fromThree, fun claimed => ?_, rfl⟩
  rw [fromThree] at claimed
  exact absurd (Except.ok.inj claimed) (by decide)

end CrucibleDownstairs
