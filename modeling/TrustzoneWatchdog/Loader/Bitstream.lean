/-
**`validateBitstream`** (`drivers/zynqmp_csu_pcap.c`).

The function looks for the first dummy byte `0xFF` with one of two sync patterns 64 bytes behind it,
sets the byte order of the DMA by the pattern and moves the bitstream to the front of its buffer. It
starts at each of the offsets `0 … 0x100`, and checks the length of the buffer for the first of them
only. `findHeader` is its loop; the reads of the loop and of the final copy are recorded in the
trace. The memory goes on behind the buffer, with whatever is there.

* `findHeader_found`, `findHeader_none`: where the loop ends.
* `headerStripped`: what the function does to a buffer of 340 bytes or more.
* `readsByte_search`: exactly the bytes the search reads. Which bytes of a pattern are compared
  depends on whether `memcmp` takes longs, and so on the addresses.
* `scanInBounds_iff`: when all of them lie in the buffer. `scanInBounds_refuted`: 84 zeros.
-/

import TrustzoneWatchdog.Lib.Loop
import TrustzoneWatchdog.Loader.Newlib

namespace TrustzoneWatchdog.Loader

open TrustzoneWatchdog.Lib.Loop TrustzoneWatchdog.Lib.Memory

def dummyByte : Byte := 0xFF#8

def syncBytePosition : Nat := 64

def vivadoBitHeader : Nat := 0x100

def vivadoBinFormat : List Byte :=
  [0x00#8, 0x00#8, 0x00#8, 0xBB#8, 0x11#8, 0x22#8, 0x00#8, 0x44#8, 0xFF#8, 0xFF#8, 0xFF#8, 0xFF#8,
    0xFF#8, 0xFF#8, 0xFF#8, 0xFF#8, 0xAA#8, 0x99#8, 0x55#8, 0x66#8]

def bootgenBinFormat : List Byte :=
  [0xBB#8, 0x00#8, 0x00#8, 0x00#8, 0x44#8, 0x00#8, 0x22#8, 0x11#8, 0xFF#8, 0xFF#8, 0xFF#8, 0xFF#8,
    0xFF#8, 0xFF#8, 0xFF#8, 0xFF#8, 0x66#8, 0x55#8, 0x99#8, 0xAA#8]

def bitHdrSize : Nat := bootgenBinFormat.length

inductive BinFormat
  | bootgen
  | vivado
  deriving DecidableEq, Repr

/-- Byte `k` of the pattern. -/
def BinFormat.byte (format : BinFormat) (k : Nat) : Byte :=
  match format with
  | .bootgen => bootgenBinFormat.getD k 0#8
  | .vivado => vivadoBinFormat.getD k 0#8

/-- Where the buffer and the two patterns are, and whether `memcmp.c` and `memcpy.c` are built for
size. -/
structure Placement where
  bufVa : Nat
  formatVa : BinFormat → Nat
  memcmpForSize : Bool
  memcpyForSize : Bool

/-- `memcmp(&buf[index + SYNC_BYTE_POSITION], format, bitHdrSize)`. -/
def compareFormat (place : Placement) (buf : Nat → Byte) (index : Nat) (format : BinFormat) :
    Int × List (Nat × Nat) :=
  memcmp (fun k => buf (index + syncBytePosition + k)) format.byte place.memcmpForSize
    (place.bufVa + (index + syncBytePosition)) (place.formatVa format) bitHdrSize

/-- One round of the search: the next index, or the one at which it stops and the result of setting
the byte order. -/
def searchRound (dmaVa : Bool) (place : Placement) (buf : Nat → Byte) :
    Nat × St → Round (Nat × St) (Nat × St × TeeResult)
  | (index, st) =>
    let st := st.emit (.read index 1)
    if buf index = dummyByte then
      let (bootgen, reads) := compareFormat place buf index .bootgen
      let st := st.emitReads (index + syncBytePosition) reads
      if bootgen = 0 then .leave (index, zynqmpCsudmaUnprepare dmaVa st)
      else
        let (vivado, reads) := compareFormat place buf index .vivado
        let st := st.emitReads (index + syncBytePosition) reads
        if vivado = 0 then .leave (index, zynqmpCsudmaPrepare dmaVa st) else .again (index + 1, st)
    else .again (index + 1, st)

/-- `for (index = 0; index <= VIVADO_BIT_HEADER; index++)`. -/
def findHeader (dmaVa : Bool) (place : Placement) (buf : Nat → Byte) (st : St) :
    Nat × St × TeeResult :=
  match rounds (searchRound dmaVa place buf) (vivadoBitHeader + 1) (0, st) with
  | .again (index, st) => (index, st, teeErrorBadFormat)
  | .leave found => found

/-- What `validateBitstream` returns and leaves in its arguments. -/
structure Validated where
  ret : TeeResult
  buf : Nat → Byte
  len : BitVec 64
  st : St

/-- "remove vivado header": move what follows it to the front of the buffer. -/
def Validated.removeHeader (place : Placement) (index : Nat) (v : Validated) : Validated :=
  if index ≠ 0 then
    let rest := v.len - BitVec.ofNat 64 index
    { v with
      buf := memcpy place.memcpyForSize place.bufVa v.buf 0 index rest.toNat
      len := rest
      st := v.st.emit (.read index rest.toNat) }
  else v

def validateBitstream (dmaVa : Bool) (place : Placement) (buf : Nat → Byte) (len : BitVec 64)
    (st : St) : Validated :=
  if len.toNat < syncBytePosition + bitHdrSize then ⟨teeErrorBadParameters, buf, len, st⟩
  else
    let (index, st, ret) := findHeader dmaVa place buf st
    let v : Validated := ⟨ret, buf, len, st⟩
    if ret = teeSuccess then v.removeHeader place index else v

/-! ### Headers -/

/-- A dummy byte, and the pattern behind it. -/
def HeaderAt (buf : Nat → Byte) (format : BinFormat) (i : Nat) : Prop :=
  buf i = dummyByte ∧ ∀ k < bitHdrSize, buf (i + syncBytePosition + k) = format.byte k

instance (buf : Nat → Byte) (format : BinFormat) (i : Nat) : Decidable (HeaderAt buf format i) :=
  inferInstanceAs (Decidable (_ ∧ _))

/-- No header starts before `i`. -/
def NoneBefore (buf : Nat → Byte) (i : Nat) : Prop := ∀ j < i, ∀ format, ¬ HeaderAt buf format j

section Search

variable {dmaVa : Bool} {place : Placement} {buf : Nat → Byte} {st : St}

theorem compareFormat_eq_zero {i : Nat} {format : BinFormat} :
    (compareFormat place buf i format).1 = 0 ↔
      ∀ k < bitHdrSize, buf (i + syncBytePosition + k) = format.byte k :=
  memcmp_eq_zero ..

/-- The patterns differ in their first byte. -/
theorem HeaderAt.unique {i : Nat} {format format' : BinFormat} (header : HeaderAt buf format i)
    (header' : HeaderAt buf format' i) : format = format' := by
  have first := (header.2 0 (by decide)).symm.trans (header'.2 0 (by decide))
  revert first
  cases format <;> cases format' <;> decide

/-- Which of the two functions of the DMA is called. -/
def BinFormat.setEndian (dmaVa : Bool) (st : St) : BinFormat → St × TeeResult
  | .bootgen => zynqmpCsudmaUnprepare dmaVa st
  | .vivado => zynqmpCsudmaPrepare dmaVa st

variable (place buf) in
/-- The reads of one comparison. -/
def compareEvents (index : Nat) (format : BinFormat) : List Event :=
  (compareFormat place buf index format).2.map fun access =>
    .read (index + syncBytePosition + access.1) access.2

variable (place buf) in
/-- The reads of one round. -/
def roundEvents (index : Nat) : List Event :=
  .read index 1 ::
    if buf index = dummyByte then
      compareEvents place buf index .bootgen ++
        if (compareFormat place buf index .bootgen).1 = 0 then []
        else compareEvents place buf index .vivado
    else []

variable (place buf st) in
/-- The search before round `i`. -/
def searched (i : Nat) : Nat × St :=
  (i, { st with trace := st.trace ++ (List.range i).flatMap (roundEvents place buf) })

variable (place) in
/-- With a dummy byte, the comparison decides whether there is a header. -/
theorem compareFormat_header {i : Nat} (dummy : buf i = dummyByte) (format : BinFormat) :
    (compareFormat place buf i format).1 = 0 ↔ HeaderAt buf format i :=
  compareFormat_eq_zero.trans (and_iff_right dummy).symm

variable (dmaVa) in
theorem searchRound_none {i : Nat} (absent : ∀ format, ¬ HeaderAt buf format i) :
    searchRound dmaVa place buf (searched place buf st i) =
      .again (searched place buf st (i + 1)) := by
  by_cases dummy : buf i = dummyByte
  · have bootgen := (compareFormat_header place dummy .bootgen).not.mpr (absent _)
    have vivado := (compareFormat_header place dummy .vivado).not.mpr (absent _)
    simp [searchRound, searched, dummy, bootgen, vivado, roundEvents, compareEvents, St.emit,
      St.emitReads, List.range_succ]
  · simp [searchRound, searched, dummy, roundEvents, St.emit, List.range_succ]

theorem searchRound_found {i : Nat} {format : BinFormat} (header : HeaderAt buf format i) :
    searchRound dmaVa place buf (searched place buf st i) =
      .leave (i, format.setEndian dmaVa (searched place buf st (i + 1)).2) := by
  have dummy := header.1
  have here := (compareFormat_header place dummy format).mpr header
  cases format with
  | bootgen =>
    simp [searchRound, searched, dummy, here, roundEvents, compareEvents, BinFormat.setEndian,
      St.emit, St.emitReads, List.range_succ]
  | vivado =>
    have bootgen : ¬ (compareFormat place buf i .bootgen).1 = 0 := fun zero =>
      absurd (header.unique ((compareFormat_header place dummy .bootgen).mp zero)) (by decide)
    simp [searchRound, searched, dummy, here, bootgen, roundEvents, compareEvents,
      BinFormat.setEndian, St.emit, St.emitReads, List.range_succ]

theorem searched_zero : searched place buf st 0 = (0, st) := by
  simp [searched]

/-- **The search stops at the first header.** -/
theorem findHeader_found {i : Nat} {format : BinFormat} (inside : i ≤ vivadoBitHeader)
    (header : HeaderAt buf format i) (first : NoneBefore buf i) :
    findHeader dmaVa place buf st =
      (i, format.setEndian dmaVa (searched place buf st (i + 1)).2) := by
  have left := rounds_leave (searched place buf st)
    (fun k below => searchRound_none dmaVa (first k below)) (searchRound_found header)
    (Nat.lt_succ_of_le inside)
  rw [searched_zero] at left
  rw [findHeader, left]

/-- **Without a header the search runs to its end.** -/
theorem findHeader_none (absent : NoneBefore buf (vivadoBitHeader + 1)) :
    findHeader dmaVa place buf st = (vivadoBitHeader + 1,
      (searched place buf st (vivadoBitHeader + 1)).2, teeErrorBadFormat) := by
  have path := rounds_of_path (searched place buf st)
    (fun k below => searchRound_none dmaVa (absent k below)) 0
  rw [searched_zero, Nat.add_zero] at path
  rw [findHeader, path]
  rfl

/-- There is a first header in reach, or none. -/
theorem header_cases (buf : Nat → Byte) :
    (∃ i ≤ vivadoBitHeader, ∃ format, HeaderAt buf format i ∧ NoneBefore buf i) ∨
      NoneBefore buf (vivadoBitHeader + 1) := by
  by_cases any : ∃ i, i ≤ vivadoBitHeader ∧ ∃ format, HeaderAt buf format i
  · classical
    obtain ⟨inside, format, header⟩ := Nat.find_spec any
    refine Or.inl ⟨Nat.find any, inside, format, header, fun j earlier format' header' => ?_⟩
    exact Nat.find_min any earlier ⟨earlier.le.trans inside, format', header'⟩
  · right
    intro j below format header
    exact any ⟨j, Nat.lt_succ_iff.mp below, format, header⟩

end Search

/-! ### The header is stripped -/

section Strip

variable {place : Placement} {buf : Nat → Byte} {len : BitVec 64} {st : St}

variable (place buf len st) in
/-- What becomes of a buffer with a header of `i` bytes. -/
structure StrippedAt (i : Nat) (format : BinFormat) : Prop where
  moved : ∀ k < len.toNat - i, (validateBitstream true place buf len st).buf k = buf (i + k)
  shortened : (validateBitstream true place buf len st).len.toNat = len.toNat - i
  /-- The byte-swap bit is set for Vivado and cleared for Bootgen. -/
  byteOrder : (validateBitstream true place buf len st).st.srcEndian = decide (format = .vivado)

variable (place buf len st) in
/-- **What the function does**, with the DMA mapped. -/
structure HeaderStripped : Prop where
  succeeds : (validateBitstream true place buf len st).ret = teeSuccess ↔
    ∃ i ≤ vivadoBitHeader, ∃ format, HeaderAt buf format i
  stripped : ∀ i ≤ vivadoBitHeader, ∀ format, HeaderAt buf format i → NoneBefore buf i →
    StrippedAt place buf len st i format
  kept : (validateBitstream true place buf len st).ret ≠ teeSuccess →
    (validateBitstream true place buf len st).buf = buf ∧
    (validateBitstream true place buf len st).len = len ∧
    (validateBitstream true place buf len st).st.srcEndian = st.srcEndian

/-- With the DMA mapped, setting the byte order succeeds. -/
theorem BinFormat.setEndian_mapped (format : BinFormat) (st : St) :
    (format.setEndian true st).2 = teeSuccess ∧
      (format.setEndian true st).1.srcEndian = decide (format = .vivado) := by
  cases format <;> exact ⟨rfl, rfl⟩

theorem not_refused (long : 340 ≤ len.toNat) : ¬ len.toNat < syncBytePosition + bitHdrSize := by
  change ¬ len.toNat < 84
  omega

/-- `*len - index` does not wrap. -/
theorem toNat_rest {i : Nat} (long : 340 ≤ len.toNat) (inside : i ≤ vivadoBitHeader) :
    (len - BitVec.ofNat 64 i).toNat = len.toNat - i := by
  have small : i ≤ 256 := inside
  have index : (BitVec.ofNat 64 i).toNat = i := by
    rw [BitVec.toNat_ofNat]
    omega
  rw [BitVec.toNat_sub_of_le (by rw [BitVec.le_def, index]; omega), index]

theorem removeHeader_moved {i : Nat} {v : Validated} (long : 340 ≤ v.len.toNat)
    (inside : i ≤ vivadoBitHeader) : ∀ k < v.len.toNat - i,
    (v.removeHeader place i).buf k = v.buf (i + k) := by
  intro k below
  rw [Validated.removeHeader]
  split
  · have copied := memcpy_copied v.buf place.memcpyForSize place.bufVa
      (v.len - BitVec.ofNat 64 i).toNat (Nat.zero_le i)
    rw [← copied.inside k (by rwa [toNat_rest long inside]), Nat.zero_add]
  · rename_i zero
    rw [not_not.mp zero, Nat.zero_add]

theorem removeHeader_shortened {i : Nat} {v : Validated} (long : 340 ≤ v.len.toNat)
    (inside : i ≤ vivadoBitHeader) : (v.removeHeader place i).len.toNat = v.len.toNat - i := by
  rw [Validated.removeHeader]
  split
  · exact toNat_rest long inside
  · rename_i zero
    rw [not_not.mp zero, Nat.sub_zero]

theorem removeHeader_kept {i : Nat} {v : Validated} :
    (v.removeHeader place i).ret = v.ret ∧
      (v.removeHeader place i).st.srcEndian = v.st.srcEndian := by
  rw [Validated.removeHeader]
  split <;> exact ⟨rfl, rfl⟩

theorem validateBitstream_found {i : Nat} {format : BinFormat} (long : 340 ≤ len.toNat)
    (inside : i ≤ vivadoBitHeader) (header : HeaderAt buf format i) (first : NoneBefore buf i) :
    (validateBitstream true place buf len st).ret = teeSuccess ∧
      StrippedAt place buf len st i format := by
  obtain ⟨success, swapped⟩ := format.setEndian_mapped (searched place buf st (i + 1)).2
  have result : validateBitstream true place buf len st =
      Validated.removeHeader place i ⟨(format.setEndian true (searched place buf st (i + 1)).2).2,
        buf, len, (format.setEndian true (searched place buf st (i + 1)).2).1⟩ := by
    rw [validateBitstream, if_neg (not_refused long), findHeader_found inside header first]
    exact if_pos success
  refine ⟨?_, ?_, ?_, ?_⟩
  · rw [result]
    exact removeHeader_kept.1.trans success
  · rw [result]
    exact removeHeader_moved (v := ⟨_, buf, len, _⟩) long inside
  · rw [result]
    exact removeHeader_shortened (v := ⟨_, buf, len, _⟩) long inside
  · rw [result]
    exact removeHeader_kept.2.trans swapped

theorem validateBitstream_none (long : 340 ≤ len.toNat)
    (absent : NoneBefore buf (vivadoBitHeader + 1)) :
    validateBitstream true place buf len st =
      ⟨teeErrorBadFormat, buf, len, (searched place buf st (vivadoBitHeader + 1)).2⟩ := by
  rw [validateBitstream, if_neg (not_refused long), findHeader_none absent]
  rfl

/-- **The header is stripped** from every buffer in which all the positions looked at exist. -/
theorem headerStripped (place : Placement) (buf : Nat → Byte) (len : BitVec 64) (st : St)
    (long : 340 ≤ len.toNat) : HeaderStripped place buf len st := by
  refine ⟨⟨?_, ?_⟩, ?_, ?_⟩
  · intro success
    rcases header_cases buf with ⟨i, inside, format, header, _⟩ | absent
    · exact ⟨i, inside, format, header⟩
    · rw [validateBitstream_none long absent] at success
      exact absurd (show teeErrorBadFormat = teeSuccess from success) (by decide)
  · rintro ⟨j, inside, format, header⟩
    rcases header_cases buf with ⟨i, inside, format, header, first⟩ | absent
    · exact (validateBitstream_found long inside header first).1
    · exact absurd header (absent j (Nat.lt_succ_of_le inside) format)
  · intro i inside format header first
    exact (validateBitstream_found long inside header first).2
  · intro failed
    rcases header_cases buf with ⟨i, inside, format, header, first⟩ | absent
    · exact absurd (validateBitstream_found long inside header first).1 failed
    · rw [validateBitstream_none long absent]
      exact ⟨rfl, rfl, rfl⟩

/-- Three bytes, then dummy bytes and the Vivado pattern. -/
def vivadoBuffer (i : Nat) : Byte :=
  if i < 3 then 0#8 else if i < 67 then 0xFF#8 else BinFormat.vivado.byte (i - 67)

theorem headerStripped_vivado :
    340 ≤ (400#64).toNat ∧
    StrippedAt ⟨0, fun _ => 0, true, false⟩ vivadoBuffer 400#64 St.init 3 .vivado := by
  have header : HeaderAt vivadoBuffer .vivado 3 := by decide
  have other : ∀ j < 3, vivadoBuffer j ≠ dummyByte := by decide
  refine ⟨by decide, (headerStripped _ _ 400#64 _ (by decide)).stripped 3 (by decide) .vivado header
    fun j below _ earlier => ?_⟩
  exact other j below earlier.1

end Strip

/-! ### What the search reads -/

/-- The event reads this byte of the buffer. -/
def Event.Reads (byte : Nat) : Event → Prop
  | .read offset size => offset ≤ byte ∧ byte < offset + size
  | _ => False

/-- One of the events reads this byte. -/
def ReadsByte (events : List Event) (byte : Nat) : Prop := ∃ e ∈ events, e.Reads byte

section Scan

variable {dmaVa : Bool} {place : Placement} {buf : Nat → Byte} {len : BitVec 64} {st : St}

variable (dmaVa place buf len) in
/-- What the function records while it searches: nothing, when it refuses the length. -/
def searchEvents : List Event :=
  if len.toNat < syncBytePosition + bitHdrSize then []
  else (findHeader dmaVa place buf St.init).2.1.trace

variable (dmaVa place buf len) in
/-- **Every byte the search reads lies in the buffer.** -/
def ScanInBounds : Prop := ∀ byte, ReadsByte (searchEvents dmaVa place buf len) byte →
  byte < len.toNat

variable (place buf) in
/-- Byte `d` of the pattern is compared with the buffer at `i`: everything before the access to it
agrees. -/
def ComparesByte (i : Nat) (format : BinFormat) (d : Nat) : Prop :=
  d < bitHdrSize ∧ ∀ k < accessStart (comparesLongs place.memcmpForSize
      (place.bufVa + (i + syncBytePosition)) (place.formatVa format) bitHdrSize) bitHdrSize d,
    buf (i + syncBytePosition + k) = format.byte k

theorem touches_compareFormat {i : Nat} {format : BinFormat} {d : Nat} :
    Touches (compareFormat place buf i format).2 d ↔ ComparesByte place buf i format d :=
  touches_memcmp ..

theorem readsByte_append {first second : List Event} {byte : Nat} :
    ReadsByte (first ++ second) byte ↔ ReadsByte first byte ∨ ReadsByte second byte := by
  simp [ReadsByte, or_and_right, exists_or]

theorem readsByte_cons {e : Event} {events : List Event} {byte : Nat} :
    ReadsByte (e :: events) byte ↔ e.Reads byte ∨ ReadsByte events byte := by
  simp [ReadsByte]

theorem readsByte_compare {i : Nat} {format : BinFormat} {byte : Nat} :
    ReadsByte (compareEvents place buf i format) byte ↔
      ∃ d, ComparesByte place buf i format d ∧ byte = i + syncBytePosition + d := by
  constructor
  · rintro ⟨e, here, reads⟩
    obtain ⟨access, member, rfl⟩ := List.mem_map.mp here
    obtain ⟨lower, upper⟩ := reads
    obtain ⟨d, rfl⟩ := Nat.exists_eq_add_of_le ((Nat.le_add_right _ _).trans lower)
    exact ⟨d, touches_compareFormat.mp ⟨access, member, by omega, by omega⟩, rfl⟩
  · rintro ⟨d, compares, rfl⟩
    obtain ⟨access, member, lower, upper⟩ := touches_compareFormat.mpr compares
    exact ⟨_, List.mem_map_of_mem member, by dsimp only [Event.Reads]; omega⟩

/-- A pattern that matches is read to its end. -/
theorem comparesByte_of_zero {i : Nat} {format : BinFormat} {d : Nat}
    (zero : (compareFormat place buf i format).1 = 0) (inside : d < bitHdrSize) :
    ComparesByte place buf i format d := by
  have start : ∀ longs, accessStart longs bitHdrSize d ≤ d := by
    intro longs
    rw [accessStart]
    split
    · exact Nat.div_mul_le_self d longSize
    · exact le_rfl
  exact ⟨inside, fun k below => compareFormat_eq_zero.mp zero k
    ((below.trans_le (start _)).trans inside)⟩

/-- **The bytes one round reads.** Where the first pattern matches, the second is not compared: all
its bytes have been read. -/
theorem readsByte_round {i byte : Nat} :
    ReadsByte (roundEvents place buf i) byte ↔ byte = i ∨ buf i = dummyByte ∧
      ∃ format d, ComparesByte place buf i format d ∧ byte = i + syncBytePosition + d := by
  rw [roundEvents, readsByte_cons]
  refine or_congr ?_ ?_
  · dsimp only [Event.Reads]
    omega
  by_cases dummy : buf i = dummyByte
  · rw [if_pos dummy, and_iff_right dummy, readsByte_append, readsByte_compare]
    constructor
    · rintro (⟨d, compares, position⟩ | second)
      · exact ⟨.bootgen, d, compares, position⟩
      · split at second
        · exact absurd second (by simp [ReadsByte])
        · obtain ⟨d, compares, position⟩ := readsByte_compare.mp second
          exact ⟨.vivado, d, compares, position⟩
    · rintro ⟨format, d, compares, rfl⟩
      by_cases zero : (compareFormat place buf i .bootgen).1 = 0
      · -- the bytes the Vivado pattern would be compared with
        exact Or.inl ⟨d, comparesByte_of_zero zero compares.1, rfl⟩
      · rw [if_neg zero, readsByte_compare]
        cases format with
        | bootgen => exact Or.inl ⟨d, compares, rfl⟩
        | vivado => exact Or.inr ⟨d, compares, rfl⟩
  · rw [if_neg dummy]
    exact iff_of_false (by simp [ReadsByte]) fun both => dummy both.1

/-- No header before means none before anything earlier. -/
theorem NoneBefore.mono {i j : Nat} (absent : NoneBefore buf i) (earlier : j ≤ i) :
    NoneBefore buf j :=
  fun k below => absent k (lt_of_lt_of_le below earlier)

theorem setEndian_trace (format : BinFormat) (st : St) :
    (format.setEndian dmaVa st).1.trace = st.trace := by
  cases format <;> cases dmaVa <;> rfl

variable (dmaVa place buf) in
/-- The search goes as far as no header was found. -/
theorem findHeader_trace : ∃ last, (∀ i, i < last ↔ i ≤ vivadoBitHeader ∧ NoneBefore buf i) ∧
    ∀ st : St, (findHeader dmaVa place buf st).2.1.trace =
      st.trace ++ (List.range last).flatMap (roundEvents place buf) := by
  rcases header_cases buf with ⟨i, inside, format, header, first⟩ | absent
  · refine ⟨i + 1, fun j => ⟨fun below => ?_, fun ⟨_, before⟩ => ?_⟩, fun st => ?_⟩
    · exact ⟨(Nat.lt_succ_iff.mp below).trans inside, first.mono (Nat.lt_succ_iff.mp below)⟩
    · exact Nat.lt_succ_of_le (Nat.le_of_not_lt fun later => before i later format header)
    · rw [findHeader_found inside header first]
      exact setEndian_trace ..
  · refine ⟨vivadoBitHeader + 1, fun j => ⟨fun below => ?_, fun ⟨inside, _⟩ => ?_⟩, fun st => ?_⟩
    · exact ⟨Nat.lt_succ_iff.mp below, absent.mono below.le⟩
    · exact Nat.lt_succ_of_le inside
    · rw [findHeader_none absent]
      rfl

/-- **The bytes the search reads**: those of every round up to the first header. -/
theorem readsByte_search {byte : Nat} : ReadsByte (searchEvents dmaVa place buf len) byte ↔
    syncBytePosition + bitHdrSize ≤ len.toNat ∧ ∃ i ≤ vivadoBitHeader, NoneBefore buf i ∧
      ReadsByte (roundEvents place buf i) byte := by
  rw [searchEvents]
  split
  · rename_i refused
    exact iff_of_false (by simp [ReadsByte]) fun both => absurd both.1 (Nat.not_le.mpr refused)
  · rename_i enough
    obtain ⟨last, reached, trace⟩ := findHeader_trace dmaVa place buf
    rw [and_iff_right (Nat.le_of_not_lt enough), trace]
    change ReadsByte ((List.range last).flatMap (roundEvents place buf)) byte ↔ _
    constructor
    · rintro ⟨e, here, reads⟩
      obtain ⟨i, below, member⟩ := List.mem_flatMap.mp here
      obtain ⟨inside, before⟩ := (reached i).mp (List.mem_range.mp below)
      exact ⟨i, inside, before, e, member, reads⟩
    · rintro ⟨i, inside, before, e, member, reads⟩
      have below := List.mem_range.mpr ((reached i).mpr ⟨inside, before⟩)
      exact ⟨e, List.mem_flatMap.mpr ⟨i, below, member⟩, reads⟩

/-- The trace of the function is that of its search, and then the copy. -/
theorem validateBitstream_trace : ∃ copy,
    (validateBitstream dmaVa place buf len st).st.trace =
      st.trace ++ searchEvents dmaVa place buf len ++ copy ∧
    (copy = [] ∨ ∃ index, copy = [.read index (len - BitVec.ofNat 64 index).toNat]) := by
  obtain ⟨last, _, trace⟩ := findHeader_trace dmaVa place buf
  rw [validateBitstream, searchEvents]
  split
  · exact ⟨[], by simp, Or.inl rfl⟩
  · rw [trace St.init]
    dsimp only
    split
    · rw [Validated.removeHeader]
      split
      · refine ⟨[_], ?_, Or.inr ⟨(findHeader dmaVa place buf st).1, rfl⟩⟩
        exact congrArg (· ++ [_]) (trace st)
      · refine ⟨[], ?_, Or.inl rfl⟩
        rw [List.append_nil]
        exact trace st
    · refine ⟨[], ?_, Or.inl rfl⟩
      rw [List.append_nil]
      exact trace st

/-- A buffer of 340 bytes holds every position the search looks at. -/
theorem scanInBounds_of_le (long : 340 ≤ len.toNat) : ScanInBounds dmaVa place buf len := by
  intro byte reads
  obtain ⟨_, i, inside, _, round⟩ := readsByte_search.mp reads
  have small : i ≤ 256 := inside
  rcases readsByte_round.mp round with rfl | ⟨_, format, d, ⟨within, _⟩, rfl⟩
  · omega
  · have short : d < 20 := within
    unfold syncBytePosition
    omega

/-- **When the search stays in its buffer**: it is refused, or every index up to the first header
lies inside, and behind each dummy byte also the bytes it compares. -/
theorem scanInBounds_iff (dmaVa : Bool) (place : Placement) (buf : Nat → Byte) (len : BitVec 64) :
    ScanInBounds dmaVa place buf len ↔ (syncBytePosition + bitHdrSize ≤ len.toNat →
      ∀ i ≤ vivadoBitHeader, NoneBefore buf i → i < len.toNat ∧ (buf i = dummyByte →
        ∀ format d, ComparesByte place buf i format d → i + syncBytePosition + d < len.toNat)) := by
  constructor
  · intro bounds enough i inside before
    have round : ∀ byte, ReadsByte (roundEvents place buf i) byte → byte < len.toNat :=
      fun byte reads => bounds byte (readsByte_search.mpr ⟨enough, i, inside, before, reads⟩)
    refine ⟨round i (readsByte_round.mpr (Or.inl rfl)), fun dummy format d compares => ?_⟩
    exact round _ (readsByte_round.mpr (Or.inr ⟨dummy, format, d, compares, rfl⟩))
  · intro bounds byte reads
    obtain ⟨enough, i, inside, before, round⟩ := readsByte_search.mp reads
    obtain ⟨index, compared⟩ := bounds enough i inside before
    rcases readsByte_round.mp round with rfl | ⟨dummy, format, d, compares, rfl⟩
    · exact index
    · exact compared dummy format d compares

/-- **84 zeros**: the length is accepted, and the search reads on to offset `0x100`. -/
theorem scanInBounds_refuted :
    ¬ ScanInBounds true ⟨0, fun _ => 0, true, false⟩ (fun _ => 0#8) 84#64 := by
  intro bounds
  have before : NoneBefore (fun _ => 0#8) 84 := fun _ _ _ header =>
    absurd (show (0#8 : Byte) = dummyByte from header.1) (by decide)
  have reads : ReadsByte (searchEvents true ⟨0, fun _ => 0, true, false⟩ (fun _ => 0#8) 84#64) 84 :=
    readsByte_search.mpr ⟨by decide, 84, by decide, before, readsByte_round.mpr (Or.inl rfl)⟩
  exact absurd (bounds 84 reads) (by decide)

end Scan

end TrustzoneWatchdog.Loader
