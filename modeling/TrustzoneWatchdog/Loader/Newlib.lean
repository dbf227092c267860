/-
**`memcmp` and `memcpy` of the secure world** (`lib/libutils/isoc/newlib/`).

Each has two bodies, chosen when it is built: bytes only, where the build is optimised for size, or
whole longs first, where both pointers are aligned and the length is not too small. `memcmp` also
returns what it read of its first argument, as pairs of an offset and a number of bytes: which bytes
it reads depends on the body, what it returns does not.

* `memcmp_eq_zero`: zero is returned exactly for equal stretches.
* `touches_memcmp`: a byte is read exactly when all those before its access are equal. An access of
  a long starts at a multiple of eight.
* `memcpy_copied`: the copy goes up, so from a higher to a lower place it moves the bytes that were
  there at the start, also where the two stretches overlap.
-/

import Mathlib.Data.Nat.Digits.Lemmas
import TrustzoneWatchdog.Lib.Memory
import TrustzoneWatchdog.Loader.Device

namespace TrustzoneWatchdog.Loader

open TrustzoneWatchdog.Lib.Memory

/-- `sizeof(long)`. -/
def longSize : Nat := 8

/-- The long at an offset, little-endian. -/
def long (m : Nat → Byte) (i : Nat) : Nat :=
  Nat.ofDigits 256 ((load (fun k => m (i + k)) longSize).map BitVec.toNat)

/-- `UNALIGNED(X, Y)`. -/
def unaligned (x y : Nat) : Bool := (x &&& (longSize - 1)) ||| (y &&& (longSize - 1)) != 0

theorem long_eq_iff {m1 m2 : Nat → Byte} {i : Nat} :
    long m1 i = long m2 i ↔ Set.EqOn m1 m2 (Set.Ico i (i + longSize)) := by
  have digits : ∀ m : Nat → Byte, ∀ digit ∈ (load (fun k => m (i + k)) longSize).map BitVec.toNat,
      digit < 256 := by
    intro m digit here
    obtain ⟨byte, _, rfl⟩ := List.mem_map.mp here
    exact byte.isLt
  constructor
  · intro same k inside
    have lists := Nat.ofDigits_inj_of_len_eq (by decide) (by simp [load]) (digits m1) (digits m2)
      same
    have bytes := load_eq_iff.mp
      (List.map_injective_iff.mpr (fun _ _ => BitVec.eq_of_toNat_eq) lists)
    obtain ⟨d, rfl⟩ := Nat.exists_eq_add_of_le inside.1
    exact bytes d (Nat.add_lt_add_iff_left.mp inside.2)
  · intro same
    have bytes : load (fun k => m1 (i + k)) longSize = load (fun k => m2 (i + k)) longSize :=
      load_eq_iff.mpr fun k below =>
        same ⟨Nat.le_add_right i k, Nat.add_lt_add_left below i⟩
    rw [long, long, bytes]

/-! ### memcmp -/

section Memcmp

variable (m1 m2 : Nat → Byte)

/-- `while (n--)`: compare byte by byte from offset `i` on. -/
def memcmpBytes : Nat → Nat → Int × List (Nat × Nat)
  | 0, _ => (0, [])
  | n + 1, i =>
    if m1 i ≠ m2 i then ((m1 i).toNat - (m2 i).toNat, [(i, 1)])
    else
      let (ret, reads) := memcmpBytes n (i + 1)
      (ret, (i, 1) :: reads)

/-- `while (n >= LBLOCKSIZE)`: compare longs from offset `i` on, up to the first that differs. The
bytes left, the offset reached and the reads. -/
def memcmpLongs : Nat → Nat → Nat × Nat × List (Nat × Nat)
  | n + 8, i =>
    if long m1 i ≠ long m2 i then (n + 8, i, [(i, longSize)])
    else
      let (left, reached, reads) := memcmpLongs n (i + longSize)
      (left, reached, (i, longSize) :: reads)
  | n, i => (n, i, [])

/-- The longs are compared first: not built for size, `!TOO_SMALL(n) && !UNALIGNED(s1, s2)`. -/
def comparesLongs (forSize : Bool) (s1 s2 n : Nat) : Bool :=
  !forSize && !decide (n < longSize) && !unaligned s1 s2

/-- `memcmp` of the `n` bytes at the addresses `s1` and `s2`. -/
def memcmp (forSize : Bool) (s1 s2 n : Nat) : Int × List (Nat × Nat) :=
  if comparesLongs forSize s1 s2 n then
    let (left, reached, longs) := memcmpLongs m1 m2 n 0
    let (ret, bytes) := memcmpBytes m1 m2 left reached
    (ret, longs ++ bytes)
  else memcmpBytes m1 m2 n 0

end Memcmp

section MemcmpSpec

variable {m1 m2 : Nat → Byte}

theorem memcmpBytes_eq_zero (n i : Nat) :
    (memcmpBytes m1 m2 n i).1 = 0 ↔ Set.EqOn m1 m2 (Set.Ico i (i + n)) := by
  induction n generalizing i with
  | zero => simp [memcmpBytes]
  | succ n ih =>
    rw [memcmpBytes, eqOn_Ico_split (Nat.le_succ i) (by omega), eqOn_Ico_one]
    by_cases same : m1 i = m2 i
    · simp only [same, ne_eq, not_true_eq_false, if_false, true_and]
      rw [ih, Nat.add_right_comm, Nat.add_assoc]
    · have values : (m1 i).toNat ≠ (m2 i).toNat := fun equal => same (BitVec.eq_of_toNat_eq equal)
      simp only [same, ne_eq, not_false_eq_true, if_true, false_and, iff_false]
      omega

theorem touches_memcmpBytes (n i d : Nat) :
    Touches (memcmpBytes m1 m2 n i).2 d ↔ Compared m1 m2 1 i n d := by
  induction n generalizing i with
  | zero => exact iff_of_false (touches_nil d) (not_compared Nat.one_pos)
  | succ n ih =>
    rw [memcmpBytes, compared_access Nat.one_pos, eqOn_Ico_one]
    by_cases same : m1 i = m2 i
    · simp [same, ih]
    · simp [same]

theorem touches_memcmpLongs (n i d : Nat) :
    Touches (memcmpLongs m1 m2 n i).2.2 d ↔ Compared m1 m2 longSize i n d := by
  fun_induction memcmpLongs m1 m2 n i with
  | case1 n i differs =>
    have differs := mt long_eq_iff.mpr differs
    change Touches [(i, longSize)] d ↔ Compared m1 m2 longSize i (n + longSize) d
    rw [compared_access (by decide)]
    simp [differs]
  | case2 n i same left reached reads rest ih =>
    have same := long_eq_iff.mp (not_not.mp same)
    rw [rest] at ih
    change Touches ((i, longSize) :: reads) d ↔ Compared m1 m2 longSize i (n + longSize) d
    rw [compared_access (by decide), touches_cons, ← ih]
    exact or_congr_right (and_iff_right same).symm
  | case3 n i less =>
    have short : n < longSize := Nat.lt_of_not_le fun longer =>
      less (n - longSize) (Nat.sub_add_cancel longer).symm
    exact iff_of_false (touches_nil d) (not_compared short)

variable (m1 m2) in
/-- Where the comparison of the longs ends: everything before is equal. -/
structure LongsCompared (n i left reached : Nat) : Prop where
  together : reached + left = i + n
  aligned : ∃ longs, reached = i + longSize * longs
  equal : Set.EqOn m1 m2 (Set.Ico i reached)

variable (m1 m2) in
theorem memcmpLongs_compared (n i : Nat) :
    LongsCompared m1 m2 n i (memcmpLongs m1 m2 n i).1 (memcmpLongs m1 m2 n i).2.1 := by
  fun_induction memcmpLongs m1 m2 n i with
  | case1 n i differs => exact ⟨rfl, ⟨0, rfl⟩, by simp⟩
  | case2 n i same left reached reads rest ih =>
    have same := long_eq_iff.mp (not_not.mp same)
    rw [rest] at ih
    obtain ⟨together, ⟨longs, aligned⟩, equal⟩ := ih
    dsimp only at together aligned equal ⊢
    have later : i + longSize ≤ reached := by omega
    refine ⟨?_, ⟨longs + 1, ?_⟩,
      (eqOn_Ico_split (Nat.le_add_right i longSize) later).mpr ⟨same, equal⟩⟩
    · rw [together]
      unfold longSize
      omega
    · rw [aligned, Nat.mul_succ]
      omega
  | case3 n i less => exact ⟨rfl, ⟨0, rfl⟩, by simp⟩

/-- Where the access to byte `d` of `n` starts. -/
def accessStart (longs : Bool) (n d : Nat) : Nat :=
  if longs = true ∧ d < n / longSize * longSize then d / longSize * longSize else d

/-- **`memcmp` returns zero** exactly for equal stretches. -/
theorem memcmp_eq_zero (forSize : Bool) (s1 s2 n : Nat) :
    (memcmp m1 m2 forSize s1 s2 n).1 = 0 ↔ ∀ k < n, m1 k = m2 k := by
  rw [memcmp]
  split
  · obtain ⟨together, _, equal⟩ := memcmpLongs_compared m1 m2 n 0
    rw [Nat.zero_add] at together
    rw [memcmpBytes_eq_zero, ← eqOn_Ico_zero, together,
      eqOn_Ico_split (Nat.zero_le _) (Nat.le.intro together)]
    exact (and_iff_right equal).symm
  · rw [memcmpBytes_eq_zero, Nat.zero_add, eqOn_Ico_zero]

/-- The longs that were compared, and then the bytes from where that ended. -/
theorem LongsCompared.touches {n left reached : Nat} (ends : LongsCompared m1 m2 n 0 left reached)
    (d : Nat) : Compared m1 m2 longSize 0 n d ∨ Compared m1 m2 1 reached left d ↔
      d < n ∧ Set.EqOn m1 m2 (Set.Ico 0 (accessStart true n d)) := by
  obtain ⟨together, ⟨count, aligned⟩, equal⟩ := ends
  rw [compared_one, Compared, Nat.zero_add, Nat.zero_add, Nat.sub_zero]
  unfold accessStart longSize at *
  by_cases whole : d < n / 8 * 8
  · rw [if_pos ⟨rfl, whole⟩]
    constructor
    · rintro (⟨_, _, same⟩ | ⟨lower, _, rest⟩)
      · exact ⟨by omega, same⟩
      · have same := (eqOn_Ico_split (Nat.zero_le reached) lower).mpr ⟨equal, rest⟩
        exact ⟨by omega, same.mono (Set.Ico_subset_Ico_right (Nat.div_mul_le_self d 8))⟩
    · rintro ⟨_, same⟩
      exact Or.inl ⟨Nat.zero_le d, whole, same⟩
  · rw [if_neg fun both => whole both.2]
    constructor
    · rintro (⟨_, upper, _⟩ | ⟨lower, upper, rest⟩)
      · exact absurd upper whole
      · exact ⟨by omega, (eqOn_Ico_split (Nat.zero_le reached) lower).mpr ⟨equal, rest⟩⟩
    · rintro ⟨upper, same⟩
      -- a multiple of eight up to `n` is not above the last one
      have lower : reached ≤ d := by omega
      exact Or.inr ⟨lower, by omega, same.mono (Set.Ico_subset_Ico_left (Nat.zero_le reached))⟩

/-- **The bytes `memcmp` reads.** -/
theorem touches_memcmp (forSize : Bool) (s1 s2 n d : Nat) :
    Touches (memcmp m1 m2 forSize s1 s2 n).2 d ↔
      d < n ∧ ∀ k < accessStart (comparesLongs forSize s1 s2 n) n d, m1 k = m2 k := by
  rw [memcmp, ← eqOn_Ico_zero]
  split
  · rename_i longs
    rw [touches_append, touches_memcmpLongs, touches_memcmpBytes, longs]
    exact (memcmpLongs_compared m1 m2 n 0).touches d
  · rename_i bytes
    rw [touches_memcmpBytes, compared_one, accessStart, if_neg fun both => bytes both.1,
      Nat.zero_add]
    exact and_iff_right (Nat.zero_le d)

end MemcmpSpec

/-! ### memcpy -/

/-- The variables of a copy: the memory, the two pointers and `len0`. -/
structure Copy where
  mem : Nat → Byte
  dst : Nat
  src : Nat
  len : Nat

/-- `*dst++ = *src++` on a type of `size` bytes. -/
def Copy.assign (size : Nat) (c : Copy) : Copy :=
  { c with mem := move c.mem c.dst c.src size, dst := c.dst + size, src := c.src + size }

/-- `while (len0 >= block) { body; len0 -= block; }`. -/
def Copy.loop (block : Nat) (positive : 0 < block) (body : Copy → Copy) (c : Copy) : Copy :=
  if block ≤ c.len then
    loop block positive body ⟨(body c).mem, (body c).dst, (body c).src, c.len - block⟩
  else c
termination_by c.len

/-- `while (len0--)`. -/
def memcpyBytes (c : Copy) : Copy := c.loop 1 Nat.one_pos (Copy.assign 1)

/-- Four longs at a time, then one at a time. -/
def memcpyLongs (c : Copy) : Copy :=
  let four := Copy.assign longSize ∘ Copy.assign longSize ∘ Copy.assign longSize ∘
    Copy.assign longSize
  (c.loop (longSize <<< 2) (by decide) four).loop longSize (by decide) (Copy.assign longSize)

/-- `memcpy` of `len` bytes within a memory that starts at address `va`. -/
def memcpy (forSize : Bool) (va : Nat) (mem : Nat → Byte) (dst src len : Nat) : Nat → Byte :=
  let c : Copy := ⟨mem, dst, src, len⟩
  if forSize then (memcpyBytes c).mem
  else if !decide (len < longSize <<< 2) && !unaligned (va + src) (va + dst) then
    (memcpyBytes (memcpyLongs c)).mem
  else (memcpyBytes c).mem

section MemcpySpec

variable {mem : Nat → Byte} {dst src done : Nat} {c : Copy}

variable (mem dst src) in
/-- The copy has come `done` bytes far. -/
structure Copy.Progress (done : Nat) (c : Copy) : Prop where
  dstAt : c.dst = dst + done
  srcAt : c.src = src + done
  copied : Copied mem c.mem dst src done

theorem Copy.Progress.assign (lower : dst ≤ src) (progress : Progress mem dst src done c)
    (size : Nat) : Progress mem dst src (done + size) (c.assign size) := by
  obtain ⟨dstAt, srcAt, copied⟩ := progress
  refine ⟨?_, ?_, ?_⟩
  · rw [Copy.assign, dstAt, Nat.add_assoc]
  · rw [Copy.assign, srcAt, Nat.add_assoc]
  · rw [Copy.assign, dstAt, srcAt]
    exact copied.move lower size

/-- **A loop of the copy** leaves less than a block, if its body copies one. -/
theorem Copy.Progress.loop {block : Nat} (positive : 0 < block) {body : Copy → Copy}
    (step : ∀ done c, Progress mem dst src done c → Progress mem dst src (done + block) (body c))
    (progress : Progress mem dst src done c) :
    ∃ done', Progress mem dst src done' (c.loop block positive body) ∧
      done' + (c.loop block positive body).len = done + c.len ∧
      (c.loop block positive body).len < block := by
  fun_induction Copy.loop block positive body c generalizing done with
  | case1 c enough ih =>
    obtain ⟨dstAt, srcAt, copied⟩ := step done c progress
    obtain ⟨done', reached, total, less⟩ := ih ⟨dstAt, srcAt, copied⟩
    exact ⟨done', reached, total.trans (by dsimp only; omega), less⟩
  | case2 c less => exact ⟨done, progress, rfl, by omega⟩

/-- The byte loop copies all that is left. -/
theorem Copy.Progress.bytes (lower : dst ≤ src) (progress : Progress mem dst src done c) :
    Copied mem (memcpyBytes c).mem dst src (done + c.len) := by
  obtain ⟨done', reached, total, less⟩ :=
    progress.loop Nat.one_pos fun _ _ before => before.assign lower 1
  rw [← total, Nat.lt_one_iff.mp less]
  exact reached.copied

theorem Copy.Progress.longs (lower : dst ≤ src) (progress : Progress mem dst src done c) :
    ∃ done', Progress mem dst src done' (memcpyLongs c) ∧
      done' + (memcpyLongs c).len = done + c.len := by
  have long := fun done c (before : Progress mem dst src done c) => before.assign lower longSize
  obtain ⟨done₁, reached₁, total₁, _⟩ := progress.loop (show 0 < longSize <<< 2 by decide)
    fun done c before => long _ _ (long _ _ (long _ _ (long done c before)))
  obtain ⟨done₂, reached₂, total₂, _⟩ := reached₁.loop (by decide) long
  exact ⟨done₂, reached₂, total₂.trans total₁⟩

/-- **`memcpy` to a lower place** moves the bytes that were there at the start. -/
theorem memcpy_copied (mem : Nat → Byte) (forSize : Bool) (va len : Nat) (lower : dst ≤ src) :
    Copied mem (memcpy forSize va mem dst src len) dst src len := by
  have start : Copy.Progress mem dst src 0 ⟨mem, dst, src, len⟩ :=
    ⟨rfl, rfl, Copied.start mem dst src⟩
  have bytes := start.bytes lower
  have longs : Copied mem (memcpyBytes (memcpyLongs ⟨mem, dst, src, len⟩)).mem dst src len := by
    obtain ⟨done, reached, total⟩ := start.longs lower
    have all := reached.bytes lower
    rwa [total, Nat.zero_add] at all
  rw [Nat.zero_add] at bytes
  rw [memcpy]
  split_ifs
  · exact bytes
  · exact longs
  · exact bytes

end MemcpySpec

end TrustzoneWatchdog.Loader
