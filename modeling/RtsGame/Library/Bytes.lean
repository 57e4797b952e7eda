import Mathlib.Data.Nat.ModEq
import Mathlib.Tactic.Ring

/-!
# Bytes and fixed-width numbers

Numbers in network byte order, parts of a buffer, and streams that are cut
into records by a reader that consumes one record at a time.
-/

namespace RtsGame

abbrev Bytes := List UInt8

/-!
## Network byte order
-/

/-- The lowest bytes of a number, the most significant one first. -/
def bigEndian : Nat -> Nat -> Bytes
  | 0, _ => []
  | width + 1, n => UInt8.ofNat (n / 256 ^ width) :: bigEndian width n

/-- The number that the bytes spell. -/
def fromBigEndian : Bytes -> Nat
  | [] => 0
  | b :: rest => b.toNat * 256 ^ rest.length + fromBigEndian rest

@[simp] theorem bigEndian_length (width n : Nat) :
    (bigEndian width n).length = width := by
  induction width with
  | zero =>
      rfl
  | succ width ih =>
      simp [bigEndian, ih]

theorem fromBigEndian_lt (bytes : Bytes) :
    fromBigEndian bytes < 256 ^ bytes.length := by
  induction bytes with
  | nil =>
      simp [fromBigEndian]
  | cons b rest ih =>
      have hb : b.toNat + 1 ≤ 256 := b.toNat_lt
      calc fromBigEndian (b :: rest)
          = b.toNat * 256 ^ rest.length + fromBigEndian rest := rfl
        _ < b.toNat * 256 ^ rest.length + 256 ^ rest.length := by omega
        _ = (b.toNat + 1) * 256 ^ rest.length := by ring
        _ ≤ 256 * 256 ^ rest.length := Nat.mul_le_mul_right _ hb
        _ = 256 ^ (b :: rest).length := by
          rw [List.length_cons, Nat.pow_succ]
          ring

theorem fromBigEndian_bigEndian {width n : Nat} (h : n < 256 ^ width) :
    fromBigEndian (bigEndian width n) = n := by
  have hmod : forall width, fromBigEndian (bigEndian width n) = n % 256 ^ width := by
    intro width
    induction width with
    | zero =>
        simp [bigEndian, fromBigEndian, Nat.mod_one]
    | succ width ih =>
        have hbyte : (UInt8.ofNat (n / 256 ^ width)).toNat =
            n / 256 ^ width % 256 := by
          simp
        simp only [bigEndian, fromBigEndian, bigEndian_length, ih, hbyte]
        rw [Nat.mod_pow_succ]
        ring
  rw [hmod, Nat.mod_eq_of_lt h]

theorem bigEndian_add_mul (width n c : Nat) :
    bigEndian width (n + c * 256 ^ width) = bigEndian width n := by
  induction width generalizing c with
  | zero =>
      rfl
  | succ width ih =>
      have hsplit : n + c * 256 ^ (width + 1) = n + c * 256 * 256 ^ width := by
        ring
      have hdiv : (n + c * 256 * 256 ^ width) / 256 ^ width =
          n / 256 ^ width + c * 256 :=
        Nat.add_mul_div_right n (c * 256) (Nat.pow_pos (by decide))
      have hbyte : UInt8.ofNat (n / 256 ^ width + c * 256) =
          UInt8.ofNat (n / 256 ^ width) := by
        apply UInt8.toNat_inj.mp
        simp
      rw [hsplit]
      simp only [bigEndian, hdiv, hbyte, ih]

theorem bigEndian_fromBigEndian (bytes : Bytes) :
    bigEndian bytes.length (fromBigEndian bytes) = bytes := by
  induction bytes with
  | nil =>
      rfl
  | cons b rest ih =>
      have hlt := fromBigEndian_lt rest
      have hswap : fromBigEndian (b :: rest) =
          fromBigEndian rest + b.toNat * 256 ^ rest.length :=
        Nat.add_comm _ _
      have hdiv : fromBigEndian (b :: rest) / 256 ^ rest.length = b.toNat := by
        rw [hswap, Nat.add_mul_div_right _ _ (Nat.pow_pos (by decide)),
          Nat.div_eq_of_lt hlt, Nat.zero_add]
      rw [List.length_cons, bigEndian, hdiv, hswap, bigEndian_add_mul, ih]
      simp

/-!
## Buffers
-/

/-- Overwrite the part of a buffer that starts at the offset. -/
def memcpy (buffer : Bytes) (offset : Nat) (source : Bytes) : Bytes :=
  buffer.take offset ++ source ++ buffer.drop (offset + source.length)

/-- The part of a buffer of the given length that starts at the offset. -/
def slice (buffer : Bytes) (offset length : Nat) : Bytes :=
  (buffer.drop offset).take length

/-- A write that continues where the earlier writes ended. -/
theorem memcpy_fresh (front source : Bytes) (fill : UInt8) {offset length n : Nat}
    (hoffset : front.length = offset) (hlength : source.length = length) :
    memcpy (front ++ List.replicate (length + n) fill) offset source =
      (front ++ source) ++ List.replicate n fill := by
  subst hoffset
  subst hlength
  unfold memcpy
  rw [List.take_left, List.drop_append]
  simp

/-- A slice that is one of the parts from which the buffer is put together. -/
theorem slice_middle (front part back : Bytes) {offset length : Nat}
    (hoffset : front.length = offset) (hlength : part.length = length) :
    slice (front ++ (part ++ back)) offset length = part := by
  subst hoffset
  subst hlength
  unfold slice
  rw [List.drop_left, List.take_left]

/-- A buffer is its slices one after the other. -/
theorem slice_append_drop (buffer : Bytes) (offset length : Nat) :
    slice buffer offset length ++ buffer.drop (offset + length) =
      buffer.drop offset := by
  unfold slice
  rw [← List.drop_drop]
  exact List.take_append_drop length (buffer.drop offset)

/-!
## Readers

A reader takes one record from the front of a stream or fails.  Its run takes
records until it fails, and leaves the rest of the stream.
-/

/-- Every record that is read uses up some of the stream. -/
structure Reader (alpha : Type) where
  read : Bytes -> Option (alpha × Bytes)
  shrinks : forall stream x rest, read stream = some (x, rest) ->
    rest.length < stream.length

namespace Reader

variable {alpha : Type}

def run (R : Reader alpha) (stream : Bytes) : List alpha × Bytes :=
  match _h : R.read stream with
  | none => ([], stream)
  | some (x, rest) => (x :: (R.run rest).1, (R.run rest).2)
termination_by stream.length
decreasing_by
  all_goals exact R.shrinks _ _ _ (by assumption)

theorem run_of_none {R : Reader alpha} {stream : Bytes}
    (h : R.read stream = none) : R.run stream = ([], stream) := by
  rw [run]
  split
  · rfl
  · rename_i hsome
    rw [h] at hsome
    cases hsome

theorem run_of_some {R : Reader alpha} {stream rest : Bytes} {x : alpha}
    (h : R.read stream = some (x, rest)) :
    R.run stream = (x :: (R.run rest).1, (R.run rest).2) := by
  rw [run]
  split
  · rename_i hnone
    rw [h] at hnone
    cases hnone
  · rename_i y rest' hsome
    rw [h] at hsome
    cases hsome
    rfl

/-- The reader takes exactly the encodings of the valid records. -/
def Reads (R : Reader alpha) (valid : alpha -> Prop) (encode : alpha -> Bytes) :
    Prop :=
  forall stream x rest, R.read stream = some (x, rest) <->
    valid x ∧ stream = encode x ++ rest

variable {R : Reader alpha} {valid : alpha -> Prop} {encode : alpha -> Bytes}

/-- A run splits the stream into the encodings of what it took and the rest. -/
theorem Reads.run_sound (h : R.Reads valid encode) (stream : Bytes) :
    (forall x, x ∈ (R.run stream).1 -> valid x) ∧
      (R.run stream).1.flatMap encode ++ (R.run stream).2 = stream ∧
      R.read (R.run stream).2 = none := by
  induction hlen : stream.length using Nat.strong_induction_on
    generalizing stream with
  | _ length ih =>
      cases hread : R.read stream with
      | none =>
          rw [run_of_none hread]
          simpa using hread
      | some pair =>
          rcases pair with ⟨x, rest⟩
          have hshrink := R.shrinks stream x rest hread
          have hx := (h stream x rest).mp hread
          rcases ih rest.length (by omega) rest rfl with ⟨hvalid, hsplit, hnone⟩
          rw [run_of_some hread]
          refine ⟨?_, ?_, hnone⟩
          · intro y hy
            rcases List.mem_cons.mp hy with hy | hy
            · rw [hy]
              exact hx.left
            · exact hvalid y hy
          · simp only [List.flatMap_cons, List.append_assoc]
            rw [hsplit]
            exact hx.right.symm

/-- A run takes all valid records in front of what it cannot read. -/
theorem Reads.run_complete (h : R.Reads valid encode) (items : List alpha)
    (hitems : forall x, x ∈ items -> valid x) {rest : Bytes}
    (hrest : R.read rest = none) :
    R.run (items.flatMap encode ++ rest) = (items, rest) := by
  induction items with
  | nil =>
      exact run_of_none hrest
  | cons x later ih =>
      have hx : valid x := hitems x (List.mem_cons_self)
      have hlater := ih fun y hy => hitems y (List.mem_cons_of_mem _ hy)
      have hread : R.read ((x :: later).flatMap encode ++ rest) =
          some (x, later.flatMap encode ++ rest) := by
        rw [h]
        exact ⟨hx, by simp⟩
      rw [run_of_some hread, hlater]

theorem Reads.read_none_iff (h : R.Reads valid encode) (stream : Bytes) :
    R.read stream = none <-> forall x, valid x -> ¬ encode x <+: stream := by
  constructor
  · rintro hnone x hx ⟨rest, hrest⟩
    have hread := (h stream x rest).mpr ⟨hx, hrest.symm⟩
    rw [hnone] at hread
    cases hread
  · intro hno
    cases hread : R.read stream with
    | none => rfl
    | some pair =>
        have hx := (h stream pair.1 pair.2).mp hread
        exact absurd ⟨pair.2, hx.right.symm⟩ (hno pair.1 hx.left)

end Reader

end RtsGame
