import RtsGame.Library.Bytes

/-!
# The protocol buffer wire format

A message is a list of fields.  A field is written as a key, which holds its
number and how it is written, followed by its value; a field that has the
default value is left out.  The lemmas of this module say how many bytes an
encoding takes: every field has a capacity, and a message takes at most the
capacities of its fields together.
-/

namespace RtsGame

/-!
## Varints
-/

/-- Seven bits in each byte, the lowest ones first; every byte but the last is marked. -/
def varintDigits : Nat -> Nat -> Bytes
  | 0, _ => []
  | width + 1, n =>
      if n < 128 then [UInt8.ofNat n]
      else UInt8.ofNat (n % 128 + 128) :: varintDigits width (n / 128)

/-- Ten bytes are enough for 64 bits. -/
def varint (n : UInt64) : Bytes := varintDigits 10 n.toNat

theorem varintDigits_length_le (width n : Nat) :
    (varintDigits width n).length ≤ width := by
  induction width generalizing n with
  | zero =>
      exact Nat.le_refl 0
  | succ width ih =>
      unfold varintDigits
      split
      · exact Nat.succ_le_succ (Nat.zero_le width)
      · exact Nat.succ_le_succ (ih (n / 128))

theorem varintDigits_length_of_lt {k : Nat} (width n : Nat)
    (h : n < 128 ^ (k + 1)) : (varintDigits width n).length ≤ k + 1 := by
  induction width generalizing n k with
  | zero =>
      exact Nat.zero_le (k + 1)
  | succ width ih =>
      unfold varintDigits
      split
      · exact Nat.succ_le_succ (Nat.zero_le k)
      · rename_i hlarge
        cases k with
        | zero =>
            rw [Nat.zero_add, Nat.pow_one] at h
            exact absurd h hlarge
        | succ k =>
            have hrest : n / 128 < 128 ^ (k + 1) := by
              rw [Nat.div_lt_iff_lt_mul (by decide)]
              exact h
            exact Nat.succ_le_succ (ih (n / 128) hrest)

theorem varint_length_le (n : UInt64) : (varint n).length ≤ 10 :=
  varintDigits_length_le 10 n.toNat

theorem varint_length_of_lt {k : Nat} {n : UInt64} (h : n.toNat < 128 ^ (k + 1)) :
    (varint n).length ≤ k + 1 :=
  varintDigits_length_of_lt 10 n.toNat h

theorem le_varintDigits_length {k : Nat} (width n : Nat) (hk : k < width)
    (h : k = 0 ∨ 128 ^ k ≤ n) : k + 1 ≤ (varintDigits width n).length := by
  induction width generalizing n k with
  | zero =>
      cases hk
  | succ width ih =>
      unfold varintDigits
      cases k with
      | zero =>
          split
          · exact Nat.le_refl 1
          · exact Nat.succ_le_succ (Nat.zero_le _)
      | succ k =>
          have hle : 128 ^ k * 128 ≤ n := h.resolve_left (Nat.succ_ne_zero k)
          have hpos : 1 ≤ 128 ^ k := Nat.one_le_pow _ _ (by decide)
          have hrest : 128 ^ k ≤ n / 128 := (Nat.le_div_iff_mul_le (by decide)).mpr hle
          rw [if_neg (by omega)]
          exact Nat.succ_le_succ (ih (n / 128) (Nat.lt_of_succ_lt_succ hk) (Or.inr hrest))

theorem varint_length_eq {k : Nat} {n : UInt64} (hk : k < 10) (hle : 128 ^ k ≤ n.toNat)
    (hlt : n.toNat < 128 ^ (k + 1)) : (varint n).length = k + 1 :=
  Nat.le_antisymm (varint_length_of_lt hlt)
    (le_varintDigits_length 10 n.toNat hk (Or.inr hle))

theorem varint_length_pos (n : UInt64) : 1 ≤ (varint n).length := by
  unfold varint varintDigits
  split
  · exact Nat.le_refl 1
  · exact Nat.succ_le_succ (Nat.zero_le _)

/-!
## Fields
-/

/--
A field with its number.  Integers, truth values and enumerators are varints; a
float is written as its bits; strings, bytes and packed lists are left out if
they are empty; a message that is present is written even if it is empty.
-/
inductive ProtoField where
  | varint (number : Nat) (value : UInt64)
  | fixed32 (number : Nat) (bits : UInt32)
  | bytes (number : Nat) (content : Bytes)
  | message (number : Nat) (content : Bytes)

/-- The number of a field and its wire type. -/
def protoKey (number wireType : Nat) : Bytes :=
  varint (UInt64.ofNat (number * 8 + wireType))

/-- The content of a field with its length in front. -/
def delimited (number : Nat) (content : Bytes) : Bytes :=
  protoKey number 2 ++ varint (UInt64.ofNat content.length) ++ content

namespace ProtoField

def encode : ProtoField -> Bytes
  | varint number value =>
      if value = 0 then [] else protoKey number 0 ++ RtsGame.varint value
  | fixed32 number bits =>
      if bits = 0 then [] else protoKey number 5 ++ (bigEndian 4 bits.toNat).reverse
  | bytes number content =>
      if content = [] then [] else delimited number content
  | message number content => delimited number content

end ProtoField

/-- A message: its fields, one after the other. -/
def encodeFields (fields : List ProtoField) : Bytes :=
  fields.flatMap ProtoField.encode

/-!
## Capacities

The numbers of the fields are below 16, so that a key takes one byte.
-/

theorem protoKey_length {number wireType : Nat} (hnumber : number < 16)
    (htype : wireType < 8) : (protoKey number wireType).length = 1 := by
  have hsmall : (UInt64.ofNat (number * 8 + wireType)).toNat < 128 ^ (0 + 1) := by
    have hle : number * 8 + wireType < 128 := by omega
    exact Nat.lt_of_le_of_lt (Nat.mod_le _ _) hle
  exact Nat.le_antisymm (varint_length_of_lt hsmall) (varint_length_pos _)

theorem delimited_length_le {number k : Nat} {content : Bytes}
    (hnumber : number < 16) (h : content.length < 128 ^ (k + 1)) :
    (delimited number content).length ≤ 1 + (k + 1) + content.length := by
  have hlen : (varint (UInt64.ofNat content.length)).length ≤ k + 1 :=
    varint_length_of_lt (Nat.lt_of_le_of_lt (Nat.mod_le _ _) h)
  unfold delimited
  rw [List.length_append, List.length_append, protoKey_length hnumber (by decide)]
  omega

theorem le_delimited_length {number : Nat} (hnumber : number < 16)
    (content : Bytes) : 2 + content.length ≤ (delimited number content).length := by
  have hlen := varint_length_pos (UInt64.ofNat content.length)
  unfold delimited
  rw [List.length_append, List.length_append, protoKey_length hnumber (by decide)]
  omega

namespace ProtoField

theorem varint_le {number : Nat} (hnumber : number < 16) (value : UInt64) :
    (varint number value).encode.length ≤ 11 := by
  have hlen := varint_length_le value
  simp only [encode]
  split
  · exact Nat.zero_le 11
  · rw [List.length_append, protoKey_length hnumber (by decide)]
    omega

theorem varint_le_of_lt {number k : Nat} (hnumber : number < 16) {value : UInt64}
    (h : value.toNat < 128 ^ (k + 1)) :
    (varint number value).encode.length ≤ 1 + (k + 1) := by
  have hlen := varint_length_of_lt h
  simp only [encode]
  split
  · exact Nat.zero_le _
  · rw [List.length_append, protoKey_length hnumber (by decide)]
    omega

theorem uint32_le {number : Nat} (hnumber : number < 16) (value : UInt32) :
    (varint number value.toUInt64).encode.length ≤ 6 := by
  refine varint_le_of_lt (k := 4) hnumber ?_
  have hlt := value.toNat_lt
  rw [UInt32.toNat_toUInt64]
  omega

theorem fixed32_le {number : Nat} (hnumber : number < 16) (bits : UInt32) :
    (fixed32 number bits).encode.length ≤ 5 := by
  simp only [encode]
  split
  · exact Nat.zero_le 5
  · rw [List.length_append, protoKey_length hnumber (by decide), List.length_reverse,
      bigEndian_length]

theorem bytes_le {number k : Nat} (hnumber : number < 16) {content : Bytes}
    (h : content.length < 128 ^ (k + 1)) :
    (bytes number content).encode.length ≤ 1 + (k + 1) + content.length := by
  simp only [encode]
  split
  · exact Nat.zero_le _
  · exact delimited_length_le hnumber h

theorem le_bytes {number : Nat} (hnumber : number < 16) (content : Bytes) :
    content.length ≤ (bytes number content).encode.length := by
  simp only [encode]
  split
  · rename_i hempty
    rw [hempty]
  · have hlen := le_delimited_length hnumber content
    omega

/-- A message that takes at most so many bytes, few enough for a short length. -/
theorem message_le {number c : Nat} (hnumber : number < 16) {content : Bytes}
    (h : content.length ≤ c) (hc : c < 128) :
    (message number content).encode.length ≤ 2 + c := by
  have hshort : content.length < 128 ^ (0 + 1) := by
    rw [Nat.zero_add, Nat.pow_one]
    omega
  have hlen := delimited_length_le hnumber hshort
  simp only [encode]
  omega

end ProtoField

theorem encodeFields_append (front back : List ProtoField) :
    encodeFields (front ++ back) = encodeFields front ++ encodeFields back :=
  List.flatMap_append

/-- Every field takes at most the capacity at its place. -/
def Within : List ProtoField -> List Nat -> Prop
  | [], _ => True
  | field :: fields, cap :: caps => field.encode.length ≤ cap ∧ Within fields caps
  | _ :: _, [] => False

/-- A message takes at most the capacities of its fields. -/
theorem Within.length_le {fields : List ProtoField} {caps : List Nat}
    (h : Within fields caps) : (encodeFields fields).length ≤ caps.sum := by
  induction fields generalizing caps with
  | nil =>
      exact Nat.zero_le _
  | cons field fields ih =>
      cases caps with
      | nil =>
          cases h
      | cons cap caps =>
          rcases h with ⟨hfield, hfields⟩
          change (field.encode ++ encodeFields fields).length ≤ _
          rw [List.length_append, List.sum_cons]
          exact Nat.add_le_add hfield (ih hfields)

/-- A repeated field takes at most its capacity for every element. -/
theorem encodeFields_map_le {alpha : Type} (f : alpha -> ProtoField) {c : Nat}
    (h : forall x, (f x).encode.length ≤ c) (xs : List alpha) :
    (encodeFields (xs.map f)).length ≤ c * xs.length := by
  induction xs with
  | nil =>
      exact Nat.zero_le _
  | cons x rest ih =>
      have hx := h x
      change ((f x).encode ++ encodeFields (rest.map f)).length ≤ _
      rw [List.length_append, List.length_cons, Nat.mul_add]
      omega

theorem le_encodeFields_map {alpha : Type} (f : alpha -> ProtoField) {c : Nat}
    (h : forall x, c ≤ (f x).encode.length) (xs : List alpha) :
    c * xs.length ≤ (encodeFields (xs.map f)).length := by
  induction xs with
  | nil =>
      exact Nat.zero_le _
  | cons x rest ih =>
      have hx := h x
      change _ ≤ ((f x).encode ++ encodeFields (rest.map f)).length
      rw [List.length_append, List.length_cons, Nat.mul_add]
      omega

end RtsGame
