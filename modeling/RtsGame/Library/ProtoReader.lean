import RtsGame.Library.Proto

/-!
# Reading the protocol buffer wire format

A message is read field by field: a key, and behind it a varint, a fixed number
of bytes, or a length and as many bytes.  What was written is read back, whatever
the fields are.  Numbers are not bounded here; up to 64 bits they are written as
the wire format says.
-/

namespace RtsGame

/-!
## Varints
-/

def readVarint : Bytes -> Option (Nat × Bytes)
  | [] => none
  | byte :: rest =>
      if byte.toNat < 128 then some (byte.toNat, rest)
      else
        match readVarint rest with
        | none => none
        | some (n, rest) => some (byte.toNat - 128 + 128 * n, rest)

def writeVarint (n : Nat) : Bytes := varintDigits (n + 1) n

theorem readVarint_varintDigits (width n : Nat) (h : n < 128 ^ (width + 1))
    (rest : Bytes) :
    readVarint (varintDigits (width + 1) n ++ rest) = some (n, rest) := by
  induction width generalizing n with
  | zero =>
      rw [Nat.zero_add, Nat.pow_one] at h
      have hbyte : (UInt8.ofNat n).toNat = n :=
        UInt8.toNat_ofNat_of_lt' (Nat.lt_trans h (by decide))
      unfold varintDigits
      rw [if_pos h]
      simp only [List.singleton_append, readVarint, hbyte, if_pos h]
  | succ width ih =>
      unfold varintDigits
      split
      · next hsmall =>
          have hbyte : (UInt8.ofNat n).toNat = n :=
            UInt8.toNat_ofNat_of_lt' (Nat.lt_trans hsmall (by decide))
          simp only [List.singleton_append, readVarint, hbyte, if_pos hsmall]
      · next hlarge =>
          have hbyte : (UInt8.ofNat (n % 128 + 128)).toNat = n % 128 + 128 :=
            UInt8.toNat_ofNat_of_lt' (by
              show n % 128 + 128 < 256
              omega)
          have hrest : n / 128 < 128 ^ (width + 1) := by
            rw [Nat.div_lt_iff_lt_mul (by decide)]
            exact h
          have hmarked : Not (n % 128 + 128 < 128) := by omega
          simp only [List.cons_append, readVarint, hbyte, if_neg hmarked, ih _ hrest]
          congr 2
          omega

theorem readVarint_writeVarint (n : Nat) (rest : Bytes) :
    readVarint (writeVarint n ++ rest) = some (n, rest) := by
  apply readVarint_varintDigits
  calc
    n < n + 1 := Nat.lt_succ_self n
    _ < 128 ^ (n + 1) := Nat.lt_pow_self (by decide)

theorem writeVarint_ne_nil (n : Nat) : writeVarint n ≠ [] := by
  unfold writeVarint varintDigits
  split
  · exact List.cons_ne_nil _ _
  · exact List.cons_ne_nil _ _

/-!
## Fields
-/

inductive ProtoValue where
  | varint (n : Nat)
  | bytes (content : Bytes)
deriving DecidableEq, Repr

/-- The first bytes of a message, if there are so many. -/
def readBytes (len : Nat) (bytes : Bytes) : Option (Bytes × Bytes) :=
  if len ≤ bytes.length then some (bytes.take len, bytes.drop len) else none

/-- The value of a field with the given wire type. -/
def readValue (wireType : Nat) (bytes : Bytes) : Option (ProtoValue × Bytes) :=
  match wireType with
  | 0 => (readVarint bytes).map fun read => (ProtoValue.varint read.1, read.2)
  | 1 => (readBytes 8 bytes).map fun read => (ProtoValue.bytes read.1, read.2)
  | 2 =>
      match readVarint bytes with
      | none => none
      | some (len, rest) =>
          (readBytes len rest).map fun read => (ProtoValue.bytes read.1, read.2)
  | 5 => (readBytes 4 bytes).map fun read => (ProtoValue.bytes read.1, read.2)
  | _ => none

def readField (bytes : Bytes) : Option ((Nat × ProtoValue) × Bytes) :=
  match readVarint bytes with
  | none => none
  | some (key, rest) =>
      (readValue (key % 8) rest).map fun read => ((key / 8, read.1), read.2)

/-- The fields of a message; every field takes a byte at least. -/
def readFields : Nat -> Bytes -> Option (List (Nat × ProtoValue))
  | _, [] => some []
  | 0, _ :: _ => none
  | fuel + 1, bytes =>
      match readField bytes with
      | none => none
      | some (field, rest) => (readFields fuel rest).map fun fields => field :: fields

def readMessage (bytes : Bytes) : Option (List (Nat × ProtoValue)) :=
  readFields bytes.length bytes

def writeField : Nat × ProtoValue -> Bytes
  | (number, ProtoValue.varint n) => writeVarint (number * 8) ++ writeVarint n
  | (number, ProtoValue.bytes content) =>
      writeVarint (number * 8 + 2) ++ writeVarint content.length ++ content

def writeMessage (fields : List (Nat × ProtoValue)) : Bytes :=
  fields.flatMap writeField

theorem readBytes_append (content rest : Bytes) :
    readBytes content.length (content ++ rest) = some (content, rest) := by
  unfold readBytes
  rw [if_pos (by simp), List.take_left, List.drop_left]

theorem readField_writeField (field : Nat × ProtoValue) (rest : Bytes) :
    readField (writeField field ++ rest) = some (field, rest) := by
  obtain ⟨number, value⟩ := field
  cases value with
  | varint n =>
      have htype : number * 8 % 8 = 0 := by omega
      have hnumber : number * 8 / 8 = number := by omega
      simp only [writeField, List.append_assoc, readField, readVarint_writeVarint,
        htype, hnumber, readValue, Option.map_some]
  | bytes content =>
      have htype : (number * 8 + 2) % 8 = 2 := by omega
      have hnumber : (number * 8 + 2) / 8 = number := by omega
      simp only [writeField, List.append_assoc, readField, readVarint_writeVarint,
        htype, hnumber, readValue, readBytes_append, Option.map_some]

theorem writeField_ne_nil (field : Nat × ProtoValue) : writeField field ≠ [] := by
  obtain ⟨number, value⟩ := field
  cases value with
  | varint n =>
      intro h
      exact writeVarint_ne_nil _ (List.append_eq_nil_iff.mp h).left
  | bytes content =>
      intro h
      have hfront := (List.append_eq_nil_iff.mp h).left
      exact writeVarint_ne_nil _ (List.append_eq_nil_iff.mp hfront).left

theorem readFields_writeMessage (fields : List (Nat × ProtoValue)) (fuel : Nat)
    (h : (writeMessage fields).length ≤ fuel) :
    readFields fuel (writeMessage fields) = some fields := by
  induction fields generalizing fuel with
  | nil =>
      cases fuel with
      | _ => rfl
  | cons field rest ih =>
      have hmessage : writeMessage (field :: rest) =
          writeField field ++ writeMessage rest := rfl
      have hpos := List.length_pos_iff.mpr (writeField_ne_nil field)
      rw [hmessage, List.length_append] at h
      rw [hmessage]
      cases fuel with
      | zero => omega
      | succ fuel =>
          have hread := readField_writeField field (writeMessage rest)
          cases hbytes : writeField field ++ writeMessage rest with
          | nil =>
              exact absurd (List.append_eq_nil_iff.mp hbytes).left
                (writeField_ne_nil field)
          | cons byte bytes =>
              rw [hbytes] at hread
              simp only [readFields, hread]
              rw [ih fuel (by omega)]
              rfl

/-- What is written is read back. -/
theorem readMessage_writeMessage (fields : List (Nat × ProtoValue)) :
    readMessage (writeMessage fields) = some fields :=
  readFields_writeMessage fields _ (Nat.le_refl _)

/-!
## Encoded fields

The fields of a program are read back as well; those that were left out are missing.
-/

/-- The number and the length of a field are small enough to be written. -/
def ProtoField.Fits : ProtoField -> Prop
  | varint number _ => number < 2 ^ 29
  | fixed32 number _ => number < 2 ^ 29
  | bytes number content => number < 2 ^ 29 ∧ content.length < 2 ^ 64
  | message number content => number < 2 ^ 29 ∧ content.length < 2 ^ 64

/-- What a reader finds of a field. -/
def ProtoField.values : ProtoField -> List (Nat × ProtoValue)
  | varint number value =>
      if value = 0 then [] else [(number, ProtoValue.varint value.toNat)]
  | fixed32 number bits =>
      if bits = 0 then [] else [(number, ProtoValue.bytes (bigEndian 4 bits.toNat).reverse)]
  | bytes number content =>
      if content = [] then [] else [(number, ProtoValue.bytes content)]
  | message number content => [(number, ProtoValue.bytes content)]

theorem ProtoField.varint_values (number : Nat) (value : UInt64) :
    (varint number value).values =
      if value = 0 then [] else [(number, ProtoValue.varint value.toNat)] := rfl

theorem ProtoField.bytes_values (number : Nat) (content : Bytes) :
    (bytes number content).values =
      if content = [] then [] else [(number, ProtoValue.bytes content)] := rfl

theorem readVarint_varint (n : UInt64) (rest : Bytes) :
    readVarint (varint n ++ rest) = some (n.toNat, rest) := by
  apply readVarint_varintDigits 9
  have hlt := n.toNat_lt
  omega

theorem readField_protoKey {number wireType : Nat} (hnumber : number < 2 ^ 29)
    (htype : wireType < 8) (rest : Bytes) :
    readField (protoKey number wireType ++ rest) =
      (readValue wireType rest).map fun read => ((number, read.1), read.2) := by
  have hkey : (UInt64.ofNat (number * 8 + wireType)).toNat = number * 8 + wireType :=
    Nat.mod_eq_of_lt (by omega)
  have hmod : (number * 8 + wireType) % 8 = wireType := by omega
  have hdiv : (number * 8 + wireType) / 8 = number := by omega
  unfold readField protoKey
  rw [readVarint_varint, hkey]
  dsimp only
  rw [hmod, hdiv]

theorem readField_delimited {number : Nat} {content : Bytes} (hnumber : number < 2 ^ 29)
    (hlen : content.length < 2 ^ 64) (rest : Bytes) :
    readField (delimited number content ++ rest) =
      some ((number, ProtoValue.bytes content), rest) := by
  have hlength : (UInt64.ofNat content.length).toNat = content.length :=
    Nat.mod_eq_of_lt hlen
  unfold delimited
  rw [List.append_assoc, List.append_assoc, readField_protoKey hnumber (by decide)]
  unfold readValue
  rw [readVarint_varint, hlength]
  dsimp only
  rw [readBytes_append]
  rfl

theorem protoKey_ne_nil (number wireType : Nat) : protoKey number wireType ≠ [] :=
  List.length_pos_iff.mp (varint_length_pos _)

/-- A field that is written is read back, and another one has no bytes. -/
theorem ProtoField.read {field : ProtoField} (h : field.Fits) :
    field.encode = [] ∧ field.values = [] ∨
      field.encode ≠ [] ∧ exists value, field.values = [value] ∧
        forall rest, readField (field.encode ++ rest) = some (value, rest) := by
  cases field with
  | varint number value =>
      simp only [encode, values]
      split
      · exact Or.inl ⟨rfl, rfl⟩
      · refine Or.inr ⟨List.append_ne_nil_of_left_ne_nil (protoKey_ne_nil _ _) _,
          _, rfl, ?_⟩
        intro rest
        rw [List.append_assoc, readField_protoKey h (by decide)]
        unfold readValue
        rw [readVarint_varint]
        rfl
  | fixed32 number bits =>
      simp only [encode, values]
      split
      · exact Or.inl ⟨rfl, rfl⟩
      · have hlen : (bigEndian 4 bits.toNat).reverse.length = 4 := by
          rw [List.length_reverse, bigEndian_length]
        refine Or.inr ⟨List.append_ne_nil_of_left_ne_nil (protoKey_ne_nil _ _) _,
          _, rfl, ?_⟩
        intro rest
        rw [List.append_assoc, readField_protoKey h (by decide)]
        have hread := readBytes_append (bigEndian 4 bits.toNat).reverse rest
        rw [hlen] at hread
        unfold readValue
        rw [hread]
        rfl
  | bytes number content =>
      simp only [encode, values]
      split
      · exact Or.inl ⟨rfl, rfl⟩
      · refine Or.inr ⟨?_, _, rfl, fun rest => readField_delimited h.left h.right rest⟩
        unfold delimited
        rw [List.append_assoc]
        exact List.append_ne_nil_of_left_ne_nil (protoKey_ne_nil _ _) _
  | message number content =>
      simp only [encode, values]
      refine Or.inr ⟨?_, _, rfl, fun rest => readField_delimited h.left h.right rest⟩
      unfold delimited
      rw [List.append_assoc]
      exact List.append_ne_nil_of_left_ne_nil (protoKey_ne_nil _ _) _

theorem readFields_encodeFields (fields : List ProtoField)
    (h : forall field, field ∈ fields -> field.Fits) (fuel : Nat)
    (hfuel : (encodeFields fields).length ≤ fuel) :
    readFields fuel (encodeFields fields) = some (fields.flatMap ProtoField.values) := by
  induction fields generalizing fuel with
  | nil =>
      cases fuel with
      | _ => rfl
  | cons field rest ih =>
      have hrest : forall field, field ∈ rest -> field.Fits :=
        fun other hother => h other (List.mem_cons_of_mem field hother)
      have hmessage : encodeFields (field :: rest) = field.encode ++ encodeFields rest := rfl
      rw [hmessage, List.length_append] at hfuel
      rw [hmessage, List.flatMap_cons]
      rcases ProtoField.read (h field List.mem_cons_self) with
        ⟨hencode, hvalues⟩ | ⟨hencode, value, hvalues, hread⟩
      · rw [hencode, hvalues]
        rw [hencode] at hfuel
        exact ih hrest fuel (by simpa using hfuel)
      · have hpos := List.length_pos_iff.mpr hencode
        have hfield := hread (encodeFields rest)
        cases fuel with
        | zero => omega
        | succ fuel =>
            cases hbytes : field.encode ++ encodeFields rest with
            | nil => exact absurd (List.append_eq_nil_iff.mp hbytes).left hencode
            | cons byte bytes =>
                rw [hbytes] at hfield
                simp only [readFields, hfield]
                rw [ih hrest fuel (by omega), hvalues]
                rfl

/-- What is encoded is read back. -/
theorem readMessage_encodeFields {fields : List ProtoField}
    (h : forall field, field ∈ fields -> field.Fits) :
    readMessage (encodeFields fields) = some (fields.flatMap ProtoField.values) :=
  readFields_encodeFields fields h _ (Nat.le_refl _)

/-!
## Values of a message
-/

/-- A number of a message; the last one counts, and 0 if there is none. -/
def varintOf (number : Nat) (fields : List (Nat × ProtoValue)) : Nat :=
  fields.foldl (fun n field =>
    match field with
    | (k, ProtoValue.varint v) => if k = number then v else n
    | _ => n) 0

def bytesOf (number : Nat) (fields : List (Nat × ProtoValue)) : Bytes :=
  fields.foldl (fun content field =>
    match field with
    | (k, ProtoValue.bytes v) => if k = number then v else content
    | _ => content) []

/-!
A field changes the value of its own number, unless it was left out.
-/

theorem varintOf_varint (number k : Nat) (v : UInt64) (fields : List (Nat × ProtoValue)) :
    varintOf number (fields ++ (ProtoField.varint k v).values) =
      if k = number ∧ v ≠ 0 then v.toNat else varintOf number fields := by
  unfold varintOf
  rw [List.foldl_append, ProtoField.varint_values]
  by_cases hv : v = 0
  · rw [if_pos hv, if_neg (fun h => h.right hv)]
    rfl
  · rw [if_neg hv]
    by_cases hk : k = number
    · rw [if_pos ⟨hk, hv⟩]
      exact if_pos hk
    · rw [if_neg (fun h => hk h.left)]
      exact if_neg hk

theorem varintOf_bytes (number k : Nat) (content : Bytes)
    (fields : List (Nat × ProtoValue)) :
    varintOf number (fields ++ (ProtoField.bytes k content).values) =
      varintOf number fields := by
  unfold varintOf
  rw [List.foldl_append, ProtoField.bytes_values]
  split
  · rfl
  · rfl

theorem bytesOf_varint (number k : Nat) (v : UInt64) (fields : List (Nat × ProtoValue)) :
    bytesOf number (fields ++ (ProtoField.varint k v).values) = bytesOf number fields := by
  unfold bytesOf
  rw [List.foldl_append, ProtoField.varint_values]
  split
  · rfl
  · rfl

theorem bytesOf_bytes (number k : Nat) (content : Bytes)
    (fields : List (Nat × ProtoValue)) :
    bytesOf number (fields ++ (ProtoField.bytes k content).values) =
      if k = number ∧ content ≠ [] then content else bytesOf number fields := by
  unfold bytesOf
  rw [List.foldl_append, ProtoField.bytes_values]
  by_cases hcontent : content = []
  · rw [if_pos hcontent, if_neg (fun h => h.right hcontent)]
    rfl
  · rw [if_neg hcontent]
    by_cases hk : k = number
    · rw [if_pos ⟨hk, hcontent⟩]
      exact if_pos hk
    · rw [if_neg (fun h => hk h.left)]
      exact if_neg hk

end RtsGame
