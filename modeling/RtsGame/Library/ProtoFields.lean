import RtsGame.Library.ProtoReader

/-!
# Typed fields of a message

A parser looks for the fields with a number and reads them as their type says: the last
number counts, the contents of a message that occurs more than once are merged, and the
messages of a repeated field are kept apart.  For each kind of field there is one equation
about what a parser finds of it, so that a whole message is read back by rewriting.
-/

namespace RtsGame

/-- The values of the fields with a number, in order. -/
def valuesOf (number : Nat) (fields : List (Nat × ProtoValue)) : List ProtoValue :=
  fields.filterMap fun field => if field.1 = number then some field.2 else none

namespace ProtoValue

/-- The last varint, and 0 if there is none. -/
def number (values : List ProtoValue) : Nat :=
  values.foldl (fun n value =>
    match value with
    | varint v => v
    | bytes _ => n) 0

/-- The contents of the fields that have one. -/
def contents (values : List ProtoValue) : List Bytes :=
  values.filterMap fun value =>
    match value with
    | varint _ => none
    | bytes content => some content

/-- The last content, and no bytes if there is none. -/
def content (values : List ProtoValue) : Bytes := (contents values).getLastD []

/-- The four bytes of a fixed field as a number; the last one counts. -/
def bits (values : List ProtoValue) : UInt32 :=
  UInt32.ofNat (fromBigEndian (content values).reverse)

/-- The varints of a packed field; there are as many as the bytes say. -/
def readPacked : Nat -> Bytes -> Option (List Nat)
  | _, [] => some []
  | 0, _ :: _ => none
  | fuel + 1, packed =>
      match readVarint packed with
      | none => none
      | some (n, rest) => (readPacked fuel rest).map fun ns => n :: ns

/-- The numbers of a repeated field, packed or one by one. -/
def numbers : List ProtoValue -> Option (List Nat)
  | [] => some []
  | varint n :: rest => (numbers rest).map fun ns => n :: ns
  | bytes content :: rest =>
      match readPacked content.length content with
      | none => none
      | some ns => (numbers rest).map fun ms => ns ++ ms

/-- A message that occurs: the contents of its occurrences are merged. -/
def merged (values : List ProtoValue) : Option Bytes :=
  match contents values with
  | [] => none
  | first :: rest => some (first ++ rest.flatten)

/-- Text is UTF-8. -/
def text (values : List ProtoValue) : Option String :=
  String.fromUTF8? ⟨(content values).toArray⟩

end ProtoValue

/-!
## What is found of a field
-/

namespace ProtoField

def number : ProtoField -> Nat
  | varint number _ => number
  | fixed32 number _ => number
  | bytes number _ => number
  | message number _ => number

/-- The value that a reader finds, if the field is written. -/
def found : ProtoField -> List ProtoValue
  | varint _ value => if value = 0 then [] else [ProtoValue.varint value.toNat]
  | fixed32 _ bits =>
      if bits = 0 then [] else [ProtoValue.bytes (bigEndian 4 bits.toNat).reverse]
  | bytes _ content => if content = [] then [] else [ProtoValue.bytes content]
  | message _ content => [ProtoValue.bytes content]

theorem values_eq (field : ProtoField) :
    field.values = field.found.map fun value => (field.number, value) := by
  cases field with
  | varint k v =>
      simp only [values, found, number]
      split
      · rfl
      · rfl
  | fixed32 k v =>
      simp only [values, found, number]
      split
      · rfl
      · rfl
  | bytes k content =>
      simp only [values, found, number]
      split
      · rfl
      · rfl
  | message k content => rfl

end ProtoField

@[simp] theorem valuesOf_nil (number : Nat) : valuesOf number [] = [] := rfl

@[simp] theorem valuesOf_append (number : Nat) (front back : List (Nat × ProtoValue)) :
    valuesOf number (front ++ back) = valuesOf number front ++ valuesOf number back :=
  List.filterMap_append

/-- A field is found under its number only. -/
@[simp] theorem valuesOf_values (number : Nat) (field : ProtoField) :
    valuesOf number field.values = if field.number = number then field.found else [] := by
  rw [ProtoField.values_eq]
  unfold valuesOf
  rw [List.filterMap_map, Function.comp_def]
  by_cases hnumber : field.number = number
  · simp [hnumber]
  · simp [hnumber]

/-- A repeated field of messages is found whole or not at all. -/
theorem valuesOf_messages {α : Type} (number k : Nat) (encode : α -> Bytes) (items : List α) :
    valuesOf number ((items.map fun item => ProtoField.message k (encode item)).flatMap
        ProtoField.values) =
      if k = number then items.map fun item => ProtoValue.bytes (encode item) else [] := by
  induction items with
  | nil => simp
  | cons item rest ih =>
      rw [List.map_cons, List.flatMap_cons, valuesOf_append, ih, valuesOf_values]
      by_cases hk : k = number
      · simp [hk, ProtoField.number, ProtoField.found]
      · simp [hk, ProtoField.number]

namespace ProtoValue

@[simp] theorem number_found (k : Nat) (v : UInt64) :
    number (ProtoField.varint k v).found = v.toNat := by
  by_cases hv : v = 0
  · simp [hv, number, ProtoField.found]
  · simp [hv, number, ProtoField.found]

@[simp] theorem content_found (k : Nat) (raw : Bytes) :
    content (ProtoField.bytes k raw).found = raw := by
  by_cases hraw : raw = []
  · simp [hraw, content, contents, ProtoField.found]
  · simp [hraw, content, contents, ProtoField.found]

@[simp] theorem bits_found (k : Nat) (v : UInt32) :
    bits (ProtoField.fixed32 k v).found = v := by
  by_cases hv : v = 0
  · simp [hv, bits, content, contents, fromBigEndian, ProtoField.found]
  · have hread : fromBigEndian (bigEndian 4 v.toNat) = v.toNat :=
      fromBigEndian_bigEndian (by have := v.toNat_lt; lia)
    simp [hv, bits, content, contents, hread, ProtoField.found]

@[simp] theorem contents_messages {α : Type} (encode : α -> Bytes) (items : List α) :
    contents (items.map fun item => bytes (encode item)) = items.map encode := by
  unfold contents
  rw [List.filterMap_map]
  exact congrFun List.filterMap_eq_map items

theorem readPacked_varints (ns : List UInt64) (fuel : Nat)
    (h : (ns.flatMap RtsGame.varint).length ≤ fuel) :
    readPacked fuel (ns.flatMap RtsGame.varint) = some (ns.map UInt64.toNat) := by
  induction ns generalizing fuel with
  | nil =>
      cases fuel with
      | _ => rfl
  | cons n rest ih =>
      have hpos := varint_length_pos n
      rw [List.flatMap_cons] at h ⊢
      rw [List.length_append] at h
      cases fuel with
      | zero => lia
      | succ fuel =>
          have hread := readVarint_varint n (rest.flatMap RtsGame.varint)
          cases hbytes : RtsGame.varint n ++ rest.flatMap RtsGame.varint with
          | nil =>
              have hnil := (List.append_eq_nil_iff.mp hbytes).left
              rw [hnil] at hpos
              cases hpos
          | cons byte later =>
              rw [hbytes] at hread
              simp only [readPacked, hread]
              rw [ih fuel (by lia)]
              rfl

/-- A packed field is read back, even if it was left out because it is empty. -/
@[simp] theorem numbers_found (k : Nat) (ns : List UInt64) :
    numbers (ProtoField.bytes k (ns.flatMap RtsGame.varint)).found =
      some (ns.map UInt64.toNat) := by
  unfold ProtoField.found
  by_cases hnil : ns.flatMap RtsGame.varint = []
  · cases ns with
    | nil => rfl
    | cons n rest =>
        have hpos := varint_length_pos n
        rw [List.flatMap_cons] at hnil
        rw [(List.append_eq_nil_iff.mp hnil).left] at hpos
        cases hpos
  · simp only [if_neg hnil]
    unfold numbers
    rw [readPacked_varints ns _ (Nat.le_refl _)]
    simp [numbers]

@[simp] theorem merged_found (k : Nat) (content : Bytes) :
    merged (ProtoField.message k content).found = some content := by
  simp [merged, contents, ProtoField.found]

@[simp] theorem text_found (k : Nat) (s : String) :
    text (ProtoField.bytes k s.toUTF8.data.toList).found = some s := by
  unfold text
  rw [content_found]
  have hvalid : s.toUTF8.IsValidUTF8 := s.isValidUTF8
  unfold String.fromUTF8?
  rw [Array.toArray_toList, dif_pos hvalid]
  rfl

end ProtoValue

/-!
## Lists of messages
-/

/-- Messages that are read back one by one are read back together. -/
theorem mapM_map_some {α β : Type} {encode : α -> β} {decode : β -> Option α}
    {items : List α} (h : forall item, item ∈ items -> decode (encode item) = some item) :
    (items.map encode).mapM decode = some items := by
  induction items with
  | nil => rfl
  | cons item rest ih =>
      rw [List.map_cons, List.mapM_cons, h item List.mem_cons_self,
        ih fun other hother => h other (List.mem_cons_of_mem item hother)]
      rfl

/-!
## Fields by their types
-/

/-- A field of type `uint64`. -/
def uint64Of (values : List ProtoValue) : Nat := ProtoValue.number values

/-- A field of type `uint32`. -/
def uint32Of (values : List ProtoValue) : UInt32 := UInt32.ofNat (ProtoValue.number values)

/-- A field of type `bool`. -/
def boolOf (values : List ProtoValue) : Bool := ProtoValue.number values ≠ 0

/-- A field whose message is read; if it is missing, all its fields have default values. -/
def submessage {α : Type} (read : List (Nat × ProtoValue) -> Option α)
    (values : List ProtoValue) : Option α :=
  (readMessage ((ProtoValue.merged values).getD [])).bind read

/-- A field whose message is read if it occurs. -/
def optionalMessage {α : Type} (read : List (Nat × ProtoValue) -> Option α)
    (values : List ProtoValue) : Option (Option α) :=
  match ProtoValue.merged values with
  | none => some none
  | some content => ((readMessage content).bind read).map some

/-- A repeated field whose messages are read. -/
def submessages {α : Type} (read : List (Nat × ProtoValue) -> Option α)
    (values : List ProtoValue) : Option (List α) :=
  (ProtoValue.contents values).mapM fun content => (readMessage content).bind read

theorem uint64Of_found (k : Nat) {n : Nat} (h : n < 2 ^ 64) :
    uint64Of (ProtoField.varint k (UInt64.ofNat n)).found = n := by
  unfold uint64Of
  rw [ProtoValue.number_found, UInt64.toNat_ofNat']
  exact Nat.mod_eq_of_lt h

theorem uint32Of_found (k : Nat) (n : UInt32) :
    uint32Of (ProtoField.varint k n.toUInt64).found = n := by
  unfold uint32Of
  rw [ProtoValue.number_found, UInt32.toNat_toUInt64]
  exact UInt32.ofNat_toNat

theorem boolOf_found (k : Nat) (b : Bool) :
    boolOf (ProtoField.varint k (UInt64.ofNat b.toNat)).found = b := by
  unfold boolOf
  rw [ProtoValue.number_found]
  cases b with
  | _ => rfl

/-!
## Fields that may be written

A message that is short enough has only fields that may be written, and so have the messages
inside it.
-/

/-- The numbers of the fields take one byte. -/
def FewFields (fields : List ProtoField) : Prop :=
  forall field, field ∈ fields -> field.number < 16

/-- The fields of a message may be written. -/
def Writable (fields : List ProtoField) : Prop := forall field, field ∈ fields -> field.Fits

theorem ProtoField.fits {field : ProtoField} (hnumber : field.number < 16)
    (h : field.encode.length < 2 ^ 64) : field.Fits := by
  have hnumber' : field.number < 2 ^ 29 := Nat.lt_trans hnumber (by decide)
  cases field with
  | varint k v => exact hnumber'
  | fixed32 k v => exact hnumber'
  | bytes k content => exact ⟨hnumber', Nat.lt_of_le_of_lt (le_bytes hnumber content) h⟩
  | message k content =>
      have hle : 2 + content.length ≤ (delimited k content).length :=
        le_delimited_length hnumber content
      have hlength : (delimited k content).length < 2 ^ 64 := h
      exact ⟨hnumber', by lia⟩

theorem encode_length_le {field : ProtoField} {fields : List ProtoField}
    (hfield : field ∈ fields) : field.encode.length ≤ (encodeFields fields).length := by
  rcases List.append_of_mem hfield with ⟨front, back, rfl⟩
  unfold encodeFields
  rw [List.flatMap_append, List.flatMap_cons, List.length_append, List.length_append]
  lia

theorem FewFields.writable {fields : List ProtoField} (h : FewFields fields)
    (hlength : (encodeFields fields).length < 2 ^ 64) : Writable fields :=
  fun field hfield =>
    ProtoField.fits (h field hfield) (Nat.lt_of_le_of_lt (encode_length_le hfield) hlength)

theorem FewFields.append {front back : List ProtoField} (hfront : FewFields front)
    (hback : FewFields back) : FewFields (front ++ back) :=
  List.forall_mem_append.mpr ⟨hfront, hback⟩

theorem FewFields.messages {α : Type} {number : Nat} (hnumber : number < 16)
    (encode : α -> Bytes) (items : List α) :
    FewFields (items.map fun item => ProtoField.message number (encode item)) := by
  intro field hfield
  rcases List.mem_map.mp hfield with ⟨item, _, rfl⟩
  exact hnumber

theorem readMessage_submessage {α : Type} (read : List (Nat × ProtoValue) -> Option α)
    {fields : List ProtoField} (h : Writable fields) :
    (readMessage (encodeFields fields)).bind read = read (fields.flatMap ProtoField.values) := by
  rw [readMessage_encodeFields h]
  rfl

theorem submessage_found {α : Type} (read : List (Nat × ProtoValue) -> Option α) (k : Nat)
    {fields : List ProtoField} (h : Writable fields) :
    submessage read (ProtoField.message k (encodeFields fields)).found =
      read (fields.flatMap ProtoField.values) := by
  unfold submessage
  rw [ProtoValue.merged_found]
  exact readMessage_submessage read h

/-- Messages that are written one after the other are read one after the other. -/
theorem submessages_messages {α : Type} {read : List (Nat × ProtoValue) -> Option α}
    {fieldsOf : α -> List ProtoField} {items : List α}
    (hfit : forall item, item ∈ items -> Writable (fieldsOf item))
    (hread : forall item, item ∈ items ->
      read ((fieldsOf item).flatMap ProtoField.values) = some item) :
    submessages read (items.map fun item => ProtoValue.bytes (encodeFields (fieldsOf item))) =
      some items := by
  unfold submessages
  rw [ProtoValue.contents_messages]
  refine mapM_map_some fun item hitem => ?_
  rw [readMessage_submessage read (hfit item hitem)]
  exact hread item hitem

/-- A message that may be missing is written like a list of at most one. -/
theorem optionalMessage_messages {α : Type} {read : List (Nat × ProtoValue) -> Option α}
    {fieldsOf : α -> List ProtoField} {item : Option α}
    (hfit : forall x, x ∈ item -> Writable (fieldsOf x))
    (hread : forall x, x ∈ item -> read ((fieldsOf x).flatMap ProtoField.values) = some x) :
    optionalMessage read
        (item.toList.map fun x => ProtoValue.bytes (encodeFields (fieldsOf x))) =
      some item := by
  cases item with
  | none => rfl
  | some x =>
      have hparse := readMessage_submessage read (hfit x rfl)
      rw [hread x rfl] at hparse
      simp [optionalMessage, ProtoValue.merged, ProtoValue.contents, hparse]

/-- Items that are all written are written one by one. -/
theorem forall₂_filterMap {α β : Type} {write : α -> Option β} {items : List α}
    (h : forall item, item ∈ items -> (write item).isSome = true) :
    List.Forall₂ (fun item p => write item = some p) items (items.filterMap write) := by
  induction items with
  | nil => exact List.Forall₂.nil
  | cons item rest ih =>
      obtain ⟨p, hp⟩ := Option.isSome_iff_exists.mp (h item List.mem_cons_self)
      rw [List.filterMap_cons_some hp]
      exact List.Forall₂.cons hp (ih fun other hother => h other (List.mem_cons_of_mem item hother))

end RtsGame
