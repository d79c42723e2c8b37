import Mathlib.Data.List.Lex
import Parlance.Json.Fault

/-!
# The order of strings and of their bytes

Names are compared by code points, which is how their UTF-8 bytes compare.

Results:
1. `encoded_append_lt`: of two characters the smaller one has the smaller bytes.
2. `lt_iff_bytes_lt`: so do strings.
3. `length_le_utf8ByteSize`: a string has no more characters than bytes.
4. `eq_of_byteCount_eq`: of the texts that a text begins with, no two have as many bytes.
-/

namespace Parlance

/-! ## Bytes of characters -/

theorem byteCount_append (front back : List Char) :
    byteCount (front ++ back) = byteCount front + byteCount back := by
  induction front with
  | nil => exact (Nat.zero_add _).symm
  | cons c rest ih =>
    rw [List.cons_append, byteCount, ih, byteCount, Nat.add_assoc]

theorem byteCount_eq (cs : List Char) : byteCount cs = (String.ofList cs).utf8ByteSize := by
  induction cs with
  | nil => rfl
  | cons c rest ih => simp [byteCount, ih, String.ofList_cons]

/-- Two beginnings of one text with as many bytes are the same. -/
theorem eq_of_byteCount_eq {front other back rest : List Char}
    (h : front ++ back = other ++ rest) (hbytes : byteCount front = byteCount other) :
    front = other := by
  induction front generalizing other with
  | nil =>
    cases other with
    | nil => rfl
    | cons c other =>
      have hpos := c.utf8Size_pos
      rw [byteCount, byteCount] at hbytes
      omega
  | cons c front ih =>
    cases other with
    | nil =>
      have hpos := c.utf8Size_pos
      rw [byteCount, byteCount] at hbytes
      omega
    | cons d other =>
      obtain ⟨rfl, hrest⟩ := List.cons.inj h
      rw [ih hrest (Nat.add_left_cancel hbytes)]

namespace Text

/-- The UTF-8 bytes of a string. -/
def bytes (s : String) : List UInt8 :=
  s.toUTF8.data.toList

theorem bytes_eq (s : String) : bytes s = s.toList.flatMap String.utf8EncodeChar := by
  rw [bytes, String.toUTF8_eq_toByteArray, ← String.utf8Encode_toList, List.utf8Encode,
    List.toList_data_toByteArray]

theorem cons_lt_of_lt {m n : Nat} (h : m < n) (hn : n < 256) (more others : List UInt8) :
    UInt8.ofNat m :: more < UInt8.ofNat n :: others :=
  List.Lex.rel ((UInt8.ofNat_lt_iff_lt (Nat.lt_trans h hn) hn).2 h)

theorem cons_lt_of_eq {m n : Nat} (h : m = n) {more others : List UInt8} (hmore : more < others) :
    UInt8.ofNat m :: more < UInt8.ofNat n :: others :=
  h ▸ List.Lex.cons hmore

/-! ## Encodings of one length -/

section

variable {m n : Nat} (h : m < n) (more others : List UInt8)

include h

theorem lastByte_lt (hsame : m / 64 = n / 64) :
    UInt8.ofNat (m % 64 + 128) :: more < UInt8.ofNat (n % 64 + 128) :: others :=
  cons_lt_of_lt (by omega) (by omega) more others

theorem lastTwoBytes_lt (hsame : m / 4096 = n / 4096) :
    UInt8.ofNat (m / 64 % 64 + 128) :: UInt8.ofNat (m % 64 + 128) :: more <
      UInt8.ofNat (n / 64 % 64 + 128) :: UInt8.ofNat (n % 64 + 128) :: others := by
  by_cases hlt : m / 64 < n / 64
  · exact cons_lt_of_lt (by omega) (by omega) _ _
  · exact cons_lt_of_eq (by omega) (lastByte_lt h more others (by omega))

theorem lastThreeBytes_lt (hsame : m / 262144 = n / 262144) :
    UInt8.ofNat (m / 4096 % 64 + 128) :: UInt8.ofNat (m / 64 % 64 + 128) ::
        UInt8.ofNat (m % 64 + 128) :: more <
      UInt8.ofNat (n / 4096 % 64 + 128) :: UInt8.ofNat (n / 64 % 64 + 128) ::
        UInt8.ofNat (n % 64 + 128) :: others := by
  by_cases hlt : m / 4096 < n / 4096
  · exact cons_lt_of_lt (by omega) (by omega) _ _
  · exact cons_lt_of_eq (by omega) (lastTwoBytes_lt h more others (by omega))

theorem twoBytes_lt (hn : n ≤ 2047) :
    UInt8.ofNat (m / 64 % 32 + 192) :: UInt8.ofNat (m % 64 + 128) :: more <
      UInt8.ofNat (n / 64 % 32 + 192) :: UInt8.ofNat (n % 64 + 128) :: others := by
  by_cases hlt : m / 64 < n / 64
  · exact cons_lt_of_lt (by omega) (by omega) _ _
  · exact cons_lt_of_eq (by omega) (lastByte_lt h more others (by omega))

theorem threeBytes_lt (hn : n ≤ 65535) :
    UInt8.ofNat (m / 4096 % 16 + 224) :: UInt8.ofNat (m / 64 % 64 + 128) ::
        UInt8.ofNat (m % 64 + 128) :: more <
      UInt8.ofNat (n / 4096 % 16 + 224) :: UInt8.ofNat (n / 64 % 64 + 128) ::
        UInt8.ofNat (n % 64 + 128) :: others := by
  by_cases hlt : m / 4096 < n / 4096
  · exact cons_lt_of_lt (by omega) (by omega) _ _
  · exact cons_lt_of_eq (by omega) (lastTwoBytes_lt h more others (by omega))

theorem fourBytes_lt (hn : n < 0x110000) :
    UInt8.ofNat (m / 262144 % 8 + 240) :: UInt8.ofNat (m / 4096 % 64 + 128) ::
        UInt8.ofNat (m / 64 % 64 + 128) :: UInt8.ofNat (m % 64 + 128) :: more <
      UInt8.ofNat (n / 262144 % 8 + 240) :: UInt8.ofNat (n / 4096 % 64 + 128) ::
        UInt8.ofNat (n / 64 % 64 + 128) :: UInt8.ofNat (n % 64 + 128) :: others := by
  by_cases hlt : m / 262144 < n / 262144
  · exact cons_lt_of_lt (by omega) (by omega) _ _
  · exact cons_lt_of_eq (by omega) (lastThreeBytes_lt h more others (by omega))

end

/-! ## Characters -/

theorem val_lt (c : Char) : c.val.toNat < 0x110000 := by
  have hvalid := c.valid
  simp only [UInt32.isValidChar, Nat.isValidChar] at hvalid
  omega

/-- Of two characters the bytes of the smaller one come first, whatever follows. -/
theorem encoded_append_lt {c d : Char} (h : c < d) (more others : List UInt8) :
    String.utf8EncodeChar c ++ more < String.utf8EncodeChar d ++ others := by
  have hval : c.val.toNat < d.val.toNat := UInt32.lt_iff_toNat_lt.1 h
  have hlimit := val_lt d
  unfold String.utf8EncodeChar
  generalize c.val.toNat = m at hval
  generalize d.val.toNat = n at hval hlimit
  dsimp only
  -- The smaller number has no more bytes than the larger one. If it has fewer, its first byte is
  -- smaller.
  repeat' split
  all_goals first
    | omega
    | exact cons_lt_of_lt (by omega) (by omega) _ _
    | exact twoBytes_lt hval more others (by omega)
    | exact threeBytes_lt hval more others (by omega)
    | exact fourBytes_lt hval more others hlimit

/-! ## Strings -/

theorem flatMap_encoded_lt {cs ds : List Char} (h : cs < ds) :
    cs.flatMap String.utf8EncodeChar < ds.flatMap String.utf8EncodeChar := by
  induction h with
  | @nil d ds =>
    obtain ⟨b, bs, heq⟩ := List.exists_cons_of_ne_nil (String.utf8EncodeChar_ne_nil (c := d))
    rw [List.flatMap_cons, heq]
    exact List.Lex.nil
  | rel hlt => exact encoded_append_lt hlt _ _
  | cons _ ih => exact List.Lex.append_left _ ih _

theorem lt_iff_bytes_lt {s t : String} : s < t ↔ bytes s < bytes t := by
  rw [bytes_eq, bytes_eq]
  constructor
  · exact flatMap_encoded_lt
  · intro h
    by_contra hnot
    rcases Std.le_iff_lt_or_eq.1 (String.not_lt.1 hnot) with hlt | rfl
    · exact List.lt_asymm h (flatMap_encoded_lt hlt)
    · exact List.lt_irrefl _ h

/-! ## Lengths -/

theorem length_le_utf8ByteSize (s : String) : s.length ≤ s.utf8ByteSize := by
  induction s using String.push_induction with
  | empty => exact Nat.le_refl 0
  | push front c ih =>
    rw [String.length_push, String.utf8ByteSize_push]
    exact Nat.add_le_add ih c.utf8Size_pos

end Text

end Parlance
