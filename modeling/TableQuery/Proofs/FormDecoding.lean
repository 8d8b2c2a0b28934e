import Mathlib.Data.List.Basic
import TableQuery.Assumed.Text.FormEncoding
import TableQuery.Proofs.ByteOrder
import TableQuery.Proofs.Delimiters
/-!
# Form encoding byte by byte

Encoded text is the UTF-8 bytes of the text one after another, each written by itself (`encode_eq_formText`).

Reading turns a plus into a space, an escape into its byte, and anything else into its own bytes. What comes out
of encoded text are the UTF-8 bytes of the text, so it is decoded to what it was, and no two texts are encoded
alike.
-/

namespace TableQuery.FormEncoding

/-! ## Bytes written -/

def hexDigits : List Char := "0123456789ABCDEF".toList

/-- The byte is that of a letter, a digit or one of `*-._` in ASCII. -/
def IsUnreserved (b : Nat) : Prop :=
  48 ≤ b ∧ b ≤ 57 ∨ 65 ≤ b ∧ b ≤ 90 ∨ 97 ≤ b ∧ b ≤ 122 ∨ b = 42 ∨ b = 45 ∨ b = 46 ∨ b = 95

instance : DecidablePred IsUnreserved := fun _ => inferInstanceAs (Decidable (_ ∨ _))

/-- How a byte stands in encoded text. -/
def byteText (b : UInt8) : List Char :=
  if IsUnreserved b.toNat then [Char.ofNat b.toNat]
  else if b.toNat = 32 then ['+']
  else ['%', hexDigits.getD (b.toNat / 16) '0', hexDigits.getD (b.toNat % 16) '0']

def formText (s : String) : String := String.ofList ((utf8Bytes s).flatMap byteText)

theorem hexDigit_eq {n : Nat} (h : n < 16) : hexDigit n = hexDigits.getD n '0' := by
  revert n
  decide

theorem encodeByte_eq_byteText {b : UInt8} (h : 128 ≤ b.toNat) : encodeByte b = byteText b := by
  have hb := b.toNat_lt
  have hreserved : ¬IsUnreserved b.toNat := by
    unfold IsUnreserved
    omega
  rw [byteText, if_neg hreserved, if_neg (by omega), encodeByte, hexDigit_eq (by omega), hexDigit_eq (by omega)]

/-- A character outside ASCII has no byte in it. -/
theorem le_of_mem_utf8EncodeChar {c : Char} (h : 128 ≤ c.toNat) {b : UInt8} (hb : b ∈ String.utf8EncodeChar c) :
    128 ≤ b.toNat := by
  have hc : ¬c.val.toNat ≤ 127 := Nat.not_le.2 h
  simp only [String.utf8EncodeChar, if_neg hc] at hb
  split_ifs at hb <;> simp only [List.mem_cons, List.not_mem_nil, or_false] at hb
  · rcases hb with rfl | rfl <;> rw [UInt8.toNat_ofNat'] <;> omega
  · rcases hb with rfl | rfl | rfl <;> rw [UInt8.toNat_ofNat'] <;> omega
  · rcases hb with rfl | rfl | rfl | rfl <;> rw [UInt8.toNat_ofNat'] <;> omega

theorem utf8EncodeChar_of_lt {c : Char} (h : c.toNat < 128) :
    String.utf8EncodeChar c = [UInt8.ofNat c.toNat] := by
  have hsize : c.utf8Size = 1 := Char.utf8Size_eq_one_iff.2 (UInt32.le_iff_toNat_le.2 (Nat.le_of_lt_succ h))
  rw [String.utf8EncodeChar_eq_singleton hsize]
  rfl

theorem encodeChar_ofNat {n : Nat} (h : n < 128) : encodeChar (Char.ofNat n) = byteText (UInt8.ofNat n) := by
  revert n
  decide +kernel

theorem toNat_lt_of_isPlain {c : Char} (h : isPlain c = true) : c.toNat < 128 := by
  simp only [isPlain, Char.isAlphanum, Bool.or_eq_true, beq_iff_eq] at h
  rcases h with ((((h | h) | rfl) | rfl) | rfl) | rfl
  · have := toNat_of_isAlpha h
    omega
  · have := toNat_of_isDigit h
    omega
  all_goals decide

theorem encodeChar_eq (c : Char) : encodeChar c = (String.utf8EncodeChar c).flatMap byteText := by
  by_cases h : c.toNat < 128
  · rw [utf8EncodeChar_of_lt h, List.flatMap_singleton, ← encodeChar_ofNat h, Char.ofNat_toNat]
  · -- Outside ASCII no character stands for itself, so all its bytes are escaped.
    have hplain : ¬isPlain c = true := fun hplain => h (toNat_lt_of_isPlain hplain)
    have hspace : c ≠ ' ' := by
      rintro rfl
      exact h (by decide)
    rw [encodeChar, if_neg hplain, if_neg hspace]
    apply List.flatMap_congr
    intro b hb
    exact encodeByte_eq_byteText (le_of_mem_utf8EncodeChar (Nat.not_lt.1 h) hb)

theorem encode_eq_formText (s : String) : encode s = formText s := by
  rw [encode, formText, utf8Bytes_eq, List.flatMap_assoc]
  congr 1
  apply List.flatMap_congr
  intro c _
  exact encodeChar_eq c

/-! ## Bytes read -/

/-- The number that a hexadecimal digit stands for. -/
def hexValue? (c : Char) : Option Nat :=
  if c.isDigit then some (c.toNat - 48)
  else if 'A' ≤ c ∧ c ≤ 'F' then some (c.toNat - 55)
  else if 'a' ≤ c ∧ c ≤ 'f' then some (c.toNat - 87)
  else none

/-- The bytes that encoded text stands for. A percent sign without two digits stands for itself. -/
def bytes : List Char → List UInt8
  | [] => []
  | '%' :: h :: l :: s =>
    match hexValue? h, hexValue? l with
    | some m, some n => UInt8.ofNat (16 * m + n) :: bytes s
    | _, _ => 37 :: bytes (h :: l :: s)
  | '+' :: s => 32 :: bytes s
  | c :: s => String.utf8EncodeChar c ++ bytes s

/-- The text whose UTF-8 bytes encoded text stands for, if they are those of one. -/
def decode? (s : List Char) : Option String := String.fromUTF8? (bytes s).toByteArray

theorem hexValue?_hexDigit {n : Nat} (h : n < 16) : hexValue? (hexDigit n) = some n := by
  revert n
  decide

theorem bytes_encodeByte_append (b : UInt8) (s : List Char) : bytes (encodeByte b ++ s) = b :: bytes s := by
  have hb := b.toNat_lt
  rw [encodeByte, List.cons_append, List.cons_append, List.cons_append, List.nil_append, bytes,
    hexValue?_hexDigit (by omega), hexValue?_hexDigit (by omega)]
  simp only [Nat.div_add_mod, UInt8.ofNat_toNat]

theorem bytes_escaped_append (bs : List UInt8) (s : List Char) :
    bytes (bs.flatMap encodeByte ++ s) = bs ++ bytes s := by
  induction bs with
  | nil => rfl
  | cons b bs ih => rw [List.flatMap_cons, List.append_assoc, bytes_encodeByte_append, ih, List.cons_append]

theorem bytes_cons_of_isPlain {c : Char} (h : isPlain c = true) (s : List Char) :
    bytes (c :: s) = String.utf8EncodeChar c ++ bytes s := by
  have hpercent : c ≠ '%' := by
    rintro rfl
    exact absurd h (by decide)
  have hplus : c ≠ '+' := by
    rintro rfl
    exact absurd h (by decide)
  rw [bytes]
  · intro _ _ _ hc
    exact absurd hc hpercent
  · intro hc
    exact absurd hc hplus

/-- The bytes of an encoded character are those of the character. -/
theorem bytes_encodeChar_append (c : Char) (s : List Char) :
    bytes (encodeChar c ++ s) = String.utf8EncodeChar c ++ bytes s := by
  unfold encodeChar
  split
  · exact bytes_cons_of_isPlain ‹_› s
  · split
    · rename_i h
      subst h
      rfl
    · exact bytes_escaped_append _ _

theorem bytes_encode (s : String) : bytes (encode s).toList = utf8Bytes s := by
  rw [encode, String.toList_ofList, utf8Bytes_eq]
  induction s.toList with
  | nil => rfl
  | cons c cs ih => rw [List.flatMap_cons, List.flatMap_cons, bytes_encodeChar_append, ih]

theorem decode?_encode (s : String) : decode? (encode s).toList = some s := by
  have hbytes : (bytes (encode s).toList).toByteArray = s.toByteArray := by
    rw [bytes_encode, utf8Bytes_eq, ← String.utf8Encode_toList, List.utf8Encode]
  rw [decode?, hbytes, String.fromUTF8?, dif_pos s.isValidUTF8]
  rfl

theorem encode_inj {s t : String} (h : encode s = encode t) : s = t := by
  have hdecode := decode?_encode s
  rw [h, decode?_encode] at hdecode
  exact (Option.some.inj hdecode).symm

/-! ## Separators -/

theorem isPlain_hexDigit {n : Nat} (h : n < 16) : isPlain (hexDigit n) = true := by
  revert n
  decide

theorem mem_encodeChar {c d : Char} (h : d ∈ encodeChar c) :
    isPlain d = true ∨ d = '+' ∨ d = '%' := by
  unfold encodeChar at h
  split at h
  · rw [List.mem_singleton.1 h]
    exact .inl ‹_›
  · split at h
    · exact .inr (.inl (List.mem_singleton.1 h))
    · obtain ⟨b, -, hd⟩ := List.mem_flatMap.1 h
      have hb := b.toNat_lt
      simp only [encodeByte, List.mem_cons, List.not_mem_nil, or_false] at hd
      rcases hd with rfl | rfl | rfl
      · exact .inr (.inr rfl)
      · exact .inl (isPlain_hexDigit (by omega))
      · exact .inl (isPlain_hexDigit (by omega))

/-- Nothing that separates parameters is in encoded text. -/
theorem not_mem_encode {s : String} {c : Char} (hc : isPlain c = false) (hplus : c ≠ '+')
    (hpercent : c ≠ '%') : c ∉ (encode s).toList := by
  intro h
  rw [encode, String.toList_ofList] at h
  obtain ⟨d, -, hmem⟩ := List.mem_flatMap.1 h
  rcases mem_encodeChar hmem with hplain | rfl | rfl
  · rw [hc] at hplain
    cases hplain
  · exact hplus rfl
  · exact hpercent rfl

end TableQuery.FormEncoding
