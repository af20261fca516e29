import Vigil.Text.Utf8

/-!
# Texts as bytes

A text that is written in UTF-8 is read back from its bytes (`Text.Utf8.decodeLossy_encode`): the
bytes of each character are read as that character, whatever follows them
(`Text.Utf8.first_utf8EncodeChar`).
-/

namespace Vigil.Text.Utf8

/-! ## Bytes as numbers -/

/-- The bytes that continue a character are those from 128 to 191. -/
theorem isContinuation_iff {b : UInt8} : isContinuation b ↔ 128 ≤ b.toNat ∧ b.toNat < 192 := by
  simp [isContinuation, UInt8.lt_iff_toNat_lt, UInt8.le_iff_toNat_le]

/-- The second byte of a character continues it, and is in the narrower range that some first bytes
ask for. -/
theorem mayFollow_iff {b second : UInt8} :
    mayFollow b second ↔ 128 ≤ second.toNat ∧ second.toNat < 192 ∧
      (b.toNat = 0xE0 → 0xA0 ≤ second.toNat) ∧ (b.toNat = 0xED → second.toNat < 0xA0) ∧
      (b.toNat = 0xF0 → 0x90 ≤ second.toNat) ∧ (b.toNat = 0xF4 → second.toNat < 0x90) := by
  simp [mayFollow, isContinuation_iff, UInt8.lt_iff_toNat_lt, UInt8.le_iff_toNat_le,
    ← UInt8.toNat_inj, and_assoc, Decidable.imp_iff_not_or]

/-- A number below 256 is that of its byte. -/
theorem toNat_ofNat_of_lt {n : Nat} (h : n < 256) : (UInt8.ofNat n).toNat = n := by
  rw [UInt8.toNat_ofNat', Nat.mod_eq_of_lt h]

/-! ## The characters of each width -/

section First

variable {v : Nat} {b second third fourth : UInt8} (rest : List UInt8)

/-- One byte is read as the character that it is. -/
theorem first_one (hb : b.toNat = v) (hv : v < 128) : first b rest = .char (Char.ofNat v) 1 := by
  have hlow : b < 0x80 := by
    rw [UInt8.lt_iff_toNat_lt, hb]
    exact hv
  unfold first
  rw [if_pos hlow, hb]

/-- A byte that begins a character of more bytes is neither one by itself nor no beginning. -/
theorem first_of_wide (hlow : 0xC2 ≤ b.toNat) (hhigh : b.toNat < 0xF5) :
    ¬b < 0x80 ∧ ¬(b < 0xC2 || 0xF5 ≤ b) := by
  simp only [UInt8.lt_iff_toNat_lt, UInt8.le_iff_toNat_le, Bool.or_eq_true, decide_eq_true_eq]
  change ¬b.toNat < 128 ∧ ¬(b.toNat < 194 ∨ 245 ≤ b.toNat)
  omega

/-- Two bytes are read as the character that they make up. -/
theorem first_two (hb : b.toNat = v / 64 + 192) (hsecond : second.toNat = v % 64 + 128)
    (hlow : 128 ≤ v) (hhigh : v < 2048) :
    first b (second :: rest) = .char (Char.ofNat v) 2 := by
  obtain ⟨hone, hbad⟩ := first_of_wide (b := b) (by omega) (by omega)
  have hmay : mayFollow b second := mayFollow_iff.mpr (by omega)
  have htwo : b < 0xE0 := UInt8.lt_iff_toNat_lt.mpr (by change b.toNat < 224; omega)
  have hvalue : b.toNat % 32 * 64 + payload second = v := by
    rw [payload]
    omega
  simp only [first, if_neg hone, if_neg hbad, hmay, if_pos htwo, hvalue]
  rfl

/-- Three bytes are read as the character that they make up. -/
theorem first_three (hb : b.toNat = v / 4096 + 224) (hsecond : second.toNat = v / 64 % 64 + 128)
    (hthird : third.toNat = v % 64 + 128) (hlow : 2048 ≤ v) (hhigh : v < 65536)
    (hsurrogate : ¬(0xD800 ≤ v ∧ v ≤ 0xDFFF)) :
    first b (second :: third :: rest) = .char (Char.ofNat v) 3 := by
  obtain ⟨hone, hbad⟩ := first_of_wide (b := b) (by omega) (by omega)
  have hmay : mayFollow b second := mayFollow_iff.mpr (by omega)
  have hcontinues : isContinuation third := isContinuation_iff.mpr (by omega)
  have htwo : ¬b < 0xE0 := mt UInt8.lt_iff_toNat_lt.mp (by change ¬b.toNat < 224; omega)
  have hthree : b < 0xF0 := UInt8.lt_iff_toNat_lt.mpr (by change b.toNat < 240; omega)
  have hvalue : b.toNat % 16 * 4096 + payload second * 64 + payload third = v := by
    rw [payload, payload]
    omega
  simp only [first, if_neg hone, if_neg hbad, hmay, if_neg htwo, hcontinues, if_pos hthree, hvalue]
  rfl

/-- Four bytes are read as the character that they make up. -/
theorem first_four (hb : b.toNat = v / 262144 + 240) (hsecond : second.toNat = v / 4096 % 64 + 128)
    (hthird : third.toNat = v / 64 % 64 + 128) (hfourth : fourth.toNat = v % 64 + 128)
    (hlow : 65536 ≤ v) (hhigh : v < 0x110000) :
    first b (second :: third :: fourth :: rest) = .char (Char.ofNat v) 4 := by
  obtain ⟨hone, hbad⟩ := first_of_wide (b := b) (by omega) (by omega)
  have hmay : mayFollow b second := mayFollow_iff.mpr (by omega)
  have hcontinues : isContinuation third := isContinuation_iff.mpr (by omega)
  have hends : isContinuation fourth := isContinuation_iff.mpr (by omega)
  have htwo : ¬b < 0xE0 := mt UInt8.lt_iff_toNat_lt.mp (by change ¬b.toNat < 224; omega)
  have hthree : ¬b < 0xF0 := mt UInt8.lt_iff_toNat_lt.mp (by change ¬b.toNat < 240; omega)
  have hvalue : b.toNat % 8 * 262144 + payload second * 4096 + payload third * 64 +
      payload fourth = v := by
    rw [payload, payload, payload]
    omega
  simp only [first, if_neg hone, if_neg hbad, hmay, if_neg htwo, hcontinues, if_neg hthree, hends,
    hvalue]
  rfl

end First

/-- The bytes of a character are read as the character, whatever follows them. -/
theorem first_utf8EncodeChar (c : Char) :
    ∃ b tail, String.utf8EncodeChar c = b :: tail ∧
      ∀ rest, first b (tail ++ rest) = .char c (tail.length + 1) := by
  have hvalid : c.val.toNat < 0xD800 ∨ 0xDFFF < c.val.toNat ∧ c.val.toNat < 0x110000 := c.valid
  have hc : Char.ofNat c.val.toNat = c := Char.ofNat_toNat c
  have hone := @first_one c.val.toNat
  have htwo := @first_two c.val.toNat
  have hthree := @first_three c.val.toNat
  have hfour := @first_four c.val.toNat
  rw [hc] at hone htwo hthree hfour
  -- The code point tells how many bytes there are.
  unfold String.utf8EncodeChar
  dsimp only
  split
  · exact ⟨_, [], rfl, fun rest => hone rest (toNat_ofNat_of_lt (by omega)) (by omega)⟩
  · split
    · refine ⟨_, [_], rfl, fun rest => htwo rest ?_ ?_ (by omega) (by omega)⟩
      · rw [toNat_ofNat_of_lt (by omega)]; omega
      · rw [toNat_ofNat_of_lt (by omega)]
    · split
      · refine ⟨_, [_, _], rfl, fun rest => hthree rest ?_ ?_ ?_ (by omega) (by omega) (by omega)⟩
        · rw [toNat_ofNat_of_lt (by omega)]; omega
        · rw [toNat_ofNat_of_lt (by omega)]
        · rw [toNat_ofNat_of_lt (by omega)]
      · refine ⟨_, [_, _, _], rfl, fun rest => hfour rest ?_ ?_ ?_ ?_ (by omega) (by omega)⟩
        · rw [toNat_ofNat_of_lt (by omega)]; omega
        · rw [toNat_ofNat_of_lt (by omega)]
        · rw [toNat_ofNat_of_lt (by omega)]
        · rw [toNat_ofNat_of_lt (by omega)]

/-! ## Whole texts -/

/-- Going through an array of bytes gives its list. -/
theorem toList_loop_eq (bytes : ByteArray) (i : Nat) (done : List UInt8) :
    ByteArray.toList.loop bytes i done = done.reverse ++ bytes.data.toList.drop i := by
  fun_induction ByteArray.toList.loop bytes i done with
  | case1 i done hlt ih =>
    have hi : i < bytes.data.toList.length := by simpa using hlt
    rw [ih, List.drop_eq_getElem_cons hi]
    simp [ByteArray.get!, hlt]
  | case2 i done hge =>
    rw [List.drop_eq_nil_of_le (by simpa using Nat.le_of_not_lt hge), List.append_nil]

/-- The bytes of a text are those of its characters, one after the other. -/
theorem encode_ofList (cs : List Char) :
    encode (String.ofList cs) = cs.flatMap String.utf8EncodeChar := by
  rw [encode, String.toUTF8, String.toByteArray_ofList, List.utf8Encode, ByteArray.toList,
    toList_loop_eq, List.toList_data_toByteArray]
  rfl

/-- Encoded characters are decoded as themselves, given enough steps. -/
theorem decodeLossyFrom_flatMap {cs : List Char} {fuel : Nat}
    (h : (cs.flatMap String.utf8EncodeChar).length ≤ fuel) :
    decodeLossyFrom fuel (cs.flatMap String.utf8EncodeChar) = cs := by
  -- Each character uses one step, and writing it has used at least one byte.
  induction cs generalizing fuel with
  | nil => cases fuel <;> rfl
  | cons c cs ih =>
    obtain ⟨b, tail, hbytes, hfirst⟩ := first_utf8EncodeChar c
    rw [List.flatMap_cons, hbytes] at h ⊢
    simp only [List.cons_append, List.length_cons, List.length_append] at h
    obtain ⟨fuel, rfl⟩ : ∃ n, fuel = n + 1 := ⟨fuel - 1, by omega⟩
    rw [List.cons_append, decodeLossyFrom, hfirst]
    dsimp only
    rw [Nat.add_sub_cancel, List.drop_left, ih (by omega)]

/-- A text is read back from its bytes. -/
theorem decodeLossy_encode (s : String) : decodeLossy (encode s) = s := by
  obtain ⟨cs, rfl⟩ : ∃ cs, s = String.ofList cs := ⟨s.toList, String.ofList_toList.symm⟩
  rw [decodeLossy, encode_ofList, decodeLossyFrom_flatMap (Nat.le_refl _)]

end Vigil.Text.Utf8
