import Mathlib.Data.List.DropRight
import Vigil.Text.Base64

/-!
# Reading Base64 back

Bytes that are written in Base64 are read back (`Base64.decode_encode`). Where texts stand in
addresses, two of the characters have others in their place and the padding is left out
(`Base64.encodeUrl`). What is left out is told by the length: the written groups have four
characters each (`Base64.exists_encode_eq`).
-/

namespace Vigil.Text.Base64

/-! ## Digits -/

/-- A digit is read as the number that it stands for. -/
theorem digit?_digit {n : Nat} (h : n < 64) : digit? (digit n) = some n := by
  have hall : ∀ m : Fin 64, digit? (digit m) = some m.val := by decide
  exact hall ⟨n, h⟩

/-- The padding is no digit. -/
theorem digit_ne_pad {n : Nat} (h : n < 64) : digit n ≠ '=' := by
  intro heq
  have := digit?_digit h
  rw [heq] at this
  contradiction

/-- A digit is read as a part of its group. -/
theorem decodeFrom_digit (g : Group) (pads read : Nat) {n : Nat} (h : n < 64) (rest : List Char) :
    decodeFrom g pads read (digit n :: rest) =
      match g.add n with
      | (some b, next) => do return b :: (← decodeFrom next 0 (read + 1) rest)
      | (none, next) => decodeFrom next 0 read rest := by
  rw [decodeFrom, if_neg (digit_ne_pad h)]
  cases hadd : g.add n with
  | mk byte next => cases byte <;> simp only [digit?_digit h, hadd]

/-! ## Groups -/

/-- Three bytes are read from the four digits that write them. -/
theorem decodeFrom_group (read : Nat) (a b c : UInt8) (rest : List UInt8) :
    decodeFrom .zero 0 read (encode (a :: b :: c :: rest)) =
      (fun more => a :: b :: c :: more) <$> decodeFrom .zero 0 (read + 3) (encode rest) := by
  have ha := a.toNat_lt
  have hb := b.toNat_lt
  have hc := c.toNat_lt
  rw [encode]
  generalize hn : (a.toNat * 256 + b.toNat) * 256 + c.toNat = n
  have hfirst : n / 262144 * 4 + n / 4096 % 64 / 16 = a.toNat := by omega
  have hsecond : n / 4096 % 64 % 16 * 16 + n / 64 % 64 / 4 = b.toNat := by omega
  have hthird : n / 64 % 64 % 4 * 64 + n % 64 = c.toNat := by omega
  simp only [decodeFrom_digit _ _ _ (show n / 262144 < 64 by omega),
    decodeFrom_digit _ _ _ (show n / 4096 % 64 < 64 by omega),
    decodeFrom_digit _ _ _ (show n / 64 % 64 < 64 by omega),
    decodeFrom_digit _ _ _ (show n % 64 < 64 by omega), Group.add, hfirst, hsecond, hthird,
    UInt8.ofNat_toNat]
  cases decodeFrom .zero 0 (read + 3) (encode rest) <;> rfl

/-- Bytes are read from the groups that write them, whatever has been read before. -/
theorem decodeFrom_encode (content : List UInt8) (read : Nat) :
    decodeFrom .zero 0 read (encode content) = .ok content := by
  induction content using encode.induct generalizing read with
  -- A whole group is read without any look ahead; what is short of one ends in padding.
  | case1 a b c rest ih =>
    rw [decodeFrom_group, ih]
    rfl
  | case2 a b =>
    have ha := a.toNat_lt
    have hb := b.toNat_lt
    rw [encode]
    generalize hn : (a.toNat * 256 + b.toNat) * 4 = n
    have hfirst : n / 4096 * 4 + n / 64 % 64 / 16 = a.toNat := by omega
    have hsecond : n / 64 % 64 % 16 * 16 + n % 64 / 4 = b.toNat := by omega
    simp only [decodeFrom_digit _ _ _ (show n / 4096 < 64 by omega),
      decodeFrom_digit _ _ _ (show n / 64 % 64 < 64 by omega),
      decodeFrom_digit _ _ _ (show n % 64 < 64 by omega), Group.add, hfirst, hsecond,
      UInt8.ofNat_toNat]
    rfl
  | case3 a =>
    have ha := a.toNat_lt
    rw [encode]
    generalize hn : a.toNat * 16 = n
    have hfirst : n / 64 * 4 + n % 64 / 16 = a.toNat := by omega
    simp only [decodeFrom_digit _ _ _ (show n / 64 < 64 by omega),
      decodeFrom_digit _ _ _ (show n % 64 < 64 by omega), Group.add, hfirst, UInt8.ofNat_toNat]
    rfl
  | case4 => rfl

/-- Bytes are read from what writes them. -/
theorem decode_encode (content : List UInt8) : decode (encode content) = .ok content :=
  decodeFrom_encode content 0

/-- What is written is digits in groups of four, the last of which may end in padding. -/
theorem exists_encode_eq (content : List UInt8) :
    ∃ (digits : List Nat) (pads : Nat),
      encode content = digits.map digit ++ List.replicate pads '=' ∧
      (∀ n ∈ digits, n < 64) ∧ (digits.length + pads) % 4 = 0 ∧ pads < 4 := by
  induction content using encode.induct with
  -- Three bytes give four digits; the one or two of a last group give less, and padding instead.
  | case1 a b c rest ih =>
    obtain ⟨digits, pads, hrest, hlt, hlength, hpads⟩ := ih
    have ha := a.toNat_lt
    have hb := b.toNat_lt
    have hc := c.toNat_lt
    let n := (a.toNat * 256 + b.toNat) * 256 + c.toNat
    refine ⟨n / 262144 :: n / 4096 % 64 :: n / 64 % 64 :: n % 64 :: digits, pads, ?_, ?_, ?_, hpads⟩
    · rw [encode, hrest]
      rfl
    · simp only [List.forall_mem_cons]
      refine ⟨?_, ?_, ?_, ?_, hlt⟩ <;> omega
    · simp only [List.length_cons]
      omega
  | case2 a b =>
    have ha := a.toNat_lt
    have hb := b.toNat_lt
    let n := (a.toNat * 256 + b.toNat) * 4
    refine ⟨[n / 4096, n / 64 % 64, n % 64], 1, rfl, ?_, by simp, by decide⟩
    simp only [List.forall_mem_cons]
    refine ⟨?_, ?_, ?_, List.forall_mem_nil _⟩ <;> omega
  | case3 a =>
    have ha := a.toNat_lt
    let n := a.toNat * 16
    refine ⟨[n / 64, n % 64], 2, rfl, ?_, by simp, by decide⟩
    simp only [List.forall_mem_cons]
    refine ⟨?_, ?_, List.forall_mem_nil _⟩ <;> omega
  | case4 => exact ⟨[], 0, rfl, List.forall_mem_nil _, rfl, by decide⟩

/-! ## Addresses -/

/-- The character that stands for another one in addresses. -/
def toUrl (c : Char) : Char := if c = '+' then '-' else if c = '/' then '_' else c

/-- Bytes as they are written in addresses: in the characters of addresses, without the padding. -/
def encodeUrl (content : List UInt8) : List Char :=
  ((encode content).map toUrl).rdropWhile (· = '=')

/-- A character of the digits in addresses. -/
def IsUrlDigit (c : Char) : Prop := ∃ n < 64, toUrl (digit n) = c

/-- What holds of the 64 digits holds of every digit. -/
theorem IsUrlDigit.forall {p : Char → Prop} (h : ∀ n : Fin 64, p (toUrl (digit n))) {c : Char}
    (hc : IsUrlDigit c) : p c := by
  obtain ⟨n, hn, rfl⟩ := hc
  exact h ⟨n, hn⟩

/-- A digit of the alphabet of addresses is the one that it replaces. -/
theorem ofUrl_toUrl_digit {n : Nat} (h : n < 64) : ofUrl (toUrl (digit n)) = digit n := by
  have hall : ∀ m : Fin 64, ofUrl (toUrl (digit m)) = digit m := by decide
  exact hall ⟨n, h⟩

/-- Digits in addresses followed by padding make up what is written otherwise. -/
theorem exists_encodeUrl_eq (content : List UInt8) :
    ∃ pads, encode content = (encodeUrl content).map ofUrl ++ List.replicate pads '=' ∧
      (∀ c ∈ encodeUrl content, IsUrlDigit c) ∧
      ((encodeUrl content).length + pads) % 4 = 0 ∧ pads < 4 := by
  obtain ⟨digits, pads, hencode, hlt, hlength, hpads⟩ := exists_encode_eq content
  -- No digit is padding, so the padding alone is taken off.
  have hpad {c : Char} : IsUrlDigit c → c ≠ '=' := IsUrlDigit.forall (p := (· ≠ '=')) (by decide)
  have hdigits : ∀ c ∈ digits.map (toUrl ∘ digit), IsUrlDigit c := by
    simp only [List.forall_mem_map]
    exact fun n hn => ⟨n, hlt n hn, rfl⟩
  have hurl : encodeUrl content = digits.map (toUrl ∘ digit) := by
    rw [encodeUrl, hencode, List.map_append, List.map_map, List.map_replicate, List.rdropWhile,
      List.reverse_append, List.dropWhile_append_of_pos (by simp [toUrl])]
    refine List.rdropWhile_eq_self_iff.mpr fun hne => ?_
    simpa using hpad (hdigits _ (List.getLast_mem hne))
  refine ⟨pads, ?_, ?_, ?_, hpads⟩
  · rw [hencode, hurl, List.map_map]
    congr 1
    exact List.map_congr_left fun n hn => (ofUrl_toUrl_digit (hlt n hn)).symm
  · rwa [hurl]
  · rwa [hurl, List.length_map]

end Vigil.Text.Base64
