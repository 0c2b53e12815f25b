import CronLint.Text.Utf8
import CronLint.Proofs.Outcomes

/-!
# Encoding and decoding

What a text is encoded as is decoded to the text again. For each length of a character there is one
lemma about the head of the bytes that it is encoded as.
-/
namespace CronLint.Text.Utf8

theorem toList_loop (bytes : ByteArray) (i : Nat) (found : List UInt8) :
    ByteArray.toList.loop bytes i found = found.reverse ++ bytes.data.toList.drop i := by
  fun_induction ByteArray.toList.loop bytes i found with
  | case1 i found hi ih =>
    have hlength : i < bytes.data.toList.length := hi
    have hget : bytes.get! i = bytes.data.toList[i] := getElem!_pos bytes.data i hi
    rw [ih, List.drop_eq_getElem_cons hlength, hget]
    simp
  | case2 i found hi =>
    have hlength : bytes.data.toList.length ≤ i := Nat.le_of_not_lt hi
    rw [List.drop_eq_nil_of_le hlength, List.append_nil]

theorem encode_eq (s : String) : encode s = s.toList.flatMap String.utf8EncodeChar := by
  rw [encode, String.toUTF8_eq_toByteArray, ← String.utf8Encode_toList, ByteArray.toList,
    toList_loop, List.utf8Encode, List.toList_data_toByteArray]
  rfl

/-! ### The head of an encoded character -/

theorem isContinuation_iff {b : UInt8} :
    isContinuation b = true ↔ 128 ≤ b.toNat ∧ b.toNat ≤ 191 := by
  simp only [isContinuation, Bool.and_eq_true, decide_eq_true_eq, UInt8.le_iff_toNat_le]
  rfl

theorem announced_eq (b : UInt8) : announced b =
    if b.toNat < 128 then 1 else if b.toNat < 194 then 0 else if b.toNat < 224 then 2
      else if b.toNat < 240 then 3 else if b.toNat < 245 then 4 else 0 := by
  simp only [announced, UInt8.lt_iff_toNat_lt]
  rfl

theorem firstBits_eq (b : UInt8) : firstBits b =
    if b.toNat < 128 then b.toNat else if b.toNat < 224 then b.toNat % 32
      else if b.toNat < 240 then b.toNat % 16 else b.toNat % 8 := by
  simp only [firstBits, UInt8.lt_iff_toNat_lt]
  rfl

theorem allowsSecond_iff {a b : UInt8} : allowsSecond a b = true ↔
    isContinuation b = true ∧ (a.toNat = 224 → 160 ≤ b.toNat) ∧ (a.toNat = 237 → b.toNat < 160) ∧
      (a.toNat = 240 → 144 ≤ b.toNat) ∧ (a.toNat = 244 → b.toNat < 144) := by
  simp only [allowsSecond, Bool.and_eq_true, Bool.not_eq_true', Bool.and_eq_false_iff,
    beq_eq_false_iff_ne, decide_eq_false_iff_not, UInt8.lt_iff_toNat_lt, UInt8.le_iff_toNat_le,
    ne_eq, ← UInt8.toNat_inj]
  have h : (0xe0 : UInt8).toNat = 224 ∧ (0xed : UInt8).toNat = 237 ∧ (0xf0 : UInt8).toNat = 240 ∧
      (0xf4 : UInt8).toNat = 244 ∧ (0xa0 : UInt8).toNat = 160 ∧ (0x90 : UInt8).toNat = 144 := by
    decide
  simp only [h, and_assoc]
  refine and_congr_right fun _ => ?_
  omega

theorem toNat_byte {n : Nat} (h : n < 256) : (UInt8.ofNat n).toNat = n := by
  rw [UInt8.toNat_ofNat', Nat.mod_eq_of_lt h]

/-- The continuation byte with the lowest six bits of a number. -/
def tailByte (n : Nat) : UInt8 := UInt8.ofNat (n % 64 + 128)

theorem toNat_tailByte (n : Nat) : (tailByte n).toNat = n % 64 + 128 := toNat_byte (by omega)

theorem isContinuation_tailByte (n : Nat) : isContinuation (tailByte n) = true := by
  rw [isContinuation_iff, toNat_tailByte]
  omega

theorem utf8EncodeChar_eq (x : Char) : String.utf8EncodeChar x =
    if x.toNat ≤ 0x7f then [UInt8.ofNat x.toNat]
    else if x.toNat ≤ 0x7ff then [UInt8.ofNat (x.toNat / 64 % 32 + 192), tailByte x.toNat]
    else if x.toNat ≤ 0xffff then
      [UInt8.ofNat (x.toNat / 4096 % 16 + 224), tailByte (x.toNat / 64), tailByte x.toNat]
    else
      [UInt8.ofNat (x.toNat / 262144 % 8 + 240), tailByte (x.toNat / 4096), tailByte (x.toNat / 64),
        tailByte x.toNat] := rfl

variable {n : Nat} {rest : List UInt8}

theorem readHead_one (h : n < 0x80) :
    readHead (UInt8.ofNat n) rest = .char (Char.ofNat n) 1 := by
  have ha : (UInt8.ofNat n).toNat = n := toNat_byte (by omega)
  have hlength : announced (UInt8.ofNat n) = 1 := by
    rw [announced_eq, ha, if_pos h]
  simp only [readHead, hlength, ha]

theorem readHead_two (h : 0x80 ≤ n ∧ n < 0x800) :
    readHead (UInt8.ofNat (n / 64 % 32 + 192)) (tailByte n :: rest) = .char (Char.ofNat n) 2 := by
  have ha : (UInt8.ofNat (n / 64 % 32 + 192)).toNat = n / 64 % 32 + 192 := toNat_byte (by omega)
  generalize UInt8.ofNat (n / 64 % 32 + 192) = a at ha
  have hlength : announced a = 2 := by
    rw [announced_eq]
    split_ifs <;> omega
  have hbits : firstBits a = a.toNat % 32 := by
    rw [firstBits_eq]
    split_ifs <;> omega
  have hsecond : allowsSecond a (tailByte n) = true :=
    allowsSecond_iff.mpr ⟨isContinuation_tailByte n, by omega⟩
  have hcode : a.toNat % 32 * 64 + (tailByte n).toNat % 64 = n := by
    rw [toNat_tailByte]
    omega
  simp only [readHead, hlength, hsecond, hbits, readContinuation, isContinuation_tailByte, if_true,
    hcode]

theorem readHead_three (h : 0x800 ≤ n ∧ n < 0x10000) (hsurrogate : n < 0xd800 ∨ 0xdfff < n) :
    readHead (UInt8.ofNat (n / 4096 % 16 + 224)) (tailByte (n / 64) :: tailByte n :: rest) =
      .char (Char.ofNat n) 3 := by
  have ha : (UInt8.ofNat (n / 4096 % 16 + 224)).toNat = n / 4096 % 16 + 224 :=
    toNat_byte (by omega)
  generalize UInt8.ofNat (n / 4096 % 16 + 224) = a at ha
  have hlength : announced a = 3 := by
    rw [announced_eq]
    split_ifs <;> omega
  have hbits : firstBits a = a.toNat % 16 := by
    rw [firstBits_eq]
    split_ifs <;> omega
  have hsecond : allowsSecond a (tailByte (n / 64)) = true := by
    rw [allowsSecond_iff, toNat_tailByte]
    exact ⟨isContinuation_tailByte _, by omega⟩
  have hcode : (a.toNat % 16 * 64 + (tailByte (n / 64)).toNat % 64) * 64 +
      (tailByte n).toNat % 64 = n := by
    rw [toNat_tailByte, toNat_tailByte]
    omega
  simp only [readHead, hlength, hsecond, hbits, readContinuation, isContinuation_tailByte, if_true,
    hcode]

theorem readHead_four (h : 0x10000 ≤ n ∧ n < 0x110000) :
    readHead (UInt8.ofNat (n / 262144 % 8 + 240))
        (tailByte (n / 4096) :: tailByte (n / 64) :: tailByte n :: rest) =
      .char (Char.ofNat n) 4 := by
  have ha : (UInt8.ofNat (n / 262144 % 8 + 240)).toNat = n / 262144 % 8 + 240 :=
    toNat_byte (by omega)
  generalize UInt8.ofNat (n / 262144 % 8 + 240) = a at ha
  have hlength : announced a = 4 := by
    rw [announced_eq]
    split_ifs <;> omega
  have hbits : firstBits a = a.toNat % 8 := by
    rw [firstBits_eq]
    split_ifs <;> omega
  have hsecond : allowsSecond a (tailByte (n / 4096)) = true := by
    rw [allowsSecond_iff, toNat_tailByte]
    exact ⟨isContinuation_tailByte _, by omega⟩
  have hcode : ((a.toNat % 8 * 64 + (tailByte (n / 4096)).toNat % 64) * 64 +
      (tailByte (n / 64)).toNat % 64) * 64 + (tailByte n).toNat % 64 = n := by
    rw [toNat_tailByte, toNat_tailByte, toNat_tailByte]
    omega
  simp only [readHead, hlength, hsecond, hbits, readContinuation, isContinuation_tailByte, if_true,
    hcode]

theorem readHead_encodeChar (x : Char) : ∃ first more,
    String.utf8EncodeChar x = first :: more ∧
      ∀ rest, readHead first (more ++ rest) = .char x (more.length + 1) := by
  have hvalid : x.toNat < 0xd800 ∨ (0xdfff < x.toNat ∧ x.toNat < 0x110000) := x.valid
  obtain ⟨n, hn⟩ : ∃ n, x.toNat = n := ⟨_, rfl⟩
  have hx : x = Char.ofNat n := by rw [← hn, Char.ofNat_toNat]
  rw [hn] at hvalid
  rw [utf8EncodeChar_eq, hn, hx]
  split_ifs with h1 h2 h3
  · exact ⟨_, _, rfl, fun rest => readHead_one (by omega)⟩
  · exact ⟨_, _, rfl, fun rest => readHead_two (by omega)⟩
  · exact ⟨_, _, rfl, fun rest => readHead_three (by omega) (by omega)⟩
  · exact ⟨_, _, rfl, fun rest => readHead_four (by omega)⟩

/-! ### Whole texts -/

theorem scanFrom_encode (cs : List Char) (fuel position : Nat) (found : List Char)
    (hfuel : cs.length ≤ fuel) :
    scanFrom fuel position (cs.flatMap String.utf8EncodeChar) found =
      .ok (found.reverse ++ cs, 0) := by
  induction cs generalizing fuel position found with
  | nil => cases fuel <;> simp [scanFrom]
  | cons c cs ih =>
    obtain ⟨fuel, rfl⟩ : ∃ n, fuel = n + 1 := ⟨fuel - 1, by simp at hfuel; omega⟩
    obtain ⟨first, more, hbytes, hhead⟩ := readHead_encodeChar c
    rw [List.flatMap_cons, hbytes, List.cons_append, scanFrom, hhead]
    simp only [Nat.add_sub_cancel, List.drop_left]
    rw [ih fuel _ _ (by simpa using hfuel), List.reverse_cons, List.append_assoc,
      List.singleton_append]

theorem length_le_length_encode (cs : List Char) :
    cs.length ≤ (cs.flatMap String.utf8EncodeChar).length := by
  induction cs with
  | nil => simp
  | cons c cs ih =>
    have hpos := List.length_pos_of_ne_nil (String.utf8EncodeChar_ne_nil (c := c))
    rw [List.flatMap_cons, List.length_append, List.length_cons]
    omega

theorem decode_encode (s : String) : decode (encode s) = .ok s.toList := by
  rw [decode, scan, encode_eq, scanFrom_encode _ _ _ _ (length_le_length_encode _)]
  rfl

theorem decodeStream_encode (s : String) : decodeStream (encode s) = .ok s.toList := by
  rw [decodeStream, decode_encode]
  rfl

end CronLint.Text.Utf8
