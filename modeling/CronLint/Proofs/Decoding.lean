import CronLint.Proofs.Encoding

/-!
# What decodes

Bytes are decoded to a text if and only if the text is encoded as these bytes. For each length of a
character there is one lemma about what the character in hand is encoded as.
-/
namespace CronLint.Text.Utf8

variable {a b c d : UInt8} {n : Nat} {x : Char}

/-! ### The bytes of a character -/

theorem byte_eq (h : n = a.toNat) : UInt8.ofNat n = a := by
  rw [h, UInt8.ofNat_toNat]

theorem tailByte_eq (h : n % 64 + 128 = a.toNat) : tailByte n = a := byte_eq h

theorem toNat_charOfNat (h : n.isValidChar) : (Char.ofNat n).toNat = n := by
  rw [Char.ofNat, dif_pos h]
  rfl

theorem encodeChar_ofNat (h : n.isValidChar) : String.utf8EncodeChar (Char.ofNat n) =
    if n ≤ 0x7f then [UInt8.ofNat n]
    else if n ≤ 0x7ff then [UInt8.ofNat (n / 64 % 32 + 192), tailByte n]
    else if n ≤ 0xffff then [UInt8.ofNat (n / 4096 % 16 + 224), tailByte (n / 64), tailByte n]
    else
      [UInt8.ofNat (n / 262144 % 8 + 240), tailByte (n / 4096), tailByte (n / 64), tailByte n] := by
  rw [utf8EncodeChar_eq, toNat_charOfNat h]

theorem encodeChar_one (ha : a.toNat < 128) : String.utf8EncodeChar (Char.ofNat a.toNat) = [a] := by
  rw [encodeChar_ofNat (Or.inl (by omega)), if_pos (by omega), UInt8.ofNat_toNat]

theorem encodeChar_two (ha : 194 ≤ a.toNat ∧ a.toNat < 224) (hb : isContinuation b = true) :
    String.utf8EncodeChar (Char.ofNat (a.toNat % 32 * 64 + b.toNat % 64)) = [a, b] := by
  rw [isContinuation_iff] at hb
  rw [encodeChar_ofNat (Or.inl (by omega)), if_neg (by omega), if_pos (by omega),
    byte_eq (a := a) (by omega), tailByte_eq (a := b) (by omega)]

theorem encodeChar_three (ha : 224 ≤ a.toNat ∧ a.toNat < 240) (hb : allowsSecond a b = true)
    (hc : isContinuation c = true) :
    String.utf8EncodeChar
      (Char.ofNat ((a.toNat % 16 * 64 + b.toNat % 64) * 64 + c.toNat % 64)) = [a, b, c] := by
  rw [allowsSecond_iff, isContinuation_iff] at hb
  rw [isContinuation_iff] at hc
  have hvalid : ((a.toNat % 16 * 64 + b.toNat % 64) * 64 + c.toNat % 64).isValidChar := by
    unfold Nat.isValidChar
    omega
  rw [encodeChar_ofNat hvalid, if_neg (by omega), if_neg (by omega), if_pos (by omega),
    byte_eq (a := a) (by omega), tailByte_eq (a := b) (by omega), tailByte_eq (a := c) (by omega)]

theorem encodeChar_four (ha : 240 ≤ a.toNat ∧ a.toNat < 245) (hb : allowsSecond a b = true)
    (hc : isContinuation c = true) (hd : isContinuation d = true) :
    String.utf8EncodeChar
      (Char.ofNat (((a.toNat % 8 * 64 + b.toNat % 64) * 64 + c.toNat % 64) * 64 +
        d.toNat % 64)) = [a, b, c, d] := by
  rw [allowsSecond_iff, isContinuation_iff] at hb
  rw [isContinuation_iff] at hc hd
  have hvalid : (((a.toNat % 8 * 64 + b.toNat % 64) * 64 + c.toNat % 64) * 64 +
      d.toNat % 64).isValidChar := by
    unfold Nat.isValidChar
    omega
  rw [encodeChar_ofNat hvalid, if_neg (by omega), if_neg (by omega), if_neg (by omega),
    byte_eq (a := a) (by omega), tailByte_eq (a := b) (by omega), tailByte_eq (a := c) (by omega),
    tailByte_eq (a := d) (by omega)]

/-! ### The head of some bytes -/

theorem readContinuation_eq_char {missing read bits length : Nat} {bytes : List UInt8}
    (h : readContinuation missing read bits bytes = .char x length) :
    ∃ more left, bytes = more ++ left ∧ more.length = missing ∧ length = read + missing ∧
      (∀ b ∈ more, isContinuation b = true) ∧
      x = Char.ofNat (more.foldl (fun bits b => bits * 64 + b.toNat % 64) bits) := by
  induction missing generalizing read bits bytes with
  | zero =>
    obtain ⟨rfl, rfl⟩ := Head.char.inj h
    exact ⟨[], bytes, rfl, rfl, rfl, by simp, rfl⟩
  | succ missing ih =>
    cases bytes with
    | nil => cases h
    | cons b rest =>
      rw [readContinuation] at h
      split_ifs at h with hb
      obtain ⟨more, left, rfl, hmore, hlength, hall, hx⟩ := ih h
      refine ⟨b :: more, left, rfl, by simp [hmore], by omega, ?_, hx⟩
      exact List.forall_mem_cons.mpr ⟨hb, hall⟩

theorem announced_cases (a : UInt8) :
    announced a = 0 ∨
    announced a = 1 ∧ a.toNat < 128 ∨
    announced a = 2 ∧ firstBits a = a.toNat % 32 ∧ 194 ≤ a.toNat ∧ a.toNat < 224 ∨
    announced a = 3 ∧ firstBits a = a.toNat % 16 ∧ 224 ≤ a.toNat ∧ a.toNat < 240 ∨
    announced a = 4 ∧ firstBits a = a.toNat % 8 ∧ 240 ≤ a.toNat ∧ a.toNat < 245 := by
  rw [announced_eq, firstBits_eq]
  split_ifs <;> omega

/-- A character of several bytes, the second of which is held against the first. -/
theorem readHead_eq_char {rest : List UInt8} {missing length : Nat}
    (hlength : announced a = missing + 2) (h : readHead a rest = .char x length) :
    ∃ b more left, rest = (b :: more) ++ left ∧ more.length = missing ∧ length = missing + 2 ∧
      allowsSecond a b = true ∧ (∀ c ∈ more, isContinuation c = true) ∧
      x = Char.ofNat
        ((b :: more).foldl (fun bits b => bits * 64 + b.toNat % 64) (firstBits a)) := by
  cases rest with
  | nil => simp [readHead, hlength] at h
  | cons b tail =>
    simp only [readHead, hlength] at h
    split_ifs at h with hsecond
    obtain ⟨more, left, hrest, hmore, hread, hall, hx⟩ := readContinuation_eq_char h
    cases more with
    | nil => simp at hmore
    | cons c more =>
      obtain ⟨rfl, -⟩ := List.cons.inj hrest
      obtain ⟨-, hall⟩ := List.forall_mem_cons.mp hall
      exact ⟨b, more, left, hrest, by simpa using hmore, by omega, hsecond, hall, hx⟩

theorem encodeChar_of_readHead {rest : List UInt8} {length : Nat}
    (h : readHead a rest = .char x length) :
    ∃ more left, rest = more ++ left ∧ length = more.length + 1 ∧
      String.utf8EncodeChar x = a :: more := by
  obtain hzero | ⟨hone, ha⟩ | ⟨htwo, hbits, ha⟩ | ⟨hthree, hbits, ha⟩ | ⟨hfour, hbits, ha⟩ :=
    announced_cases a
  · simp [readHead, hzero] at h
  · simp only [readHead, hone] at h
    obtain ⟨rfl, rfl⟩ := Head.char.inj h
    exact ⟨[], rest, rfl, rfl, encodeChar_one ha⟩
  · obtain ⟨b, more, left, hrest, hmore, rfl, hb, -, rfl⟩ := readHead_eq_char htwo h
    obtain rfl := List.length_eq_zero_iff.mp hmore
    refine ⟨[b], left, hrest, rfl, ?_⟩
    simp only [List.foldl_cons, List.foldl_nil, hbits]
    exact encodeChar_two ha (allowsSecond_iff.mp hb).1
  · obtain ⟨b, more, left, hrest, hmore, rfl, hb, hall, rfl⟩ := readHead_eq_char hthree h
    obtain ⟨c, rfl⟩ := List.length_eq_one_iff.mp hmore
    refine ⟨[b, c], left, hrest, rfl, ?_⟩
    simp only [List.foldl_cons, List.foldl_nil, hbits]
    exact encodeChar_three ha hb (hall c (by simp))
  · obtain ⟨b, more, left, hrest, hmore, rfl, hb, hall, rfl⟩ := readHead_eq_char hfour h
    obtain ⟨c, d, rfl⟩ := List.length_eq_two.mp hmore
    refine ⟨[b, c, d], left, hrest, rfl, ?_⟩
    simp only [List.foldl_cons, List.foldl_nil, hbits]
    exact encodeChar_four ha hb (hall c (by simp)) (hall d (by simp))

/-! ### Whole texts -/

/-- What is scanned is the text so far and the bytes at the end that wait for more. -/
theorem bytes_of_scanFrom {fuel position left : Nat} {bytes : List UInt8} {found text : List Char}
    (hfuel : bytes.length ≤ fuel) (h : scanFrom fuel position bytes found = .ok (text, left)) :
    ∃ cs rest, text = found.reverse ++ cs ∧ bytes = cs.flatMap String.utf8EncodeChar ++ rest ∧
      rest.length = left := by
  induction fuel generalizing position bytes found with
  | zero =>
    obtain rfl := List.length_eq_zero_iff.mp (Nat.le_zero.mp hfuel)
    cases h
    exact ⟨[], [], by simp, rfl, rfl⟩
  | succ fuel ih =>
    cases bytes with
    | nil =>
      cases h
      exact ⟨[], [], by simp, rfl, rfl⟩
    | cons a rest =>
      rw [scanFrom] at h
      cases hhead : readHead a rest with
      | char c length =>
        obtain ⟨more, tail, rfl, rfl, hbytes⟩ := encodeChar_of_readHead hhead
        simp only [hhead, Nat.add_sub_cancel, List.drop_left] at h
        have hshort : tail.length ≤ fuel := by
          simp only [List.length_cons, List.length_append] at hfuel
          omega
        obtain ⟨cs, rest, rfl, rfl, hrest⟩ := ih hshort h
        refine ⟨c :: cs, rest, by simp, ?_, hrest⟩
        rw [List.flatMap_cons, hbytes, List.cons_append, List.cons_append, List.append_assoc]
      | invalid fault length =>
        rw [hhead] at h
        cases h
      | incomplete =>
        rw [hhead] at h
        cases h
        exact ⟨[], a :: rest, by simp, rfl, rfl⟩

theorem encode_ofList (cs : List Char) :
    encode (String.ofList cs) = cs.flatMap String.utf8EncodeChar := by
  rw [encode_eq, String.toList_ofList]

/-- The bytes that are a text. -/
def IsText (bytes : List UInt8) : Prop := ∃ text : String, encode text = bytes

theorem decode_eq_ok_iff {bytes : List UInt8} {cs : List Char} :
    decode bytes = .ok cs ↔ encode (String.ofList cs) = bytes := by
  constructor
  · intro h
    unfold decode scan at h
    obtain ⟨⟨text, left⟩, hscan, h⟩ := bind_eq_ok_iff.mp h
    dsimp only at h
    split_ifs at h with hleft
    · obtain rfl := pure_eq_ok_iff.mp h
      obtain ⟨cs, rest, rfl, hbytes, hrest⟩ := bytes_of_scanFrom le_rfl hscan
      obtain rfl := List.length_eq_zero_iff.mp (hrest.trans hleft)
      rw [encode_ofList, hbytes, List.append_nil]
  · rintro rfl
    rw [decode_encode, String.toList_ofList]

theorem isText_iff {bytes : List UInt8} : IsText bytes ↔ ∃ cs, decode bytes = .ok cs := by
  simp only [decode_eq_ok_iff]
  constructor
  · rintro ⟨text, rfl⟩
    exact ⟨text.toList, by rw [String.ofList_toList]⟩
  · rintro ⟨cs, hcs⟩
    exact ⟨_, hcs⟩

end CronLint.Text.Utf8
