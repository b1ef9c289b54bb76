import Bearer.Text.Utf8

/-!
# UTF-8 that is read back

What characters are written to is well formed, so either reader takes them back. A character has one
to four bytes; the lead byte tells how many, and no byte of it needs to be seen together with what
follows.

* `parts_encodeChar`: the bytes of a character in front of others.
* `decodeLossy_encode`, `decode?_encode`: text is read back as it was written.
-/
namespace Bearer.Text.Utf8

/-! ## Bytes -/

theorem toNat_ofNat {n : Nat} (h : n < 256) : (UInt8.ofNat n).toNat = n := by
  rw [UInt8.toNat_ofNat', Nat.mod_eq_of_lt h]

theorem ofNat_lt_iff {m n : Nat} (hm : m < 256) (hn : n < 256) :
    UInt8.ofNat m < UInt8.ofNat n ↔ m < n := by
  rw [UInt8.lt_iff_toNat_lt, toNat_ofNat hm, toNat_ofNat hn]

theorem ofNat_le_iff {m n : Nat} (hm : m < 256) (hn : n < 256) :
    UInt8.ofNat m ≤ UInt8.ofNat n ↔ m ≤ n := by
  rw [UInt8.le_iff_toNat_le, toNat_ofNat hm, toNat_ofNat hn]

theorem ofNat_eq_iff {m n : Nat} (hm : m < 256) (hn : n < 256) :
    UInt8.ofNat m = UInt8.ofNat n ↔ m = n := by
  rw [← UInt8.toNat_inj, toNat_ofNat hm, toNat_ofNat hn]

/-- How many bytes a character has, by the number that its lead byte is. -/
theorem width?_ofNat {n : Nat} (h : n < 256) :
    width? (UInt8.ofNat n) =
      if n < 0x80 then some 1 else if n < 0xc2 then none else if n < 0xe0 then some 2
      else if n < 0xf0 then some 3 else if n < 0xf5 then some 4 else none := by
  have hlt : ∀ m < 256, (UInt8.ofNat n < UInt8.ofNat m) = (n < m) := fun m hm =>
    propext (ofNat_lt_iff h hm)
  have h1 := hlt 0x80 (by decide)
  have h2 := hlt 0xc2 (by decide)
  have h3 := hlt 0xe0 (by decide)
  have h4 := hlt 0xf0 (by decide)
  have h5 := hlt 0xf5 (by decide)
  unfold width?
  simp only [← h1, ← h2, ← h3, ← h4, ← h5]
  rfl

/-- A byte that carries six bits continues a character. -/
theorem isContinuation_ofNat {n : Nat} (h : n < 64) :
    isContinuation (UInt8.ofNat (0x80 + n)) = true := by
  have hlow : UInt8.ofNat 0x80 ≤ UInt8.ofNat (0x80 + n) :=
    (ofNat_le_iff (by decide) (by omega)).2 (by omega)
  have hhigh : UInt8.ofNat (0x80 + n) ≤ UInt8.ofNat 0xbf :=
    (ofNat_le_iff (by omega) (by decide)).2 (by omega)
  unfold isContinuation
  rw [Bool.and_eq_true, decide_eq_true_eq, decide_eq_true_eq]
  exact ⟨hlow, hhigh⟩

theorem payload_ofNat {n : Nat} (h : n < 64) : payload (UInt8.ofNat (0x80 + n)) = n := by
  rw [payload, toNat_ofNat (by omega)]
  omega

/-- The second byte of a longer character, by the number that its lead byte is. -/
theorem mayFollow_ofNat {l n : Nat} (hl : l < 256) (h : n < 64) (he0 : l = 0xe0 → 0x20 ≤ n)
    (hed : l = 0xed → n < 0x20) (hf0 : l = 0xf0 → 0x10 ≤ n) (hf4 : l = 0xf4 → n < 0x10) :
    mayFollow (UInt8.ofNat l) (UInt8.ofNat (0x80 + n)) = true := by
  have hne : ∀ m < 256, (UInt8.ofNat l != UInt8.ofNat m) = true ∨ l = m := fun m hm => by
    by_cases hlm : l = m
    · exact .inr hlm
    · exact .inl (bne_iff_ne.2 fun he => hlm ((ofNat_eq_iff hl hm).1 he))
  have hle : ∀ m < 256, m ≤ 0x80 + n → decide (UInt8.ofNat m ≤ UInt8.ofNat (0x80 + n)) = true :=
    fun m hm hmn => decide_eq_true ((ofNat_le_iff hm (by omega)).2 hmn)
  have hge : ∀ m < 256, 0x80 + n ≤ m → decide (UInt8.ofNat (0x80 + n) ≤ UInt8.ofNat m) = true :=
    fun m hm hmn => decide_eq_true ((ofNat_le_iff (by omega) hm).2 hmn)
  unfold mayFollow
  simp only [Bool.and_eq_true, Bool.or_eq_true]
  refine ⟨⟨⟨⟨isContinuation_ofNat h, ?_⟩, ?_⟩, ?_⟩, ?_⟩
  · exact (hne 0xe0 (by decide)).imp_right fun hl => hle 0xa0 (by decide) (by have := he0 hl; omega)
  · exact (hne 0xed (by decide)).imp_right fun hl => hge 0x9f (by decide) (by have := hed hl; omega)
  · exact (hne 0xf0 (by decide)).imp_right fun hl => hle 0x90 (by decide) (by have := hf0 hl; omega)
  · exact (hne 0xf4 (by decide)).imp_right fun hl => hge 0x8f (by decide) (by have := hf4 hl; omega)

/-! ## Characters -/

/-- A front that is a character takes its bytes off. -/
theorem parts_of_front (extra : Nat) {lead : UInt8} {rest tail : List UInt8} {c : Char}
    (h : front lead rest = ⟨some c, extra⟩) (htail : rest.drop extra = tail) :
    parts (lead :: rest) = some c :: parts tail := by
  rw [parts, h, htail]

theorem isValidChar_toNat (c : Char) : c.toNat < 0xd800 ∨ 0xdfff < c.toNat ∧ c.toNat < 0x110000 :=
  c.valid

theorem parts_encodeChar (c : Char) (rest : List UInt8) :
    parts (encodeChar c ++ rest) = some c :: parts rest := by
  have hvalid := isValidChar_toNat c
  have hself : ∀ n, n = c.toNat → Char.ofNat n = c := fun n hn => by rw [hn, Char.ofNat_toNat]
  unfold encodeChar
  simp only
  generalize hn : c.toNat = n at *
  split
  · refine parts_of_front 0 ?_ rfl
    have hw : width? (UInt8.ofNat n) = some 1 := by
      rw [width?_ofNat (by omega)]
      simp [*]
    unfold front
    rw [hw]
    simp only [toNat_ofNat (show n < 256 by omega), hself n rfl]
  split
  · simp only [List.cons_append, List.nil_append]
    refine parts_of_front 1 ?_ rfl
    have hw : width? (UInt8.ofNat (0xc0 + n / 64)) = some 2 := by
      rw [width?_ofNat (by omega), if_neg (by omega), if_neg (by omega), if_pos (by omega)]
    have hb : n % 64 < 64 := Nat.mod_lt _ (by decide)
    unfold front
    rw [hw]
    simp only [isContinuation_ofNat hb, if_true, payload_ofNat hb,
      toNat_ofNat (show 0xc0 + n / 64 < 256 by omega)]
    rw [hself _ (by omega)]
  split
  · simp only [List.cons_append, List.nil_append]
    refine parts_of_front 2 ?_ rfl
    have hw : width? (UInt8.ofNat (0xe0 + n / 4096)) = some 3 := by
      rw [width?_ofNat (by omega), if_neg (by omega), if_neg (by omega), if_neg (by omega),
        if_pos (by omega)]
    have hb : n / 64 % 64 < 64 := Nat.mod_lt _ (by decide)
    have hc : n % 64 < 64 := Nat.mod_lt _ (by decide)
    have hfollow :
        mayFollow (UInt8.ofNat (0xe0 + n / 4096)) (UInt8.ofNat (0x80 + n / 64 % 64)) = true :=
      mayFollow_ofNat (by omega) hb (by omega) (by omega) (by omega) (by omega)
    unfold front
    rw [hw]
    simp only [hfollow, isContinuation_ofNat hc, if_true,
      payload_ofNat hb, payload_ofNat hc, toNat_ofNat (show 0xe0 + n / 4096 < 256 by omega)]
    rw [hself _ (by omega)]
  · simp only [List.cons_append, List.nil_append]
    refine parts_of_front 3 ?_ rfl
    have hw : width? (UInt8.ofNat (0xf0 + n / 262144)) = some 4 := by
      rw [width?_ofNat (by omega), if_neg (by omega), if_neg (by omega), if_neg (by omega),
        if_neg (by omega), if_pos (by omega)]
    have hb : n / 4096 % 64 < 64 := Nat.mod_lt _ (by decide)
    have hc : n / 64 % 64 < 64 := Nat.mod_lt _ (by decide)
    have hd : n % 64 < 64 := Nat.mod_lt _ (by decide)
    have hfollow : mayFollow (UInt8.ofNat (0xf0 + n / 262144)) (UInt8.ofNat (0x80 + n / 4096 % 64)) =
        true := mayFollow_ofNat (by omega) hb (by omega) (by omega) (by omega) (by omega)
    unfold front
    rw [hw]
    simp only [hfollow, isContinuation_ofNat hc,
      isContinuation_ofNat hd, if_true, payload_ofNat hb, payload_ofNat hc, payload_ofNat hd,
      toNat_ofNat (show 0xf0 + n / 262144 < 256 by omega)]
    rw [hself _ (by omega)]

/-! ## Text -/

theorem parts_encode (s : List Char) : parts (encode s) = s.map some := by
  induction s with
  | nil => simp [parts]
  | cons c s ih => rw [encode_cons, parts_encodeChar, ih, List.map_cons]

/-- What is written is read back, where malformed parts would be replaced. -/
theorem decodeLossy_encode (s : List Char) : decodeLossy (encode s) = s := by
  rw [decodeLossy, parts_encode, List.map_map]
  exact List.map_id s

/-- It is read back where malformed parts would be refused as well. -/
theorem decode?_encode (s : List Char) : decode? (encode s) = some s := by
  rw [decode?, parts_encode]
  induction s with
  | nil => rfl
  | cons c s ih => simp [List.mapM_cons, ih]

end Bearer.Text.Utf8
