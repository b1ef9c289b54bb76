import Bearer.Credential.Csrf
import Mathlib.Logic.Function.Basic

/-!
# The random bytes of a CSRF token

A CSRF token is as hard to guess as the bytes that it is made of, because none of them is lost: the
text of the token stands for these bytes, and for no others. It is made of the characters of the
base64 alphabet, with `=` only at its end, where the last group is filled up.

* `digitValue?_digit`, `inAlphabet_digit`: six bits as a character and back.
* `decode?_encode`, `encode_injective`: bytes that are written are read back.
* `encode_eq_digits`: what is written, and what fills up.
* `Csrf.keeps_randomness`: all of it for a token, whatever bytes are drawn.
-/
namespace Bearer

namespace Text.Base64

/-! ## Characters -/

/-- A character that stands for six bits. -/
def InAlphabet (c : Char) : Prop :=
  ('A' ≤ c ∧ c ≤ 'Z') ∨ ('a' ≤ c ∧ c ≤ 'z') ∨ ('0' ≤ c ∧ c ≤ '9') ∨ c = '+' ∨ c = '/'

instance (c : Char) : Decidable (InAlphabet c) :=
  inferInstanceAs (Decidable (_ ∨ _))

theorem digitValue?_digit {n : Nat} (h : n < 64) : digitValue? (digit n) = some n := by
  revert n
  decide

theorem inAlphabet_digit {n : Nat} (h : n < 64) : InAlphabet (digit n) := by
  revert n
  decide

theorem digit_ne_pad {n : Nat} (h : n < 64) : digit n ≠ '=' := by
  intro he
  have hpad := inAlphabet_digit h
  rw [he] at hpad
  revert hpad
  decide

/-! ## Groups of characters -/

section Groups

variable {w x y z : Nat} (hw : w < 64) (hx : x < 64)

include hw hx

/-- Two characters with two behind them that fill up. -/
theorem decode?_two : decode? [digit w, digit x, '=', '='] =
    if x % 16 = 0 then some [UInt8.ofNat (w * 4 + x / 16)] else none := by
  rw [decode?, digitValue?_digit hw, digitValue?_digit hx]
  rfl

/-- Three characters with one behind them that fills up. -/
theorem decode?_three (hy : y < 64) : decode? [digit w, digit x, digit y, '='] =
    if y % 4 = 0 then
      some [UInt8.ofNat (w * 4 + x / 16), UInt8.ofNat (x % 16 * 16 + y / 4)]
    else none := by
  rw [decode?, digitValue?_digit hw, digitValue?_digit hx, digitValue?_digit hy]
  · rfl
  · exact digit_ne_pad hy

/-- A whole group in front of others. -/
theorem decode?_four (hy : y < 64) (hz : z < 64) (cs : List Char) :
    decode? (digit w :: digit x :: digit y :: digit z :: cs) = (decode? cs).map fun bs =>
      UInt8.ofNat (w * 4 + x / 16) :: UInt8.ofNat (x % 16 * 16 + y / 4) ::
        UInt8.ofNat (y % 4 * 64 + z) :: bs := by
  rw [decode?, digitValue?_digit hw, digitValue?_digit hx, digitValue?_digit hy,
    digitValue?_digit hz]
  · cases decode? cs <;> rfl
  · exact fun _ h _ => digit_ne_pad hz h
  · exact fun h _ => digit_ne_pad hz h

end Groups

/-! ## Texts -/

/-- The bytes that are written are read back. -/
theorem decode?_encode (bs : List UInt8) : decode? (encode bs) = some bs := by
  fun_induction encode bs with
  | case1 => rfl
  | case2 a =>
    have ha := a.toNat_lt
    have hbits : a.toNat / 4 * 4 + a.toNat % 4 * 16 / 16 = a.toNat := by omega
    rw [decode?_two (by omega) (by omega), if_pos (by omega), hbits, UInt8.ofNat_toNat]
  | case3 a b =>
    have ha := a.toNat_lt
    have hb := b.toNat_lt
    have hbits : a.toNat / 4 * 4 + (a.toNat % 4 * 16 + b.toNat / 16) / 16 = a.toNat := by omega
    have hbits' : (a.toNat % 4 * 16 + b.toNat / 16) % 16 * 16 + b.toNat % 16 * 4 / 4 = b.toNat := by
      omega
    rw [decode?_three (by omega) (by omega) (by omega), if_pos (by omega), hbits, hbits',
      UInt8.ofNat_toNat, UInt8.ofNat_toNat]
  | case4 a b c rest ih =>
    have ha := a.toNat_lt
    have hb := b.toNat_lt
    have hc := c.toNat_lt
    have hbits : a.toNat / 4 * 4 + (a.toNat % 4 * 16 + b.toNat / 16) / 16 = a.toNat := by omega
    have hbits' : (a.toNat % 4 * 16 + b.toNat / 16) % 16 * 16 +
        (b.toNat % 16 * 4 + c.toNat / 64) / 4 = b.toNat := by omega
    have hbits'' : (b.toNat % 16 * 4 + c.toNat / 64) % 4 * 64 + c.toNat % 64 = c.toNat := by omega
    rw [decode?_four (by omega) (by omega) (by omega) (by omega), ih, Option.map_some, hbits,
      hbits', hbits'', UInt8.ofNat_toNat, UInt8.ofNat_toNat, UInt8.ofNat_toNat]

theorem encode_injective : Function.Injective encode := fun bs bs' h => by
  have hread := congrArg decode? h
  rwa [decode?_encode, decode?_encode, Option.some.injEq] at hread

/-- Groups of six bits are written, and behind them what the last group lacks is filled up. -/
theorem encode_eq_digits (bs : List UInt8) :
    ∃ ns : List Nat, encode bs = ns.map digit ++ List.replicate ((3 - bs.length % 3) % 3) '=' ∧
      ∀ n ∈ ns, n < 64 := by
  fun_induction encode bs with
  | case1 => exact ⟨[], rfl, by simp⟩
  | case2 a =>
    have ha := a.toNat_lt
    refine ⟨[a.toNat / 4, a.toNat % 4 * 16], rfl, ?_⟩
    simp only [List.mem_cons, List.not_mem_nil, or_false, forall_eq_or_imp, forall_eq]
    omega
  | case3 a b =>
    have ha := a.toNat_lt
    have hb := b.toNat_lt
    refine ⟨[a.toNat / 4, a.toNat % 4 * 16 + b.toNat / 16, b.toNat % 16 * 4], rfl, ?_⟩
    simp only [List.mem_cons, List.not_mem_nil, or_false, forall_eq_or_imp, forall_eq]
    omega
  | case4 a b c rest ih =>
    have ha := a.toNat_lt
    have hb := b.toNat_lt
    have hc := c.toNat_lt
    obtain ⟨ns, hns, hlt⟩ := ih
    have hlength : (a :: b :: c :: rest).length % 3 = rest.length % 3 := by
      simp only [List.length_cons]
      omega
    rw [hlength, hns]
    refine ⟨a.toNat / 4 :: (a.toNat % 4 * 16 + b.toNat / 16) ::
      (b.toNat % 16 * 4 + c.toNat / 64) :: c.toNat % 64 :: ns, rfl, ?_⟩
    simp only [List.mem_cons, forall_eq_or_imp]
    exact ⟨by omega, by omega, by omega, by omega, hlt⟩

end Text.Base64

namespace Csrf

open Text.Base64

theorem toList_text_ofBytes (bytes : List UInt8) : (ofBytes bytes).text.toList = encode bytes :=
  String.toList_ofList

theorem ofBytes_injective : Function.Injective ofBytes := fun bytes other h =>
  encode_injective (by rw [← toList_text_ofBytes, h, toList_text_ofBytes])

/-- Whatever bytes are drawn, and however many, their token gives them back, so it is the token of
no other bytes; and its text is a base64 text of the length that they need. -/
theorem keeps_randomness (bytes : List UInt8) :
    decode? (ofBytes bytes).text.toList = some bytes ∧
    (∀ other, ofBytes bytes = ofBytes other ↔ bytes = other) ∧
    (ofBytes bytes).text.length = 4 * ((bytes.length + 2) / 3) ∧
    ∃ cs, (ofBytes bytes).text.toList = cs ++ List.replicate ((3 - bytes.length % 3) % 3) '=' ∧
      ∀ c ∈ cs, InAlphabet c := by
  rw [← String.length_toList, toList_text_ofBytes]
  obtain ⟨ns, hns, hlt⟩ := encode_eq_digits bytes
  refine ⟨decode?_encode bytes, fun other => ofBytes_injective.eq_iff, length_encode bytes,
    ns.map digit, hns, fun c hc => ?_⟩
  obtain ⟨n, hn, rfl⟩ := List.mem_map.1 hc
  exact inAlphabet_digit (hlt n hn)

end Csrf

end Bearer
