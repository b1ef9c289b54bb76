import Bearer.Proofs.Secrecy.Urls
import Bearer.Proofs.Url.Forms

/-!
# Hosts that are read

A host that is read is in normal form. It is an IPv6 address, or it is of ASCII characters among
which are no capitals but those of escapes, so that putting it in small letters again changes
nothing else. No character of it ends the front of a URL.

* `isSmall_lowerChars`, `isSmall_encode?`: what international names are put into.
* `readHost_isRead`: all kinds of hosts.
* `renormalized_host`: what bringing a host into normal form again does to it.
-/
namespace Bearer.Url

/-! ## Small letters -/

/-- An ASCII character that is no capital and does not end the front of a URL. -/
structure IsSmall (c : Char) : Prop where
  ascii : c.toNat < 128
  small : c.toLower = c
  inFront : endsFront c = false

instance (c : Char) : Decidable (IsSmall c) :=
  decidable_of_iff (c.toNat < 128 ∧ c.toLower = c ∧ endsFront c = false)
    ⟨fun h => ⟨h.1, h.2.1, h.2.2⟩, fun h => ⟨h.ascii, h.small, h.inFront⟩⟩

/-- What holds of the first 128 code points holds of ASCII characters. -/
theorem forall_ascii {p : Char → Prop} (h : ∀ n < 128, p (Char.ofNat n)) {c : Char}
    (hc : c.toNat < 128) : p c :=
  Char.ofNat_toNat c ▸ h c.toNat hc

theorem isSmall_toLower {c : Char} (hc : c.toNat < 128) (hfront : endsFront c = false) :
    IsSmall c.toLower :=
  forall_ascii (p := fun c => endsFront c = false → IsSmall c.toLower) (by decide +kernel) hc hfront

/-- No small letter of a capital is in front of the small letters of ASCII. -/
theorem le_partner {n m : Nat} (h : Text.partner? Text.capitals n = some m) : 97 ≤ m := by
  have hrows : ∀ r ∈ Text.capitals, 97 ≤ (r.row.first : Int) + r.distance := by decide +kernel
  obtain ⟨r, hr, rfl⟩ := Option.map_eq_some_iff.1 h
  have hfirst := hrows r (List.mem_of_find?_eq_some hr)
  have hcontains := List.find?_some hr
  simp only [Text.Row.contains, Bool.and_eq_true, decide_eq_true_eq] at hcontains
  omega

theorem isSmall_ofNat {m : Nat} (h : 97 ≤ m) (hascii : (Char.ofNat m).toNat < 128) :
    IsSmall (Char.ofNat m) := by
  by_cases hm : m < 128
  · have hsmall : ∀ n < 128, 97 ≤ n → IsSmall (Char.ofNat n) := by decide +kernel
    exact hsmall m hm h
  · -- a number that is no code point stands for the first one
    by_cases hvalid : m.isValidChar
    · rw [Char.ofNat, dif_pos hvalid] at hascii
      exact absurd hascii hm
    · rw [Char.ofNat, dif_neg hvalid]
      decide

theorem isSmall_lowerChar {c d : Char} (hfront : endsFront c = false) (hd : d ∈ Text.lowerChar c)
    (hascii : d.toNat < 128) : IsSmall d := by
  unfold Text.lowerChar at hd
  split at hd
  · rename_i hc
    rw [List.mem_singleton.1 hd]
    exact isSmall_toLower hc hfront
  split at hd
  · rcases List.mem_cons.1 hd with rfl | hd
    · decide
    · rw [List.mem_singleton.1 hd] at hascii
      exact absurd hascii (by decide)
  · rename_i hc _
    rw [List.mem_singleton.1 hd] at hascii ⊢
    cases hp : Text.partner? Text.capitals c.toNat with
    | none =>
      rw [hp] at hascii
      exact absurd hascii hc
    | some m =>
      rw [hp] at hascii
      exact isSmall_ofNat (le_partner hp) hascii

theorem isSmall_lowerBehind {s : List Char} (hs : ∀ c ∈ s, endsFront c = false) (before : List Char) :
    ∀ d ∈ Text.lowerBehind before s, d.toNat < 128 → IsSmall d := by
  induction s generalizing before with
  | nil => exact nofun
  | cons c s ih =>
    obtain ⟨hc, hs⟩ := List.forall_mem_cons.1 hs
    intro d hd hascii
    rcases List.mem_append.1 hd with hd | hd
    · split at hd
      · -- neither sigma is ASCII
        rw [List.mem_singleton.1 hd] at hascii
        unfold Text.sigmaBetween at hascii
        split at hascii <;> exact absurd hascii (by decide)
      · exact isSmall_lowerChar hc hd hascii
    · exact ih hs _ d hd hascii

/-- The ASCII characters of a text in small letters. -/
theorem isSmall_lowerChars {s : List Char} (hs : ∀ c ∈ s, endsFront c = false) :
    ∀ d ∈ Text.lowerChars s, d.toNat < 128 → IsSmall d :=
  isSmall_lowerBehind hs []

/-! ## International names -/

namespace Punycode

theorem isSmall_digit : ∀ n < 36, IsSmall (digit n) := by
  decide

theorem isSmall_gap (bias place n : Nat) : ∀ c ∈ gap bias place n, IsSmall c := by
  have hle := threshold_le bias place
  have hpos := threshold_pos bias place
  rw [gap]
  split
  · intro c hc
    rw [List.mem_singleton.1 hc]
    exact isSmall_digit n (by omega)
  · have hmod := Nat.mod_lt (n - threshold bias place) (show 0 < 36 - threshold bias place by omega)
    exact List.forall_mem_cons.2 ⟨isSmall_digit _ (by omega), isSmall_gap bias (place + 36) _⟩
termination_by n
decreasing_by
  have := Nat.div_le_self (n - threshold bias place) (36 - threshold bias place)
  omega

theorem isSmall_pass {p : Progress} (hp : ∀ c ∈ p.digits, IsSmall c) (point : Nat) (c : Char) :
    ∀ d ∈ (pass point p c).digits, IsSmall d := by
  unfold pass
  split
  · exact hp
  split
  · exact List.forall_mem_append.2 ⟨fun d hd => isSmall_gap _ _ _ d (List.mem_reverse.1 hd), hp⟩
  · exact hp

theorem isSmall_foldl_pass {p : Progress} (hp : ∀ c ∈ p.digits, IsSmall c) (point : Nat)
    (s : List Char) : ∀ d ∈ (s.foldl (pass point) p).digits, IsSmall d := by
  induction s generalizing p with
  | nil => exact hp
  | cons c s ih => exact ih (isSmall_pass hp point c)

theorem isSmall_putIn {p : Progress} (hp : ∀ c ∈ p.digits, IsSmall c) (s : List Char) (next : Nat)
    (points : List Nat) : ∀ d ∈ (putIn s next p points).digits, IsSmall d := by
  induction points generalizing next p with
  | nil => exact hp
  | cons point points ih =>
    have hfold := isSmall_foldl_pass (p := { p with gap := p.gap + (point - next) * (p.count + 1) })
      hp point s
    unfold putIn
    refine ih ?_ _
    exact hfold

/-- What a text is written to in Punycode, if its own ASCII characters are small. -/
theorem isSmall_encode {s : List Char} (hs : ∀ c ∈ s, c.toNat < 128 → IsSmall c) :
    ∀ c ∈ encode s, IsSmall c := by
  refine List.forall_mem_append.2 ⟨List.forall_mem_append.2 ⟨fun c hc => ?_, ?_⟩, fun c hc => ?_⟩
  · obtain ⟨hmem, hascii⟩ := List.mem_filter.1 hc
    exact hs c hmem (of_decide_eq_true hascii)
  · split
    · exact nofun
    · exact fun c hc => List.mem_singleton.1 hc ▸ by decide
  · exact isSmall_putIn (p := { count := _ }) nofun _ _ _ c (List.mem_reverse.1 hc)

end Punycode

theorem isSmall_write? {s t : List Char} (hs : ∀ c ∈ s, c.toNat < 128 → IsSmall c)
    (h : Label.write? s = some t) : ∀ c ∈ t, IsSmall c := by
  unfold Label.write? at h
  split at h
  · rename_i hascii
    obtain ⟨-, h⟩ := Option.ite_none_left_eq_some.1 h
    obtain ⟨-, -, rfl⟩ := Option.map_eq_some_iff.1 h
    exact fun c hc => hs c hc (of_decide_eq_true (List.all_eq_true.1 hascii c hc))
  · obtain ⟨-, h⟩ := Option.ite_none_left_eq_some.1 h
    obtain ⟨-, -, rfl⟩ := Option.map_eq_some_iff.1 h
    have hall : (Label.mark.all fun c => decide (IsSmall c)) = true := by decide
    have hmark : ∀ c ∈ Label.mark, IsSmall c := fun c hc =>
      of_decide_eq_true (List.all_eq_true.1 hall c hc)
    exact List.forall_mem_append.2 ⟨hmark, Punycode.isSmall_encode hs⟩

namespace International

theorem mem_of_mem_labels {s : List Char} : ∀ l ∈ labels s, ∀ c ∈ l, c ∈ s := by
  induction s with
  | nil => simp [labels]
  | cons d s ih =>
    unfold labels
    split
    · simpa using fun l hl c hc => .inr (ih l hl c hc)
    · cases hls : labels s with
      | nil => simp
      | cons l ls =>
        rw [hls] at ih
        obtain ⟨hl, hls⟩ := List.forall_mem_cons.1 ih
        refine List.forall_mem_cons.2
          ⟨List.forall_mem_cons.2 ⟨List.mem_cons_self, fun c hc => ?_⟩, ?_⟩
        · exact List.mem_cons_of_mem d (hl c hc)
        · exact fun l hl c hc => List.mem_cons_of_mem d (hls l hl c hc)

theorem mem_joined {dot c : Char} {ls : List (List Char)} (h : c ∈ joined dot ls) :
    c = dot ∨ ∃ l ∈ ls, c ∈ l := by
  induction ls with
  | nil => exact absurd h List.not_mem_nil
  | cons l ls ih =>
    cases ls with
    | nil => exact .inr ⟨l, List.mem_cons_self, h⟩
    | cons m ms =>
      rcases List.mem_append.1 h with h | h
      · exact .inr ⟨l, List.mem_cons_self, h⟩
      rcases List.mem_cons.1 h with rfl | h
      · exact .inl rfl
      · exact (ih h).imp_right fun ⟨l, hl, hc⟩ => ⟨l, List.mem_cons_of_mem _ hl, hc⟩

theorem exists_of_mem_mapM {α β : Type} {f : α → Option β} {xs : List α} {ys : List β}
    (h : xs.mapM f = some ys) : ∀ y ∈ ys, ∃ x ∈ xs, f x = some y := by
  induction xs generalizing ys with
  | nil => cases h; exact nofun
  | cons x xs ih =>
    rw [List.mapM_cons] at h
    obtain ⟨y, hy, h⟩ := Option.bind_eq_some_iff.1 h
    obtain ⟨zs, hzs, h⟩ := Option.bind_eq_some_iff.1 h
    cases h
    refine List.forall_mem_cons.2 ⟨⟨x, List.mem_cons_self, hy⟩, fun z hz => ?_⟩
    obtain ⟨x', hx', hz⟩ := ih hzs z hz
    exact ⟨x', List.mem_cons_of_mem x hx', hz⟩

end International

/-- An international name in ASCII. -/
theorem isSmall_encode? {s t : List Char} (hs : ∀ c ∈ s, endsFront c = false)
    (h : International.encode? s = some t) : ∀ c ∈ t, IsSmall c := by
  have hlower := isSmall_lowerChars hs
  unfold International.encode? at h
  generalize Text.lowerChars s = s at *
  obtain ⟨-, h⟩ := Option.ite_none_left_eq_some.1 h
  obtain ⟨ls, hls, h⟩ := Option.bind_eq_some_iff.1 h
  obtain ⟨-, h⟩ := Option.ite_none_left_eq_some.1 h
  cases h
  have hcut : (∀ l ∈ (International.labelsAndDot s).1, l ∈ International.labels s) ∧
      ∀ c ∈ (International.labelsAndDot s).2, IsSmall c := by
    unfold International.labelsAndDot
    simp only
    split
    · exact ⟨fun l hl => List.dropLast_subset _ hl, fun c hc => List.mem_singleton.1 hc ▸ by decide⟩
    · exact ⟨fun l hl => hl, nofun⟩
  refine List.forall_mem_append.2 ⟨fun c hc => ?_, hcut.2⟩
  rcases International.mem_joined hc with rfl | ⟨t, ht, hc⟩
  · decide
  · obtain ⟨l, hl, hwrite⟩ := International.exists_of_mem_mapM hls t ht
    have hl := International.mem_of_mem_labels l (hcut.1 l hl)
    exact isSmall_write? (fun d hd => hlower d (hl d hd)) hwrite c hc

/-! ## Hosts -/

/-- A host in normal form: an IPv6 address, or ASCII text with no capitals but those of escapes. -/
structure Host.IsRead (host : List Char) : Prop where
  inFront : ∀ c ∈ host, endsFront c = false
  normal : ':' ∈ host ∨
    (∀ c ∈ host, c.toNat < 128) ∧ ('%' ∈ host ∨ ∀ c ∈ host, c.toLower = c)

theorem Host.IsRead.of_isSmall {host : List Char} (h : ∀ c ∈ host, IsSmall c) : IsRead host :=
  ⟨fun c hc => (h c hc).inFront,
    .inr ⟨fun c hc => (h c hc).ascii, .inr fun c hc => (h c hc).small⟩⟩

theorem Form.mem_pieces (separator : Char) {c : Char} {s : List Char} (h : c ∈ s) :
    c = separator ∨ ∃ p ∈ pieces separator s, c ∈ p := by
  induction s with
  | nil => exact absurd h List.not_mem_nil
  | cons d s ih =>
    unfold pieces
    split
    · rename_i hd
      rcases List.mem_cons.1 h with rfl | h
      · exact .inl hd
      · rcases ih h with hc | ⟨p, hp, hc⟩
        · exact .inl hc
        · exact .inr ⟨p, List.mem_cons_of_mem _ hp, hc⟩
    · refine or_iff_not_imp_left.2 fun hne => ?_
      split
      · rename_i hnil
        rcases List.mem_cons.1 h with rfl | h
        · exact ⟨_, List.mem_cons_self, List.mem_cons_self⟩
        · obtain ⟨p, hp, -⟩ := (ih h).resolve_left hne
          rw [hnil] at hp
          exact absurd hp List.not_mem_nil
      · rename_i q qs hcons
        rcases List.mem_cons.1 h with rfl | h
        · exact ⟨_, List.mem_cons_self, List.mem_cons_self⟩
        · obtain ⟨p, hp, hc⟩ := (ih h).resolve_left hne
          rw [hcons] at hp
          rcases List.mem_cons.1 hp with rfl | hp
          · exact ⟨_, List.mem_cons_self, List.mem_cons_of_mem _ hc⟩
          · exact ⟨p, List.mem_cons_of_mem _ hp, hc⟩

namespace Host

theorem isSmall_of_isDigit {c : Char} (h : Number.isDigit c = true) : IsSmall c := by
  have hascii : c.toNat < 128 := by
    simp only [Number.isDigit, Bool.and_eq_true, decide_eq_true_eq] at h
    omega
  exact forall_ascii (p := fun c => Number.isDigit c = true → IsSmall c) (by decide +kernel) hascii h

theorem isRead_of_isIpv4 {s : List Char} (h : isIpv4 s = true) : IsRead s := by
  refine .of_isSmall fun c hc => ?_
  simp only [isIpv4, Bool.and_eq_true, List.all_eq_true] at h
  rcases Form.mem_pieces '.' hc with rfl | ⟨p, hp, hc⟩
  · decide
  · have hoctet := h.2 p hp
    unfold isOctet Number.digits? at hoctet
    by_cases hdigits : p.isEmpty || !p.all Number.isDigit
    · rw [if_pos hdigits] at hoctet
      cases hoctet
    · simp only [Bool.or_eq_true, Bool.not_eq_true', not_or, Bool.not_eq_false,
        List.all_eq_true] at hdigits
      exact isSmall_of_isDigit (hdigits.2 c hc)

/-- There is a colon in an IPv6 address. -/
theorem colon_mem_of_isIpv6 {s : List Char} (h : isIpv6 s = true) : ':' ∈ s := by
  by_contra hnot
  have hnot' : ':' ∉ s.takeWhile (· != '%') := fun hmem =>
    hnot ((List.takeWhile_prefix _).subset hmem)
  have hparts : ipv6Parts? (s.takeWhile (· != '%')) = none := by
    unfold ipv6Parts?
    rw [Form.pieces_of_not_mem hnot']
    rfl
  unfold isIpv6 at h
  simp [hparts] at h

theorem isAscii_of_isNameChar {c : Char} (h : isNameChar c = true) :
    c.toNat < 128 ∧ endsFront c = false := by
  have hascii : c.toNat < 128 := by
    by_contra hge
    have hne : ∀ d : Char, d.toNat < 128 → c ≠ d := fun d hd he => hge (he ▸ hd)
    simp [isNameChar, isUnreserved, isAlphanumeric, hne] at h
    omega
  exact ⟨hascii, forall_ascii (p := fun c => isNameChar c = true → endsFront c = false)
    (by decide +kernel) hascii h⟩

theorem isRead_encodeName {s : List Char} (hs : ∀ c ∈ s, c.toNat < 128) : IsRead (encodeName s) := by
  have hchars : ∀ c ∈ encodeName s, c.toNat < 128 ∧ endsFront c = false := fun c hc => by
    obtain ⟨d, -, hd⟩ := List.mem_flatMap.1 hc
    rcases mem_escapeChar hd with h | rfl | h
    · exact isAscii_of_isNameChar h
    · decide
    · exact isAscii_of_isNameChar (by simp [isNameChar, h])
  refine ⟨fun c hc => (hchars c hc).2, .inr ⟨fun c hc => (hchars c hc).1, ?_⟩⟩
  refine or_iff_not_imp_left.2 fun hpercent c hc => ?_
  obtain ⟨d, hd, hescape⟩ := List.mem_flatMap.1 hc
  have hsafe : isNameChar d = true := by
    by_contra hnot
    refine hpercent (List.mem_flatMap.2 ⟨d, hd, ?_⟩)
    obtain ⟨b, bs, hb⟩ := List.exists_cons_of_ne_nil (encodeChar_ne_nil d)
    simp [escapeChar, hnot, hb, escapeByte]
  rw [escapeChar, if_pos hsafe, List.mem_singleton] at hescape
  subst hescape
  obtain ⟨e, he, rfl⟩ := List.mem_map.1 hd
  exact forall_ascii (p := fun c => c.toLower.toLower = c.toLower) (by decide +kernel) (hs e he)

end Host

/-- Every host that is read is in normal form. -/
theorem readHost_isRead {s host : List Char} (hs : ∀ c ∈ s, endsFront c = false)
    (h : readHost s = .ok host) : Host.IsRead host := by
  unfold readHost at h
  simp only at h
  split at h
  · split at h
    · rename_i hipv4
      cases h
      exact Host.isRead_of_isIpv4 hipv4
    · cases h
  split at h
  · split at h
    · rename_i hipv6
      cases h
      refine ⟨fun c hc => hs c ?_, .inl (Host.colon_mem_of_isIpv6 hipv6)⟩
      exact (List.drop_subset 1 s) (List.dropLast_subset _ hc)
    · cases h
  split at h
  · rename_i hascii
    cases h
    exact Host.isRead_encodeName fun c hc => of_decide_eq_true (List.all_eq_true.1 hascii c hc)
  · split at h
    · rename_i hname
      cases h
      exact .of_isSmall (isSmall_encode? hs hname)
    · cases h

/-- Putting a host in normal form again changes no more than the letters of escapes. -/
theorem renormalized_host {u : Url} (h : Host.IsRead u.host.toList) :
    u.renormalized.host = u.host ∨
      '%' ∈ u.host.toList ∧ u.renormalized.host = Text.lower u.host := by
  unfold renormalized
  simp only [List.contains_iff_mem]
  split
  · exact .inl rfl
  · rename_i hcolon
    obtain ⟨hascii, hpercent | hsmall⟩ := h.normal.resolve_left hcolon
    · exact .inr ⟨hpercent, rfl⟩
    · refine .inl ?_
      have hmap : u.host.toList.map Char.toLower = u.host.toList :=
        (List.map_congr_left hsmall).trans (List.map_id _)
      rw [Text.lower, Text.lowerChars_of_isAscii hascii, hmap, String.ofList_toList]

theorem renormalized_inFront {u : Url} (h : Host.IsRead u.host.toList) :
    ∀ c ∈ u.renormalized.host.toList, endsFront c = false := by
  unfold renormalized
  simp only [List.contains_iff_mem]
  split
  · exact h.inFront
  · rename_i hcolon
    have hascii := (h.normal.resolve_left hcolon).1
    intro c hc
    rw [Text.lower, Text.lowerChars_of_isAscii hascii, String.toList_ofList] at hc
    obtain ⟨d, hd, rfl⟩ := List.mem_map.1 hc
    exact (isSmall_toLower (hascii d hd) (h.inFront d hd)).inFront

end Bearer.Url
