import Bearer.Json.Reader
import Bearer.Json.Writer
import Mathlib.Data.List.TakeWhile

/-!
# Reading back what was written

A document that is spread over lines is cut into the lexemes it is made of, whatever its
indentation, and the document is read from them again. This takes a document without floats, whose
numbers are not too long, whose objects hold a key once, and whose containers are not nested too
deep.

* `unit?_hexDigits`, `tokens_stringText`: a string is one lexeme, its escapes undone.
* `word?_toString`: a whole number is one lexeme.
* `Fits.cutsInto`: the lexemes of a document that is spread over lines.
* `Fits.isRead`: the document that is read from its lexemes.
* `read?_pretty`: both together.
-/
namespace Bearer.Json

/-! ## Strings -/

theorem hexValue?_digitChar : ∀ n < 16, hexValue? (Nat.digitChar n) = some n := by
  decide

theorem hexDigits_four (n : Nat) :
    Text.hexDigits 4 n = [Nat.digitChar (n / 4096 % 16), Nat.digitChar (n / 256 % 16),
      Nat.digitChar (n / 16 % 16), Nat.digitChar (n % 16)] := by
  simp [Text.hexDigits, List.range_succ]

/-- Four digits give back the code unit that they were made of. -/
theorem unit?_hexDigits {n : Nat} (h : n < 0x10000) :
    unit? (Nat.digitChar (n / 4096 % 16)) (Nat.digitChar (n / 256 % 16))
      (Nat.digitChar (n / 16 % 16)) (Nat.digitChar (n % 16)) = some n := by
  have hdigit (k : Nat) : hexValue? (Nat.digitChar (k % 16)) = some (k % 16) :=
    hexValue?_digitChar _ (Nat.mod_lt _ (by decide))
  simp only [unit?, hdigit, Option.bind_eq_bind, Option.bind_some, Option.some.injEq]
  omega

section

variable (done : List Token) (read rest : List Char)

/-- A character behind a backslash, unless it is that of a code unit. -/
theorem tokens_escape {e c : Char} (h : escape? e = some c) :
    tokens done (.inText read) ('\\' :: e :: rest) = tokens done (.inText (c :: read)) rest := by
  rw [tokens]
  · rw [h]
  · rintro - - - - - rfl
    cases h

/-- A character that is written as its code unit. -/
theorem tokens_unitEscape {c : Char} (hc : c.toNat < 0x20) :
    tokens done (.inText read) (unitEscape c.toNat ++ rest) =
      tokens done (.inText (c :: read)) rest := by
  have hhigh : isHigh c.toNat = false := by simp [isHigh]; omega
  have hlow : isLow c.toNat = false := by simp [isLow]; omega
  rw [unitEscape, hexDigits_four]
  simp only [List.cons_append, List.nil_append]
  rw [tokens, unit?_hexDigits (by omega)]
  simp [hhigh, hlow, Char.ofNat_toNat]

/-- A character that is written as it is. -/
theorem tokens_plain {c : Char} (hquote : c ≠ '\x22') (hslash : c ≠ '\\') (hc : ¬ c.toNat < 0x20) :
    tokens done (.inText read) (c :: rest) = tokens done (.inText (c :: read)) rest := by
  rw [tokens]
  · simp [hquote, hslash, hc]
  · exact fun _ _ _ _ _ h => (hslash h).elim
  · exact fun _ _ h => (hslash h).elim

/-- What a character is written as: an escape of one letter, its code unit or itself. -/
theorem stringChar_cases (c : Char) :
    (∃ e, stringChar false c = ['\\', e] ∧ escape? e = some c) ∨
      (stringChar false c = unitEscape c.toNat ∧ c.toNat < 0x20) ∨
      (stringChar false c = [c] ∧ c ≠ '\x22' ∧ c ≠ '\\' ∧ ¬ c.toNat < 0x20) := by
  have hcode {n : Nat} (h : c.toNat = n) : c = Char.ofNat n := by rw [← h, Char.ofNat_toNat]
  unfold stringChar
  simp only [Bool.false_and, Bool.false_eq_true, if_false]
  split
  · rename_i h
    simp only [Bool.or_eq_true, decide_eq_true_eq] at h
    rcases h with rfl | rfl
    · exact .inl ⟨_, rfl, rfl⟩
    · exact .inl ⟨_, rfl, rfl⟩
  rename_i hmarks
  split
  · rename_i h
    exact .inl ⟨'b', rfl, by rw [hcode h]; rfl⟩
  split
  · rename_i h
    exact .inl ⟨'t', rfl, by rw [hcode h]; rfl⟩
  split
  · rename_i h
    exact .inl ⟨'n', rfl, by rw [hcode h]; rfl⟩
  split
  · rename_i h
    exact .inl ⟨'f', rfl, by rw [hcode h]; rfl⟩
  split
  · rename_i h
    exact .inl ⟨'r', rfl, by rw [hcode h]; rfl⟩
  split
  · rename_i h
    exact .inr (.inl ⟨rfl, h⟩)
  · rename_i h
    simp only [Bool.or_eq_true, decide_eq_true_eq, not_or] at hmarks
    exact .inr (.inr ⟨rfl, hmarks.1, hmarks.2, h⟩)

/-- Whatever a character is written as, it is read back. -/
theorem tokens_stringChar (c : Char) :
    tokens done (.inText read) (stringChar false c ++ rest) =
      tokens done (.inText (c :: read)) rest := by
  rcases stringChar_cases c with ⟨e, hc, he⟩ | ⟨hc, hcode⟩ | ⟨hc, hquote, hslash, hcode⟩
  · rw [hc]
    exact tokens_escape done read rest he
  · rw [hc]
    exact tokens_unitEscape done read rest hcode
  · rw [hc]
    exact tokens_plain done read rest hquote hslash hcode

theorem tokens_characters (cs : List Char) :
    tokens done (.inText read) (cs.flatMap (stringChar false) ++ rest) =
      tokens done (.inText (cs.reverse ++ read)) rest := by
  induction cs generalizing read with
  | nil => rfl
  | cons c cs ih =>
    rw [List.flatMap_cons, List.append_assoc, tokens_stringChar, ih, List.reverse_cons,
      List.append_assoc, List.singleton_append]

theorem tokens_stringText (s : String) :
    tokens done .between ((stringText false s).toList ++ rest) =
      tokens (.text s :: done) .between rest := by
  rw [stringText, String.toList_ofList]
  simp only [List.cons_append, List.append_assoc, List.nil_append]
  rw [tokens]
  simp only [show isSpace '\x22' = false by decide, punctuation?, Bool.false_eq_true, if_false,
    if_true]
  rw [tokens_characters, tokens]
  · simp
  · exact fun _ _ _ _ _ h => nomatch h
  · exact fun _ _ h => nomatch h

end

/-! ## Numbers and words -/

theorem isWholePart_toDigits (n : Nat) : isWholePart (Nat.toDigits 10 n) = true := by
  unfold isWholePart
  split
  · rename_i h
    exact absurd h Nat.toDigits_ne_nil
  · rfl
  · rename_i hne h
    have hzero := Number.eq_zero_of_toDigits h
    subst hzero
    rw [Nat.toDigits_zero] at h
    exact absurd (List.cons.inj h).2.symm hne
  · rfl

theorem places_toDigits (n : Nat) :
    Number.Decimal.places (Nat.toDigits 10 n) = ⟨Nat.toDigits 10 n, [], false, []⟩ := by
  rw [Number.Decimal.places, List.dropWhile_eq_nil_iff.2 fun _ => Number.isDigit_toDigits,
    List.takeWhile_eq_self_iff.2 fun _ => Number.isDigit_toDigits]

theorem number?_toDigits {n : Nat} (h : (Nat.toDigits 10 n).length ≤ 4300) (negative : Bool) :
    number? negative (Nat.toDigits 10 n) = some (.int (if negative then -(n : Int) else n)) := by
  rw [number?, places_toDigits]
  simp [isWholePart_toDigits, Nat.not_lt.2 h]

theorem word?_digit {d : Char} (hd : Number.isDigit d = true) (ds : List Char) :
    word? (d :: ds) = number? false (d :: ds) := by
  have hne {c : Char} (hc : Number.isDigit c = false) : d ≠ c := by
    rintro rfl
    cases hd.symm.trans hc
  unfold word?
  simp [hne (c := 'n') rfl, hne (c := 't') rfl, hne (c := 'f') rfl, hne (c := 'N') rfl,
    hne (c := 'I') rfl, hne (c := '-') rfl]

theorem word?_minus {d : Char} (hd : Number.isDigit d = true) (ds : List Char) :
    word? ('-' :: d :: ds) = number? true (d :: ds) := by
  have hne : d ≠ 'I' := by
    rintro rfl
    cases hd
  unfold word?
  simp [hne]

theorem toList_toString (n : Int) : (toString n).toList =
    if 0 ≤ n then Nat.toDigits 10 n.natAbs else '-' :: Nat.toDigits 10 n.natAbs := by
  rw [show toString n = n.repr from rfl, Int.repr_eq_if]
  split
  · rw [Nat.toList_repr, show n.toNat = n.natAbs by omega]
  · rw [String.toList_append, Nat.toList_repr, show (-n).toNat = n.natAbs by omega]
    rfl

theorem word?_toString {n : Int} (h : (Nat.toDigits 10 n.natAbs).length ≤ 4300) :
    word? (toString n).toList = some (.int n) := by
  have hnumber := number?_toDigits h
  rw [toList_toString]
  cases hds : Nat.toDigits 10 n.natAbs with
  | nil => exact absurd hds Nat.toDigits_ne_nil
  | cons d ds =>
    have hd : Number.isDigit d = true := Number.isDigit_toDigits (hds ▸ List.mem_cons_self)
    rw [hds] at hnumber
    split
    · rw [word?_digit hd, hnumber false, if_neg (by decide), show (n.natAbs : Int) = n by omega]
    · rw [word?_minus hd, hnumber true, if_pos rfl, show -(n.natAbs : Int) = n by omega]

theorem isWordChar_toString {n : Int} {c : Char} (h : c ∈ (toString n).toList) :
    isWordChar c = true := by
  have hdigit {c : Char} (h : c ∈ Nat.toDigits 10 n.natAbs) : isWordChar c = true := by
    have hc := Nat.isDigit_of_mem_toDigits (by decide) (by decide) h
    simp [isWordChar, Char.isAlphanum, hc]
  rw [toList_toString] at h
  split at h
  · exact hdigit h
  · rcases List.mem_cons.1 h with rfl | h
    · rfl
    · exact hdigit h

/-! ## Lexemes -/

mutual

/-- The lexemes of a document. -/
def lexemes : Json → List Token
  | .str s => [.text s]
  | .arr items => .openArray :: (itemLexemes items).tail ++ [.closeArray]
  | .obj fields => .openObject :: (fieldLexemes fields).tail ++ [.closeObject]
  | v => [.scalar v]

/-- The lexemes of items, each behind a comma. -/
def itemLexemes : List Json → List Token
  | [] => []
  | v :: items => .comma :: lexemes v ++ itemLexemes items

/-- The lexemes of fields, each behind a comma. -/
def fieldLexemes : List (String × Json) → List Token
  | [] => []
  | (k, v) :: fields => .comma :: .text k :: .colon :: lexemes v ++ fieldLexemes fields

end

/-- A document that is read back: it holds no float, its numbers are not too long, its objects hold
every key once, and it may stand where so many more containers may be opened. -/
inductive Fits : Nat → Json → Prop where
  | null {room : Nat} : Fits room .null
  | bool {room : Nat} (b : Bool) : Fits room (.bool b)
  | int {room : Nat} {n : Int} : (Nat.toDigits 10 n.natAbs).length ≤ 4300 → Fits room (.int n)
  | str {room : Nat} (s : String) : Fits room (.str s)
  | arr {room : Nat} {items : List Json} : (∀ v ∈ items, Fits room v) → Fits (room + 1) (.arr items)
  | obj {room : Nat} {fields : List (String × Json)} : (∀ f ∈ fields, Fits room f.2) →
      (fields.map Prod.fst).Nodup → Fits (room + 1) (.obj fields)

/-! ## Cutting -/

/-- A text is cut into these lexemes, wherever it stands in front of what ends a word. -/
def CutsInto (s : List Char) (ts : List Token) : Prop :=
  ∀ done c rest, c = ',' ∨ c = '\n' →
    tokens done .between (s ++ c :: rest) = tokens (ts.reverse ++ done) .between (c :: rest)

theorem tokens_inWord (done : List Token) (w s rest : List Char)
    (hs : ∀ c ∈ s, isWordChar c = true) :
    tokens done (.inWord w) (s ++ rest) = tokens done (.inWord (s.reverse ++ w)) rest := by
  induction s generalizing w with
  | nil => rfl
  | cons c s ih =>
    rw [List.cons_append, tokens, if_pos (hs c List.mem_cons_self),
      ih _ fun d hd => hs d (List.mem_cons_of_mem _ hd), List.reverse_cons, List.append_assoc,
      List.singleton_append]

/-- Where a word ends, its document is a lexeme. -/
theorem tokens_endWord {w : List Char} {v : Json} (hw : word? w.reverse = some v)
    (done : List Token) {c : Char} (hc : c = ',' ∨ c = '\n') (rest : List Char) :
    tokens done (.inWord w) (c :: rest) = tokens (.scalar v :: done) .between (c :: rest) := by
  rcases hc with rfl | rfl
  · simp [tokens, hw, isWordChar, isSpace, punctuation?]
  · simp [tokens, hw, isWordChar, isSpace]

theorem tokens_spaces (done : List Token) {blank : List Char} (h : ∀ c ∈ blank, isSpace c = true)
    (rest : List Char) : tokens done .between (blank ++ rest) = tokens done .between rest := by
  induction blank with
  | nil => rfl
  | cons c blank ih =>
    rw [List.cons_append, tokens, if_pos (h c List.mem_cons_self),
      ih fun d hd => h d (List.mem_cons_of_mem _ hd)]

theorem space_cases {c : Char} (h : isSpace c = true) :
    c = ' ' ∨ c = '\t' ∨ c = '\n' ∨ c = '\r' := by
  simpa [isSpace, or_assoc] using h

theorem tokens_punctuation (done : List Token) {c : Char} {t : Token} (h : punctuation? c = some t)
    (rest : List Char) : tokens done .between (c :: rest) = tokens (t :: done) .between rest := by
  have hspace : isSpace c = false := by
    rw [Bool.eq_false_iff]
    intro hc
    rcases space_cases hc with rfl | rfl | rfl | rfl <;> cases h
  rw [tokens, hspace, h]
  rfl

theorem startsWord {c : Char} (h : isWordChar c = true) :
    isSpace c = false ∧ punctuation? c = none ∧ c ≠ '\x22' := by
  refine ⟨?_, ?_, ?_⟩
  · rw [Bool.eq_false_iff]
    intro hc
    rcases space_cases hc with rfl | rfl | rfl | rfl <;> cases h
  · unfold punctuation?
    split <;> first | rfl | cases h
  · rintro rfl
    cases h

theorem cutsInto_word {s : List Char} {v : Json} (hw : word? s = some v) (hne : s ≠ [])
    (hs : ∀ c ∈ s, isWordChar c = true) : CutsInto s [.scalar v] := by
  intro done e rest he
  cases s with
  | nil => exact absurd rfl hne
  | cons c s =>
    have hc := hs c List.mem_cons_self
    obtain ⟨hspace, hpunctuation, hquote⟩ := startsWord hc
    rw [List.cons_append, tokens, hspace, hpunctuation]
    simp only [Bool.false_eq_true, if_false, if_neg hquote, if_pos hc]
    rw [tokens_inWord _ _ _ _ fun d hd => hs d (List.mem_cons_of_mem _ hd),
      tokens_endWord (by rw [List.reverse_append, List.reverse_reverse]; exact hw) done he]
    rfl

/-- Texts with separators between them are cut into the lexemes of each, with commas between. -/
theorem cutsInto_join {α : Type} {text : α → List Char} (lex : α → List Token)
    {blank : List Char} (hblank : ∀ c ∈ blank, isSpace c = true) {a : α} {as : List α}
    (h : ∀ b ∈ a :: as, CutsInto (text b) (lex b)) :
    CutsInto ((',' :: blank).intercalate ((a :: as).map text))
      (lex a ++ as.flatMap fun b => .comma :: lex b) := by
  induction as generalizing a with
  | nil => simpa using h a List.mem_cons_self
  | cons b as ih =>
    intro done c rest hc
    have hrest := ih fun d hd => h d (List.mem_cons_of_mem _ hd)
    rw [List.map_cons, List.map_cons, List.intercalate_cons_cons, ← List.map_cons]
    simp only [List.append_assoc, List.cons_append]
    rw [h a List.mem_cons_self _ _ _ (.inl rfl), tokens_punctuation _ rfl,
      tokens_spaces _ hblank, hrest _ _ _ hc]
    simp

theorem toList_indent (depth : Nat) :
    (indent depth).toList = '\n' :: List.replicate (2 * depth) ' ' :=
  String.toList_ofList

theorem isSpace_indent (depth : Nat) :
    ∀ c ∈ '\n' :: List.replicate (2 * depth) ' ', isSpace c = true := by
  simp [isSpace]

theorem cutsInto_block {opening closing : String} {o c : Char} {ot ct : Token} {depth : Nat}
    {texts : List String} {inner : List Token} (hopening : opening.toList = [o])
    (ho : punctuation? o = some ot) (hclosing : closing.toList = [c])
    (hc : punctuation? c = some ct) (hempty : texts = [] → inner = [])
    (h : texts ≠ [] →
      CutsInto (("," ++ indent (depth + 1)).intercalate texts).toList inner) :
    CutsInto (block opening closing depth texts).toList (ot :: inner ++ [ct]) := by
  intro done e rest he
  unfold block
  split
  · rename_i hnil
    rw [hempty (List.isEmpty_iff.1 hnil), String.toList_append, hopening, hclosing]
    simp only [List.cons_append, List.nil_append]
    rw [tokens_punctuation _ ho, tokens_punctuation _ hc]
    rfl
  · rename_i hcons
    have hinner := h fun hnil => hcons (List.isEmpty_iff.2 hnil)
    simp only [String.toList_append, hopening, hclosing, toList_indent, List.append_assoc,
      List.singleton_append]
    rw [List.cons_append, tokens_punctuation _ ho, tokens_spaces _ (isSpace_indent _),
      List.cons_append, hinner _ _ _ (.inr rfl), ← List.cons_append,
      tokens_spaces _ (isSpace_indent _), tokens_punctuation _ hc]
    simp

theorem itemLexemes_eq (items : List Json) :
    itemLexemes items = items.flatMap fun v => .comma :: lexemes v := by
  induction items with
  | nil => rfl
  | cons v items ih => rw [itemLexemes, ih, List.flatMap_cons]

theorem fieldLexemes_eq (fields : List (String × Json)) : fieldLexemes fields =
    fields.flatMap fun f => .comma :: .text f.1 :: .colon :: lexemes f.2 := by
  induction fields with
  | nil => rfl
  | cons f fields ih => rw [fieldLexemes, ih, List.flatMap_cons]

theorem prettyItems_eq (depth : Nat) (items : List Json) :
    prettyItems depth items = items.map (pretty depth) := by
  induction items with
  | nil => rfl
  | cons v items ih => rw [prettyItems, ih, List.map_cons]

theorem prettyFields_eq (depth : Nat) (fields : List (String × Json)) :
    prettyFields depth fields =
      fields.map fun f => stringText false f.1 ++ ": " ++ pretty depth f.2 := by
  induction fields with
  | nil => rfl
  | cons f fields ih => rw [prettyFields, ih, List.map_cons]

/-- A field is its key, a colon and its value. -/
theorem CutsInto.field {v : Json} {depth : Nat}
    (h : CutsInto (pretty depth v).toList (lexemes v)) (k : String) :
    CutsInto (stringText false k ++ ": " ++ pretty depth v).toList
      (.text k :: .colon :: lexemes v) := by
  intro done c rest hc
  simp only [String.toList_append, List.append_assoc]
  rw [tokens_stringText, show ": ".toList = ':' :: [' '] from rfl, List.cons_append,
    tokens_punctuation _ rfl, tokens_spaces _ (by simp [isSpace]), h _ _ _ hc]
  simp

/-- Spread over lines, a document is cut into its lexemes. -/
theorem Fits.cutsInto {room : Nat} {v : Json} (h : Fits room v) (depth : Nat) :
    CutsInto (pretty depth v).toList (lexemes v) := by
  have hsep (depth : Nat) :
      ("," ++ indent depth).toList = ',' :: ('\n' :: List.replicate (2 * depth) ' ') := by
    rw [String.toList_append, toList_indent]
    rfl
  induction h generalizing depth with
  | null =>
    rw [pretty, show "null".toList = ['n', 'u', 'l', 'l'] from rfl]
    exact cutsInto_word rfl (List.cons_ne_nil _ _) (by simp [isWordChar])
  | bool b =>
    cases b with
    | true =>
      rw [pretty, show "true".toList = ['t', 'r', 'u', 'e'] from rfl]
      exact cutsInto_word rfl (List.cons_ne_nil _ _) (by simp [isWordChar])
    | false =>
      rw [pretty, show "false".toList = ['f', 'a', 'l', 's', 'e'] from rfl]
      exact cutsInto_word rfl (List.cons_ne_nil _ _) (by simp [isWordChar])
  | int hn =>
    rw [pretty]
    refine cutsInto_word (word?_toString hn) ?_ fun _ => isWordChar_toString
    rw [toList_toString]
    split
    · exact Nat.toDigits_ne_nil
    · exact List.cons_ne_nil _ _
  | str s =>
    intro done c rest _
    exact tokens_stringText done (c :: rest) s
  | @arr _ items _ ih =>
    rw [pretty, lexemes]
    refine cutsInto_block (o := '[') rfl rfl rfl rfl ?_ fun hne => ?_
    · cases items <;> simp [prettyItems, itemLexemes]
    · cases items with
      | nil => exact absurd rfl hne
      | cons v items =>
        rw [String.toList_intercalate, hsep, prettyItems_eq, List.map_map, itemLexemes_eq]
        exact cutsInto_join lexemes (isSpace_indent _) fun w hw => ih w hw _
  | @obj _ fields _ _ ih =>
    rw [pretty, lexemes]
    refine cutsInto_block (o := '\x7b') rfl rfl rfl rfl ?_ fun hne => ?_
    · cases fields <;> simp [prettyFields, fieldLexemes]
    · cases fields with
      | nil => exact absurd rfl hne
      | cons f fields =>
        rw [String.toList_intercalate, hsep, prettyFields_eq, List.map_map, fieldLexemes_eq]
        exact cutsInto_join (fun f => .text f.1 :: .colon :: lexemes f.2) (isSpace_indent _)
          fun g hg => (ih g hg _).field g.1

/-! ## Reading -/

theorem insert_new {key : String} (v : Json) {fields : List (String × Json)}
    (h : key ∉ fields.map Prod.fst) : insert key v fields = fields ++ [(key, v)] := by
  induction fields with
  | nil => rfl
  | cons f fields ih =>
    rw [List.map_cons, List.mem_cons, not_or] at h
    rw [insert, if_neg (Ne.symm h.1), ih h.2, List.cons_append]

theorem key_new {key : String} {v : Json} {read fields : List (String × Json)}
    (h : ((read ++ (key, v) :: fields).map Prod.fst).Nodup) : key ∉ read.map Prod.fst := by
  rw [List.map_append, List.nodup_append] at h
  exact fun hmem => h.2.2 key hmem key List.mem_cons_self rfl

/-- Wherever a document may stand, its lexemes give it, and reading goes on behind it. -/
def IsRead (room : Nat) (v : Json) : Prop :=
  ∀ stack rest, value? room stack (lexemes v ++ rest) = after? room v stack rest

theorem value?_openArray (room : Nat) (stack : List Frame) (v : Json) (rest : List Token) :
    value? (room + 1) stack (.openArray :: (lexemes v ++ rest)) =
      value? room (.array [] :: stack) (lexemes v ++ rest) := by
  rw [value?]
  · rfl
  · intro ts h
    cases v <;> simp [lexemes] at h

/-- The items of an array behind the first. -/
theorem after?_items {room : Nat} {items : List Json} (h : ∀ v ∈ items, IsRead room v)
    (v : Json) (read : List Json) (stack : List Frame) (rest : List Token) :
    after? room v (.array read :: stack) (itemLexemes items ++ .closeArray :: rest) =
      after? (room + 1) (.arr (read.reverse ++ v :: items)) stack rest := by
  induction items generalizing v read with
  | nil =>
    rw [itemLexemes, List.nil_append, after?, List.reverse_cons]
  | cons w items ih =>
    rw [itemLexemes]
    simp only [List.cons_append, List.append_assoc]
    rw [after?, h w List.mem_cons_self, ih fun u hu => h u (List.mem_cons_of_mem _ hu)]
    simp

/-- The fields of an object behind the first value. -/
theorem after?_fields {room : Nat} {fields : List (String × Json)}
    (h : ∀ f ∈ fields, IsRead room f.2) (key : String) (v : Json) (read : List (String × Json))
    (hkeys : ((read ++ (key, v) :: fields).map Prod.fst).Nodup) (stack : List Frame)
    (rest : List Token) :
    after? room v (.object read key :: stack) (fieldLexemes fields ++ .closeObject :: rest) =
      after? (room + 1) (.obj (read ++ (key, v) :: fields)) stack rest := by
  induction fields generalizing key v read with
  | nil => rw [fieldLexemes, List.nil_append, after?, insert_new v (key_new hkeys)]
  | cons f fields ih =>
    obtain ⟨k, w⟩ := f
    have hw : IsRead room w := h (k, w) List.mem_cons_self
    rw [fieldLexemes]
    simp only [List.cons_append, List.append_assoc]
    rw [after?, insert_new v (key_new hkeys), hw]
    rw [List.append_cons] at hkeys
    rw [ih (fun g hg => h g (List.mem_cons_of_mem _ hg)) k w _ hkeys, ← List.append_cons]

theorem Fits.isRead {room : Nat} {v : Json} (h : Fits room v) : IsRead room v := by
  induction h with
  | null | bool _ | int _ | str _ =>
    intro stack rest
    simp [lexemes, value?]
  | @arr room items _ ih =>
    intro stack rest
    rw [lexemes]
    cases items with
    | nil => rw [itemLexemes]; rfl
    | cons v items =>
      simp only [itemLexemes, List.cons_append, List.tail_cons, List.append_assoc]
      rw [value?_openArray, ih v List.mem_cons_self, List.nil_append,
        after?_items fun w hw => ih w (List.mem_cons_of_mem _ hw)]
      rfl
  | @obj room fields _ hkeys ih =>
    intro stack rest
    rw [lexemes]
    cases fields with
    | nil => rw [fieldLexemes]; rfl
    | cons f fields =>
      obtain ⟨k, v⟩ := f
      simp only [fieldLexemes, List.cons_append, List.tail_cons, List.append_assoc]
      rw [value?, if_neg (Nat.succ_ne_zero _), Nat.add_sub_cancel, ih (k, v) List.mem_cons_self,
        List.nil_append, after?_fields (fun g hg => ih g (List.mem_cons_of_mem _ hg)) k v [] hkeys]
      rfl

/-- A document that is spread over lines is read back. -/
theorem read?_pretty {v : Json} (h : Fits 200 v) :
    read? (pretty 0 v ++ "\n").toList = some v := by
  have hcut := h.cutsInto 0 [] '\n' [] (.inr rfl)
  have hread : value? 200 [] (lexemes v) = some v := by
    simpa [after?] using h.isRead [] []
  rw [read?, String.toList_append, show "\n".toList = ['\n'] from rfl, hcut, tokens,
    if_pos (by decide), tokens]
  simpa using hread

end Bearer.Json
