import Bearer.Number.Decimal
import Bearer.Text.Letters
import Bearer.Url.Form

/-!
# Hosts

The host of a URL is an IPv4 address, an IPv6 address between brackets, or a name. Addresses must
be valid; what only looks like an IPv4 address, four runs of digits with dots between, is refused.
Names are put in lower case and escaped.

* `isQuad_of_isIpv4`: an address looks like one.
-/
namespace Bearer.Url.Host

/-- Whether a text is four runs of digits with dots between. -/
def isQuad (s : List Char) : Bool :=
  let ps := Form.pieces '.' s
  ps.length == 4 && ps.all fun p => (Number.digits? p).isSome

/-- Whether a text is a number of one byte: no zero in front of another digit. -/
def isOctet (s : List Char) : Bool :=
  match Number.digits? s with
  | some n => s.length ≤ 3 && n ≤ 255 && (s.length == 1 || s.head? != some '0')
  | none => false

/-- Whether a text is an IPv4 address. -/
def isIpv4 (s : List Char) : Bool :=
  let ps := Form.pieces '.' s
  ps.length == 4 && ps.all isOctet

theorem isQuad_of_isIpv4 {s : List Char} (h : isIpv4 s = true) : isQuad s = true := by
  simp only [isIpv4, isQuad, Bool.and_eq_true, List.all_eq_true] at h ⊢
  refine ⟨h.1, fun p hp => ?_⟩
  have := h.2 p hp
  unfold isOctet at this
  split at this
  · rename_i he
    simp [he]
  · cases this

/-- Whether a text is one to four hexadecimal digits. -/
def isHextet (s : List Char) : Bool :=
  !s.isEmpty && s.length ≤ 4 && s.all fun c => (hexValue? c).isSome

/-- The parts of an IPv6 address, an IPv4 address at its end as two parts; absent if that is not
valid. -/
def ipv6Parts? (s : List Char) : Option (List (List Char)) :=
  let ps := Form.pieces ':' s
  match ps.getLast? with
  | none => none
  | some p =>
    if ps.length < 3 then none
    else if p.contains '.' then
      if isIpv4 p then some (ps.dropLast ++ [['0'], ['0']]) else none
    else some ps

/-- Whether parts are all eight parts of an address, or an address with one run of zeros left out:
there two colons stand together, at an end three parts are empty with none beside them. -/
def areIpv6Parts (ps : List (List Char)) : Bool :=
  let inner := (ps.drop 1).dropLast
  let gaps := inner.filter (·.isEmpty)
  if 9 < ps.length || 1 < gaps.length then false
  else if gaps.isEmpty then ps.length == 8 && ps.all isHextet
  else
    let gap := 1 + (inner.takeWhile fun p => !p.isEmpty).length
    let front := ps.take gap
    let back := ps.drop (gap + 1)
    let front := if front == [[]] then [] else front
    let back := if back == [[]] then [] else back
    front.all isHextet && back.all isHextet &&
      front.length + back.length < 8

/-- Whether a text is an IPv6 address, a zone behind it allowed. -/
def isIpv6 (s : List Char) : Bool :=
  let address := s.takeWhile (· != '%')
  let zone := s.dropWhile (· != '%')
  (zone.isEmpty || (zone.length ≠ 1 && !(zone.drop 1).contains '%')) && !s.contains '/' &&
    match ipv6Parts? address with
    | some ps => areIpv6Parts ps
    | none => false

/-- Whether a character may stand in the name of a host. -/
def isNameChar (c : Char) : Bool :=
  isUnreserved c || c = '!' || c = '$' || c = '&' || c = '\x27' || c = '(' || c = ')' || c = '*' ||
    c = '+' || c = ',' || c = ';' || c = '=' || c = '\x22' || c = '\x60' || c = '\x7b' ||
    c = '\x7d' || c = '%' || c = '|' || c = '\\'

/-- A name in lower case and escaped. -/
def encodeName (s : List Char) : List Char :=
  escape isNameChar (s.map Char.toLower)

end Bearer.Url.Host
