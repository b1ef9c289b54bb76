import Bearer.Json.Value
import Bearer.Text.Layout
import Bearer.Text.Quoted

/-!
# Credentials

A client id, a client secret, an access token, a refresh token and a CSRF token are all texts, and
no two kinds may be mixed up, so the kind is part of the type. A client id may be shown; every
other kind is secret and is shown as what it is instead of by its text. The text itself is
reached only through `text`.

* `shown_eq_of_isSecret`: how a secret is shown does not depend on the secret.
-/
namespace Bearer

/-- The kinds of credential. -/
inductive CredentialKind where
  | clientId
  | clientSecret
  | accessToken
  | refreshToken
  | csrfToken
deriving DecidableEq, Repr

namespace CredentialKind

/-- Every kind. -/
def all : List CredentialKind :=
  [.clientId, .clientSecret, .accessToken, .refreshToken, .csrfToken]

theorem mem_all (k : CredentialKind) : k ∈ all := by
  cases k <;> decide

/-- The name of the type. -/
def name : CredentialKind → String
  | .clientId => "ClientId"
  | .clientSecret => "ClientSecret"
  | .accessToken => "AccessToken"
  | .refreshToken => "RefreshToken"
  | .csrfToken => "CsrfToken"

/-- What is shown instead of a secret; absent for a kind that is not secret. -/
def mask? : CredentialKind → Option String
  | .clientId => none
  | .clientSecret => some "[redacted client secret]"
  | .accessToken => some "[redacted access token]"
  | .refreshToken => some "[redacted refresh token]"
  | .csrfToken => some "[redacted csrf token]"

/-- Whether texts of the kind must not be shown. -/
def isSecret (k : CredentialKind) : Bool :=
  k.mask?.isSome

end CredentialKind

/-- A credential of a kind. -/
structure Credential (k : CredentialKind) where
  /-- The raw text. -/
  text : String
deriving DecidableEq, Inhabited

/-- The id of a client. -/
abbrev ClientId := Credential .clientId

/-- The secret of a client. -/
abbrev ClientSecret := Credential .clientSecret

/-- A token that gives access. -/
abbrev AccessToken := Credential .accessToken

/-- A token that can be exchanged for a new access token. -/
abbrev RefreshToken := Credential .refreshToken

/-- A token that ties a redirect to the request it answers. -/
abbrev CsrfToken := Credential .csrfToken

namespace Credential

variable {k : CredentialKind}

/-- The credential as text that anyone may see. -/
def shown (c : Credential k) : String :=
  k.mask?.getD c.text

/-- The credential in a diagnostic. -/
def describe (c : Credential k) : String :=
  k.mask?.getD (k.name ++ "(" ++ Text.quoted c.text ++ ")")

/-- A credential that may be absent, as text that anyone may see. -/
def shownOption (c : Option (Credential k)) : String :=
  match c with
  | some c => c.shown
  | none => "None"

/-- Why a credential was not laid out. -/
inductive FormatFault where
  /-- Only secrets can be laid out. -/
  | notSupported (kind : String)
  /-- The layout is malformed. -/
  | malformed
  /-- The field is wider than any memory. -/
  | tooWide
deriving DecidableEq, Repr

/-- The wording of the fault; only the first has one. -/
def FormatFault.message? : FormatFault → Option String
  | .notSupported kind =>
    some ("unsupported format string passed to " ++ kind ++ ".__format__")
  | .malformed | .tooWide => none

/-- The width from which on a field is too wide. -/
def tooWideFrom : Nat := Nat.pow 2 37

/-- What is shown of the credential, laid out. -/
def format (c : Credential k) (layout : String) : Except FormatFault String :=
  if layout.isEmpty then .ok c.shown
  else match k.mask? with
    | none => .error (.notSupported k.name)
    | some mask =>
      match Text.Layout.parse? layout.toList with
      | some l =>
        if tooWideFrom ≤ l.width then .error .tooWide
        else .ok (String.ofList (l.apply mask.toList))
      | none => .error .malformed

theorem shown_eq_of_isSecret (h : k.isSecret = true) (a b : Credential k) :
    a.shown = b.shown ∧ a.describe = b.describe ∧ ∀ layout, a.format layout = b.format layout := by
  obtain ⟨mask, hm⟩ := Option.isSome_iff_exists.1 h
  simp [shown, describe, format, hm]

/-- The wording for data that is no text where a credential must be one. -/
def notTextMessage (k : CredentialKind) (kind : String) : String :=
  k.name ++ " value must be a string, got " ++ kind

/-- The credential that data of any shape is; otherwise the kind of the data. -/
def ofJson (k : CredentialKind) : Json → Except String (Credential k)
  | .str s => .ok ⟨s⟩
  | v => .error v.kind

end Credential

end Bearer
