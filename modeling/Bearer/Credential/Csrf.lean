import Bearer.Credential.Basic
import Bearer.Text.Base64

/-!
# CSRF tokens

A CSRF token is made of random bytes, written in base64 so that it can stand in a URL. The bytes
come from outside; sixteen of them are drawn unless a caller says otherwise.
-/
namespace Bearer.Csrf

/-- How many random bytes a token is made of. -/
def defaultLength : Nat := 16

/-- The token made of the given bytes. -/
def ofBytes (bytes : List UInt8) : CsrfToken :=
  ⟨String.ofList (Text.Base64.encode bytes)⟩

/-- Whether a text given back is the token. -/
def isValid (expected : Option CsrfToken) (state : String) : Bool :=
  match expected with
  | some c => c.text == state
  | none => false

theorem isValid_iff {expected : Option CsrfToken} {state : String} :
    isValid expected state = true ↔ expected = some ⟨state⟩ := by
  cases expected with
  | none => simp [isValid]
  | some c => cases c; simp [isValid]

end Bearer.Csrf
