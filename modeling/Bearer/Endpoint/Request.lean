import Bearer.Answer.Check

/-!
# Requests to endpoints

A request to an endpoint is made of the settings, which say where the endpoint is, and of
credentials, which may have been left out where they were collected. It is not made if the settings
do not load or if a credential that it needs is not there; which of the two is told depends on what
it looks at first.

* `textOf_eq_ok_iff`: the text of a credential that is there.
-/
namespace Bearer.Endpoint

/-- The text of a credential that must be there. -/
def textOf {k : CredentialKind} : Option (Credential k) → Except Escape String
  | some c => .ok c.text
  | none => .error (.lack (.credential k))

theorem textOf_eq_ok_iff {k : CredentialKind} {c : Option (Credential k)} {text : String} :
    textOf c = .ok text ↔ c = some ⟨text⟩ := by
  cases c with
  | none => simp [textOf]
  | some c => cases c; simp [textOf]

/-- The settings, which must load. -/
def settingsOf (settings : Answer.Loaded) : Except Escape Settings :=
  settings.mapError .settings

/-- A request that posts parameters to an endpoint. -/
def post (endpoint : String) (params : List Url.Form.Param) : Except Escape Http.Request :=
  (Http.Request.post endpoint params).mapError .request

end Bearer.Endpoint
