/-!
# Kinds of error

The errors of the library form a hierarchy: an operation fails with one kind, and the causes
behind it (the transport, the answer, the record in it) have kinds of their own. A state that does
not match ends both browser flows, so it has two parents.

* `mem_ancestors_of_parent`: an ancestor of a parent is an ancestor.
* `isA_self`, `isA_of_parent`: what a kind is.
* `mem_all`: the list of kinds leaves none out.
-/
namespace Bearer

/-- The kinds of error. -/
inductive ErrorKind where
  /-- Any error of the library. -/
  | any
  /-- A request could not be made. -/
  | request
  /-- An answer could not be used. -/
  | answer
  /-- The body of an answer is not the record it should be. -/
  | record
  /-- The answer is a refusal. -/
  | refusal
  /-- The answer is not JSON. -/
  | notJson
  /-- The answer has an unexpected status. -/
  | status
  /-- A token could not be validated. -/
  | validation
  /-- A token is not authorized. -/
  | notAuthorized
  /-- A token belongs to no user. -/
  | noLogin
  /-- A token could not be revoked. -/
  | revocation
  /-- A token could not be refreshed. -/
  | refresh
  /-- There is no token to refresh with. -/
  | noRefreshToken
  /-- A refreshed token has no lifetime. -/
  | noExpiration
  /-- The client credentials flow failed. -/
  | appToken
  /-- The authorization code flow failed. -/
  | codeExchange
  /-- The implicit flow failed. -/
  | implicitExchange
  /-- The state given back is not the one sent. -/
  | stateMismatch
  /-- The device flow failed. -/
  | deviceExchange
  /-- The device flow has not been started. -/
  | deviceNotStarted
  /-- The codes of the device flow have expired. -/
  | deviceExpired
  /-- A token lacks scopes. -/
  | missingScopes
  /-- A text is no requirement. -/
  | requirementSyntax
deriving DecidableEq, Repr

namespace ErrorKind

/-- Every kind. -/
def all : List ErrorKind :=
  [.any, .request, .answer, .record, .refusal, .notJson, .status, .validation, .notAuthorized,
    .noLogin, .revocation, .refresh, .noRefreshToken, .noExpiration, .appToken, .codeExchange,
    .implicitExchange, .stateMismatch, .deviceExchange, .deviceNotStarted, .deviceExpired,
    .missingScopes, .requirementSyntax]

theorem mem_all (k : ErrorKind) : k ∈ all := by
  cases k <;> decide

/-- The kinds directly above a kind. -/
def parents : ErrorKind → List ErrorKind
  | .any => []
  | .record | .refusal | .notJson | .status => [.answer]
  | .notAuthorized | .noLogin => [.validation]
  | .noRefreshToken | .noExpiration => [.refresh]
  | .stateMismatch => [.codeExchange, .implicitExchange]
  | .deviceNotStarted | .deviceExpired => [.deviceExchange]
  | _ => [.any]

/-- How far a kind is below the top. -/
def depth : ErrorKind → Nat
  | .any => 0
  | .record | .refusal | .notJson | .status | .notAuthorized | .noLogin | .noRefreshToken
  | .noExpiration | .stateMismatch | .deviceNotStarted | .deviceExpired => 2
  | _ => 1

theorem depth_lt_of_parent {k p : ErrorKind} (h : p ∈ k.parents) : p.depth < k.depth := by
  cases k <;> simp_all [parents, depth]
  rcases h with rfl | rfl <;> decide

/-- The kinds above a kind, nearest first, each once. -/
def ancestors (k : ErrorKind) : List ErrorKind :=
  (k.parents ++ (k.parents.attach.flatMap fun p => ancestors p.1)).eraseDups
termination_by k.depth
decreasing_by exact depth_lt_of_parent p.2

/-- Whether an error of the first kind is also one of the second. -/
def isA (k l : ErrorKind) : Bool :=
  k = l || k.ancestors.contains l

theorem mem_ancestors_of_parent {k p l : ErrorKind} (hp : p ∈ k.parents) (h : l ∈ p.ancestors) :
    l ∈ k.ancestors := by
  rw [ancestors, List.mem_eraseDups]
  exact List.mem_append_right _ (List.mem_flatMap.2 ⟨⟨p, hp⟩, List.mem_attach _ _, h⟩)

theorem isA_self (k : ErrorKind) : k.isA k = true := by
  simp [isA]

theorem isA_of_parent {k p : ErrorKind} (h : p ∈ k.parents) : k.isA p = true := by
  have hmem : p ∈ k.ancestors := by
    rw [ancestors, List.mem_eraseDups]
    exact List.mem_append_left _ h
  simp [isA, hmem]

end ErrorKind

end Bearer
