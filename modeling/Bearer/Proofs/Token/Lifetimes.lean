import Bearer.Http.Script
import Bearer.Proofs.Flow.Onward
import Bearer.Proofs.Operation.Vouched
import Bearer.Proofs.Time.Exact
import Bearer.Proofs.Token.Refreshing
import Mathlib.Data.NNRat.Defs

/-!
# Lifetimes as the clock goes on

A token is used for a while on a clock that is read exactly and never put back: time passes, the
token is validated, revoked, compared with requirements and refreshed, with success or without. Only
a refresh with success begins a lifetime anew. Until then less and less of it remains, never less
than nothing and never more than there was, and the lifetime is over from the moment on when as many
microseconds have passed as it has.

* `remaining?_of_inRange`: what remains of a lifetime, if that can be said at all.
* `Timed.run`, `Kept.run`: what any use of a token keeps, and what one keeps that renews nothing.
* `validation_of_zero`: a lifetime of zero is read as if none was named.
* `UsedToken.lifetimes_hold`: all that a token says of its lifetime, in every state of every run.
-/
namespace Bearer

open Time World

/-! ## What remains -/

namespace Lifetime

variable {l : Lifetime ℚ} {now later : ℚ} {span : Span}

/-- The time that has passed at a reading is a span, and so is what remains. -/
def InRange (l : Lifetime ℚ) (now : ℚ) : Prop :=
  ∀ span, l.span = some span → microsBetween now l.since < 1000000000 * perDay ∧
    -999999999 * perDay ≤ span.micros - microsBetween now l.since

theorem InRange.earlier (h : l.InRange later) (hle : now ≤ later) : l.InRange now := by
  intro span hspan
  have hmono := microsBetween_mono hle l.since
  obtain ⟨hupper, hlower⟩ := h span hspan
  exact ⟨by omega, by omega⟩

/-- What remains of a span is what has not passed of it, but never less than nothing. -/
theorem remaining?_of_inRange (hspan : l.span = some span) (hsince : l.since ≤ now)
    (h : l.InRange now) :
    ∃ rest, l.remaining? now = some (some rest) ∧
      rest.micros = max (span.micros - microsBetween now l.since) 0 := by
  obtain ⟨hupper, hlower⟩ := h span hspan
  have hnonneg := microsBetween_nonneg hsince
  have hspanUpper := span.upper
  unfold perDay at *
  let passed : Span := ⟨microsBetween now l.since, by unfold perDay; omega, hupper⟩
  let left : Span :=
    ⟨span.micros - microsBetween now l.since, hlower, by unfold perDay; omega⟩
  have hpassed : Clock.since? now l.since = some passed := Span.ofMicros?_eq_some_iff.2 rfl
  have hleft : span.sub? passed = some left := Span.ofMicros?_eq_some_iff.2 rfl
  refine ⟨left.max .zero, ?_, micros_max_zero left⟩
  unfold remaining? left?
  simp only [hspan, hpassed, hleft, Option.bind_some, Option.map_some]

theorem remaining?_of_unknown (h : l.span = none) (now : ℚ) : l.remaining? now = some none := by
  unfold remaining?
  rw [h]

end Lifetime

/-! ## Tokens in use -/

variable {σ : Type}

/-- A token in use, in its world. -/
structure UsedToken (σ : Type) where
  /-- The token. -/
  token : Token ℚ
  /-- Its world. -/
  world : World σ ℚ
  /-- What the clock read when the token was assembled or last refreshed with success. -/
  start : ℚ

namespace UsedToken

variable {s s' s'' : UsedToken σ}

/-- What remains of the lifetime; the outer level is absent if that cannot be told. -/
def expiresIn (s : UsedToken σ) : Option (Option Span) :=
  s.token.lifetime.remaining? s.world.now

/-- Whether the lifetime is over, if that can be told. -/
def isElapsed (s : UsedToken σ) : Option Bool :=
  s.expiresIn.map Lifetime.isOver

/-- The microseconds since the token was assembled or last refreshed with success. -/
def age (s : UsedToken σ) : ℤ :=
  microsBetween s.world.now s.start

/-- What remains of the lifetime can be told. -/
def InRange (s : UsedToken σ) : Prop :=
  s.token.lifetime.InRange s.world.now

/-- The lifetime counts from the start, and the clock has not been put back since then and will not
be. -/
structure Timed (s : UsedToken σ) : Prop where
  since : s.token.lifetime.since = s.start
  past : s.start ≤ s.world.now
  steady : s.world.IsSteady

/-- From `s` to `s'` the token stays as it is, while the clock goes on. -/
structure Kept (s s' : UsedToken σ) : Prop where
  token : s'.token = s.token
  start : s'.start = s.start
  onward : s.world.Onward s'.world

theorem Kept.refl (s : UsedToken σ) : Kept s s := ⟨rfl, rfl, .refl _⟩

theorem Kept.trans (h : Kept s s') (h' : Kept s' s'') : Kept s s'' :=
  ⟨h'.token.trans h.token, h'.start.trans h.start, h.onward.trans h'.onward⟩

theorem Timed.kept (hs : s.Timed) (h : Kept s s') : s'.Timed where
  since := by rw [h.token, h.start, hs.since]
  past := by
    rw [h.start]
    exact hs.past.trans h.onward.now
  steady := h.onward.isSteady hs.steady

theorem Timed.age_nonneg (hs : s.Timed) : 0 ≤ s.age :=
  microsBetween_nonneg hs.past

theorem Kept.age_le (h : Kept s s') : s.age ≤ s'.age := by
  unfold age
  rw [h.start]
  exact microsBetween_mono h.onward.now s.start

theorem Kept.inRange (h : Kept s s') (hs' : s'.InRange) : s.InRange := by
  unfold InRange at hs'
  rw [h.token] at hs'
  exact hs'.earlier h.onward.now

/-- What a token in use says of its lifetime. -/
structure Tells (s : UsedToken σ) : Prop where
  /-- Of a lifetime that is known something from nothing to all of it remains, and it is over if as
  much time has passed as it has. -/
  known : ∀ span, s.token.lifetime.span = some span → ∃ rest, s.expiresIn = some (some rest) ∧
    rest.micros = max (span.micros - s.age) 0 ∧ 0 ≤ rest.micros ∧
      rest.micros ≤ max span.micros 0 ∧ s.isElapsed = some (decide (span.micros ≤ s.age))
  /-- A lifetime that is not known is never over. -/
  unknown : s.token.lifetime.span = none → s.expiresIn = some none ∧ s.isElapsed = some false

/-- What a token says at `s'` that was not renewed since `s`. -/
structure Ages (s s' : UsedToken σ) : Prop where
  /-- No more remains than did before. -/
  rest : ∀ rest, s.expiresIn = some (some rest) →
    ∃ rest', s'.expiresIn = some (some rest') ∧ rest'.micros ≤ rest.micros
  /-- What was over stays so. -/
  elapsed : s.isElapsed = some true → s'.isElapsed = some true

/-- A token says rightly what remains, as long as that can be told. -/
theorem Timed.tells (hs : s.Timed) (h : s.InRange) : s.Tells where
  known span hspan := by
    have hage := hs.age_nonneg
    obtain ⟨rest, hrest, hmicros⟩ :=
      Lifetime.remaining?_of_inRange hspan (hs.since.trans_le hs.past) h
    rw [hs.since] at hmicros
    have hmicros : rest.micros = max (span.micros - s.age) 0 := hmicros
    refine ⟨rest, hrest, hmicros, by omega, by omega, ?_⟩
    unfold isElapsed expiresIn
    rw [hrest, Option.map_some, Option.some.injEq, Lifetime.isOver, decide_eq_decide]
    omega
  unknown hspan := by
    have hrest : s.expiresIn = some none := Lifetime.remaining?_of_unknown hspan _
    exact ⟨hrest, by unfold isElapsed; rw [hrest]; rfl⟩

/-- As the clock goes on less of a lifetime remains. -/
theorem Timed.ages (hs : s.Timed) (h : Kept s s') (hrange : s'.InRange) : Ages s s' := by
  have hage := h.age_le
  have htells := hs.tells (h.inRange hrange)
  have htells' := (hs.kept h).tells hrange
  -- the token is the same, and so is the lifetime that it says something of
  rcases hspan : s.token.lifetime.span with - | span
  · obtain ⟨hnone, helapsed⟩ := htells.unknown hspan
    constructor
    · simp [hnone]
    · simp [helapsed]
  · obtain ⟨rest, hrest, hmicros, -, -, helapsed⟩ := htells.known span hspan
    obtain ⟨rest', hrest', hmicros', -, -, helapsed'⟩ :=
      htells'.known span (by rw [h.token]; exact hspan)
    constructor
    · intro r hr
      rw [hrest, Option.some.injEq, Option.some.injEq] at hr
      subst hr
      exact ⟨rest', hrest', by omega⟩
    · rw [helapsed, helapsed']
      simp only [Option.some.injEq, decide_eq_true_eq]
      omega

end UsedToken

/-! ## Steps -/

variable [Http.Server σ]

/-- What is done with a token, and what happens meanwhile. -/
inductive TokenUse where
  /-- Time passes. -/
  | advance (length : NNRat)
  | validate
  | revoke
  | ensure (r : Requirement)
  | refresh

/-- Takes a step. -/
def TokenUse.run (s : UsedToken σ) : TokenUse → UsedToken σ
  | .advance length => { s with world := s.world.advanced (length : ℚ) }
  | .validate => { s with world := (s.token.validate s.world).2 }
  | .revoke => { s with world := (s.token.revoke s.world).2 }
  | .ensure r =>
    { s with world := ((s.token.ensure r : Flow _ MissingScopesFault Unit) s.world).2 }
  | .refresh =>
    match Token.refresh (s.token, s.world) with
    | (.ok (), token, world) => ⟨token, world, world.now⟩
    | (.error _, token, world) => ⟨token, world, s.start⟩

namespace UsedToken

variable {s : UsedToken σ} {use : TokenUse}

/-- A token in use after several steps. -/
def after (s : UsedToken σ) (uses : List TokenUse) : UsedToken σ :=
  uses.foldl TokenUse.run s

/-- A step is a refresh with success. -/
def Renews (s : UsedToken σ) (use : TokenUse) : Prop :=
  use = .refresh ∧ (Token.refresh (s.token, s.world)).1 = .ok ()

/-- No step of several is a refresh with success. -/
def NotRenewed (s : UsedToken σ) : List TokenUse → Prop
  | [] => True
  | use :: uses => ¬s.Renews use ∧ (use.run s).NotRenewed uses

/-- The clock goes on while a token is refreshed. -/
theorem onward_refresh {t t' : Token ℚ} {w w' : World σ ℚ} {r : Except (Failure RefreshFault) Unit}
    (h : Token.refresh (t, w) = (r, t', w')) (hw : w.IsSteady) : w.Onward w' := by
  have hgoes := Token.goesOn_refreshed t w hw
  rcases r with e | ⟨⟩
  · rw [(Token.refresh_error h).2] at hgoes
    exact hgoes
  · rw [Token.refresh_ok h] at hgoes
    exact hgoes

/-- A step that is no refresh with success leaves the token alone. -/
theorem Kept.run (hs : s.world.IsSteady) (h : ¬s.Renews use) : Kept s (use.run s) := by
  cases use with
  | advance length => exact ⟨rfl, rfl, le_add_of_nonneg_right length.coe_nonneg, rfl⟩
  | validate => exact ⟨rfl, rfl, Endpoint.goesOn_validate _ _ hs⟩
  | revoke => exact ⟨rfl, rfl, Endpoint.goesOn_revoke _ _ _ hs⟩
  | ensure r => exact ⟨rfl, rfl, Token.goesOn_ensure _ r _ hs⟩
  | refresh =>
    rcases hr : Token.refresh (s.token, s.world) with ⟨e | ⟨⟩, t, w⟩
    · simp only [TokenUse.run, hr]
      exact ⟨(Token.refresh_error hr).1, rfl, onward_refresh hr hs⟩
    · exact absurd ⟨rfl, congrArg Prod.fst hr⟩ h

/-- A refresh with success begins a lifetime anew. -/
theorem Timed.renewed (hs : s.Timed) (h : s.Renews use) : (use.run s).Timed := by
  obtain ⟨rfl, h⟩ := h
  rcases hr : Token.refresh (s.token, s.world) with ⟨e | ⟨⟩, t, w⟩
  · rw [hr] at h
    cases h
  · simp only [TokenUse.run, hr]
    obtain ⟨request, answer, hrenewed⟩ := Token.refreshed_ok (Token.refresh_ok hr)
    exact ⟨congrArg Lifetime.since hrenewed.lifetime, le_refl _,
      (onward_refresh hr hs.steady).isSteady hs.steady⟩

theorem Timed.run (hs : s.Timed) (use : TokenUse) : (use.run s).Timed := by
  by_cases h : s.Renews use
  · exact hs.renewed h
  · exact hs.kept (.run hs.steady h)

theorem Timed.after (hs : s.Timed) (uses : List TokenUse) : (s.after uses).Timed := by
  induction uses generalizing s with
  | nil => exact hs
  | cons use uses ih => exact ih (hs.run use)

/-- Steps without a refresh with success leave the token alone. -/
theorem Kept.after {uses : List TokenUse} (hs : s.world.IsSteady) (h : s.NotRenewed uses) :
    Kept s (s.after uses) := by
  induction uses generalizing s with
  | nil => exact .refl s
  | cons use uses ih =>
    -- the clock stays steady, so the steps that follow may be taken too
    have hkept := Kept.run hs h.1
    exact hkept.trans (ih (hkept.onward.isSteady hs) h.2)

end UsedToken

/-! ## Lifetimes of zero -/

/-- A document is zero: the whole number, the one with a point, or false. -/
def Json.IsZero (v : Json) : Prop :=
  v = .int 0 ∨ v = .float 0.0 ∨ v = .bool false

theorem Json.IsZero.isSame {v : Json} (h : v.IsZero) : v.isSame (.int 0) = true := by
  rcases h with rfl | rfl | rfl
  · rfl
  · decide +kernel
  · rfl

/-- The fields of an object without those of a key. -/
def Json.without (key : String) (fields : List (String × Json)) : List (String × Json) :=
  fields.filter fun f => f.1 ≠ key

theorem Json.lookup?_without (key other : String) (fields : List (String × Json)) :
    lookup? other (without key fields) = if other = key then none else lookup? other fields := by
  induction fields with
  | nil => simp [without, lookup?]
  | cons f fields ih =>
    obtain ⟨k, v⟩ := f
    unfold without at *
    by_cases hk : k = key <;> by_cases ho : k = other <;> grind [lookup?]

namespace Payload

/-- A lifetime of zero is read as if none was named. -/
theorem validation_of_zero {src : Source} {fields : List (String × Json)} {v : Json}
    (hv : Json.lookup? "expires_in" fields = some v) (hzero : v.IsZero) :
    validation src (.obj fields) = validation src (.obj (Json.without "expires_in" fields)) := by
  have hspan : knownSpan v = .done none := if_pos hzero.isSame
  simp [validation, fieldsOf, required, optional, scopesField, Json.lookup?_without, hv, hspan,
    Reading.under]

/-- What an answer says that names a lifetime of zero. -/
theorem ValidationFields.expiresIn_of_zero {fields : List (String × Json)} {validation : Validation}
    (h : ValidationFields fields validation) {v : Json}
    (hv : Json.lookup? "expires_in" fields = some v) (hzero : v.IsZero) :
    validation.expiresIn = none := by
  have hspan := h.expiresIn
  cases hd : validation.expiresIn with
  | none => rfl
  | some d =>
    rw [hd] at hspan
    obtain ⟨v', hv', hne, -⟩ := hspan
    cases hv.symm.trans hv'
    rw [hzero.isSame] at hne
    cases hne

end Payload

/-- From `w` to `w'` the client hands over one answer. Its body is an object, and the lifetime in it
is zero. -/
def World.NamesZero {τ : Type} (w w' : World σ τ) : Prop :=
  ∃ a text fields v, w.Consumes [a] w' ∧ Text.Utf8.decode? a.body = some text ∧
    Json.read? text = some (.obj fields) ∧ Json.lookup? "expires_in" fields = some v ∧ v.IsZero

variable {τ : Type} {w w' : World σ τ}

/-- What the server knows of a token that it says zero of. -/
theorem World.Shows.expiresIn_of_zero {token : AccessToken} {v : Validation}
    (h : w.Shows token v w') (hzero : w.NamesZero w') : v.expiresIn = none := by
  obtain ⟨s, r, -, hex, -, -, -, -, a, ha, -, fields, ⟨text, htext, hfields⟩, hsaid⟩ := h
  obtain ⟨b, text', fields', z, ⟨rs, hex', hhanded⟩, htext', hfields', hz, hzero⟩ := hzero
  cases hex'.unique hex
  have hhanded : [w.client.receive r (Http.Server.reply w.server r).1] = [.ok (.answer b)] := hhanded
  rw [ha] at hhanded
  cases hhanded
  cases htext.symm.trans htext'
  cases hfields.symm.trans hfields'
  exact hsaid.expiresIn_of_zero hz hzero

/-- What it takes for a token that is there to become an app token. -/
theorem AppToken.ofExisting_ok {access : Option AccessToken} {spare : Option RefreshToken}
    {secret : Option ClientSecret} {t : AppToken τ}
    (h : ofExisting access spare secret w = (.ok t, w')) :
    ∃ token v, access = some token ∧ w.Shows token v w' ∧
      t = ofValidation v access spare secret w'.now := by
  rcases Flow.bind_cases h with ⟨e, -, he⟩ | ⟨v, u, hvalidate, hassemble⟩
  · cases he
  obtain ⟨token, rfl, hshows⟩ := Endpoint.validate_ok hvalidate
  cases hassemble
  exact ⟨token, v, rfl, hshows, rfl⟩

/-- A token whose lifetime the server gives as zero is one without a known lifetime. -/
theorem lifetime_of_zero {access : Option AccessToken} {spare : Option RefreshToken}
    {secret : Option ClientSecret} (hzero : w.NamesZero w') :
    (∀ t, AppToken.ofExisting access spare secret w = (.ok t, w') → t.lifetime = ⟨none, w'.now⟩) ∧
      ∀ t, UserToken.ofExisting access spare secret w = (.ok t, w') →
        t.lifetime = ⟨none, w'.now⟩ := by
  constructor
  · intro t h
    obtain ⟨token, v, -, hshows, rfl⟩ := AppToken.ofExisting_ok h
    simp only [AppToken.ofValidation, hshows.expiresIn_of_zero hzero]
  · intro t h
    obtain ⟨token, v, -, hshows, hmade⟩ := UserToken.ofExisting_ok h
    rw [hmade.lifetime, hshows.expiresIn_of_zero hzero]

/-! ## Runs -/

/-- Whatever is done with a token from when it was assembled, it says rightly what remains of its
lifetime; as long as no refresh succeeds it stays as it is, and its lifetime only runs down. A
lifetime that the server gives as zero is none that is known, and as good as one that is not given.
-/
theorem UsedToken.lifetimes_hold {t : Token ℚ} {w : World σ ℚ} (ht : t.lifetime.since = w.now)
    (hw : w.IsSteady) (before between : List TokenUse) :
    let s := after ⟨t, w, w.now⟩ before
    let s' := s.after between
    (s'.InRange → s'.Tells) ∧
      (s.NotRenewed between →
        s'.token = s.token ∧ s'.start = s.start ∧ (s'.InRange → s.Ages s')) ∧
      (∀ (u u' : World σ ℚ) access spare secret, u.NamesZero u' →
        (∀ t, AppToken.ofExisting access spare secret u = (.ok t, u') →
          t.lifetime = ⟨none, u'.now⟩) ∧
        ∀ t, UserToken.ofExisting access spare secret u = (.ok t, u') →
          t.lifetime = ⟨none, u'.now⟩) ∧
      ∀ src fields v, Json.lookup? "expires_in" fields = some v → v.IsZero →
        Payload.validation src (.obj fields) =
          Payload.validation src (.obj (Json.without "expires_in" fields)) := by
  intro s s'
  have hstart : (⟨t, w, w.now⟩ : UsedToken σ).Timed := ⟨ht, le_refl _, hw⟩
  have hs : s.Timed := hstart.after before
  refine ⟨(hs.after between).tells, fun hkept => ?_, fun _ _ _ _ _ hzero => lifetime_of_zero hzero,
    fun _ _ _ => Payload.validation_of_zero⟩
  have hkept := Kept.after hs.steady hkept
  exact ⟨hkept.token, hkept.start, hs.ages hkept⟩

/-- A lifetime of three seconds is over after three, though a refresh failed in between; and one
that is given as false is not known. -/
theorem UsedToken.lifetimes_hold_past_failure :
    let body := Text.Utf8.encode
      "\x7b\x22client_id\x22:\x22cid\x22,\x22expires_in\x22:false\x7d".toList
    let t : Token ℚ := .app ⟨some ⟨"old"⟩, some ⟨"spare"⟩, some ⟨"cid"⟩, some ⟨"key"⟩, [],
      ⟨some ⟨3000000, by decide, by decide⟩, 5⟩⟩
    let w : World Http.Script ℚ :=
      { server := ⟨[("/oauth2/token", [.answer ⟨500, [], []⟩]),
          ("/oauth2/validate", [.answer ⟨200, [], body⟩])]⟩
        client := .bare, settings := .ok {}, now := 5, answeredAt := fun _ now => now + 1 / 2 }
    let s := after ⟨t, w, w.now⟩ [.advance 1]
    let between : List TokenUse := [.refresh, .validate, .advance 1]
    let s' := s.after between
    let u' := (AppToken.ofExisting (some ⟨"old"⟩) none none w).2
    (t.lifetime.since = w.now ∧ w.IsSteady ∧ s.NotRenewed between ∧ s'.InRange ∧ w.NamesZero u') ∧
      s'.Tells ∧ s.Ages s' ∧ s.isElapsed = some false ∧ s'.isElapsed = some true ∧
      ∃ a, AppToken.ofExisting (some ⟨"old"⟩) none none w = (.ok a, u') ∧
        a.lifetime = ⟨none, u'.now⟩ := by
  intro body t w s between s' u'
  have hsteady : w.IsSteady := fun n now => le_add_of_nonneg_right (by norm_num)
  have hkept : s.NotRenewed between := by
    have hfailed : (Token.refresh (s.token, s.world)).1 ≠ .ok () := by decide +kernel
    simp only [between, NotRenewed, Renews]
    simp [hfailed]
  obtain ⟨htells, hages, hunknown, -⟩ := lifetimes_hold (t := t) rfl hsteady [.advance 1] between
  obtain ⟨htoken, hstart, hages⟩ := hages hkept
  have hage : s'.age = 3000000 := by decide +kernel
  have hrange : s'.InRange := by
    have hsince : s'.token.lifetime.since = s'.start := by rw [htoken, hstart]; rfl
    intro span hspan
    rw [htoken] at hspan
    cases hspan
    rw [hsince, show microsBetween s'.world.now s'.start = 3000000 from hage]
    decide
  obtain ⟨a, ha⟩ : ∃ a, AppToken.ofExisting (some ⟨"old"⟩) none none w = (.ok a, u') := by
    have hok : (AppToken.ofExisting (some ⟨"old"⟩) none none w).1 =
        .ok ⟨some ⟨"old"⟩, none, some ⟨"cid"⟩, none, [], ⟨none, 11 / 2⟩⟩ := by decide +kernel
    exact ⟨_, Flow.ends_of_fst hok⟩
  have hzero : w.NamesZero u' := by
    obtain ⟨-, -, -, ⟨-, r, -, hex, -⟩, -⟩ := AppToken.ofExisting_ok ha
    have hsent : u'.sent.toList = [r] := hex.sent
    have hhanded : w.handed u'.sent.toList = [.ok (.answer ⟨200, [], body⟩)] := by decide +kernel
    rw [hsent] at hhanded
    have htext : Text.Utf8.decode? body =
      some "\x7b\x22client_id\x22:\x22cid\x22,\x22expires_in\x22:false\x7d".toList := by
      decide +kernel
    exact ⟨_, _, _, _, ⟨[r], hex, hhanded⟩, htext, rfl, rfl, .inr (.inr rfl)⟩
  have hover : s'.isElapsed = some true := by
    obtain ⟨rest, -, -, -, -, helapsed⟩ := (htells hrange).known _ (by rw [htoken]; rfl)
    rw [helapsed, hage]
    rfl
  exact ⟨⟨rfl, hsteady, hkept, hrange, hzero⟩, htells hrange, hages hrange, by decide +kernel, hover,
    a, ha, (hunknown w u' _ _ _ hzero).1 a ha⟩

end Bearer
