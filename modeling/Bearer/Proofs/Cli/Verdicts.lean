import Bearer.Cli.Run
import Bearer.Http.Script
import Bearer.Proofs.Flow.Cases
import Bearer.Proofs.Json.RoundTrip
import Bearer.Proofs.Requirement.Reading
import Bearer.Proofs.Time.Exact
import Bearer.Token.Use

/-!
# One verdict on scopes

Scopes are compared with a requirement by two commands and by tokens themselves. The command that
compares scopes has them as texts, a validation as the server lists them, if it does, and a token as
it holds them. For all of them there is one verdict on the text of a requirement and the scopes that
are held: the text is no requirement, or the scopes meet it, or something is missing. It says
whether the scopes meet the requirement, and the front ends, which look only at what is missing,
never say anything else.

* `judged_verdict`: what is missing settles the verdict.
* `start_checkScopes`: the command that compares scopes.
* `start_validate_of_error`, `start_validate_of_ok`: a validation.
* `reported_output`: what its report says, on lines and as JSON.
* `front_ends_agree`: both commands and tokens together.
-/
namespace Bearer.Cli

/-- What can be said of the text of a requirement and scopes that are held. -/
inductive Verdict where
  /-- The text is no requirement. -/
  | unreadable (e : Requirement.SyntaxError)
  /-- The scopes meet it. -/
  | met
  /-- They do not, since this is missing. -/
  | lacking (rest : Requirement)

/-- The verdict on a text and scopes that are held. -/
inductive Judged (text : String) (held : List Scope) : Verdict → Prop where
  | unreadable {e : Requirement.SyntaxError} :
      Requirement.parse text = .error e → Judged text held (.unreadable e)
  | met {r : Requirement} :
      Requirement.parse text = .ok r → r.isMet held = true → Judged text held .met
  | lacking {r rest : Requirement} : Requirement.parse text = .ok r → r.isMet held = false →
      r.missing held = some rest → Judged text held (.lacking rest)

namespace Verdict

/-- What is missing. -/
def rest? : Verdict → Option Requirement
  | .unreadable _ => none
  | .met => none
  | .lacking rest => some rest

/-- How the command ends that compares scopes. -/
def outcome : Verdict → Outcome
  | .unreadable e => { exitCode := 2, usage := some (.requirement e) }
  | .met => { exitCode := 0, out := "ok\n" }
  | .lacking rest => { exitCode := 1, out := "missing: " ++ rest.display ++ "\n" }

end Verdict

/-! ## The verdict -/

variable {text : String} {v : Verdict} {r : Requirement}

/-- The verdict that is read off what is missing. -/
def verdict (text : String) (held : List Scope) : Verdict :=
  match Requirement.parse text with
  | .error e => .unreadable e
  | .ok r =>
    match r.missing held with
    | none => .met
    | some rest => .lacking rest

theorem verdict_of_error {e : Requirement.SyntaxError} (h : Requirement.parse text = .error e)
    (held : List Scope) : verdict text held = .unreadable e := by
  rw [verdict, h]

/-- Of a requirement nothing is missing, or something is. -/
theorem verdict_cases (h : Requirement.parse text = .ok r) (held : List Scope) :
    (r.missing held = none ∧ verdict text held = .met) ∨
      ∃ rest, r.missing held = some rest ∧ verdict text held = .lacking rest := by
  cases hmissing : r.missing held with
  | none => exact .inl ⟨rfl, by rw [verdict, h]; simp only [hmissing]⟩
  | some rest => exact .inr ⟨rest, rfl, by rw [verdict, h]; simp only [hmissing]⟩

/-- What is missing tells whether scopes meet a requirement, so this is the verdict. -/
theorem judged_verdict (text : String) (held : List Scope) :
    Judged text held (verdict text held) := by
  cases hr : Requirement.parse text with
  | error e =>
    rw [verdict_of_error hr]
    exact .unreadable hr
  | ok r =>
    rcases verdict_cases hr held with ⟨hmissing, hv⟩ | ⟨rest, hmissing, hv⟩
    · rw [hv]
      exact .met hr ((Requirement.missing_eq_none_iff held r).1 hmissing)
    · rw [hv]
      refine .lacking hr (Bool.eq_false_iff.2 fun hmet => ?_) hmissing
      rw [(Requirement.missing_eq_none_iff held r).2 hmet] at hmissing
      cases hmissing

/-! ## Arguments -/

/-- The arguments name a command and give it these options and operands, and they do not ask for
help. -/
def Calls (args : List String) (name : String) (g : Given) : Prop :=
  ∃ rest, split args = .ok (name, rest) ∧
    scan (helpSwitch :: (switches? name).getD []) true {} rest = .ok g ∧
    g.has helpSwitch.name = false

variable {σ τ : Type} [Http.Server σ] [Time.Clock τ] {args : List String} {s : Surroundings σ τ}
  {g : Given} {st : Settings} {held : List String} {token : String}

theorem Calls.start_of_error {name : String} {u : Usage} (h : Calls args name g)
    (hs : s.world.settings = .ok st) (hmake : make s.vars name g = .error u) :
    start args s = .done (usageOutcome u) s.world := by
  obtain ⟨rest, hsplit, hscan, hhelp⟩ := h
  simp only [start, read, hsplit, hs, hscan, hhelp, hmake, Bool.false_eq_true, if_false]

theorem Calls.start_of_ok {name : String} {c : Command} (h : Calls args name g)
    (hs : s.world.settings = .ok st) (hmake : make s.vars name g = .ok c) :
    start args s = run s.random s.pollLimit c s.world := by
  obtain ⟨rest, hsplit, hscan, hhelp⟩ := h
  simp only [start, read, hsplit, hs, hscan, hhelp, hmake, Bool.false_eq_true, if_false]

/-! ## Comparing scopes -/

theorem make_checkScopes (vars : Variables) (hg : g.operands = text :: held) :
    make vars "check-scopes" g =
      (requirement text).map fun r => .checkScopes r (held.map (⟨·⟩)) := by
  simp only [make, hg]
  cases requirement text <;> rfl

theorem start_checkScopes (h : Calls args "check-scopes" g) (hg : g.operands = text :: held)
    (hs : s.world.settings = .ok st) :
    start args s = .done (verdict text (held.map (⟨·⟩))).outcome s.world := by
  have hmake := make_checkScopes s.vars hg
  rw [requirement] at hmake
  cases hr : Requirement.parse text with
  | error e =>
    rw [hr] at hmake
    rw [h.start_of_error hs hmake, verdict_of_error hr]
    rfl
  | ok r =>
    rw [hr] at hmake
    rw [h.start_of_ok hs hmake, run, checkScopes]
    rcases verdict_cases hr (held.map (⟨·⟩)) with ⟨hmissing, hv⟩ | ⟨rest, hmissing, hv⟩
    · rw [hmissing, hv, Verdict.outcome]
    · rw [hmissing, hv, Verdict.outcome]

/-! ## Validating a token -/

theorem make_validate (vars : Variables) (hg : g.operands = [token])
    (hrequire : g.last? requireSwitch.name = some text) :
    make vars "validate" g =
      (requirement text).map fun r => .validate ⟨token⟩ (some r) (g.has jsonSwitch.name) := by
  have hmap : Option.mapM requirement (some text) = (requirement text).map some := rfl
  simp only [make, only, hg, hrequire, hmap]
  cases requirement text <;> rfl

/-- A text that is no requirement is found before anything is sent. -/
theorem start_validate_of_error (h : Calls args "validate" g) (hg : g.operands = [token])
    (hrequire : g.last? requireSwitch.name = some text) (hs : s.world.settings = .ok st)
    {e : Requirement.SyntaxError} (hr : Requirement.parse text = .error e) :
    start args s = .done { exitCode := 2, usage := some (.requirement e) } s.world := by
  have hmake := make_validate s.vars hg hrequire
  rw [requirement, hr] at hmake
  rw [h.start_of_error hs hmake]
  rfl

theorem validationFields_some (x : Validation) (r : Requirement) :
    validationFields x (some r) = validationFields x none ++
      [("missing", Report.of ((r.missing (x.scopes.getD [])).map Requirement.display))] := by
  simp only [validationFields, List.append_nil]

theorem start_validate_of_ok (h : Calls args "validate" g) (hg : g.operands = [token])
    (hrequire : g.last? requireSwitch.name = some text) (hs : s.world.settings = .ok st)
    (hr : Requirement.parse text = .ok r) {x : Validation} {w : World σ τ}
    (hx : Endpoint.validate (some ⟨token⟩) s.world = (.ok x, w)) :
    start args s =
      .done { exitCode := if (r.missing (x.scopes.getD [])).isSome then 1 else 0
              out := output (g.has jsonSwitch.name) (validationFields x none ++
                [("missing", Report.of ((r.missing (x.scopes.getD [])).map Requirement.display))]) }
        w := by
  have hmake := make_validate s.vars hg hrequire
  rw [requirement, hr] at hmake
  rw [h.start_of_ok hs hmake, run, hx, ← validationFields_some]
  rfl

/-! ## Reports -/

/-- A text with its name in front, on a line of its own. -/
def line (name text : String) : String :=
  name ++ ": " ++ text ++ "\n"

/-- The report of a validation and of what is missing: lines, or a JSON object, with what is missing
at its end. What is absent is `None` on a line and null in an object. -/
inductive Reported (x : Validation) (missing : Option String) : Bool → String → Prop where
  | lines (scopes : String) : scopes = " ".intercalate ((x.scopes.getD []).map (·.text)) →
      Reported x missing false
        (line "client_id" x.clientId.text ++
          line "login" (x.login.getD "None") ++
          line "user_id" (x.userId.getD "None") ++
          line "scopes" (if scopes = "" then "(none)" else scopes) ++
          line "expires_in" (x.expiresIn.elim "None" (toString ·.wholeSeconds)) ++
          line "missing" (missing.getD "None"))
  | object {out : String} : Json.read? out.toList = some (.obj
        [("client_id", .str x.clientId.text),
          ("login", x.login.elim .null .str),
          ("user_id", x.userId.elim .null .str),
          ("scopes", .arr ((x.scopes.getD []).map fun s => .str s.text)),
          ("expires_in", x.expiresIn.elim .null fun s => .int s.wholeSeconds),
          ("missing", missing.elim .null .str)]) →
      Reported x missing true out

theorem valueText_text (s : Option String) : valueText (Report.of s) = s.getD "None" := by
  cases s <;> rfl

theorem valueText_scopes (ss : List Scope) : valueText (Report.of ss) =
    if " ".intercalate (ss.map (·.text)) = "" then "(none)"
      else " ".intercalate (ss.map (·.text)) := by
  have htexts : (ss.map Report.of).filterMap Json.text? = ss.map (·.text) := by
    rw [List.filterMap_map]
    exact List.filterMap_eq_map ▸ rfl
  have hof : Report.of ss = .arr (ss.map Report.of) := rfl
  rw [hof, valueText, htexts, Scope.joinTexts_eq]
  simp only [String.isEmpty_iff]

theorem valueText_seconds (s : Option Time.Span) :
    valueText (secondsField s) = s.elim "None" (toString ·.wholeSeconds) := by
  cases s with
  | none => rfl
  | some s =>
    have hfield : secondsField (some s) = .int s.wholeSeconds := rfl
    rw [hfield, valueText, Json.write]
    · rfl
    all_goals nofun

/-- The fields of a report are read back as they are. -/
theorem fits_validationFields (x : Validation) (missing : Option String) :
    Json.Fits 200 (.obj (validationFields x none ++ [("missing", Report.of missing)])) := by
  have htext (room : Nat) (s : Option String) : Json.Fits room (Report.of s) := by
    cases s with
    | none => exact .null
    | some s => exact .str s
  have hscopes (ss : List Scope) : Json.Fits 199 (Report.of ss) := by
    refine .arr fun v hv => ?_
    obtain ⟨s, -, rfl⟩ := List.mem_map.1 hv
    exact .str s.text
  have hseconds (room : Nat) (s : Option Time.Span) : Json.Fits room (secondsField s) := by
    cases s with
    | none => exact .null
    | some s => exact .int (Nat.le_trans s.length_wholeSeconds (by decide))
  refine .obj (fun f hf => ?_) (by simp [validationFields])
  simp only [validationFields, List.append_nil, List.mem_append, List.mem_cons, List.not_mem_nil,
    or_false] at hf
  rcases hf with (rfl | rfl | rfl | rfl | rfl) | rfl
  · exact .str x.clientId.text
  · exact htext _ x.login
  · exact htext _ x.userId
  · exact hscopes _
  · exact hseconds _ x.expiresIn
  · exact htext _ missing

theorem reported_output (asJson : Bool) (x : Validation) (missing : Option String) :
    Reported x missing asJson
      (output asJson (validationFields x none ++ [("missing", Report.of missing)])) := by
  cases asJson with
  | false =>
    have hlines (fields : Fields) : output false fields =
        String.join (fields.map fun f => line f.1 (valueText f.2)) := rfl
    have hclient : valueText (Report.of x.clientId) = x.clientId.text := rfl
    have hreport := @Reported.lines x missing _ rfl
    convert hreport using 1
    rw [hlines]
    simp [validationFields, hclient, valueText_text, valueText_scopes, valueText_seconds,
      String.append_assoc]
  | true =>
    refine .object ((Json.read?_pretty (fits_validationFields x missing)).trans ?_)
    have htext (s : Option String) : (Report.of s : Json) = s.elim .null .str := by cases s <;> rfl
    have hseconds (s : Option Time.Span) :
        secondsField s = s.elim .null fun s => .int s.wholeSeconds := by cases s <;> rfl
    simp only [validationFields, htext, hseconds]
    rfl

/-! ## All front ends -/

/-- All front ends say of a text and scopes that are held what a verdict says. -/
structure AllSay (σ τ : Type) [Http.Server σ] [Time.Clock τ] (text : String) (held : List String)
    (v : Verdict) : Prop where
  /-- The command that compares scopes writes the verdict, and does nothing to the world. -/
  compares (args : List String) (s : Surroundings σ τ) (g : Given) (st : Settings) :
    Calls args "check-scopes" g → g.operands = text :: held → s.world.settings = .ok st →
    start args s = .done v.outcome s.world
  /-- A validation sends nothing if the text is no requirement. -/
  refuses (args : List String) (s : Surroundings σ τ) (g : Given) (st : Settings) (token : String)
    (e : Requirement.SyntaxError) : Calls args "validate" g → g.operands = [token] →
    g.last? requireSwitch.name = some text → s.world.settings = .ok st → v = .unreadable e →
    start args s = .done { exitCode := 2, usage := some (.requirement e) } s.world
  /-- Otherwise it reports what is missing of the scopes that the server lists, if it accepts the
  token; a server that lists none lists no scopes. The report is written as lines or as JSON. -/
  validates (args : List String) (s : Surroundings σ τ) (g : Given) (st : Settings) (token : String)
    (x : Validation) (w : World σ τ) : Calls args "validate" g → g.operands = [token] →
    g.last? requireSwitch.name = some text → s.world.settings = .ok st →
    (∀ e, v ≠ .unreadable e) → Endpoint.validate (some ⟨token⟩) s.world = (.ok x, w) →
    x.scopes.getD [] = held.map (⟨·⟩) →
    ∃ out, start args s = .done { exitCode := v.outcome.exitCode, out := out } w ∧
      Reported x (v.rest?.map Requirement.display) (g.has jsonSwitch.name) out
  /-- A token of either type with these scopes passes if they meet the requirement. -/
  passes (t : Token τ) (r : Requirement) (w : World σ τ) : t.scopes = held.map (⟨·⟩) →
    Requirement.parse text = .ok r →
    (((t.ensure r : Flow (World σ τ) MissingScopesFault Unit) w).1 = .ok () ↔ v = .met)
  /-- If they do not, it fails with what is missing, and says so. -/
  fails (t : Token τ) (r rest : Requirement) (w : World σ τ) : t.scopes = held.map (⟨·⟩) →
    Requirement.parse text = .ok r → v = .lacking rest →
    ((t.ensure r : Flow (World σ τ) MissingScopesFault Unit) w).1 = .error (.fault ⟨rest⟩) ∧
      (Diagnosable.diagnosis (⟨rest⟩ : MissingScopesFault)).message =
        "token is missing scopes: " ++ rest.display

theorem allSay_verdict (text : String) (held : List String) :
    AllSay σ τ text held (verdict text (held.map (⟨·⟩))) where
  compares _ _ _ _ h hg hs := start_checkScopes h hg hs
  refuses _ _ _ _ _ e h hg hrequire hs hv := by
    have hjudged := judged_verdict text (held.map (⟨·⟩))
    rw [hv] at hjudged
    cases hjudged with
    | unreadable hr => exact start_validate_of_error h hg hrequire hs hr
  validates _ _ g _ _ x w h hg hrequire hs hv hx hheld := by
    cases hr : Requirement.parse text with
    | error e => exact absurd (verdict_of_error hr _) (hv e)
    | ok r =>
      refine ⟨_, ?_, reported_output (g.has jsonSwitch.name) x _⟩
      rw [start_validate_of_ok h hg hrequire hs hr hx, hheld]
      rcases verdict_cases hr (held.map (⟨·⟩)) with ⟨hmissing, hv⟩ | ⟨rest, hmissing, hv⟩
      · rw [hmissing, hv]
        rfl
      · rw [hmissing, hv]
        rfl
  passes t r w ht hr := by
    rw [t.ensure_apply, ht]
    rcases verdict_cases hr (held.map (⟨·⟩)) with ⟨hmissing, hv⟩ | ⟨rest, hmissing, hv⟩
    · rw [hmissing, hv]
      exact iff_of_true rfl rfl
    · rw [hmissing, hv]
      exact iff_of_false nofun nofun
  fails t r rest w ht hr hv := by
    rw [t.ensure_apply, ht]
    rcases verdict_cases hr (held.map (⟨·⟩)) with ⟨-, hmet⟩ | ⟨rest', hmissing, hlacking⟩
    · rw [hv] at hmet
      cases hmet
    · rw [hv] at hlacking
      cases hlacking
      rw [hmissing]
      exact ⟨rfl, rfl⟩

/-- All front ends say what the verdict on a text and on scopes that are held says. -/
theorem front_ends_agree (σ τ : Type) [Http.Server σ] [Time.Clock τ] (text : String)
    (held : List String) : ∃ v, Judged text (held.map (⟨·⟩)) v ∧ AllSay σ τ text held v :=
  ⟨_, judged_verdict text _, allSay_verdict text held⟩

/-- With the scope `a` alone, one of `b` and `c` is missing of a requirement of `a` and one of them,
and both commands and a token say so. A validation says so on its last line, and under the last key
of its JSON. -/
theorem front_ends_agree_rest :
    let text := "all(a,any(b,c))"
    let r : Requirement := .all [.scope ⟨"a"⟩, .any [.scope ⟨"b"⟩, .scope ⟨"c"⟩]]
    let rest : Requirement := .any [.scope ⟨"b"⟩, .scope ⟨"c"⟩]
    let answer := Text.Utf8.encode
      "\x7b\x22client_id\x22:\x22cid\x22,\x22scopes\x22:[\x22a\x22]\x7d".toList
    let s : Surroundings Http.Script ℚ :=
      { vars := [], random := [], server := ⟨[("/oauth2/validate", [.answer ⟨200, [], answer⟩])]⟩
        now := 0, pollLimit := 1 }
    let t : Token ℚ :=
      .app ⟨some ⟨"tok"⟩, none, some ⟨"cid"⟩, none, [⟨"a"⟩], ⟨none, 0⟩⟩
    start ["check-scopes", text, "a"] s =
        .done { exitCode := 1, out := "missing: (b or c)\n" } s.world ∧
      (∃ w, start ["validate", "tok", "--require", text] s = .done
        { exitCode := 1
          out := "client_id: cid\nlogin: None\nuser_id: None\nscopes: a\n" ++
            "expires_in: None\nmissing: (b or c)\n" } w) ∧
      (∃ out w, start ["validate", "tok", "--require", text, "--json"] s =
          .done { exitCode := 1, out := out } w ∧
        Json.read? out.toList = some (.obj
          [("client_id", .str "cid"), ("login", .null), ("user_id", .null),
            ("scopes", .arr [.str "a"]), ("expires_in", .null), ("missing", .str "(b or c)")])) ∧
      ((t.ensure r : Flow (World Http.Script ℚ) MissingScopesFault Unit) s.world).1 =
        .error (.fault ⟨rest⟩) := by
  intro text r rest answer s t
  obtain ⟨v, hv, hsay⟩ := front_ends_agree Http.Script ℚ text ["a"]
  have hr : Requirement.parse text = .ok r := by decide +kernel
  have hv : v = .lacking rest := by
    cases hv with
    | unreadable he => cases hr.symm.trans he
    | met he hmet =>
      cases hr.symm.trans he
      exact absurd hmet (by decide)
    | lacking he _ hmissing =>
      cases hr.symm.trans he
      exact congrArg Verdict.lacking (Option.some.inj (hmissing.symm.trans (by decide)))
  subst hv
  obtain ⟨st, hs⟩ : ∃ st, s.world.settings = .ok st := ⟨_, rfl⟩
  have hcompared : Calls ["check-scopes", text, "a"] "check-scopes" ⟨[], [], [text, "a"]⟩ :=
    ⟨[text, "a"], by decide +kernel, by decide +kernel, rfl⟩
  have hlines : Calls ["validate", "tok", "--require", text] "validate"
      ⟨[("--require", text)], [], ["tok"]⟩ :=
    ⟨["tok", "--require", text], by decide +kernel, by decide +kernel, rfl⟩
  have hjson : Calls ["validate", "tok", "--require", text, "--json"] "validate"
      ⟨[("--require", text)], ["--json"], ["tok"]⟩ :=
    ⟨["tok", "--require", text, "--json"], by decide +kernel, by decide +kernel, rfl⟩
  have hx : (Endpoint.validate (some ⟨"tok"⟩) s.world).1 =
      .ok ⟨⟨"cid"⟩, none, none, some [⟨"a"⟩], none⟩ := by decide +kernel
  refine ⟨hsay.compares _ s _ st hcompared rfl hs, ?_, ?_,
    (hsay.fails t r rest s.world rfl hr rfl).1⟩
  · obtain ⟨out, hrun, hreport⟩ := hsay.validates _ s _ st "tok" _ _ hlines rfl rfl hs nofun
      (Flow.ends_of_fst hx) rfl
    have hout : out = "client_id: cid\nlogin: None\nuser_id: None\nscopes: a\n" ++
        "expires_in: None\nmissing: (b or c)\n" := by
      cases hreport with
      | lines scopes hscopes =>
        subst hscopes
        decide +kernel
    exact ⟨_, hout ▸ hrun⟩
  · obtain ⟨out, hrun, hreport⟩ := hsay.validates _ s _ st "tok" _ _ hjson rfl rfl hs nofun
      (Flow.ends_of_fst hx) rfl
    refine ⟨out, _, hrun, ?_⟩
    cases hreport with
    | object hread => exact hread

end Bearer.Cli
