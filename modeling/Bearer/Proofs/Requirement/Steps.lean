import Bearer.Proofs.Requirement.Grammar

/-!
# Reading lexeme by lexeme

Requirements are read with a look at the lexeme behind a word, since a parenthesis there makes a
group of it. Reading can do without that: a word is held back until the next lexeme comes. Then
every lexeme is one step of a `Reader`, which fails at that lexeme or goes on, and what is read of a
text in front of others does not depend on them.

* `part_eq_run`, `next_eq_run`: reading is a run of such steps.
* `run_eq_error`: a run fails at one lexeme, and went well up to it.
* `step_cases`: all that a step can do, and every way in which it fails.
-/
namespace Bearer.Requirement

/-- Where in a list the reading stands. -/
inductive Spot where
  /-- Where a part or the end of the list must stand. -/
  | start
  /-- Behind a word, which names a group if a parenthesis follows. -/
  | named (w : List Char) (position : Nat)
  /-- Behind a part. -/
  | behind
deriving DecidableEq

/-- A requirement that is read in part. -/
structure Reader where
  /-- The groups that are open, the innermost first. -/
  stack : List Group
  /-- The parts of the innermost list so far, in reverse. -/
  parts : List Requirement
  /-- Where in that list the reading stands. -/
  spot : Spot

namespace Reader

/-- The parts of the innermost list if it ends here, in reverse. -/
def read (r : Reader) : List Requirement :=
  match r.spot with
  | .named w _ => .scope ⟨String.ofList w⟩ :: r.parts
  | .start | .behind => r.parts

/-- What is said of a lexeme that does not belong here. -/
def expects (r : Reader) (q : Placed) : SyntaxFault :=
  match r.spot with
  | .start => .partExpected q.position q.token
  | .named _ _ | .behind => .commaExpected q.position q.token

/-- Closes the innermost group, or refuses the lexeme that would. -/
def close (r : Reader) (q : Placed) : Except SyntaxFault Reader :=
  match r.stack with
  | [] => .error (r.expects q)
  | g :: stack => (g.close r.read.reverse).map fun p => ⟨stack, p :: g.before, .behind⟩

/-- Reads one lexeme. -/
def step (r : Reader) (q : Placed) : Except SyntaxFault Reader :=
  match q.token, r.spot with
  | .word w, .start => .ok { r with spot := .named w q.position }
  | .lparen, .named w p => .ok ⟨⟨w, p, r.parts⟩ :: r.stack, [], .start⟩
  | .comma, .named _ _ | .comma, .behind => .ok ⟨r.stack, r.read, .start⟩
  | .rparen, _ => r.close q
  | _, _ => .error (r.expects q)

/-- Reads several lexemes. -/
def run (r : Reader) (qs : List Placed) : Except SyntaxFault Reader :=
  qs.foldlM step r

/-- The requirement that is read where the text ends. -/
def finish (r : Reader) : Except SyntaxFault Requirement :=
  if r.stack.isEmpty then .ok (conjunction r.read.reverse) else .error .endOfText

variable {r r' : Reader} {q : Placed} {qs rs : List Placed} {f : SyntaxFault}

theorem run_cons (r : Reader) (q : Placed) (qs : List Placed) :
    r.run (q :: qs) = (r.step q).bind (·.run qs) := rfl

theorem run_cons_ok (h : r.step q = .ok r') : r.run (q :: qs) = r'.run qs := by
  rw [run_cons, h]
  rfl

theorem run_cons_error (h : r.step q = .error f) : r.run (q :: qs) = .error f := by
  rw [run_cons, h]
  rfl

theorem run_append (r : Reader) (qs rs : List Placed) :
    r.run (qs ++ rs) = (r.run qs).bind (·.run rs) :=
  List.foldlM_append

theorem run_append_ok (h : r.run qs = .ok r') : r.run (qs ++ rs) = r'.run rs := by
  rw [run_append, h]
  rfl

theorem run_append_error (h : r.run qs = .error f) : r.run (qs ++ rs) = .error f := by
  rw [run_append, h]
  rfl

/-- A run fails at one lexeme, and went well up to it. -/
theorem run_eq_error (h : r.run qs = .error f) :
    ∃ before q after r', qs = before ++ q :: after ∧ r.run before = .ok r' ∧
      r'.step q = .error f := by
  induction qs generalizing r with
  | nil => cases h
  | cons q qs ih =>
    cases hq : r.step q with
    | error e =>
      rw [run_cons_error hq] at h
      cases h
      exact ⟨[], q, qs, r, rfl, rfl, hq⟩
    | ok r₁ =>
      rw [run_cons_ok hq] at h
      obtain ⟨before, q', after, r', rfl, hbefore, hstep⟩ := ih h
      exact ⟨q :: before, q', after, r', rfl, by rw [run_cons_ok hq, hbefore], hstep⟩

/-! ## Reading is a run -/

/-- A word that does not name a group is a scope. -/
theorem run_named (h : NotOpening qs) (stack : List Group) (parts : List Requirement)
    (w : List Char) (n : Nat) :
    (run ⟨stack, parts, .named w n⟩ qs).bind finish =
      (run ⟨stack, .scope ⟨String.ofList w⟩ :: parts, .behind⟩ qs).bind finish := by
  cases qs with
  | nil => rfl
  | cons q qs =>
    obtain ⟨t, m⟩ := q
    cases t with
    | lparen => exact absurd rfl (h _ rfl)
    | word v | rparen | comma => rfl

mutual

theorem part_eq_run (stack : List Group) (parts : List Requirement) (qs : List Placed) :
    part stack parts qs = (run ⟨stack, parts, .start⟩ qs).bind finish :=
  match qs with
  | [] => by
    rw [part]
    rfl
  | ⟨.word w, n⟩ :: ts => by
    rcases notOpening_or ts with hts | ⟨m, vs, rfl⟩
    · rw [part_word hts, next_eq_run, ← run_named hts stack parts w n]
      rfl
    · rw [part, part_eq_run]
      rfl
  | ⟨.rparen, n⟩ :: ts => by
    cases stack with
    | nil =>
      rw [part]
      rfl
    | cons g stack =>
      have hstep : step ⟨g :: stack, parts, .start⟩ ⟨.rparen, n⟩ =
          (g.close parts.reverse).map fun p => ⟨stack, p :: g.before, .behind⟩ := rfl
      rw [part, run_cons, hstep]
      cases g.close parts.reverse with
      | error e => rfl
      | ok p => exact next_eq_run stack (p :: g.before) ts
  | ⟨.lparen, n⟩ :: ts => by
    have hpart : part stack parts (⟨.lparen, n⟩ :: ts) = .error (.partExpected n .lparen) := by
      simp [part]
    rw [hpart]
    rfl
  | ⟨.comma, n⟩ :: ts => by
    have hpart : part stack parts (⟨.comma, n⟩ :: ts) = .error (.partExpected n .comma) := by
      simp [part]
    rw [hpart]
    rfl

theorem next_eq_run (stack : List Group) (parts : List Requirement) (qs : List Placed) :
    next stack parts qs = (run ⟨stack, parts, .behind⟩ qs).bind finish :=
  match qs with
  | [] => by
    rw [next]
    rfl
  | ⟨.comma, n⟩ :: ts => by
    rw [next, part_eq_run]
    rfl
  | ⟨.rparen, n⟩ :: ts => by
    cases stack with
    | nil =>
      rw [next]
      rfl
    | cons g stack =>
      have hstep : step ⟨g :: stack, parts, .behind⟩ ⟨.rparen, n⟩ =
          (g.close parts.reverse).map fun p => ⟨stack, p :: g.before, .behind⟩ := rfl
      rw [next, run_cons, hstep]
      cases g.close parts.reverse with
      | error e => rfl
      | ok p => exact next_eq_run stack (p :: g.before) ts
  | ⟨.lparen, n⟩ :: ts => by
    have hnext : next stack parts (⟨.lparen, n⟩ :: ts) = .error (.commaExpected n .lparen) := by
      simp [next]
    rw [hnext]
    rfl
  | ⟨.word w, n⟩ :: ts => by
    have hnext : next stack parts (⟨.word w, n⟩ :: ts) = .error (.commaExpected n (.word w)) := by
      simp [next]
    rw [hnext]
    rfl

end

/-! ## What a step can do -/

/-- `Advances r q r'`: the lexeme `q` takes the reading from `r` to `r'`. -/
inductive Advances : Reader → Placed → Reader → Prop where
  /-- A word is held back. -/
  | word (stack : List Group) (parts : List Requirement) (w : List Char) (n : Nat) :
      Advances ⟨stack, parts, .start⟩ ⟨.word w, n⟩ ⟨stack, parts, .named w n⟩
  /-- The word that was held back names a group. -/
  | opening (stack : List Group) (parts : List Requirement) (w : List Char) (n m : Nat) :
      Advances ⟨stack, parts, .named w n⟩ ⟨.lparen, m⟩ ⟨⟨w, n, parts⟩ :: stack, [], .start⟩
  /-- The next part of the list may follow. -/
  | comma (r : Reader) (n : Nat) :
      r.spot ≠ .start → Advances r ⟨.comma, n⟩ ⟨r.stack, r.read, .start⟩
  /-- The innermost group is complete. -/
  | closing {r : Reader} {g : Group} {stack : List Group} {p : Requirement} (n : Nat) :
      r.stack = g :: stack → g.close r.read.reverse = .ok p →
        Advances r ⟨.rparen, n⟩ ⟨stack, p :: g.before, .behind⟩

/-- `Refuses r q f`: reading comes to an end at the lexeme `q`, with the fault `f`. -/
inductive Refuses : Reader → Placed → SyntaxFault → Prop where
  /-- The lexeme does not belong here. -/
  | misplaced (r : Reader) (q : Placed) : Refuses r q (r.expects q)
  /-- The group that it closes is none. -/
  | closing {r : Reader} {g : Group} {stack : List Group} {f : SyntaxFault} (n : Nat) :
      r.stack = g :: stack → g.close r.read.reverse = .error f → Refuses r ⟨.rparen, n⟩ f

/-- A comma may stand behind a part. -/
theorem step_comma (h : r.spot ≠ .start) (n : Nat) :
    r.step ⟨.comma, n⟩ = .ok ⟨r.stack, r.read, .start⟩ := by
  obtain ⟨stack, parts, spot⟩ := r
  cases spot with
  | start => exact absurd rfl h
  | named w m => rfl
  | behind => rfl

/-- Where a group is open, a closing parenthesis closes it. -/
theorem step_rparen {g : Group} {stack : List Group} (h : r.stack = g :: stack) (n : Nat) :
    r.step ⟨.rparen, n⟩ =
      (g.close r.read.reverse).map fun p => ⟨stack, p :: g.before, .behind⟩ := by
  have hstep : r.step ⟨.rparen, n⟩ = r.close ⟨.rparen, n⟩ := by
    obtain ⟨_, _, spot⟩ := r
    cases spot <;> rfl
  rw [hstep, close, h]

theorem step_cases (r : Reader) (q : Placed) :
    (∃ r', r.step q = .ok r' ∧ Advances r q r') ∨ ∃ f, r.step q = .error f ∧ Refuses r q f := by
  have hmisplaced : r.step q = .error (r.expects q) →
      ∃ f, r.step q = .error f ∧ Refuses r q f := fun h => ⟨_, h, .misplaced r q⟩
  obtain ⟨t, n⟩ := q
  cases t with
  | rparen =>
    cases hstack : r.stack with
    | nil =>
      refine .inr (hmisplaced ?_)
      obtain ⟨_, _, spot⟩ := r
      cases hstack
      cases spot <;> rfl
    | cons g stack =>
      rw [step_rparen hstack]
      cases hclose : g.close r.read.reverse with
      | ok p => exact .inl ⟨_, rfl, .closing n hstack hclose⟩
      | error f => exact .inr ⟨f, rfl, .closing n hstack hclose⟩
  | word w =>
    obtain ⟨stack, parts, spot⟩ := r
    cases spot with
    | start => exact .inl ⟨_, rfl, .word stack parts w n⟩
    | named v m => exact .inr (hmisplaced rfl)
    | behind => exact .inr (hmisplaced rfl)
  | lparen =>
    obtain ⟨stack, parts, spot⟩ := r
    cases spot with
    | start => exact .inr (hmisplaced rfl)
    | named v m => exact .inl ⟨_, rfl, .opening stack parts v m n⟩
    | behind => exact .inr (hmisplaced rfl)
  | comma =>
    by_cases hspot : r.spot = .start
    · refine .inr (hmisplaced ?_)
      obtain ⟨stack, parts, spot⟩ := r
      cases hspot
      rfl
    · exact .inl ⟨_, step_comma hspot n, .comma r n hspot⟩

theorem advances_of_step (h : r.step q = .ok r') : Advances r q r' := by
  rcases step_cases r q with ⟨r₁, hstep, hadv⟩ | ⟨f, hstep, -⟩
  · rw [h] at hstep
    cases hstep
    exact hadv
  · rw [h] at hstep
    cases hstep

theorem refuses_of_step (h : r.step q = .error f) : Refuses r q f := by
  rcases step_cases r q with ⟨r', hstep, -⟩ | ⟨f', hstep, href⟩
  · rw [h] at hstep
    cases hstep
  · rw [h] at hstep
    cases hstep
    exact href

end Reader

end Bearer.Requirement
