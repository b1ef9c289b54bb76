import Bearer.Proofs.Requirement.Nodes
import Bearer.Requirement.Expression
import Mathlib.Data.List.Forall2

/-!
# What expressions mean

An expression is read as logic: a scope or a text says that the scope is held, a requirement that it
is met, and the builders and operators are conjunction, disjunction and negation. What an expression
builds is met exactly when its reading is true, though operators open a group of their own kind on
their left side and nothing else. So a chain of one operator builds a single group, of the parts of
its first operand and of all the others in their order.

An operator needs a requirement on one side, and a negation exactly one part; by itself the sign for
the opposite needs a requirement too.

* `isMet_opened`: opening a group on the left side does not change what is said.
* `exists_means`: what is built means what the expression says.
* `standsFor_chain`: chains.
* `expressions_mean`: all of it.
-/
namespace Bearer

open Requirement (isMet)

/-- The only part of a list, or all of them, is met when all of them are. -/
theorem Requirement.isMet_conjunction (held : List Scope) (ps : List Requirement) :
    isMet held (conjunction ps) = allMet held ps := by
  match ps with
  | [p] => rw [conjunction, allMet, allMet, Bool.and_true]
  | [] | _ :: _ :: _ => rfl

/-! ## Groups of a connective -/

namespace Operand

/-- What two truths are together. -/
def connect : Connective → Bool → Bool → Bool
  | .and => and
  | .or => or

/-- A group is opened by the connective that made it. -/
theorem opened_group (c : Connective) (ps : List Requirement) : opened c (group c ps) = ps := by
  cases c <;> rfl

theorem isMet_pair (held : List Scope) (c : Connective) (p q : Requirement) :
    isMet held (group c [p, q]) = connect c (isMet held p) (isMet held q) := by
  cases c <;> simp [group, connect, Requirement.isMet, Requirement.allMet, Requirement.anyMet]

/-- One more part behind those of the left side is joined to that side as a whole, whether it was
opened or not. -/
theorem isMet_opened (held : List Scope) (c : Connective) (p q : Requirement) :
    isMet held (group c (opened c p ++ [q])) = connect c (isMet held p) (isMet held q) := by
  have hclosed : opened c p = [p] ∨ ∃ ps, p = group c ps := by
    cases c <;> cases p <;> first | exact .inl rfl | exact .inr ⟨_, rfl⟩
  rcases hclosed with h | ⟨ps, rfl⟩
  · rw [h]
    exact isMet_pair held c p q
  · rw [opened_group]
    cases c <;> simp [group, connect, Requirement.isMet, Requirement.allMet_eq_all,
      Requirement.anyMet_eq_any]

/-! ## Parts -/

variable {o o' : Operand} {os : List Operand} {p q r : Requirement} {rs : List Requirement}

theorem toParts_cons_eq_ok_iff : toParts (o :: os) = .ok rs ↔
    ∃ r rs', o.toPart = .ok r ∧ toParts os = .ok rs' ∧ rs = r :: rs' := by
  rw [toParts]
  cases o.toPart with
  | error e => simp
  | ok r =>
    cases toParts os with
    | error e => simp
    | ok rs' => simp [eq_comm]

/-- One part is what it is by itself, and others are all of them. -/
theorem conjunctionOf_eq (h : toParts os = .ok rs) :
    conjunctionOf os = .ok (Requirement.conjunction rs) := by
  match os with
  | [] =>
    cases h
    rfl
  | [o] =>
    obtain ⟨r, rs', ho, hos, rfl⟩ := toParts_cons_eq_ok_iff.1 h
    cases hos
    exact ho
  | o :: o' :: os =>
    obtain ⟨r, rs', -, hos, rfl⟩ := toParts_cons_eq_ok_iff.1 h
    obtain ⟨r', rs'', -, -, rfl⟩ := toParts_cons_eq_ok_iff.1 hos
    exact congrArg (Except.map Requirement.all) h

/-- What is no requirement is a part by the scope that it is. -/
theorem single_eq (h : o.toPart = .ok r) (hne : o ≠ .requirement r) : o.single = .ok r := by
  rcases o with r' | s | v
  · cases h
    exact absurd rfl hne
  · exact h
  · cases v <;> first | exact h | cases h

/-- A requirement on one side is enough for operands that can be parts to be joined. -/
theorem join_eq (c : Connective) (hp : o.toPart = .ok p) (hq : o'.toPart = .ok q)
    (h : o = .requirement p ∨ o' = .requirement q) :
    join c o o' = .ok (.requirement (group c (opened c p ++ [q]))) := by
  have hscope : ∀ s : Scope, group c [.scope s, q] = group c (opened c (.scope s) ++ [q]) :=
    fun _ => by cases c <;> rfl
  rcases o with r | s | v
  · cases hp
    rw [join, hq]
    rfl
  all_goals obtain rfl : o' = .requirement q := h.resolve_left nofun
  · cases hp
    rw [← hscope]
    rfl
  · cases v <;> cases hp
    rw [← hscope]
    rfl

end Operand

namespace Expression

open Operand (group opened connect)

/-! ## Reading -/

/-- Whether an expression builds a requirement. Others build a scope or a text. -/
def isRequirement : Expression → Bool
  | .operand (.requirement _) => true
  | .operand (.scope _) | .operand (.data _) | .ofData _ | .constant _ => false
  | .text _ | .scope _ | .all _ | .any _ | .not _ | .conjunction _ | .join .. | .invert _ => true

mutual

/-- What an expression says of the scopes that are held. -/
def holds (held : List Scope) : Expression → Bool
  | .operand (.requirement r) => isMet held r
  | .operand (.scope s) => held.contains s
  | .operand (.data v) | .ofData v => v.text?.any fun t => held.contains ⟨t⟩
  | .constant name => (Scope.ofName? name).any held.contains
  | .text t => (Requirement.parse t).toOption.any (isMet held)
  | .scope e => holds held e
  | .all es => allHold held es
  | .any es => anyHolds held es
  | .not es => !allHold held es
  | .conjunction es => allHold held es
  | .join c a b => connect c (holds held a) (holds held b)
  | .invert e => !holds held e

/-- Whether all of several expressions hold. -/
def allHold (held : List Scope) : List Expression → Bool
  | [] => true
  | e :: es => holds held e && allHold held es

/-- Whether some of several expressions hold. -/
def anyHolds (held : List Scope) : List Expression → Bool
  | [] => false
  | e :: es => holds held e || anyHolds held es

end

/-- An expression of scopes, texts and requirements in which every operator has a requirement on one
side, the sign for the opposite stands in front of a requirement, and every negation has one part.
-/
inductive IsProper : Expression → Prop
  | requirement (r : Requirement) : IsProper (.operand (.requirement r))
  | value (s : Scope) : IsProper (.operand (.scope s))
  | name (t : String) : IsProper (.operand (.data (.str t)))
  | made (t : String) : IsProper (.ofData (.str t))
  | constant {name : String} {s : Scope} (h : Scope.ofName? name = some s) :
    IsProper (.constant name)
  | text {t : String} {r : Requirement} (h : Requirement.parse t = .ok r) : IsProper (.text t)
  | scope {e : Expression} (he : IsProper e) (h : e.isRequirement = false) : IsProper (.scope e)
  | all {es : List Expression} (hes : ∀ e ∈ es, IsProper e) : IsProper (.all es)
  | any {es : List Expression} (hes : ∀ e ∈ es, IsProper e) : IsProper (.any es)
  | not {e : Expression} (he : IsProper e) : IsProper (.not [e])
  | conjunction {es : List Expression} (hes : ∀ e ∈ es, IsProper e) : IsProper (.conjunction es)
  | join (c : Connective) {a b : Expression} (ha : IsProper a) (hb : IsProper b)
    (h : a.isRequirement = true ∨ b.isRequirement = true) : IsProper (.join c a b)
  | invert {e : Expression} (he : IsProper e) (h : e.isRequirement = true) : IsProper (.invert e)

/-! ## Building -/

/-- What an expression builds counts as this requirement where a part is expected, and is the
requirement itself if the expression builds one. -/
structure StandsFor (e : Expression) (r : Requirement) : Prop where
  builds : ∃ o, e.eval = .ok o ∧ o.toPart = .ok r ∧ (e.isRequirement = true ↔ o = .requirement r)

variable {e f : Expression} {es : List Expression} {p q r : Requirement} {ps rs : List Requirement}

theorem standsFor_of_eval (h : e.eval = .ok (.requirement r)) (he : e.isRequirement = true) :
    e.StandsFor r :=
  ⟨_, h, rfl, iff_of_true he rfl⟩

theorem StandsFor.eval_eq (h : e.StandsFor r) (he : e.isRequirement = true) :
    e.eval = .ok (.requirement r) := by
  obtain ⟨o, ho, -, hkind⟩ := h
  rw [ho, hkind.1 he]

/-- A builder that is given what its parts are builds its group. -/
theorem bind_built {α : Type} {x : Except BuildFault α} {build : α → Except BuildFault Requirement}
    {a : α} (hx : x = .ok a) (hbuild : build a = .ok r) :
    (do return Operand.requirement (← build (← x))) = Except.ok (.requirement r) := by
  rw [hx]
  exact congrArg (· >>= fun r => pure (Operand.requirement r)) hbuild

theorem evalAll_standsFor (h : List.Forall₂ StandsFor es rs) :
    ∃ os, evalAll es = .ok os ∧ Operand.toParts os = .ok rs := by
  induction h with
  | nil => exact ⟨[], rfl, rfl⟩
  | cons he _ ih =>
    obtain ⟨o, ho, hpart, -⟩ := he
    obtain ⟨os, hos, hparts⟩ := ih
    refine ⟨o :: os, evalAll_eq_ok_iff.2 ⟨o, os, ho, hos, rfl⟩, ?_⟩
    rw [Operand.toParts, hpart, hparts]

theorem standsFor_all (h : List.Forall₂ StandsFor es rs) : (all es).StandsFor (.all rs) := by
  obtain ⟨os, hos, hparts⟩ := evalAll_standsFor h
  exact standsFor_of_eval (bind_built hos (congrArg (Except.map Requirement.all) hparts)) rfl

theorem standsFor_any (h : List.Forall₂ StandsFor es rs) : (any es).StandsFor (.any rs) := by
  obtain ⟨os, hos, hparts⟩ := evalAll_standsFor h
  exact standsFor_of_eval (bind_built hos (congrArg (Except.map Requirement.any) hparts)) rfl

theorem standsFor_not (h : e.StandsFor r) : (not [e]).StandsFor (.not r) := by
  obtain ⟨o, ho, hpart, -⟩ := h
  refine standsFor_of_eval ?_ rfl
  exact bind_built (evalAll_eq_ok_iff.2 ⟨o, [], ho, rfl, rfl⟩)
    (congrArg (Except.map Requirement.not) hpart)

theorem standsFor_conjunction (h : List.Forall₂ StandsFor es rs) :
    (conjunction es).StandsFor (Requirement.conjunction rs) := by
  obtain ⟨os, hos, hparts⟩ := evalAll_standsFor h
  exact standsFor_of_eval (bind_built hos (Operand.conjunctionOf_eq hparts)) rfl

theorem standsFor_single (h : e.StandsFor r) (he : e.isRequirement = false) :
    (scope e).StandsFor r := by
  obtain ⟨o, ho, hpart, hkind⟩ := h
  have hne : o ≠ .requirement r := fun h => by simp [hkind.2 h] at he
  exact standsFor_of_eval (bind_built ho (Operand.single_eq hpart hne)) rfl

theorem standsFor_invert (h : e.StandsFor r) (he : e.isRequirement = true) :
    (invert e).StandsFor (.not r) := by
  exact standsFor_of_eval (congrArg (· >>= Operand.invert) (h.eval_eq he)) rfl

theorem standsFor_join (c : Connective) (he : e.StandsFor p) (hf : f.StandsFor q)
    (h : e.isRequirement = true ∨ f.isRequirement = true) :
    (join c e f).StandsFor (group c (opened c p ++ [q])) := by
  obtain ⟨o, ho, hp, hkind⟩ := he
  obtain ⟨o', ho', hq, hkind'⟩ := hf
  have hjoined : Operand.join c o o' = .ok (.requirement (group c (opened c p ++ [q]))) :=
    Operand.join_eq c hp hq (h.imp hkind.1 hkind'.1)
  refine standsFor_of_eval ?_ rfl
  change (do Operand.join c (← e.eval) (← f.eval)) = _
  rw [ho, ho']
  exact hjoined

/-! ## Meaning -/

/-- An expression stands for a requirement that is met exactly when its reading is true. -/
def Means (e : Expression) (r : Requirement) : Prop :=
  e.StandsFor r ∧ ∀ held, isMet held r = e.holds held

theorem allMet_eq_allHold (h : List.Forall₂ Means es rs) (held : List Scope) :
    Requirement.allMet held rs = allHold held es := by
  induction h with
  | nil => rfl
  | cons he _ ih => rw [Requirement.allMet, allHold, he.2, ih]

theorem anyMet_eq_anyHolds (h : List.Forall₂ Means es rs) (held : List Scope) :
    Requirement.anyMet held rs = anyHolds held es := by
  induction h with
  | nil => rfl
  | cons he _ ih => rw [Requirement.anyMet, anyHolds, he.2, ih]

theorem forall₂_means (h : ∀ e ∈ es, ∃ r, e.Means r) : ∃ rs, List.Forall₂ Means es rs := by
  induction es with
  | nil => exact ⟨[], .nil⟩
  | cons e es ih =>
    obtain ⟨⟨r, hr⟩, hes⟩ := List.forall_mem_cons.1 h
    obtain ⟨rs, hrs⟩ := ih hes
    exact ⟨r :: rs, .cons hr hrs⟩

theorem forall₂_standsFor (h : List.Forall₂ Means es rs) : List.Forall₂ StandsFor es rs :=
  h.imp fun _ _ he => he.1

/-- Every proper expression means what it says. -/
theorem exists_means (h : e.IsProper) : ∃ r, e.Means r := by
  induction h with
  | requirement r => exact ⟨r, ⟨_, rfl, rfl, iff_of_true rfl rfl⟩, fun _ => rfl⟩
  | value s => exact ⟨.scope s, ⟨_, rfl, rfl, iff_of_false nofun nofun⟩, fun _ => rfl⟩
  | name t | made t =>
    exact ⟨.scope ⟨t⟩, ⟨_, rfl, rfl, iff_of_false nofun nofun⟩, fun _ => rfl⟩
  | @constant name s h =>
    refine ⟨.scope s, ⟨.scope s, by rw [eval, h], rfl, iff_of_false nofun nofun⟩, fun held => ?_⟩
    rw [holds, h]
    rfl
  | @text t r h =>
    refine ⟨r, ⟨.requirement r, ?_, rfl, iff_of_true rfl rfl⟩, fun held => ?_⟩
    · rw [eval, h]
      rfl
    · rw [holds, h]
      rfl
  | scope _ he ih =>
    obtain ⟨r, hr, hmet⟩ := ih
    exact ⟨r, standsFor_single hr he, hmet⟩
  | all _ ih =>
    obtain ⟨rs, hrs⟩ := forall₂_means ih
    exact ⟨.all rs, standsFor_all (forall₂_standsFor hrs), allMet_eq_allHold hrs⟩
  | any _ ih =>
    obtain ⟨rs, hrs⟩ := forall₂_means ih
    exact ⟨.any rs, standsFor_any (forall₂_standsFor hrs), anyMet_eq_anyHolds hrs⟩
  | not _ ih =>
    obtain ⟨r, hr, hmet⟩ := ih
    refine ⟨.not r, standsFor_not hr, fun held => ?_⟩
    rw [Requirement.isMet, hmet, holds, allHold, allHold, Bool.and_true]
  | conjunction _ ih =>
    obtain ⟨rs, hrs⟩ := forall₂_means ih
    refine ⟨_, standsFor_conjunction (forall₂_standsFor hrs), fun held => ?_⟩
    rw [Requirement.isMet_conjunction]
    exact allMet_eq_allHold hrs held
  | join c _ _ h iha ihb =>
    obtain ⟨p, hp, hmet⟩ := iha
    obtain ⟨q, hq, hmet'⟩ := ihb
    refine ⟨_, standsFor_join c hp hq h, fun held => ?_⟩
    rw [Operand.isMet_opened, hmet, hmet', holds]
  | invert _ he ih =>
    obtain ⟨r, hr, hmet⟩ := ih
    refine ⟨.not r, standsFor_invert hr he, fun held => ?_⟩
    rw [Requirement.isMet, hmet, holds]

/-! ## Chains -/

/-- A chain of one connective from the left to the right. -/
def chain (c : Connective) (e : Expression) (es : List Expression) : Expression :=
  es.foldl (join c) e

theorem isRequirement_chain (c : Connective) (he : e.isRequirement = true) :
    (chain c e es).isRequirement = true := by
  induction es generalizing e with
  | nil => exact he
  | cons f es ih => exact ih rfl

/-- A chain builds one group: of the parts of its first operand, if that is a group of this kind and
else of that operand alone, and of all the others, in their order. -/
theorem standsFor_chain (c : Connective) (he : e.StandsFor p) (hf : f.StandsFor q)
    (hes : List.Forall₂ StandsFor es rs) (h : e.isRequirement = true ∨ f.isRequirement = true) :
    (chain c e (f :: es)).StandsFor (group c (opened c p ++ q :: rs)) := by
  have hjoined := standsFor_join c he hf h
  induction hes generalizing e f p q with
  | nil => exact hjoined
  | @cons g r es rs hg _ ih =>
    have hrest := ih hjoined hg (.inl rfl) (standsFor_join c hjoined hg (.inl rfl))
    rw [Operand.opened_group, List.append_assoc] at hrest
    exact hrest

/-! ## Refusals -/

theorem evalAll_length {os : List Operand} (h : evalAll es = .ok os) :
    os.length = es.length := by
  induction es generalizing os with
  | nil =>
    cases h
    rfl
  | cons e es ih =>
    obtain ⟨o, os, -, hos, rfl⟩ := evalAll_eq_ok_iff.1 h
    rw [List.length_cons, List.length_cons, ih hos]

/-- The sign for the opposite is refused in front of a scope or a text. -/
theorem StandsFor.invert_eq (h : e.StandsFor r) (he : e.isRequirement = false) :
    ∃ kind, (invert e).eval = .error (.notInvertible kind) := by
  obtain ⟨o, ho, hpart, hkind⟩ := h
  have hinvert : (invert e).eval = o.invert := congrArg (· >>= Operand.invert) ho
  refine ⟨o.kind, hinvert.trans ?_⟩
  rcases o with q | s | v
  · cases hpart
    simp [hkind.2 rfl] at he
  · rfl
  · cases v <;> first | rfl | cases hpart

/-- The opposite of several things, or of nothing, is refused. -/
theorem not_eq_error (h : List.Forall₂ StandsFor es rs) (hes : es.length ≠ 1) :
    (not es).eval = .error (.negationOf es.length) := by
  obtain ⟨os, hos, -⟩ := evalAll_standsFor h
  have hlength := evalAll_length hos
  change (do return Operand.requirement (← Operand.notOf (← evalAll es))) = _
  rw [hos, ← hlength]
  match os with
  | [_] => exact absurd hlength.symm hes
  | [] | _ :: _ :: _ => rfl

/-! ## Expressions -/

/-- Every proper expression whose outermost step makes a requirement builds one, which is met
exactly when the Boolean reading of the expression is true. A chain of one operator builds one group
of the parts of its first operand and of all the others. What is built of scopes, texts and
requirements otherwise, the opposite of a scope or of more or less than one part, is refused. -/
theorem expressions_mean :
    (∀ e : Expression, e.IsProper → e.isRequirement = true →
      ∃ r, e.eval = .ok (.requirement r) ∧ ∀ held, isMet held r = e.holds held) ∧
    (∀ (c : Connective) (e f : Expression) (fs : List Expression),
      (∀ g ∈ e :: f :: fs, g.IsProper) → e.isRequirement = true ∨ f.isRequirement = true →
      ∃ p q qs, e.StandsFor p ∧ f.StandsFor q ∧ List.Forall₂ StandsFor fs qs ∧
        (chain c e (f :: fs)).eval = .ok (.requirement (group c (opened c p ++ q :: qs)))) ∧
    (∀ e : Expression, e.IsProper → e.isRequirement = false →
      ∃ kind, (invert e).eval = .error (.notInvertible kind)) ∧
    (∀ es : List Expression, (∀ e ∈ es, e.IsProper) → es.length ≠ 1 →
      (not es).eval = .error (.negationOf es.length)) := by
  refine ⟨fun e he hkind => ?_, fun c e f fs hes hkind => ?_, fun e he hkind => ?_,
    fun es hes hlength => ?_⟩
  · obtain ⟨r, hr, hmet⟩ := exists_means he
    exact ⟨r, hr.eval_eq hkind, hmet⟩
  · obtain ⟨he, hf, hfs⟩ := (List.forall_mem_cons.1 hes).imp_right List.forall_mem_cons.1
    obtain ⟨p, hp, -⟩ := exists_means he
    obtain ⟨q, hq, -⟩ := exists_means hf
    obtain ⟨qs, hqs⟩ := forall₂_means fun g hg => exists_means (hfs g hg)
    have hall := forall₂_standsFor hqs
    have hchain := standsFor_chain c hp hq hall hkind
    exact ⟨p, q, qs, hp, hq, hall, hchain.eval_eq (isRequirement_chain c (e := join c e f) rfl)⟩
  · obtain ⟨r, hr, -⟩ := exists_means he
    exact hr.invert_eq hkind
  · obtain ⟨rs, hrs⟩ := forall₂_means fun e he => exists_means (hes e he)
    exact not_eq_error (forall₂_standsFor hrs) hlength

/-- Chatting and either whispering or reading nothing of the channel: a text on the left of a
conjunction that goes on with one more text, a group of any that a disjunction opens, and an
opposite. -/
def chatting : Expression :=
  chain .and (operand (.data (.str "chat:edit")))
    [join .or (any [operand (.scope ⟨"whispers:edit"⟩)])
      (invert (all [operand (.data (.str "channel_read"))])), operand (.data (.str "chat:read"))]

theorem expressions_mean_chatting :
    (∃ r, chatting.eval = .ok (.requirement r) ∧ ∀ held, isMet held r = chatting.holds held) ∧
    chatting.holds [⟨"chat:read"⟩, ⟨"chat:edit"⟩] = true ∧
    chatting.holds [⟨"chat:edit"⟩, ⟨"chat:read"⟩, ⟨"channel_read"⟩] = false ∧
    (∃ p q qs, (all [] : Expression).StandsFor p ∧ (any [] : Expression).StandsFor q ∧
      List.Forall₂ StandsFor [chatting] qs ∧
      (chain .and (all []) [any [], chatting]).eval =
        .ok (.requirement (group .and (opened .and p ++ q :: qs)))) ∧
    (∃ kind, (invert (operand (.scope ⟨"chat:edit"⟩))).eval = .error (.notInvertible kind)) ∧
    (not [all [], any []]).eval = .error (.negationOf 2) := by
  have hall : IsProper (all []) := .all nofun
  have hany : IsProper (any []) := .any nofun
  have hwhispers : IsProper (any [operand (.scope ⟨"whispers:edit"⟩)]) :=
    .any (List.forall_mem_singleton.2 (.value _))
  have hchannel : IsProper (all [operand (.data (.str "channel_read"))]) :=
    .all (List.forall_mem_singleton.2 (.name _))
  have hchatting : chatting.IsProper :=
    .join .and (.join .and (.name _) (.join .or hwhispers (.invert hchannel rfl) (.inl rfl))
      (.inr rfl)) (.name _) (.inl rfl)
  obtain ⟨hmeans, hchain, hinvert, hnot⟩ := expressions_mean
  refine ⟨hmeans _ hchatting rfl, by decide, by decide, hchain _ _ _ _ ?_ (.inl rfl),
    hinvert _ (.value _) rfl, hnot _ ?_ (by decide)⟩
  · simp only [List.forall_mem_cons]
    exact ⟨hall, hany, hchatting, nofun⟩
  · simp only [List.forall_mem_cons]
    exact ⟨hall, hany, nofun⟩

end Expression

end Bearer
