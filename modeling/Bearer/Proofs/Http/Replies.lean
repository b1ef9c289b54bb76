import Bearer.Http.Script
import Bearer.Proofs.Flow.Exchanges

/-!
# Replies and what clients make of them

A script that holds no crash replies with none, however many requests it gets. A client hands over
what a server replied, unless the answer redirects to what cannot be requested; it makes up no crash
of its own.

* `never_crashes`: scripts without crashes.
* `receive_error`, `receive_crash`: what a client did not hand over, and where a crash comes from.
-/
namespace Bearer

/-! ## Scripts -/

namespace Http.Script

/-- A reply that is a crash. -/
def isCrash : Reply → Bool
  | .crash _ => true
  | _ => false

/-- A script that holds no crash. -/
def IsCalm (s : Script) : Prop :=
  ∀ q ∈ s.queues, ∀ reply ∈ q.2, isCrash reply = false

instance (s : Script) : Decidable s.IsCalm :=
  inferInstanceAs (Decidable (∀ q ∈ s.queues, ∀ reply ∈ q.2, isCrash reply = false))

theorem IsCalm.queue {s : Script} (h : s.IsCalm) (path : String) :
    ∀ reply ∈ s.queue path, isCrash reply = false := by
  unfold Script.queue
  split
  · rename_i q hq
    exact h q (List.mem_of_find?_eq_some hq)
  · exact nofun

theorem IsCalm.setQueue {s : Script} (h : s.IsCalm) {path : String} {replies : List Reply}
    (hreplies : ∀ reply ∈ replies, isCrash reply = false) : (s.setQueue path replies).IsCalm := by
  intro q hq
  rcases List.mem_append.1 hq with hq | hq
  · exact h q (List.mem_filter.1 hq).1
  · rw [List.mem_singleton.1 hq]
    exact hreplies

/-- A calm script replies with no crash, and stays calm. -/
theorem IsCalm.reply {s : Script} (h : s.IsCalm) (r : Request) :
    isCrash (Server.reply s r).1 = false ∧ (Server.reply s r).2.IsCalm := by
  have hqueue := h.queue r.url.plainPath
  simp only [Server.reply]
  split <;> rename_i hq <;> rw [hq] at hqueue
  · exact ⟨rfl, h⟩
  · exact ⟨hqueue _ List.mem_cons_self, h⟩
  · exact ⟨hqueue _ List.mem_cons_self,
      h.setQueue fun reply hreply => hqueue reply (List.mem_cons_of_mem _ hreply)⟩

theorem IsCalm.after {s : Script} (h : s.IsCalm) (rs : List Request) :
    (Server.after s rs).IsCalm := by
  induction rs generalizing s with
  | nil => exact h
  | cons r rs ih => exact ih (h.reply r).2

/-- Nothing breaks outside of the exchanges with a calm script. -/
theorem never_crashes {s : Script} (h : s.IsCalm) (rs : List Request) (r : Request)
    (name : String) : (Server.reply (Server.after s rs) r).1 ≠ .crash name := by
  intro hcrash
  have hcalm := ((h.after rs).reply r).1
  rw [hcrash] at hcalm
  cases hcalm

end Http.Script

/-! ## What a client hands over -/

namespace Http.Client

variable {c : Client} {r : Request} {reply : Reply}

/-- A client hands nothing over only for an answer that redirects to what cannot be requested. -/
theorem receive_error {f : RequestFault} (h : c.receive r reply = .error f)
    (hcookies : keepsCookies r.url = true) :
    ∃ a b, reply = .answer a ∧ a.decoded = .ok b ∧ Redirect.isRedirect b.status = true ∧
      Redirect.check r b = .error (.request f) := by
  cases reply with
  | failure f => cases h
  | crash name => cases h
  | answer a =>
    cases hb : a.decoded with
    | error e =>
      simp only [receive, hb] at h
      cases h
    | ok b =>
      simp only [receive, hb, handOver, hcookies] at h
      split at h
      · cases h
      · cases hcheck : Redirect.check r b with
        | ok u => simp [hcheck] at h
        | error e =>
          cases e with
          | place f' => simp [hcheck] at h
          | request f' =>
            simp only [hcheck, Bool.not_true, Bool.false_eq_true, if_false, Except.error.injEq] at h
            subst h
            refine ⟨a, b, rfl, hb, ?_, hcheck⟩
            cases hstatus : Redirect.isRedirect b.status with
            | true => rfl
            | false =>
              rw [Redirect.check_of_status hstatus] at hcheck
              cases hcheck

theorem receive_crash {name : String} (h : c.receive r reply = .ok (.crash name)) :
    reply = .crash name := by
  cases reply with
  | failure f => cases h
  | crash name' =>
    cases h
    rfl
  | answer a =>
    cases hb : a.decoded with
    | error e =>
      simp only [receive, hb] at h
      cases h
    | ok b =>
      simp only [receive, hb, handOver] at h
      repeat' split at h
      all_goals cases h

end Http.Client

end Bearer
