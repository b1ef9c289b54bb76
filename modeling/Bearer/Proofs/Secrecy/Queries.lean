import Bearer.Url.Basic

/-!
# Queries that are written

Whatever the parameters of a request are, the query that they are written to is of few characters
only: none of them ends a part of a URL, and none is a control. So two requests whose parameters
differ in their values have URLs that differ nowhere but in their queries.

* `mem_escapeChar`: what a character is escaped to.
* `isPlain_encode`, `encode_ne_nil`: what is written is plain, and not empty.
* `params_merge_ne_nil`: a query into which parameters are merged has some.
-/
namespace Bearer

namespace Url

/-- A text that can stand as a query and show nothing of itself outside of it. -/
def IsPlain (q : List Char) : Prop :=
  ∀ c ∈ q, c ≠ '#' ∧ c ≠ '/' ∧ c ≠ ':' ∧ isControl c = false

/-! ## Escapes -/

theorem isUnreserved_hexChar : ∀ n < 16, isUnreserved (hexChar n) = true := by
  decide

/-- An escaped character is a safe one, a percent sign or a hexadecimal digit. -/
theorem mem_escapeChar {safe : Char → Bool} {c d : Char} (h : d ∈ escapeChar safe c) :
    safe d = true ∨ d = '%' ∨ isUnreserved d = true := by
  unfold escapeChar at h
  split at h
  · rename_i hsafe
    rw [List.mem_singleton.1 h]
    exact .inl hsafe
  · obtain ⟨b, -, hd⟩ := List.mem_flatMap.1 h
    have hhigh := isUnreserved_hexChar (b.toNat / 16) (by have := b.toNat_lt; omega)
    have hlow := isUnreserved_hexChar (b.toNat % 16) (by omega)
    simp only [escapeByte, List.mem_cons, List.not_mem_nil, or_false] at hd
    rcases hd with rfl | rfl | rfl
    · exact .inr (.inl rfl)
    · exact .inr (.inr hhigh)
    · exact .inr (.inr hlow)

theorem encodeChar_ne_nil (c : Char) : Text.Utf8.encodeChar c ≠ [] := by
  simp only [Text.Utf8.encodeChar]
  repeat' split
  all_goals exact List.cons_ne_nil _ _

theorem escapeChar_ne_nil (safe : Char → Bool) (c : Char) : escapeChar safe c ≠ [] := by
  unfold escapeChar
  split
  · simp
  · obtain ⟨b, bs, hb⟩ := List.exists_cons_of_ne_nil (encodeChar_ne_nil c)
    simp [hb, escapeByte]

theorem escape_eq_nil_iff {safe : Char → Bool} {s : List Char} : escape safe s = [] ↔ s = [] := by
  cases s with
  | nil => simp [escape]
  | cons c s => simp [escape, escapeChar_ne_nil]

/-- A character is unreserved, or a percent sign, and so no control. -/
theorem isControl_of_isUnreserved {c : Char} (h : isUnreserved c = true) : isControl c = false := by
  simp only [isUnreserved, isAlphanumeric, Bool.or_eq_true, Bool.and_eq_true, decide_eq_true_eq] at h
  simp only [isControl, Bool.or_eq_false_iff, decide_eq_false_iff_not, beq_eq_false_iff_ne]
  rcases h with (((h | rfl) | rfl) | rfl) | rfl <;> first | omega | decide

theorem isPlain_of_isUnreserved {c : Char} (h : isUnreserved c = true) :
    c ≠ '#' ∧ c ≠ '/' ∧ c ≠ ':' ∧ isControl c = false := by
  refine ⟨?_, ?_, ?_, isControl_of_isUnreserved h⟩ <;>
    · rintro rfl
      revert h
      decide

/-! ## Encoded parameters -/

theorem isPlain_append {s t : List Char} (hs : IsPlain s) (ht : IsPlain t) : IsPlain (s ++ t) :=
  fun c hc => (List.mem_append.1 hc).elim (hs c) (ht c)

theorem isPlain_cons {c : Char} {s : List Char}
    (hc : c ≠ '#' ∧ c ≠ '/' ∧ c ≠ ':' ∧ isControl c = false) (hs : IsPlain s) : IsPlain (c :: s) :=
  List.forall_mem_cons.2 ⟨hc, hs⟩

theorem isPlain_component (s : List Char) : IsPlain (Form.component s) := by
  intro d hd
  obtain ⟨c, -, hc⟩ := List.mem_flatMap.1 hd
  unfold Form.componentChar at hc
  split at hc
  · rw [List.mem_singleton.1 hc]
    decide
  · rcases mem_escapeChar hc with h | rfl | h
    · exact isPlain_of_isUnreserved h
    · decide
    · exact isPlain_of_isUnreserved h

theorem isPlain_field (p : Form.Param) : IsPlain (Form.field p) :=
  isPlain_append (isPlain_component _) (isPlain_cons (by decide) (isPlain_component _))

theorem isPlain_separated {ts : List (List Char)} (h : ∀ t ∈ ts, IsPlain t) :
    IsPlain (Form.separated '&' ts) := by
  induction ts with
  | nil => exact nofun
  | cons t ts ih =>
    obtain ⟨ht, hts⟩ := List.forall_mem_cons.1 h
    cases ts with
    | nil => exact ht
    | cons u us => exact isPlain_append ht (isPlain_cons (by decide) (ih hts))

/-- What parameters are written to is plain. -/
theorem isPlain_encode (ps : List Form.Param) : IsPlain (Form.encode ps) := by
  refine isPlain_separated fun t ht => ?_
  obtain ⟨p, -, rfl⟩ := List.mem_map.1 ht
  exact isPlain_field p

theorem encode_ne_nil {ps : List Form.Param} (h : ps ≠ []) : Form.encode ps ≠ [] := by
  have hfield : ∀ p, Form.field p ≠ [] := fun p => by simp [Form.field]
  match ps with
  | [p] => simpa [Form.encode, Form.separated] using hfield p
  | p :: q :: ps => simp [Form.encode, Form.separated]

/-! ## Merged parameters -/

theorem Query.mem_replace_self (q : Query) (e : String × List String) : e ∈ q.replace e := by
  induction q with
  | nil => simp [replace]
  | cons f q ih =>
    unfold replace
    split
    · exact List.mem_cons_self
    · exact List.mem_cons_of_mem f ih

/-- Names that come of parameters have values. -/
theorem Query.values_ne_nil_of_mem_add {q : Query} (hq : ∀ e ∈ q, e.2 ≠ []) (p : Form.Param) :
    ∀ e ∈ q.add p, e.2 ≠ [] := by
  induction q with
  | nil => simp [add]
  | cons f q ih =>
    obtain ⟨hf, hq⟩ := List.forall_mem_cons.1 hq
    unfold add
    split
    · exact List.forall_mem_cons.2 ⟨by simp, hq⟩
    · exact List.forall_mem_cons.2 ⟨hf, ih hq⟩

theorem Query.add_ne_nil (q : Query) (p : Form.Param) : q.add p ≠ [] := by
  cases q with
  | nil => simp [add]
  | cons f q =>
    unfold add
    split <;> simp

theorem Query.ofParams_ne_nil {ps : List Form.Param} (h : ps ≠ []) :
    ofParams ps ≠ [] ∧ ∀ e ∈ ofParams ps, e.2 ≠ [] := by
  have hvalues : ∀ (ps : List Form.Param) (q : Query), (∀ e ∈ q, e.2 ≠ []) →
      ∀ e ∈ ps.foldl add q, e.2 ≠ [] := fun ps => by
    induction ps with
    | nil => exact fun q hq => hq
    | cons p ps ih => exact fun q hq => ih _ (values_ne_nil_of_mem_add hq p)
  refine ⟨?_, hvalues ps [] nofun⟩
  obtain ⟨init, p, rfl⟩ := List.eq_nil_or_concat ps |>.resolve_left h
  unfold ofParams
  rw [List.concat_eq_append, List.foldl_append]
  exact add_ne_nil _ p

/-- A query into which parameters are merged has some. -/
theorem Query.params_merge_ne_nil (old : Query) {ps : List Form.Param} (h : ps ≠ []) :
    (old.merge (ofParams ps)).params ≠ [] := by
  obtain ⟨hne, hvalues⟩ := ofParams_ne_nil h
  obtain ⟨init, e, hlast⟩ := List.eq_nil_or_concat (ofParams ps) |>.resolve_left hne
  rw [List.concat_eq_append] at hlast
  have he : e.2 ≠ [] := hvalues e (by rw [hlast]; simp)
  obtain ⟨v, vs, hv⟩ := List.exists_cons_of_ne_nil he
  have hmem : e ∈ old.merge (ofParams ps) := by
    rw [hlast, merge, List.foldl_append]
    exact mem_replace_self _ e
  refine List.ne_nil_of_mem (List.mem_flatMap.2 ⟨e, hmem, List.mem_map.2 ⟨v, ?_, rfl⟩⟩)
  rw [hv]
  exact List.mem_cons_self

end Url

end Bearer
