import Bearer.Proofs.Secrecy.Queries
import Bearer.Proofs.Text.Utf8
import Mathlib.Data.List.Nodup

/-!
# Parameters that are read back

What parameters are written to is read as the same parameters, whatever characters their names and
values are of: all that means something in a form is escaped, so a piece ends where it was ended and
its name ends at the first `=`.

Merging parameters into a query puts them in the place of those that have their names, and leaves
the values of all other names as they were, in their order.

* `decodeComponent_component`: a name or a value is read back.
* `decode_encode`: a list of parameters is read back.
* `Arrive`, `arrive_merge`: what reading a query brings into which parameters were merged.
-/
namespace Bearer.Url

/-! ## Escapes -/

theorem unescapeBytes_of_ne {c : Char} (h : c ≠ '%') (s : List Char) :
    unescapeBytes (c :: s) = Text.Utf8.encodeChar c ++ unescapeBytes s := by
  match s with
  | [] | [_] | _ :: _ :: _ => simp [unescapeBytes, h]

theorem unescapeBytes_flatMap_escapeByte (bytes : List UInt8) (s : List Char) :
    unescapeBytes (bytes.flatMap escapeByte ++ s) = bytes ++ unescapeBytes s := by
  induction bytes with
  | nil => rfl
  | cons b bytes ih =>
    rw [List.flatMap_cons, List.append_assoc, unescapeBytes_escapeByte, ih, List.cons_append]

namespace Form

theorem plusToSpace_append (s t : List Char) :
    plusToSpace (s ++ t) = plusToSpace s ++ plusToSpace t :=
  List.map_append

theorem plusToSpace_eq_self {s : List Char} (h : '+' ∉ s) : plusToSpace s = s := by
  unfold plusToSpace
  refine (List.map_congr_left fun c hc => ?_).trans (List.map_id s)
  have hne : c ≠ '+' := fun he => h (he ▸ hc)
  exact if_neg hne

/-! ## Names and values -/

/-- Only a space is written as a plus sign. -/
theorem plus_not_mem_escapeChar (c : Char) : '+' ∉ escapeChar isUnreserved c := by
  intro h
  rcases mem_escapeChar h with h | h | h <;> revert h <;> decide

/-- A character is read back, whatever stands behind it. -/
theorem unescapeBytes_componentChar (c : Char) (s : List Char) :
    unescapeBytes (plusToSpace (componentChar c) ++ s) =
      Text.Utf8.encodeChar c ++ unescapeBytes s := by
  unfold componentChar
  split
  · rename_i hc
    subst hc
    exact unescapeBytes_of_ne (by decide) s
  · rw [plusToSpace_eq_self (plus_not_mem_escapeChar c)]
    unfold escapeChar
    split
    · rename_i hsafe
      have hne : c ≠ '%' := by
        rintro rfl
        revert hsafe
        decide
      exact unescapeBytes_of_ne hne s
    · exact unescapeBytes_flatMap_escapeByte _ s

theorem unescapeBytes_component (s : List Char) :
    unescapeBytes (plusToSpace (component s)) = Text.Utf8.encode s := by
  induction s with
  | nil => rfl
  | cons c s ih =>
    have hcons : component (c :: s) = componentChar c ++ component s := rfl
    rw [hcons, plusToSpace_append, unescapeBytes_componentChar, ih, Text.Utf8.encode_cons]

/-- A name or a value is read back. -/
theorem decodeComponent_component (s : List Char) : decodeComponent (component s) = s := by
  rw [decodeComponent, unescape, unescapeBytes_component, Text.Utf8.decodeLossy_encode]

/-- Nothing in a name or a value ends it. -/
theorem not_mem_component {c : Char} (hc : c = '&' ∨ c = '=') (s : List Char) : c ∉ component s := by
  intro h
  obtain ⟨d, -, hd⟩ := List.mem_flatMap.1 h
  unfold componentChar at hd
  split at hd
  · rw [List.mem_singleton.1 hd] at hc
    revert hc
    decide
  · rcases mem_escapeChar hd with h | h | h <;> rcases hc with rfl | rfl <;> revert h <;> decide

/-! ## Lists of parameters -/

theorem fieldOf_field (p : Param) : fieldOf (field p) = p := by
  rw [field, fieldOf_eq _ _ (not_mem_component (.inr rfl) _), decodeComponent_component,
    decodeComponent_component, String.ofList_toList, String.ofList_toList]

theorem and_not_mem_field (p : Param) : '&' ∉ field p := by
  have h := not_mem_component (.inl rfl : '&' = '&' ∨ '&' = '=')
  simp [field, h]

theorem field_ne_nil (p : Param) : field p ≠ [] := by
  simp [field]

theorem pieces_of_not_mem {separator : Char} {t : List Char} (h : separator ∉ t) :
    pieces separator t = [t] := by
  induction t with
  | nil => rfl
  | cons c t ih =>
    obtain ⟨hc, ht⟩ := not_or.1 (List.mem_cons.not.1 h)
    rw [pieces, if_neg fun he => hc he.symm, ih ht]

theorem pieces_append {separator : Char} {t : List Char} (h : separator ∉ t) (s : List Char) :
    pieces separator (t ++ separator :: s) = t :: pieces separator s := by
  induction t with
  | nil => simp [pieces]
  | cons c t ih =>
    obtain ⟨hc, ht⟩ := not_or.1 (List.mem_cons.not.1 h)
    rw [List.cons_append, pieces, if_neg fun he => hc he.symm, ih ht]

/-- Texts with separators between them are cut apart again. -/
theorem pieces_separated {separator : Char} {ts : List (List Char)} (hne : ts ≠ [])
    (h : ∀ t ∈ ts, separator ∉ t) : pieces separator (separated separator ts) = ts := by
  induction ts with
  | nil => exact absurd rfl hne
  | cons t ts ih =>
    obtain ⟨ht, hts⟩ := List.forall_mem_cons.1 h
    cases ts with
    | nil => exact pieces_of_not_mem ht
    | cons u us =>
      change pieces separator (t ++ separator :: separated separator (u :: us)) = t :: u :: us
      rw [pieces_append ht, ih (List.cons_ne_nil u us) hts]

/-- A list of parameters is read back. -/
theorem decode_encode (ps : List Param) : decode (encode ps) = ps := by
  cases ps with
  | nil => rfl
  | cons p ps =>
    have hpieces : pieces '&' (encode (p :: ps)) = (p :: ps).map field :=
      pieces_separated (by simp) fun t ht => by
        obtain ⟨q, -, rfl⟩ := List.mem_map.1 ht
        exact and_not_mem_field q
    have hfilter : ((p :: ps).map field).filter (fun t => !t.isEmpty) = (p :: ps).map field :=
      List.filter_eq_self.2 fun t ht => by
        obtain ⟨q, -, rfl⟩ := List.mem_map.1 ht
        simpa using field_ne_nil q
    rw [decode, hpieces, hfilter, List.map_map]
    exact (List.map_congr_left fun q _ => fieldOf_field q).trans (List.map_id _)

/-! ## Values of a name -/

/-- The values of a name among parameters, in their order. -/
def valuesOf (ps : List Param) (name : String) : List String :=
  (ps.filter fun p => p.1 == name).map Prod.snd

@[simp] theorem valuesOf_nil (name : String) : valuesOf [] name = [] := rfl

theorem valuesOf_cons (p : Param) (ps : List Param) (name : String) :
    valuesOf (p :: ps) name = if p.1 = name then p.2 :: valuesOf ps name else valuesOf ps name := by
  by_cases h : p.1 = name <;> simp [valuesOf, h]

theorem valuesOf_append (ps qs : List Param) (name : String) :
    valuesOf (ps ++ qs) name = valuesOf ps name ++ valuesOf qs name := by
  simp [valuesOf]

theorem valuesOf_eq_nil {ps : List Param} {name : String} (h : name ∉ ps.map Prod.fst) :
    valuesOf ps name = [] := by
  induction ps with
  | nil => rfl
  | cons p ps ih =>
    obtain ⟨hp, hps⟩ := not_or.1 (List.mem_cons.not.1 h)
    rw [valuesOf_cons, if_neg fun he => hp he.symm, ih hps]

/-- A parameter has the value of its name if no other one has that name. -/
theorem valuesOf_of_mem {ps : List Param} (hps : (ps.map Prod.fst).Nodup) {p : Param} (hp : p ∈ ps) :
    valuesOf ps p.1 = [p.2] := by
  induction ps with
  | nil => exact absurd hp List.not_mem_nil
  | cons q ps ih =>
    obtain ⟨hq, hps⟩ := List.nodup_cons.1 hps
    rw [valuesOf_cons]
    rcases List.mem_cons.1 hp with rfl | hp
    · rw [if_pos rfl, valuesOf_eq_nil hq]
    · have hmem : p.1 ∈ ps.map Prod.fst := List.mem_map_of_mem hp
      have hne : q.1 ≠ p.1 := fun he => hq (he ▸ hmem)
      rw [if_neg hne, ih hps hp]

/-- What reading a query brings into which parameters were merged: each of the parameters once, with
its value, and of other names what was there before. -/
structure Arrive (ps old new : List Param) : Prop where
  given : ∀ p ∈ ps, valuesOf new p.1 = [p.2]
  kept : ∀ name ∉ ps.map Prod.fst, valuesOf new name = valuesOf old name

end Form

namespace Query

open Form

/-- The names of a query. -/
def names (q : Query) : List String :=
  q.map Prod.fst

/-- Names with one more, unless it is among them. -/
def withName (ns : List String) (name : String) : List String :=
  if name ∈ ns then ns else ns ++ [name]

theorem withName_of_mem {ns : List String} {name : String} (h : name ∈ ns) : withName ns name = ns :=
  if_pos h

theorem withName_cons {n name : String} (h : n ≠ name) (ns : List String) :
    withName (n :: ns) name = n :: withName ns name := by
  unfold withName
  simp only [List.mem_cons, Ne.symm h, false_or]
  split <;> rfl

theorem mem_foldl_withName {ns new : List String} {name : String} :
    name ∈ new.foldl withName ns ↔ name ∈ ns ∨ name ∈ new := by
  induction new generalizing ns with
  | nil => simp
  | cons n new ih =>
    rw [List.foldl_cons, ih]
    unfold withName
    split
    · rename_i hn
      grind
    · grind

theorem nodup_foldl_withName {ns : List String} (h : ns.Nodup) (new : List String) :
    (new.foldl withName ns).Nodup := by
  induction new generalizing ns with
  | nil => exact h
  | cons n new ih =>
    refine ih ?_
    unfold withName
    split
    · exact h
    · rename_i hn
      refine List.nodup_append.2 ⟨h, List.nodup_singleton n, fun m hm m' hm' he => ?_⟩
      rw [List.mem_singleton.1 hm'] at he
      exact hn (he ▸ hm)

theorem values_cons (e : String × List String) (q : Query) (name : String) :
    values (e :: q) name = if e.1 = name then e.2 else values q name := by
  by_cases h : e.1 = name <;> simp [values, h]

/-! ## Parameters put to their names -/

theorem values_add (q : Query) (p : Param) (name : String) :
    (q.add p).values name = q.values name ++ valuesOf [p] name := by
  induction q with
  | nil => rw [valuesOf_cons]; exact values_cons (p.1, [p.2]) [] name
  | cons e q ih =>
    unfold add
    split
    · rename_i he
      by_cases hname : p.1 = name <;> simp [values_cons, valuesOf_cons, he, hname]
    · rename_i he
      by_cases hname : e.1 = name
      · have hp : p.1 ≠ name := fun hp => he (hname.trans hp.symm)
        simp [values_cons, valuesOf_cons, hname, hp]
      · simp [values_cons, hname, ih]

theorem values_foldl_add (q : Query) (ps : List Param) (name : String) :
    (ps.foldl add q).values name = q.values name ++ valuesOf ps name := by
  induction ps generalizing q with
  | nil => simp
  | cons p ps ih => rw [List.foldl_cons, ih, values_add, List.append_assoc, ← valuesOf_append]; rfl

theorem values_ofParams (ps : List Param) (name : String) :
    (ofParams ps).values name = valuesOf ps name :=
  values_foldl_add [] ps name

theorem names_add (q : Query) (p : Param) : (q.add p).names = withName q.names p.1 := by
  induction q with
  | nil => rfl
  | cons e q ih =>
    unfold add
    split
    · rename_i he
      exact (withName_of_mem (by simp [names, he])).symm
    · rename_i he
      exact (congrArg (e.1 :: ·) ih).trans (withName_cons he _).symm

theorem names_foldl_add (q : Query) (ps : List Param) :
    (ps.foldl add q).names = (ps.map Prod.fst).foldl withName q.names := by
  induction ps generalizing q with
  | nil => rfl
  | cons p ps ih => rw [List.foldl_cons, ih, names_add]; rfl

theorem names_ofParams (ps : List Param) :
    (ofParams ps).names = (ps.map Prod.fst).foldl withName [] :=
  names_foldl_add [] ps

theorem nodup_names_ofParams (ps : List Param) : (ofParams ps).names.Nodup := by
  rw [names_ofParams]
  exact nodup_foldl_withName List.nodup_nil _

theorem mem_names_ofParams {ps : List Param} {name : String} :
    name ∈ (ofParams ps).names ↔ name ∈ ps.map Prod.fst := by
  rw [names_ofParams, mem_foldl_withName]
  exact or_iff_right List.not_mem_nil

/-! ## Merged queries -/

theorem names_replace (q : Query) (e : String × List String) :
    (q.replace e).names = withName q.names e.1 := by
  induction q with
  | nil => rfl
  | cons f q ih =>
    unfold replace
    split
    · rename_i hf
      rw [withName_of_mem (by simp [names, hf])]
      exact congrArg (· :: names q) hf.symm
    · rename_i hf
      exact (congrArg (f.1 :: ·) ih).trans (withName_cons hf _).symm

theorem names_merge (old new : Query) :
    (old.merge new).names = new.names.foldl withName old.names := by
  induction new generalizing old with
  | nil => rfl
  | cons e new ih => rw [merge, List.foldl_cons, ← merge, ih, names_replace]; rfl

theorem nodup_names_merge {old : Query} (h : old.names.Nodup) (new : Query) :
    (old.merge new).names.Nodup := by
  rw [names_merge]
  exact nodup_foldl_withName h _

/-- A name that comes once among what is merged in gets the values that it has there. -/
theorem values_merge_of_mem {new : Query} (hnew : new.names.Nodup) (old : Query) {name : String}
    (h : name ∈ new.names) : (old.merge new).values name = new.values name := by
  induction new generalizing old with
  | nil => exact absurd h List.not_mem_nil
  | cons e new ih =>
    obtain ⟨he, hnew⟩ := List.nodup_cons.1 hnew
    rw [values_cons]
    split
    · rename_i hname
      subst hname
      -- it does not come again
      have hrest : ∀ f ∈ new, f.1 ≠ e.1 := fun f hf hfe => he (hfe ▸ List.mem_map_of_mem hf)
      exact (values_merge_of_not_mem new _ hrest).trans (values_replace_self old e)
    · rename_i hname
      exact ih hnew _ ((List.mem_cons.1 h).resolve_left fun heq => hname heq.symm)

/-! ## Queries as parameters -/

theorem valuesOf_map (name name' : String) (vs : List String) :
    valuesOf (vs.map fun v => (name, v)) name' = if name = name' then vs else [] := by
  by_cases h : name = name' <;> simp [valuesOf, h, List.filter_map, Function.comp_def]

theorem values_eq_nil {q : Query} {name : String} (h : name ∉ q.names) : q.values name = [] := by
  induction q with
  | nil => rfl
  | cons e q ih =>
    obtain ⟨he, hq⟩ := not_or.1 (List.mem_cons.not.1 h)
    rw [values_cons, if_neg fun heq => he heq.symm, ih hq]

/-- The parameters of a query give a name the values that the query gives it. -/
theorem valuesOf_params {q : Query} (h : q.names.Nodup) (name : String) :
    valuesOf q.params name = q.values name := by
  induction q with
  | nil => rfl
  | cons e q ih =>
    obtain ⟨he, hq⟩ := List.nodup_cons.1 h
    have hcons : params (e :: q) = e.2.map (fun v => (e.1, v)) ++ params q := rfl
    rw [hcons, valuesOf_append, valuesOf_map, ih hq, values_cons]
    split
    · rename_i hname
      rw [values_eq_nil (hname ▸ he), List.append_nil]
    · rfl

/-- Parameters with names of their own arrive when they are merged. -/
theorem arrive_merge {ps : List Param} (hps : (ps.map Prod.fst).Nodup) (old : List Param) :
    Arrive ps old ((ofParams old).merge (ofParams ps)).params := by
  have hmerged := nodup_names_merge (nodup_names_ofParams old) (ofParams ps)
  constructor
  · intro p hp
    rw [valuesOf_params hmerged, values_merge_of_mem (nodup_names_ofParams ps) _
      (mem_names_ofParams.2 (List.mem_map_of_mem hp)), values_ofParams, valuesOf_of_mem hps hp]
  · intro name hname
    have hnot : ∀ e ∈ ofParams ps, e.1 ≠ name := fun e he heq =>
      hname (mem_names_ofParams.1 (heq ▸ List.mem_map_of_mem he))
    rw [valuesOf_params hmerged, values_merge_of_not_mem _ _ hnot, values_ofParams]

end Query

end Bearer.Url
