import Bearer.Logging.Files

/-!
# Setting the log up again

A set-up takes off what the set-up before has put on, and puts its own behind what others have
attached. Here the log is set up any number of times, with others attaching handlers in between, and
the run keeps book itself of what was attached and what each set-up has put on: it looks at the
logger before and after a set-up, and not at what the logger remembers. Which files open is decided
anew at each set-up, and a set-up may break off.

Every set-up renews the logger (`Setup.Renews`): the handlers it is to take off the next time bear
numbers that no handler had before. So none of them is taken for the handler of another.

* `tidy_step`, `tidy_after`: the logger agrees with the book, at each step and after a run.
* `reconfiguring_replaces`: after a set-up the logger has the handlers of others, untouched and in
  their order, and then those of this set-up alone.
-/
namespace Bearer.Logging

/-! ## The steps of a logger -/

/-- What happens to a logger. -/
inductive Act where
  /-- Another handler is attached. -/
  | attach (sink : Sink)
  /-- The log is set up; `opens` says which files open. -/
  | configure (s : Settings) (opens : String → Bool)
  /-- The log is set up, and that breaks off. -/
  | breakOff (s : Settings)

namespace Act

/-- Where the handler writes that others attach. -/
def attached? : Act → Option Sink
  | attach sink => some sink
  | _ => none

end Act

/-- The logger after what happens to it. -/
def Setup.act (u : Setup) : Act → Setup
  | .attach sink => u.attach sink
  | .configure s opens => u.configure s opens
  | .breakOff s => u.breakOff s

/-- The set-up by some settings, where files lie: the file they name opens, or it does not, or its
path is none. -/
def Files.setUp (fs : Files) (s : Settings) : Act :=
  match s.logFile with
  | none => .configure s fun _ => false
  | some path =>
    match (fs.openAt path).2 with
    | .ok () => .configure s fun _ => true
    | .error .refused => .configure s fun _ => false
    | .error .notPath => .breakOff s

theorem Journal.setup_configure (j : Journal) (s : Settings) :
    (j.configure s).1.setup = j.setup.act (j.files.setUp s) := by
  unfold Journal.configure Files.setUp
  cases s.logFile with
  | none => rfl
  | some path =>
    simp only
    generalize j.files.openAt path = o
    obtain ⟨files, opened⟩ := o
    cases opened with
    | ok => rfl
    | error e => cases e <;> rfl

/-! ## What a set-up does -/

namespace Setup

/-- The handlers of a logger that others have attached. -/
def others (u : Setup) : List Handler :=
  u.handlers.filter fun h => h ∉ u.installed

/-- The handlers that a logger knows of. -/
def known (u : Setup) : List Handler :=
  u.handlers ++ u.installed ++ u.closed

theorem mem_known {u : Setup} {h : Handler} :
    h ∈ u.known ↔ h ∈ u.handlers ∨ h ∈ u.installed ∨ h ∈ u.closed := by
  simp [known]

theorem filter_of_forall_mem {hs removed : List Handler} (h : ∀ a ∈ hs, a ∈ removed) :
    (hs.filter fun a => a ∉ removed) = [] :=
  List.filter_eq_nil_iff.2 fun a ha => by simpa using h a ha

theorem filter_of_forall_not_mem {hs removed : List Handler} (h : ∀ a ∈ hs, a ∉ removed) :
    (hs.filter fun a => a ∉ removed) = hs :=
  List.filter_eq_self.2 fun a ha => by simpa using h a ha

/-- A set-up has put some handlers on: what was to be taken off is off, and closed, and what is to
be taken off the next time is new. -/
structure Renews (u u' : Setup) (on : List Handler) : Prop where
  handlers : u'.handlers = u.others ++ on
  closed : u'.closed = u.closed ++ u.installed
  remembered : on ⊆ u'.installed
  new : ∀ h ∈ u'.installed, u.next ≤ h.serial ∧ h.serial < u'.next
  distinct : on.Nodup
  next : u.next ≤ u'.next

theorem wanted_serial {s : Settings} {opens : String → Bool} {n : Nat} {h : Handler}
    (hm : h ∈ wanted s opens n) : n ≤ h.serial ∧ h.serial < n + 2 := by
  unfold wanted at hm
  split at hm
  · split at hm
    · simp only [List.mem_cons, List.not_mem_nil, or_false] at hm
      rcases hm with rfl | rfl <;> simp
    · rw [List.mem_singleton.1 hm]
      simp
  · rw [List.mem_singleton.1 hm]
    simp

theorem wanted_nodup (s : Settings) (opens : String → Bool) (n : Nat) :
    (wanted s opens n).Nodup := by
  unfold wanted
  split
  · split <;> simp
  · simp

theorem wanted_sinks (s : Settings) (opens : String → Bool) (n : Nat) :
    (wanted s opens n).map Handler.sink =
      .console s.logFormat ::
        (s.logFile.filter fun path => path ≠ "" && opens path).toList.map Sink.file := by
  unfold wanted
  cases s.logFile with
  | none => rfl
  | some path =>
    by_cases hp : path = ""
    · simp [hp]
    · cases ho : opens path <;> simp [Option.filter, hp, ho]

theorem renews_configure (u : Setup) (s : Settings) (opens : String → Bool) :
    u.Renews (u.configure s opens) (wanted s opens u.next) where
  handlers := rfl
  closed := rfl
  remembered := List.Subset.refl _
  new := fun _ => wanted_serial
  distinct := wanted_nodup s opens u.next
  next := Nat.le_add_right _ _

theorem renews_breakOff (u : Setup) (s : Settings) : u.Renews (u.breakOff s) [] where
  handlers := (List.append_nil _).symm
  closed := rfl
  remembered := List.nil_subset _
  new := by simp [breakOff]
  distinct := List.nodup_nil
  next := Nat.le_succ _

end Setup

/-! ## Runs -/

/-- A logger, and what has happened to it. -/
structure LogRun where
  /-- The logger. -/
  setup : Setup := {}
  /-- The handlers of others: the one that a logger has from the start, and those attached. -/
  own : List Handler := ({} : Setup).handlers
  /-- The handlers that the last set-up put on. -/
  put : List Handler := []
  /-- The handlers that the set-ups before it put on. -/
  earlier : List Handler := []

namespace LogRun

/-- The handlers of a logger that another has not. -/
def added (u u' : Setup) : List Handler :=
  u'.handlers.filter fun h => h ∉ u.handlers

/-- A run with a set-up more, after which the logger is as given. -/
def replaced (r : LogRun) (u : Setup) : LogRun :=
  { setup := u, own := r.own, put := added r.setup u, earlier := r.earlier ++ r.put }

/-- A run with one thing more that happens. -/
def step (r : LogRun) (a : Act) : LogRun :=
  match a with
  | .attach _ =>
    { r with setup := r.setup.act a, own := r.own ++ added r.setup (r.setup.act a) }
  | .configure _ _ | .breakOff _ => r.replaced (r.setup.act a)

/-- A run with all that happens after it. -/
def after (r : LogRun) (acts : List Act) : LogRun :=
  acts.foldl step r

/-- The logger agrees with what has happened to it. -/
structure Tidy (r : LogRun) : Prop where
  /-- What it does not remember as put on is what others have attached. -/
  own : r.setup.others = r.own
  put : r.put ⊆ r.setup.installed
  earlier : r.earlier ⊆ r.setup.closed
  /-- No handler that is on it is closed. -/
  working : ∀ h ∈ r.setup.handlers, h ∉ r.setup.closed
  distinct : r.setup.handlers.Nodup
  numbered : ∀ h ∈ r.setup.known, h.serial < r.setup.next

theorem tidy_fresh : Tidy {} := by
  constructor <;> decide

variable {r : LogRun} {u : Setup} {on : List Handler}

theorem Tidy.not_mem_known (t : r.Tidy) {h : Handler} (hn : r.setup.next ≤ h.serial) :
    h ∉ r.setup.known := fun hm =>
  Nat.not_lt_of_le hn (t.numbered h hm)

/-- What a step puts behind handlers that were there, and was not there, is what the run notes. -/
theorem added_eq {u u' : Setup} {kept : List Handler} (h : u'.handlers = kept ++ on)
    (hk : ∀ h ∈ kept, h ∈ u.handlers) (ho : ∀ h ∈ on, h ∉ u.known) : added u u' = on := by
  have hon : ∀ h ∈ on, h ∉ u.handlers := fun h hm hold => ho h hm (Setup.mem_known.2 (.inl hold))
  rw [added, h, List.filter_append, Setup.filter_of_forall_mem hk,
    Setup.filter_of_forall_not_mem hon, List.nil_append]

theorem own_attach (t : r.Tidy) (sink : Sink) :
    (r.step (.attach sink)).own = r.own ++ [⟨r.setup.next, sink⟩] :=
  congrArg _ (added_eq rfl (fun _ => id) fun _ hm =>
    List.mem_singleton.1 hm ▸ t.not_mem_known (Nat.le_refl _))

theorem tidy_attach (t : r.Tidy) (sink : Sink) : (r.step (.attach sink)).Tidy := by
  have hnew : (⟨r.setup.next, sink⟩ : Handler) ∉ r.setup.known := t.not_mem_known (Nat.le_refl _)
  rw [Setup.mem_known, not_or, not_or] at hnew
  obtain ⟨hon, hin, hcl⟩ := hnew
  constructor
  case own =>
    have hself : ∀ h ∈ [(⟨r.setup.next, sink⟩ : Handler)], h ∉ r.setup.installed := fun h hm =>
      List.mem_singleton.1 hm ▸ hin
    rw [own_attach t, ← t.own, Setup.others, Setup.others, ← Setup.filter_of_forall_not_mem hself]
    exact List.filter_append ..
  case put => exact t.put
  case earlier => exact t.earlier
  case working =>
    intro h hm
    rcases List.mem_append.1 hm with hm | hm
    · exact t.working h hm
    · exact List.mem_singleton.1 hm ▸ hcl
  case distinct =>
    refine List.nodup_append.2 ⟨t.distinct, by simp, ?_⟩
    intro a ha b hb hab
    rw [hab, List.mem_singleton.1 hb] at ha
    exact hon ha
  case numbered =>
    intro h hm
    have hold : h ∈ r.setup.known ∨ h = ⟨r.setup.next, sink⟩ := by
      rcases Setup.mem_known.1 hm with hm | hm
      · exact (List.mem_append.1 hm).imp (Setup.mem_known.2 ∘ .inl) List.mem_singleton.1
      · exact .inl (Setup.mem_known.2 (.inr hm))
    rcases hold with hm | rfl
    · exact Nat.lt_succ_of_lt (t.numbered h hm)
    · exact Nat.lt_succ_self _

/-- After a set-up, what the run has noted as put on is what was put on. -/
theorem put_replaced (t : r.Tidy) (hu : r.setup.Renews u on) : (r.replaced u).put = on :=
  added_eq hu.handlers (fun _ hm => (List.mem_filter.1 hm).1) fun h hm =>
    t.not_mem_known (hu.new h (hu.remembered hm)).1

/-- A set-up does not take for its own what others have attached. -/
theorem others_replaced (t : r.Tidy) (hu : r.setup.Renews u on) : u.others = r.setup.others := by
  have hold : ∀ h ∈ r.setup.others, h ∉ u.installed := fun h hm hi =>
    t.not_mem_known (hu.new h hi).1 (Setup.mem_known.2 (.inl (List.mem_filter.1 hm).1))
  have hon : ∀ h ∈ on, h ∈ u.installed := fun h hm => hu.remembered hm
  rw [Setup.others, hu.handlers, List.filter_append, Setup.filter_of_forall_not_mem hold,
    Setup.filter_of_forall_mem hon, List.append_nil]

theorem tidy_replaced (t : r.Tidy) (hu : r.setup.Renews u on) : (r.replaced u).Tidy := by
  have hnew : ∀ h ∈ on, h ∉ r.setup.known := fun h hm =>
    t.not_mem_known (hu.new h (hu.remembered hm)).1
  constructor
  case own => exact (others_replaced t hu).trans t.own
  case put => exact put_replaced t hu ▸ hu.remembered
  case earlier =>
    intro h hm
    show h ∈ u.closed
    rw [hu.closed]
    exact List.mem_append.2 ((List.mem_append.1 hm).imp (t.earlier ·) (t.put ·))
  case working =>
    show ∀ h ∈ u.handlers, h ∉ u.closed
    rw [hu.handlers, hu.closed]
    intro h hm hc
    rcases List.mem_append.1 hm with hm | hm
    · obtain ⟨hm, hi⟩ := List.mem_filter.1 hm
      rcases List.mem_append.1 hc with hc | hc
      · exact t.working h hm hc
      · exact of_decide_eq_true hi hc
    · exact hnew h hm (Setup.mem_known.2 (.inr (List.mem_append.1 hc).symm))
  case distinct =>
    show u.handlers.Nodup
    rw [hu.handlers]
    refine List.nodup_append.2 ⟨t.distinct.sublist List.filter_sublist, hu.distinct, ?_⟩
    rintro h hm _ hm' rfl
    exact hnew h hm' (Setup.mem_known.2 (.inl (List.mem_filter.1 hm).1))
  case numbered =>
    show ∀ h ∈ u.known, h.serial < u.next
    intro h hm
    have hold : h ∈ r.setup.known ∨ h ∈ u.installed := by
      rw [Setup.mem_known, hu.handlers, hu.closed, List.mem_append, List.mem_append] at hm
      rcases hm with (hm | hm) | hm | hm
      · exact .inl (Setup.mem_known.2 (.inl (List.mem_filter.1 hm).1))
      · exact .inr (hu.remembered hm)
      · exact .inr hm
      · exact .inl (Setup.mem_known.2 (.inr hm.symm))
    rcases hold with hm | hm
    · exact Nat.lt_of_lt_of_le (t.numbered h hm) hu.next
    · exact (hu.new h hm).2

theorem tidy_step (t : r.Tidy) (a : Act) : (r.step a).Tidy := by
  cases a with
  | attach sink => exact tidy_attach t sink
  | configure s opens => exact tidy_replaced t (Setup.renews_configure r.setup s opens)
  | breakOff s => exact tidy_replaced t (Setup.renews_breakOff r.setup s)

theorem tidy_after (t : r.Tidy) (acts : List Act) : (r.after acts).Tidy := by
  induction acts generalizing r with
  | nil => exact t
  | cons a acts ih => exact ih (tidy_step t a)

/-! ## Setting up after a run -/

/-- The handlers of others are those that were attached, in their order. -/
theorem own_after (t : r.Tidy) (acts : List Act) :
    (r.after acts).own.map Handler.sink =
      r.own.map Handler.sink ++ acts.filterMap Act.attached? := by
  induction acts generalizing r with
  | nil => exact (List.append_nil _).symm
  | cons a acts ih =>
    have hrest := ih (tidy_step t a)
    cases a with
    | attach sink =>
      rw [own_attach t] at hrest
      simpa [after, Act.attached?] using hrest
    | configure s opens => exact hrest
    | breakOff s => exact hrest

/-- A set-up has replaced the handlers of all set-ups before it, and left alone those of others. -/
structure Replaced (r r' : LogRun) : Prop where
  own : r'.own = r.own
  handlers : r'.setup.handlers = r.own ++ r'.put
  gone : ∀ h ∈ r.earlier ++ r.put, h ∈ r'.setup.closed ∧ h ∉ r'.setup.handlers
  working : ∀ h ∈ r'.setup.handlers, h ∉ r'.setup.closed
  distinct : r'.setup.handlers.Nodup

theorem replaced_replaced (t : r.Tidy) (hu : r.setup.Renews u on) : r.Replaced (r.replaced u) := by
  have t' := tidy_replaced t hu
  constructor
  case own => rfl
  case handlers => rw [put_replaced t hu, ← t.own]; exact hu.handlers
  case gone => exact fun h hm => ⟨t'.earlier hm, fun hon => t'.working h hon (t'.earlier hm)⟩
  case working => exact t'.working
  case distinct => exact t'.distinct

/-- A set-up that breaks off puts nothing on, and takes off all that was put on before. -/
theorem replaced_breakOff (t : r.Tidy) (s : Settings) :
    r.Replaced (r.step (.breakOff s)) ∧ (r.step (.breakOff s)).put = [] :=
  ⟨replaced_replaced t (Setup.renews_breakOff r.setup s),
    put_replaced t (Setup.renews_breakOff r.setup s)⟩

end LogRun

/-- After any run, a set-up leaves the handlers of others as they were attached, and behind them
those that it put on: one for the console, and one for the file if the settings name one that opens.
It remembers just these, and all that were put on before are off and closed. The level is that of
the settings, and no record goes on to the loggers above. Whatever files there are, to set the log
up among them is one of the steps of a run. -/
theorem reconfiguring_replaces (acts : List Act) (s : Settings) (opens : String → Bool) :
    let r := LogRun.after {} acts
    let r' := r.step (.configure s opens)
    r.own.map Handler.sink = .nowhere :: acts.filterMap Act.attached? ∧
      r.Replaced r' ∧
      r'.put.map Handler.sink =
        .console s.logFormat ::
          (s.logFile.filter fun path => path ≠ "" && opens path).toList.map Sink.file ∧
      r'.setup.installed = r'.put ∧
      r'.setup.level = s.logLevel ∧
      r'.setup.propagates = false ∧
      ∀ files, (Journal.configure s ⟨r.setup, files⟩).1.setup = r.setup.act (files.setUp s) := by
  intro r r'
  have t : r.Tidy := LogRun.tidy_after LogRun.tidy_fresh acts
  have hu := Setup.renews_configure r.setup s opens
  have hput : r'.put = Setup.wanted s opens r.setup.next := LogRun.put_replaced t hu
  refine ⟨LogRun.own_after LogRun.tidy_fresh acts, LogRun.replaced_replaced t hu, ?_, hput.symm,
    rfl, rfl, fun files => Journal.setup_configure ⟨r.setup, files⟩ s⟩
  rw [hput]
  exact Setup.wanted_sinks s opens _

-- A file that opens, and then one that does not, with a handler attached in between.
example :
    let r := LogRun.after {}
      [.configure { logFile := some "a.log" } fun _ => true, .attach .nowhere,
        .configure { logFile := some "b.log", logFormat := .json } fun _ => false]
    r.setup.handlers = [⟨0, .nowhere⟩, ⟨3, .nowhere⟩, ⟨4, .console .json⟩] ∧
      r.earlier = [⟨1, .console .text⟩, ⟨2, .file "a.log"⟩] := by decide

end Bearer.Logging
