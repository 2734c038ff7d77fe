import CrudQuery.Log.Logger
import Mathlib.Data.List.Induction

/-! # What a logger gives out over its history

A logger merges four settings, each on its own: what is in force is the last level, the last switch,
the last formatter and the last handler that were given, whatever came with them or in between
(`inForce`).  So how a message ends is read off the settings given so far (`Due`), and a message
itself, which gives none, leaves no trace: not even if its line cannot be made.

A request comes with the time at which it is served, which may be invalid for some requests and not
for others.  The shared logger is one that is created without settings, and what is said to it
through a facade is a message under the name of the facade (`SharedFollowsHistory`).
-/

namespace CrudQuery.Log

/-- The severity that a console method is for. -/
def ConsoleMethod.severity : ConsoleMethod → Severity
  | log => .info
  | warn => .warning
  | error => .error
  | debug => .debug

@[simp] theorem ConsoleMethod.severity_ofSeverity (severity : Severity) :
    (ofSeverity severity).severity = severity := by cases severity <;> rfl

/-- The severity of what is given out. -/
def Output.severity : Output → Severity
  | console method _ => method.severity
  | handler _ entry => entry.message.severity

/-- No settings. -/
def Changes.nothing : Changes := ⟨none, none, none, none⟩

/-- Only an invalid time has no standard line. -/
theorem standardLine_eq_none_iff {entry : Entry} :
    standardLine entry = none ↔ entry.timestamp = .invalid := by
  unfold standardLine
  rw [Option.map_eq_none_iff]
  cases entry.timestamp <;> simp [Instant.iso?]

/-- No severity is as high as the level that nothing passes, so that level needs no exception. -/
theorem passes_severity (threshold : Float) (severity : Severity) :
    passes threshold severity.level = Number.le threshold severity.level := by
  have hoff : Number.le off severity.level = false := by cases severity <;> decide +kernel
  unfold passes
  cases hle : Number.le threshold severity.level with
  | false => rw [Bool.and_false]
  | true =>
    rw [Bool.and_true, Bool.not_eq_true']
    by_contra hsame
    rw [Bool.not_eq_false, Number.same, Bool.and_eq_true] at hsame
    rw [Number.le_trans hsame.2 hle] at hoff
    cases hoff

namespace Logger

/-! ## The settings in force -/

/-- The settings that a request gives. -/
def Request.changes : Request → Changes
  | configure changes => changes
  | setLevel level => { Changes.nothing with level? := some level }
  | emit _ | getLevel | isLevelEnabled _ => .nothing

/-- Serving a request changes a logger by the settings it gives, and in no other way. -/
theorem serve_fst (logger : Logger) (now : Instant) (request : Request) :
    (logger.serve now request).1 = logger.configure request.changes := by
  cases request <;> rfl

/-- The last setting of some kind among those given. -/
def latest? {α : Type} (part : Changes → Option α) (given : List Changes) : Option α :=
  (given.filterMap part).getLast?

/-- A logger with the last settings given, and the standard ones where none was. -/
def inForce (given : List Changes) : Logger where
  level := (latest? Changes.level? given).getD Severity.info.level
  console := (latest? Changes.console? given).getD true
  formatter := (latest? Changes.formatter? given).getD standardLine
  handler? := latest? Changes.handler? given

theorem latest?_append_singleton {α : Type} (part : Changes → Option α) (given : List Changes)
    (changes : Changes) :
    latest? part (given ++ [changes]) = (part changes).or (latest? part given) := by
  unfold latest?
  rw [List.filterMap_append, List.getLast?_append]
  cases h : part changes <;> simp [h]

/-- Settings taken over one after another come to the last ones. -/
theorem foldl_configure (given : List Changes) :
    given.foldl configure standard = inForce given := by
  induction given using List.reverseRecOn with
  | nil => rfl
  | append_singleton given changes ih =>
    rw [List.foldl_append, ih, List.foldl_cons, List.foldl_nil]
    simp only [configure, inForce, latest?_append_singleton, Option.getD_or]

/-! ## Runs -/

/-- Serves requests one after another, each at its own time. -/
def replies (logger : Logger) : List (Instant × Request) → List Reply
  | [] => []
  | (now, request) :: rest =>
    (logger.serve now request).2 :: (logger.serve now request).1.replies rest

/-- What is given out in some replies. -/
def Reply.output? : Reply → Option Output
  | emitted (.given output) => some output
  | _ => none

/-- What is given out over a run. -/
def outputs (replies : List Reply) : List Output := replies.filterMap Reply.output?

/-- The settings given to a logger from its creation on. -/
def given (initial : Changes) (requests : List (Instant × Request)) : List Changes :=
  initial :: requests.map fun timed => timed.2.changes

/-- A run under one clock serves every request at the same time. -/
theorem run_eq_replies (logger : Logger) (now : Instant) (requests : List Request) :
    logger.run now requests = logger.replies (requests.map fun request => (now, request)) := by
  induction requests generalizing logger with
  | nil => rfl
  | cons request rest ih =>
    rw [run, List.map_cons, replies, ← ih]

/-- Later requests are served under the settings that earlier ones leave. -/
theorem replies_append (logger : Logger) (earlier later : List (Instant × Request)) :
    logger.replies (earlier ++ later) = logger.replies earlier ++
      ((earlier.map fun timed => timed.2.changes).foldl configure logger).replies later := by
  induction earlier generalizing logger with
  | nil => rfl
  | cons timed rest ih =>
    obtain ⟨now, request⟩ := timed
    rw [List.cons_append, replies, ih, replies, List.cons_append, List.map_cons, List.foldl_cons,
      serve_fst]

theorem replies_created (initial : Changes) (earlier later : List (Instant × Request)) :
    (standard.configure initial).replies (earlier ++ later) =
      (standard.configure initial).replies earlier ++
        (inForce (given initial earlier)).replies later := by
  rw [replies_append, ← foldl_configure, given, List.foldl_cons]

theorem length_replies (logger : Logger) (requests : List (Instant × Request)) :
    (logger.replies requests).length = requests.length := by
  induction requests generalizing logger with
  | nil => rfl
  | cons timed rest ih =>
    obtain ⟨now, request⟩ := timed
    rw [replies, List.length_cons, List.length_cons, ih]

/-! ## How a message ends -/

/-- A message is emitted: the level in force is not the one that nothing passes, and the message is
not below it. -/
structure Emitted (given : List Changes) (message : Message) : Prop where
  on : Number.same (inForce given).level off = false
  reached : Number.le (inForce given).level message.severity.level = true

/-- A message comes to the console: it is emitted, no handler was ever given, and the console is
on. -/
structure Shown (given : List Changes) (message : Message) : Prop where
  emitted : Emitted given message
  unhandled : latest? Changes.handler? given = none
  console : (latest? Changes.console? given).getD true = true

/-- How an entry ends under the settings given so far. -/
inductive Due (given : List Changes) (entry : Entry) : Emission → Prop
  | below (h : ¬ Emitted given entry.message) : Due given entry .silent
  | handled {tag : String} (h : Emitted given entry.message)
      (handler : latest? Changes.handler? given = some tag) :
      Due given entry (.given (.handler tag entry))
  | muted (h : Emitted given entry.message) (unhandled : latest? Changes.handler? given = none)
      (console : (latest? Changes.console? given).getD true = false) : Due given entry .silent
  | shown {line : String} (h : Shown given entry.message)
      (made : (latest? Changes.formatter? given).getD standardLine entry = some line) :
      Due given entry (.given (.console (.ofSeverity entry.message.severity) line))
  | failed (h : Shown given entry.message)
      (made : (latest? Changes.formatter? given).getD standardLine entry = none) :
      Due given entry .failed

theorem isEnabled_inForce_iff {given : List Changes} {message : Message} :
    (inForce given).isEnabled message.severity.level = true ↔ Emitted given message := by
  unfold isEnabled passes
  rw [Bool.and_eq_true, Bool.not_eq_true']
  exact ⟨fun h => ⟨h.1, h.2⟩, fun h => ⟨h.on, h.reached⟩⟩

theorem due_emit (given : List Changes) (now : Instant) (message : Message) :
    Due given ⟨now, message⟩ ((inForce given).emit now message) := by
  unfold emit
  split
  · next henabled =>
    have hemitted := isEnabled_inForce_iff.mp henabled
    cases hhandler : (inForce given).handler? with
    | some tag => exact .handled hemitted hhandler
    | none =>
      simp only
      split
      · next hconsole =>
        have hshown : Shown given message := ⟨hemitted, hhandler, hconsole⟩
        split
        · next line hline => exact .shown hshown hline
        · next hline => exact .failed hshown hline
      · next hconsole => exact .muted hemitted hhandler ((Bool.not_eq_true _).mp hconsole)
  · next hdisabled => exact .below fun h => hdisabled (isEnabled_inForce_iff.mpr h)

/-- There is one way for a message to end. -/
theorem Due.eq_emit {given : List Changes} {now : Instant} {message : Message} {emission : Emission}
    (h : Due given ⟨now, message⟩ emission) : emission = (inForce given).emit now message := by
  unfold emit
  cases h with
  | below hbelow => rw [if_neg fun henabled => hbelow (isEnabled_inForce_iff.mp henabled)]
  | handled hemitted hhandler =>
    rw [if_pos (isEnabled_inForce_iff.mpr hemitted)]
    simp only [inForce, hhandler]
  | muted hemitted hhandler hconsole =>
    rw [if_pos (isEnabled_inForce_iff.mpr hemitted)]
    simp only [inForce, hhandler, hconsole, if_neg Bool.false_ne_true]
  | shown hshown hline =>
    rw [if_pos (isEnabled_inForce_iff.mpr hshown.emitted)]
    simp only [inForce, hshown.unhandled, hshown.console, if_true, hline]
  | failed hshown hnone =>
    rw [if_pos (isEnabled_inForce_iff.mpr hshown.emitted)]
    simp only [inForce, hshown.unhandled, hshown.console, if_true, hnone]

/-- Where every formatter that was given makes a line of every entry, an entry fails only for want
of a valid time, and only on its way to the console in the standard form. -/
theorem due_failed_iff {given : List Changes} {now : Instant} {message : Message}
    {emission : Emission} (h : Due given ⟨now, message⟩ emission)
    (hmade : ∀ formatter ∈ given.filterMap Changes.formatter?, ∀ entry,
      (formatter entry).isSome = true) :
    emission = .failed ↔ Shown given message ∧ latest? Changes.formatter? given = none ∧
      now = .invalid := by
  constructor
  · rintro rfl
    obtain ⟨⟩ | ⟨⟩ | ⟨⟩ | ⟨⟩ | ⟨hshown, hnone⟩ := h
    cases hformatter : latest? Changes.formatter? given with
    | some formatter =>
      have hsome := hmade formatter (List.mem_of_getLast? hformatter) ⟨now, message⟩
      rw [hformatter, Option.getD_some] at hnone
      rw [hnone] at hsome
      cases hsome
    | none =>
      rw [hformatter, Option.getD_none, standardLine_eq_none_iff] at hnone
      exact ⟨hshown, rfl, hnone⟩
  · rintro ⟨hshown, hformatter, rfl⟩
    cases h with
    | below hbelow => exact absurd hshown.emitted hbelow
    | handled _ hhandler => cases hshown.unhandled.symm.trans hhandler
    | muted _ _ hconsole => cases hshown.console.symm.trans hconsole
    | shown _ hline =>
      rw [hformatter, Option.getD_none, standardLine_eq_none_iff.mpr rfl] at hline
      cases hline
    | failed => rfl

/-! ## Raising the level -/

/-- A message keeps its severity on its way out. -/
theorem severity_of_emit {logger : Logger} {now : Instant} {message : Message} {output : Output}
    (h : logger.emit now message = .given output) : output.severity = message.severity := by
  unfold emit at h
  split at h
  · simp only at h
    split at h
    · cases h
      rfl
    · split at h
      · split at h
        · cases h
          exact ConsoleMethod.severity_ofSeverity _
        · cases h
      · cases h
  · cases h

/-- At a higher level a message ends as it did, if it reaches that level, and silently otherwise. -/
theorem emit_raised (logger : Logger) {low high : Float} (h : Number.le low high = true)
    (now : Instant) (message : Message) :
    (logger.setLevel high).emit now message =
      if Number.le high message.severity.level = true then (logger.setLevel low).emit now message
      else .silent := by
  unfold emit isEnabled
  simp only [setLevel, passes_severity]
  split
  · next hhigh =>
    rw [if_pos (Number.le_trans h hhigh)]
    rfl
  · rfl

theorem output?_raised (logger : Logger) {low high : Float} (h : Number.le low high = true)
    (now : Instant) (request : Request) :
    ((logger.setLevel high).serve now request).2.output? =
      ((logger.setLevel low).serve now request).2.output?.filter fun output =>
        Number.le high output.severity.level := by
  cases request with
  | emit message =>
    simp only [serve, emit_raised logger h]
    cases hlow : (logger.setLevel low).emit now message with
    | silent => split <;> rfl
    | failed => split <;> rfl
    | given output =>
      rw [← severity_of_emit hlow]
      split
      · next hhigh => simp [Reply.output?, Option.filter, hhigh]
      · next hbelow => simp [Reply.output?, Option.filter, hbelow]
  | configure _ | setLevel _ | getLevel | isLevelEnabled _ => rfl

/-- Raising the level leaves what is at least at the new level, as long as no request gives
another. -/
theorem outputs_raised (logger : Logger) {low high : Float} (h : Number.le low high = true)
    {requests : List (Instant × Request)}
    (hkept : ∀ timed ∈ requests, timed.2.changes.level? = none) :
    outputs ((logger.setLevel high).replies requests) =
      (outputs ((logger.setLevel low).replies requests)).filter fun output =>
        Number.le high output.severity.level := by
  induction requests generalizing logger with
  | nil => rfl
  | cons timed rest ih =>
    obtain ⟨now, request⟩ := timed
    obtain ⟨hlevel, hrest⟩ := List.forall_mem_cons.mp hkept
    have hserved : ∀ level, ((logger.setLevel level).serve now request).1 =
        (logger.configure request.changes).setLevel level := by
      intro level
      rw [serve_fst]
      simp only [configure, setLevel, hlevel, Option.getD_none]
    have hfirst := output?_raised logger h now request
    have hlast := ih (logger.configure request.changes) hrest
    simp only [outputs] at hlast ⊢
    simp only [replies, hserved, List.filterMap_cons, hfirst]
    cases ((logger.setLevel low).serve now request).2.output? with
    | none => exact hlast
    | some output =>
      cases hout : Number.le high output.severity.level with
      | true => simp [Option.filter, hout, hlast]
      | false => simp [Option.filter, hout, hlast]

/-! ## The whole run -/

/-- What a logger created with some settings does over every run. -/
structure FollowsHistory (initial : Changes) : Prop where
  /-- A run under one clock is among them. -/
  clocked : ∀ now requests, (standard.configure initial).run now requests =
    (standard.configure initial).replies (requests.map fun request => (now, request))
  /-- A message ends as is due under the settings given before it.  If every formatter given makes a
  line of every entry, it fails exactly if it comes to the console in the standard form at an
  invalid time. -/
  emissions : ∀ earlier now message later, ∃ emission,
    ((standard.configure initial).replies
        (earlier ++ (now, .emit message) :: later))[earlier.length]? = some (.emitted emission) ∧
      Due (given initial earlier) ⟨now, message⟩ emission ∧
      ((∀ formatter ∈ (given initial earlier).filterMap Changes.formatter?, ∀ entry,
          (formatter entry).isSome = true) →
        (emission = .failed ↔ Shown (given initial earlier) message ∧
          latest? Changes.formatter? (given initial earlier) = none ∧ now = .invalid))
  /-- A message, whether it fails or not, is without consequence: the other requests are answered
  as they are without it. -/
  traceless : ∀ earlier now message later,
    (standard.configure initial).replies (earlier ++ later) =
      ((standard.configure initial).replies
        (earlier ++ (now, .emit message) :: later)).eraseIdx earlier.length
  /-- A higher level from the start leaves exactly what is at least at that level, if no request
  changes the level. -/
  raised : ∀ low high requests, Number.le low high = true →
    (∀ timed ∈ requests, (timed : Instant × Request).2.changes.level? = none) →
    outputs ((standard.configure { initial with level? := some high }).replies requests) =
      (outputs ((standard.configure { initial with level? := some low }).replies requests)).filter
        fun output => Number.le high output.severity.level

/-- What the shared logger does with what is said through a facade, whatever is asked of it before
and behind, directly or through this facade and others. -/
structure SharedFollowsHistory : Prop where
  /-- Its history is that of a logger created without settings. -/
  created : ∀ requests, shared.replies requests = (standard.configure .nothing).replies requests
  /-- It ends as is due for a message under the name of the facade, and fails as one does. -/
  emissions : ∀ (facade : Facade) earlier now severity text data? later, ∃ emission,
    (shared.replies (earlier ++
        (now, facade.request severity text data?) :: later))[earlier.length]? =
      some (.emitted emission) ∧
      Due (given .nothing earlier) ⟨now, ⟨severity, text, facade.context?, data?⟩⟩ emission ∧
      ((∀ formatter ∈ (given .nothing earlier).filterMap Changes.formatter?, ∀ entry,
          (formatter entry).isSome = true) →
        (emission = .failed ↔
          Shown (given .nothing earlier) ⟨severity, text, facade.context?, data?⟩ ∧
          latest? Changes.formatter? (given .nothing earlier) = none ∧ now = .invalid))
  /-- It is without consequence. -/
  traceless : ∀ (facade : Facade) earlier now severity text data? later,
    shared.replies (earlier ++ later) =
      (shared.replies (earlier ++
        (now, facade.request severity text data?) :: later)).eraseIdx earlier.length

theorem followsHistory_created (initial : Changes) : FollowsHistory initial where
  clocked := run_eq_replies (standard.configure initial)
  emissions earlier now message later := by
    have hdue := due_emit (given initial earlier) now message
    refine ⟨_, ?_, hdue, due_failed_iff hdue⟩
    have hlength := length_replies (standard.configure initial) earlier
    rw [replies_created, ← hlength, List.getElem?_append_right (Nat.le_refl _), Nat.sub_self]
    rfl
  traceless earlier now message later := by
    have hlength := length_replies (standard.configure initial) earlier
    rw [replies_created, replies_created, ← hlength,
      List.eraseIdx_append_of_length_le (Nat.le_refl _), Nat.sub_self]
    rfl
  raised low high requests h hkept := outputs_raised (standard.configure initial) h hkept

/-- A request through a facade is that of a message, and the shared logger has no settings. -/
theorem sharedFollowsHistory_of_created (h : FollowsHistory .nothing) : SharedFollowsHistory where
  created _ := rfl
  emissions facade earlier now severity text data? later :=
    h.emissions earlier now ⟨severity, text, facade.context?, data?⟩ later
  traceless facade earlier now severity text data? later :=
    h.traceless earlier now ⟨severity, text, facade.context?, data?⟩ later

/-- **A logger follows its history**, whatever settings it was created with, and so does the shared
one when it is spoken to through facades. -/
theorem follows_history : (∀ initial, FollowsHistory initial) ∧ SharedFollowsHistory :=
  ⟨followsHistory_created, sharedFollowsHistory_of_created (followsHistory_created .nothing)⟩

/-- At an invalid time a new logger fails to show a message; with a formatter that does without the
time it shows the next one. -/
theorem follows_history_invalid_time :
    let message : Message := ⟨.warning, "late", none, none⟩
    let requests : List (Instant × Request) :=
      [(.invalid, .emit message),
        (.invalid, .configure { Changes.nothing with formatter? := some textLine }),
        (.invalid, .emit message)]
    let answers := (standard.configure .nothing).replies requests
    answers[0]? = some (.emitted .failed) ∧
      answers[2]? = some (.emitted (.given (.console .warn "late"))) := by
  intro message requests answers
  obtain ⟨first, hfirst, -, hfails⟩ :=
    (follows_history.1 .nothing).emissions [] .invalid message (requests.drop 1)
  obtain ⟨last, hlast, hdue, -⟩ :=
    (follows_history.1 .nothing).emissions (requests.take 2) .invalid message []
  have hfailed : first = .failed :=
    (hfails nofun).mpr ⟨⟨⟨by decide +kernel, by decide +kernel⟩, rfl, rfl⟩, rfl, rfl⟩
  have hshown : last = .given (.console .warn "late") := by
    have hline : Due (given .nothing (requests.take 2)) ⟨.invalid, message⟩
        (.given (.console .warn "late")) :=
      .shown ⟨⟨by decide +kernel, by decide +kernel⟩, rfl, rfl⟩ rfl
    exact hdue.eq_emit.trans hline.eq_emit.symm
  exact ⟨hfailed ▸ hfirst, hshown ▸ hlast⟩

end Logger

end CrudQuery.Log
