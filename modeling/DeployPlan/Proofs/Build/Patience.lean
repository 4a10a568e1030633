import DeployPlan.Proofs.Build.Dialogue

/-!
Patience. A caller may wait for each call no longer than a limit, and for no call beyond the instant of
cancellation. The calls of a search follow one another, each with the whole limit to itself; the first
one that does not end in time decides, and up to that one the search goes as it does when nobody gives
it up.
-/

namespace DeployPlan

variable {σ α β : Type}

open BuildService (Question)

theorem Act.run_reported (m : Act σ α) (event : α → Event) (s : σ) :
    ((do let x ← m; Act.report (event x); return x : Act σ α).run s).result = (m.run s).result ∧
      ((do let x ← m; Act.report (event x); return x : Act σ α).run s).state = (m.run s).state := by
  rw [Act.result_bind, Act.state_bind]
  cases (m.run s).result with
  | error e => exact ⟨rfl, rfl⟩
  | ok x => exact ⟨rfl, rfl⟩

theorem Act.run_timed (m : Act (Clocked σ) α) (s : σ) :
    m.timed.run s = ⟨(m.run ⟨s, ⟨0⟩⟩).result, (m.run ⟨s, ⟨0⟩⟩).state.state,
      (m.run ⟨s, ⟨0⟩⟩).events⟩ := rfl

/-! Observed calls -/

structure CallNote where
  question : Question
  duration : Duration
  failure : Option Failure

def failureOf : Except Failure α → Option Failure
  | .ok _ => none
  | .error e => some e

def Call.note (question : Question) (call : Call σ α) (s : σ) : CallNote :=
  ⟨question, (call s).duration, failureOf (call s).outcome.result⟩

def Call.observed (question : Question) (call : Call σ α) : Call (σ × List CallNote) α := fun s =>
  let reply := call s.1
  ⟨reply.duration, ⟨reply.outcome.result, (reply.outcome.state, s.2 ++ [call.note question s.1]),
    reply.outcome.events⟩⟩

def BuildService.observed (service : BuildService σ) : BuildService (σ × List CallNote) where
  definitions url scopes filter :=
    (service.definitions url scopes filter).observed (.definitions url scopes filter)
  builds url definitions := (service.builds url definitions).observed (.builds url definitions)
  artifacts url project build :=
    (service.artifacts url project build).observed (.artifacts url project build)

def Clocked.unobserved (s : Clocked (σ × List CallNote)) : Clocked σ :=
  ⟨s.state.1, s.now⟩

@[simp] theorem Clocked.state_unobserved (s : Clocked (σ × List CallNote)) :
    s.unobserved.state = s.state.1 := rfl

/-- The observed work does the same, whatever has been noted before. -/
def Act.Observes (observed : Act (Clocked (σ × List CallNote)) α) (m : Act (Clocked σ) α) : Prop :=
  ∀ s, (observed.run s).result = (m.run s.unobserved).result ∧
    (observed.run s).state.unobserved = (m.run s.unobserved).state

namespace Act.Observes

theorem pure (a : α) :
    (Pure.pure a : Act (Clocked (σ × List CallNote)) α).Observes (Pure.pure a) := by
  intro s
  exact ⟨rfl, rfl⟩

theorem ofExcept (r : Except Failure α) :
    (Act.ofExcept r : Act (Clocked (σ × List CallNote)) α).Observes (Act.ofExcept r) := by
  intro s
  simp only [result_ofExcept, state_ofExcept, and_self]

theorem await (w : Patience) (question : Question) (call : Call σ α) :
    (w.await (call.observed question)).Observes (w.await call) := by
  intro s
  have clock : s.unobserved.now = s.now := rfl
  simp only [Act.run, Patience.await, clock]
  split
  · exact ⟨rfl, rfl⟩
  · exact ⟨rfl, rfl⟩

theorem bind {observed : Act (Clocked (σ × List CallNote)) α} {m : Act (Clocked σ) α}
    {next' : α → Act (Clocked (σ × List CallNote)) β} {next : α → Act (Clocked σ) β}
    (first : observed.Observes m) (rest : ∀ a, (next' a).Observes (next a)) :
    (observed >>= next').Observes (m >>= next) := by
  intro s
  obtain ⟨same, left⟩ := first s
  rw [result_bind, result_bind, state_bind, state_bind, same, ← left]
  cases (m.run s.unobserved).result with
  | error e => exact ⟨rfl, rfl⟩
  | ok a => exact rest a (observed.run s).state

end Act.Observes

/-! Calls in time -/

/-- The instant at which these calls have ended, when each is made at the end of the one before it. -/
def endOf (start : Duration) (calls : List CallNote) : Duration :=
  calls.foldl (fun now call => now.add call.duration) start

def CallNote.InTime (w : Patience) (start : Duration) (call : CallNote) : Prop :=
  (∀ limit, w.limit = some limit → call.duration.nanos ≤ limit.nanos) ∧
    ∀ instant, w.cancelAt = some instant → (start.add call.duration).nanos < instant.nanos

def AllInTime (w : Patience) : Duration → List CallNote → Prop
  | _, [] => True
  | start, call :: rest => call.InTime w start ∧ AllInTime w (start.add call.duration) rest

/-- The first call that does not end in time is given up: the calls that were made up to then, and how
the work ends. A call that is reached after the cancellation is not made. -/
inductive GivenUp (w : Patience) (start : Duration) (calls : List CallNote) :
    List CallNote → Failure → Prop
  | unmade {before after : List CallNote} {call : CallNote} {instant : Duration}
      (split : calls = before ++ call :: after) (earlier : AllInTime w start before)
      (fires : w.cancelAt = some instant)
      (first : instant.nanos ≤ (endOf start before).nanos) :
      GivenUp w start calls before .cancelled
  | cancelled {before after : List CallNote} {call : CallNote} {instant : Duration}
      (split : calls = before ++ call :: after) (earlier : AllInTime w start before)
      (fires : w.cancelAt = some instant)
      (later : (endOf start before).nanos < instant.nanos)
      (first : instant.nanos ≤ ((endOf start before).add (call.duration.upTo w.limit)).nanos) :
      GivenUp w start calls (before ++ [call]) .cancelled
  | timedOut {before after : List CallNote} {call : CallNote} {limit : Duration}
      (split : calls = before ++ call :: after) (earlier : AllInTime w start before)
      (bounded : w.limit = some limit) (late : limit.nanos < call.duration.nanos)
      (waiting : ∀ instant, w.cancelAt = some instant →
        ((endOf start before).add limit).nanos < instant.nanos) :
      GivenUp w start calls (before ++ [call]) (.timeout limit)

/-- How work ends that makes these calls and has the result `whole` when nobody gives it up: the calls
that are made, and the result. -/
inductive EndsFor (w : Patience) (calls : List CallNote) (whole : Except Failure α) :
    List CallNote → Except Failure α → Prop
  | undisturbed (inTime : AllInTime w ⟨0⟩ calls) : EndsFor w calls whole calls whole
  | givenUp {made : List CallNote} {e : Failure} (given : GivenUp w ⟨0⟩ calls made e) :
      EndsFor w calls whole made (.error e)

theorem endOf_append (start : Duration) (calls more : List CallNote) :
    endOf start (calls ++ more) = endOf (endOf start calls) more :=
  List.foldl_append

theorem allInTime_append {w : Patience} {start : Duration} {calls more : List CallNote} :
    AllInTime w start (calls ++ more) ↔
      AllInTime w start calls ∧ AllInTime w (endOf start calls) more := by
  induction calls generalizing start with
  | nil => simp [AllInTime, endOf]
  | cons call calls ih =>
    rw [List.cons_append, AllInTime, AllInTime, ih, and_assoc]
    rfl

namespace GivenUp

variable {w : Patience} {start : Duration} {calls made : List CallNote} {e : Failure}

theorem append (given : GivenUp w start calls made e) (more : List CallNote) :
    GivenUp w start (calls ++ more) made e := by
  have longer {before after : List CallNote} {call : CallNote}
      (split : calls = before ++ call :: after) :
      calls ++ more = before ++ call :: (after ++ more) := by
    rw [split, List.append_assoc, List.cons_append]
  cases given with
  | unmade split earlier fires first => exact .unmade (longer split) earlier fires first
  | cancelled split earlier fires later first =>
    exact .cancelled (longer split) earlier fires later first
  | timedOut split earlier bounded late waiting =>
    exact .timedOut (longer split) earlier bounded late waiting

theorem prepend {passed : List CallNote} (inTime : AllInTime w start passed)
    (given : GivenUp w (endOf start passed) calls made e) :
    GivenUp w start (passed ++ calls) (passed ++ made) e := by
  have longer {before after : List CallNote} {call : CallNote}
      (split : calls = before ++ call :: after) :
      passed ++ calls = passed ++ before ++ call :: after := by
    rw [split, List.append_assoc]
  cases given with
  | unmade split earlier fires first =>
    rw [← endOf_append] at first
    exact .unmade (longer split) (allInTime_append.mpr ⟨inTime, earlier⟩) fires first
  | cancelled split earlier fires later first =>
    rw [← endOf_append] at later first
    rw [← List.append_assoc]
    exact .cancelled (longer split) (allInTime_append.mpr ⟨inTime, earlier⟩) fires later first
  | timedOut split earlier bounded late waiting =>
    rw [← endOf_append] at waiting
    rw [← List.append_assoc]
    exact .timedOut (longer split) (allInTime_append.mpr ⟨inTime, earlier⟩) bounded late waiting

end GivenUp

/-! Waiting for one call -/

namespace Patience

variable {w : Patience}

theorem isOver_iff {time : Duration} :
    w.isOver time = true ↔ ∃ instant, w.cancelAt = some instant ∧ instant.nanos ≤ time.nanos := by
  simp [isOver, Option.any_eq_true]

theorem lt_of_not_isOver {time instant : Duration} (waiting : ¬ w.isOver time = true)
    (fires : w.cancelAt = some instant) : time.nanos < instant.nanos := by
  by_contra early
  exact waiting (isOver_iff.mpr ⟨instant, fires, Nat.le_of_not_lt early⟩)

theorem run_await_of_isOver {call : Call σ α} {s : Clocked σ} (cancelled : w.isOver s.now = true) :
    (w.await call).run s = ⟨.error .cancelled, s, []⟩ := by
  rw [Act.run, await, if_pos cancelled]

theorem run_await {call : Call σ α} {s : Clocked σ} (waiting : ¬ w.isOver s.now = true) :
    let finish := s.now.add ((call s.state).duration.upTo w.limit)
    (w.await call).run s =
      ⟨if w.isOver finish then .error .cancelled
        else match w.limit with
          | some limit =>
            if limit.nanos < (call s.state).duration.nanos then .error (.timeout limit)
            else (call s.state).outcome.result
          | none => (call s.state).outcome.result,
        ⟨(call s.state).outcome.state, finish⟩, (call s.state).outcome.events⟩ := by
  intro finish
  rw [Act.run, await]
  exact if_neg waiting

end Patience

theorem Duration.upTo_of_le {d limit : Duration} (short : d.nanos ≤ limit.nanos) :
    d.upTo (some limit) = d := by
  rw [upTo, if_pos short]

theorem Duration.upTo_of_lt {d limit : Duration} (long : limit.nanos < d.nanos) :
    d.upTo (some limit) = limit := by
  rw [upTo, if_neg (Nat.not_le_of_lt long)]

/-! Work in calls -/

/-- No call is made after a failed one, and its failure is that of the work. -/
def StopsAtFailure (calls : List CallNote) (result : Except Failure α) : Prop :=
  (∀ call ∈ calls.dropLast, call.failure = none) ∧
    ∀ call ∈ calls, ∀ e, call.failure = some e → result = .error e

/-- Work that makes these calls when nobody gives it up, and then has the result `whole` and leaves the
state `t`. In other hands it does the same, or it is given up at a call that is not in time. -/
def Endures (work : Patience → Act (Clocked (σ × List CallNote)) α)
    (s : Clocked (σ × List CallNote)) (calls : List CallNote) (whole : Except Failure α) (t : σ) :
    Prop :=
  ∀ w, (AllInTime w s.now calls ∧ ((work w).run s).result = whole ∧
      ((work w).run s).state = ⟨(t, s.state.2 ++ calls), endOf s.now calls⟩) ∨
    ∃ made e, GivenUp w s.now calls made e ∧ ((work w).run s).result = .error e ∧
      ((work w).run s).state.state.2 = s.state.2 ++ made

namespace Endures

variable {work : Patience → Act (Clocked (σ × List CallNote)) α}
  {next : Patience → α → Act (Clocked (σ × List CallNote)) β}
  {s : Clocked (σ × List CallNote)} {calls more : List CallNote}

theorem ofExcept (r : Except Failure α) (s : Clocked (σ × List CallNote)) :
    Endures (fun _ => Act.ofExcept r) s [] r s.state.1 := by
  intro w
  refine .inl ⟨trivial, Act.result_ofExcept r s, ?_⟩
  rw [Act.state_ofExcept, List.append_nil]
  rfl

theorem await (question : Question) (call : Call σ α) (s : Clocked (σ × List CallNote)) :
    Endures (fun w => w.await (call.observed question)) s [call.note question s.state.1]
      (call s.state.1).outcome.result (call s.state.1).outcome.state := by
  intro w
  let note := call.note question s.state.1
  have alone : [note] = [] ++ note :: [] := rfl
  -- Cancelled before the call, cancelled during it, cut off by the limit, or in time.
  by_cases cancelled : w.isOver s.now = true
  · obtain ⟨instant, fires, early⟩ := Patience.isOver_iff.mp cancelled
    have given : GivenUp w s.now [note] [] .cancelled := .unmade alone trivial fires early
    rw [Patience.run_await_of_isOver cancelled]
    exact .inr ⟨[], _, given, rfl, (List.append_nil _).symm⟩
  rw [Patience.run_await cancelled]
  by_cases cut : w.isOver (s.now.add (note.duration.upTo w.limit)) = true
  · obtain ⟨instant, fires, late⟩ := Patience.isOver_iff.mp cut
    have later := Patience.lt_of_not_isOver cancelled fires
    have given : GivenUp w s.now [note] [note] .cancelled :=
      .cancelled alone trivial fires later late
    exact .inr ⟨_, _, given, if_pos cut, rfl⟩
  have waiting : ∀ instant, w.cancelAt = some instant →
      (s.now.add (note.duration.upTo w.limit)).nanos < instant.nanos :=
    fun instant => Patience.lt_of_not_isOver cut
  obtain ⟨limit?, cancelAt⟩ := w
  cases limit? with
  | none => exact .inl ⟨⟨⟨nofun, waiting⟩, trivial⟩, if_neg cut, rfl⟩
  | some limit =>
    by_cases long : limit.nanos < note.duration.nanos
    · rw [Duration.upTo_of_lt long] at waiting
      have given : GivenUp ⟨some limit, cancelAt⟩ s.now [note] [note] (.timeout limit) :=
        .timedOut alone trivial rfl long waiting
      exact .inr ⟨_, _, given, (if_neg cut).trans (if_pos long), rfl⟩
    · have short := Nat.le_of_not_lt long
      rw [Duration.upTo_of_le short] at waiting
      have inTime : note.InTime ⟨some limit, cancelAt⟩ s.now := by
        refine ⟨?_, waiting⟩
        rintro bound ⟨⟩
        exact short
      refine .inl ⟨⟨inTime, trivial⟩, (if_neg cut).trans (if_neg long), ?_⟩
      have clock : s.now.add (note.duration.upTo (some limit)) = endOf s.now [note] := by
        rw [Duration.upTo_of_le short]
        rfl
      exact congrArg (Clocked.mk _) clock

theorem bind_error {e : Failure} {t : σ} (first : Endures work s calls (.error e) t) :
    Endures (fun w => work w >>= next w) s calls (.error e : Except Failure β) t := by
  intro w
  rw [Act.result_bind, Act.state_bind]
  rcases first w with ⟨inTime, ended, left⟩ | ⟨made, f, given, ended, noted⟩
  · rw [ended]
    exact .inl ⟨inTime, rfl, left⟩
  · rw [ended]
    exact .inr ⟨made, f, given, rfl, noted⟩

theorem bind {a : α} {t u : σ} {whole : Except Failure β} (first : Endures work s calls (.ok a) t)
    (rest : Endures (fun w => next w a) ⟨(t, s.state.2 ++ calls), endOf s.now calls⟩ more whole u) :
    Endures (fun w => work w >>= next w) s (calls ++ more) whole u := by
  intro w
  rw [Act.result_bind, Act.state_bind]
  rcases first w with ⟨inTime, ended, left⟩ | ⟨made, f, given, ended, noted⟩
  · rw [ended, left]
    rcases rest w with ⟨later, ended, left⟩ | ⟨made, f, given, ended, noted⟩
    · refine .inl ⟨allInTime_append.mpr ⟨inTime, later⟩, ended, ?_⟩
      rw [endOf_append, ← List.append_assoc]
      exact left
    · refine .inr ⟨calls ++ made, f, given.prepend inTime, ended, ?_⟩
      rw [← List.append_assoc]
      exact noted
  · rw [ended]
    exact .inr ⟨made, f, given.append more, rfl, noted⟩

theorem unlimited {whole : Except Failure α} {t : σ} (endures : Endures work s calls whole t) :
    ((work ⟨none, none⟩).run s).result = whole ∧
      ((work ⟨none, none⟩).run s).state = ⟨(t, s.state.2 ++ calls), endOf s.now calls⟩ := by
  rcases endures ⟨none, none⟩ with ⟨-, ended, left⟩ | ⟨made, e, given, -, -⟩
  · exact ⟨ended, left⟩
  · cases given with
    | unmade _ _ fires _ => cases fires
    | cancelled _ _ fires _ _ => cases fires
    | timedOut _ _ bounded _ _ => cases bounded

theorem endsFor {whole : Except Failure α} {start t : σ}
    (endures : Endures work ⟨(start, []), ⟨0⟩⟩ calls whole t) (w : Patience) :
    EndsFor w calls whole ((work w).run ⟨(start, []), ⟨0⟩⟩).state.state.2
      ((work w).run ⟨(start, []), ⟨0⟩⟩).result := by
  rcases endures w with ⟨inTime, ended, left⟩ | ⟨made, e, given, ended, noted⟩
  · rw [ended, left]
    exact .undisturbed inTime
  · rw [ended, noted]
    exact .givenUp given

end Endures

namespace StopsAtFailure

variable {calls more : List CallNote}

theorem nil (result : Except Failure α) : StopsAtFailure [] result :=
  ⟨fun _ member => absurd member List.not_mem_nil, fun _ member => absurd member List.not_mem_nil⟩

theorem note (question : Question) (call : Call σ α) (s : σ) :
    StopsAtFailure [call.note question s] (call s).outcome.result := by
  refine ⟨fun _ member => absurd member List.not_mem_nil, ?_⟩
  intro note member e failed
  cases List.mem_singleton.mp member
  change failureOf (call s).outcome.result = some e at failed
  cases ended : (call s).outcome.result with
  | ok a =>
    rw [ended] at failed
    cases failed
  | error f =>
    rw [ended] at failed
    cases failed
    rfl

theorem of_error {e : Failure} (stops : StopsAtFailure calls (.error e : Except Failure α)) :
    StopsAtFailure calls (.error e : Except Failure β) := by
  refine ⟨stops.1, ?_⟩
  intro call member f failed
  cases stops.2 call member f failed
  rfl

theorem append {a : α} {result : Except Failure β} (first : StopsAtFailure calls (.ok a))
    (rest : StopsAtFailure more result) : StopsAtFailure (calls ++ more) result := by
  -- The calls in front were all answered, so none of them has to be the last.
  have answered : ∀ call ∈ calls, call.failure = none := by
    intro call member
    cases failed : call.failure with
    | none => rfl
    | some e => cases first.2 call member e failed
  constructor
  · intro call member
    by_cases ends : more = []
    · subst ends
      rw [List.append_nil] at member
      exact first.1 call member
    · rw [List.dropLast_append_of_ne_nil ends] at member
      rcases List.mem_append.mp member with earlier | later
      · exact answered call earlier
      · exact rest.1 call later
  · intro call member e failed
    rcases List.mem_append.mp member with earlier | later
    · rw [answered call earlier] at failed
      cases failed
    · exact rest.2 call later e failed

end StopsAtFailure

def InCalls (work : Patience → Act (Clocked (σ × List CallNote)) α) : Prop :=
  ∀ s, ∃ calls whole t, StopsAtFailure calls whole ∧ Endures work s calls whole t

namespace InCalls

theorem ofExcept (r : Except Failure α) :
    InCalls fun _ => (Act.ofExcept r : Act (Clocked (σ × List CallNote)) α) :=
  fun s => ⟨[], r, s.state.1, .nil r, .ofExcept r s⟩

theorem await (question : Question) (call : Call σ α) :
    InCalls fun w => w.await (call.observed question) :=
  fun s => ⟨_, _, _, .note question call s.state.1, .await question call s⟩

theorem bind {work : Patience → Act (Clocked (σ × List CallNote)) α}
    {next : Patience → α → Act (Clocked (σ × List CallNote)) β} (first : InCalls work)
    (rest : ∀ a, InCalls fun w => next w a) : InCalls fun w => work w >>= next w := by
  intro s
  obtain ⟨calls, answer, t, stops, endures⟩ := first s
  cases answer with
  | error e => exact ⟨calls, .error e, t, stops.of_error, endures.bind_error⟩
  | ok a =>
    obtain ⟨more, whole, u, later, goes_on⟩ := rest a ⟨(t, s.state.2 ++ calls), endOf s.now calls⟩
    exact ⟨calls ++ more, whole, u, stops.append later, endures.bind goes_on⟩

end InCalls

/-! Searches -/

namespace Resolver

variable (service : BuildService σ) (limit : Option Duration) (a : ArtifactSettings)

theorem findDefinition_inCalls (url : Url) (label : String) :
    InCalls fun w =>
      (⟨service.observed, limit⟩ : Resolver (σ × List CallNote)).findDefinition w url a label := by
  refine .bind (.ofExcept _) fun (_, _) => .bind (.ofExcept _) fun _ => ?_
  exact .bind (.await _ _) fun _ => .ofExcept _

theorem resolveRemote_inCalls (ref : BuildReference) :
    InCalls fun w =>
      (⟨service.observed, limit⟩ : Resolver (σ × List CallNote)).resolveRemote w a ref := by
  refine .bind (.ofExcept _) fun _ => .bind (findDefinition_inCalls service limit a _ _) fun _ => ?_
  refine .bind (.await _ _) fun _ => .bind (.ofExcept _) fun _ => ?_
  exact .bind (.await _ _) fun _ => .bind (.ofExcept _) fun _ => .ofExcept (.ok _)

theorem findDefinition_observes (w : Patience) (url : Url) (label : String) :
    ((⟨service.observed, limit⟩ : Resolver (σ × List CallNote)).findDefinition w url a
      label).Observes ((⟨service, limit⟩ : Resolver σ).findDefinition w url a label) := by
  refine .bind (.ofExcept _) fun (_, _) => .bind (.ofExcept _) fun _ => ?_
  exact .bind (.await _ _ _) fun _ => .ofExcept _

theorem resolveRemote_observes (w : Patience) (ref : BuildReference) :
    ((⟨service.observed, limit⟩ : Resolver (σ × List CallNote)).resolveRemote w a ref).Observes
      ((⟨service, limit⟩ : Resolver σ).resolveRemote w a ref) := by
  refine .bind (.ofExcept _) fun _ => .bind (findDefinition_observes service limit a w _ _) fun _ => ?_
  refine .bind (.await _ _ _) fun _ => .bind (.ofExcept _) fun _ => ?_
  exact .bind (.await _ _ _) fun _ => .bind (.ofExcept _) fun _ => .pure _

def outcome (service : BuildService σ) (limit cancelAt : Option Duration) (a : ArtifactSettings)
    (ref : BuildReference) (s : σ) : Outcome σ BuildDetail :=
  ((⟨service, limit⟩ : Resolver σ).resolveUntil cancelAt a ref).run s

theorem outcome_remote {a : ArtifactSettings} (remote : a.source = .buildSystem)
    (cancelAt : Option Duration) (ref : BuildReference) (s : σ) :
    (outcome service limit cancelAt a ref s).result =
        (((⟨service, limit⟩ : Resolver σ).resolveRemote ⟨limit, cancelAt⟩ a ref).run ⟨s, ⟨0⟩⟩).result ∧
      (outcome service limit cancelAt a ref s).state =
        (((⟨service, limit⟩ : Resolver σ).resolveRemote ⟨limit, cancelAt⟩ a ref).run
          ⟨s, ⟨0⟩⟩).state.state := by
  obtain ⟨result, state⟩ := Act.run_reported
    ((⟨service, limit⟩ : Resolver σ).resolveRemote ⟨limit, cancelAt⟩ a ref).timed
    (fun detail => .resolved detail.buildNumber detail.dropLocation) s
  rw [outcome, resolveUntil_of_buildSystem _ remote, patience, result, state]
  simp only [Act.run_timed, and_self]

theorem outcome_local {a : ArtifactSettings} {detail : BuildDetail} (ref : BuildReference)
    (here : a.source = .fileShare ∧ detail = ref.onFileShare ∨
      a.source = .folder ∧ detail = ref.asFolder) (cancelAt : Option Duration) (s : σ) :
    outcome service limit cancelAt a ref s =
      ⟨.ok detail, s, [.resolved detail.buildNumber detail.dropLocation]⟩ := by
  unfold outcome resolveUntil
  rcases here with ⟨source, rfl⟩ | ⟨source, rfl⟩
  · simp only [source]
    rfl
  · simp only [source]
    rfl

theorem outcome_observed {a : ArtifactSettings} (remote : a.source = .buildSystem)
    (cancelAt : Option Duration) (ref : BuildReference) (s : σ) :
    (outcome service.observed limit cancelAt a ref (s, [])).result =
        (outcome service limit cancelAt a ref s).result ∧
      (outcome service.observed limit cancelAt a ref (s, [])).state.1 =
        (outcome service limit cancelAt a ref s).state := by
  obtain ⟨noted, kept⟩ := outcome_remote service.observed limit remote cancelAt ref (s, [])
  obtain ⟨ended, left⟩ := outcome_remote service limit remote cancelAt ref s
  obtain ⟨same, after⟩ := resolveRemote_observes service limit a ⟨limit, cancelAt⟩ ref ⟨(s, []), ⟨0⟩⟩
  have start : Clocked.unobserved ⟨(s, ([] : List CallNote)), ⟨0⟩⟩ = ⟨s, ⟨0⟩⟩ := rfl
  rw [start] at same after
  rw [noted, kept, ended, left, ← after, same, Clocked.state_unobserved]
  simp only [and_self]

theorem resolveRemote_limit (w : Patience) (ref : BuildReference) :
    (⟨service, limit⟩ : Resolver σ).resolveRemote w a ref =
      (⟨service, none⟩ : Resolver σ).resolveRemote w a ref := by
  unfold resolveRemote findDefinition
  rfl

/-- A search at a build system makes its calls one after another and stops at a failure. When all of
them end in time, it ends as without a limit and cancellation; otherwise it is given up at the first
one that does not. Anything else is resolved without a call and without a look at the clock. -/
theorem resolve_patience (a : ArtifactSettings) (ref : BuildReference) (s : σ)
    (cancelAt : Option Duration) :
    match a.source with
    | .buildSystem =>
      let calls := (outcome service.observed none none a ref (s, [])).state.2
      (outcome service.observed limit cancelAt a ref (s, [])).result =
          (outcome service limit cancelAt a ref s).result ∧
        (outcome service.observed limit cancelAt a ref (s, [])).state.1 =
          (outcome service limit cancelAt a ref s).state ∧
        StopsAtFailure calls (outcome service none none a ref s).result ∧
        EndsFor ⟨limit, cancelAt⟩ calls (outcome service none none a ref s).result
          (outcome service.observed limit cancelAt a ref (s, [])).state.2
          (outcome service limit cancelAt a ref s).result
    | .fileShare =>
      outcome service limit cancelAt a ref s = ⟨.ok ref.onFileShare, s,
        [.resolved ref.onFileShare.buildNumber ref.locator]⟩
    | .folder =>
      outcome service limit cancelAt a ref s = ⟨.ok ref.asFolder, s, [.resolved "" ref.locator]⟩ := by
  split
  · rename_i remote
    intro calls
    obtain ⟨same, kept⟩ := outcome_observed service limit remote cancelAt ref s
    obtain ⟨sameWhole, -⟩ := outcome_observed service none remote none ref s
    obtain ⟨result, left⟩ := outcome_remote service.observed none remote none ref (s, [])
    obtain ⟨result', left'⟩ := outcome_remote service.observed limit remote cancelAt ref (s, [])
    obtain ⟨made, whole, t, stops, endures⟩ := resolveRemote_inCalls service none a ref ⟨(s, []), ⟨0⟩⟩
    have ends := endures.endsFor ⟨limit, cancelAt⟩
    obtain ⟨ended, noted⟩ := endures.unlimited
    -- the search and its calls when nobody gives it up
    have wholeResult : (outcome service none none a ref s).result = whole := by
      rw [← sameWhole, result, ended]
    have wholeCalls : calls = made := by
      unfold calls
      rw [left, noted, List.nil_append]
    rw [← resolveRemote_limit service.observed limit, ← result', ← left', same] at ends
    rw [wholeResult, wholeCalls]
    exact ⟨same, kept, stops, ends⟩
  · rename_i share
    exact outcome_local service limit ref (.inl ⟨share, rfl⟩) cancelAt s
  · rename_i folder
    exact outcome_local service limit ref (.inr ⟨folder, rfl⟩) cancelAt s

def slowing : ScriptedBuilds where
  script := { published.script with delays := [.ofMillis 10, .ofMillis 20, .ofMillis 40] }

theorem resolve_patience_slowing :
    mainCollection.source = .buildSystem ∧
    ∃ (calls made : List CallNote) (detail : BuildDetail), calls.length = 3 ∧ made.length = 3 ∧
      EndsFor ⟨some (.ofMillis 30), some (.ofMillis 50)⟩ calls (.ok detail) made
        (.error .cancelled) := by
  let ref : BuildReference := ⟨"Payments; CI", "vstfs:981"⟩
  have given := resolve_patience ScriptedBuilds.service (some (.ofMillis 30)) mainCollection ref slowing
    (some (.ofMillis 50))
  simp only [mainCollection_remote] at given
  obtain ⟨-, -, -, ends⟩ := given
  have whole : (outcome ScriptedBuilds.service none none mainCollection ref slowing).result =
      .ok ⟨some 981, "1.2", "https://tfs/drop", "Payments", "vstfs:981"⟩ := by decide +kernel
  have cancelled : (outcome ScriptedBuilds.service (some (.ofMillis 30)) (some (.ofMillis 50))
      mainCollection ref slowing).result = .error .cancelled := by decide +kernel
  rw [whole, cancelled] at ends
  exact ⟨mainCollection_remote, _, _, _, by decide +kernel, by decide +kernel, ends⟩

end Resolver

end DeployPlan
