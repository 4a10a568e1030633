import Mathlib.Data.List.Induction
import Mathlib.Data.List.Perm.Basic
import DeployPlan.Proofs.Document.Request
import DeployPlan.Proofs.Plan.Client

/-!
Clients that share an outbox. Each call is one step, and the steps of the clients follow each other in
any order. Whatever the order, every request gets one record with a number of its
own, and the record of a number holds the request the number was issued for.
-/

namespace DeployPlan

open scoped List

def Outbox.Numbered (o : Outbox) : Prop :=
  o.records.map (·.id) = List.range' 1 o.records.length

structure Sharing where
  outbox : Outbox
  clients : List Client

namespace Sharing

def turn (s : Sharing) (k : Nat) : Sharing :=
  match s.clients[k]? with
  | some c => ⟨(c.turn Outbox.gateway s.outbox).2, s.clients.set k (c.turn Outbox.gateway s.outbox).1⟩
  | none => s

def run (s : Sharing) (schedule : List Nat) : Sharing :=
  schedule.foldl turn s

theorem run_append (s : Sharing) (past later : List Nat) :
    s.run (past ++ later) = (s.run past).run later :=
  List.foldl_append

theorem records_turn (s : Sharing) (k : Nat) :
    s.outbox.records <+: (s.turn k).outbox.records := by
  rw [turn]
  split
  · rename_i c _
    exact c.records_turn s.outbox
  · exact List.prefix_rfl

theorem records_run (s : Sharing) (schedule : List Nat) :
    s.outbox.records <+: (s.run schedule).outbox.records := by
  induction schedule generalizing s with
  | nil => exact List.prefix_rfl
  | cons k schedule ih => exact (s.records_turn k).trans (ih (s.turn k))

def start (before : Outbox) (jobs : List Job) : Sharing :=
  ⟨before, jobs.map Client.ofJob⟩

end Sharing

/-- The numbers issued for the front of a plan rise, and their records hold its requests. -/
structure Filed (records : List SubmittedRequest) (job : Job) (issued : List Nat) : Prop where
  rising : issued.Pairwise (· < ·)
  recorded : ∀ i id, issued[i]? = some id →
    ∃ r, job.plan[i]? = some r ∧ 0 < id ∧ records[id - 1]? = some (job.record i id r)

theorem filed_nil (records : List SubmittedRequest) (job : Job) : Filed records job [] where
  rising := .nil
  recorded := by simp

namespace Filed

variable {records : List SubmittedRequest} {job : Job} {issued : List Nat}

theorem append (filed : Filed records job issued) (more : List SubmittedRequest) :
    Filed (records ++ more) job issued where
  rising := filed.rising
  recorded := by
    intro i id there
    obtain ⟨r, planned, positive, record⟩ := filed.recorded i id there
    exact ⟨r, planned, positive, by
      rw [List.getElem?_append_left (List.getElem?_eq_some_iff.mp record).1, record]⟩

theorem le_length (filed : Filed records job issued) {id : Nat} (member : id ∈ issued) :
    id ≤ records.length := by
  obtain ⟨i, there⟩ := List.mem_iff_getElem?.mp member
  obtain ⟨r, _, positive, record⟩ := filed.recorded i id there
  have inside := (List.getElem?_eq_some_iff.mp record).1
  omega

theorem next (filed : Filed records job issued) {r : DeploymentRequest}
    (planned : job.plan[issued.length]? = some r) :
    Filed (records ++ [job.record issued.length (records.length + 1) r]) job
      (issued ++ [records.length + 1]) where
  rising := by
    refine List.pairwise_append.mpr ⟨filed.rising, List.pairwise_singleton _ _, ?_⟩
    intro a member b last
    rw [List.mem_singleton.mp last]
    exact Nat.lt_succ_of_le (filed.le_length member)
  recorded := by
    intro i id there
    rcases Nat.lt_or_ge i issued.length with old | new
    · rw [List.getElem?_append_left old] at there
      exact (filed.append _).recorded i id there
    · have inside := (List.getElem?_eq_some_iff.mp there).1
      rw [List.length_append, List.length_singleton] at inside
      obtain rfl : i = issued.length := by omega
      rw [List.getElem?_concat_length] at there
      obtain rfl := Option.some.inj there
      exact ⟨r, planned, Nat.succ_pos _, List.getElem?_concat_length⟩

end Filed

theorem set_of_getElem? {α : Type} {l : List α} {k : Nat} {a : α} (there : l[k]? = some a) :
    l.set k a = l := by
  obtain ⟨inside, rfl⟩ := List.getElem?_eq_some_iff.mp there
  exact List.set_getElem_self inside

theorem perm_flatMap_set {α β : Type} {l : List α} {k : Nat} {a a' : α} {f : α → List β} {b : β}
    (there : l[k]? = some a) (grown : f a' = f a ++ [b]) :
    (l.set k a').flatMap f ~ l.flatMap f ++ [b] := by
  obtain ⟨inside, rfl⟩ := List.getElem?_eq_some_iff.mp there
  calc (l.set k a').flatMap f
    _ ~ (a' :: l.eraseIdx k).flatMap f :=
        (List.set_perm_cons_eraseIdx inside a').flatMap_right f
    _ ~ f l[k] ++ [b] ++ (l.eraseIdx k).flatMap f := by rw [List.flatMap_cons, grown]
    _ ~ (l[k] :: l.eraseIdx k).flatMap f ++ [b] := by
        rw [List.flatMap_cons, List.append_assoc, List.append_assoc]
        exact List.perm_append_comm.append_left (f l[k])
    _ ~ l.flatMap f ++ [b] :=
        ((List.getElem_cons_eraseIdx_perm inside).flatMap_right f).append_right [b]

theorem Outbox.Numbered.add {o : Outbox} (numbered : o.Numbered) (job : Job) (i : Nat)
    (r : DeploymentRequest) :
    Outbox.Numbered ⟨o.records ++ [job.record i (o.records.length + 1) r]⟩ := by
  simp only [Outbox.Numbered] at numbered ⊢
  rw [List.map_append, numbered, List.length_append, List.length_singleton, List.range'_1_concat,
    Nat.add_comm 1]
  rfl

/-- How far the clients have come after the turns in `past`. -/
structure Tallied (before : Outbox) (jobs : List Job) (past : List Nat)
    (tally : List (Job × List Nat)) (s : Sharing) : Prop where
  clients : s.clients = tally.map fun (job, issued) => Client.after job issued
  jobs : tally.map Prod.fst = jobs
  numbered : s.outbox.Numbered
  issued : before.records.map (·.id) ++ tally.flatMap Prod.snd ~ s.outbox.records.map (·.id)
  progress : ∀ k job issued, tally[k]? = some (job, issued) →
    issued.length = min (past.count k) job.plan.length
  filed : ∀ entry ∈ tally, Filed s.outbox.records entry.1 entry.2

theorem tallied_start {before : Outbox} (numbered : before.Numbered) (jobs : List Job) :
    Tallied before jobs [] (jobs.map fun job => (job, [])) (.start before jobs) where
  clients := by
    rw [List.map_map]
    rfl
  jobs := by
    rw [List.map_map]
    exact List.map_id jobs
  numbered := numbered
  issued := by
    have nothing : (jobs.map fun job => (job, ([] : List Nat))).flatMap Prod.snd = [] := by
      simp [List.flatMap_map]
    rw [nothing, List.append_nil]
    exact List.Perm.refl _
  progress := by
    intro k job issued there
    obtain ⟨job, _, same⟩ := List.mem_map.mp (List.mem_of_getElem? there)
    cases same
    simp
  filed := by
    rintro entry member
    obtain ⟨job, _, rfl⟩ := List.mem_map.mp member
    exact filed_nil _ job

namespace Tallied

variable {before : Outbox} {jobs : List Job} {past : List Nat} {tally : List (Job × List Nat)}
  {s : Sharing} {k : Nat}

theorem client (tallied : Tallied before jobs past tally s) {job : Job} {issued : List Nat}
    (there : tally[k]? = some (job, issued)) : s.clients[k]? = some (Client.after job issued) := by
  rw [tallied.clients, List.getElem?_map, there]
  rfl

theorem job (tallied : Tallied before jobs past tally s) {entry : Job × List Nat}
    (there : tally[k]? = some entry) : jobs[k]? = some entry.1 := by
  rw [← tallied.jobs, List.getElem?_map, there]
  rfl

theorem turn_idle (tallied : Tallied before jobs past tally s)
    (idle : ∀ job issued, tally[k]? = some (job, issued) → job.plan[issued.length]? = none) :
    Tallied before jobs (past ++ [k]) tally (s.turn k) := by
  -- Nobody has this number, or all of the plan has been sent.
  have unchanged : s.turn k = s := by
    cases there : tally[k]? with
    | none =>
      have nobody : s.clients[k]? = none := by rw [tallied.clients, List.getElem?_map, there]; rfl
      rw [Sharing.turn, nobody]
    | some entry =>
      obtain ⟨job, issued⟩ := entry
      have client := tallied.client there
      rw [Sharing.turn, client]
      simp only [Client.turn_after_all (idle job issued there), set_of_getElem? client]
  rw [unchanged]
  refine { tallied with progress := ?_ }
  intro j job issued there
  have count := tallied.progress j job issued there
  rw [List.count_append, List.count_singleton]
  by_cases same : k = j
  · subst same
    have all := List.getElem?_eq_none_iff.mp (idle job issued there)
    simp only [beq_self_eq_true, if_true]
    omega
  · simpa [same] using count

theorem turn_next (tallied : Tallied before jobs past tally s) {job : Job} {issued : List Nat}
    {r : DeploymentRequest} (there : tally[k]? = some (job, issued))
    (next : job.plan[issued.length]? = some r) :
    Tallied before jobs (past ++ [k])
      (tally.set k (job, issued ++ [s.outbox.records.length + 1])) (s.turn k) := by
  have turned : s.turn k =
      ⟨⟨s.outbox.records ++ [job.record issued.length (s.outbox.records.length + 1) r]⟩,
        s.clients.set k (Client.after job (issued ++ [s.outbox.records.length + 1]))⟩ := by
    rw [Sharing.turn, tallied.client there]
    simp only [Client.turn_after next]
  rw [turned]
  -- Only the row of the client whose turn it is changes, and the outbox grows by its record.
  constructor
  case clients => rw [tallied.clients, List.map_set]
  case jobs => rw [List.map_set, tallied.jobs, set_of_getElem? (tallied.job there)]
  case numbered => exact tallied.numbered.add job issued.length r
  case issued =>
    have grown : (tally.set k (job, issued ++ [s.outbox.records.length + 1])).flatMap Prod.snd ~
        tally.flatMap Prod.snd ++ [s.outbox.records.length + 1] := perm_flatMap_set there rfl
    rw [List.map_append]
    refine (grown.append_left _).trans ?_
    rw [← List.append_assoc]
    exact tallied.issued.append_right _
  case progress =>
    intro j other numbers place
    rw [List.count_append, List.count_singleton]
    by_cases same : k = j
    · subst same
      obtain ⟨inside, _⟩ := List.getElem?_eq_some_iff.mp there
      rw [List.getElem?_set_self inside] at place
      cases place
      have count := tallied.progress k job issued there
      have more := (List.getElem?_eq_some_iff.mp next).1
      simp only [beq_self_eq_true, if_true, List.length_append, List.length_singleton]
      omega
    · rw [List.getElem?_set_ne same] at place
      simpa [same] using tallied.progress j other numbers place
  case filed =>
    intro entry member
    rcases List.mem_or_eq_of_mem_set member with old | rfl
    · exact (tallied.filed entry old).append _
    · exact (tallied.filed _ (List.mem_of_getElem? there)).next next

theorem turn (tallied : Tallied before jobs past tally s) (k : Nat) :
    ∃ tally, Tallied before jobs (past ++ [k]) tally (s.turn k) := by
  by_cases idle : ∀ job issued, tally[k]? = some (job, issued) → job.plan[issued.length]? = none
  · exact ⟨tally, tallied.turn_idle idle⟩
  · push Not at idle
    obtain ⟨job, issued, there, next⟩ := idle
    obtain ⟨r, next⟩ := Option.ne_none_iff_exists'.mp next
    exact ⟨_, tallied.turn_next there next⟩

theorem run {before : Outbox} (numbered : before.Numbered) (jobs : List Job)
    (schedule : List Nat) :
    ∃ tally, Tallied before jobs schedule tally ((Sharing.start before jobs).run schedule) := by
  induction schedule using List.reverseRecOn with
  | nil => exact ⟨_, tallied_start numbered jobs⟩
  | append_singleton past k ih =>
    obtain ⟨tally, tallied⟩ := ih
    rw [Sharing.run_append]
    exact tallied.turn k

theorem length_eq (tallied : Tallied before jobs past tally s)
    (complete : ∀ k job, jobs[k]? = some job → job.plan.length ≤ past.count k)
    {entry : Job × List Nat} (member : entry ∈ tally) :
    entry.2.length = entry.1.plan.length := by
  obtain ⟨k, there⟩ := List.mem_iff_getElem?.mp member
  rw [tallied.progress k entry.1 entry.2 there]
  exact Nat.min_eq_right (complete k entry.1 (tallied.job there))

theorem length_records (tallied : Tallied before jobs past tally s)
    (finished : ∀ entry ∈ tally, entry.2.length = entry.1.plan.length) :
    s.outbox.records.length = before.records.length + (jobs.flatMap (·.plan)).length := by
  have issued : (tally.flatMap Prod.snd).length = (jobs.flatMap (·.plan)).length := by
    rw [List.length_flatMap, List.length_flatMap, ← tallied.jobs, List.map_map]
    exact congrArg List.sum (List.map_congr_left finished)
  have total := tallied.issued.length_eq
  rw [List.length_append, List.length_map, List.length_map, issued] at total
  exact total.symm

theorem issued_perm (tallied : Tallied before jobs past tally s) (numbered : before.Numbered)
    {total : Nat} (length : s.outbox.records.length = before.records.length + total) :
    tally.flatMap Prod.snd ~ List.range' (before.records.length + 1) total := by
  have issued := tallied.issued
  rw [numbered, tallied.numbered, length, ← List.range'_append_1, Nat.add_comm 1] at issued
  exact (List.perm_append_left_iff _).mp issued

end Tallied

/-- Clients that share an outbox are issued, in whatever order their turns come, the numbers behind
those of the records before, each of them once; the record of a number holds the request it was issued
for, and no record changes. -/
theorem Sharing.submissions (before : Outbox) (numbered : before.Numbered) (jobs : List Job)
    (schedule : List Nat)
    (complete : ∀ k job, jobs[k]? = some job → job.plan.length ≤ schedule.count k) :
    let last := (start before jobs).run schedule
    let total := (jobs.flatMap (·.plan)).length
    ∃ ids : List (List Nat),
      last.clients.map (·.result?) = ids.map (fun issued => some (.ok issued)) ∧
      last.outbox.Numbered ∧
      last.outbox.records.length = before.records.length + total ∧
      (∀ earlier later, schedule = earlier ++ later →
        ((start before jobs).run earlier).outbox.records <+: last.outbox.records) ∧
      ids.flatten ~ List.range' (before.records.length + 1) total ∧
      ids.flatten.Nodup ∧
      (∀ issued ∈ ids, issued.Pairwise (· < ·)) ∧
      ids.length = jobs.length ∧
      ∀ (k : Nat) (job : Job) (issued : List Nat), jobs[k]? = some job → ids[k]? = some issued →
        issued.length = job.plan.length ∧
        ∀ (i : Nat) (r : DeploymentRequest) (id : Nat), job.plan[i]? = some r →
          issued[i]? = some id →
            ∃ record, last.outbox.records[id - 1]? = some record ∧ record.id = id ∧
              DeploymentRequest.read record.serialized = .ok r ∧
              record.particulars =
                ⟨r.environment, job.sender, job.time, i, job.plan.length⟩ := by
  intro last total
  -- The tally has the numbers issued to each job; everything else is read off it at the end.
  obtain ⟨tally, tallied⟩ := Tallied.run numbered jobs schedule
  have finished : ∀ entry ∈ tally, entry.2.length = entry.1.plan.length :=
    fun _ member => tallied.length_eq complete member
  have length := tallied.length_records finished
  have perm := tallied.issued_perm numbered length
  have nodup := perm.nodup_iff.mpr List.nodup_range'
  refine ⟨tally.map Prod.snd, ?_, tallied.numbered, length, ?_, perm, nodup, ?_, ?_, ?_⟩
  · rw [tallied.clients, List.map_map, List.map_map]
    exact List.map_congr_left fun entry member =>
      Client.result?_after (Nat.le_of_eq (finished entry member).symm)
  · rintro earlier later rfl
    simp only [last, run_append]
    exact records_run _ later
  · intro issued member
    obtain ⟨entry, there, rfl⟩ := List.mem_map.mp member
    exact (tallied.filed entry there).rising
  · rw [← tallied.jobs, List.length_map, List.length_map]
  · intro k job issued job_there there
    rw [List.getElem?_map] at there
    obtain ⟨entry, place, rfl⟩ := Option.map_eq_some_iff.mp there
    obtain rfl := Option.some.inj ((tallied.job place).symm.trans job_there)
    have member := List.mem_of_getElem? place
    refine ⟨finished entry member, ?_⟩
    intro i r id planned numbered_as
    obtain ⟨request, there, _, record⟩ := (tallied.filed entry member).recorded i id numbered_as
    obtain rfl := Option.some.inj (there.symm.trans planned)
    have read : DeploymentRequest.read request.write = .ok request := by
      rw [DeploymentRequest.read, request.decodeText_write]
      rfl
    exact ⟨_, record, rfl, read, rfl⟩

def takingTurns : List Job :=
  let request (environment : String) : DeploymentRequest :=
    { environment, build := ⟨none, "7", "drop", "Shop", "build/7"⟩ }
  [⟨"nightly", ⟨0, 0⟩, [request "UAT", request "PROD"]⟩, ⟨"release", ⟨60, 0⟩, [request "DEV"]⟩]

theorem Sharing.submissions_in_between :
    let last := (start {} takingTurns).run [0, 1, 0]
    last.clients.map (·.result?) = [some (.ok [1, 3]), some (.ok [2])] ∧
    last.outbox.records.length = 3 ∧
    ∃ record, last.outbox.records[2]? = some record ∧ record.id = 3 ∧
      (∃ r, r.environment = "PROD" ∧ DeploymentRequest.read record.serialized = .ok r) ∧
      record.particulars = ⟨"PROD", "nightly", ⟨0, 0⟩, 1, 2⟩ := by
  intro last
  have complete : ∀ k job, takingTurns[k]? = some job →
      job.plan.length ≤ [0, 1, 0].count k := by
    intro k job there
    match k with
    | 0 => cases there; decide
    | 1 => cases there; decide
    | k + 2 => cases there
  have answered : last.clients.map (·.result?) = [some (.ok [1, 3]), some (.ok [2])] := rfl
  obtain ⟨ids, answers, -, length, -, -, -, -, -, each⟩ :=
    submissions {} rfl takingTurns [0, 1, 0] complete
  obtain rfl : ids = [[1, 3], [2]] := by
    refine List.map_injective_iff.mpr ?_ (answers.symm.trans answered)
    rintro a b ⟨⟩
    rfl
  obtain ⟨-, holds⟩ := each 0 _ _ rfl rfl
  obtain ⟨record, there, numbered, read, particulars⟩ := holds 1 _ 3 rfl rfl
  exact ⟨answered, length, record, there, numbered, ⟨_, rfl, read⟩, particulars⟩

end DeployPlan
