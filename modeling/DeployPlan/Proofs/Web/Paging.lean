import Mathlib
import DeployPlan.Proofs.Build.Failures

/-!
Lists of several pages. Each page may hand out the token of the next one, and the list ends with a
page that hands out none. A page that hands out the token it was asked with ends it too, with a
failure. If the tokens come back in a longer circle, nothing notices, and the list never ends.
-/

namespace DeployPlan

open Json (Decoder)

variable {σ α β : Type}

def Outcome.after (events : List Event) (o : Outcome σ α) : Outcome σ α :=
  ⟨o.result, o.state, events ++ o.events⟩

theorem Outcome.after_pure (events : List Event) (a : α) (s : σ) :
    ((return a : Act σ α).run s).after events = ⟨.ok a, s, events⟩ := by
  change Outcome.mk _ _ (events ++ []) = _
  rw [List.append_nil]
  rfl

theorem Outcome.after_fail (events : List Event) (e : Failure) (s : σ) :
    ((Act.fail e : Act σ α).run s).after events = ⟨.error e, s, events⟩ := by
  change Outcome.mk _ _ (events ++ []) = _
  rw [List.append_nil]
  rfl

theorem Act.run_bind_ok {m : Act σ α} {s : σ} {a : α} (first : (m.run s).result = .ok a)
    (f : α → Act σ β) :
    (m >>= f).run s = ((f a).run (m.run s).state).after (m.run s).events := by
  change Act.bind m f s = _
  rw [Act.bind]
  rw [Act.run] at first
  simp only [first]
  rfl

theorem Act.run_bind_error {m : Act σ α} {s : σ} {e : Failure} (first : (m.run s).result = .error e)
    (f : α → Act σ β) :
    (m >>= f).run s = ⟨.error e, (m.run s).state, (m.run s).events⟩ := by
  change Act.bind m f s = _
  rw [Act.bind]
  rw [Act.run] at first
  simp only [first]
  rfl

namespace Web

theorem fetchable_pageUrl (url : Url) (token : Option String) :
    (pageUrl url token).fetchable = url.fetchable := by
  cases token <;> rfl

namespace Client

variable (c : Client σ) (item : Decoder α) {url : Url}

def ask (url : Url) (token : Option String) (s : σ) : Option Response × σ :=
  c.exchange (c.request (pageUrl url token)) s

def pageResult (url : Url) (token : Option String) :
    Option Response → Except Failure (List α × Option String)
  | none => .error (.transport (.unanswered (pageUrl url token).withoutUserinfo.text))
  | some r =>
    if r.isSuccess then
      match Json.decodeText (pageDecoder item) r.body with
      | .error _ => .error (.transport .undecodable)
      | .ok items => .ok (items, r.nextToken?)
    else .error (.buildSystem (.status (pageUrl url token).text (statusText r.status)))

theorem run_send (far : url.fetchable = true) (token : Option String) (s : σ) :
    (c.send (pageUrl url token)).run s =
      ⟨(c.ask url token s).1.elim
          (.error (.transport (.unanswered (pageUrl url token).withoutUserinfo.text))) .ok,
        (c.ask url token s).2, []⟩ := by
  have sent : c.send (pageUrl url token) = _ := if_neg (by simp [fetchable_pageUrl, far])
  rw [sent, ask]
  unfold Act.run
  dsimp only
  obtain ⟨answer?, after⟩ := c.exchange (c.request (pageUrl url token)) s
  cases answer? <;> rfl

theorem run_page (far : url.fetchable = true) (token : Option String) (s : σ) :
    (c.page item url token).run s =
      ⟨pageResult item url token (c.ask url token s).1, (c.ask url token s).2,
        [.querying (pageUrl url token).text]⟩ := by
  have sent := run_send c far token s
  rw [page, Act.run_bind_ok rfl]
  cases answered : (c.ask url token s).1 with
  | none =>
    rw [answered] at sent
    have failed : ((c.send (pageUrl url token)).run s).result = .error _ := congrArg Outcome.result sent
    simp only [Act.state_report]
    rw [Act.run_bind_error failed, sent]
    rfl
  | some r =>
    rw [answered] at sent
    have done : ((c.send (pageUrl url token)).run s).result = .ok r := congrArg Outcome.result sent
    simp only [Act.state_report]
    rw [Act.run_bind_ok done, sent, pageResult]
    cases r.isSuccess with
    | false => rfl
    | true =>
      simp only [Bool.not_true, Bool.false_eq_true, if_false, if_true]
      cases Json.decodeText (pageDecoder item) r.body <;> rfl

theorem run_page_of_unfetchable (near : url.fetchable = false) (token : Option String) (s : σ) :
    (c.page item url token).run s =
      ⟨.error (.transport (.unbuildable (some (pageUrl url token).withoutUserinfo.text))), s,
        [.querying (pageUrl url token).text]⟩ := by
  have refused : c.send (pageUrl url token) = _ := if_pos (by simp [fetchable_pageUrl, near])
  rw [page, Act.run_bind_ok rfl, refused]
  rfl

end Client

/-- A server whose answer for a page of a list depends on the token of the page alone. It has finitely
many tokens to hand out. -/
structure Paged (c : Client σ) (url : Url) where
  answer : Option String → Option Response
  tokens : List String
  answers (token : Option String) (s : σ) :
    (c.exchange (c.request (pageUrl url token)) s).1 = answer token
  hands_out {token : Option String} {response : Response} {next : String} :
    answer token = some response → response.nextToken? = some next → next ∈ tokens

def Client.logged (c : Client σ) : Client (σ × List Request) where
  settings := c.settings
  exchange := fun request s =>
    ((c.exchange request s.1).1, (c.exchange request s.1).2, s.2 ++ [request])

namespace Paged

variable {c : Client σ} {url : Url} (server : Paged c url) (item : Decoder α)

def read (token : Option String) : Except Failure (List α × Option String) :=
  let place := pageUrl url token
  if url.fetchable then
    match server.answer token with
    | none => .error (.transport (.unanswered place.withoutUserinfo.text))
    | some response =>
      if response.isSuccess then
        match Json.decodeText (pageDecoder item) response.body with
        | .error _ => .error (.transport .undecodable)
        | .ok items => .ok (items, response.nextToken?)
      else .error (.buildSystem (.status place.text (statusText response.status)))
  else .error (.transport (.unbuildable (some place.withoutUserinfo.text)))

theorem result_page (token : Option String) (s : σ) :
    ((c.page item url token).run s).result = server.read item token := by
  unfold read
  by_cases far : url.fetchable = true
  · rw [if_pos far, Client.run_page c item far, Client.ask, server.answers]
    cases server.answer token <;> rfl
  · rw [if_neg far, Client.run_page_of_unfetchable c item (eq_false_of_ne_true far)]

theorem read_eq_ok {token handed? : Option String} {items : List α}
    (page : server.read item token = .ok (items, handed?)) :
    url.fetchable = true ∧
      ∃ response, server.answer token = some response ∧ handed? = response.nextToken? := by
  unfold read at page
  split at page
  · rename_i far
    split at page
    · cases page
    · rename_i response answered
      split at page
      · split at page
        · cases page
        · cases page
          exact ⟨far, response, answered, rfl⟩
      · cases page
  · cases page

def next? (token : Option String) : Option String :=
  match server.read item token with
  | .ok (_, some t) => if token = some t then none else some t
  | _ => none

theorem next?_eq_some_iff {token : Option String} {t : String} :
    server.next? item token = some t ↔
      token ≠ some t ∧ ∃ items, server.read item token = .ok (items, some t) := by
  unfold next?
  cases server.read item token with
  | error e => simp
  | ok page =>
    obtain ⟨items, handed?⟩ := page
    cases handed? with
    | none => simp
    | some t' =>
      by_cases same : token = some t'
      · simp only [if_pos same]
        constructor
        · intro impossible
          cases impossible
        · rintro ⟨other, _, handed⟩
          cases handed
          exact absurd same other
      · simp only [if_neg same]
        constructor
        · rintro ⟨rfl⟩
          exact ⟨same, items, rfl⟩
        · rintro ⟨-, _, handed⟩
          cases handed
          rfl

/-! One page -/

def afterPage (c : Client σ) (url : Url) (pages : Nat) (token : Option String) (items : List α) :
    List α × Option String → Act σ (Option (List α))
  | (more, none) => return some (items ++ more)
  | (more, some t) =>
    if token = some t then Act.fail (.buildSystem (.repeatedToken url.text t))
    else c.listFrom item url pages (some t) (items ++ more)

theorem listFrom_succ (c : Client σ) (url : Url) (pages : Nat) (token : Option String)
    (items : List α) :
    c.listFrom item url (pages + 1) token items =
      c.page item url token >>= afterPage item c url pages token items := by
  rw [Client.listFrom]
  refine congrArg (_ >>= ·) (funext fun (more, handed?) => ?_)
  cases handed? <;> rfl

theorem listFrom_ends {token : Option String} (last : server.next? item token = none)
    (items : List α) (s : σ) :
    ∃ final : Except Failure (Option (List α)), final ≠ .ok none ∧
      ∀ pages, (c.listFrom item url (pages + 1) token items).run s =
        ⟨final, ((c.page item url token).run s).state, ((c.page item url token).run s).events⟩ := by
  have answered := server.result_page item token s
  -- No token to go on with: no page, a page without one, or the one just sent.
  cases page : server.read item token with
  | error e =>
    rw [page] at answered
    refine ⟨.error e, by simp, fun pages => ?_⟩
    rw [listFrom_succ, Act.run_bind_error answered]
  | ok held =>
    rw [page] at answered
    obtain ⟨more, handed?⟩ := held
    cases handed? with
    | none =>
      refine ⟨.ok (some (items ++ more)), by simp, fun pages => ?_⟩
      rw [listFrom_succ, Act.run_bind_ok answered, afterPage, Outcome.after_pure]
    | some t =>
      have repeated : token = some t := by
        by_contra other
        have goes_on := (server.next?_eq_some_iff item).mpr ⟨other, more, page⟩
        rw [last] at goes_on
        cases goes_on
      refine ⟨.error (.buildSystem (.repeatedToken url.text t)), by simp, fun pages => ?_⟩
      rw [listFrom_succ, Act.run_bind_ok answered, afterPage, if_pos repeated, Outcome.after_fail]

theorem listFrom_goes_on {token : Option String} {t : String}
    (next : server.next? item token = some t) (items : List α) (s : σ) :
    ∃ more, ∀ pages, (c.listFrom item url (pages + 1) token items).run s =
      ((c.listFrom item url pages (some t) (items ++ more)).run
        ((c.page item url token).run s).state).after ((c.page item url token).run s).events := by
  obtain ⟨other, more, page⟩ := (server.next?_eq_some_iff item).mp next
  have answered := server.result_page item token s
  rw [page] at answered
  refine ⟨more, fun pages => ?_⟩
  rw [listFrom_succ, Act.run_bind_ok answered, afterPage, if_neg other]

/-! From page to page -/

def step (asked : Option (Option String)) : Option (Option String) :=
  asked.bind fun token => (server.next? item token).map some

/-- The token that the page at place `n` is asked for with, while the list goes on. The first page is
asked for without one. -/
def asked (n : Nat) : Option (Option String) :=
  (server.step item)^[n] (some none)

theorem step_of_next {token : Option String} {t : String} (next : server.next? item token = some t) :
    server.step item (some token) = some (some t) := by
  simp only [step, Option.bind_some, next, Option.map_some]

theorem step_of_last {token : Option String} (last : server.next? item token = none) :
    server.step item (some token) = none := by
  simp only [step, Option.bind_some, last, Option.map_none]

theorem next_of_step {token u : Option String}
    (going : server.step item (some token) = some u) :
    ∃ t, server.next? item token = some t ∧ u = some t := by
  cases next : server.next? item token with
  | none =>
    rw [server.step_of_last item next] at going
    cases going
  | some t =>
    rw [server.step_of_next item next] at going
    exact ⟨t, rfl, (Option.some.inj going).symm⟩

theorem iterate_none (n : Nat) : (server.step item)^[n] none = none :=
  Function.iterate_fixed rfl n

theorem result_listFrom_iff (pages : Nat) (token : Option String) (items : List α) (s : σ) :
    ((c.listFrom item url pages token items).run s).result = .ok none ↔
      (server.step item)^[pages] (some token) ≠ none := by
  induction pages generalizing token items s with
  | zero =>
    constructor
    · intro _ impossible
      cases impossible
    · intro _
      rfl
  | succ pages ih =>
    rw [Function.iterate_succ_apply]
    cases next : server.next? item token with
    | none =>
      obtain ⟨final, ended, run⟩ := server.listFrom_ends item next items s
      rw [run, server.step_of_last item next, iterate_none]
      constructor
      · intro unended
        exact absurd unended ended
      · intro impossible
        exact absurd rfl impossible
    | some t =>
      obtain ⟨more, run⟩ := server.listFrom_goes_on item next items s
      rw [run, server.step_of_next item next, ← ih]
      rfl

theorem run_listFrom_add {pages : Nat} {token : Option String}
    (ended : (server.step item)^[pages] (some token) = none) (more : Nat) (items : List α) (s : σ) :
    (c.listFrom item url (pages + more) token items).run s =
      (c.listFrom item url pages token items).run s := by
  induction pages generalizing token items s with
  | zero => cases ended
  | succ pages ih =>
    rw [Nat.add_right_comm]
    cases next : server.next? item token with
    | none =>
      obtain ⟨final, -, run⟩ := server.listFrom_ends item next items s
      rw [run, run]
    | some t =>
      rw [Function.iterate_succ_apply, server.step_of_next item next] at ended
      obtain ⟨further, run⟩ := server.listFrom_goes_on item next items s
      rw [run, run, ih ended]

/-! Tokens that come back -/

/-- A token is asked with after `start` pages, and again after `period` more. -/
structure Returns (token : Option String) (start period : Nat) : Prop where
  later : 0 < period
  first : server.asked item start = some token
  again : server.asked item (start + period) = some token

def ComesBack : Prop :=
  ∃ token start period, server.Returns item token start period

theorem asked_add (m n : Nat) :
    server.asked item (m + n) = (server.step item)^[n] (server.asked item m) := by
  rw [asked, asked, Nat.add_comm, Function.iterate_add_apply]

theorem asked_eq_none_of_le {m n : Nat} (ended : server.asked item m = none) (later : m ≤ n) :
    server.asked item n = none := by
  obtain ⟨more, rfl⟩ := Nat.exists_eq_add_of_le later
  rw [asked_add, ended, iterate_none]

section Returns

variable {server item} {token : Option String} {start period : Nat}

theorem Returns.asked_mul (back : server.Returns item token start period) (n : Nat) :
    server.asked item (start + n * period) = some token := by
  induction n with
  | zero => rw [Nat.zero_mul, Nat.add_zero, back.first]
  | succ n ih =>
    rw [Nat.succ_mul, ← Nat.add_assoc, asked_add, ih, ← back.first, ← asked_add, back.again,
      back.first]

theorem Returns.two_le (back : server.Returns item token start period) : 2 ≤ period := by
  obtain ⟨later, first, again⟩ := back
  by_contra short
  obtain rfl : period = 1 := by omega
  rw [asked_add, Function.iterate_one, first] at again
  obtain ⟨t, next, same⟩ := server.next_of_step item again
  exact ((server.next?_eq_some_iff item).mp next).1 same

theorem Returns.asked_ne_none (back : server.Returns item token start period) (n : Nat) :
    server.asked item n ≠ none := by
  intro ended
  -- The token is asked with beyond every page, and so beyond the end.
  have beyond : n ≤ start + n * period := by
    have long := Nat.le_mul_of_pos_right n back.later
    omega
  have come := back.asked_mul n
  rw [server.asked_eq_none_of_le item ended beyond] at come
  cases come

end Returns

theorem next?_mem {token : Option String} {t : String} (next : server.next? item token = some t) :
    t ∈ server.tokens := by
  obtain ⟨-, items, page⟩ := (server.next?_eq_some_iff item).mp next
  obtain ⟨-, response, answered, handed⟩ := server.read_eq_ok item page
  exact server.hands_out answered handed.symm

theorem token_of_asked {n : Nat} {token : Option String} (going : server.asked item n = some token) :
    token = none ∨ ∃ t ∈ server.tokens, token = some t := by
  cases n with
  | zero =>
    cases going
    exact Or.inl rfl
  | succ n =>
    right
    rw [asked_add, Function.iterate_one] at going
    cases before : server.asked item n with
    | none =>
      rw [before] at going
      cases going
    | some last =>
      rw [before] at going
      obtain ⟨t, next, same⟩ := server.next_of_step item going
      exact ⟨t, server.next?_mem item next, same⟩

theorem comesBack_of_long (long : server.asked item (server.tokens.length + 1) ≠ none) :
    server.ComesBack item := by
  classical
  have going : ∀ n ≤ server.tokens.length + 1,
      server.asked item n = some ((server.asked item n).getD none) := by
    intro n within
    cases page : server.asked item n with
    | none => exact absurd (server.asked_eq_none_of_le item page within) long
    | some token => rfl
  -- One page more than there are tokens, the first page without one among them.
  have few : (insert none (server.tokens.toFinset.image some)).card <
      (Finset.range (server.tokens.length + 2)).card := by
    have added := Finset.card_insert_le none (server.tokens.toFinset.image some)
    have mapped := Finset.card_image_le (s := server.tokens.toFinset) (f := some)
    have listed := server.tokens.toFinset_card_le
    rw [Finset.card_range]
    omega
  have known : ∀ n ∈ Finset.range (server.tokens.length + 2),
      (server.asked item n).getD none ∈ insert none (server.tokens.toFinset.image some) := by
    intro n member
    have within := Finset.mem_range.mp member
    have token := server.token_of_asked item (going n (by omega))
    simpa [eq_comm] using token
  obtain ⟨m, hm, n, hn, other, same⟩ := Finset.exists_ne_map_eq_of_card_lt_of_maps_to few known
  rw [Finset.mem_range] at hm hn
  have asked_m := going m (by omega)
  have asked_n := going n (by omega)
  rcases Nat.lt_or_gt_of_ne other with before | before
  · refine ⟨_, m, n - m, by omega, asked_m, ?_⟩
    rw [Nat.add_sub_of_le (by omega), asked_n, same]
  · refine ⟨_, n, m - n, by omega, asked_n, ?_⟩
    rw [Nat.add_sub_of_le (by omega), asked_m, same]

/-! Requests -/

def logged : Paged c.logged url where
  answer := server.answer
  tokens := server.tokens
  answers token s := server.answers token s.1
  hands_out := server.hands_out

def sent (c : Client σ) (url : Url) (token : Option String) : List Request :=
  if url.fetchable then [c.request (pageUrl url token)] else []

def requested : Nat → Option String → List Request
  | 0, _ => []
  | pages + 1, token =>
    sent c url token ++
      match server.next? item token with
      | none => []
      | some t => requested pages t

theorem state_page_logged (token : Option String) (s : σ × List Request) :
    ((c.logged.page item url token).run s).state.2 = s.2 ++ sent c url token := by
  unfold sent
  by_cases far : url.fetchable = true
  · rw [if_pos far, Client.run_page c.logged item far]
    rfl
  · rw [if_neg far, Client.run_page_of_unfetchable c.logged item (eq_false_of_ne_true far), List.append_nil]

theorem record_listFrom (pages : Nat) (token : Option String) (items : List α)
    (s : σ × List Request) :
    ((c.logged.listFrom item url pages token items).run s).state.2 =
      s.2 ++ server.requested item pages token := by
  induction pages generalizing token items s with
  | zero => exact (List.append_nil _).symm
  | succ pages ih =>
    rw [requested, ← List.append_assoc, ← state_page_logged item token s]
    cases next : server.next? item token with
    | none =>
      obtain ⟨final, -, run⟩ := server.logged.listFrom_ends item next items s
      rw [run, List.append_nil]
    | some t =>
      obtain ⟨more, run⟩ := server.logged.listFrom_goes_on item next items s
      rw [run]
      exact ih (some t) (items ++ more) _

theorem length_requested_le (pages : Nat) (token : Option String) :
    (server.requested item pages token).length ≤ pages := by
  induction pages generalizing token with
  | zero => exact Nat.le_refl 0
  | succ pages ih =>
    have one : (sent c url token).length ≤ 1 := by
      unfold sent
      split <;> simp
    rw [requested, List.length_append]
    cases server.next? item token with
    | none =>
      rw [List.length_nil]
      omega
    | some t =>
      have rest := ih (some t)
      dsimp only
      omega

theorem getElem?_requested (far : url.fetchable = true) {n pages : Nat} {token t : Option String}
    (within : n < pages) (going : (server.step item)^[n] (some token) = some t) :
    (server.requested item pages token)[n]? = some (c.request (pageUrl url t)) := by
  induction n generalizing pages token with
  | zero =>
    obtain ⟨pages, rfl⟩ := Nat.exists_eq_add_one_of_ne_zero (Nat.ne_of_gt within)
    cases going
    rw [requested, sent, if_pos far]
    rfl
  | succ n ih =>
    obtain ⟨pages, rfl⟩ := Nat.exists_eq_add_one_of_ne_zero (Nat.ne_zero_of_lt within)
    rw [requested, sent, if_pos far, List.singleton_append, List.getElem?_cons_succ]
    rw [Function.iterate_succ_apply] at going
    cases next : server.next? item token with
    | none =>
      rw [server.step_of_last item next, iterate_none] at going
      cases going
    | some t' =>
      rw [server.step_of_next item next] at going
      exact ih (Nat.lt_of_succ_lt_succ within) going

theorem Returns.fetchable {server : Paged c url} {item : Decoder α} {token : Option String}
    {start period : Nat} (back : server.Returns item token start period) : url.fetchable = true := by
  obtain ⟨second, going⟩ := Option.ne_none_iff_exists'.mp (back.asked_ne_none 1)
  rw [asked, Function.iterate_one] at going
  obtain ⟨t, next, -⟩ := server.next_of_step item going
  obtain ⟨-, items, page⟩ := (server.next?_eq_some_iff item).mp next
  exact (server.read_eq_ok item page).1

theorem Returns.getElem?_record {server : Paged c url} {item : Decoder α} {token : Option String}
    {start period : Nat} (back : server.Returns item token start period) (s : σ) {n pages : Nat}
    (within : start + n * period < pages) :
    ((c.logged.list item pages url).run (s, [])).state.2[start + n * period]? =
      some (c.request (pageUrl url token)) := by
  rw [Client.list, server.record_listFrom item, List.nil_append]
  exact server.getElem?_requested item back.fetchable within (back.asked_mul n)

/-- A list ends unless a token comes back. When one does, which takes at least two pages, its page is
asked for again and again. -/
theorem list_ends_iff (s : σ) :
    ((∃ pages, ((c.list item pages url).run s).result ≠ .ok none) ↔ ¬ server.ComesBack item) ∧
    (¬ server.ComesBack item → ∀ pages, server.tokens.length < pages →
      (c.list item pages url).run s = (c.list item (server.tokens.length + 1) url).run s ∧
      ((c.list item pages url).run s).result ≠ .ok none ∧
      ((c.logged.list item pages url).run (s, [])).state.2.length ≤ server.tokens.length + 1) ∧
    ∀ token start period, server.Returns item token start period → 2 ≤ period ∧
      ∀ n pages, start + n * period < pages →
        ((c.logged.list item pages url).run (s, [])).state.2[start + n * period]? =
          some (c.request (pageUrl url token)) := by
  -- More steps than there are tokens come to one of them twice.
  have ended : ¬ server.ComesBack item →
      (server.step item)^[server.tokens.length + 1] (some none) = none := by
    intro forward
    by_contra long
    exact forward (server.comesBack_of_long item long)
  refine ⟨⟨?_, ?_⟩, ?_, ?_⟩
  · rintro ⟨pages, ends⟩ ⟨token, start, period, back⟩
    exact ends ((server.result_listFrom_iff item pages none [] s).mpr (back.asked_ne_none pages))
  · intro forward
    refine ⟨server.tokens.length + 1, fun unended => ?_⟩
    exact (server.result_listFrom_iff item _ none [] s).mp unended (ended forward)
  · intro forward pages many
    obtain ⟨more, rfl⟩ := Nat.exists_eq_add_of_le many
    have settled := server.run_listFrom_add item (ended forward) more [] s
    have recorded := server.logged.run_listFrom_add item (ended forward) more [] (s, [])
    refine ⟨settled, ?_, ?_⟩
    · intro unended
      rw [Client.list, settled] at unended
      exact (server.result_listFrom_iff item _ none [] s).mp unended (ended forward)
    · rw [Client.list, recorded, server.record_listFrom item, List.nil_append]
      exact server.length_requested_le item _ none
  · intro token start period back
    exact ⟨back.two_le, fun n pages within => back.getElem?_record s within⟩

end Paged

/-! A circle of two tokens -/

def definitionsUrl : Url where
  scheme := "https"
  authority := some { host := .name "tfs.example.com" }
  path := .segments ["Main", "Payments", "_apis", "build", "definitions"]
  query := some "api-version=6.0"

def emptyPage (next : String) : Response where
  headers := [(tokenHeader, next)]
  body := "\x7b\x7d"

def alternatingAnswer (place : Url) : Response :=
  if place = pageUrl definitionsUrl (some "a") then emptyPage "b" else emptyPage "a"

def alternating : Client Unit where
  settings := {}
  exchange := fun request s => (some (alternatingAnswer request.url), s)

def alternatingPages : Paged alternating definitionsUrl where
  answer token := some (alternatingAnswer (pageUrl definitionsUrl token))
  tokens := ["a", "b"]
  answers _ _ := rfl
  hands_out := by
    intro token response next answered handed
    have b_handed : (emptyPage "b").nextToken? = some "b" := by decide
    have a_handed : (emptyPage "a").nextToken? = some "a" := by decide
    cases answered
    unfold alternatingAnswer at handed
    split at handed
    · rw [b_handed] at handed
      cases handed
      simp
    · rw [a_handed] at handed
      cases handed
      simp

theorem alternatingPages_returns :
    alternatingPages.Returns (definitionDecoder "Payments") (some "a") 1 2 where
  later := by decide
  first := by decide +kernel
  again := by decide +kernel

/-- The tokens go round for ever, and so does the list. -/
theorem alternating_never_ends :
    (∃ server : Paged alternating definitionsUrl, server.tokens = ["a", "b"]) ∧
    (∀ pages, ((alternating.list (definitionDecoder "Payments") pages definitionsUrl).run ()).result =
      .ok none) ∧
    ∀ n pages, 1 + n * 2 < pages →
      ((alternating.logged.list (definitionDecoder "Payments") pages definitionsUrl).run
        ((), [])).state.2[1 + n * 2]? =
          some (alternating.request (pageUrl definitionsUrl (some "a"))) := by
  refine ⟨⟨alternatingPages, rfl⟩, ?_, ?_⟩
  · intro pages
    exact (alternatingPages.result_listFrom_iff (definitionDecoder "Payments") pages none [] ()).mpr
      (alternatingPages_returns.asked_ne_none pages)
  · intro n pages within
    exact alternatingPages_returns.getElem?_record () within

end Web

end DeployPlan
