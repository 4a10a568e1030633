import DeployPlan.Proofs.Json.Compact
import DeployPlan.Proofs.Json.Nesting
import DeployPlan.Proofs.Json.Record
import DeployPlan.Proofs.Url.Pairs
import DeployPlan.Proofs.Web.Paging

/-!
From the first page of a list to the last. A page that is served and hands out a new token leads to the
page with that token. The last page ends the list, with all items or with a failure. Whatever the servers
do in between, the pages that are asked for are those, each of them once.
-/

namespace DeployPlan.Web

open Json (Decoder)

variable {σ α : Type}

/-- The token that a response hands out: the text of its header without blanks around it. A header of
blanks alone hands out none, and neither does one that is no text. -/
def Response.HandsOut (r : Response) (t : String) : Prop :=
  ∃ value, r.header? tokenHeader = some value ∧ readableHeaderValue value = true ∧
    Text.trim value = t ∧ t ≠ ""

theorem Response.nextToken?_eq_some_iff {r : Response} {t : String} :
    r.nextToken? = some t ↔ r.HandsOut t := by
  simp only [nextToken?, HandsOut, Option.filter_eq_some_iff, Option.map_eq_some_iff, Bool.not_eq_true',
    String.isEmpty_eq_false_iff]
  constructor
  · rintro ⟨⟨value, ⟨header, readable⟩, trimmed⟩, solid⟩
    exact ⟨value, header, readable, trimmed, solid⟩
  · rintro ⟨value, header, readable, trimmed, solid⟩
    exact ⟨⟨value, ⟨header, readable⟩, trimmed⟩, solid⟩

theorem Response.nextToken?_eq_none_iff {r : Response} : r.nextToken? = none ↔ ∀ t, ¬ r.HandsOut t := by
  simp only [Option.eq_none_iff_forall_ne_some, ne_eq, nextToken?_eq_some_iff]

namespace Client

variable (c : Client σ) (item : Decoder α) (url : Url)

/-- A page is answered with success, and its body holds the items. -/
structure Served (token : Option String) (s : σ) (r : Response) (items : List α) : Prop where
  answered : (c.ask url token s).1 = some r
  success : r.isSuccess = true
  decoded : Json.decodeText (pageDecoder item) r.body = .ok items

structure Turn (α : Type) where
  items : List α
  next : String

/-- From the page with a token, asked for in a state, page by page to another one. -/
inductive Leads : Option String → σ → List (Turn α) → Option String → σ → Prop
  | here (token : Option String) (s : σ) : Leads token s [] token s
  | turn {token : Option String} {s : σ} {r : Response} {items : List α} {next : String}
      {turns : List (Turn α)} {last : Option String} {final : σ} :
      c.Served item url token s r items → r.HandsOut next → token ≠ some next →
        Leads (some next) (c.ask url token s).2 turns last final →
          Leads token s (⟨items, next⟩ :: turns) last final

/-- How the last page ends the list, after the items of the pages before it. -/
inductive Ends (token : Option String) (s : σ) (before : List α) : Except Failure (List α) → Prop
  | complete {r : Response} {items : List α} :
      c.Served item url token s r items → (∀ t, ¬ r.HandsOut t) →
        Ends token s before (.ok (before ++ items))
  | unanswered : (c.ask url token s).1 = none →
      Ends token s before (.error (.transport (.unanswered (pageUrl url token).withoutUserinfo.text)))
  | refused {r : Response} : (c.ask url token s).1 = some r → r.isSuccess = false →
      Ends token s before (.error (.buildSystem (.status (pageUrl url token).text (statusText r.status))))
  | undecodable {r : Response} {p : Json.Problem} : (c.ask url token s).1 = some r → r.isSuccess = true →
      Json.decodeText (pageDecoder item) r.body = .error p →
        Ends token s before (.error (.transport .undecodable))
  | repeated {r : Response} {items : List α} {t : String} :
      c.Served item url token s r items → r.HandsOut t → token = some t →
        Ends token s before (.error (.buildSystem (.repeatedToken url.text t)))

def asked (token : Option String) (turns : List (Turn α)) : List (Option String) :=
  token :: turns.map fun turn => some turn.next

def itemsOf (turns : List (Turn α)) : List α :=
  turns.flatMap (·.items)

end Client

/-! One page -/

namespace Client

variable {c : Client σ} {item : Decoder α} {url : Url} {token : Option String} {s : σ}

theorem Served.run_page {r : Response} {items : List α} (far : url.fetchable = true)
    (served : c.Served item url token s r items) :
    (c.page item url token).run s =
      ⟨.ok (items, r.nextToken?), (c.ask url token s).2, [.querying (pageUrl url token).text]⟩ := by
  rw [Client.run_page c item far, served.answered, pageResult, if_pos served.success, served.decoded]

/-! From the first page to the last -/

theorem Ends.run_listFrom {before : List α} {result : Except Failure (List α)} (far : url.fetchable = true)
    (ends : c.Ends item url token s before result) (pages : Nat) :
    (c.listFrom item url (pages + 1) token before).run s =
      ⟨result.map some, (c.ask url token s).2, [.querying (pageUrl url token).text]⟩ := by
  rw [Paged.listFrom_succ]
  have failing : ∀ {e : Failure}, pageResult item url token (c.ask url token s).1 = .error e →
      (c.page item url token >>= Paged.afterPage item c url pages token before).run s =
        ⟨.error e, (c.ask url token s).2, [.querying (pageUrl url token).text]⟩ := by
    intro e failed
    have page := run_page c item far token s
    rw [failed] at page
    rw [Act.run_bind_error (congrArg Outcome.result page), page]
  cases ends with
  | complete served nothing =>
    have page := served.run_page far
    rw [Response.nextToken?_eq_none_iff.mpr nothing] at page
    rw [Act.run_bind_ok (congrArg Outcome.result page), page, Paged.afterPage, Outcome.after_pure]
    rfl
  | unanswered none_came => exact failing (by rw [none_came, pageResult])
  | refused answered failed => exact failing (by rw [answered, pageResult, failed]; rfl)
  | undecodable answered success failed =>
    exact failing (by rw [answered, pageResult, if_pos success, failed])
  | repeated served handed same =>
    have page := served.run_page far
    rw [Response.nextToken?_eq_some_iff.mpr handed] at page
    rw [Act.run_bind_ok (congrArg Outcome.result page), page, Paged.afterPage, if_pos same,
      Outcome.after_fail]
    rfl

theorem Leads.run_listFrom {turns : List (Turn α)} {last : Option String} {final : σ}
    (far : url.fetchable = true) (leads : c.Leads item url token s turns last final) :
    ∀ {before : List α} {result : Except Failure (List α)},
      c.Ends item url last final (before ++ itemsOf turns) result → ∀ {pages : Nat}, turns.length < pages →
        (c.listFrom item url pages token before).run s =
          ⟨result.map some, (c.ask url last final).2,
            (asked token turns).map fun token => .querying (pageUrl url token).text⟩ := by
  -- Each page that is left behind adds its items to those before.
  induction leads with
  | here token s =>
    intro before result ends pages enough
    obtain ⟨pages, rfl⟩ := Nat.exists_eq_add_one_of_ne_zero (Nat.ne_of_gt enough)
    rw [itemsOf, List.flatMap_nil, List.append_nil] at ends
    exact ends.run_listFrom far pages
  | @turn token s r items next turns last final served handed new later ih =>
    intro before result ends pages enough
    obtain ⟨pages, rfl⟩ := Nat.exists_eq_add_one_of_ne_zero (Nat.ne_zero_of_lt enough)
    have page := served.run_page far
    rw [Response.nextToken?_eq_some_iff.mpr handed] at page
    rw [itemsOf, List.flatMap_cons, ← List.append_assoc] at ends
    rw [Paged.listFrom_succ, Act.run_bind_ok (congrArg Outcome.result page), page, Paged.afterPage,
      if_neg new, ih ends (Nat.lt_of_succ_lt_succ enough)]
    rfl

/-! Requests -/

theorem Served.logged {r : Response} {items : List α} (served : c.Served item url token s r items)
    (log : List Request) : c.logged.Served item url token (s, log) r items :=
  ⟨served.answered, served.success, served.decoded⟩

theorem Leads.logged {turns : List (Turn α)} {last : Option String} {final : σ}
    (leads : c.Leads item url token s turns last final) (log : List Request) :
    ∃ sent, c.logged.Leads item url token (s, log) turns last (final, sent) ∧
      sent ++ [c.request (pageUrl url last)] =
        log ++ (asked token turns).map fun token => c.request (pageUrl url token) := by
  -- The request for the last page is not in the record that leads to it.
  induction leads generalizing log with
  | here token s => exact ⟨log, .here token (s, log), rfl⟩
  | @turn token s r items next turns last final served handed new later ih =>
    obtain ⟨sent, leads, record⟩ := ih (log ++ [c.request (pageUrl url token)])
    refine ⟨sent, .turn (served.logged log) handed new leads, ?_⟩
    rw [record, List.append_assoc]
    rfl

theorem Ends.logged {before : List α} {result : Except Failure (List α)} (log : List Request)
    (ends : c.Ends item url token s before result) :
    c.logged.Ends item url token (s, log) before result := by
  cases ends with
  | complete served nothing => exact .complete (served.logged log) nothing
  | unanswered none_came => exact .unanswered none_came
  | refused answered failed => exact .refused answered failed
  | undecodable answered success failed => exact .undecodable answered success failed
  | repeated served handed same => exact .repeated (served.logged log) handed same

theorem Leads.requests {turns : List (Turn α)} {last : Option String} {final : σ}
    {result : Except Failure (List α)} (far : url.fetchable = true)
    (leads : c.Leads item url none s turns last final)
    (ends : c.Ends item url last final (itemsOf turns) result)
    {pages : Nat} (enough : turns.length < pages) :
    ((c.logged.list item pages url).run (s, [])).result = result.map some ∧
      ((c.logged.list item pages url).run (s, [])).state.2 =
        (asked none turns).map fun token => c.request (pageUrl url token) := by
  obtain ⟨sent, recorded, record⟩ := leads.logged []
  rw [← List.nil_append (itemsOf turns)] at ends
  rw [Client.list, recorded.run_listFrom far (ends.logged sent) enough]
  exact ⟨rfl, record⟩

theorem run_list_of_unfetchable (near : url.fetchable = false) (pages : Nat) :
    (c.list item (pages + 1) url).run s =
      ⟨.error (.transport (.unbuildable (some url.withoutUserinfo.text))), s, [.querying url.text]⟩ := by
  have page := run_page_of_unfetchable c item near none s
  rw [list, Paged.listFrom_succ, Act.run_bind_error (congrArg Outcome.result page), page]
  rfl

theorem exists_leads (c : Client σ) (item : Decoder α) (url : Url) (token : Option String) (s : σ)
    (pages : Nat) : ∃ turns last final, c.Leads item url token s turns last final ∧
      (turns.length = pages ∨
        turns.length < pages ∧ ∀ before, ∃ result, c.Ends item url last final before result) := by
  -- Either there is a page for each turn or the list has ended before.
  induction pages generalizing token s with
  | zero => exact ⟨[], token, s, .here token s, .inl rfl⟩
  | succ pages ih =>
    have ended : (∀ before, ∃ result, c.Ends item url token s before result) →
        ∃ turns last final, c.Leads item url token s turns last final ∧ (turns.length = pages + 1 ∨
          turns.length < pages + 1 ∧ ∀ before, ∃ result, c.Ends item url last final before result) :=
      fun ends => ⟨[], token, s, .here token s, .inr ⟨Nat.succ_pos pages, ends⟩⟩
    cases answered : (c.ask url token s).1 with
    | none => exact ended fun before => ⟨_, .unanswered answered⟩
    | some r =>
      cases success : r.isSuccess with
      | false => exact ended fun before => ⟨_, .refused answered success⟩
      | true =>
        cases decoded : Json.decodeText (pageDecoder item) r.body with
        | error p => exact ended fun before => ⟨_, .undecodable answered success decoded⟩
        | ok items =>
          have served : c.Served item url token s r items := ⟨answered, success, decoded⟩
          cases next? : r.nextToken? with
          | none =>
            have nothing := Response.nextToken?_eq_none_iff.mp next?
            exact ended fun before => ⟨_, .complete served nothing⟩
          | some next =>
            have handed := Response.nextToken?_eq_some_iff.mp next?
            by_cases same : token = some next
            · exact ended fun before => ⟨_, .repeated served handed same⟩
            · obtain ⟨turns, last, final, leads, far⟩ := ih (some next) (c.ask url token s).2
              refine ⟨⟨items, next⟩ :: turns, last, final, .turn served handed same leads, ?_⟩
              rcases far with many | ⟨fewer, ends⟩
              · exact .inl (congrArg Nat.succ many)
              · exact .inr ⟨Nat.succ_lt_succ fewer, ends⟩

end Client

/-- A list is read page by page, up to the page that ends it. Each page is asked for once, by the address
of the list with the token that the page before it handed out, and with no other token; what the last page
makes of the list is the result. -/
theorem list_follows_pages (c : Client σ) (item : Decoder α) (url : Url) :
    (url.fetchable = true → ∀ {s : σ} {turns last final result},
      c.Leads item url none s turns last final → c.Ends item url last final (Client.itemsOf turns) result →
        ∀ {pages : Nat}, turns.length < pages →
          ((c.list item pages url).run s).result = result.map some ∧
          ((c.list item pages url).run s).events =
            (Client.asked none turns).map (fun token => .querying (pageUrl url token).text) ∧
          ((c.logged.list item pages url).run (s, [])).result = result.map some ∧
          ((c.logged.list item pages url).run (s, [])).state.2 =
            (Client.asked none turns).map fun token => c.request (pageUrl url token)) ∧
      (url.fetchable = false → ∀ (s : σ) (pages : Nat), (c.list item (pages + 1) url).run s =
        ⟨.error (.transport (.unbuildable (some url.withoutUserinfo.text))), s, [.querying url.text]⟩) ∧
      pageUrl url none = url ∧
      ∀ token : String,
        (pageUrl url (some token)).pairs = url.pairs ++
          [(Text.Utf8.encode "continuationToken".toList, Text.Utf8.encode token.toList)] ∧
        { pageUrl url (some token) with query := url.query } = url := by
  refine ⟨fun far s turns last final result leads ends pages enough => ?_,
    fun near s pages => Client.run_list_of_unfetchable near pages, rfl,
    fun token => Url.pairs_withPair url "continuationToken" token⟩
  obtain ⟨same, requests⟩ := leads.requests far ends enough
  rw [← List.nil_append (Client.itemsOf turns)] at ends
  rw [Client.list, leads.run_listFrom far ends enough]
  exact ⟨rfl, rfl, same, requests⟩

/-! Three pages -/

def scripted (responses : List Response) : Client Nat where
  settings := {}
  exchange := fun _ n => (responses[n]?, n + 1)

def textPage (items : List String) (next : String) : Response where
  headers := [(tokenHeader, next)]
  body := (Json.Value.object [("value", .texts items)]).compactText

theorem decodeText_textPage (items : List String) (next : String) :
    Json.decodeText (pageDecoder Json.text) (textPage items next).body = .ok items := by
  have legal : (Json.Value.object [("value", .texts items)]).Legal :=
    Json.Value.Numberless.legal ⟨Json.Value.itemsNumberless_texts items, trivial⟩
  have texts : Json.list Json.text { Json.Context.ofStream with room := Json.Context.ofStream.room - 1 }
      (Json.Value.texts items).node = .ok items :=
    Json.list_listOf (by decide) fun s _ => rfl
  have decoded :
      pageDecoder Json.text .ofStream (Json.Value.object [("value", .texts items)]).node = .ok items :=
    Json.record_object "ListResponse" _ (by decide) (.cons texts (by simp) .nil)
  rw [textPage, Json.decodeText_spelled _ (Json.spells_compactText legal), decoded]
  rfl

def threePages : Client Nat :=
  scripted [textPage ["one", "two"] " a ", textPage ["three"] "b", textPage ["four"] " "]

theorem threePages_list :
    ((threePages.list Json.text 5 definitionsUrl).run 0).result =
        .ok (some ["one", "two", "three", "four"]) ∧
      ((threePages.logged.list Json.text 5 definitionsUrl).run (0, [])).state.2 =
        [none, some "a", some "b"].map fun token => threePages.request (pageUrl definitionsUrl token) := by
  have leads : threePages.Leads Json.text definitionsUrl none 0 [⟨["one", "two"], "a"⟩, ⟨["three"], "b"⟩]
      (some "b") 2 :=
    .turn ⟨rfl, rfl, decodeText_textPage _ _⟩ ⟨" a ", rfl, by decide, by decide, by decide⟩ (by decide)
      (.turn ⟨rfl, rfl, decodeText_textPage _ _⟩ ⟨"b", rfl, by decide, by decide, by decide⟩ (by decide)
        (.here _ _))
  have ends : threePages.Ends Json.text definitionsUrl (some "b") 2 ["one", "two", "three"]
      (.ok ["one", "two", "three", "four"]) :=
    .complete ⟨rfl, rfl, decodeText_textPage _ _⟩ (Response.nextToken?_eq_none_iff.mp (by decide))
  have few : [Client.Turn.mk ["one", "two"] "a", ⟨["three"], "b"⟩].length < 5 := by decide
  obtain ⟨result, -, -, requests⟩ :=
    (list_follows_pages threePages Json.text definitionsUrl).1 (by decide) leads ends few
  exact ⟨result, requests⟩

end DeployPlan.Web
