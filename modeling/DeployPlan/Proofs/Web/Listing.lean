import DeployPlan.Proofs.Json.Mapped
import DeployPlan.Proofs.Web.Pages

/-!
Listings as a whole. A function on the items can be applied to them when they are decoded, or to the whole
list. A record of the requests changes nothing else. Every listing comes to its last page, or to the number
of pages that may be read, and its requests are those for the pages.
-/

namespace DeployPlan

open Json (Decoder)

variable {σ α β : Type}

namespace Act

theorem run_map (f : α → β) (m : Act σ α) (s : σ) :
    (f <$> m).run s = ⟨(m.run s).result.map f, (m.run s).state, (m.run s).events⟩ := by
  change Act.bind m _ s = _
  unfold Act.bind Act.run
  obtain ⟨result, state, events⟩ := m s
  cases result with
  | error e => rfl
  | ok a => exact congrArg (Outcome.mk _ _) (List.append_nil events)

theorem map_id (m : Act σ α) : id <$> m = m := by
  funext s
  refine (run_map id m s).trans ?_
  unfold Act.run
  obtain ⟨result, state, events⟩ := m s
  cases result <;> rfl

theorem bind_assoc {γ : Type} (m : Act σ α) (f : α → Act σ β) (g : β → Act σ γ) :
    m >>= f >>= g = m >>= fun a => f a >>= g := by
  funext s
  change Act.bind (Act.bind m f) g s = Act.bind m (fun a => Act.bind (f a) g) s
  unfold Act.bind
  obtain ⟨result, state, events⟩ := m s
  cases result with
  | error e => rfl
  | ok a =>
    dsimp only
    obtain ⟨result, state, more⟩ := f a state
    cases result with
    | error e => rfl
    | ok b => exact congrArg (Outcome.mk _ _) (List.append_assoc events more _)

instance : LawfulMonad (Act σ) :=
  LawfulMonad.mk' _ map_id (fun _ _ => rfl) bind_assoc

theorem map_fail (f : α → β) (e : Failure) : f <$> (fail e : Act σ α) = fail e := rfl

end Act

namespace Web

/-! Items with a function on them -/

theorem pageDecoder_mapped (f : α → β) (item : Decoder α) :
    pageDecoder (Decoder.map f item) = Decoder.map (List.map f) (pageDecoder item) := by
  rw [pageDecoder, Json.list_mapped]
  refine (Json.record_mapped (List.map f) (Json.list item) "value" (some []) .nil _ _).trans ?_
  exact Json.record_made "ListResponse" _ Prod.fst (List.map f)

namespace Client

variable (c : Client σ) (f : α → β) (item : Decoder α) (url : Url)

theorem page_mapped (token : Option String) :
    c.page (Decoder.map f item) url token = Prod.map (List.map f) id <$> c.page item url token := by
  unfold page
  simp only [map_bind, pageDecoder_mapped, Json.decodeText_mapped]
  refine congrArg (_ >>= ·) (funext fun _ => congrArg (_ >>= ·) (funext fun r => ?_))
  split
  · rfl
  · cases Json.decodeText (pageDecoder item) r.body <;> rfl

theorem listFrom_mapped (pages : Nat) (token : Option String) (items : List α) :
    c.listFrom (Decoder.map f item) url pages token (items.map f) =
      Option.map (List.map f) <$> c.listFrom item url pages token items := by
  -- The items of the pages before carry the function already.
  induction pages generalizing token items with
  | zero => rfl
  | succ pages ih =>
    rw [Paged.listFrom_succ, Paged.listFrom_succ, page_mapped, bind_map_left, map_bind]
    refine congrArg (_ >>= ·) (funext fun (more, next) => ?_)
    cases next with
    | none =>
      rw [Paged.afterPage, map_pure, Option.map_some, List.map_append]
      rfl
    | some t =>
      dsimp only [Prod.map, id]
      rw [Paged.afterPage, Paged.afterPage, ← List.map_append]
      by_cases same : token = some t
      · rw [if_pos same, if_pos same, Act.map_fail]
      · rw [if_neg same, if_neg same, ih]

theorem list_mapped (pages : Nat) :
    c.list (Decoder.map f item) pages url = Option.map (List.map f) <$> c.list item pages url :=
  c.listFrom_mapped f item url pages none []

end Client

/-! Requests -/

/-- From `s` on, `noted` does what `m` does, and adds `sent` to a record of requests. -/
def Sends (m : Act σ α) (noted : Act (σ × List Request) α) (s : σ) (sent : List Request) : Prop :=
  ∀ log, noted.run (s, log) =
    ⟨(m.run s).result, ((m.run s).state, log ++ sent), (m.run s).events⟩

namespace Sends

variable {s : σ} {sent later : List Request} {m : Act σ α} {noted : Act (σ × List Request) α}

theorem pure (a : α) (s : σ) : Sends (return a : Act σ α) (return a) s [] := by
  intro log
  rw [List.append_nil]
  rfl

theorem fail (e : Failure) (s : σ) : Sends (Act.fail e : Act σ α) (Act.fail e) s [] := by
  intro log
  rw [List.append_nil]
  rfl

theorem bind_ok {f : α → Act σ β} {g : α → Act (σ × List Request) β} {a : α}
    (first : Sends m noted s sent) (done : (m.run s).result = .ok a)
    (second : Sends (f a) (g a) (m.run s).state later) :
    Sends (m >>= f) (noted >>= g) s (sent ++ later) := by
  intro log
  have noted_done : (noted.run (s, log)).result = .ok a := by rw [first, done]
  rw [Act.run_bind_ok done, Act.run_bind_ok noted_done, first, second, List.append_assoc]
  rfl

theorem bind_error {f : α → Act σ β} {g : α → Act (σ × List Request) β} {e : Failure}
    (first : Sends m noted s sent) (failed : (m.run s).result = .error e) :
    Sends (m >>= f) (noted >>= g) s sent := by
  intro log
  have noted_failed : (noted.run (s, log)).result = .error e := by rw [first, failed]
  rw [Act.run_bind_error failed, Act.run_bind_error noted_failed, first]

theorem map (f : α → β) (sends : Sends m noted s sent) : Sends (f <$> m) (f <$> noted) s sent := by
  intro log
  rw [Act.run_map, Act.run_map, sends]

end Sends

namespace Client

variable (c : Client σ) (item : Decoder α) (pages : Nat) (url : Url)

/-- What a listing comes to, with its requests and the servers after it. -/
inductive Listed (s : σ) : Except Failure (Option (List α)) → List Request → σ → Prop
  | outside : url.fetchable = false → pages ≠ 0 →
      Listed s (.error (.transport (.unbuildable (some url.withoutUserinfo.text)))) [] s
  | ended {turns : List (Turn α)} {last : Option String} {final : σ}
      {result : Except Failure (List α)} : url.fetchable = true →
        c.Leads item url none s turns last final → c.Ends item url last final (itemsOf turns) result →
          turns.length < pages →
            Listed s (result.map some) ((asked none turns).map fun token => c.request (pageUrl url token))
              (c.ask url last final).2
  | unended {turns : List (Turn α)} {last : Option String} {final : σ} :
      pages = 0 ∨ url.fetchable = true → c.Leads item url none s turns last final →
        turns.length = pages →
          Listed s (.ok none)
            ((asked none turns).dropLast.map fun token => c.request (pageUrl url token)) final

variable {c item pages url} {s final : σ} {token last : Option String} {turns : List (Turn α)}

theorem Leads.run_listFrom_unended (far : url.fetchable = true)
    (leads : c.Leads item url token s turns last final) (before : List α) :
    (c.listFrom item url turns.length token before).run s =
      ⟨.ok none, final,
        (asked token turns).dropLast.map fun token => .querying (pageUrl url token).text⟩ := by
  induction leads generalizing before with
  | here token s => rfl
  | @turn token s r items next turns last final served handed new later ih =>
    have page := served.run_page far
    rw [Response.nextToken?_eq_some_iff.mpr handed] at page
    rw [List.length_cons, Paged.listFrom_succ, Act.run_bind_ok (congrArg Outcome.result page), page,
      Paged.afterPage, if_neg new, ih]
    rfl

theorem Leads.sends (far : url.fetchable = true) (leads : c.Leads item url none s turns last final)
    {result : Except Failure (List α)} (ends : c.Ends item url last final (itemsOf turns) result)
    (enough : turns.length < pages) :
    (c.list item pages url).run s = ⟨result.map some, (c.ask url last final).2,
        (asked none turns).map fun token => .querying (pageUrl url token).text⟩ ∧
      Sends (c.list item pages url) (c.logged.list item pages url) s
        ((asked none turns).map fun token => c.request (pageUrl url token)) := by
  rw [← List.nil_append (itemsOf turns)] at ends
  have run := leads.run_listFrom far ends enough
  refine ⟨run, fun log => ?_⟩
  obtain ⟨sent, recorded, record⟩ := leads.logged log
  rw [list, list, run, recorded.run_listFrom far (ends.logged sent) enough, ← record]
  rfl

theorem Leads.sends_unended (far : url.fetchable = true)
    (leads : c.Leads item url none s turns last final) :
    (c.list item turns.length url).run s = ⟨.ok none, final,
        (asked none turns).dropLast.map fun token => .querying (pageUrl url token).text⟩ ∧
      Sends (c.list item turns.length url) (c.logged.list item turns.length url) s
        ((asked none turns).dropLast.map fun token => c.request (pageUrl url token)) := by
  have run := leads.run_listFrom_unended far []
  refine ⟨run, fun log => ?_⟩
  obtain ⟨sent, recorded, record⟩ := leads.logged log
  -- `record` has one request more, for the page that is not asked for
  have before_last := congrArg List.dropLast record
  rw [List.dropLast_concat, List.dropLast_append_of_ne_nil (by simp [asked]), ← List.map_dropLast]
    at before_last
  rw [list, list, run, recorded.run_listFrom_unended far [], before_last]

theorem sends_list (c : Client σ) (item : Decoder α) (pages : Nat) (url : Url) (s : σ) :
    ∃ sent, Sends (c.list item pages url) (c.logged.list item pages url) s sent ∧
      c.Listed item pages url s ((c.list item pages url).run s).result sent
        ((c.list item pages url).run s).state := by
  by_cases far : url.fetchable = true
  · obtain ⟨turns, last, final, leads, rfl | ⟨enough, ends⟩⟩ := c.exists_leads item url none s pages
    · obtain ⟨run, sends⟩ := leads.sends_unended far
      rw [run]
      exact ⟨_, sends, .unended (.inr far) leads rfl⟩
    · obtain ⟨result, ends⟩ := ends (itemsOf turns)
      obtain ⟨run, sends⟩ := leads.sends far ends enough
      rw [run]
      exact ⟨_, sends, .ended far leads ends enough⟩
  · have near := eq_false_of_ne_true far
    cases pages with
    | zero => exact ⟨[], Sends.pure none s, .unended (.inl rfl) (.here none s) rfl⟩
    | succ pages =>
      have run : (c.list item (pages + 1) url).run s = _ := run_list_of_unfetchable near pages
      refine ⟨[], fun log => ?_, ?_⟩
      · rw [run, run_list_of_unfetchable near, List.append_nil]
      · rw [run]
        exact .outside near (Nat.succ_ne_zero pages)

end Client

end Web

end DeployPlan
