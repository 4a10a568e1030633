import DeployPlan.Proofs.Ordering.Answer
import DeployPlan.Proofs.Web.Listing
import DeployPlan.Web.BuildServer

/-!
Listings in turn. Definitions are listed scope by scope, and builds project by project: one listing after
another, on the servers as the one before has left them. The first listing that fails is the last one.
-/

namespace DeployPlan.Web

open Json (Decoder)

variable {σ κ α β : Type}

/-- Listings of one kind: what their items are, where the one for a key is found, and what it gives. -/
structure Series (κ α β : Type) where
  item : Decoder α
  address : κ → Except Failure Url
  give : κ → List α → List β

structure Found (κ α : Type) where
  key : κ
  items : List α
  requests : List Request

namespace Series

variable (v : Series κ α β) (c : Client σ) (pages : Nat)

def listing (key : κ) : Act σ (Option (List α)) := do
  let url ← Act.ofExcept (v.address key)
  c.list v.item pages url

def behind (key : κ) (others : Act σ (Option (List β))) : Option (List α) → Act σ (Option (List β))
  | none => return none
  | some items => Option.map (v.give key items ++ ·) <$> others

def inTurn : List κ → Act σ (Option (List β))
  | [] => return some []
  | key :: keys => v.listing c pages key >>= v.behind key (inTurn keys)

/-- What the listing for a key comes to, with its requests and the servers after it. -/
inductive Lists (key : κ) (s : σ) : Except Failure (Option (List α)) → List Request → σ → Prop
  | unaddressed {e : Failure} : v.address key = .error e → Lists key s (.error e) [] s
  | listed {url : Url} {r : Except Failure (Option (List α))} {sent : List Request} {t : σ} :
      v.address key = .ok url → c.Listed v.item pages url s r sent t → Lists key s r sent t

inductive Reads : σ → List (Found κ α) → σ → Prop
  | none (s : σ) : Reads s [] s
  | next {key : κ} {items : List α} {sent : List Request} {found : List (Found κ α)} {s t u : σ} :
      v.Lists c pages key s (.ok (some items)) sent t → Reads t found u →
        Reads s (⟨key, items, sent⟩ :: found) u

/-- How the listings for `keys` end. Those for all keys were read, and what they give is put together; or the
first one that could not be read to its end was the last one, and its result is that of the whole. -/
inductive Concludes (keys : List κ) (s : σ) :
    Except Failure (Option (List β)) → List Request → σ → Prop
  | complete {found : List (Found κ α)} {t : σ} : v.Reads c pages s found t → found.map (·.key) = keys →
      Concludes keys s (.ok (some (found.flatMap fun f => v.give f.key f.items)))
        (found.flatMap (·.requests)) t
  | failed {found : List (Found κ α)} {key : κ} {later : List κ} {e : Failure} {sent : List Request}
      {t u : σ} : v.Reads c pages s found t → keys = found.map (·.key) ++ key :: later →
        v.Lists c pages key t (.error e) sent u →
          Concludes keys s (.error e) (found.flatMap (·.requests) ++ sent) u
  | unended {found : List (Found κ α)} {key : κ} {later : List κ} {sent : List Request}
      {t u : σ} : v.Reads c pages s found t → keys = found.map (·.key) ++ key :: later →
        v.Lists c pages key t (.ok none) sent u →
          Concludes keys s (.ok none) (found.flatMap (·.requests) ++ sent) u

def RunsThrough (keys : List κ) (s : σ) (m : Act σ (Option (List β)))
    (noted : Act (σ × List Request) (Option (List β))) : Prop :=
  ∃ sent, Sends m noted s sent ∧ v.Concludes c pages keys s (m.run s).result sent (m.run s).state

variable {v c pages} {key : κ} {keys : List κ} {s t u : σ} {sent later : List Request}

theorem sends_listing (v : Series κ α β) (c : Client σ) (pages : Nat) (key : κ) (s : σ) :
    ∃ sent, Sends (v.listing c pages key) (v.listing c.logged pages key) s sent ∧
      v.Lists c pages key s ((v.listing c pages key).run s).result sent
        ((v.listing c pages key).run s).state := by
  unfold listing
  cases address : v.address key with
  | error e => exact ⟨[], Sends.fail e s, .unaddressed address⟩
  | ok url =>
    obtain ⟨sent, sends, listed⟩ := c.sends_list v.item pages url s
    exact ⟨sent, sends, .listed address listed⟩

theorem Concludes.behind {items : List α} {r : Except Failure (Option (List β))}
    (first : v.Lists c pages key s (.ok (some items)) sent t)
    (others : v.Concludes c pages keys t r later u) :
    v.Concludes c pages (key :: keys) s (r.map (Option.map (v.give key items ++ ·))) (sent ++ later) u := by
  cases others with
  | complete reads every => exact .complete (.next first reads) (by rw [List.map_cons, every])
  | failed reads split last =>
    rw [← List.append_assoc]
    exact .failed (.next first reads) (by rw [split]; rfl) last
  | unended reads split last =>
    rw [← List.append_assoc]
    exact .unended (.next first reads) (by rw [split]; rfl) last

theorem inTurn_runsThrough (v : Series κ α β) (c : Client σ) (pages : Nat) (keys : List κ) (s : σ) :
    v.RunsThrough c pages keys s (v.inTurn c pages keys) (v.inTurn c.logged pages keys) := by
  -- Each listing starts where the one before it has left the servers.
  induction keys generalizing s with
  | nil => exact ⟨[], Sends.pure _ s, .complete (.none s) rfl⟩
  | cons key keys ih =>
    obtain ⟨sent, sends, lists⟩ := sends_listing v c pages key s
    unfold RunsThrough inTurn
    cases result : ((v.listing c pages key).run s).result with
    | error e =>
      rw [result] at lists
      rw [Act.run_bind_error result]
      exact ⟨sent, sends.bind_error result, .failed (.none s) rfl lists⟩
    | ok items? =>
      rw [result] at lists
      rw [Act.run_bind_ok result]
      cases items? with
      | none =>
        refine ⟨sent ++ [], sends.bind_ok result (Sends.pure none _), ?_⟩
        rw [List.append_nil]
        exact .unended (.none s) rfl lists
      | some items =>
        obtain ⟨later, more, others⟩ := ih ((v.listing c pages key).run s).state
        refine ⟨sent ++ later, sends.bind_ok result (more.map _), ?_⟩
        rw [behind, Act.run_map]
        exact others.behind lists

end Series

/-! Definitions -/

structure SentDefinition where
  id : UInt64
  name : String
  project : Option String

def sentDefinitionDecoder : Decoder SentDefinition :=
  Json.record "Definition"
    (.cons "id" Json.word none <| .cons "name" Json.text none <|
      .cons "project" (Json.optional projectNameDecoder) (some none) .nil)
    fun (id, name, project, ()) => ⟨id, name, project⟩

/-- A definition belongs to the project that was sent with it. When that is missing or empty, it belongs to
the scope that was asked. -/
def SentDefinition.under (scope : String) (d : SentDefinition) : BuildDefinition where
  id := d.id
  name := d.name
  project :=
    match d.project with
    | none => scope
    | some project => if project = "" then scope else project

theorem definitionDecoder_mapped (scope : String) :
    definitionDecoder scope = Decoder.map (SentDefinition.under scope) sentDefinitionDecoder := by
  refine .trans ?_ (Json.record_made "Definition" _ _ (SentDefinition.under scope))
  refine congrArg (Json.record "Definition" _) (funext fun (id, name, project, ()) => ?_)
  cases project with
  | none => rfl
  | some project =>
    by_cases empty : project = "" <;> simp [SentDefinition.under, Option.filter, empty]

namespace Client

variable (c : Client σ) (base : Url) (filter : Option NameFilter)

def definitionSeries : Series String SentDefinition BuildDefinition where
  item := sentDefinitionDecoder
  address scope := c.endpoint base scope ["definitions"]
  give scope found :=
    (found.map (SentDefinition.under scope)).filter fun d => NameFilter.acceptsAll filter d.name

theorem definitions_eq (pages : Nat) (scopes : List String) :
    c.definitions pages base filter scopes = (c.definitionSeries base filter).inTurn c pages scopes := by
  induction scopes with
  | nil => rfl
  | cons scope scopes ih =>
    rw [definitions, Series.inTurn, Series.listing, bind_assoc]
    refine congrArg (_ >>= ·) (funext fun url => ?_)
    rw [definitionDecoder_mapped, list_mapped, bind_map_left]
    refine congrArg (_ >>= ·) (funext fun found? => ?_)
    cases found? with
    | none => rfl
    | some found =>
      rw [← ih]
      rfl

/-! Builds -/

def idsText (ids : List UInt64) : String :=
  Text.join "," (ids.map fun id => Number.text id.toNat)

def buildSeries : Series (String × List UInt64) Build Build where
  item := buildDecoder
  address project :=
    (c.endpoint base project.1 ["builds"]).map fun url => url.withPair "definitions" (idsText project.2)
  give _ found := found

theorem buildsOf_eq (pages : Nat) (projects : List (String × List UInt64)) :
    c.buildsOf pages base projects = (c.buildSeries base).inTurn c pages projects := by
  induction projects with
  | nil => rfl
  | cons project projects ih =>
    obtain ⟨project, ids⟩ := project
    have address : (c.buildSeries base).address (project, ids) =
        (c.endpoint base project ["builds"]).map fun url =>
          url.withPair "definitions" (idsText ids) := rfl
    rw [buildsOf, Series.inTurn, Series.listing, bind_assoc, address, ih]
    cases c.endpoint base project ["builds"] with
    | error e => rfl
    | ok url =>
      refine congrArg (c.list buildDecoder pages _ >>= ·) (funext fun found? => ?_)
      cases found? <;> rfl

/-- The projects of definitions in ascending order, each once, with the ids of its definitions in the order
of these. -/
structure Grouped (ds : List BuildDefinition) (projects : List (String × List UInt64)) : Prop where
  ascending : projects.Pairwise fun p q => p.1 < q.1
  project_iff (project : String) : project ∈ projects.map (·.1) ↔ ∃ d ∈ ds, d.project = project
  ids : ∀ p ∈ projects, p.2 = (ds.filter fun d => d.project = p.1).map (·.id)

theorem grouped_idsByProject (ds : List BuildDefinition) : Grouped ds (idsByProject ds) := by
  have same : idsByProject ds = (nameSet (ds.map (·.project))).map fun p =>
    (p, (ds.filter fun d => d.project == p).map (·.id)) := rfl
  rw [same]
  constructor
  · rw [List.pairwise_map]
    exact ascending_nameSet _
  · intro project
    simp [mem_nameSet]
  · intro p member
    obtain ⟨project, -, rfl⟩ := List.mem_map.mp member
    rfl

example : idsByProject [⟨7, "Nightly", "Web"⟩, ⟨3, "Release", "Core"⟩, ⟨9, "Weekly", "Web"⟩] =
    [("Core", [3]), ("Web", [7, 9])] := by cbv

end Client

def tokenPairs : Option String → List (List UInt8 × List UInt8)
  | none => []
  | some token => [(Text.Utf8.encode "continuationToken".toList, Text.Utf8.encode token.toList)]

theorem pairs_pageUrl (url : Url) (token : Option String) :
    (pageUrl url token).pairs = url.pairs ++ tokenPairs token := by
  cases token with
  | none => exact (List.append_nil _).symm
  | some token => exact (Url.pairs_withPair url "continuationToken" token).1

/-- Builds are listed project by project, in ascending order and each project once, with all ids of its
definitions in every request; definitions are listed scope by scope, each scope once, and what passes the
filter is kept. The results of all listings are put together; a listing that fails ends the whole. -/
theorem listings_in_turn (c : Client σ) (pages : Nat) (base : Url) (s : σ) :
    (∀ ds, Client.Grouped ds (Client.idsByProject ds) ∧
      (c.buildSeries base).RunsThrough c pages (Client.idsByProject ds) s (c.builds pages base ds)
        (c.logged.builds pages base ds)) ∧
      (∀ filter scopes, (c.definitionSeries base filter).RunsThrough c pages scopes s
        (c.definitions pages base filter scopes) (c.logged.definitions pages base filter scopes)) ∧
      ∀ (url : Url) (ids : List UInt64) (token : Option String),
        (pageUrl (url.withPair "definitions" (Client.idsText ids)) token).pairs = url.pairs ++
          (Text.Utf8.encode "definitions".toList, Text.Utf8.encode (Client.idsText ids).toList) ::
            tokenPairs token := by
  refine ⟨?_, ?_, ?_⟩
  · intro ds
    refine ⟨Client.grouped_idsByProject ds, ?_⟩
    unfold Client.builds
    rw [Client.buildsOf_eq, Client.buildsOf_eq]
    exact Series.inTurn_runsThrough _ c pages _ s
  · intro filter scopes
    rw [Client.definitions_eq, Client.definitions_eq]
    exact Series.inTurn_runsThrough _ c pages scopes s
  · intro url ids token
    rw [pairs_pageUrl, (Url.pairs_withPair _ _ _).1, List.append_assoc]
    rfl

end DeployPlan.Web
