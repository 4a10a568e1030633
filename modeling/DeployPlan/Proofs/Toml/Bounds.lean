import DeployPlan.Proofs.Json.Bounds
import DeployPlan.Toml.Decoding

/-!
Bounds on the numbers of a TOML text. Whole numbers take 64 bits with a sign, so nothing that is read
from a text holds a larger one.
-/

namespace DeployPlan.Toml

open Json (Node)

/-- No whole number in it takes more than 64 bits with a sign. -/
def Tree.Small (t : Tree) : Prop :=
  t.node.Within integerLimit

def Table.Small (t : Table) : Prop :=
  ∀ entry ∈ t, entry.2.2.Small

def ItemsSmall (items : List (Mark × Tree)) : Prop :=
  ∀ item ∈ items, item.2.Small

theorem mem_entryNodes {t : Table} {m : Option String × Node} :
    m ∈ entryNodes t ↔ ∃ entry ∈ t, m = (some entry.1, entry.2.2.node) := by
  induction t with
  | nil => simp [entryNodes]
  | cons entry t ih =>
    obtain ⟨name, mark, v⟩ := entry
    simp [entryNodes, ih]

theorem mem_itemNodes {items : List (Mark × Tree)} {n : Node} :
    n ∈ itemNodes items ↔ ∃ item ∈ items, n = item.2.node := by
  induction items with
  | nil => simp [itemNodes]
  | cons item items ih =>
    obtain ⟨mark, v⟩ := item
    simp [itemNodes, ih]

theorem small_table_iff {origin : Origin} {t : Table} :
    (Tree.table origin t).Small ↔ Table.Small t := by
  constructor
  · intro small entry member
    exact small.members _ (mem_entryNodes.mpr ⟨entry, member, rfl⟩)
  · intro small
    refine .object fun m member => ?_
    obtain ⟨entry, inside, rfl⟩ := mem_entryNodes.mp member
    exact small entry inside

theorem small_list_iff {items : List (Mark × Tree)} : (Tree.list items).Small ↔ ItemsSmall items := by
  constructor
  · intro small item member
    exact small.items _ (mem_itemNodes.mpr ⟨item, member, rfl⟩)
  · intro small
    refine .list fun n member => ?_
    obtain ⟨item, inside, rfl⟩ := mem_itemNodes.mp member
    exact small item inside

theorem small_tables_iff {elements : List (Mark × Tree)} :
    (Tree.tables elements).Small ↔ ItemsSmall elements := by
  have same : (Tree.tables elements).node = (Tree.list elements).node := by
    rw [Tree.node, Tree.node]
  rw [Tree.Small, same]
  exact small_list_iff

theorem double_ne_natural (n : Json.NumberText) (k : Nat) : n.double ≠ .natural k := by
  intro same
  simp only [Json.NumberText.double] at same
  repeat' split at same
  all_goals cases same

theorem small_integer {n : Int} (small : n ≤ integerLimit) : (Tree.integer n).Small := by
  refine .number fun k amount => ?_
  simp only [Json.NumberText.amount, Json.NumberText.integral, List.isEmpty_nil,
    Option.isNone_none, Bool.and_self, if_true, Number.ofDigits_digits] at amount
  split at amount
  · split at amount
    · cases amount
    · exact absurd amount (double_ne_natural _ k)
  · split at amount
    · rename_i positive _
      cases amount
      simp only [decide_eq_true_eq] at positive
      omega
    · exact absurd amount (double_ne_natural _ k)

/- Scalars. -/

theorem decimal?_le {cs rest : List Char} {n : Int} (read : decimal? cs = some (n, rest)) :
    n ≤ integerLimit := by
  simp only [decimal?, Option.bind_eq_bind, Option.bind_eq_some_iff] at read
  obtain ⟨⟨ds, after⟩, -, read⟩ := read
  split at read
  · split at read
    · cases read
      simp only [integerLimit, Int.ofNat_eq_natCast]
      omega
    · cases read
  · split at read
    · rename_i small
      cases read
      exact Int.ofNat_le.mpr small
    · cases read

theorem integer?_le {cs rest : List Char} {n : Int} (read : integer? cs = some (n, rest)) :
    n ≤ integerLimit := by
  rw [integer?.eq_def] at read
  split at read
  · split at read
    · exact decimal?_le read
    · simp only [Option.bind_eq_bind, Option.bind_eq_some_iff] at read
      obtain ⟨⟨ds, after⟩, -, read⟩ := read
      split at read
      · rename_i small
        cases read
        exact Int.ofNat_le.mpr small
      · cases read
  · exact decimal?_le read

theorem small_of_scalar? {cs rest : List Char} {t : Tree} (read : scalar? cs = some (t, rest)) :
    t.Small := by
  rw [scalar?] at read
  split at read
  · cases read
    exact .object (by simp)
  · cases read
    exact .float _
  · rename_i integer
    cases read
    exact small_integer (integer?_le integer)
  · split at read
    · cases read
      exact .bool true
    · cases read
      exact .bool false
    · cases read

/- Tables. -/

variable {t changed : Table} {path : List Key}

theorem Table.Small.append {name : String} {v : Mark × Tree} (small : Table.Small t)
    (value : v.2.Small) : Table.Small (t ++ [(name, v)]) := by
  intro entry member
  rcases List.mem_append.mp member with before | last
  · exact small entry before
  · rw [List.mem_singleton] at last
    exact last ▸ value

theorem Table.Small.putEntry {name : String} {v : Mark × Tree} (small : Table.Small t)
    (value : v.2.Small) : Table.Small (putEntry name v t) := by
  induction t with
  | nil =>
    intro entry member
    rw [DeployPlan.putEntry, List.mem_singleton] at member
    exact member ▸ value
  | cons first t ih =>
    obtain ⟨here, later⟩ := List.forall_mem_cons.mp small
    obtain ⟨other, w⟩ := first
    rw [DeployPlan.putEntry]
    split
    · exact List.forall_mem_cons.mpr ⟨value, later⟩
    · exact List.forall_mem_cons.mpr ⟨here, ih later⟩

theorem Table.Small.lookup {name : String} {v : Mark × Tree} (small : Table.Small t)
    (found : t.lookup name = some v) : v.2.Small := by
  obtain ⟨before, after, rfl, -⟩ := List.lookup_eq_some_iff.mp found
  exact small (name, v) (by simp)

theorem Table.small_nil : Table.Small [] :=
  List.forall_mem_nil _

theorem small_last {elements before : List (Mark × Tree)} {m : Mark} {origin : Origin}
    {inner : Table} (small : (Tree.tables elements).Small)
    (last : elements.reverse = (m, .table origin inner) :: before) :
    Table.Small inner ∧ ∀ inner', Table.Small inner' →
      (Tree.tables ((m, .table origin inner') :: before).reverse).Small := by
  have known := small_tables_iff.mp small
  have all : ∀ item ∈ (m, Tree.table origin inner) :: before, item.2.Small := by
    intro item member
    rw [← last] at member
    exact known item (List.mem_reverse.mp member)
  obtain ⟨here, others⟩ := List.forall_mem_cons.mp all
  refine ⟨small_table_iff.mp here, fun inner' fine => small_tables_iff.mpr ?_⟩
  intro item member
  rcases List.mem_cons.mp (List.mem_reverse.mp member) with rfl | behind
  · exact small_table_iff.mpr fine
  · exact others item behind

theorem small_of_put {key : Key} {v : Mark × Tree} (value : v.2.Small) (small : Table.Small t)
    (put : Table.put key v path t = some changed) : Table.Small changed := by
  -- Along the path a missing table is made, and a table or the last of a list is entered.
  induction path generalizing t changed with
  | nil =>
    rw [Table.put] at put
    split at put
    · cases put
      exact small.append value
    · cases put
  | cons k path ih =>
    rw [Table.put] at put
    split at put
    · obtain ⟨inner, below, rfl⟩ := Option.map_eq_some_iff.mp put
      exact small.append (small_table_iff.mpr (ih Table.small_nil below))
    · rename_i found
      have known := small_table_iff.mp (small.lookup found)
      split at put
      · obtain ⟨inner, below, rfl⟩ := Option.map_eq_some_iff.mp put
        exact small.putEntry (small_table_iff.mpr (ih known below))
      · cases put
    · rename_i found
      have known := small.lookup found
      split at put
      · rename_i last
        obtain ⟨kept, replaced⟩ := small_last known last
        obtain ⟨inner, below, rfl⟩ := Option.map_eq_some_iff.mp put
        exact small.putEntry (replaced inner (ih kept below))
      · cases put
    · cases put

theorem small_of_change {f : Table → Option Table}
    (keeps : ∀ t t', Table.Small t → f t = some t' → Table.Small t') (small : Table.Small t)
    (change : Table.change f path t = some changed) : Table.Small changed := by
  induction path generalizing t changed with
  | nil => exact keeps t changed small change
  | cons k path ih =>
    rw [Table.change] at change
    split at change
    · obtain ⟨inner, below, rfl⟩ := Option.map_eq_some_iff.mp change
      exact small.append (small_table_iff.mpr (ih Table.small_nil below))
    · rename_i found
      have known := small_table_iff.mp (small.lookup found)
      split at change
      · cases change
      · obtain ⟨inner, below, rfl⟩ := Option.map_eq_some_iff.mp change
        exact small.putEntry (small_table_iff.mpr (ih known below))
    · rename_i found
      have known := small.lookup found
      split at change
      · rename_i last
        obtain ⟨kept, replaced⟩ := small_last known last
        obtain ⟨inner, below, rfl⟩ := Option.map_eq_some_iff.mp change
        exact small.putEntry (replaced inner (ih kept below))
      · cases change
    · cases change

theorem small_of_declare {m : Mark} {key : Key} (small : Table.Small t)
    (declare : Table.declare m key t = some changed) : Table.Small changed := by
  rw [Table.declare] at declare
  split at declare
  · cases declare
    exact small.append (small_table_iff.mpr Table.small_nil)
  · rename_i found
    cases declare
    have inner := small.lookup found
    have others : Table.Small (Table.erase key.name t) := fun entry member =>
      small entry (List.mem_filter.mp member).1
    exact others.append (small_table_iff.mpr (small_table_iff.mp inner))
  · cases declare

theorem small_of_declareElement {m : Mark} {key : Key} (small : Table.Small t)
    (declare : Table.declareElement m key t = some changed) : Table.Small changed := by
  have empty : (Tree.table .header []).Small := small_table_iff.mpr Table.small_nil
  rw [Table.declareElement] at declare
  split at declare
  · cases declare
    exact small.append (small_tables_iff.mpr (List.forall_mem_singleton.mpr empty))
  · rename_i found
    cases declare
    have known := small_tables_iff.mp (small.lookup found)
    refine small.putEntry (small_tables_iff.mpr fun item member => ?_)
    rcases List.mem_append.mp member with before | last
    · exact known item before
    · exact List.mem_singleton.mp last ▸ empty
  · cases declare

/- Values. -/

/-- What such a reader reads is small. -/
def ReadsSmall (value : Reader) : Prop :=
  ∀ cs v rest, value cs = .ok (v, rest) → v.Small

variable {value : Reader} {cs rest : List Char}

theorem ReadsSmall.items (reads : ReadsSmall value) {fuel : Nat} {vs : List (Mark × Tree)}
    (read : readItems value fuel cs = .ok (vs, rest)) : ItemsSmall vs := by
  induction fuel generalizing cs vs rest with
  | zero => cases read
  | succ fuel ih =>
    rw [readItems] at read
    obtain ⟨start, -, read⟩ := bind_eq_ok_iff.mp read
    split at read
    · cases read
      exact List.forall_mem_nil _
    · obtain ⟨⟨v, after⟩, first, read⟩ := bind_eq_ok_iff.mp read
      have here := reads _ _ _ first
      simp only at read
      split at read
      · obtain ⟨⟨more, behind⟩, later, read⟩ := bind_eq_ok_iff.mp read
        cases read
        exact List.forall_mem_cons.mpr ⟨here, ih later⟩
      · cases read
        exact List.forall_mem_singleton.mpr here
      · cases read
      · cases read

theorem ReadsSmall.pair (reads : ReadsSmall value) {p : KeyPath × Mark × Tree}
    (read : readPair value cs = .ok (p, rest)) : p.2.2.Small := by
  obtain ⟨⟨path, after⟩, -, read⟩ := bind_eq_ok_iff.mp read
  simp only at read
  split at read
  · obtain ⟨⟨v, behind⟩, first, read⟩ := bind_eq_ok_iff.mp read
    cases read
    exact reads _ _ _ first
  · cases read

theorem ReadsSmall.pairs (reads : ReadsSmall value) {fuel : Nat}
    {ps : List (KeyPath × Mark × Tree)} (read : readPairs value fuel cs = .ok (ps, rest)) :
    ∀ p ∈ ps, p.2.2.Small := by
  induction fuel generalizing cs ps rest with
  | zero => cases read
  | succ fuel ih =>
    rw [readPairs] at read
    obtain ⟨⟨p, after⟩, first, read⟩ := bind_eq_ok_iff.mp read
    have here := reads.pair first
    simp only at read
    split at read
    · obtain ⟨⟨more, behind⟩, later, read⟩ := bind_eq_ok_iff.mp read
      cases read
      exact List.forall_mem_cons.mpr ⟨here, ih later⟩
    · cases read
      exact List.forall_mem_singleton.mpr here

theorem small_of_puts {before : Table} (fine : Table.Small before)
    {ps : List (KeyPath × Mark × Tree)} (small : ∀ p ∈ ps, p.2.2.Small)
    (made : ps.foldlM (fun t (path, v) => t.put path.last v path.above) before = some t) :
    Table.Small t := by
  induction ps generalizing before with
  | nil =>
    cases made
    exact fine
  | cons p ps ih =>
    obtain ⟨here, later⟩ := List.forall_mem_cons.mp small
    rw [List.foldlM_cons] at made
    obtain ⟨next, put, made⟩ := Option.bind_eq_some_iff.mp made
    exact ih (small_of_put here fine put) later made

theorem readsSmall_of_below {room : Nat}
    (below : ∀ lower, room = lower + 1 → ReadsSmall (readValue lower)) :
    ReadsSmall (readValue room) := by
  intro cs v rest read
  -- Lists and inline tables alone hold other values, which are read with less room.
  rw [readValue.eq_def] at read
  split at read
  · cases read
  split at read
  · obtain ⟨⟨text, after⟩, -, same⟩ := map_eq_ok_iff.mp read
    cases same
    exact .text _
  split at read
  · split at read
    · cases read
    · obtain ⟨⟨vs, after⟩, items, same⟩ := map_eq_ok_iff.mp read
      cases same
      exact small_list_iff.mpr ((below _ rfl).items items)
  split at read
  · split at read
    · cases read
    · extract_lets close at read
      have closed : ∀ p : List (KeyPath × Mark × Tree) × List Char,
          (∀ q ∈ p.1, q.2.2.Small) → close p = .ok (v, rest) → v.Small := by
        intro ⟨ps, after⟩ small read
        simp only [close] at read
        split at read
        · cases read
        · rename_i made
          split at read
          · cases read
            exact small_table_iff.mpr (small_of_puts Table.small_nil small made)
          · cases read
      split at read
      · exact closed ([], _) (by simp) read
      · obtain ⟨⟨ps, after⟩, pairs, read⟩ := bind_eq_ok_iff.mp read
        exact closed (ps, after) ((below _ rfl).pairs pairs) read
  · split at read
    · rename_i scalar
      cases read
      exact small_of_scalar? scalar
    · cases read

theorem readsSmall_readValue (room : Nat) : ReadsSmall (readValue room) := by
  induction room with
  | zero =>
    refine readsSmall_of_below fun lower impossible => ?_
    cases impossible
  | succ room ih =>
    refine readsSmall_of_below fun lower same => ?_
    cases same
    exact ih

/- Statements. -/

def Statement.Small : Statement → Prop
  | .pair _ _ value => value.2.Small
  | _ => True

theorem small_of_readHeader {mark : Mark} {s : Statement}
    (read : readHeader mark cs = .ok (s, rest)) : s.Small := by
  rw [readHeader.eq_def] at read
  split at read
  all_goals
    obtain ⟨⟨path, after⟩, -, read⟩ := bind_eq_ok_iff.mp read
    simp only at read
    split at read
    · cases read
      trivial
    · cases read

theorem small_of_readStatement {s : Statement} (read : readStatement cs = .ok (s, rest)) :
    s.Small := by
  rw [readStatement.eq_def] at read
  split at read
  · obtain ⟨⟨first, after⟩, header, read⟩ := bind_eq_ok_iff.mp read
    obtain ⟨behind, -, same⟩ := bind_eq_ok_iff.mp read
    cases same
    exact small_of_readHeader header
  · obtain ⟨⟨first, after⟩, pair, read⟩ := bind_eq_ok_iff.mp read
    obtain ⟨behind, -, same⟩ := bind_eq_ok_iff.mp read
    cases same
    obtain ⟨⟨⟨path, v⟩, later⟩, pair, same⟩ := map_eq_ok_iff.mp pair
    cases same
    exact (readsSmall_readValue _).pair pair

theorem small_of_statements (fuel : Nat) (cs : List Char) :
    ∀ s ∈ (statements fuel cs).1, s.Small := by
  induction fuel generalizing cs with
  | zero => simp [statements]
  | succ fuel ih =>
    rw [statements]
    split
    · simp
    split
    · split
      · exact ih _
      · simp
    · split
      · rename_i read
        exact List.forall_mem_cons.mpr ⟨small_of_readStatement read, ih _⟩
      · simp

theorem small_of_add {d e : Draft} {s : Statement} (small : Table.Small d.root)
    (fine : s.Small) (added : d.add s = some e) : Table.Small e.root := by
  cases s with
  | header m path =>
    obtain ⟨root, change, rfl⟩ := Option.map_eq_some_iff.mp added
    exact small_of_change (fun _ _ => small_of_declare) small change
  | element m path =>
    obtain ⟨root, change, rfl⟩ := Option.map_eq_some_iff.mp added
    exact small_of_change (fun _ _ => small_of_declareElement) small change
  | pair m path v =>
    obtain ⟨root, change, rfl⟩ := Option.map_eq_some_iff.mp added
    exact small_of_change (fun _ _ known => small_of_put fine known) small change

theorem small_of_build {d e : Draft} {ss : List Statement} (small : Table.Small d.root)
    (fine : ∀ s ∈ ss, s.Small) (built : build d ss = .ok e) : Table.Small e.root := by
  induction ss generalizing d with
  | nil =>
    cases built
    exact small
  | cons s ss ih =>
    obtain ⟨here, later⟩ := List.forall_mem_cons.mp fine
    rw [build] at built
    split at built
    · rename_i added
      exact ih (small_of_add small here added) later built
    · cases built

theorem small_of_read {root : Table} (read : read cs = .ok root) : Table.Small root := by
  obtain ⟨d, built, ended⟩ := bind_eq_ok_iff.mp read
  have said := small_of_statements ((dropOrderMark cs).length + 1) (dropOrderMark cs)
  have small := small_of_build Table.small_nil said built
  simp only at ended
  split at ended
  · cases ended
    exact small
  · cases ended

theorem keeps_of_decode {α : Type} {d : Json.Decoder α} {P : α → Prop}
    (keeps : Json.Keeps integerLimit d P) {text : String} {a : α} (decoded : decode d text = .ok a) :
    P a := by
  rw [decode] at decoded
  split at decoded
  · cases decoded
  · rename_i read
    split at decoded
    · rename_i made
      cases decoded
      exact keeps _ _ _ (small_table_iff.mpr (small_of_read read)) made
    · cases decoded

end DeployPlan.Toml
