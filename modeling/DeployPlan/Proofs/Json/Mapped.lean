import DeployPlan.Proofs.Json.Record

/-!
Decoders followed by a function. A list is decoded as before, with the function on each item, and a record
with the function on a field of it; what is refused is refused for the same reason.
-/

namespace DeployPlan.Json

variable {α β γ δ ε : Type} (f : α → β) (d : Decoder α) (ctx : Context) (stop : Option Stop)

def Decoder.map : Decoder β := fun ctx n => (d ctx n).map f

theorem map_mismatch (wanted : String) (n : Node) :
    (mismatch ctx wanted n : Result α).map f = mismatch ctx wanted n := by
  cases n with
  | number n =>
    unfold mismatch
    dsimp only
    cases n.amount <;> rfl
  | _ => rfl

theorem items_mapped (i : Nat) (ns : List Node) :
    items (Decoder.map f d) ctx stop i ns = (items d ctx stop i ns).map (List.map f) := by
  induction ns generalizing i with
  | nil => cases stop <;> rfl
  | cons n ns ih =>
    rw [items, items, ih, Decoder.map]
    cases d ctx n with
    | error e => rfl
    | ok a => cases items d ctx stop (i + 1) ns <;> rfl

theorem list_mapped : list (Decoder.map f d) = Decoder.map (List.map f) (list d) := by
  funext ctx n
  have other : ∀ {n : Node}, (∀ ns stop, n ≠ .list ns stop) →
      list (Decoder.map f d) ctx n = Decoder.map (List.map f) (list d) ctx n := by
    intro n apart
    rw [Decoder.map, list, list, map_mismatch]
    all_goals exact apart
  cases n with
  | list ns stop =>
    unfold Decoder.map list enter
    dsimp only
    split
    · rfl
    · exact items_mapped f d _ stop 0 ns
  | _ => exact other (by simp)

/-! The first field of a record -/

variable (name : String) (absent : Option α) (rest : Fields γ)

theorem take_cons (slot : Option α) (slots : rest.Slots) :
    (Fields.cons name d absent rest).take (slot, slots) =
      match slot.or absent with
      | some a => (rest.take slots).map (a, ·)
      | none => refuse (.missingField name) := by
  cases slot <;> cases absent <;> rfl

theorem members_mapped (slot : Option α) (slots : rest.Slots) (ms : List (Option String × Node)) :
    members ctx stop (.cons name (Decoder.map f d) (absent.map f) rest) ms (slot.map f, slots) =
      (members ctx stop (.cons name d absent rest) ms (slot, slots)).map (Prod.map f id) := by
  -- Member by member, the first slot holds the function of what it held, and the other slots are the same.
  induction ms generalizing slot slots with
  | nil =>
    cases stop with
    | some _ => rfl
    | none =>
      change Fields.take _ _ = Except.map _ (Fields.take _ _)
      rw [take_cons, take_cons, ← Option.map_or]
      cases slot.or absent with
      | none => rfl
      | some a =>
        dsimp only [Option.map_some]
        cases rest.take slots <;> rfl
  | cons m ms ih =>
    obtain ⟨k, n⟩ := m
    cases k with
    | none => rfl
    | some k =>
      refine (members_some (.cons name (Decoder.map f d) (absent.map f) rest) k n
        (slot.map f, slots)).trans (.trans ?_ (congrArg _ (members_some (.cons name d absent rest) k n
          (slot, slots)).symm))
      rw [put_cons, put_cons]
      by_cases own : k = name
      · rw [if_pos own, if_pos own]
        cases slot with
        | some _ => rfl
        | none =>
          rw [Decoder.map]
          cases d ctx n with
          | error e => rfl
          | ok a => exact ih (some a) slots
      · rw [if_neg own, if_neg own]
        cases rest.put ctx k n slots with
        | none =>
          simp only [Option.map_none, ih]
          cases skip n <;> rfl
        | some put =>
          cases put with
          | ok slots => exact ih slot slots
          | error e => rfl

theorem nextItem_mapped (i : Nat) (missing : Result α) (ns : List Node) :
    nextItem (Decoder.map f d) ctx stop i (missing.map f) ns =
      (nextItem d ctx stop i missing ns).map (Prod.map f id) := by
  cases ns with
  | nil =>
    cases stop with
    | some _ => rfl
    | none => cases missing <;> rfl
  | cons n ns =>
    change ((within (.item i) ((d ctx n).map f)).map (·, ns)) =
      ((within (.item i) (d ctx n)).map (·, ns)).map _
    cases d ctx n <;> rfl

def missingItem (absent : Option α) (wanted : String) (i : Nat) : Result α :=
  absent.elim (refuse (.wrongLength i wanted)) .ok

theorem takeItems_cons (wanted : String) (i : Nat) (ns : List Node) :
    (Fields.cons name d absent rest).takeItems ctx stop wanted i ns =
      nextItem d ctx stop i (missingItem absent wanted i) ns >>= fun first =>
        rest.takeItems ctx stop wanted (i + 1) first.2 >>= fun others =>
          .ok ((first.1, others.1), others.2) := by
  cases absent <;> rfl

theorem takeItems_mapped (wanted : String) (i : Nat) (ns : List Node) :
    (Fields.cons name (Decoder.map f d) (absent.map f) rest).takeItems ctx stop wanted i ns =
      ((Fields.cons name d absent rest).takeItems ctx stop wanted i ns).map
        (Prod.map (Prod.map f id) id) := by
  have missing : missingItem (absent.map f) wanted i = (missingItem absent wanted i).map f := by
    cases absent <;> rfl
  rw [takeItems_cons, takeItems_cons, missing, nextItem_mapped]
  cases nextItem d ctx stop i (missingItem absent wanted i) ns with
  | error e => rfl
  | ok first =>
    change (rest.takeItems ctx stop wanted (i + 1) first.2 >>= _) =
      Except.map _ (rest.takeItems ctx stop wanted (i + 1) first.2 >>= _)
    cases rest.takeItems ctx stop wanted (i + 1) first.2 <;> rfl

theorem record_mapped (title : String) (make : β × γ → δ) :
    record title (.cons name (Decoder.map f d) (absent.map f) rest) make =
      record title (.cons name d absent rest) fun read => make (f read.1, read.2) := by
  funext ctx n
  cases n with
  | object ms stop =>
    rw [record, record, enter, enter]
    split
    · rfl
    · refine (congrArg (Except.map make) (members_mapped f d { ctx with room := ctx.room - 1 } stop
        name absent rest none rest.empty ms)).trans ?_
      change _ = Except.map _ (members _ _ (.cons name d absent rest) ms (none, rest.empty))
      cases members _ _ (.cons name d absent rest) ms (none, rest.empty) <;> rfl
  | list ns stop =>
    rw [record, record, enter, enter]
    dsimp only
    split
    · rfl
    · have counts : (Fields.cons name (Decoder.map f d) (absent.map f) rest).count =
          (Fields.cons name d absent rest).count := rfl
      rw [counts, takeItems_mapped]
      cases (Fields.cons name d absent rest).takeItems { ctx with room := ctx.room - 1 } stop _ 0 ns <;>
        rfl
  | _ => rfl

theorem record_made (title : String) (fs : Fields γ) (make : γ → δ) (g : δ → ε) :
    record title fs (fun read => g (make read)) = Decoder.map g (record title fs make) := by
  funext ctx n
  have other : ∀ {n : Node}, (∀ ms stop, n ≠ .object ms stop) → (∀ ns stop, n ≠ .list ns stop) →
      record title fs (fun read => g (make read)) ctx n =
        Decoder.map g (record title fs make) ctx n := by
    intro n apart apart'
    rw [Decoder.map, record, record, map_mismatch]
    all_goals assumption
  cases n with
  | object ms stop =>
    rw [Decoder.map, record, record, enter, enter]
    split
    · rfl
    · cases members _ stop fs ms fs.empty <;> rfl
  | list ns stop =>
    rw [Decoder.map, record, record, enter, enter]
    dsimp only
    split
    · rfl
    · cases fs.takeItems { ctx with room := ctx.room - 1 } stop _ 0 ns with
      | error e => rfl
      | ok read =>
        change (closeItems _ _ _ read.2 >>= _) = Except.map g (closeItems _ _ _ read.2 >>= _)
        cases closeItems { ctx with room := ctx.room - 1 } stop fs.count read.2 <;> rfl
  | _ => exact other (by simp) (by simp)

theorem decodeText_mapped (s : String) : decodeText (Decoder.map f d) s = (decodeText d s).map f := by
  unfold decodeText Decoder.map
  obtain ⟨n, rest⟩ := Node.read s.toList
  dsimp only
  cases d .ofStream n with
  | error c => rfl
  | ok a =>
    cases rest with
    | none => rfl
    | some rest =>
      change (if _ then _ else _) = Except.map f (if _ then _ else _)
      split <;> rfl

end DeployPlan.Json
