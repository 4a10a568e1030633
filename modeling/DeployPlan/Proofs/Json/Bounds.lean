import DeployPlan.Proofs.Json.Record
import DeployPlan.Proofs.Steps

/-!
Bounds on numbers. Where no number of a document is larger than a limit, no number that is decoded
from it is, apart from the values that fields take when they are left out.
-/

namespace DeployPlan.Json

inductive Node.Within (limit : Nat) : Node → Prop
  | null : Within limit .null
  | bool (b : Bool) : Within limit (.bool b)
  | number {n : NumberText} : (∀ k, n.amount = .natural k → k ≤ limit) → Within limit (.number n)
  | float (f : Float) : Within limit (.float f)
  | text (s : String) : Within limit (.text s)
  | unpaired : Within limit .unpaired
  | list {ns : List Node} {stop : Option Stop} :
      (∀ n ∈ ns, Within limit n) → Within limit (.list ns stop)
  | object {ms : List (Option String × Node)} {stop : Option Stop} :
      (∀ m ∈ ms, Within limit m.2) → Within limit (.object ms stop)
  | broken (stop : Stop) : Within limit (.broken stop)

variable {limit : Nat}

theorem Node.Within.items {ns : List Node} {stop : Option Stop}
    (within : Within limit (.list ns stop)) : ∀ n ∈ ns, Within limit n := by
  cases within with
  | list items => exact items

theorem Node.Within.members {ms : List (Option String × Node)} {stop : Option Stop}
    (within : Within limit (.object ms stop)) : ∀ m ∈ ms, Within limit m.2 := by
  cases within with
  | object members => exact members

/-- What is decoded from a bounded document has the property. -/
def Keeps (limit : Nat) {α : Type} (d : Decoder α) (P : α → Prop) : Prop :=
  ∀ ctx n a, Node.Within limit n → d ctx n = .ok a → P a

variable {α β : Type} {d : Decoder α} {P : α → Prop}

theorem keeps_any (d : Decoder α) : Keeps limit d fun _ => True :=
  fun _ _ _ _ _ => trivial

theorem mismatch_ne_ok {ctx : Context} {wanted : String} {n : Node} {a : α} :
    mismatch ctx wanted n ≠ .ok a := by
  intro decoded
  cases n with
  | number n =>
    rw [mismatch] at decoded
    split at decoded <;> cases decoded
  | _ => cases decoded

theorem keeps_natural (wanted : String) : Keeps limit (natural wanted) (· ≤ limit) := by
  intro ctx n a within decoded
  cases n with
  | number n =>
    cases within with
    | number small =>
      rw [natural] at decoded
      split at decoded
      · rename_i amount
        cases decoded
        exact small _ amount
      · cases decoded
      · exact absurd decoded mismatch_ne_ok
  | _ =>
    simp only [natural] at decoded
    exact absurd decoded mismatch_ne_ok

theorem keeps_word (wanted : String) :
    Keeps limit (fun ctx n => (natural wanted ctx n).map UInt64.ofNat) (·.toNat ≤ limit) := by
  intro ctx n a within decoded
  obtain ⟨k, read, rfl⟩ := map_eq_ok_iff.mp decoded
  have small := keeps_natural wanted ctx n k within read
  exact Nat.le_trans (Nat.mod_le _ _) small

/- Records. -/

/-- `S` holds of slots that were filled from a bounded document, and `Q` of the values in the end. -/
inductive FieldsKeep (limit : Nat) :
    {β : Type} → (fs : Fields β) → (fs.Slots → Prop) → (β → Prop) → Prop
  | nil : FieldsKeep limit .nil (fun _ => True) (fun _ => True)
  | cons {α β : Type} {name : String} {d : Decoder α} {absent : Option α} {rest : Fields β}
      {P : α → Prop} {S : rest.Slots → Prop} {Q : β → Prop} :
      Keeps limit d P → (∀ a ∈ absent, P a) → FieldsKeep limit rest S Q →
        FieldsKeep limit (.cons name d absent rest)
          (fun slots : Option α × rest.Slots => (∀ a ∈ slots.1, P a) ∧ S slots.2)
          (fun b => P b.1 ∧ Q b.2)

variable {fs : Fields β} {S : fs.Slots → Prop} {Q : β → Prop}

theorem within_eq_ok {step : Step} {r : Result α} {a : α} (read : within step r = .ok a) :
    r = .ok a := by
  cases r with
  | ok b => exact read
  | error c => cases read

theorem FieldsKeep.empty (keep : FieldsKeep limit fs S Q) : S fs.empty := by
  induction keep with
  | nil => trivial
  | cons _ _ _ ih =>
    refine ⟨fun a given => ?_, ih⟩
    cases given

theorem FieldsKeep.put (keep : FieldsKeep limit fs S Q) {ctx : Context} {key : String} {n : Node}
    (within : Node.Within limit n) {slots filled : fs.Slots} (before : S slots)
    (put : fs.put ctx key n slots = some (.ok filled)) : S filled := by
  induction keep with
  | nil => cases put
  | @cons _ _ name _ _ _ _ _ _ keeps _ _ ih =>
    obtain ⟨slot, slots⟩ := slots
    obtain ⟨here, later⟩ := before
    rw [put_cons] at put
    by_cases same : key = name
    · rw [if_pos same] at put
      cases slot with
      | some _ => cases put
      | none =>
        obtain ⟨a, read, rfl⟩ := map_eq_ok_iff.mp (Option.some.inj put)
        refine ⟨?_, later⟩
        rintro _ ⟨⟩
        exact keeps ctx n a within (within_eq_ok read)
    · rw [if_neg same] at put
      obtain ⟨r, others, filled⟩ := Option.map_eq_some_iff.mp put
      obtain ⟨rest, rfl, rfl⟩ := map_eq_ok_iff.mp filled
      exact ⟨here, ih later others⟩

theorem FieldsKeep.take (keep : FieldsKeep limit fs S Q) {slots : fs.Slots} {b : β}
    (filled : S slots) (taken : fs.take slots = .ok b) : Q b := by
  induction keep with
  | nil => trivial
  | @cons _ _ _ _ absent _ _ _ _ _ default _ ih =>
    obtain ⟨slot, slots⟩ := slots
    obtain ⟨here, later⟩ := filled
    cases slot with
    | some a =>
      obtain ⟨others, rest, rfl⟩ := map_eq_ok_iff.mp taken
      exact ⟨here a rfl, ih later rest⟩
    | none =>
      cases absent with
      | none => cases taken
      | some a =>
        obtain ⟨others, rest, rfl⟩ := map_eq_ok_iff.mp taken
        exact ⟨default a rfl, ih later rest⟩

theorem FieldsKeep.members (keep : FieldsKeep limit fs S Q) {ctx : Context} {stop : Option Stop}
    {ms : List (Option String × Node)} (within : ∀ m ∈ ms, Node.Within limit m.2)
    {slots : fs.Slots} {b : β} (filled : S slots)
    (read : members ctx stop fs ms slots = .ok b) : Q b := by
  -- `S` holds of the slots after each member.
  induction ms generalizing slots with
  | nil =>
    cases stop with
    | none => exact keep.take filled read
    | some s => cases read
  | cons m ms ih =>
    obtain ⟨first, later⟩ := List.forall_mem_cons.mp within
    obtain ⟨key, n⟩ := m
    cases key with
    | none => cases read
    | some key =>
      rw [members_some] at read
      cases put : fs.put ctx key n slots with
      | none =>
        rw [put] at read
        obtain ⟨-, -, rest⟩ := bind_eq_ok_iff.mp read
        exact ih later filled rest
      | some r =>
        rw [put] at read
        cases r with
        | error c => cases read
        | ok slots => exact ih later (keep.put first filled put) read

theorem nextItem_keeps (keeps : Keeps limit d P) {ctx : Context} {stop : Option Stop} {index : Nat}
    {absent : Result α} (default : ∀ a, absent = .ok a → P a) {ns later : List Node}
    (within : ∀ n ∈ ns, Node.Within limit n) {a : α}
    (read : nextItem d ctx stop index absent ns = .ok (a, later)) :
    P a ∧ ∀ n ∈ later, Node.Within limit n := by
  cases ns with
  | nil =>
    cases stop with
    | some s => cases read
    | none =>
      obtain ⟨b, given, same⟩ := map_eq_ok_iff.mp read
      cases same
      exact ⟨default a given, by simp⟩
  | cons n ns =>
    obtain ⟨first, others⟩ := List.forall_mem_cons.mp within
    obtain ⟨b, decoded, same⟩ := map_eq_ok_iff.mp read
    cases same
    exact ⟨keeps ctx n a first (within_eq_ok decoded), others⟩

theorem FieldsKeep.takeItems (keep : FieldsKeep limit fs S Q) {ctx : Context} {stop : Option Stop}
    {wanted : String} {index : Nat} {ns later : List Node} (within : ∀ n ∈ ns, Node.Within limit n)
    {b : β} (read : fs.takeItems ctx stop wanted index ns = .ok (b, later)) : Q b := by
  induction keep generalizing index ns with
  | nil => trivial
  | @cons _ _ _ _ absent _ P _ _ keeps default _ ih =>
    obtain ⟨⟨a, ms⟩, first, read⟩ := bind_eq_ok_iff.mp read
    obtain ⟨⟨others, ks⟩, rest, read⟩ := bind_eq_ok_iff.mp read
    cases read
    have kept : P a ∧ ∀ n ∈ ms, Node.Within limit n := by
      refine nextItem_keeps keeps ?_ within first
      intro a given
      cases absent with
      | none => cases given
      | some b => exact Except.ok.inj given ▸ default b rfl
    exact ⟨kept.1, ih kept.2 rest⟩

theorem keeps_record (keep : FieldsKeep limit fs S Q) (title : String) {make : β → α}
    (makes : ∀ b, Q b → P (make b)) : Keeps limit (record title fs make) P := by
  intro ctx n a within decoded
  cases n with
  | object ms stop =>
    rw [record, enter] at decoded
    split at decoded
    · cases decoded
    · obtain ⟨b, read, rfl⟩ := map_eq_ok_iff.mp decoded
      exact makes b (keep.members within.members keep.empty read)
  | list ns stop =>
    rw [record, enter] at decoded
    split at decoded
    · cases decoded
    · obtain ⟨⟨b, later⟩, read, decoded⟩ := bind_eq_ok_iff.mp decoded
      obtain ⟨-, -, decoded⟩ := bind_eq_ok_iff.mp decoded
      cases decoded
      exact makes b (keep.takeItems within.items read)
  | _ =>
    simp only [record] at decoded
    exact absurd decoded mismatch_ne_ok

end DeployPlan.Json
