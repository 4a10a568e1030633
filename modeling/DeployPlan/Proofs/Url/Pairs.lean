import DeployPlan.Proofs.Text.Pieces
import DeployPlan.Proofs.Url.Percent
import DeployPlan.Url.Segments

/-!
The pairs of a query. A server reads the query of an address as names and values between ampersands. A pair
that is added to an address is read as that pair, after those that were there.
-/

namespace DeployPlan

namespace Url

open Text (Utf8.encode Utf8.encodeChar)

/-- A name or value as bytes. Plus signs are blanks, and a percent sign with two digits is a byte. -/
def formDecode (cs : List Char) : List UInt8 :=
  percentDecode (cs.map fun c => if c = '+' then ' ' else c)

/-- A name and a value. Without an equals sign the value is empty. -/
def formPair (cs : List Char) : List UInt8 × List UInt8 :=
  match Text.cutAt? '=' cs with
  | some (name, value) => (formDecode name, formDecode value)
  | none => (formDecode cs, [])

/-- The pairs of a query, in order. Nothing between two ampersands is no pair. -/
def formPairs (cs : List Char) : List (List UInt8 × List UInt8) :=
  ((Text.piecesBy (· == '&') cs).filter (!·.isEmpty)).map formPair

def pairs (u : Url) : List (List UInt8 × List UInt8) :=
  formPairs ((u.query.getD "").toList)

theorem formPairs_append (before after : List Char) :
    formPairs (before ++ '&' :: after) = formPairs before ++ formPairs after := by
  have cut : Text.piecesBy (· == '&') (before ++ '&' :: after) =
      Text.piecesBy (· == '&') before ++ Text.piecesBy (· == '&') after :=
    Text.piecesBy_append rfl before after
  rw [formPairs, cut, List.filter_append, List.map_append]
  rfl

theorem formDecode_cons_of_plain {c : Char} (plain : EncodeSet.inForm c = false) (rest : List Char) :
    formDecode (c :: rest) = Utf8.encodeChar c ++ formDecode rest := by
  have no_plus : c ≠ '+' := by
    rintro rfl
    exact absurd plain (by decide)
  have no_percent : c ≠ '%' := by
    rintro rfl
    exact absurd plain (by decide)
  rw [formDecode, List.map_cons, if_neg no_plus, percentDecode_cons_of_ne no_percent]
  rfl

theorem upperHexDigit_ne_plus : ∀ n, n < 16 → Text.upperHexDigit n ≠ '+' := by decide

theorem formDecode_encodedByte (b : UInt8) (rest : List Char) :
    formDecode (encodedByte b ++ rest) = b :: formDecode rest := by
  have kept : ∀ c ∈ encodedByte b, (if c = '+' then ' ' else c) = id c := by
    intro c member
    apply if_neg
    rcases mem_encodedByte member with rfl | ⟨n, small, rfl⟩
    · decide
    · exact upperHexDigit_ne_plus n small
  rw [formDecode, List.map_append, List.map_congr_left kept, List.map_id, percentDecode_encodedByte]
  rfl

theorem formDecode_encodedBytes (bs : List UInt8) (rest : List Char) :
    formDecode (bs.flatMap encodedByte ++ rest) = bs ++ formDecode rest := by
  induction bs with
  | nil => rfl
  | cons b bs ih =>
    rw [List.flatMap_cons, List.append_assoc, formDecode_encodedByte, ih, List.cons_append]

theorem formDecode_formEncode (cs : List Char) : formDecode (formEncode cs) = Utf8.encode cs := by
  induction cs with
  | nil => rfl
  | cons c cs ih =>
    -- A blank, a character written as its bytes, or one that stands for itself.
    rw [Text.Utf8.encode_cons, ← ih, formEncode, List.flatMap_cons, ← formEncode]
    split
    · rename_i blank
      subst blank
      exact percentDecode_cons_of_ne (by decide) _
    · rw [encodedChar]
      split
      · exact formDecode_encodedBytes _ _
      · rename_i plain
        exact formDecode_cons_of_plain (eq_false_of_ne_true plain) _

theorem mem_formEncode {cs : List Char} {x : Char} (member : x ∈ formEncode cs) : x ≠ '&' ∧ x ≠ '=' := by
  have digit : ∀ n, n < 16 → Text.upperHexDigit n ≠ '&' ∧ Text.upperHexDigit n ≠ '=' := by decide
  obtain ⟨c, -, member⟩ := List.mem_flatMap.mp member
  split at member
  · cases List.mem_singleton.mp member
    decide
  · rcases mem_encodedChar member with plain | rfl | ⟨n, small, rfl⟩
    · constructor <;>
      · rintro rfl
        exact absurd plain (by decide)
    · decide
    · exact digit n small

theorem formPairs_pair (name value : List Char) :
    formPairs (formEncode name ++ '=' :: formEncode value) = [(Utf8.encode name, Utf8.encode value)] := by
  have whole : ∀ c ∈ formEncode name ++ '=' :: formEncode value, (c == '&') = false := by
    intro c member
    rw [beq_eq_false_iff_ne]
    rcases List.mem_append.mp member with inside | inside
    · exact (mem_formEncode inside).1
    · rcases List.mem_cons.mp inside with rfl | inside
      · decide
      · exact (mem_formEncode inside).1
  have solid : (formEncode name ++ '=' :: formEncode value).isEmpty = false := by simp
  rw [formPairs, Text.piecesBy_of_forall whole, List.filter_cons, solid]
  simp only [Bool.not_false, if_true, List.filter_nil, List.map_cons, List.map_nil, formPair,
    Text.cutAt?_append fun c inside => (mem_formEncode inside).2, formDecode_formEncode]

theorem pairs_withPair (u : Url) (name value : String) :
    (u.withPair name value).pairs = u.pairs ++ [(Utf8.encode name.toList, Utf8.encode value.toList)] ∧
      { u.withPair name value with query := u.query } = u := by
  refine ⟨?_, rfl⟩
  have pair := formPairs_pair name.toList value.toList
  unfold pairs withPair
  cases known : u.query with
  | none => simpa [formPairs, Text.piecesBy] using pair
  | some q =>
    simp only [Option.getD_some]
    split
    · rename_i blank
      obtain rfl : q = "" := by simpa using blank
      simpa [formPairs, Text.piecesBy] using pair
    · have ampersand : "&".toList = ['&'] := rfl
      simp only [String.toList_append, String.toList_ofList, ampersand, List.append_assoc,
        List.singleton_append]
      rw [formPairs_append, pair]

end Url

end DeployPlan
