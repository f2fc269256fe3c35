import Mathlib.Data.List.Lex
import ShapeBinding.Proofs.Schema.Frame
/-!
# The order of texts by their bytes

The library compares texts character by character.  Their UTF-8 bytes, compared one by one, give the same order
(`utf8Before_iff`): of two characters the smaller one is found out by the first byte in which they differ, whatever
follows them (`bytesBefore_utf8EncodeChar`).
-/
namespace ShapeBinding

/-- Bytes are compared as numbers, and earlier ones count more. -/
def BytesBefore : List UInt8 → List UInt8 → Prop := List.Lex fun a b => a.toNat < b.toNat

/-- **The order of texts by their UTF-8 bytes.** -/
def Utf8Before (s t : String) : Prop := BytesBefore (utf8 s) (utf8 t)

theorem not_utf8Before_self (s : String) : ¬ Utf8Before s s :=
  List.lex_irrefl (r := fun a b : UInt8 => a.toNat < b.toNat) (fun _ => Nat.lt_irrefl _) (utf8 s)

theorem Utf8Before.asymm {s t : String} (h : Utf8Before s t) : ¬ Utf8Before t s :=
  List.lex_asymm (fun hab => Nat.lt_asymm hab) h

theorem toNat_ofNat_of_lt {n : Nat} (hn : n < 256) : (UInt8.ofNat n).toNat = n := by
  rw [UInt8.toNat_ofNat', Nat.mod_eq_of_lt hn]

theorem ofNat_eq_ofNat_iff {m n : Nat} (hm : m < 256) (hn : n < 256) : UInt8.ofNat m = UInt8.ofNat n ↔ m = n := by
  rw [← UInt8.toNat_inj, toNat_ofNat_of_lt hm, toNat_ofNat_of_lt hn]

theorem toNat_val_lt (c : Char) : c.val.toNat < 0x110000 := by
  have hvalid := c.valid
  unfold UInt32.isValidChar Nat.isValidChar at hvalid
  omega

/-- **The bytes of a smaller character come first**, whatever stands behind them. -/
theorem bytesBefore_utf8EncodeChar {c d : Char} (h : c < d) (x y : List UInt8) :
    BytesBefore (String.utf8EncodeChar c ++ x) (String.utf8EncodeChar d ++ y) := by
  have hlt : c.val.toNat < d.val.toNat := h
  have hd := toNat_val_lt d
  have hsquare : ∀ k, k / 4096 = k / 64 / 64 := fun k => by rw [Nat.div_div_eq_div_mul]
  have hcube : ∀ k, k / 262144 = k / 64 / 64 / 64 := fun k => by rw [Nat.div_div_eq_div_mul, Nat.div_div_eq_div_mul]
  unfold BytesBefore String.utf8EncodeChar
  simp only [hsquare, hcube]
  generalize c.val.toNat = m at *
  generalize d.val.toNat = n at *
  -- One case for each number of bytes of either character: if they differ, so do the leading bytes, and if not, the
  -- bytes are the places of the two numbers to the base 64.
  split <;> split <;> (try split) <;> (try split) <;> (try split) <;> (try split)
  all_goals
    simp (disch := omega) only [List.cons_append, List.cons_lex_cons_iff, toNat_ofNat_of_lt, ofNat_eq_ofNat_iff]
    omega

theorem bytesBefore_flatMap {cs ds : List Char} (h : List.Lex (· < ·) cs ds) :
    BytesBefore (cs.flatMap String.utf8EncodeChar) (ds.flatMap String.utf8EncodeChar) := by
  induction h with
  | @nil d ds =>
    obtain ⟨b, bs, hbytes⟩ := List.exists_cons_of_ne_nil (String.utf8EncodeChar_ne_nil (c := d))
    rw [List.flatMap_nil, List.flatMap_cons, hbytes]
    exact .nil
  | rel hcd => exact bytesBefore_utf8EncodeChar hcd _ _
  | cons _ ih => exact List.Lex.append_left _ ih _

theorem utf8Before_of_lt {s t : String} (h : s < t) : Utf8Before s t := by
  unfold Utf8Before
  rw [← String.ofList_toList (s := s), ← String.ofList_toList (s := t), utf8_ofList, utf8_ofList]
  exact bytesBefore_flatMap h

/-- **The order by bytes is the order by characters.** -/
theorem utf8Before_iff {s t : String} : Utf8Before s t ↔ s < t := by
  constructor
  · intro h
    by_cases hts : t < s
    · exact absurd h (utf8Before_of_lt hts).asymm
    · by_cases hst : s < t
      · exact hst
      · obtain rfl := String.le_antisymm (String.not_lt.1 hts) (String.not_lt.1 hst)
        exact absurd h (not_utf8Before_self s)
  · exact utf8Before_of_lt

end ShapeBinding
