import Mediatheque.Identity

/-!
# Identifiers are read back

An identifier is read back from its text: the groups of its digits are put together again
(`Uuid.ofGroups?_groups`), and 32 hexadecimal digits hold all of its bits (`Uuid.ofText?_toText`).
-/

namespace Mediatheque.Uuid

/-- Digits in groups with hyphens between are read like the digits. -/
theorem ofGroups?_groups {a b c d e : List Char} (ha : a.length = 8) (hb : b.length = 4)
    (hc : c.length = 4) (hd : d.length = 4) (he : e.length = 12) :
    ofGroups? (a ++ '-' :: b ++ '-' :: c ++ '-' :: d ++ '-' :: e) =
      ofDigits? (a ++ b ++ c ++ d ++ e) := by
  simp [ofGroups?, List.getElem?_append, List.drop_append, List.drop_eq_nil_of_le, ha, hb, hc, hd,
    he]

/-- An identifier is read back from its digits. -/
theorem ofDigits?_hexDigits (u : Uuid) : ofDigits? (Numeral.hexDigits 32 u.bits.toNat) = some u := by
  have small : u.bits.toNat < 2 ^ 128 := u.bits.isLt
  have value : u.bits.toNat % Nat.pow 16 32 = u.bits.toNat := Nat.mod_eq_of_lt small
  rw [ofDigits?, if_pos (Numeral.length_hexDigits _ _), Numeral.ofHex?_hexDigits, value,
    Option.map_some, BitVec.ofNat_toNat, BitVec.setWidth_eq]

/-- The groups into which digits are cut are the digits again. -/
theorem groups_eq {l : List Char} :
    l.take 8 ++ (l.drop 8).take 4 ++ (l.drop 12).take 4 ++ (l.drop 16).take 4 ++ l.drop 20 = l := by
  have two : l.take (8 + 4) = l.take 8 ++ (l.drop 8).take 4 := List.take_add
  have three : l.take (12 + 4) = l.take 12 ++ (l.drop 12).take 4 := List.take_add
  have four : l.take (16 + 4) = l.take 16 ++ (l.drop 16).take 4 := List.take_add
  rw [← two, ← three, ← four, List.take_append_drop]

/-- An identifier is read back from its text. -/
theorem ofText?_toText (u : Uuid) : ofText? u.toText = some u := by
  have width := Numeral.length_hexDigits 32 u.bits.toNat
  have digits := u.ofDigits?_hexDigits
  unfold toText
  generalize Numeral.hexDigits 32 u.bits.toNat = l at width digits ⊢
  have read := ofGroups?_groups (a := l.take 8) (b := (l.drop 8).take 4) (c := (l.drop 12).take 4)
    (d := (l.drop 16).take 4) (e := l.drop 20) (by simp [width]) (by simp [width])
    (by simp [width]) (by simp [width]) (by simp [width])
  rw [groups_eq, digits] at read
  unfold ofText?
  rw [if_neg (by simp [width]), if_pos (by simp [width])]
  exact read

end Mediatheque.Uuid
