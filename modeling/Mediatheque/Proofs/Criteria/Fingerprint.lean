import Mediatheque.Criteria.Fingerprint

/-!
# Nothing is left out of a fingerprint

The words of a value tell where they end and what the value is, whatever words come after them
(`LawfulHashed`). So criteria that differ in any condition are given to a hash function as different
words (`Criteria.hashWords_inj`), and if fingerprints agree under every hash function, then the
criteria do (`Criteria.fingerprint_eq_iff`).
-/

namespace Mediatheque

open Hashed (hashWords)

/-- A type whose values are found again at the front of their words. -/
class LawfulHashed (α : Type) [Hashed α] : Prop where
  /-- Words that begin with those of a value begin with those of no other value, and the words after
  them are told as well. -/
  cancel : ∀ {a b : α} {s t : List HashWord},
    hashWords a ++ s = hashWords b ++ t → a = b ∧ s = t

open LawfulHashed (cancel)

/-! ### Values -/

/-- A value that is told by a single word. -/
theorem lawfulHashed_of_single {α : Type} [Hashed α] {word : α → HashWord}
    (single : ∀ a : α, hashWords a = [word a]) (injective : ∀ {a b}, word a = word b → a = b) :
    LawfulHashed α where
  cancel {a b s t} h := by
    rw [single, single, List.singleton_append, List.singleton_append] at h
    obtain ⟨first, rest⟩ := List.cons.inj h
    exact ⟨injective first, rest⟩

instance : LawfulHashed Bool :=
  lawfulHashed_of_single (fun _ => rfl) fun {a b} h => by
    have bytes := HashWord.byte.inj h
    revert bytes
    cases a <;> cases b <;> decide

instance : LawfulHashed UInt32 := lawfulHashed_of_single (fun _ => rfl) HashWord.word.inj

instance : LawfulHashed Int32 := lawfulHashed_of_single (fun _ => rfl) HashWord.signed.inj

instance : LawfulHashed StarRating :=
  lawfulHashed_of_single (fun _ => rfl) fun {r r'} h => by
    have bytes := congrArg UInt8.toNat (HashWord.byte.inj h)
    rw [UInt8.toNat_ofNat', UInt8.toNat_ofNat'] at bytes
    have same : r.halfStars = r'.halfStars := Fin.ext (by omega)
    exact congrArg StarRating.mk same

instance : LawfulHashed Genre where
  cancel h := by
    obtain ⟨number, rest⟩ := cancel (α := UInt32) h
    exact ⟨congrArg Genre.mk number, rest⟩

instance {kind : IdKind} : LawfulHashed (Id kind) :=
  lawfulHashed_of_single (fun _ => rfl) fun {i i'} h => by
    have bits : i.uuid.bits = i'.uuid.bits := HashWord.bits.inj h
    exact congrArg (fun b => Id.mk (Uuid.mk b)) bits

instance : LawfulHashed MediaKind :=
  lawfulHashed_of_single (fun _ => rfl) fun {a b} h => by
    rw [← MediaKind.ofNat_ctorIdx a, HashWord.choice.inj h, MediaKind.ofNat_ctorIdx]

instance : LawfulHashed ProductionStatus :=
  lawfulHashed_of_single (fun _ => rfl) fun {a b} h => by
    rw [← ProductionStatus.ofNat_ctorIdx a, HashWord.choice.inj h, ProductionStatus.ofNat_ctorIdx]

instance : LawfulHashed ShowFormat :=
  lawfulHashed_of_single (fun _ => rfl) fun {a b} h => by
    rw [← ShowFormat.ofNat_ctorIdx a, HashWord.choice.inj h, ShowFormat.ofNat_ctorIdx]

/-! ### What holds values -/

variable {α : Type} [Hashed α] [LawfulHashed α]

instance : LawfulHashed (Option α) where
  cancel {a b s t} h := by
    cases a with
    | none =>
      cases b with
      | none => exact ⟨rfl, (List.cons.inj h).2⟩
      | some b => cases h
    | some a =>
      cases b with
      | none => cases h
      | some b =>
        obtain ⟨rfl, rest⟩ := cancel (List.cons.inj h).2
        exact ⟨rfl, rest⟩

instance : LawfulHashed (Interval α) where
  cancel {i i' s t} h := by
    obtain ⟨a, b⟩ := i
    obtain ⟨a', b'⟩ := i'
    have bounds : hashWords a ++ (hashWords b ++ s) = hashWords a' ++ (hashWords b' ++ t) := by
      rw [← List.append_assoc, ← List.append_assoc]
      exact h
    obtain ⟨rfl, high⟩ := cancel bounds
    obtain ⟨rfl, rest⟩ := cancel high
    exact ⟨rfl, rest⟩

/-- Lists of the same length are told by the words of their items. -/
theorem cancel_flatMap {l m : List α} {s t : List HashWord} (length : l.length = m.length)
    (h : l.flatMap hashWords ++ s = m.flatMap hashWords ++ t) : l = m ∧ s = t := by
  induction l generalizing m with
  | nil =>
    cases m with
    | nil => exact ⟨rfl, h⟩
    | cons b m => cases length
  | cons a l ih =>
    cases m with
    | nil => cases length
    | cons b m =>
      rw [List.flatMap_cons, List.flatMap_cons, List.append_assoc, List.append_assoc] at h
      obtain ⟨rfl, later⟩ := cancel h
      obtain ⟨rfl, rest⟩ := ih (Nat.succ.inj length) later
      exact ⟨rfl, rest⟩

instance [Ord α] : LawfulHashed (SortedSet α) where
  cancel {l m s t} h := by
    obtain ⟨length, h⟩ := List.cons.inj h
    obtain ⟨items, rest⟩ := cancel_flatMap (HashWord.length.inj length) h
    exact ⟨SortedBy.ext items, rest⟩

/-! ### Criteria -/

attribute [ext] Criteria

namespace Criteria

/-- The words of criteria tell every condition of them. -/
theorem hashWords_inj {c c' : Criteria} (h : hashWords c = hashWords c') : c = c' := by
  obtain ⟨isAdult, h⟩ := cancel h
  obtain ⟨kind, h⟩ := cancel h
  obtain ⟨rating, h⟩ := cancel h
  obtain ⟨year, h⟩ := cancel h
  obtain ⟨seasonCount, h⟩ := cancel h
  obtain ⟨watched, h⟩ := cancel h
  obtain ⟨watchAgain, h⟩ := cancel h
  obtain ⟨genres, h⟩ := cancel h
  obtain ⟨statuses, h⟩ := cancel h
  obtain ⟨formats, h⟩ := cancel h
  obtain ⟨tags, -⟩ := cancel (congrArg (· ++ []) h)
  exact Criteria.ext isAdult kind rating year seasonCount watched watchAgain genres statuses formats
    tags

/-- Fingerprints agree under every hash function just for the same criteria. -/
theorem fingerprint_eq_iff {c c' : Criteria} :
    (∀ hash, c.fingerprint hash = c'.fingerprint hash) ↔ c = c' := by
  constructor
  · intro h
    -- A hash function can single out the words of one of the two.
    have told := h fun words => if words = hashWords c then 0 else 1
    rw [fingerprint, fingerprint, if_pos rfl] at told
    refine hashWords_inj (Decidable.by_contra fun different => ?_)
    rw [if_neg (Ne.symm different)] at told
    cases told
  · rintro rfl hash
    rfl

end Criteria

end Mediatheque
