import Mediatheque.Criteria.Basic

/-!
# Fingerprints of criteria

By its fingerprint it is noticed that what was derived from criteria is out of date. A fingerprint
is the hash of the words that every condition is given as, one condition after another. What
becomes of the words is up to the hash function, of which no more is relied on than that it is a
function.
-/

namespace Mediatheque

/-- A word given to a hash function. -/
inductive HashWord where
  /-- A byte. -/
  | byte (b : UInt8)
  /-- A number of 32 bits. -/
  | word (n : UInt32)
  /-- A number of 32 bits, one of which is the sign. -/
  | signed (n : Int32)
  /-- Which alternative of a type was chosen. -/
  | choice (index : Nat)
  /-- How many items follow. -/
  | length (n : Nat)
  /-- The bits of an identifier. -/
  | bits (b : BitVec 128)
  deriving DecidableEq

/-- A type whose values can be given to a hash function. -/
class Hashed (α : Type) where
  /-- The words of a value. -/
  hashWords : α → List HashWord

open Hashed (hashWords)

/-! ### Values -/

instance : Hashed Bool := ⟨fun b => [.byte b.toUInt8]⟩

instance : Hashed UInt32 := ⟨fun n => [.word n]⟩

instance : Hashed Int32 := ⟨fun n => [.signed n]⟩

instance : Hashed StarRating := ⟨fun r => [.byte (.ofNat r.halfStars.val)]⟩

instance : Hashed Genre := ⟨fun g => hashWords g.number⟩

instance {kind : IdKind} : Hashed (Id kind) := ⟨fun id => [.bits id.uuid.bits]⟩

instance : Hashed MediaKind := ⟨fun k => [.choice k.ctorIdx]⟩

instance : Hashed ProductionStatus := ⟨fun s => [.choice s.ctorIdx]⟩

instance : Hashed ShowFormat := ⟨fun f => [.choice f.ctorIdx]⟩

/-! ### What holds values -/

variable {α : Type} [Hashed α]

instance : Hashed (Option α) where
  hashWords
    | none => [.choice 0]
    | some a => .choice 1 :: hashWords a

instance : Hashed (Interval α) := ⟨fun i => hashWords i.low ++ hashWords i.high⟩

instance [Ord α] : Hashed (SortedSet α) where
  hashWords s := .length s.size :: s.toList.flatMap hashWords

/-! ### Criteria -/

namespace Criteria

instance : Hashed Criteria where
  hashWords c :=
    hashWords c.isAdult ++ (hashWords c.kind ++ (hashWords c.rating ++ (hashWords c.year ++
      (hashWords c.seasonCount ++ (hashWords c.watched ++ (hashWords c.watchAgain ++
        (hashWords c.genres ++ (hashWords c.statuses ++ (hashWords c.formats ++
          hashWords c.tags)))))))))

/-- The fingerprint of criteria, under a hash function. -/
def fingerprint (hash : List HashWord → UInt64) (c : Criteria) : UInt64 := hash (hashWords c)

end Criteria

end Mediatheque
