import Mediatheque.Listing.MediaList

/-!
# Stores

A store that holds all of its records, one version of each. It answers every request from
the definitions alone: the records that the predicate holds of, sorted by the order.
-/

namespace Mediatheque

/-- A collection of records with distinct identities. -/
abbrev Store := SortedBy MediaRecord.id

namespace Store

/-- The store of some records; of several versions of a record the last one stays. -/
def ofRecords (l : List MediaRecord) : Store := SortedBy.ofList l

/-- The current version of a record. -/
def get? (s : Store) (id : MediaId) : Option MediaRecord := s.find? id

/-- The store with a record instead of its version before. -/
def upsert (s : Store) (r : MediaRecord) : Store := s.insert r

/-- The store without a record. -/
def remove (s : Store) (id : MediaId) : Store := s.erase id

/-- The records that a predicate holds of, in an order. -/
def select (s : Store) (p : Predicate) (o : SortOrder) : List MediaRecord :=
  o.sort (s.toList.filter fun r => p.holds r)

/-- The store as it answers requests; it never fails. -/
def fetch (s : Store) : Fetch := fun p o => .ok (s.select p o)

end Store

/-- A store that cannot be reached. -/
def unreachable (reason : String) : Fetch := fun _ _ => .error (.storage reason)

end Mediatheque
