import PageContext.Json.Printer
import PageContext.Transform.Basic

/-!
# Removing duplicates

Of the records with one value of the deduplication field exactly one stays: the one with the best
priority, and of several with the same priority the first.  The records that stay keep their order.
Values count as one when their texts are equal; records without the field are duplicates of each
other.
-/

namespace PageContext.Transform

/-- A record with what decides whether it stays. -/
structure Candidate where
  /-- The text of the deduplication field. -/
  key : Option String
  /-- The place of its priority value among those of the rule; the first one is the best. -/
  rank : Nat
  record : Json
deriving Repr, Inhabited

/-- The value of a field that may not be given. -/
def fieldNamed? (name : Option String) (record : Json) : Option Json :=
  name.bind fun name => record.field? name

/-- The place of the priority value of a record; values that the rule does not list come last. -/
def rank (rule : DedupRule) (record : Json) : Nat :=
  match fieldNamed? rule.priorityField record with
  | some value => rule.priorityValues.findIdx fun listed => listed.same value
  | none => rule.priorityValues.length

def candidate (rule : DedupRule) (record : Json) : Candidate where
  key := (fieldNamed? rule.dedupField record).map Json.compact
  rank := rank rule record
  record := record

/-- Whether a candidate gives way to an earlier one. -/
def yieldsToEarlier (later earlier : Candidate) : Bool :=
  earlier.key == later.key && earlier.rank ≤ later.rank

/-- Whether a candidate gives way to a later one. -/
def yieldsToLater (earlier later : Candidate) : Bool :=
  earlier.key == later.key && later.rank < earlier.rank

/-- The candidates that stay; `earlier` holds those in front of the list. -/
def survivors (earlier : List Candidate) : List Candidate → List Candidate
  | [] => []
  | current :: later =>
      let following := survivors (current :: earlier) later
      if earlier.any (yieldsToEarlier current) || later.any (yieldsToLater current) then following
      else current :: following

def withoutDuplicates (rule : DedupRule) (records : List Json) : List Json :=
  (survivors [] (records.map (candidate rule))).map Candidate.record

end PageContext.Transform
