import Mathlib.Data.List.Forall2
import PageContext.Proofs.Success
import PageContext.Store.Memory

/-!
# Listings of a store

A listing is an answer with the records of a type, the featured ones among them, or the records that
a list record refers to.  Its records come from the store, the limit takes the first of them after
everything else is done, and opening the envelope takes the payload of each record that has one.
-/

namespace PageContext

namespace Envelope

/-- What stands for a record once the envelope is open. -/
inductive IsPayload : Json → Json → Prop where
  | data {record data : Json} (hasData : record.field? "Data" = some data) :
      IsPayload record data
  | whole {record : Json} (noData : record.field? "Data" = none) : IsPayload record record

theorem isPayload_payload (record : Json) : IsPayload record (payload record) := by
  rw [payload]
  cases hasData : record.field? "Data" with
  | some data => exact .data hasData
  | none => exact .whole hasData

theorem forall₂_isPayload (records : List Json) :
    List.Forall₂ IsPayload records (records.map payload) := by
  rw [List.forall₂_map_right_iff]
  exact List.forall₂_same.mpr fun record _ => isPayload_payload record

theorem unwrap_items (records : List Json) : unwrap (items records) = .array (records.map payload) :=
  rfl

end Envelope

namespace MemoryStore

/-- The records that a method lists for a target. -/
inductive Lists (store : MemoryStore) (target : String) : StoreMethod → List Json → Prop where
  | list : Lists store target .list (store.ofType target)
  | featured : Lists store target .featured (store.featured target)
  | highlighted {records : List Json} (isList : store.highlighted? target = some records) :
      Lists store target .highlighted records

/-! ## Where the records come from -/

theorem mem_records_of_mem_ofType {store : MemoryStore} {type : String} {record : Json}
    (member : record ∈ store.ofType type) : record ∈ store.records.map Prod.snd := by
  rw [ofType, List.mem_mergeSort] at member
  exact (List.mem_filter.mp member).1

theorem Lists.mem_records {store : MemoryStore} {target : String} {method : StoreMethod}
    {records : List Json} (lists : store.Lists target method records) {record : Json}
    (member : record ∈ records) : record ∈ store.records.map Prod.snd := by
  cases lists with
  | list => exact mem_records_of_mem_ofType member
  | featured => exact mem_records_of_mem_ofType (List.mem_filter.mp member).1
  | highlighted isList =>
      simp only [highlighted?, Option.bind_eq_bind, Option.bind_eq_some_iff, Option.pure_def,
        Option.some.injEq] at isList
      rcases isList with ⟨_, _, _, _, _, _, rfl⟩
      rcases List.mem_filterMap.mp member with ⟨id, _, found⟩
      exact List.mem_map.mpr ⟨_, Entries.mem_of_get? found, rfl⟩

/-! ## Answers -/

theorem limited_eq {params : Params} {limit : Option Nat}
    (isLimit : params.storeLimit? = .ok limit) (records : List Json) :
    limited params records = .ok (limit.elim records records.take) := by
  rw [limited, isLimit]
  cases limit <;> rfl

theorem Lists.answer_eq {store : MemoryStore} {target : String} {method : StoreMethod}
    {records : List Json} (lists : store.Lists target method records) (seed : Nat)
    (params : Params) :
    store.answer seed ⟨method, target, params⟩ = (limited params records).map Envelope.items := by
  rw [answer]
  cases lists with
  | list => cases limited params (store.ofType target) <;> rfl
  | featured => cases limited params (store.featured target) <;> rfl
  | @highlighted records isList =>
      simp only [isList]
      cases limited params records <;> rfl

end MemoryStore

end PageContext
